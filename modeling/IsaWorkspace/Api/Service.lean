import IsaWorkspace.Api.Handlers
import IsaWorkspace.Firecracker.Handle
import IsaWorkspace.Foundations.Interleaving
import IsaWorkspace.StateStore.GarbageCollection

/-
  The service of the API with the requests on it.

  The service keeps its states in memory, next to the VMs it
  has created and the collector of the store.  A request is a
  call that takes at most two atomic steps: what it reads is
  one, and what it then writes or boots is another.  Requests
  are interleaved with each other and with the collector.

  Main declarations:
    * `ApiService`, `ApiService.new`
    * `ApiService.takeSnapshot`, `ApiService.keepSnapshot`
    * `ApiService.originalState`, `ApiService.bootOriginal`
    * `ApiService.keepFork`, `ApiService.deleteState`
    * `ApiService.listStates`, `ApiService.getStatus`
    * `ApiCall`, `ApiCall.step`
    * `ApiEvent`, `ApiSystem.step`
-/

------------------------------------------------------------
-- Shared Application State
------------------------------------------------------------

namespace IsaWorkspace

/- The text of an error of a VM. -/
def VMError.text : VMError → String
| .ioError message => "IO error: " ++ message
| .apiError message => "API error: " ++ message
| .notFound message => "Not found: " ++ message
| .serializationError message =>
    "Serialization error: " ++ message

def FirecrackerConfig.default : FirecrackerConfig where
  binaryPath := "/usr/bin/firecracker"
  workspaceRoot := "/tmp/isa-workspace"

def StateStoreConfig.default : StateStoreConfig where
  cacheSizeLimit := 1024 * 1024 * 1024

/- What the requests read and change. -/
structure ApiService where
  collector : Collector MemoryBackend
  firecrackerConfig : FirecrackerConfig
  vms : HashMap String VmWorld
  recording : Bool

namespace ApiService

/- A new service with default configurations. -/
def new
    (now : DateTime) : ApiService where
  collector :=
    { store := .new .default .new
      now := now
      pending := [] }
  firecrackerConfig := .default
  vms := ∅
  recording := true

/- The store of the service. -/
def store
    (service : ApiService) : StateStore MemoryBackend :=
  service.collector.store

def withStore
    (service : ApiService)
    (store : StateStore MemoryBackend) : ApiService :=
  { service with
    collector := { service.collector with store := store } }

@[simp] theorem withStore_store
    (service : ApiService)
    (store : StateStore MemoryBackend) :
    (service.withStore store).store = store := rfl

@[simp] theorem withStore_vms
    (service : ApiService)
    (store : StateStore MemoryBackend) :
    (service.withStore store).vms = service.vms := rfl

/- Call the store. -/
def onStore
    {α : Type}
    (call :
      Exec (StateStore MemoryBackend) StateStoreError α) :
    Exec ApiService StateStoreError α :=
  Exec.onPart ApiService.store ApiService.withStore call

/- Create a new VM instance. -/
def createVm
    (instanceId : String)
    (config : VMConfig)
    (guest : GuestState) :
    Exec ApiService VMError Unit :=
  Exec.update fun service =>
    { service with
      vms :=
        service.vms.insert instanceId
          { handle :=
              .new instanceId config service.firecrackerConfig
            guest := guest } }

/- Call a VM through its entry, which has to be there. -/
def onVm
    {α : Type}
    (instanceId : String)
    (call : Exec VmWorld VMError α) :
    Exec ApiService VMError α :=
  fun service =>
    match service.vms.lookup instanceId with
    | none => (.panicked, service)
    | some world =>
        ((call world).1,
          { service with
            vms :=
              service.vms.insert instanceId (call world).2 })

/- Refuse a request where an inner call fails. -/
def orInternalError
    {σ ε α : Type}
    (describe : String)
    (text : ε → String)
    (call : Exec σ ε α) : Exec σ Refusal α :=
  Exec.mapErr
    (fun error =>
      refusal .internalServerError
        (describe ++ ": " ++ text error))
    call

end ApiService

end IsaWorkspace

------------------------------------------------------------
-- Requests and Responses
------------------------------------------------------------

namespace IsaWorkspace

structure SnapshotRequest where
  label : String
  ttl : Option String

structure SnapshotResponse where
  stateId : String
deriving DecidableEq

structure ResumeRequest where
  stateId : String
  mode : Option String
  region : Option String

structure ResumeResponse where
  accepted : Bool
  targetRegion : String
  mode : String
deriving DecidableEq

structure DeleteResponse where
  success : Bool
  stateId : String
deriving DecidableEq

/- What is listed of a stored state. -/
structure ListedState where
  stateId : String
  label : String
  createdAt : DateTime
  sizeBytes : Nat
  expiresAt : Option DateTime
deriving DecidableEq

structure ListResponse where
  count : Nat
  states : List ListedState
deriving DecidableEq

structure StatusResponse where
  status : String
  storedStates : Nat
  logEntries : Nat
  timestamp : DateTime
deriving DecidableEq

/-
  What a snapshot is given from outside: the ids, what is
  answered to its VM, what the proxy and the logger hold, and
  the readings of the clock.
-/
structure SnapshotFresh where
  instanceId : String
  guest : GuestState
  boot : VMHandle.BootAnswers
  snapshot : VMHandle.SnapshotAnswers
  stateId : String
  fdTable : List FDDescriptor
  socketTable : List SocketDescriptor
  deterministicLog : EventLog
  stream : Uuid
  createdAt : DateTime
  now : DateTime
  storedAt : DateTime

/- What a resume is given from outside. -/
structure ResumeFresh where
  instanceId : String
  guest : GuestState
  boot : VMHandle.BootAnswers

/- The configuration of every VM that is snapshotted. -/
def snapshotVmConfig : VMConfig where
  vcpus := 2
  memoryMb := 512
  kernelImage := "/tmp/vmlinux.bin"
  rootfsImage := "/tmp/rootfs.ext4"

/- The state that a snapshot amounts to. -/
def snapshotState
    (payload : SnapshotRequest)
    (fresh : SnapshotFresh)
    (ttlSeconds : Option UInt64)
    (vmSnapshot : VMSnapshot) : State where
  stateId := ⟨fresh.stateId⟩
  vmConfig := snapshotVmConfig
  cpuState := vmSnapshot.cpuState
  memoryManifest := vmSnapshot.memoryManifest
  fdTable := fresh.fdTable
  socketTable := fresh.socketTable
  deviceState := []
  deterministicLog := fresh.deterministicLog
  uiState := { streamId := fresh.stream }
  metadata :=
    { label := payload.label
      createdAt := fresh.createdAt
      ttlSeconds := ttlSeconds }

end IsaWorkspace

------------------------------------------------------------
-- Handlers
------------------------------------------------------------

namespace IsaWorkspace

namespace ApiService

/-
  Create a snapshot, up to where its state is to be stored.
  The VMs are locked from before the VM is created, and no
  other request acts on them in between.
-/
def takeSnapshot
    [BuildProfile] [PathDebug]
    (payload : SnapshotRequest)
    (fresh : SnapshotFresh) :
    Exec ApiService Refusal State := do
  if payload.label = "" then
    Exec.fail (refusal .badRequest "label is required")
  else
    let ttlSeconds ← Exec.ofOutcome (parseTtl payload.ttl)
    orInternalError "Failed to create VM" VMError.text
      (createVm fresh.instanceId snapshotVmConfig fresh.guest)
    orInternalError "Failed to boot VM" VMError.text
      (onVm fresh.instanceId (VMHandle.boot fresh.boot))
    let vmSnapshot ←
      orInternalError "Failed to snapshot VM" VMError.text
        (onVm fresh.instanceId
          (VMHandle.snapshot fresh.snapshot))
    pure (snapshotState payload fresh ttlSeconds vmSnapshot)

/- Store the state of a snapshot. -/
def keepSnapshot
    [Sha256] [SerdeJson State]
    (now storedAt : DateTime)
    (newState : State) :
    Exec ApiService Refusal SnapshotResponse := do
  let _ ←
    orInternalError "Failed to store state"
      StateStoreError.text
      (onStore (StateStore.storeState now storedAt newState))
  pure { stateId := newState.stateId.id }

/- The state that a resume or a fork starts from. -/
def originalState
    [SerdeJson State]
    (stateId : String) :
    Exec ApiService Refusal State := do
  if stateId = "" then
    Exec.fail (refusal .badRequest "state_id is required")
  else
    Exec.mapErr
      (fun error =>
        refusal .notFound
          ("State not found: " ++ error.text))
      (onStore (StateStore.getState ⟨stateId⟩))

/- Boot a VM for the state of a resume. -/
def bootOriginal
    [PathDebug]
    (payload : ResumeRequest)
    (fresh : ResumeFresh)
    (original : State) :
    Exec ApiService Refusal ResumeResponse := do
  orInternalError "Failed to create VM" VMError.text
    (createVm fresh.instanceId original.vmConfig fresh.guest)
  orInternalError "Failed to boot VM" VMError.text
    (onVm fresh.instanceId (VMHandle.boot fresh.boot))
  Exec.update fun service =>
    { service with recording := false }
  pure
    { accepted := true
      targetRegion := payload.region.getD "nearest"
      mode := payload.mode.getD "collaborative" }

/- Store the state of a fork. -/
def keepFork
    [Sha256] [SerdeJson State]
    (now storedAt : DateTime)
    (newState : State) :
    Exec ApiService Refusal ForkResponse := do
  let _ ←
    orInternalError "Failed to store forked state"
      StateStoreError.text
      (onStore (StateStore.storeState now storedAt newState))
  pure { stateId := newState.stateId.id }

/- The text at a key of an object, if there is one. -/
def textAt
    (key : String) : JsonValue → Option String
| .object fields =>
    match fields.lookup key with
    | some (.string text) => some text
    | _ => none
| _ => none

/- Delete a state, which need not be there. -/
def deleteState
    (payload : JsonValue) :
    Exec ApiService Refusal DeleteResponse := do
  match textAt "state_id" payload with
  | none =>
      Exec.fail (refusal .badRequest "state_id is required")
  | some stateId =>
      orInternalError "Failed to delete state"
        StateStoreError.text
        (onStore (StateStore.deleteState ⟨stateId⟩))
      pure { success := true, stateId := stateId }

/- The entries in the order in which they are visited. -/
def entriesIn
    (order : List StateId)
    (service : ApiService) : List StoredState :=
  order.filterMap fun stateId =>
    service.store.index.lookup stateId

/- List all states. -/
def listStates
    (order : List StateId)
    (service : ApiService) : ListResponse :=
  let states :=
    (service.entriesIn order).map fun stored =>
      { stateId := stored.stateId.id
        label := stored.metadata.label
        createdAt := stored.createdAt
        sizeBytes := stored.sizeBytes
        expiresAt := stored.expiresAt }
  { count := states.length, states := states }

/- Get the status of the system. -/
def getStatus
    (order : List StateId)
    (logEntries : Nat)
    (timestamp : DateTime)
    (service : ApiService) : StatusResponse where
  status := "healthy"
  storedStates := (service.entriesIn order).length
  logEntries := logEntries
  timestamp := timestamp

end ApiService

end IsaWorkspace

------------------------------------------------------------
-- Calls
------------------------------------------------------------

namespace IsaWorkspace

/- A request, and how far it has come. -/
inductive ApiCall where
  | snapshot
      (payload : SnapshotRequest)
      (fresh : SnapshotFresh)
  | storing
      (instanceId : String)
      (newState : State)
      (now storedAt : DateTime)
  | snapshotted
      (instanceId : String)
      (newState : State)
      (response : SnapshotResponse)
  | resume (payload : ResumeRequest) (fresh : ResumeFresh)
  | booting
      (payload : ResumeRequest)
      (fresh : ResumeFresh)
      (original : State)
  | resumed
      (instanceId : String)
      (original : State)
      (response : ResumeResponse)
  | fork (payload : ForkRequest) (fresh : ForkFresh)
  | copying
      (original newState : State)
      (now storedAt : DateTime)
  | forked
      (original newState : State)
      (response : ForkResponse)
  | delete (payload : JsonValue)
  | deleted (response : DeleteResponse)
  | list (order : List StateId)
  | listed (response : ListResponse)
  | status
      (order : List StateId)
      (logEntries : Nat)
      (timestamp : DateTime)
  | reported (response : StatusResponse)
  | refused (answer : Refusal)
  | panicked

namespace ApiCall

/- Where a call is after a step of a handler. -/
def advance
    {α : Type}
    (result : Outcome Refusal α × ApiService)
    (next : α → ApiCall) : ApiCall × ApiService :=
  match result with
  | (.ok value, after) => (next value, after)
  | (.err answer, after) => (.refused answer, after)
  | (.panicked, after) => (.panicked, after)

variable [BuildProfile] [PathDebug]
variable [Sha256] [SerdeJson State]

/- The next step of a call. -/
def step
    (call : ApiCall)
    (service : ApiService) : ApiCall × ApiService :=
  match call with
  | .snapshot payload fresh =>
      advance
        (ApiService.takeSnapshot payload fresh service)
        fun newState =>
          .storing fresh.instanceId newState fresh.now
            fresh.storedAt
  | .storing instanceId newState now storedAt =>
      advance
        (ApiService.keepSnapshot now storedAt newState
          service)
        fun response =>
          .snapshotted instanceId newState response
  | .resume payload fresh =>
      advance
        (ApiService.originalState payload.stateId service)
        fun original => .booting payload fresh original
  | .booting payload fresh original =>
      advance
        (ApiService.bootOriginal payload fresh original
          service)
        fun response =>
          .resumed fresh.instanceId original response
  | .fork payload fresh =>
      advance
        (ApiService.originalState payload.stateId service)
        fun original =>
          .copying original
            (forkedState payload fresh original)
            fresh.now fresh.storedAt
  | .copying original newState now storedAt =>
      advance
        (ApiService.keepFork now storedAt newState service)
        fun response => .forked original newState response
  | .delete payload =>
      advance
        (ApiService.deleteState payload service)
        fun response => .deleted response
  | .list order =>
      (.listed (service.listStates order), service)
  | .status order logEntries timestamp =>
      (.reported
          (service.getStatus order logEntries timestamp),
        service)
  | done => (done, service)

end ApiCall

end IsaWorkspace

------------------------------------------------------------
-- The System
------------------------------------------------------------

namespace IsaWorkspace

/- The requests that have come in, and the service. -/
abbrev ApiSystem : Type :=
  Interleaved ApiService ApiCall

/-
  What happens next: a request takes its next step, or the
  collector scans the index or removes a state it collected.
-/
inductive ApiEvent where
  | call (position : Nat)
  | scan (now : DateTime) (order : List StateId)
  | remove

namespace ApiSystem

/- New requests on a new service. -/
def start
    (now : DateTime)
    (calls : List ApiCall) : ApiSystem where
  shared := .new now
  calls := calls

variable [BuildProfile] [PathDebug]
variable [Sha256] [SerdeJson State]

/- Let the collector of the store take a step. -/
def collect
    (event : GcEvent)
    (system : ApiSystem) : ApiSystem :=
  { system with
    shared :=
      { system.shared with
        collector := system.shared.collector.step event } }

def step
    (system : ApiSystem) : ApiEvent → ApiSystem
| .call position =>
    Interleaved.step ApiCall.step system position
| .scan now order => system.collect (.scan now order)
| .remove => system.collect .remove

end ApiSystem

/- A request as it comes in. -/
def ApiCall.IsRequest : ApiCall → Prop
| .snapshot _ _ | .resume _ _ | .fork _ _ | .delete _
| .list _ | .status _ _ _ => True
| _ => False

end IsaWorkspace
