import IsaWorkspace.Firecracker.Handle
import IsaWorkspace.Foundations.HashMap
import IsaWorkspace.Foundations.Interleaving
import IsaWorkspace.Foundations.Runs

/-
  VMs as processes of the host, and the manager of them.

  A VM that is started spawns a process and waits for its
  socket.  The manager registers a VM after its start, and
  takes it out before it is stopped.  Starts run outside the
  lock of the manager, so that calls are interleaved, and
  processes may exit by themselves at any time.

  Main declarations:
    * `VmProcess.FirecrackerVM`, `VmProcess.VmHost`
    * `FirecrackerVM.start`, `FirecrackerVM.stop`
    * `VmProcess.VMManager`, `VmProcess.ManagerHost`
    * `VmProcess.VmCall`, `VmProcess.phaseStep`
    * `VmProcess.ProcessAction`, `VmProcess.step`
-/

------------------------------------------------------------
-- One VM
------------------------------------------------------------

namespace IsaWorkspace

namespace VmProcess

/- The number of a process. -/
abbrev Pid := Nat

/- Firecracker process configuration. -/
structure FirecrackerProcessConfig where
  workspaceRoot : String
deriving DecidableEq

inductive VMStatus where
  | notStarted
  | starting
  | running
  | stopping
  | stopped
  | failed
deriving DecidableEq

/- VM errors. -/
inductive VMError where
  | ioError (message : String)
  | spawnError (message : String)
  | killError (message : String)
  | timeout (message : String)
  | serializationError (message : String)
deriving DecidableEq

/- Actual running Firecracker VM. -/
structure FirecrackerVM where
  vmId : String
  config : FirecrackerProcessConfig
  socketPath : String
  pidFile : String
  stateDir : String
  child : Option Pid
  status : VMStatus
deriving DecidableEq

namespace FirecrackerVM

/- Create a new VM instance (doesn't start it). -/
def new
    (vmId : String)
    (config : FirecrackerProcessConfig) : FirecrackerVM :=
  let stateDir :=
    LocalBackend.join config.workspaceRoot vmId
  { vmId := vmId
    config := config
    socketPath :=
      LocalBackend.join stateDir "firecracker.sock"
    pidFile := LocalBackend.join stateDir "firecracker.pid"
    stateDir := stateDir
    child := none
    status := .notStarted }

end FirecrackerVM

/- A VM and the processes that run on its host. -/
structure VmHost where
  vm : FirecrackerVM
  live : List Pid
deriving DecidableEq

/-
  What the system answers to a start: errors of the steps, a
  process, and whether its socket is ready in time.
-/
structure StartAnswers where
  createDir : Option String
  serialize : Option String
  writeConfig : Option String
  spawn : Except String Pid
  socketReady : Bool

namespace FirecrackerVM

/- A step that may fail, as it is told. -/
def attempt
    (wrap : String → VMError)
    (answer : Option String) : Exec VmHost VMError Unit :=
  match answer with
  | some error => Exec.fail (wrap error)
  | none => pure ()

def setStatus
    (status : VMStatus) : Exec VmHost VMError Unit :=
  Exec.update fun host =>
    { host with vm := { host.vm with status := status } }

/-
  The network device of a VM, after the first eight bytes of
  its id; `none` is the panic of a slice that is too long or
  ends inside a character.
-/
def hostDevName
    (vmId : String) : Option String :=
  (LocalBackend.byteSlice 8 vmId.toList).map fun start =>
    "tap-" ++ String.ofList start

/- Wait for the API socket, for five seconds at most. -/
def waitForSocket
    [PathDebug]
    (ready : Bool) : Exec VmHost VMError Unit := do
  let host ← Exec.read
  if ready then
    pure ()
  else
    Exec.fail
      (.timeout
        ("Socket " ++ PathDebug.debug host.vm.socketPath ++
          " not ready within 5s"))

/- Spawn the process; the one there was is let go. -/
def spawned
    (pid : Pid) : Exec VmHost VMError Unit :=
  Exec.update fun host =>
    { vm :=
        { host.vm with
          child := some pid
          status := .starting }
      live := pid :: host.live }

/- Actually spawn the Firecracker process. -/
def start
    [PathDebug]
    (answers : StartAnswers) :
    Exec VmHost VMError Unit := do
  let host ← Exec.read
  attempt
    (fun error =>
      .ioError ("Failed to create state dir: " ++ error))
    answers.createDir
  let _ ← Exec.orPanic (hostDevName host.vm.vmId)
  attempt .serializationError answers.serialize
  attempt
    (fun error => .ioError ("Failed to write config: " ++ error))
    answers.writeConfig
  let pid ←
    Exec.ofExcept
      (fun error =>
        .spawnError ("Failed to spawn firecracker: " ++ error))
      answers.spawn
  spawned pid
  waitForSocket answers.socketReady
  setStatus .running

/- Kill a process and wait for its exit. -/
def killed
    (pid : Pid)
    (kill : Option String) : Exec VmHost VMError Unit := do
  attempt
    (fun error =>
      .killError ("Failed to kill firecracker: " ++ error))
    kill
  Exec.update fun host =>
    { host with
      live := host.live.filter fun other =>
        decide (other ≠ pid) }

/- Stop the VM (kill process). -/
def stop
    (kill : Option String) : Exec VmHost VMError Unit := do
  setStatus .stopping
  let host ← Exec.read
  match host.vm.child with
  | some pid => do
      -- The child is taken before the attempt to kill it.
      Exec.update fun host =>
        { host with vm := { host.vm with child := none } }
      killed pid kill
  | none => pure ()
  setStatus .stopped

/-
  A VM that is let go while it runs blocks on its stop; as
  this happens on a thread of the runtime, it panics.
-/
def drop
    (vm : FirecrackerVM) : Outcome VMError Unit :=
  if vm.status = .running then .panicked else .ok ()

end FirecrackerVM

------------------------------------------------------------
-- The Manager
------------------------------------------------------------

/- VM Manager - manages multiple VMs. -/
structure VMManager where
  vms : HashMap String FirecrackerVM
  defaultConfig : FirecrackerProcessConfig

namespace VMManager

def new
    (defaultConfig : FirecrackerProcessConfig) :
    VMManager where
  vms := ∅
  defaultConfig := defaultConfig

/- Get VM status. -/
def getVmStatus
    (manager : VMManager)
    (vmId : String) : Option VMStatus :=
  (manager.vms.lookup vmId).map (·.status)

end VMManager

/- A manager and the processes that run on its host. -/
structure ManagerHost where
  manager : VMManager
  live : List Pid

/- A call of the manager, and how far it has come. -/
inductive VmCall where
  | creating (vmId : String) (answers : StartAnswers)
  | started (vm : FirecrackerVM)
  | created (outcome : Outcome VMError String)
  | stopping (vmId : String) (kill : Option String)
  | stopped (outcome : Outcome VMError Unit)

/- The outcome of a call for a VM, for its id. -/
def createdFor
    (vmId : String) :
    Outcome VMError Unit → Outcome VMError String
| .ok () => .ok vmId
| .err error => .err error
| .panicked => .panicked

/- Start a new VM, outside the lock of the manager. -/
def startNew
    [PathDebug]
    (vmId : String)
    (answers : StartAnswers)
    (host : ManagerHost) : VmCall × ManagerHost :=
  let vm :=
    FirecrackerVM.new vmId host.manager.defaultConfig
  match FirecrackerVM.start answers ⟨vm, host.live⟩ with
  | (.ok (), after) =>
      (.started after.vm, { host with live := after.live })
  | (outcome, after) =>
      -- The VM is let go; it is not running.
      (.created (createdFor vmId outcome),
        { host with live := after.live })

/- Register a VM; one under the same id is let go. -/
def register
    (vm : FirecrackerVM)
    (host : ManagerHost) : VmCall × ManagerHost :=
  let after :=
    { host with
      manager :=
        { host.manager with
          vms := host.manager.vms.insert vm.vmId vm } }
  match host.manager.vms.lookup vm.vmId with
  | some old => (.created (createdFor vm.vmId old.drop), after)
  | none => (.created (.ok vm.vmId), after)

/- Stop and remove a VM, under the lock of the manager. -/
def stopAndRemoveVm
    (vmId : String)
    (kill : Option String)
    (host : ManagerHost) : VmCall × ManagerHost :=
  match host.manager.vms.lookup vmId with
  | none =>
      (.stopped
          (.err (.ioError ("VM " ++ vmId ++ " not found"))),
        host)
  | some vm =>
      let ended := FirecrackerVM.stop kill ⟨vm, host.live⟩
      (.stopped ended.1,
        { manager :=
            { host.manager with
              vms := host.manager.vms.erase vmId }
          live := ended.2.live })

/- The next step of a call. -/
def phaseStep
    [PathDebug]
    (call : VmCall)
    (host : ManagerHost) : VmCall × ManagerHost :=
  match call with
  | .creating vmId answers => startNew vmId answers host
  | .started vm => register vm host
  | .stopping vmId kill => stopAndRemoveVm vmId kill host
  | .created _ => (call, host)
  | .stopped _ => (call, host)

------------------------------------------------------------
-- Interleaved Calls
------------------------------------------------------------

/- A call goes on, or a process exits by itself. -/
inductive ProcessAction where
  | proceed (position : Nat)
  | exits (pid : Pid)
deriving DecidableEq

/- A manager with all calls that are made on it. -/
abbrev ManagedVms := Interleaved ManagerHost VmCall

def step
    [PathDebug]
    (system : ManagedVms)
    (action : ProcessAction) : ManagedVms :=
  match action with
  | .proceed position =>
      Interleaved.step phaseStep system position
  | .exits pid =>
      { system with
        shared :=
          { system.shared with
            live :=
              system.shared.live.filter fun other =>
                decide (other ≠ pid) } }

/- Calls that have not begun, on an empty manager. -/
def begin
    (defaultConfig : FirecrackerProcessConfig)
    (calls : List VmCall) : ManagedVms where
  shared :=
    { manager := VMManager.new defaultConfig
      live := [] }
  calls := calls

/- A call that has not begun. -/
def VmCall.isNew : VmCall → Bool
| .creating .. => true
| .stopping .. => true
| _ => false

end VmProcess

end IsaWorkspace
