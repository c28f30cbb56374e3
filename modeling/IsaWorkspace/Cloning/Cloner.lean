import IsaWorkspace.StateStore.Operations

/-
  Cloning of states with shared pages.

  A clone is a new state in the store.  Unless pages are
  copied eagerly, the pages of the parent are counted once
  more for it.  Cloning is composed of the steps between
  which its locks are released.

  Main declarations:
    * `CloneConfig`, `CloneInfo`, `CloneResult`
    * `RefCountedPage`, `StateCloner`
    * `StateCloner.checkLimit`, `registerPages`
    * `StateCloner.storeClone`, `trackClone`
    * `StateCloner.cloneState`, `getClones`
    * `StateCloner.modifyPage`, `getPageRefCount`
-/

------------------------------------------------------------
-- Records
------------------------------------------------------------

namespace IsaWorkspace

/- Clone configuration; no limit is written as zero. -/
structure CloneConfig where
  eagerCopy : Bool
  includeCpu : Bool
  includeFds : Bool
  includeMetadata : Bool
  maxClones : UInt32
deriving DecidableEq

def CloneConfig.default : CloneConfig where
  eagerCopy := false
  includeCpu := true
  includeFds := true
  includeMetadata := true
  maxClones := 0

/- Clone information. -/
structure CloneInfo where
  parentId : StateId
  cloneId : StateId
  clonedAt : DateTime
  label : String
  isCow : Bool
  sharedPages : Nat
  uniquePages : Nat
deriving DecidableEq

/- Clone result. -/
structure CloneResult where
  cloneId : StateId
  info : CloneInfo
  spaceSaved : Nat
deriving DecidableEq

/- Clone errors. -/
inductive CloneError where
  | maxClonesReached (maxClones : UInt32)
  | storeError (message : String)
deriving DecidableEq

/- The text of an error of the store. -/
def StateStoreError.display : StateStoreError → String
| ioError message => "IO error: " ++ message
| serializationError message =>
    "Serialization error: " ++ message
| notFound message => "Not found: " ++ message
| alreadyExists message => "Already exists: " ++ message
| corrupted message => "Corrupted data: " ++ message

/- Reference-counted page for copy-on-write. -/
structure RefCountedPage where
  data : Bytes
  refCount : Nat
  hash : String
deriving DecidableEq

namespace RefCountedPage

def new
    (data : Bytes)
    (hash : String) : RefCountedPage where
  data := data
  refCount := 1
  hash := hash

def incrementRef
    (page : RefCountedPage) : RefCountedPage :=
  { page with refCount := page.refCount + 1 }

def isUnique
    (page : RefCountedPage) : Bool :=
  decide (page.refCount = 1)

/- Get mutable reference, cloning if shared. -/
def makeUnique
    (page : RefCountedPage) : RefCountedPage :=
  if page.isUnique then page
  else { page with refCount := 1 }

end RefCountedPage

/- State cloner with copy-on-write support. -/
structure StateCloner (B : Type) where
  config : CloneConfig
  pages : HashMap String RefCountedPage
  clones : HashMap StateId (List StateId)
  stateStore : StateStore B

/-
  What one call is given, with the id that it draws and its
  readings of the clock.
-/
structure CloneCall where
  original : State
  label : String
  uuid : String
  createdAt : DateTime
  storedAt : DateTime
  enteredAt : DateTime
  clonedAt : DateTime

namespace CloneCall

/- The id of the clone. -/
def cloneId
    (call : CloneCall) : StateId :=
  ⟨call.uuid⟩

/- The state that is stored as the clone. -/
def clonedState
    (call : CloneCall)
    (config : CloneConfig) : State :=
  { stateId := call.cloneId
    vmConfig := call.original.vmConfig
    cpuState :=
      if config.includeCpu then
        call.original.cpuState
      else
        call.original.cpuState
    memoryManifest := call.original.memoryManifest
    fdTable :=
      if config.includeFds then call.original.fdTable
      else []
    socketTable :=
      if config.includeFds then call.original.socketTable
      else []
    deviceState := call.original.deviceState
    deterministicLog := call.original.deterministicLog
    uiState := call.original.uiState
    metadata :=
      { label := call.label
        createdAt := call.createdAt
        ttlSeconds :=
          if config.includeMetadata then
            call.original.metadata.ttlSeconds
          else
            none } }

/- What the call returns. -/
def result
    (call : CloneCall)
    (config : CloneConfig) : CloneResult :=
  let regions := call.original.memoryManifest.length
  let sharedPages := if config.eagerCopy then 0 else regions
  let uniquePages := if config.eagerCopy then regions else 0
  { cloneId := call.cloneId
    info :=
      { parentId := call.original.stateId
        cloneId := call.cloneId
        clonedAt := call.clonedAt
        label := call.label
        isCow := !config.eagerCopy
        sharedPages := sharedPages
        uniquePages := uniquePages }
    spaceSaved :=
      if config.eagerCopy then 0 else sharedPages * 4096 }

end CloneCall

namespace StateCloner

variable {B : Type}

/- Create a new state cloner. -/
def new
    (config : CloneConfig)
    (stateStore : StateStore B) : StateCloner B where
  config := config
  pages := ∅
  clones := ∅
  stateStore := stateStore

------------------------------------------------------------
-- Steps of Cloning
------------------------------------------------------------

/- There is a limit, and the state has that many clones. -/
def limitReached
    (stateId : StateId)
    (cloner : StateCloner B) : Bool :=
  if 0 < cloner.config.maxClones then
    match cloner.clones.lookup stateId with
    | some parentClones =>
        decide
          (cloner.config.maxClones.toNat ≤
            parentClones.length)
    | none => false
  else
    false

/- Check clone limit. -/
def checkLimit
    (call : CloneCall) :
    Exec (StateCloner B) CloneError Unit := do
  let cloner ← Exec.read
  if cloner.limitReached call.original.stateId then
    Exec.fail (.maxClonesReached cloner.config.maxClones)
  else
    pure ()

/- The key of the page of a region. -/
def pageKey
    (stateId : StateId)
    (regionId : String) : String :=
  stateId.id ++ "-" ++ regionId

/- Count a page once more, or make a page for the region. -/
def registerPage
    (stateId : StateId)
    (pages : HashMap String RefCountedPage)
    (region : MemoryRegion) :
    HashMap String RefCountedPage :=
  let key := pageKey stateId region.regionId
  match pages.lookup key with
  | some page => pages.insert key page.incrementRef
  | none =>
      pages.insert key
        (RefCountedPage.new [] region.regionId)

/- Register pages for COW. -/
def registerPages
    (call : CloneCall) :
    Exec (StateCloner B) CloneError Unit :=
  Exec.update fun cloner =>
    if cloner.config.eagerCopy then
      cloner
    else
      { cloner with
        pages :=
          call.original.memoryManifest.foldl
            (registerPage call.original.stateId)
            cloner.pages }

/- Store cloned state. -/
def storeClone
    [Sha256] [SerdeJson State] [StorageBackendTrait B]
    (call : CloneCall) :
    Exec (StateCloner B) CloneError StoredState := do
  let cloner ← Exec.read
  Exec.mapErr (fun e => .storeError e.display)
    (Exec.onPart StateCloner.stateStore
      (fun cloner stateStore =>
        { cloner with stateStore := stateStore })
      (StateStore.storeState call.storedAt call.enteredAt
        (call.clonedState cloner.config)))

/- Get all clones of a state. -/
def getClones
    (stateId : StateId)
    (cloner : StateCloner B) : List StateId :=
  (cloner.clones.lookup stateId).getD []

/- Track clone relationship. -/
def trackClone
    (call : CloneCall) :
    Exec (StateCloner B) CloneError CloneResult := do
  Exec.update fun cloner =>
    { cloner with
      clones :=
        cloner.clones.insert call.original.stateId
          (cloner.getClones call.original.stateId ++
            [call.cloneId]) }
  let cloner ← Exec.read
  return call.result cloner.config

/- Clone a state. -/
def cloneState
    [Sha256] [SerdeJson State] [StorageBackendTrait B]
    (call : CloneCall) :
    Exec (StateCloner B) CloneError CloneResult := do
  checkLimit call
  registerPages call
  let _ ← storeClone call
  trackClone call

------------------------------------------------------------
-- Pages
------------------------------------------------------------

/- Modify a page with copy-on-write semantics. -/
def modifyPage
    (stateId : StateId)
    (regionId : String)
    (newData : Bytes) :
    Exec (StateCloner B) CloneError Unit :=
  Exec.update fun cloner =>
    let key := pageKey stateId regionId
    match cloner.pages.lookup key with
    | some page =>
        -- Make page unique before modifying.
        { cloner with
          pages :=
            cloner.pages.insert key
              { page.makeUnique with data := newData } }
    | none =>
        { cloner with
          pages :=
            cloner.pages.insert key
              (RefCountedPage.new newData regionId) }

/- Get page reference count. -/
def getPageRefCount
    (stateId : StateId)
    (regionId : String)
    (cloner : StateCloner B) : Option Nat :=
  (cloner.pages.lookup (pageKey stateId regionId)).map
    RefCountedPage.refCount

end StateCloner

end IsaWorkspace
