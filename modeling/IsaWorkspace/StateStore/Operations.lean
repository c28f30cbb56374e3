import IsaWorkspace.Model
import IsaWorkspace.Memory.Page
import IsaWorkspace.StateStore.Backend

/-
  The operations of the state store.

  A store holds an index of stored states, a page cache, and
  a backend.  Content is addressed by its SHA-256 hash.  The
  clock readings an operation makes are its first arguments.

  `storeState` and the collector's sweep are composed of the
  steps between which the source releases its locks:
  `putState`, `indexState` and `cacheContent`, respectively
  `gcScan` and one `gcRemove` per collected state.

  Main declarations:
    * `StoredState`, `StateStoreConfig`, `StateStore`
    * `StateStore.storeState`, `StateStore.getState`
    * `StateStore.deleteState`
    * `StateStore.incrementRef`, `StateStore.decrementRef`
    * `StateStore.storePage`, `StateStore.getPage`
    * `StateStore.gcScan`, `StateStore.gcRemove`
    * `StateStore.gcSweep`
-/

------------------------------------------------------------
-- Stores
------------------------------------------------------------

namespace IsaWorkspace

/- Unique content address (SHA256 hash). -/
abbrev ContentAddress : Type :=
  String

/- Compute the SHA256 hash of data. -/
def computeHash
    [Sha256]
    (data : Bytes) : ContentAddress :=
  sha256Hex data

structure StateStoreConfig where
  cacheSizeLimit : Nat
deriving DecidableEq, Repr

/- A stored state object with metadata. -/
structure StoredState where
  stateId : StateId
  contentHash : ContentAddress
  refCount : UInt64
  createdAt : DateTime
  expiresAt : Option DateTime
  sizeBytes : Nat
  metadata : StateMetadata
deriving DecidableEq

structure StateStore (B : Type) where
  config : StateStoreConfig
  index : HashMap StateId StoredState
  pageCache : HashMap ContentAddress Bytes
  backend : B

namespace StateStore

variable {B : Type}

/- Create a new state store over a backend. -/
def new
    (config : StateStoreConfig)
    (backend : B) : StateStore B where
  config := config
  index := ∅
  pageCache := ∅
  backend := backend

------------------------------------------------------------
-- Shared Steps
------------------------------------------------------------

/- Make a call on the store's backend. -/
def onBackend
    {α : Type}
    (call : Exec B StateStoreError α) :
    Exec (StateStore B) StateStoreError α :=
  Exec.onPart StateStore.backend
    (fun store backend => { store with backend := backend })
    call

/-
  The store after an attempt to cache content.  The attempt
  is refused once the cache has as many entries as the limit.
-/
def cached
    (contentHash : ContentAddress)
    (content : Bytes)
    (store : StateStore B) : StateStore B :=
  if store.pageCache.len < store.config.cacheSizeLimit then
    { store with
      pageCache :=
        store.pageCache.insert contentHash content }
  else
    store

/- Cache content if there is room. -/
def cacheContent
    (contentHash : ContentAddress)
    (content : Bytes) :
    Exec (StateStore B) StateStoreError Unit :=
  Exec.update (cached contentHash content)

/- The error of a state id that is not in the index. -/
def stateNotFound
    (stateId : StateId) : StateStoreError :=
  .notFound ("State " ++ stateId.id ++ " not found")

variable [StorageBackendTrait B]

/- Read content from the cache, else from the backend. -/
def fetchContent
    (contentHash : ContentAddress) :
    Exec (StateStore B) StateStoreError Bytes := do
  let store ← Exec.read
  match store.pageCache.lookup contentHash with
  | some content => pure content
  | none => do
      let content ←
        onBackend (StorageBackendTrait.get contentHash)
      cacheContent contentHash content
      pure content

------------------------------------------------------------
-- Storing States
------------------------------------------------------------

/-
  The expiration of a state stored now, if it has one.  The
  number of seconds is reinterpreted as a signed word, and
  `none` is the panic of a date out of range.
-/
def expiresAt
    (now : DateTime) :
    Option UInt64 → Option (Option DateTime)
| none => some none
| some ttl => (now.addSeconds ttl.toInt64).map some

/- Serialize a state and put the bytes under their hash. -/
def putState
    [Sha256] [SerdeJson State]
    (state : State) :
    Exec (StateStore B) StateStoreError
      (ContentAddress × Bytes) := do
  let stateBytes ←
    Exec.ofExcept
      (fun message =>
        .serializationError
          ("Failed to serialize: " ++ message))
      (SerdeJson.toVec state)
  let contentHash := computeHash stateBytes
  onBackend (StorageBackendTrait.put contentHash stateBytes)
  pure (contentHash, stateBytes)

/- The index entry of a state stored just now. -/
def newEntry
    (createdAt : DateTime)
    (expiration : Option DateTime)
    (state : State)
    (contentHash : ContentAddress)
    (stateBytes : Bytes) : StoredState where
  stateId := state.stateId
  contentHash := contentHash
  refCount := 1
  createdAt := createdAt
  expiresAt := expiration
  sizeBytes := stateBytes.length
  metadata := state.metadata

/- Enter a state whose content was put into the index. -/
def indexState
    (now createdAt : DateTime)
    (state : State)
    (contentHash : ContentAddress)
    (stateBytes : Bytes) :
    Exec (StateStore B) StateStoreError StoredState := do
  let expiration ←
    Exec.orPanic (expiresAt now state.metadata.ttlSeconds)
  let stored :=
    newEntry createdAt expiration state contentHash stateBytes
  Exec.update fun store =>
    { store with
      index := store.index.insert state.stateId stored }
  pure stored

/- Store a complete state object. -/
def storeState
    [Sha256] [SerdeJson State]
    (now createdAt : DateTime)
    (state : State) :
    Exec (StateStore B) StateStoreError StoredState := do
  let (contentHash, stateBytes) ← putState state
  let stored ←
    indexState now createdAt state contentHash stateBytes
  cacheContent contentHash stateBytes
  pure stored

------------------------------------------------------------
-- Reading and Deleting States
------------------------------------------------------------

/- Retrieve a state object by id. -/
def getState
    [SerdeJson State]
    (stateId : StateId) :
    Exec (StateStore B) StateStoreError State := do
  let store ← Exec.read
  match store.index.lookup stateId with
  | none => Exec.fail (stateNotFound stateId)
  | some stored => do
      let content ← fetchContent stored.contentHash
      Exec.ofExcept
        (fun message =>
          .serializationError
            ("Failed to deserialize: " ++ message))
        (SerdeJson.fromSlice content)

/-
  Delete a state object, or give up one reference to it.  The
  entry is out of the index while the backend deletes.
-/
def deleteState
    (stateId : StateId) :
    Exec (StateStore B) StateStoreError Unit := do
  let store ← Exec.read
  match store.index.lookup stateId with
  | none => pure ()
  | some stored => do
      Exec.update fun store =>
        { store with index := store.index.erase stateId }
      if stored.refCount ≤ 1 then
        onBackend
          (StorageBackendTrait.delete stored.contentHash)
        Exec.update fun store =>
          { store with
            pageCache :=
              store.pageCache.erase stored.contentHash }
      else
        Exec.update fun store =>
          { store with
            index :=
              store.index.insert stateId
                { stored with
                  refCount := stored.refCount - 1 } }

/- Check if a state exists. -/
omit [StorageBackendTrait B] in
def hasState
    (stateId : StateId)
    (store : StateStore B) : Bool :=
  decide (stateId ∈ store.index)

------------------------------------------------------------
-- Reference Counts
------------------------------------------------------------

/- Increment the reference count of a state. -/
omit [StorageBackendTrait B] in
def incrementRef
    [BuildProfile]
    (stateId : StateId) :
    Exec (StateStore B) StateStoreError Unit := do
  let store ← Exec.read
  match store.index.lookup stateId with
  | none => Exec.fail (stateNotFound stateId)
  | some stored => do
      let refCount ←
        Exec.orPanic (checkedAdd stored.refCount 1)
      Exec.update fun store =>
        { store with
          index :=
            store.index.insert stateId
              { stored with refCount := refCount } }

/- Decrement the reference count of a state. -/
omit [StorageBackendTrait B] in
def decrementRef
    (stateId : StateId) :
    Exec (StateStore B) StateStoreError Unit := do
  let store ← Exec.read
  match store.index.lookup stateId with
  | none => Exec.fail (stateNotFound stateId)
  | some stored =>
      if 0 < stored.refCount then
        Exec.update fun store =>
          { store with
            index :=
              store.index.insert stateId
                { stored with
                  refCount := stored.refCount - 1 } }
      else
        pure ()

------------------------------------------------------------
-- Pages
------------------------------------------------------------

/- Store a memory page under the hash it carries. -/
def storePage
    (page : MemoryPage) :
    Exec (StateStore B) StateStoreError ContentAddress := do
  let contentHash := page.pageHash
  onBackend (StorageBackendTrait.put contentHash page.data)
  cacheContent contentHash page.data
  pure contentHash

/- Retrieve a memory page by content address. -/
def getPage
    (contentHash : ContentAddress) :
    Exec (StateStore B) StateStoreError Bytes :=
  fetchContent contentHash

------------------------------------------------------------
-- Garbage Collection
------------------------------------------------------------

/- Past its expiration and without references. -/
def isExpired
    (now : DateTime)
    (stored : StoredState) : Bool :=
  match stored.expiresAt with
  | some expiration =>
      decide (expiration < now ∧ stored.refCount = 0)
  | none => false

/-
  Collect the ids of expired states.  The index is visited
  in some order, which a hash map does not fix.
-/
omit [StorageBackendTrait B] in
def gcScan
    (now : DateTime)
    (order : List StateId)
    (store : StateStore B) : List StateId :=
  order.filter fun stateId =>
    match store.index.lookup stateId with
    | some stored => isExpired now stored
    | none => false

/-
  Remove one collected state from the index and the backend.
  A failing backend is only logged.
-/
def gcRemove
    (stateId : StateId) :
    Exec (StateStore B) StateStoreError Unit := do
  let store ← Exec.read
  match store.index.lookup stateId with
  | none => pure ()
  | some stored => do
      Exec.update fun store =>
        { store with index := store.index.erase stateId }
      Exec.ignoreErr
        (onBackend
          (StorageBackendTrait.delete stored.contentHash))

/- Remove the collected states one after the other. -/
def gcRemoveAll :
    List StateId →
      Exec (StateStore B) StateStoreError Unit
| [] => pure ()
| stateId :: rest => do
    gcRemove stateId
    gcRemoveAll rest

/- One round of the collector. -/
def gcSweep
    (now : DateTime)
    (order : List StateId) :
    Exec (StateStore B) StateStoreError Unit := do
  let store ← Exec.read
  gcRemoveAll (gcScan now order store)

end StateStore

end IsaWorkspace
