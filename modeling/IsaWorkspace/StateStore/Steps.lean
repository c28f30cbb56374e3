import IsaWorkspace.Foundations.Runs
import IsaWorkspace.StateStore.Equations

/-
  Sequential runs of the state store.

  `StateOp` are the operations on states and their reference
  counts, `Op` adds the reading and the page operations, and
  `Action` adds rounds of the collector.

  `Holds P` says that every object in the cache or in the
  backend satisfies `P`.  Since an operation only moves
  objects it was given or found, it keeps `Holds P` as soon
  as what it was given satisfies `P`.

  Main declarations:
    * `StateOp`, `Op`, `Action`, `Reply`
    * `StateOp.exec`, `Op.exec`, `Action.step`
    * `Op.Puts`
    * `StateStore.Holds`
    * `StateStore.holds_step`
    * `Sample`
-/

------------------------------------------------------------
-- Operations
------------------------------------------------------------

namespace IsaWorkspace

/- Operations on states and their reference counts. -/
inductive StateOp where
  | storeState (now createdAt : DateTime) (state : State)
  | incrementRef (stateId : StateId)
  | decrementRef (stateId : StateId)
  | deleteState (stateId : StateId)

/- Client operations of a store. -/
inductive Op where
  | state (op : StateOp)
  | getState (stateId : StateId)
  | storePage (page : MemoryPage)
  | getPage (contentHash : ContentAddress)

/- Client operations and rounds of the collector. -/
inductive Action where
  | op (op : Op)
  | gcSweep (now : DateTime) (order : List StateId)

/- What an operation answers. -/
inductive Reply where
  | stored (result : Outcome StateStoreError StoredState)
  | done (result : Outcome StateStoreError Unit)
  | state (result : Outcome StateStoreError State)
  | address (result : Outcome StateStoreError ContentAddress)
  | page (result : Outcome StateStoreError Bytes)

variable {B : Type} [StorageBackendTrait B]
variable [Sha256] [SerdeJson State] [BuildProfile]

open StateStore

/- Perform an operation on states. -/
def StateOp.exec
    (op : StateOp)
    (store : StateStore B) : Reply × StateStore B :=
  match op with
  | .storeState now createdAt state =>
      let result := StateStore.storeState now createdAt
        state store
      (.stored result.1, result.2)
  | .incrementRef stateId =>
      let result := StateStore.incrementRef stateId store
      (.done result.1, result.2)
  | .decrementRef stateId =>
      let result := StateStore.decrementRef stateId store
      (.done result.1, result.2)
  | .deleteState stateId =>
      let result := StateStore.deleteState stateId store
      (.done result.1, result.2)

/- Perform a client operation. -/
def Op.exec
    (op : Op)
    (store : StateStore B) : Reply × StateStore B :=
  match op with
  | .state stateOp => stateOp.exec store
  | .getState stateId =>
      let result := StateStore.getState stateId store
      (.state result.1, result.2)
  | .storePage page =>
      let result := StateStore.storePage page store
      (.address result.1, result.2)
  | .getPage contentHash =>
      let result := StateStore.getPage contentHash store
      (.page result.1, result.2)

/- The store after an operation on states. -/
def StateOp.step
    (store : StateStore B)
    (op : StateOp) : StateStore B :=
  (op.exec store).2

/- The store after a client operation. -/
def Op.step
    (store : StateStore B)
    (op : Op) : StateStore B :=
  (op.exec store).2

/- The store after an operation or a collector's round. -/
def Action.step
    (store : StateStore B)
    (action : Action) : StateStore B :=
  match action with
  | .op clientOp => clientOp.step store
  | .gcSweep now order =>
      (StateStore.gcSweep now order store).2

/- The objects an operation hands to the backend. -/
def Op.Puts
    (op : Op)
    (contentHash : ContentAddress)
    (data : Bytes) : Prop :=
  match op with
  | .state (.storeState _ _ newState) =>
      SerdeJson.toVec newState = .ok data ∧
        contentHash = computeHash data
  | .storePage page =>
      contentHash = page.pageHash ∧ data = page.data
  | _ => False

end IsaWorkspace

------------------------------------------------------------
-- Objects of a Store
------------------------------------------------------------

namespace IsaWorkspace

namespace StateStore

variable {B : Type} [LawfulBackend B]

/- Reading content leaves the stored objects alone. -/
@[simp] theorem fetchContent_contents
    (contentHash : ContentAddress)
    (store : StateStore B) :
    LawfulBackend.contents
        (fetchContent contentHash store).2.backend =
      LawfulBackend.contents store.backend := by
  rw [fetchContent_eq]
  cases store.pageCache.lookup contentHash with
  | some content => rfl
  | none =>
      dsimp only
      rcases hGet :
          StorageBackendTrait.get contentHash
            store.backend with
        ⟨outcome, backend⟩
      have hSame := LawfulBackend.contents_of_get hGet
      cases outcome with
      | ok content =>
          rw [cached_backend]
          exact hSame
      | err error => exact hSame
      | panicked => exact hSame

/- Every cached and every stored object satisfies `P`. -/
structure Holds
    (P : ContentAddress → Bytes → Prop)
    (store : StateStore B) : Prop where
  cache :
    ∀ key data,
      store.pageCache.lookup key = some data → P key data
  backend :
    ∀ key data,
      (LawfulBackend.contents store.backend).lookup key =
        some data → P key data

variable {P : ContentAddress → Bytes → Prop}

/- A new store over an empty backend has no objects. -/
theorem holds_new
    (config : StateStoreConfig)
    {backend : B}
    (hEmpty : LawfulBackend.contents backend = ∅) :
    Holds P (new config backend) := by
  constructor
  · intro key data hLookup
    simp [new] at hLookup
  · intro key data hLookup
    simp [new, hEmpty] at hLookup

/- The index plays no part. -/
theorem Holds.setIndex
    {store : StateStore B}
    (hHolds : Holds P store)
    (index : HashMap StateId StoredState) :
    Holds P { store with index := index } :=
  ⟨hHolds.cache, hHolds.backend⟩

/- Counting references moves no object. -/
theorem Holds.recounted
    {before after : StateStore B}
    (hHolds : Holds P before)
    (hCount : Recounted before after) :
    Holds P after := by
  constructor
  · rw [hCount.pageCache_eq]
    exact hHolds.cache
  · rw [hCount.backend_eq]
    exact hHolds.backend

/- A backend with the same objects may take over. -/
theorem Holds.sameContents
    {store : StateStore B}
    {backend : B}
    (hHolds : Holds P store)
    (hSame :
      LawfulBackend.contents backend =
        LawfulBackend.contents store.backend) :
    Holds P { store with backend := backend } := by
  refine ⟨hHolds.cache, ?_⟩
  intro key data hLookup
  rw [hSame] at hLookup
  exact hHolds.backend key data hLookup

/-
  Putting an object needs `P` of that object, and only if
  the backend takes it.
-/
theorem Holds.put
    {store : StateStore B}
    {backend : B}
    {contentHash : ContentAddress}
    {content : Bytes}
    {outcome : Outcome StateStoreError Unit}
    (hHolds : Holds P store)
    (hPut :
      StorageBackendTrait.put contentHash content
        store.backend = (outcome, backend))
    (hNew : outcome = .ok () → P contentHash content) :
    Holds P { store with backend := backend } := by
  by_cases hDone : outcome = .ok ()
  · have hTaken := hNew hDone
    subst hDone
    refine ⟨hHolds.cache, ?_⟩
    intro key data hLookup
    rw [LawfulBackend.contents_of_put_ok hPut,
      HashMap.lookup_insert_eq_ite] at hLookup
    split at hLookup
    · next hKey =>
        cases hLookup
        rw [hKey]
        exact hTaken
    · exact hHolds.backend key data hLookup
  · exact hHolds.sameContents
      (LawfulBackend.contents_of_put_failed hPut hDone)

/- Offering an object to the cache needs `P` of it. -/
theorem Holds.cached
    {store : StateStore B}
    {contentHash : ContentAddress}
    {content : Bytes}
    (hHolds : Holds P store)
    (hNew : P contentHash content) :
    Holds P (store.cached contentHash content) := by
  constructor
  · intro key data hLookup
    rcases lookup_cached hLookup with hOld | ⟨rfl, rfl⟩
    · exact hHolds.cache key data hOld
    · exact hNew
  · intro key data hLookup
    rw [cached_backend] at hLookup
    exact hHolds.backend key data hLookup

/- Deleting objects cannot break `P`. -/
theorem Holds.delete
    {store : StateStore B}
    {backend : B}
    {contentHash : ContentAddress}
    {outcome : Outcome StateStoreError Unit}
    (hHolds : Holds P store)
    (hDelete :
      StorageBackendTrait.delete contentHash
        store.backend = (outcome, backend)) :
    Holds P { store with backend := backend } := by
  by_cases hDone : outcome = .ok ()
  · subst hDone
    refine ⟨hHolds.cache, ?_⟩
    intro key data hLookup
    rw [LawfulBackend.contents_of_delete_ok hDelete,
      HashMap.lookup_erase_eq_ite] at hLookup
    split at hLookup
    · cases hLookup
    · exact hHolds.backend key data hLookup
  · exact hHolds.sameContents
      (LawfulBackend.contents_of_delete_failed hDelete
        hDone)

/- Evicting an object cannot break `P`. -/
theorem Holds.evict
    {store : StateStore B}
    (hHolds : Holds P store)
    (contentHash : ContentAddress) :
    Holds P
      { store with
        pageCache := store.pageCache.erase contentHash } := by
  refine ⟨?_, hHolds.backend⟩
  intro key data hLookup
  rw [HashMap.lookup_erase_eq_ite] at hLookup
  split at hLookup
  · cases hLookup
  · exact hHolds.cache key data hLookup

/- Reading content moves objects but makes none. -/
theorem Holds.fetchContent
    {store : StateStore B}
    (hHolds : Holds P store)
    (contentHash : ContentAddress) :
    Holds P (fetchContent contentHash store).2 := by
  rw [fetchContent_eq]
  cases hCache : store.pageCache.lookup contentHash with
  | some content => exact hHolds
  | none =>
      dsimp only
      rcases hGet :
          StorageBackendTrait.get contentHash
            store.backend with
        ⟨outcome, backend⟩
      have hSame :=
        hHolds.sameContents
          (LawfulBackend.contents_of_get hGet)
      cases outcome with
      | ok content =>
          exact hSame.cached
            (hHolds.backend contentHash content
              (LawfulBackend.lookup_of_get_ok hGet))
      | err error => exact hSame
      | panicked => exact hSame

/- A reading content's answer satisfies `P`. -/
theorem Holds.of_fetchContent
    {store : StateStore B}
    {contentHash : ContentAddress}
    {content : Bytes}
    (hHolds : Holds P store)
    (hFetch :
      (StateStore.fetchContent contentHash store).1 =
        .ok content) :
    P contentHash content := by
  rw [fetchContent_eq] at hFetch
  cases hCache : store.pageCache.lookup contentHash with
  | some found =>
      simp only [hCache] at hFetch
      cases hFetch
      exact hHolds.cache contentHash content hCache
  | none =>
      simp only [hCache] at hFetch
      rcases hGet :
          StorageBackendTrait.get contentHash
            store.backend with
        ⟨outcome, backend⟩
      cases outcome with
      | ok found =>
          simp only [hGet] at hFetch
          cases hFetch
          exact hHolds.backend contentHash content
            (LawfulBackend.lookup_of_get_ok hGet)
      | err error => simp [hGet] at hFetch
      | panicked => simp [hGet] at hFetch

variable [Sha256] [SerdeJson State] [BuildProfile]

/-
  An operation keeps `P` of all objects when the objects the
  backend takes from it satisfy `P`.
-/
theorem holds_step
    {store : StateStore B}
    (op : Op)
    (hHolds : Holds P store)
    (hPuts :
      ∀ key data, op.Puts key data →
        (StorageBackendTrait.put key data
          store.backend).1 = .ok () →
          P key data) :
    Holds P (op.step store) := by
  cases op with
  | state op =>
      cases op with
      | storeState now createdAt state =>
          simp only [Op.step, Op.exec, StateOp.exec]
          rw [storeState_eq]
          cases hJson : SerdeJson.toVec state with
          | error message => exact hHolds
          | ok bytes =>
              have hNew := hPuts _ _ ⟨hJson, rfl⟩
              dsimp only
              rcases hPut :
                  StorageBackendTrait.put
                    (computeHash bytes) bytes
                    store.backend with
                ⟨outcome, backend⟩
              rw [hPut] at hNew
              have hAfter := hHolds.put hPut hNew
              cases outcome with
              | err error => exact hAfter
              | panicked => exact hAfter
              | ok _ =>
                  dsimp only
                  split
                  · exact hAfter
                  · exact
                      (hAfter.setIndex _).cached (hNew rfl)
      | incrementRef stateId =>
          exact hHolds.recounted
            (incrementRef_recounted stateId store)
      | decrementRef stateId =>
          exact hHolds.recounted
            (decrementRef_recounted stateId store)
      | deleteState stateId =>
          simp only [Op.step, Op.exec, StateOp.exec]
          rw [deleteState_eq]
          cases store.index.lookup stateId with
          | none => exact hHolds
          | some stored =>
              dsimp only
              by_cases hCount : stored.refCount ≤ 1
              · simp only [hCount, if_true]
                rcases hDelete :
                    StorageBackendTrait.delete
                      stored.contentHash store.backend with
                  ⟨outcome, backend⟩
                have hAfter :=
                  (hHolds.delete hDelete).setIndex
                    (store.index.erase stateId)
                cases outcome with
                | ok _ => exact hAfter.evict _
                | err error => exact hAfter
                | panicked => exact hAfter
              · simp only [hCount, if_false]
                exact hHolds.setIndex _
  | getState stateId =>
      simp only [Op.step, Op.exec]
      rw [getState_store]
      split
      · exact hHolds
      · exact hHolds.fetchContent _
  | storePage page =>
      simp only [Op.step, Op.exec]
      rw [storePage_eq]
      have hNew := hPuts _ _ ⟨rfl, rfl⟩
      rcases hPut :
          StorageBackendTrait.put page.pageHash page.data
            store.backend with
        ⟨outcome, backend⟩
      rw [hPut] at hNew
      have hAfter := hHolds.put hPut hNew
      cases outcome with
      | ok _ => exact hAfter.cached (hNew rfl)
      | err error => exact hAfter
      | panicked => exact hAfter
  | getPage contentHash =>
      exact hHolds.fetchContent contentHash

end StateStore

end IsaWorkspace

------------------------------------------------------------
-- A Sample Environment
------------------------------------------------------------

namespace IsaWorkspace

/-
  Three small states with their JSON text and its digests,
  for runs on concrete inputs.  The first and the revised
  state share an id.  The digest of any other input is that
  of the empty one, the only other input hashed in a run.
-/
namespace Sample

def epoch : DateTime :=
  DateTime.unixEpoch

def tenMinutesLater : DateTime :=
  ⟨600000000000, by decide⟩

def state
    (id label : String)
    (ttlSeconds : Option UInt64) : State :=
  State.new id 0
    { vcpus := 2
      memoryMb := 512
      kernelImage := "/tmp/vmlinux.bin"
      rootfsImage := "/tmp/rootfs.ext4" }
    { label := label
      createdAt := epoch
      ttlSeconds := ttlSeconds }

def first : State :=
  state "a" "first" (some 60)

def second : State :=
  state "b" "second" none

def revised : State :=
  state "a" "revised" (some 60)

/- An empty page under its own hash. -/
def page : MemoryPage where
  pageHash :=
    "e3b0c44298fc1c149afbf4c8996fb924" ++
      "27ae41e4649b934ca495991b7852b855"
  data := []
  compression := .none
  originalSize := 0

def json
    (id label ttl : String) : Bytes :=
  asBytes ("\x7b\"state_id\":\"" ++ id ++
    "\",\"vm_config\":\x7b\"vcpus\":2," ++
    "\"memory_mb\":512," ++
    "\"kernel_image\":\"/tmp/vmlinux.bin\"," ++
    "\"rootfs_image\":\"/tmp/rootfs.ext4\"\x7d," ++
    "\"cpu_state\":\x7b\"arch\":\"x86_64\"," ++
    "\"registers\":\x7b\x7d\x7d," ++
    "\"memory_manifest\":[],\"fd_table\":[]," ++
    "\"socket_table\":[],\"device_state\":[]," ++
    "\"deterministic_log\":\x7b\"events\":[]\x7d," ++
    "\"ui_state\":\x7b\"stream_id\":\"" ++
    "00000000-0000-0000-0000-000000000000\"\x7d," ++
    "\"metadata\":\x7b\"label\":\"" ++ label ++
    "\",\"created_at\":\"1970-01-01T00:00:00Z\"," ++
    "\"ttl_seconds\":" ++ ttl ++
    "\x7d\x7d")

def firstJson : Bytes :=
  json "a" "first" "60"

def secondJson : Bytes :=
  json "b" "second" "null"

def revisedJson : Bytes :=
  json "a" "revised" "60"

scoped instance : Sha256 where
  digest data :=
    digestOf <|
      if data = firstJson then
        0xdf65cbb097309569617ae43a22fa90dcecc267da3bb09880e044ab12192c7878
      else if data = secondJson then
        0x8c76f96345317572b54dc9f3fafe25ccc22aa5dee6371819bab8f73ce5ab402b
      else if data = revisedJson then
        0x7fa9d499a428b007aa43471f03e66d6c4d95dd17e59a626557c67572a399f2dd
      else
        0xe3b0c44298fc1c149afbf4c8996fb92427ae41e4649b934ca495991b7852b855

scoped instance : SerdeJson State where
  toVec value :=
    if value.stateId = second.stateId then
      .ok secondJson
    else if value.metadata = first.metadata then
      .ok firstJson
    else
      .ok revisedJson
  fromSlice data :=
    if data = firstJson then .ok first
    else if data = secondJson then .ok second
    else if data = revisedJson then .ok revised
    else .error "expected value at line 1 column 1"

/- A release build. -/
scoped instance : BuildProfile where
  overflowChecks := false

/- The four byte strings hashed in the samples differ. -/
theorem hash_injOn :
    Set.InjOn computeHash
      {firstJson, secondJson, revisedJson, []} := by
  have hNodup :
      ([firstJson, secondJson, revisedJson, []].map
        computeHash).Nodup := by
    decide +kernel
  intro left hLeft right hRight hEq
  exact
    List.inj_on_of_nodup_map hNodup (by simpa using hLeft)
      (by simpa using hRight) hEq

theorem toVec_first :
    SerdeJson.toVec first = .ok firstJson := rfl

theorem toVec_second :
    SerdeJson.toVec second = .ok secondJson := rfl

theorem toVec_revised :
    SerdeJson.toVec revised = .ok revisedJson := rfl

/- The samples' JSON decodes to the state it came from. -/
theorem roundTrip
    {state : State}
    (hState :
      state = first ∨ state = second ∨ state = revised)
    {bytes : Bytes}
    (hBytes : SerdeJson.toVec state = .ok bytes) :
    SerdeJson.fromSlice bytes = .ok state := by
  have hSecond : secondJson ≠ firstJson := by
    decide +kernel
  have hRevised :
      revisedJson ≠ firstJson ∧
        revisedJson ≠ secondJson := by
    decide +kernel
  rcases hState with rfl | rfl | rfl
  · rw [toVec_first] at hBytes
    cases hBytes
    exact if_pos rfl
  · rw [toVec_second] at hBytes
    cases hBytes
    exact (if_neg hSecond).trans (if_pos rfl)
  · rw [toVec_revised] at hBytes
    cases hBytes
    exact
      (if_neg hRevised.1).trans
        ((if_neg hRevised.2).trans (if_pos rfl))

end Sample

end IsaWorkspace
