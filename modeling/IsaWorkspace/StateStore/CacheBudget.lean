import IsaWorkspace.StateStore.Steps

/-
  The page cache against its configured limit.

  `cacheContent` compares the limit with the number of cached
  entries, while the configuration documents it in bytes.
  The number of entries is always within the limit; the
  number of bytes is, exactly in the runs in which every
  object let in also fits by its length.

  Main declarations:
    * `Op.offered`
    * `pageCache_step`
    * `cacheEntries_le_limit`
    * `WithinBudget`, `FitsBudget`
    * `withinBudget_iff`
-/

------------------------------------------------------------
-- Objects Offered to the Cache
------------------------------------------------------------

namespace IsaWorkspace

namespace StateStore

variable {B : Type} [StorageBackendTrait B]

/- The object a read takes from the backend, if it does. -/
def fetched
    (contentHash : ContentAddress)
    (store : StateStore B) :
    Option (ContentAddress × Bytes) :=
  match store.pageCache.lookup contentHash with
  | some _ => none
  | none =>
      match (StorageBackendTrait.get contentHash
          store.backend).1 with
      | .ok content => some (contentHash, content)
      | _ => none

/- The page cache after an object was offered to it. -/
def cacheAfter
    (store : StateStore B) :
    Option (ContentAddress × Bytes) →
      HashMap ContentAddress Bytes
| none => store.pageCache
| some (contentHash, content) =>
    (store.cached contentHash content).pageCache

/- Reading content offers what it fetched to the cache. -/
theorem fetchContent_pageCache
    (contentHash : ContentAddress)
    (store : StateStore B) :
    (fetchContent contentHash store).2.pageCache =
      store.cacheAfter (fetched contentHash store) := by
  rw [fetchContent_eq]
  unfold fetched
  cases store.pageCache.lookup contentHash with
  | some content => rfl
  | none =>
      dsimp only
      rcases hGet :
          StorageBackendTrait.get contentHash
            store.backend with
        ⟨outcome, backend⟩
      cases outcome with
      | ok content =>
          simp only [cacheAfter, cached_pageCache]
      | err error => rfl
      | panicked => rfl

/- Reading content keeps the configuration. -/
@[simp] theorem fetchContent_config
    (contentHash : ContentAddress)
    (store : StateStore B) :
    (fetchContent contentHash store).2.config =
      store.config := by
  rw [fetchContent_eq]
  split
  · rfl
  · split <;> simp

end StateStore

variable {B : Type} [StorageBackendTrait B]
variable [Sha256] [SerdeJson State]

open StateStore

/- The object an operation offers to the page cache. -/
def Op.offered
    (op : Op)
    (store : StateStore B) :
    Option (ContentAddress × Bytes) :=
  match op with
  | .state (.storeState now _ newState) =>
      match SerdeJson.toVec newState with
      | .error _ => none
      | .ok bytes =>
          if (StorageBackendTrait.put (computeHash bytes)
                bytes store.backend).1 = .ok () ∧
              (expiresAt now
                newState.metadata.ttlSeconds).isSome then
            some (computeHash bytes, bytes)
          else
            none
  | .state _ => none
  | .getState stateId =>
      match store.index.lookup stateId with
      | none => none
      | some stored => fetched stored.contentHash store
  | .storePage page =>
      if (StorageBackendTrait.put page.pageHash page.data
            store.backend).1 = .ok () then
        some (page.pageHash, page.data)
      else
        none
  | .getPage contentHash => fetched contentHash store

variable [BuildProfile]

/-
  An operation offers its object to the cache or, deleting,
  evicts one.
-/
theorem StateStore.pageCache_step
    (op : Op)
    (store : StateStore B) :
    (op.step store).pageCache =
        store.cacheAfter (op.offered store) ∨
      (op.offered store = none ∧
        ∃ contentHash,
          (op.step store).pageCache =
            store.pageCache.erase contentHash) := by
  cases op with
  | state op =>
      cases op with
      | storeState now createdAt newState =>
          left
          simp only [Op.step, Op.exec, StateOp.exec,
            Op.offered]
          rw [storeState_eq]
          cases SerdeJson.toVec newState with
          | error message => rfl
          | ok bytes =>
              dsimp only
              rcases hPut :
                  StorageBackendTrait.put
                    (computeHash bytes) bytes
                    store.backend with
                ⟨outcome, backend⟩
              cases outcome with
              | err error => simp [cacheAfter]
              | panicked => simp [cacheAfter]
              | ok _ =>
                  cases expiresAt now
                      newState.metadata.ttlSeconds with
                  | none => simp [cacheAfter]
                  | some expiration =>
                      simp [cacheAfter, cached_pageCache]
      | incrementRef stateId =>
          left
          exact
            (incrementRef_recounted stateId
              store).pageCache_eq
      | decrementRef stateId =>
          left
          exact
            (decrementRef_recounted stateId
              store).pageCache_eq
      | deleteState stateId =>
          simp only [Op.step, Op.exec, StateOp.exec,
            Op.offered, cacheAfter]
          rw [deleteState_eq]
          cases store.index.lookup stateId with
          | none => exact Or.inl rfl
          | some stored =>
              dsimp only
              split
              · split
                · exact Or.inr ⟨trivial, _, rfl⟩
                · exact Or.inl rfl
                · exact Or.inl rfl
              · exact Or.inl rfl
  | getState stateId =>
      left
      simp only [Op.step, Op.exec, Op.offered]
      rw [getState_store]
      cases store.index.lookup stateId with
      | none => rfl
      | some stored => exact fetchContent_pageCache _ _
  | storePage page =>
      left
      simp only [Op.step, Op.exec, Op.offered]
      rw [storePage_eq]
      rcases hPut :
          StorageBackendTrait.put page.pageHash page.data
            store.backend with
        ⟨outcome, backend⟩
      cases outcome with
      | ok _ => simp [cacheAfter, cached_pageCache]
      | err error => simp [cacheAfter]
      | panicked => simp [cacheAfter]
  | getPage contentHash =>
      left
      exact fetchContent_pageCache contentHash store

/- No operation changes the configuration. -/
@[simp] theorem StateStore.config_step
    (op : Op)
    (store : StateStore B) :
    (op.step store).config = store.config := by
  cases op with
  | state op =>
      cases op with
      | storeState now createdAt newState =>
          simp only [Op.step, Op.exec, StateOp.exec]
          rw [storeState_eq]
          split
          · rfl
          · split
            · rfl
            · rfl
            · split
              · rfl
              · simp
      | incrementRef stateId =>
          exact
            (incrementRef_recounted stateId store).config_eq
      | decrementRef stateId =>
          exact
            (decrementRef_recounted stateId store).config_eq
      | deleteState stateId =>
          simp only [Op.step, Op.exec, StateOp.exec]
          rw [deleteState_eq]
          split
          · rfl
          · split
            · split <;> rfl
            · rfl
  | getState stateId =>
      simp only [Op.step, Op.exec]
      rw [getState_store]
      split
      · rfl
      · simp
  | storePage page =>
      simp only [Op.step, Op.exec]
      rw [storePage_eq]
      split
      · simp
      · rfl
      · rfl
  | getPage contentHash =>
      exact fetchContent_config contentHash store

end IsaWorkspace

------------------------------------------------------------
-- Entries
------------------------------------------------------------

namespace IsaWorkspace

namespace StateStore

variable {B : Type} [StorageBackendTrait B]
variable [Sha256] [SerdeJson State] [BuildProfile]

/- A step keeps the number of entries within the limit. -/
theorem cacheEntries_le_limit_step
    {store : StateStore B}
    (op : Op)
    (hLimit :
      store.pageCache.len ≤ store.config.cacheSizeLimit) :
    (op.step store).pageCache.len ≤
      (op.step store).config.cacheSizeLimit := by
  rw [config_step]
  rcases pageCache_step op store with
    hCache | ⟨_, contentHash, hCache⟩
  · rw [hCache]
    cases op.offered store with
    | none => exact hLimit
    | some object =>
        rcases object with ⟨contentHash, content⟩
        simp only [cacheAfter, cached_pageCache]
        split
        · have hInsert :=
            HashMap.len_insert_le store.pageCache
              contentHash content
          omega
        · exact hLimit
  · have hErase :=
      HashMap.len_erase_le store.pageCache contentHash
    rw [hCache]
    omega

/-
  In every state of every run, the number of cached entries
  is within the limit.
-/
theorem cacheEntries_le_limit
    (config : StateStoreConfig)
    (backend : B)
    (ops : List Op) :
    Runs.Throughout Op.step
      (fun store =>
        store.pageCache.len ≤ store.config.cacheSizeLimit)
      (new config backend) ops := by
  apply Runs.throughout_of_step
  · intro store op hLimit
    exact cacheEntries_le_limit_step op hLimit
  · exact Nat.zero_le _

end StateStore

end IsaWorkspace

------------------------------------------------------------
-- Bytes
------------------------------------------------------------

namespace IsaWorkspace

namespace StateStore

variable {B : Type}

/- The number of bytes held in the page cache. -/
def cacheBytes
    (store : StateStore B) : Nat :=
  HashMap.weight List.length store.pageCache

/- The bytes cached are within the documented limit. -/
def WithinBudget
    (store : StateStore B) : Prop :=
  store.cacheBytes ≤ store.config.cacheSizeLimit

variable [StorageBackendTrait B]
variable [Sha256] [SerdeJson State]

/-
  An object the count of entries lets into the cache also
  fits by its length, next to the objects of other keys.
-/
def FitsBudget
    (store : StateStore B)
    (op : Op) : Prop :=
  ∀ contentHash content,
    op.offered store = some (contentHash, content) →
    store.pageCache.len < store.config.cacheSizeLimit →
      HashMap.weight List.length
            (store.pageCache.erase contentHash) +
          content.length ≤
        store.config.cacheSizeLimit

variable [BuildProfile]

/-
  From a store within its budget, a step stays within it
  exactly when what it lets into the cache fits.
-/
theorem withinBudget_step_iff
    {store : StateStore B}
    {op : Op}
    (hBudget : WithinBudget store) :
    WithinBudget (op.step store) ↔ FitsBudget store op := by
  unfold WithinBudget cacheBytes at hBudget ⊢
  unfold FitsBudget
  rw [config_step]
  rcases pageCache_step op store with
    hCache | ⟨hNone, contentHash, hCache⟩
  · rw [hCache]
    cases hOffered : op.offered store with
    | none =>
        constructor
        · intro _ contentHash content hSome
          cases hSome
        · intro _
          exact hBudget
    | some object =>
        rcases object with ⟨contentHash, content⟩
        simp only [cacheAfter, cached_pageCache]
        by_cases hRoom :
            store.pageCache.len <
              store.config.cacheSizeLimit
        · rw [if_pos hRoom, HashMap.weight_insert]
          constructor
          · intro hFits other data hSome _
            cases hSome
            exact hFits
          · intro hFits
            exact hFits contentHash content rfl hRoom
        · rw [if_neg hRoom]
          constructor
          · intro _ other data _ hRoom'
            exact absurd hRoom' hRoom
          · intro _
            exact hBudget
  · rw [hCache]
    constructor
    · intro _ other data hSome
      rw [hNone] at hSome
      cases hSome
    · intro _
      exact
        (HashMap.weight_erase_le _ _ _).trans hBudget

/-
  A run stays within the documented budget exactly when every
  object it lets into the cache fits.
-/
theorem withinBudget_iff
    (config : StateStoreConfig)
    (backend : B)
    (ops : List Op) :
    Runs.Throughout Op.step WithinBudget
        (new config backend) ops ↔
      Runs.AlongRun Op.step FitsBudget
        (new config backend) ops := by
  have hStart : WithinBudget (new config backend) :=
    Nat.zero_le _
  have hStep :
      ∀ (store : StateStore B) op, WithinBudget store →
        (WithinBudget (Op.step store op) ↔
          FitsBudget store op) :=
    fun _ _ hBudget => withinBudget_step_iff hBudget
  exact Runs.throughout_iff_alongRun hStep ops hStart

end StateStore

end IsaWorkspace

namespace IsaWorkspace

namespace StateStore

open Sample

/- One state of 420 bytes exceeds a limit of one byte. -/
theorem not_withinBudget_first :
    ¬ Runs.Throughout Op.step WithinBudget
      (new ⟨1⟩ MemoryBackend.new : StateStore MemoryBackend)
      [.state (.storeState epoch epoch first)] := by
  intro hBudget
  have hLast := hBudget.last
  revert hLast
  unfold WithinBudget
  decide +kernel

end StateStore

end IsaWorkspace
