import IsaWorkspace.StateStore.Steps

/-
  The page cache against the backend, the collector included.

  A store is coherent when its cache is part of its backend.
  `deleteState` takes an object out of both, the collector
  only out of the backend.  A run stays coherent exactly
  when no put replaces a cached object the cache then keeps,
  and no round collects a state whose content is cached.

  Main declarations:
    * `Coherent`, `ReadsStored`
    * `KeepsCoherent`
    * `coherent_gcRemoveAll_iff`
    * `coherent_step_iff`
    * `coherent_iff`
-/

------------------------------------------------------------
-- Coherent Stores
------------------------------------------------------------

namespace IsaWorkspace

namespace StateStore

/- Every cached object is stored with the same bytes. -/
def Coherent
    (store : StateStore MemoryBackend) : Prop :=
  HashMap.SubMap store.pageCache store.backend.store

instance
    (store : StateStore MemoryBackend) :
    Decidable (Coherent store) :=
  inferInstanceAs (Decidable (HashMap.SubMap _ _))

/- What is read is content the backend still has. -/
structure ReadsStored
    [SerdeJson State]
    (store : StateStore MemoryBackend) : Prop where
  page :
    ∀ contentHash content,
      (getPage contentHash store).1 = .ok content →
        store.backend.store.lookup contentHash =
          some content
  state :
    ∀ stateId state,
      (getState stateId store).1 = .ok state →
        ∃ stored content,
          store.index.lookup stateId = some stored ∧
            store.backend.store.lookup
                stored.contentHash = some content ∧
              SerdeJson.fromSlice content = .ok state

/- A coherent store reads what the backend has. -/
theorem readsStored_of_coherent
    [SerdeJson State]
    {store : StateStore MemoryBackend}
    (hCoherent : Coherent store) :
    ReadsStored store := by
  have hHolds :
      Holds
        (fun key data =>
          store.backend.store.lookup key = some data)
        store :=
    ⟨hCoherent, fun _ _ hLookup => hLookup⟩
  constructor
  · intro contentHash content hGet
    exact hHolds.of_fetchContent hGet
  · intro stateId state hGet
    rw [getState_eq] at hGet
    cases hFound : store.index.lookup stateId with
    | none => simp [hFound] at hGet
    | some stored =>
        rcases hFetch :
            fetchContent stored.contentHash store with
          ⟨outcome, store'⟩
        simp only [hFound, hFetch] at hGet
        cases outcome with
        | err error => cases hGet
        | panicked => cases hGet
        | ok content =>
            have hContent :=
              hHolds.of_fetchContent (by rw [hFetch])
            refine ⟨stored, content, rfl, hContent, ?_⟩
            dsimp only at hGet
            split at hGet
            · next found hFound' =>
                cases hGet
                exact hFound'
            · cases hGet

------------------------------------------------------------
-- The Condition
------------------------------------------------------------

/-
  An object may be put under a key if the cache has no other
  object there, or if it takes the new object.
-/
def MayPut
    (store : StateStore MemoryBackend)
    (contentHash : ContentAddress)
    (content : Bytes) : Prop :=
  store.pageCache.lookup contentHash = none ∨
    store.pageCache.lookup contentHash = some content ∨
      store.pageCache.len < store.config.cacheSizeLimit

/-
  Puts do not disagree with the cache, and the collector
  leaves states alone whose content is cached.  A state with
  an expiration date out of range never gets to the cache.
-/
def KeepsCoherent
    [Sha256] [SerdeJson State]
    (store : StateStore MemoryBackend)
    (action : Action) : Prop :=
  match action with
  | .op (.state (.storeState now _ newState)) =>
      ∀ bytes, SerdeJson.toVec newState = .ok bytes →
        match expiresAt now newState.metadata.ttlSeconds with
        | some _ => MayPut store (computeHash bytes) bytes
        | none =>
            store.pageCache.lookup (computeHash bytes) =
                none ∨
              store.pageCache.lookup (computeHash bytes) =
                some bytes
  | .op (.storePage page) =>
      MayPut store page.pageHash page.data
  | .gcSweep now order =>
      ∀ stateId ∈ gcScan now order store,
        ∀ stored ∈ store.index.lookup stateId,
          store.pageCache.lookup stored.contentHash = none
  | _ => True

------------------------------------------------------------
-- Single Calls
------------------------------------------------------------

/- Counting references keeps a store coherent. -/
theorem Coherent.recounted
    {before after : StateStore MemoryBackend}
    (hCoherent : Coherent before)
    (hCount : Recounted before after) :
    Coherent after := by
  unfold Coherent
  rw [hCount.pageCache_eq, hCount.backend_eq]
  exact hCoherent

/- A put followed by an offer to the cache. -/
theorem coherent_put_cached_iff
    {store : StateStore MemoryBackend}
    (hCoherent : Coherent store)
    (index : HashMap StateId StoredState)
    (contentHash : ContentAddress)
    (content : Bytes) :
    Coherent
        ({ store with
          index := index
          backend :=
            MemoryBackend.mk
              (store.backend.store.insert contentHash
                content) }.cached contentHash content) ↔
      MayPut store contentHash content := by
  unfold Coherent MayPut
  rw [cached_pageCache, cached_backend]
  by_cases hRoom :
      store.pageCache.len < store.config.cacheSizeLimit
  · rw [if_pos hRoom]
    constructor
    · intro _
      exact Or.inr (Or.inr hRoom)
    · intro _
      exact hCoherent.insert_both contentHash content
  · rw [if_neg hRoom]
    have hIff :=
      HashMap.subMap_insert_iff hCoherent contentHash
        content
    simpa only [hRoom, or_false] using hIff

/- Reading content keeps a store coherent. -/
theorem coherent_fetchContent
    {store : StateStore MemoryBackend}
    (hCoherent : Coherent store)
    (contentHash : ContentAddress) :
    Coherent (fetchContent contentHash store).2 := by
  rw [fetchContent_eq]
  cases store.pageCache.lookup contentHash with
  | some content => exact hCoherent
  | none =>
      dsimp only
      rw [MemoryBackend.get_apply]
      cases hStored :
          store.backend.store.lookup contentHash with
      | none => exact hCoherent
      | some content =>
          unfold Coherent
          dsimp only
          rw [cached_pageCache, cached_backend]
          split
          · exact hCoherent.insert_small hStored
          · exact hCoherent

/- Deleting a state keeps a store coherent. -/
theorem coherent_deleteState
    {store : StateStore MemoryBackend}
    (hCoherent : Coherent store)
    (stateId : StateId) :
    Coherent (deleteState stateId store).2 := by
  rw [deleteState_eq]
  cases store.index.lookup stateId with
  | none => exact hCoherent
  | some stored =>
      dsimp only
      by_cases hLast : stored.refCount ≤ 1
      · rw [if_pos hLast, MemoryBackend.delete_apply]
        exact hCoherent.erase_both stored.contentHash
      · rw [if_neg hLast]
        exact hCoherent

------------------------------------------------------------
-- The Collector
------------------------------------------------------------

/- Collecting a state over the memory backend returns. -/
theorem gcRemoveAll_cons
    (stateId : StateId)
    (rest : List StateId)
    (store : StateStore MemoryBackend) :
    (gcRemoveAll (stateId :: rest) store).2 =
      (gcRemoveAll rest (gcRemove stateId store).2).2 := by
  have hReturns : (gcRemove stateId store).1 = .ok () := by
    unfold gcRemove
    rw [Exec.read_bind_apply]
    cases store.index.lookup stateId <;> rfl
  have hCall :
      gcRemove stateId store =
        (.ok (), (gcRemove stateId store).2) := by
    rw [← hReturns]
  unfold gcRemoveAll
  rw [Exec.bind_of_ok hCall]
  cases rest <;> rfl

/- The collector leaves the cache alone. -/
theorem gcRemoveAll_pageCache
    (stateIds : List StateId)
    (store : StateStore MemoryBackend) :
    (gcRemoveAll stateIds store).2.pageCache =
      store.pageCache := by
  induction stateIds generalizing store with
  | nil => rfl
  | cons stateId rest ih =>
      rw [gcRemoveAll_cons, ih, gcRemove_eq]
      cases store.index.lookup stateId <;> rfl

/- The collector only takes objects away. -/
theorem gcRemoveAll_subMap
    (stateIds : List StateId)
    (store : StateStore MemoryBackend) :
    HashMap.SubMap
      (gcRemoveAll stateIds store).2.backend.store
      store.backend.store := by
  induction stateIds generalizing store with
  | nil => exact HashMap.SubMap.refl _
  | cons stateId rest ih =>
      rw [gcRemoveAll_cons]
      apply (ih _).trans
      rw [gcRemove_eq]
      cases store.index.lookup stateId with
      | none => exact HashMap.SubMap.refl _
      | some stored =>
          exact HashMap.subMap_erase _ stored.contentHash

/-
  Collecting states keeps a store coherent exactly when none
  of their content is cached.
-/
theorem coherent_gcRemoveAll_iff
    {store : StateStore MemoryBackend}
    (hCoherent : Coherent store)
    (stateIds : List StateId) :
    Coherent (gcRemoveAll stateIds store).2 ↔
      ∀ stateId ∈ stateIds,
        ∀ stored ∈ store.index.lookup stateId,
          store.pageCache.lookup stored.contentHash =
            none := by
  induction stateIds generalizing store with
  | nil =>
      constructor
      · intro _ stateId hMem
        cases hMem
      · intro _
        exact hCoherent
  | cons stateId rest ih =>
      rw [gcRemoveAll_cons, List.forall_mem_cons]
      have hRemove := gcRemove_eq stateId store
      cases hFound : store.index.lookup stateId with
      | none =>
          rw [hFound] at hRemove
          rw [hRemove, ih hCoherent]
          simp
      | some stored =>
          rw [hFound] at hRemove
          have hErase :=
            HashMap.subMap_erase_iff hCoherent
              stored.contentHash
          have hStep :
              Coherent (gcRemove stateId store).2 ↔
                store.pageCache.lookup stored.contentHash =
                  none := by
            rw [hRemove]
            exact hErase
          by_cases hAbsent :
              store.pageCache.lookup stored.contentHash =
                none
          · rw [ih (hStep.mpr hAbsent), hRemove]
            constructor
            · intro hRest
              refine ⟨?_, ?_⟩
              · intro entry hEntry
                cases hEntry
                exact hAbsent
              · intro other hOther entry hEntry
                by_cases hSame : other = stateId
                · rw [hSame, hFound] at hEntry
                  cases hEntry
                  exact hAbsent
                · apply hRest other hOther entry
                  rw [HashMap.lookup_erase_eq_ite,
                    if_neg hSame]
                  exact hEntry
            · rintro ⟨_, hRest⟩ other hOther entry hEntry
              rw [HashMap.lookup_erase_eq_ite] at hEntry
              split at hEntry
              · cases hEntry
              · exact hRest other hOther entry hEntry
          · constructor
            · intro hAfter
              -- the rest of the round only erases more
              have hShrinks :=
                gcRemoveAll_subMap rest
                  (gcRemove stateId store).2
              unfold Coherent at hAfter
              rw [gcRemoveAll_pageCache] at hAfter
              exact absurd
                (hStep.mp (hAfter.trans hShrinks)) hAbsent
            · rintro ⟨hFirst, _⟩
              exact absurd (hFirst stored rfl) hAbsent

variable [Sha256] [SerdeJson State] [BuildProfile]

------------------------------------------------------------
-- Runs
------------------------------------------------------------

/-
  From a coherent store, a step leads to a coherent store
  exactly when it meets the condition.
-/
theorem coherent_step_iff
    {store : StateStore MemoryBackend}
    {action : Action}
    (hCoherent : Coherent store) :
    Coherent (action.step store) ↔
      KeepsCoherent store action := by
  cases action with
  | gcSweep now order =>
      exact coherent_gcRemoveAll_iff hCoherent _
  | op clientOp =>
      cases clientOp with
      | getState stateId =>
          apply iff_of_true ?_ trivial
          simp only [Action.step, Op.step, Op.exec]
          rw [getState_store]
          split
          · exact hCoherent
          · exact coherent_fetchContent hCoherent _
      | getPage contentHash =>
          exact iff_of_true
            (coherent_fetchContent hCoherent contentHash)
            trivial
      | storePage page =>
          simp only [Action.step, Op.step, Op.exec]
          rw [storePage_eq, MemoryBackend.put_apply]
          exact coherent_put_cached_iff hCoherent
            store.index page.pageHash page.data
      | state stateOp =>
          cases stateOp with
          | deleteState stateId =>
              exact iff_of_true
                (coherent_deleteState hCoherent stateId)
                trivial
          | incrementRef stateId =>
              exact iff_of_true
                (hCoherent.recounted
                  (incrementRef_recounted stateId store))
                trivial
          | decrementRef stateId =>
              exact iff_of_true
                (hCoherent.recounted
                  (decrementRef_recounted stateId store))
                trivial
          | storeState now createdAt newState =>
              simp only [Action.step, Op.step, Op.exec,
                StateOp.exec, KeepsCoherent]
              rw [storeState_eq]
              cases hJson : SerdeJson.toVec newState with
              | error message =>
                  apply iff_of_true hCoherent
                  intro bytes hBytes
                  cases hBytes
              | ok bytes =>
                  dsimp only
                  rw [MemoryBackend.put_apply]
                  simp only [Except.ok.injEq, forall_eq']
                  cases expiresAt now
                      newState.metadata.ttlSeconds with
                  | none =>
                      exact HashMap.subMap_insert_iff
                        hCoherent _ _
                  | some expiration =>
                      exact coherent_put_cached_iff
                        hCoherent _ _ _

/-
  Throughout a run, the cache is part of the backend and
  nothing deleted is read, exactly when all its steps meet
  the condition.
-/
theorem coherent_iff
    (config : StateStoreConfig)
    (actions : List Action) :
    Runs.Throughout Action.step
        (fun store => Coherent store ∧ ReadsStored store)
        (new config MemoryBackend.new) actions ↔
      Runs.AlongRun Action.step KeepsCoherent
        (new config MemoryBackend.new) actions := by
  have hStart :
      Coherent (new config MemoryBackend.new) := by
    intro key value hLookup
    simp [new] at hLookup
  have hStep :
      ∀ (store : StateStore MemoryBackend) action,
        Coherent store ∧ ReadsStored store →
        ((Coherent (Action.step store action) ∧
            ReadsStored (Action.step store action)) ↔
          KeepsCoherent store action) := by
    intro store action hStore
    rw [← coherent_step_iff hStore.1]
    exact
      ⟨fun hAfter => hAfter.1, fun hAfter =>
        ⟨hAfter, readsStored_of_coherent hAfter⟩⟩
  exact Runs.throughout_iff_alongRun hStep actions
    ⟨hStart, readsStored_of_coherent hStart⟩

end StateStore

end IsaWorkspace

namespace IsaWorkspace

namespace StateStore

open Sample

/- A collected state is still served from the cache. -/
theorem not_coherent_collected :
    ¬ Runs.Throughout Action.step
      (fun store => Coherent store ∧ ReadsStored store)
      (new ⟨2⟩ MemoryBackend.new)
      [.op (.state (.storeState epoch epoch first)),
        .op (.state (.decrementRef first.stateId)),
        .gcSweep tenMinutesLater [first.stateId]] := by
  intro hRun
  have hCoherent :
      Runs.Throughout Action.step Coherent _ _ :=
    hRun.mono fun _ hStore => hStore.1
  revert hCoherent
  decide +kernel

end StateStore

end IsaWorkspace
