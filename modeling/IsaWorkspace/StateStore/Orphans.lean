import IsaWorkspace.StateStore.IndexEffects

/-
  State content that no index entry refers to any more.

  Deleting a state takes its content along.  Storing a state
  over a present id forgets the content stored there before,
  and a state whose expiration date is out of range leaves
  content that was never entered.  A run orphans nothing
  exactly when neither happens to content of no other entry.

  Main declarations:
    * `Referenced`, `NoOrphan`
    * `LeavesNoOrphan`
    * `noOrphan_step_iff`
    * `noOrphan_iff`
-/

------------------------------------------------------------
-- Referenced Content
------------------------------------------------------------

namespace IsaWorkspace

namespace StateStore

/- Some entry of the index has this content. -/
def Referenced
    (index : HashMap StateId StoredState)
    (contentHash : ContentAddress) : Prop :=
  ∃ stateId stored,
    index.lookup stateId = some stored ∧
      stored.contentHash = contentHash

instance
    (index : HashMap StateId StoredState)
    (contentHash : ContentAddress) :
    Decidable (Referenced index contentHash) :=
  decidable_of_iff
    (∃ stateId ∈ index.keys,
      ∃ stored ∈ index.lookup stateId,
        stored.contentHash = contentHash)
    ⟨fun ⟨stateId, _, stored, hStored, hHash⟩ =>
      ⟨stateId, stored, hStored, hHash⟩,
      fun ⟨stateId, stored, hStored, hHash⟩ =>
        ⟨stateId,
          Finmap.mem_keys.mpr
            (Finmap.mem_of_lookup_eq_some hStored),
          stored, hStored, hHash⟩⟩

variable {index : HashMap StateId StoredState}
variable {stateId : StateId} {stored : StoredState}
variable {contentHash : ContentAddress}

/- A written entry refers to its own content. -/
theorem referenced_insert_iff :
    Referenced (index.insert stateId stored) contentHash ↔
      stored.contentHash = contentHash ∨
        Referenced (index.erase stateId) contentHash := by
  constructor
  · rintro ⟨other, entry, hLookup, hHash⟩
    rw [HashMap.lookup_insert_eq_ite] at hLookup
    by_cases hSame : other = stateId
    · rw [if_pos hSame] at hLookup
      cases hLookup
      exact Or.inl hHash
    · rw [if_neg hSame] at hLookup
      refine Or.inr ⟨other, entry, ?_, hHash⟩
      rw [HashMap.lookup_erase_eq_ite, if_neg hSame]
      exact hLookup
  · rintro (hHash | ⟨other, entry, hLookup, hHash⟩)
    · exact
        ⟨stateId, stored, Finmap.lookup_insert index, hHash⟩
    · rw [HashMap.lookup_erase_eq_ite] at hLookup
      by_cases hSame : other = stateId
      · rw [if_pos hSame] at hLookup
        cases hLookup
      · rw [if_neg hSame] at hLookup
        refine ⟨other, entry, ?_, hHash⟩
        rw [HashMap.lookup_insert_eq_ite, if_neg hSame]
        exact hLookup

/- A present entry's content, or another entry's. -/
theorem referenced_iff_of_lookup
    (hFound : index.lookup stateId = some stored) :
    Referenced index contentHash ↔
      stored.contentHash = contentHash ∨
        Referenced (index.erase stateId) contentHash := by
  rw [← referenced_insert_iff,
    HashMap.insert_lookup hFound]

/- Rewriting an entry at its address changes no reference. -/
theorem referenced_rewrite
    (hFound : index.lookup stateId = some stored)
    {stored' : StoredState}
    (hAddress :
      stored'.contentHash = stored.contentHash) :
    Referenced (index.insert stateId stored') contentHash ↔
      Referenced index contentHash := by
  rw [referenced_insert_iff,
    referenced_iff_of_lookup hFound, hAddress]

/- Every object of the backend is some entry's content. -/
def NoOrphan
    (store : StateStore MemoryBackend) : Prop :=
  ∀ contentHash ∈ store.backend.store.keys,
    Referenced store.index contentHash

instance
    (store : StateStore MemoryBackend) :
    Decidable (NoOrphan store) := by
  unfold NoOrphan
  infer_instance

/-
  Storing a state over an entry with other content, which is
  still stored, finds another entry with that content.  If
  the expiration date is out of range, the new content is
  already some entry's.
-/
def LeavesNoOrphan
    [Sha256] [SerdeJson State]
    (store : StateStore MemoryBackend)
    (op : StateOp) : Prop :=
  match op with
  | .storeState now _ newState =>
      ∀ bytes, SerdeJson.toVec newState = .ok bytes →
        match expiresAt now newState.metadata.ttlSeconds with
        | none => Referenced store.index (computeHash bytes)
        | some _ =>
            ∀ old ∈ store.index.lookup newState.stateId,
              old.contentHash ∈ store.backend.store →
              old.contentHash ≠ computeHash bytes →
                Referenced
                  (store.index.erase newState.stateId)
                  old.contentHash
  | _ => True

------------------------------------------------------------
-- Single Steps
------------------------------------------------------------

variable {store : StateStore MemoryBackend}

/- Rewriting an entry at its address orphans nothing. -/
theorem NoOrphan.rewrite
    (hNone : NoOrphan store)
    (hFound : store.index.lookup stateId = some stored)
    {stored' : StoredState}
    (hAddress :
      stored'.contentHash = stored.contentHash) :
    NoOrphan
      { store with
        index := store.index.insert stateId stored' } := by
  intro contentHash hStored
  exact
    (referenced_rewrite hFound hAddress).mpr
      (hNone contentHash hStored)

/- Counting references orphans nothing. -/
theorem NoOrphan.recounted
    {after : StateStore MemoryBackend}
    (hNone : NoOrphan store)
    (hCount : Recounted store after) :
    NoOrphan after := by
  rcases hCount with rfl | ⟨_, _, _, hFound, rfl⟩
  · exact hNone
  · exact hNone.rewrite hFound rfl

/- Deleting an entry with its content orphans nothing. -/
theorem noOrphan_deleteState
    (hNone : NoOrphan store)
    (stateId : StateId) :
    NoOrphan (deleteState stateId store).2 := by
  rw [deleteState_eq]
  cases hFound : store.index.lookup stateId with
  | none => exact hNone
  | some stored =>
      dsimp only
      by_cases hLast : stored.refCount ≤ 1
      · rw [if_pos hLast, MemoryBackend.delete_apply]
        intro contentHash hStored
        dsimp only at hStored ⊢
        rw [Finmap.keys_erase, Finset.mem_erase] at hStored
        have hReferenced :=
          hNone contentHash hStored.2
        rw [referenced_iff_of_lookup hFound] at hReferenced
        exact
          hReferenced.resolve_left fun hSame =>
            hStored.1 hSame.symm
      · rw [if_neg hLast]
        exact hNone.rewrite hFound rfl

variable [Sha256] [SerdeJson State]

/-
  Storing a state orphans nothing exactly under the
  condition.
-/
theorem noOrphan_storeState_iff
    (hNone : NoOrphan store)
    (now createdAt : DateTime)
    (newState : State) :
    NoOrphan (storeState now createdAt newState store).2 ↔
      LeavesNoOrphan store
        (.storeState now createdAt newState) := by
  unfold LeavesNoOrphan
  dsimp only
  rw [storeState_eq]
  cases hJson : SerdeJson.toVec newState with
  | error message =>
      apply iff_of_true hNone
      intro bytes hBytes
      cases hBytes
  | ok bytes =>
      dsimp only
      rw [MemoryBackend.put_apply]
      simp only [Except.ok.injEq, forall_eq']
      have hMem :
          ∀ contentHash,
            contentHash ∈
                (store.backend.store.insert
                  (computeHash bytes) bytes).keys ↔
              contentHash = computeHash bytes ∨
                contentHash ∈ store.backend.store.keys := by
        intro contentHash
        rw [Finmap.mem_keys, Finmap.mem_insert,
          Finmap.mem_keys]
      cases expiresAt now newState.metadata.ttlSeconds with
      | none =>
          constructor
          · intro hAfter
            exact hAfter _ ((hMem _).mpr (Or.inl rfl))
          · intro hReferenced contentHash hStored
            rcases (hMem _).mp hStored with rfl | hOld
            · exact hReferenced
            · exact hNone contentHash hOld
      | some expiration =>
          unfold NoOrphan
          dsimp only
          simp only [cached_index, cached_backend]
          constructor
          · intro hAfter old hFound hStored hOther
            have hReferenced :=
              hAfter old.contentHash
                ((hMem _).mpr
                  (Or.inr (Finmap.mem_keys.mpr hStored)))
            rw [referenced_insert_iff] at hReferenced
            exact
              hReferenced.resolve_left fun hSame =>
                hOther hSame.symm
          · intro hSpares contentHash hStored
            rw [referenced_insert_iff]
            by_cases hSame :
                contentHash = computeHash bytes
            · exact Or.inl hSame.symm
            · right
              have hOld :=
                ((hMem _).mp hStored).resolve_left hSame
              have hReferenced := hNone contentHash hOld
              cases hFound :
                  store.index.lookup newState.stateId with
              | none =>
                  rw [HashMap.erase_of_lookup_none hFound]
                  exact hReferenced
              | some old =>
                  rw [referenced_iff_of_lookup hFound]
                    at hReferenced
                  rcases hReferenced with rfl | hShared
                  · exact
                      hSpares old hFound
                        (Finmap.mem_keys.mp hOld) hSame
                  · exact hShared

variable [BuildProfile]

/-
  From a store without orphans, a step leads to one without
  orphans exactly when it meets the condition.
-/
theorem noOrphan_step_iff
    {op : StateOp}
    (hNone : NoOrphan store) :
    NoOrphan (op.step store) ↔ LeavesNoOrphan store op := by
  cases op with
  | storeState now createdAt newState =>
      exact
        noOrphan_storeState_iff hNone now createdAt newState
  | deleteState stateId =>
      exact
        iff_of_true (noOrphan_deleteState hNone stateId)
          trivial
  | incrementRef stateId =>
      exact
        iff_of_true
          (hNone.recounted
            (incrementRef_recounted stateId store))
          trivial
  | decrementRef stateId =>
      exact
        iff_of_true
          (hNone.recounted
            (decrementRef_recounted stateId store))
          trivial

------------------------------------------------------------
-- Runs
------------------------------------------------------------

/-
  A run orphans nothing exactly when all its steps meet the
  condition.
-/
theorem noOrphan_iff
    (config : StateStoreConfig)
    (ops : List StateOp) :
    Runs.Throughout StateOp.step NoOrphan
        (new config MemoryBackend.new) ops ↔
      Runs.AlongRun StateOp.step LeavesNoOrphan
        (new config MemoryBackend.new) ops := by
  have hStart :
      NoOrphan (new config MemoryBackend.new) := by
    intro contentHash hStored
    simp [new, MemoryBackend.new] at hStored
  have hStep :
      ∀ (store : StateStore MemoryBackend) op,
        NoOrphan store →
        (NoOrphan (StateOp.step store op) ↔
          LeavesNoOrphan store op) :=
    fun _ _ hStore => noOrphan_step_iff hStore
  exact Runs.throughout_iff_alongRun hStep ops hStart

end StateStore

end IsaWorkspace

namespace IsaWorkspace

namespace StateStore

open Sample

/- Storing a revised state orphans the first content. -/
theorem not_noOrphan_revised :
    ¬ Runs.Throughout StateOp.step NoOrphan
      (new ⟨2⟩ MemoryBackend.new)
      [.storeState epoch epoch first,
        .storeState epoch epoch revised] := by
  decide +kernel

end StateStore

end IsaWorkspace
