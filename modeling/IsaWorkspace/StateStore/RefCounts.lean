import IsaWorkspace.StateStore.IndexEffects

/-
  The reference count of a state against its history.

  A `Ledger` pairs a store with a tally of the references
  taken and given up on each id since it was last absent.
  The count of an entry is one more than what the tally
  leaves outstanding, exactly in the runs that store no
  referenced id again and overflow no count.

  Main declarations:
    * `Tally`, `Ledger`
    * `RefCountLaw`, `DeleteSafe`
    * `KeepsReferences`
    * `refCountLaw_step`
    * `refCounts_iff`
-/

------------------------------------------------------------
-- Tallies
------------------------------------------------------------

namespace IsaWorkspace

/- References taken and given up on one id. -/
structure Tally where
  increments : Nat
  decrements : Nat
deriving DecidableEq

/- A store and the tallies of the run that led to it. -/
structure Ledger (B : Type) where
  store : StateStore B
  tally : StateId → Tally

variable {B : Type}

/- An increment of the id that returns. -/
def StateOp.takesRef
    [BuildProfile]
    (op : StateOp)
    (stateId : StateId)
    (store : StateStore B) : Bool :=
  match op with
  | .incrementRef other =>
      decide
        (other = stateId ∧
          (StateStore.incrementRef other store).1 = .ok ())
  | _ => false

/-
  A decrement of the id that takes effect: a call on a
  positive count, or a deletion with a count above one.
-/
def StateOp.givesRef
    (op : StateOp)
    (stateId : StateId)
    (store : StateStore B) : Bool :=
  match op, store.index.lookup stateId with
  | .decrementRef other, some stored =>
      decide (other = stateId ∧ 0 < stored.refCount)
  | .deleteState other, some stored =>
      decide (other = stateId ∧ 1 < stored.refCount)
  | _, _ => false

namespace Ledger

/- Nothing is outstanding on a new store. -/
def new
    (config : StateStoreConfig)
    (backend : B) : Ledger B where
  store := StateStore.new config backend
  tally := fun _ => ⟨0, 0⟩

variable [StorageBackendTrait B]
variable [Sha256] [SerdeJson State] [BuildProfile]

/-
  Perform an operation and count it.  The tally of an id
  outside the index starts anew.
-/
def step
    (ledger : Ledger B)
    (op : StateOp) : Ledger B where
  store := op.step ledger.store
  tally := fun stateId =>
    if stateId ∈ (op.step ledger.store).index then
      { increments :=
          (ledger.tally stateId).increments +
            (op.takesRef stateId ledger.store).toNat
        decrements :=
          (ledger.tally stateId).decrements +
            (op.givesRef stateId ledger.store).toNat }
    else
      ⟨0, 0⟩

end Ledger

end IsaWorkspace

------------------------------------------------------------
-- The Law
------------------------------------------------------------

namespace IsaWorkspace

namespace StateStore

variable {B : Type}

/- One entry's count is one plus what is outstanding. -/
def Counted
    (tally : Tally)
    (stored : StoredState) : Prop :=
  stored.refCount.toNat + tally.decrements =
    1 + tally.increments

/-
  Every entry's count is one plus what is outstanding, and
  an id that is not in the index has nothing outstanding.
-/
structure RefCountLaw
    (ledger : Ledger B) : Prop where
  present :
    ∀ stateId stored,
      ledger.store.index.lookup stateId = some stored →
        Counted (ledger.tally stateId) stored
  absent :
    ∀ stateId,
      ledger.store.index.lookup stateId = none →
        ledger.tally stateId = ⟨0, 0⟩

variable [StorageBackendTrait B]

/-
  Deleting an id with an outstanding reference leaves it in
  the index, and all content where it is.
-/
def DeleteSafe
    (ledger : Ledger B) : Prop :=
  ∀ stateId,
    (ledger.tally stateId).decrements <
      (ledger.tally stateId).increments →
    let after := (deleteState stateId ledger.store).2
    stateId ∈ after.index ∧
      after.pageCache = ledger.store.pageCache ∧
      after.backend = ledger.store.backend

variable [Sha256] [SerdeJson State] [BuildProfile]

/-
  A state stored over a present entry finds one reference,
  and an increment does not wrap the count around.
-/
def KeepsReferences
    (ledger : Ledger B)
    (op : StateOp) : Prop :=
  match op with
  | .storeState now createdAt newState =>
      ∀ stored,
        ledger.store.index.lookup newState.stateId =
          some stored →
        (entered now createdAt newState
          ledger.store).isSome →
        stored.refCount = 1
  | .incrementRef stateId =>
      ∀ stored,
        ledger.store.index.lookup stateId = some stored →
          BuildProfile.overflowChecks = true ∨
            stored.refCount.toNat + 1 < 2 ^ 64
  | _ => True

end StateStore

end IsaWorkspace

------------------------------------------------------------
-- Steps
------------------------------------------------------------

namespace IsaWorkspace

namespace StateStore

/- Counting down a positive word is exact. -/
theorem toNat_countDown
    {count : UInt64}
    (hPositive : 0 < count) :
    (count - 1).toNat + 1 = count.toNat := by
  have hOne : (1 : UInt64).toNat ≤ count.toNat :=
    UInt64.lt_iff_toNat_lt.mp hPositive
  have hSub :
      (count - 1).toNat =
        count.toNat - (1 : UInt64).toNat :=
    UInt64.toNat_sub_of_le count 1
      (UInt64.le_iff_toNat_le.mpr hOne)
  change 1 ≤ count.toNat at hOne
  change (count - 1).toNat = count.toNat - 1 at hSub
  omega

variable {B : Type} [StorageBackendTrait B]
variable [Sha256] [SerdeJson State] [BuildProfile]

variable {ledger : Ledger B} {op : StateOp}
variable {stateId : StateId} {stored : StoredState}

/- A present id's tally grows by what the operation did. -/
theorem tally_step
    (hAfter :
      (op.step ledger.store).index.lookup stateId =
        some stored) :
    (ledger.step op).tally stateId =
      { increments :=
          (ledger.tally stateId).increments +
            (op.takesRef stateId ledger.store).toNat
        decrements :=
          (ledger.tally stateId).decrements +
            (op.givesRef stateId ledger.store).toNat } := by
  have hMem : stateId ∈ (op.step ledger.store).index :=
    Finmap.mem_of_lookup_eq_some hAfter
  unfold Ledger.step
  exact if_pos hMem

/- An absent id's tally is empty. -/
theorem tally_step_of_absent
    (hAfter :
      (op.step ledger.store).index.lookup stateId = none) :
    (ledger.step op).tally stateId = ⟨0, 0⟩ := by
  have hMem : stateId ∉ (op.step ledger.store).index :=
    Finmap.lookup_eq_none.mp hAfter
  unfold Ledger.step
  exact if_neg hMem

/- Only the target's references are taken. -/
omit [StorageBackendTrait B] [Sha256] [SerdeJson State] in
theorem takesRef_of_ne
    {store : StateStore B}
    (hNe : stateId ≠ op.target) :
    op.takesRef stateId store = false := by
  cases op with
  | incrementRef target =>
      exact decide_eq_false fun hSame =>
        hNe hSame.1.symm
  | storeState now createdAt newState => rfl
  | decrementRef target => rfl
  | deleteState target => rfl

/- Only the target's references are given up. -/
omit [StorageBackendTrait B] [Sha256] [SerdeJson State]
  [BuildProfile] in
theorem givesRef_of_ne
    {store : StateStore B}
    (hNe : stateId ≠ op.target) :
    op.givesRef stateId store = false := by
  unfold StateOp.givesRef
  split
  · exact decide_eq_false fun hSame => hNe hSame.1.symm
  · exact decide_eq_false fun hSame => hNe hSame.1.symm
  · rfl

/- An increment of a present entry returns with its sum. -/
omit [StorageBackendTrait B] [Sha256] [SerdeJson State] in
theorem takesRef_incrementRef
    {store : StateStore B}
    (hFound : store.index.lookup stateId = some stored) :
    (StateOp.incrementRef stateId).takesRef stateId store =
      (checkedAdd stored.refCount 1).isSome := by
  unfold StateOp.takesRef
  dsimp only
  rw [Bool.eq_iff_iff, decide_eq_true_iff,
    incrementRef_eq, hFound]
  dsimp only
  cases checkedAdd stored.refCount 1 <;> simp

/- Counting a reference down gives one up. -/
omit [StorageBackendTrait B] [Sha256] [SerdeJson State]
  [BuildProfile] in
theorem Counted.countDown
    {tally : Tally}
    (hCounted : Counted tally stored)
    (hPositive : 0 < stored.refCount) :
    Counted
      { increments := tally.increments
        decrements := tally.decrements + 1 }
      { stored with refCount := stored.refCount - 1 } := by
  have hDown := toNat_countDown hPositive
  unfold Counted at hCounted ⊢
  dsimp only
  omega

/- Counting a reference up within range takes one. -/
omit [StorageBackendTrait B] [Sha256] [SerdeJson State] in
theorem Counted.countUp
    {tally : Tally}
    (hCounted : Counted tally stored)
    {refCount : UInt64}
    (hSum : checkedAdd stored.refCount 1 = some refCount)
    (hRange :
      BuildProfile.overflowChecks = true ∨
        stored.refCount.toNat + 1 < 2 ^ 64) :
    Counted
      { increments := tally.increments + 1
        decrements := tally.decrements }
      { stored with refCount := refCount } := by
  have hExact := toNat_of_checkedAdd hSum hRange
  change refCount.toNat =
    stored.refCount.toNat + 1 at hExact
  unfold Counted at hCounted ⊢
  dsimp only
  omega

/- A fresh entry replaces one with a single reference. -/
theorem counted_of_entered
    (hLaw : RefCountLaw ledger)
    {now createdAt : DateTime}
    {newState : State}
    (hKeeps :
      KeepsReferences ledger
        (.storeState now createdAt newState))
    (hEntered :
      entered now createdAt newState ledger.store =
        some stored) :
    Counted (ledger.tally newState.stateId) stored := by
  have hFresh := refCount_of_entered hEntered
  unfold Counted
  cases hFound :
      ledger.store.index.lookup newState.stateId with
  | none =>
      rw [hLaw.absent _ hFound, hFresh]
      rfl
  | some old =>
      have hOld := hLaw.present _ _ hFound
      have hOne := hKeeps old hFound (by simp [hEntered])
      unfold Counted at hOld
      rw [hFresh, ← hOne]
      exact hOld

/- The law survives at the target of an operation. -/
theorem counted_entryAfter
    (hLaw : RefCountLaw ledger)
    (hKeeps : KeepsReferences ledger op)
    (hAfter : op.entryAfter ledger.store = some stored) :
    Counted
      { increments :=
          (ledger.tally op.target).increments +
            (op.takesRef op.target ledger.store).toNat
        decrements :=
          (ledger.tally op.target).decrements +
            (op.givesRef op.target ledger.store).toNat }
      stored := by
  unfold StateOp.entryAfter at hAfter
  cases op with
  | storeState now createdAt newState =>
      simp only [StateOp.target] at hAfter ⊢
      change Counted (ledger.tally newState.stateId) stored
      cases hEntered :
          entered now createdAt newState ledger.store with
      | none =>
          rw [hEntered, Option.none_or] at hAfter
          exact hLaw.present _ _ hAfter
      | some fresh =>
          rw [hEntered] at hAfter
          cases hAfter
          exact counted_of_entered hLaw hKeeps hEntered
  | incrementRef target =>
      simp only [StateOp.target] at hAfter ⊢
      cases hFound : ledger.store.index.lookup target with
      | none =>
          rw [hFound] at hAfter
          cases hAfter
      | some old =>
          have hOld := hLaw.present _ _ hFound
          rw [takesRef_incrementRef hFound]
          rw [hFound] at hAfter
          dsimp only at hAfter
          cases hSum : checkedAdd old.refCount 1 with
          | none =>
              rw [hSum] at hAfter
              cases hAfter
              exact hOld
          | some refCount =>
              rw [hSum] at hAfter
              cases hAfter
              exact hOld.countUp hSum (hKeeps old hFound)
  | decrementRef target =>
      simp only [StateOp.target] at hAfter ⊢
      cases hFound : ledger.store.index.lookup target with
      | none =>
          rw [hFound] at hAfter
          cases hAfter
      | some old =>
          have hOld := hLaw.present _ _ hFound
          rw [hFound] at hAfter
          dsimp only at hAfter
          by_cases hPositive : 0 < old.refCount
          · rw [if_pos hPositive] at hAfter
            cases hAfter
            simpa [StateOp.givesRef, hFound, hPositive,
              StateOp.takesRef] using
              hOld.countDown hPositive
          · rw [if_neg hPositive] at hAfter
            cases hAfter
            simpa [StateOp.givesRef, hFound, hPositive,
              StateOp.takesRef] using hOld
  | deleteState target =>
      simp only [StateOp.target] at hAfter ⊢
      cases hFound : ledger.store.index.lookup target with
      | none =>
          rw [hFound] at hAfter
          cases hAfter
      | some old =>
          have hOld := hLaw.present _ _ hFound
          rw [hFound] at hAfter
          dsimp only at hAfter
          by_cases hLast : old.refCount ≤ 1
          · rw [if_pos hLast] at hAfter
            cases hAfter
          · rw [if_neg hLast] at hAfter
            cases hAfter
            have hShared : 1 < old.refCount :=
              UInt64.not_le.mp hLast
            have hPositive : 0 < old.refCount :=
              UInt64.lt_trans (by decide) hShared
            simpa [StateOp.givesRef, hFound, hShared,
              StateOp.takesRef] using
              hOld.countDown hPositive

/- A step that keeps the references keeps the law. -/
theorem refCountLaw_step
    (hLaw : RefCountLaw ledger)
    (hKeeps : KeepsReferences ledger op) :
    RefCountLaw (ledger.step op) := by
  constructor
  · intro other entry hAfter
    change
      (op.step ledger.store).index.lookup other =
        some entry at hAfter
    rw [tally_step hAfter]
    by_cases hTarget : other = op.target
    · rw [hTarget, lookup_step_target] at hAfter
      rw [hTarget]
      exact counted_entryAfter hLaw hKeeps hAfter
    · rw [lookup_step_of_ne _ hTarget] at hAfter
      rw [takesRef_of_ne hTarget, givesRef_of_ne hTarget]
      exact hLaw.present other entry hAfter
  · intro other hAfter
    exact tally_step_of_absent hAfter

/- Under the law, a step that keeps it met its condition. -/
theorem keepsReferences_of_law
    (hLaw : RefCountLaw ledger)
    (hAfter : RefCountLaw (ledger.step op)) :
    KeepsReferences ledger op := by
  cases op with
  | storeState now createdAt newState =>
      intro old hFound hEntered
      rcases Option.isSome_iff_exists.mp hEntered with
        ⟨fresh, hFresh⟩
      have hLookup :
          (StateOp.step ledger.store
            (.storeState now createdAt
              newState)).index.lookup newState.stateId =
            some fresh := by
        refine (lookup_step_target _ _).trans ?_
        unfold StateOp.entryAfter
        dsimp only
        rw [hFresh]
        rfl
      have hNew := hAfter.present _ _ hLookup
      rw [tally_step hLookup] at hNew
      change
        Counted (ledger.tally newState.stateId) fresh
          at hNew
      have hOld := hLaw.present _ _ hFound
      unfold Counted at hOld hNew
      rw [refCount_of_entered hFresh] at hNew
      apply UInt64.toNat_inj.mp
      omega
  | incrementRef target =>
      intro old hFound
      by_contra hWraps
      rcases not_or.mp hWraps with ⟨hRelease, hRange⟩
      have hSum :
          checkedAdd old.refCount 1 =
            some (old.refCount + 1) := by
        change
          ¬ old.refCount.toNat + (1 : UInt64).toNat <
            2 ^ 64 at hRange
        unfold checkedAdd
        rw [if_neg hRange, if_neg hRelease]
      have hLookup :
          (StateOp.step ledger.store
            (.incrementRef target)).index.lookup target =
            some
              { old with refCount := old.refCount + 1 } := by
        refine (lookup_step_target _ _).trans ?_
        unfold StateOp.entryAfter
        simp only [StateOp.target, hFound, hSum]
      have hNew := hAfter.present _ _ hLookup
      rw [tally_step hLookup,
        takesRef_incrementRef hFound, hSum] at hNew
      have hOld := hLaw.present _ _ hFound
      change
        (old.refCount + 1).toNat +
            (ledger.tally target).decrements =
          1 + ((ledger.tally target).increments + 1) at hNew
      unfold Counted at hOld
      have hZero : (old.refCount + 1).toNat = 0 := by
        have hBound := old.refCount.toNat_lt
        rw [UInt64.toNat_add]
        change (old.refCount.toNat + 1) % 2 ^ 64 = 0
        omega
      omega
  | decrementRef target => trivial
  | deleteState target => trivial

/- Under the law, an outstanding reference protects. -/
omit [Sha256] [SerdeJson State] [BuildProfile] in
theorem deleteSafe_of_law
    (hLaw : RefCountLaw ledger) :
    DeleteSafe ledger := by
  intro target hOutstanding after
  have hDelete :
      after = (deleteState target ledger.store).2 := rfl
  clear_value after
  rw [deleteState_eq] at hDelete
  cases hFound : ledger.store.index.lookup target with
  | none =>
      rw [hLaw.absent _ hFound] at hOutstanding
      exact absurd hOutstanding (lt_irrefl 0)
  | some old =>
      have hCount := hLaw.present _ _ hFound
      have hShared : ¬ old.refCount ≤ 1 := by
        intro hLast
        have hLastNat : old.refCount.toNat ≤ 1 :=
          UInt64.le_iff_toNat_le.mp hLast
        unfold Counted at hCount
        omega
      simp only [hFound, hShared, if_false] at hDelete
      subst hDelete
      refine ⟨?_, rfl, rfl⟩
      exact Finmap.mem_insert.mpr (Or.inl rfl)

------------------------------------------------------------
-- Runs
------------------------------------------------------------

/-
  The reference counts of a run follow the law, and deleting
  respects outstanding references in all of its states,
  exactly when no referenced id is stored again and no count
  wraps around.
-/
theorem refCounts_iff
    (config : StateStoreConfig)
    (backend : B)
    (ops : List StateOp) :
    Runs.Throughout Ledger.step
        (fun ledger =>
          RefCountLaw ledger ∧ DeleteSafe ledger)
        (Ledger.new config backend) ops ↔
      Runs.AlongRun Ledger.step KeepsReferences
        (Ledger.new config backend) ops := by
  have hStart :
      RefCountLaw (Ledger.new config backend) ∧
        DeleteSafe (Ledger.new config backend) := by
    have hLaw :
        RefCountLaw (Ledger.new config backend) := by
      constructor
      · intro target old hFound
        simp [Ledger.new, new] at hFound
      · intro target _
        rfl
    exact ⟨hLaw, deleteSafe_of_law hLaw⟩
  have hStep :
      ∀ (ledger : Ledger B) op,
        RefCountLaw ledger ∧ DeleteSafe ledger →
        ((RefCountLaw (ledger.step op) ∧
            DeleteSafe (ledger.step op)) ↔
          KeepsReferences ledger op) := by
    intro ledger op hLedger
    constructor
    · intro hAfter
      exact keepsReferences_of_law hLedger.1 hAfter.1
    · intro hKeeps
      have hAfter := refCountLaw_step hLedger.1 hKeeps
      exact ⟨hAfter, deleteSafe_of_law hAfter⟩
  exact Runs.throughout_iff_alongRun hStep ops hStart

end StateStore

end IsaWorkspace

namespace IsaWorkspace

namespace StateStore

open Sample

/- Storing a referenced id again drops the reference. -/
theorem not_refCountLaw_storedAgain :
    ¬ Runs.Throughout Ledger.step
      (fun ledger =>
        RefCountLaw ledger ∧ DeleteSafe ledger)
      (Ledger.new ⟨2⟩ MemoryBackend.new)
      [.storeState epoch epoch first,
        .incrementRef first.stateId,
        .storeState epoch epoch first] := by
  intro hLaw
  have hSafe := hLaw.last.2 first.stateId
    (by decide +kernel)
  have hGone :
      first.stateId ∉
        (deleteState first.stateId
          (Runs.run Ledger.step
            (Ledger.new ⟨2⟩ MemoryBackend.new)
            [.storeState epoch epoch first,
              .incrementRef first.stateId,
              .storeState epoch epoch
                first]).store).2.index := by
    decide +kernel
  exact hGone hSafe.1

end StateStore

end IsaWorkspace
