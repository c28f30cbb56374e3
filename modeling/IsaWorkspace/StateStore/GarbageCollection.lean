import IsaWorkspace.StateStore.IndexEffects

/-
  The collector's sweep among operations on states.

  A sweep scans the index once and then removes the states
  it collected, each in a step of its own.  Operations run
  between these steps.  A removal is of an expired state as
  long as no operation takes effect on a collected id as a
  new store or a new reference.

  Main declarations:
    * `Collector`, `GcEvent`
    * `ExpiredAt`, `RemovesExpired`
    * `Undisturbed`
    * `pendingExpired_step`
    * `removesExpired_of_undisturbed`
-/

------------------------------------------------------------
-- Sweeps in Steps
------------------------------------------------------------

namespace IsaWorkspace

/-
  A store with the collector at work on it: the instant of
  the last scan and the ids it has yet to remove.
-/
structure Collector (B : Type) where
  store : StateStore B
  now : DateTime
  pending : List StateId

/- The atomic steps of operations and of the collector. -/
inductive GcEvent where
  | op (op : StateOp)
  | scan (now : DateTime) (order : List StateId)
  | remove

namespace Collector

variable {B : Type} [StorageBackendTrait B]
variable [Sha256] [SerdeJson State] [BuildProfile]

/-
  One step.  The collector scans only after it has removed
  what it collected last, and removes one id at a time.
-/
def step
    (collector : Collector B)
    (event : GcEvent) : Collector B :=
  match event with
  | .op stateOp =>
      { collector with
        store := stateOp.step collector.store }
  | .scan now order =>
      match collector.pending with
      | [] =>
          { collector with
            now := now
            pending :=
              StateStore.gcScan now order collector.store }
      | _ :: _ => collector
  | .remove =>
      match collector.pending with
      | [] => collector
      | stateId :: rest =>
          { collector with
            store :=
              (StateStore.gcRemove stateId
                collector.store).2
            pending := rest }

end Collector

end IsaWorkspace

------------------------------------------------------------
-- Removals of Expired States
------------------------------------------------------------

namespace IsaWorkspace

namespace StateStore

variable {B : Type}

/- Past its expiration and without references. -/
def ExpiredAt
    (now : DateTime)
    (stored : StoredState) : Prop :=
  ∃ expiration,
    stored.expiresAt = some expiration ∧
      expiration < now ∧
      stored.refCount = 0

theorem isExpired_iff_expiredAt
    {now : DateTime}
    {stored : StoredState} :
    isExpired now stored = true ↔
      ExpiredAt now stored := by
  unfold isExpired ExpiredAt
  cases stored.expiresAt with
  | none => simp
  | some expiration => simp

/-
  A step of the collector removes entries that are expired
  at that moment, and deletes nothing from the backend if it
  removes no entry.
-/
def RemovesExpired
    [StorageBackendTrait B]
    [Sha256] [SerdeJson State] [BuildProfile]
    (collector : Collector B)
    (event : GcEvent) : Prop :=
  match event with
  | .op _ => True
  | .scan _ _ | .remove =>
      let before := collector.store
      let after := (collector.step event).store
      (∀ stateId stored,
        before.index.lookup stateId = some stored →
        stateId ∉ after.index →
          ExpiredAt collector.now stored) ∧
        (after.index = before.index →
          after.backend = before.backend)

/-
  No operation takes effect on a collected id as a new store
  or as a new reference.
-/
def Undisturbed
    [StorageBackendTrait B]
    [Sha256] [SerdeJson State]
    (collector : Collector B)
    (event : GcEvent) : Prop :=
  match event with
  | .op (.storeState now createdAt newState) =>
      newState.stateId ∈ collector.pending →
        entered now createdAt newState collector.store =
          none
  | .op (.incrementRef stateId) =>
      stateId ∈ collector.pending →
        stateId ∉ collector.store.index
  | _ => True

/- What is collected and still present is expired. -/
def PendingExpired
    (collector : Collector B) : Prop :=
  ∀ stateId ∈ collector.pending, ∀ stored,
    collector.store.index.lookup stateId = some stored →
      ExpiredAt collector.now stored

/- A scan collects expired entries. -/
theorem expiredAt_of_mem_gcScan
    {now : DateTime}
    {order : List StateId}
    {store : StateStore B}
    {stateId : StateId}
    {stored : StoredState}
    (hCollected : stateId ∈ gcScan now order store)
    (hLookup : store.index.lookup stateId = some stored) :
    ExpiredAt now stored := by
  have hKept := (List.mem_filter.mp hCollected).2
  rw [hLookup] at hKept
  exact isExpired_iff_expiredAt.mp hKept

variable [StorageBackendTrait B]
variable [Sha256] [SerdeJson State] [BuildProfile]

/-
  An undisturbing operation on an entry without references
  leaves it as it is or erases it.
-/
theorem entryAfter_of_undisturbed
    {collector : Collector B}
    {op : StateOp}
    (hPending : PendingExpired collector)
    (hUndisturbed : Undisturbed collector (.op op))
    (hTarget : op.target ∈ collector.pending)
    {stored : StoredState}
    (hAfter : op.entryAfter collector.store = some stored) :
    collector.store.index.lookup op.target =
      some stored := by
  have hCountZero :
      ∀ old,
        collector.store.index.lookup op.target = some old →
          old.refCount = 0 := by
    intro old hFound
    rcases hPending _ hTarget old hFound with
      ⟨_, _, _, hZero⟩
    exact hZero
  unfold StateOp.entryAfter at hAfter
  cases op with
  | storeState now createdAt newState =>
      simp only [StateOp.target] at hTarget hAfter ⊢
      rw [hUndisturbed hTarget, Option.none_or] at hAfter
      exact hAfter
  | incrementRef target =>
      simp only [StateOp.target] at hTarget hAfter ⊢
      have hAbsent :
          collector.store.index.lookup target = none :=
        Finmap.lookup_eq_none.mpr (hUndisturbed hTarget)
      rw [hAbsent] at hAfter
      cases hAfter
  | decrementRef target =>
      simp only [StateOp.target] at hCountZero hAfter ⊢
      cases hFound :
          collector.store.index.lookup target with
      | none =>
          rw [hFound] at hAfter
          cases hAfter
      | some old =>
          rw [hFound] at hAfter
          dsimp only at hAfter
          rw [hCountZero old hFound] at hAfter
          exact hAfter
  | deleteState target =>
      simp only [StateOp.target] at hCountZero hAfter ⊢
      cases hFound :
          collector.store.index.lookup target with
      | none =>
          rw [hFound] at hAfter
          cases hAfter
      | some old =>
          rw [hFound] at hAfter
          dsimp only at hAfter
          rw [hCountZero old hFound] at hAfter
          cases hAfter

/- An undisturbing step keeps what is collected expired. -/
theorem pendingExpired_step
    {collector : Collector B}
    {event : GcEvent}
    (hPending : PendingExpired collector)
    (hUndisturbed : Undisturbed collector event) :
    PendingExpired (collector.step event) := by
  cases event with
  | op op =>
      intro stateId hMem stored hLookup
      change
        (op.step collector.store).index.lookup stateId =
          some stored at hLookup
      by_cases hTarget : stateId = op.target
      · subst hTarget
        rw [lookup_step_target] at hLookup
        exact hPending _ hMem stored
          (entryAfter_of_undisturbed hPending hUndisturbed
            hMem hLookup)
      · rw [lookup_step_of_ne _ hTarget] at hLookup
        exact hPending stateId hMem stored hLookup
  | scan now order =>
      unfold Collector.step
      cases hList : collector.pending with
      | nil =>
          intro stateId hMem stored hLookup
          exact expiredAt_of_mem_gcScan hMem hLookup
      | cons next rest => exact hPending
  | remove =>
      unfold Collector.step
      cases hList : collector.pending with
      | nil => exact hPending
      | cons next rest =>
          intro stateId hMem stored hLookup
          dsimp only at hMem hLookup
          rw [gcRemove_index,
            HashMap.lookup_erase_eq_ite] at hLookup
          split at hLookup
          · cases hLookup
          · apply hPending stateId ?_ stored hLookup
            rw [hList]
            exact List.mem_cons_of_mem next hMem

/- Removing what is collected removes expired entries. -/
theorem removesExpired_of_pendingExpired
    {collector : Collector B}
    (hPending : PendingExpired collector)
    (event : GcEvent) :
    RemovesExpired collector event := by
  cases event with
  | op op => trivial
  | scan now order =>
      have hSame :
          (collector.step (.scan now order)).store =
            collector.store := by
        unfold Collector.step
        cases collector.pending <;> rfl
      constructor
      · intro stateId stored hLookup hGone
        rw [hSame] at hGone
        exact absurd
          (Finmap.mem_of_lookup_eq_some hLookup) hGone
      · intro _
        rw [hSame]
  | remove =>
      unfold RemovesExpired Collector.step
      cases hList : collector.pending with
      | nil =>
          constructor
          · intro stateId stored hLookup hGone
            exact absurd
              (Finmap.mem_of_lookup_eq_some hLookup) hGone
          · intro _
            rfl
      | cons next rest =>
          constructor
          · intro stateId stored hLookup hGone
            dsimp only at hGone
            rw [gcRemove_index, Finmap.mem_erase] at hGone
            have hNext : stateId = next := by
              by_contra hOther
              exact hGone
                ⟨hOther,
                  Finmap.mem_of_lookup_eq_some hLookup⟩
            apply hPending stateId ?_ stored hLookup
            rw [hList, hNext]
            exact List.mem_cons_self
          · intro hIndex
            dsimp only at hIndex ⊢
            rw [gcRemove_index] at hIndex
            rw [gcRemove_eq]
            cases hFound :
                collector.store.index.lookup next with
            | none => rfl
            | some stored =>
                exact absurd hIndex
                  (HashMap.erase_ne_of_lookup_some hFound)

------------------------------------------------------------
-- Interleavings
------------------------------------------------------------

/-
  In every interleaving of sweeps with operations that leave
  the collected ids undisturbed, the collector removes
  expired entries only.
-/
theorem removesExpired_of_undisturbed
    (store : StateStore B)
    (now : DateTime)
    (events : List GcEvent)
    (hUndisturbed :
      Runs.AlongRun Collector.step Undisturbed
        ⟨store, now, []⟩ events) :
    Runs.AlongRun Collector.step RemovesExpired
      ⟨store, now, []⟩ events := by
  have hStart : PendingExpired ⟨store, now, []⟩ := by
    intro stateId hMem
    cases hMem
  have hStep :
      ∀ (collector : Collector B) event,
        PendingExpired collector →
        Undisturbed collector event →
          PendingExpired (collector.step event) :=
    fun _ _ hPending hEvent =>
      pendingExpired_step hPending hEvent
  have hMeets :
      ∀ (collector : Collector B) event,
        PendingExpired collector →
        Undisturbed collector event →
          RemovesExpired collector event :=
    fun _ event hPending _ =>
      removesExpired_of_pendingExpired hPending event
  exact Runs.alongRun_of_invariant hStep hMeets hStart
    hUndisturbed

end StateStore

end IsaWorkspace

namespace IsaWorkspace

namespace StateStore

open Sample

/- An empty store with an idle collector. -/
private def idle : Collector MemoryBackend :=
  ⟨new ⟨2⟩ MemoryBackend.new, epoch, []⟩

/-
  A state is stored, its only reference is given up, and
  once it has expired it is collected and removed, while
  another state is stored.
-/
theorem removesExpired_sample :
    Runs.AlongRun Collector.step RemovesExpired idle
      [.op (.storeState epoch epoch first),
        .op (.decrementRef first.stateId),
        .scan tenMinutesLater [first.stateId],
        .op (.storeState epoch epoch second),
        .remove] := by
  apply removesExpired_of_undisturbed
  have hOther :
      second.stateId ∉
        gcScan tenMinutesLater [first.stateId]
          (Runs.run StateOp.step
            (new ⟨2⟩ MemoryBackend.new)
            [.storeState epoch epoch first,
              .decrementRef first.stateId]) := by
    decide +kernel
  refine ⟨?_, trivial, trivial, ?_, trivial, trivial⟩
  · intro hMem
    cases hMem
  · intro hMem
    exact absurd hMem hOther

/-
  A reference taken between the scan and the removal does
  not keep the state.
-/
theorem not_removesExpired_incremented :
    ¬ Runs.AlongRun Collector.step RemovesExpired idle
      [.op (.storeState epoch epoch first),
        .op (.decrementRef first.stateId),
        .scan tenMinutesLater [first.stateId],
        .op (.incrementRef first.stateId),
        .remove] := by
  rintro ⟨_, _, _, _, ⟨hExpired, _⟩, _⟩
  have hGone :
      first.stateId ∉
        (Runs.run Collector.step idle
          [.op (.storeState epoch epoch first),
            .op (.decrementRef first.stateId),
            .scan tenMinutesLater [first.stateId],
            .op (.incrementRef first.stateId),
            .remove]).store.index := by
    decide +kernel
  have hCount :
      ((Runs.run Collector.step idle
        [.op (.storeState epoch epoch first),
          .op (.decrementRef first.stateId),
          .scan tenMinutesLater [first.stateId],
          .op (.incrementRef
            first.stateId)]).store.index.lookup
        first.stateId).map StoredState.refCount =
          some 1 := by
    decide +kernel
  rcases Option.map_eq_some_iff.mp hCount with
    ⟨stored, hLookup, hOne⟩
  rcases hExpired first.stateId stored hLookup hGone with
    ⟨_, _, _, hZero⟩
  rw [hOne] at hZero
  cases hZero

end StateStore

end IsaWorkspace
