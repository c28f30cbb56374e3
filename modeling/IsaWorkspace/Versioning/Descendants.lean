import IsaWorkspace.Versioning.Branches

/-
  The search for descendants, on any graph.

  A state becomes the child of a parent by a recording that
  finds a history of the parent, which may be the one that
  it has just made itself.  The links to children may go
  round in circles; the search visits each state at most
  once and finds all that can be reached.

  Main declarations:
    * `StateVersionControl.ChildLink`
    * `VersionLedger.DescendantsComplete`
    * `VersionLedger.descendantsComplete`
    * `VersionLedger.LinkedBy`, `childLink_run_iff`
-/

------------------------------------------------------------
-- The Property
------------------------------------------------------------

namespace IsaWorkspace

namespace StateVersionControl

/- A state is in the list of children of another. -/
def ChildLink
    (control : StateVersionControl)
    (parent child : StateId) : Prop :=
  ∃ recorded,
    control.history.lookup parent = some recorded ∧
      child ∈ recorded.children

end StateVersionControl

namespace VersionLedger

/-
  The search from any state ends, with the states that are
  reached by one link or more, each of them once.
-/
def DescendantsComplete
    (ledger : VersionLedger) : Prop :=
  ∀ stateId, ∃ found,
    ledger.control.DescendantsAre stateId found ∧
      found.Nodup ∧
      ∀ target,
        target ∈ found ↔
          Relation.TransGen ledger.control.ChildLink stateId
            target

end VersionLedger

------------------------------------------------------------
-- Links to Children
------------------------------------------------------------

namespace StateVersionControl

variable {control : StateVersionControl}
variable {parent child : StateId}

theorem mem_childrenOf_iff :
    child ∈ control.childrenOf parent ↔
      control.ChildLink parent child := by
  unfold childrenOf ChildLink
  cases control.history.lookup parent with
  | none => simp
  | some recorded => simp

/- All children that are listed anywhere. -/
def allChildren
    (control : StateVersionControl) : Finset StateId :=
  control.history.keys.biUnion fun parent =>
    (control.childrenOf parent).toFinset

theorem mem_allChildren
    (hChild : child ∈ control.childrenOf parent) :
    child ∈ control.allChildren := by
  rcases mem_childrenOf_iff.mp hChild with
    ⟨recorded, hLookup, _⟩
  unfold allChildren
  rw [Finset.mem_biUnion]
  refine ⟨parent, ?_, List.mem_toFinset.mpr hChild⟩
  exact
    Finmap.mem_keys.mpr
      (Finmap.mem_of_lookup_eq_some hLookup)

/- The search ends in whatever history it is made. -/
theorem exists_descendants
    (control : StateVersionControl)
    (stateId : StateId) :
    ∃ found,
      control.DescendantsAre stateId found ∧
        found.Nodup ∧
        ∀ target,
          target ∈ found ↔
            Relation.TransGen control.ChildLink stateId
              target := by
  rcases Reachability.ends_with_reachable control.childrenOf
      control.allChildren
      (fun _ _ hChild => mem_allChildren hChild) stateId with
    ⟨found, hEnds, hNodup, hFound⟩
  refine ⟨found, hEnds, hNodup, ?_⟩
  have hSame :
      (fun parent child =>
          child ∈ control.childrenOf parent) =
        control.ChildLink := by
    funext parent child
    exact propext mem_childrenOf_iff
  intro target
  rw [hFound, ← hSame]
  rfl

end StateVersionControl

------------------------------------------------------------
-- Runs
------------------------------------------------------------

namespace VersionLedger

/- After any calls, all descendants are found. -/
theorem descendantsComplete
    (ops : List VersionOp) :
    Runs.Throughout step DescendantsComplete new ops :=
  Runs.throughout_of_step
    (fun ledger op _ =>
      (ledger.step op).control.exists_descendants)
    ops new.control.exists_descendants

open LineageSample in
/- A state that is recorded again, below its own child. -/
example :
    (Runs.run step new
        [initial, second,
          .recordState ⟨"state-1"⟩ (some ⟨"state-2"⟩)
            "Again" "user"
            DateTime.unixEpoch]).control.getDescendants
        ⟨"state-1"⟩ 4 =
      some [⟨"state-2"⟩, ⟨"state-1"⟩] := by
  decide +kernel

/- A call makes a state the child of one with a history. -/
def LinkedBy
    (ledger : VersionLedger)
    (op : VersionOp)
    (parent child : StateId) : Prop :=
  ∃ entry,
    op.entry ledger.control = some entry ∧
      entry.stateId = child ∧
      entry.parentId = some parent ∧
      (Known ledger.control parent ∨ parent = child)

/- A call adds the link that it makes, if it makes one. -/
theorem childLink_step_iff
    (ledger : VersionLedger)
    (op : VersionOp)
    (parent child : StateId) :
    (ledger.step op).control.ChildLink parent child ↔
      ledger.control.ChildLink parent child ∨
        ledger.LinkedBy op parent child := by
  unfold StateVersionControl.ChildLink LinkedBy
  rw [history_step]
  cases op.entry ledger.control with
  | none => simp
  | some entry =>
      dsimp only [StateVersionControl.recordedHistory]
      rw [StateVersionControl.lookup_pushChild,
        StateVersionControl.lookup_pushEntry]
      unfold Known
      by_cases hSame : parent = entry.stateId
      · subst hSame
        cases hLookup :
            ledger.control.history.lookup entry.stateId with
        | none =>
            by_cases hParent :
                entry.parentId = some entry.stateId
            · simp [hParent, StateHistory.new, eq_comm]
            · simp [hParent, StateHistory.new]
        | some recorded =>
            by_cases hParent :
                entry.parentId = some entry.stateId
            · simp [hParent, eq_comm]
            · simp [hParent]
      · cases hLookup :
            ledger.control.history.lookup parent with
        | none =>
            simp [hSame]
            rintro rfl _
            exact hSame
        | some recorded =>
            by_cases hParent : entry.parentId = some parent
            · simp [hSame, hParent, eq_comm]
            · simp [hSame, hParent]

/- The links of a run are those that its calls have made. -/
theorem childLink_run_iff
    (ops : List VersionOp)
    (parent child : StateId) :
    (Runs.run step new ops).control.ChildLink parent child ↔
      ∃ earlier op,
        earlier ++ [op] <+: ops ∧
          LinkedBy (Runs.run step new earlier) op parent
            child := by
  induction ops using List.reverseRecOn with
  | nil =>
      constructor
      · rintro ⟨recorded, hLookup, _⟩
        cases hLookup
      · rintro ⟨earlier, op, hPrefix, _⟩
        simp at hPrefix
  | append_singleton before last ih =>
      rw [Runs.run_concat, childLink_step_iff, ih]
      constructor
      · rintro (⟨earlier, op, hPrefix, hLinked⟩ | hLinked)
        · exact
            ⟨earlier, op,
              hPrefix.trans (List.prefix_append _ _),
              hLinked⟩
        · exact ⟨before, last, List.prefix_rfl, hLinked⟩
      · rintro ⟨earlier, op, hPrefix, hLinked⟩
        rcases List.prefix_concat_iff.mp hPrefix with
          hSame | hBefore
        · rcases List.append_inj' hSame rfl with
            ⟨rfl, hOp⟩
          cases hOp
          exact Or.inr hLinked
        · exact Or.inl ⟨earlier, op, hBefore, hLinked⟩

end VersionLedger

end IsaWorkspace
