import IsaWorkspace.Versioning.Lineage

/-
  Branches and the history they write into.

  Creating a branch also records its state, without a
  parent.  The entry counts as a state, so a run and the run
  without its branches agree on the number of states exactly
  if no branch is ever created; and that number is the
  number of different states exactly if no state is recorded
  twice.  The lineage is touched only by a branch at a state
  that is not recorded yet.

  Main declarations:
    * `VersionLedger.withoutBranches`
    * `StateVersionControl.SameLineage`
    * `VersionLedger.BranchesApart`, `branchesApart_iff`
    * `VersionLedger.sameLineage_of_branchesKnown`
-/

------------------------------------------------------------
-- The Property
------------------------------------------------------------

namespace IsaWorkspace

namespace VersionOp

/- A call that creates or deletes a branch. -/
def isBranchOp : VersionOp → Bool
| createBranch _ _ _ => true
| deleteBranch _ => true
| _ => false

end VersionOp

/- All queries over the lineage return the same. -/
structure StateVersionControl.SameLineage
    (one other : StateVersionControl) : Prop where
  ancestry :
    ∀ stateId chain,
      one.AncestryIs stateId chain ↔
        other.AncestryIs stateId chain
  descendants :
    ∀ stateId found,
      one.DescendantsAre stateId found ↔
        other.DescendantsAre stateId found

namespace VersionLedger

/- The calls that neither create nor delete a branch. -/
def withoutBranches
    (ops : List VersionOp) : List VersionOp :=
  ops.filter (!·.isBranchOp)

/-
  A run and the run without its branches have the same
  lineage and the same number of states, which is that of
  the different states that were recorded.
-/
structure BranchesApart
    (ops : List VersionOp) : Prop where
  lineage :
    StateVersionControl.SameLineage
      (Runs.run step new ops).control
      (Runs.run step new (withoutBranches ops)).control
  totalStates :
    (Runs.run step new ops).control.totalStates =
      (Runs.run step new
        (withoutBranches ops)).control.totalStates
  counted :
    (Runs.run step new ops).control.totalStates =
      (Runs.run step new ops).states.toFinset.card

------------------------------------------------------------
-- What a Call Adds
------------------------------------------------------------

/- Whether there is a history of a state. -/
def Known
    (control : StateVersionControl)
    (stateId : StateId) : Prop :=
  (control.history.lookup stateId).isSome = true

instance
    (control : StateVersionControl)
    (stateId : StateId) :
    Decidable (Known control stateId) :=
  inferInstanceAs (Decidable (_ = true))

theorem totalStates_recordedHistory
    (control : StateVersionControl)
    (entry : HistoryEntry) :
    HashMap.weight (·.entries.length)
        (control.recordedHistory entry) =
      control.totalStates + 1 := by
  unfold StateVersionControl.recordedHistory
  rw [StateVersionControl.weight_pushChild,
    StateVersionControl.weight_pushEntry]
  rfl

theorem isSome_lookup_recordedHistory
    (control : StateVersionControl)
    (entry : HistoryEntry)
    (other : StateId) :
    ((control.recordedHistory entry).lookup
          other).isSome =
        true ↔
      Known control other ∨ entry.stateId = other := by
  unfold StateVersionControl.recordedHistory
  rw [StateVersionControl.lookup_pushChild,
    StateVersionControl.lookup_pushEntry]
  by_cases hSame : other = entry.stateId
  · simp [hSame]
  · simp [hSame, Known, Ne.symm hSame]

/- A call adds one entry, or none. -/
theorem totalStates_step_eq
    (ledger : VersionLedger)
    (op : VersionOp) :
    (ledger.step op).control.totalStates =
      ledger.control.totalStates +
        (op.entry ledger.control).toList.length := by
  unfold StateVersionControl.totalStates
  rw [history_step]
  cases op.entry ledger.control with
  | none => rfl
  | some entry =>
      exact totalStates_recordedHistory ledger.control entry

/- A call makes at most the state of its entry known. -/
theorem known_step_iff
    (ledger : VersionLedger)
    (op : VersionOp)
    (other : StateId) :
    Known (ledger.step op).control other ↔
      Known ledger.control other ∨
        ∃ entry,
          op.entry ledger.control = some entry ∧
            entry.stateId = other := by
  unfold Known
  rw [history_step]
  cases op.entry ledger.control with
  | none => simp
  | some entry =>
      dsimp only
      rw [isSome_lookup_recordedHistory]
      simp [Known]

------------------------------------------------------------
-- The Run Without Branches
------------------------------------------------------------

/-
  The second version control knows no more states, and has
  fewer entries by some number at least.
-/
structure Behind
    (fewer : Nat)
    (full reduced : VersionLedger) : Prop where
  known :
    ∀ stateId, Known reduced.control stateId →
      Known full.control stateId
  total :
    reduced.control.totalStates + fewer ≤
      full.control.totalStates

variable {fewer : Nat} {full reduced : VersionLedger}

/- What the second one records, the first one does too. -/
theorem Behind.entry
    (hBehind : Behind fewer full reduced)
    {op : VersionOp}
    (hOther : op.isBranchOp = false)
    {entry : HistoryEntry}
    (hEntry : op.entry reduced.control = some entry) :
    op.entry full.control = some entry := by
  cases op with
  | recordState => exact hEntry
  | rollback toState uuid now =>
      rcases Option.map_eq_some_iff.mp hEntry with
        ⟨found, hFound, hSame⟩
      have hKnown : Known reduced.control toState := by
        simp [Known, hFound]
      rcases Option.isSome_iff_exists.mp
          (hBehind.known toState hKnown) with
        ⟨other, hThere⟩
      simp [VersionOp.entry, hThere, hSame]
  | createBranch => cases hOther
  | deleteBranch => cases hOther
  | createTag => cases hEntry
  | deleteTag => cases hEntry

theorem Behind.both
    (hBehind : Behind fewer full reduced)
    {op : VersionOp}
    (hOther : op.isBranchOp = false) :
    Behind fewer (full.step op) (reduced.step op) := by
  constructor
  · intro stateId hThere
    apply (known_step_iff full op stateId).mpr
    rcases (known_step_iff reduced op stateId).mp hThere
      with hOld | ⟨entry, hEntry, hId⟩
    · exact Or.inl (hBehind.known stateId hOld)
    · exact
        Or.inr ⟨entry, hBehind.entry hOther hEntry, hId⟩
  · have hBefore := hBehind.total
    rw [totalStates_step_eq, totalStates_step_eq]
    cases hEntry : op.entry reduced.control with
    | none =>
        rw [Option.toList_none, List.length_nil]
        omega
    | some entry =>
        rw [hBehind.entry hOther hEntry]
        omega

/- A call of the first one alone leaves the second behind. -/
theorem Behind.alone
    (hBehind : Behind fewer full reduced)
    (op : VersionOp) :
    Behind
      (fewer + (op.entry full.control).toList.length)
      (full.step op) reduced := by
  constructor
  · intro stateId hThere
    exact
      (known_step_iff full op stateId).mpr
        (Or.inl (hBehind.known stateId hThere))
  · have hBefore := hBehind.total
    rw [totalStates_step_eq]
    omega

/- No run of both catches up. -/
theorem Behind.run
    (hBehind : Behind fewer full reduced)
    (ops : List VersionOp) :
    Behind fewer (Runs.run step full ops)
      (Runs.run step reduced (withoutBranches ops)) := by
  induction ops generalizing full reduced with
  | nil => exact hBehind
  | cons op rest ih =>
      unfold withoutBranches at ih ⊢
      cases hBranch : op.isBranchOp with
      | false =>
          rw [List.filter_cons_of_pos (by simp [hBranch])]
          exact ih (hBehind.both hBranch)
      | true =>
          rw [List.filter_cons_of_neg (by simp [hBranch])]
          apply ih
          have hAlone := hBehind.alone op
          constructor
          · exact hAlone.known
          · have hMore := hAlone.total
            omega

/- Without a creation there are no branches to speak of. -/
theorem branches_step
    (ledger : VersionLedger)
    (op : VersionOp)
    (hEmpty : ledger.control.branches = ∅)
    (hCreate : op.isCreateBranch = false) :
    (ledger.step op).control.branches = ∅ := by
  have hEffect := versionEffect ledger op
  generalize ledger.step op = next at hEffect ⊢
  cases hEffect with
  | recorded entry hEntry hOther => exact hEmpty
  | branched name entry hEntry hOther =>
      rw [hCreate] at hOther
      cases hOther
  | kept control hEntry hHistory hBranches =>
      apply Finmap.ext_lookup
      intro name
      rw [Finmap.lookup_empty]
      cases hLookup : control.branches.lookup name with
      | none => rfl
      | some atState =>
          have hOld := hBranches name atState hLookup
          rw [hEmpty, Finmap.lookup_empty] at hOld
          cases hOld

/- The first branch that is created is new. -/
theorem behind_of_create
    (ops : List VersionOp)
    (hEmpty : full.control.branches = ∅)
    (hBehind : Behind 0 full reduced)
    (hCreate : ∃ op ∈ ops, op.isCreateBranch = true) :
    Behind 1 (Runs.run step full ops)
      (Runs.run step reduced (withoutBranches ops)) := by
  induction ops generalizing full reduced with
  | nil =>
      rcases hCreate with ⟨op, hOp, _⟩
      cases hOp
  | cons op rest ih =>
      by_cases hFirst : op.isCreateBranch = true
      · cases op with
        | createBranch name atState now =>
            have hAlone :=
              hBehind.alone (.createBranch name atState now)
            simp only [VersionOp.entry, hEmpty,
              Finmap.lookup_empty, Option.toList_some,
              List.length_singleton] at hAlone
            exact hAlone.run rest
        | _ => cases hFirst
      · have hLater :
            ∃ op ∈ rest, op.isCreateBranch = true := by
          rcases hCreate with ⟨found, hFound, hIs⟩
          rcases List.mem_cons.mp hFound with rfl | hRest
          · exact absurd hIs hFirst
          · exact ⟨found, hRest, hIs⟩
        have hStill :=
          branches_step full op hEmpty
            (Bool.eq_false_iff.mpr hFirst)
        unfold withoutBranches at ih ⊢
        cases hBranch : op.isBranchOp with
        | false =>
            rw [List.filter_cons_of_pos (by simp [hBranch])]
            exact ih hStill (hBehind.both hBranch) hLater
        | true =>
            rw [List.filter_cons_of_neg (by simp [hBranch])]
            apply ih hStill _ hLater
            have hAlone := hBehind.alone op
            constructor
            · exact hAlone.known
            · have hMore := hAlone.total
              omega

/- Without a creation, deleting branches changes nothing. -/
theorem run_withoutBranches
    {ledger : VersionLedger}
    (ops : List VersionOp)
    (hEmpty : ledger.control.branches = ∅)
    (hCreate : ∀ op ∈ ops, op.isCreateBranch = false) :
    Runs.run step ledger (withoutBranches ops) =
      Runs.run step ledger ops := by
  induction ops generalizing ledger with
  | nil => rfl
  | cons op rest ih =>
      have hFirst := hCreate op List.mem_cons_self
      have hStill := branches_step ledger op hEmpty hFirst
      have hLater :=
        ih hStill fun other hOther =>
          hCreate other (List.mem_cons_of_mem _ hOther)
      unfold withoutBranches at hLater ⊢
      cases hBranch : op.isBranchOp with
      | false =>
          rw [List.filter_cons_of_pos (by simp [hBranch])]
          exact hLater
      | true =>
          rw [List.filter_cons_of_neg (by simp [hBranch]),
            Runs.run_cons, ← hLater]
          cases op with
          | deleteBranch name =>
              have hCall :=
                StateVersionControl.deleteBranch_apply name
                  ledger.control
              rw [hEmpty, Finmap.lookup_empty] at hCall
              rw [step_of_perform (Exec.bind_of_err hCall)]
              unfold recordedBy
              rw [List.append_nil]
          | createBranch => cases hFirst
          | _ => cases hBranch

/- Without a creation each entry is a recorded state. -/
theorem totalStates_step
    (ledger : VersionLedger)
    (op : VersionOp)
    (hTotal :
      ledger.control.totalStates = ledger.recorded.length)
    (hCreate : op.isCreateBranch = false) :
    (ledger.step op).control.totalStates =
      (ledger.step op).recorded.length := by
  have hEffect := versionEffect ledger op
  generalize ledger.step op = next at hEffect ⊢
  cases hEffect with
  | recorded entry hEntry hOther =>
      rw [List.length_append, ← hTotal]
      exact totalStates_recordedHistory _ entry
  | branched name entry hEntry hOther =>
      rw [hCreate] at hOther
      cases hOther
  | kept control hEntry hHistory hBranches =>
      unfold StateVersionControl.totalStates at hTotal ⊢
      rw [hHistory]
      exact hTotal

/- Different states are as many as all exactly if none repeats. -/
theorem card_states_eq_length_iff
    (ledger : VersionLedger) :
    ledger.states.toFinset.card = ledger.recorded.length ↔
      ledger.states.Nodup := by
  have hLength :
      ledger.recorded.length = ledger.states.length :=
    (List.length_map _).symm
  rw [hLength, List.card_toFinset]
  constructor
  · intro hSame
    have hDedup :=
      (List.dedup_sublist ledger.states).eq_of_length hSame
    exact List.dedup_eq_self.mp hDedup
  · intro hNodup
    rw [List.dedup_eq_self.mpr hNodup]

/-
  A run and the run without its branches agree, and count
  the different states, exactly if no branch is created and
  no state is recorded twice.
-/
theorem branchesApart_iff
    (ops : List VersionOp) :
    BranchesApart ops ↔
      (∀ op ∈ ops, op.isCreateBranch = false) ∧
        (Runs.run step new ops).states.Nodup := by
  have hEmpty : new.control.branches = ∅ := rfl
  have hCount :
      (∀ op ∈ ops, op.isCreateBranch = false) →
        (Runs.run step new ops).control.totalStates =
          (Runs.run step new ops).recorded.length := by
    intro hCreate
    exact
      (Runs.throughout_of_alongRun totalStates_step
        (show new.control.totalStates = 0 from rfl)
        (Runs.alongRun_of_forall_mem fun op hOp _ =>
          hCreate op hOp)).last
  constructor
  · intro hApart
    have hCreate :
        ∀ op ∈ ops, op.isCreateBranch = false := by
      intro op hOp
      by_contra hIs
      have hStart : Behind 0 new new :=
        ⟨fun _ hKnown => hKnown, le_rfl⟩
      have hBehind :=
        (behind_of_create ops hEmpty hStart
          ⟨op, hOp, Bool.eq_true_of_not_eq_false hIs⟩).total
      rw [hApart.totalStates] at hBehind
      omega
    refine ⟨hCreate, ?_⟩
    apply (card_states_eq_length_iff _).mp
    rw [← hApart.counted]
    exact hCount hCreate
  · rintro ⟨hCreate, hNodup⟩
    have hSame := run_withoutBranches ops hEmpty hCreate
    constructor
    · rw [hSame]
      exact ⟨fun _ _ => Iff.rfl, fun _ _ => Iff.rfl⟩
    · rw [hSame]
    · rw [hCount hCreate]
      exact ((card_states_eq_length_iff _).mpr hNodup).symm

------------------------------------------------------------
-- Branches at Known States
------------------------------------------------------------

/- A branch is created at a state that has a history. -/
def BranchesKnown
    (ledger : VersionLedger) : VersionOp → Prop
| .createBranch _ atState _ => Known ledger.control atState
| _ => True

/- The parent of a state, and its children. -/
def lineageOf
    (history : HashMap StateId StateHistory)
    (stateId : StateId) :
    Option (Option StateId × List StateId) :=
  (history.lookup stateId).map fun recorded =>
    (recorded.entries.head?.bind (·.parentId),
      recorded.children)

/- The parent of a lineage is what its state links to. -/
theorem parentLink_eq
    (control : StateVersionControl)
    (stateId : StateId) :
    control.parentLink stateId =
      (lineageOf control.history stateId).map (·.1) := by
  unfold StateVersionControl.parentLink lineageOf
  rw [Option.map_map]
  rfl

/- The children of a state, if it has a lineage. -/
theorem childrenOf_eq
    (control : StateVersionControl)
    (stateId : StateId) :
    control.childrenOf stateId =
      (lineageOf control.history stateId).elim [] (·.2) := by
  unfold StateVersionControl.childrenOf lineageOf
  cases control.history.lookup stateId with
  | none => rfl
  | some recorded => rfl

/- No history is without entries. -/
def Filled
    (history : HashMap StateId StateHistory) : Prop :=
  ∀ stateId recorded,
    history.lookup stateId = some recorded →
      recorded.entries ≠ []

/- What recording does to a lineage depends on it alone. -/
theorem lineageOf_recordedHistory
    {control : StateVersionControl}
    (hFilled : Filled control.history)
    (entry : HistoryEntry)
    (other : StateId) :
    lineageOf (control.recordedHistory entry) other =
      (if other = entry.stateId then
          some
            ((lineageOf control.history other).getD
              (entry.parentId, []))
        else
          lineageOf control.history other).map
        fun lineage =>
          if entry.parentId = some other then
            (lineage.1, lineage.2 ++ [entry.stateId])
          else
            lineage := by
  unfold lineageOf StateVersionControl.recordedHistory
  rw [StateVersionControl.lookup_pushChild,
    StateVersionControl.lookup_pushEntry]
  by_cases hSame : other = entry.stateId
  · subst hSame
    rw [if_pos rfl, if_pos rfl]
    cases hLookup :
        control.history.lookup entry.stateId with
    | none =>
        by_cases hParent :
            entry.parentId = some entry.stateId
        · simp [StateHistory.new, hParent]
        · simp [StateHistory.new, hParent]
    | some recorded =>
        have hHead :
            (recorded.entries ++ [entry]).head? =
              recorded.entries.head? :=
          List.head?_append_of_ne_nil _
            (hFilled entry.stateId recorded hLookup)
        by_cases hParent :
            entry.parentId = some entry.stateId
        · simp [hParent, hHead]
        · simp [hParent, hHead]
  · rw [if_neg hSame, if_neg hSame, Option.map_map,
      Option.map_map]
    congr 1
    funext recorded
    by_cases hParent : entry.parentId = some other
    · simp [hParent]
    · simp [hParent]

theorem filled_recordedHistory
    {control : StateVersionControl}
    (hFilled : Filled control.history)
    (entry : HistoryEntry) :
    Filled (control.recordedHistory entry) := by
  intro other recorded hLookup
  unfold StateVersionControl.recordedHistory at hLookup
  rw [StateVersionControl.lookup_pushChild,
    StateVersionControl.lookup_pushEntry] at hLookup
  rcases Option.map_eq_some_iff.mp hLookup with
    ⟨before, hBefore, hAfter⟩
  have hEntries : recorded.entries = before.entries := by
    rw [← hAfter]
    split
    · rfl
    · rfl
  rw [hEntries]
  split at hBefore
  · cases hBefore
    simp
  · exact hFilled other before hBefore

/- Two ledgers with one lineage, which is that of entries. -/
structure Alike
    (full reduced : VersionLedger) : Prop where
  filled : Filled full.control.history
  filledReduced : Filled reduced.control.history
  lineage :
    ∀ stateId,
      lineageOf full.control.history stateId =
        lineageOf reduced.control.history stateId

/- What is known on one side is known on the other. -/
theorem Alike.known_iff
    (hAlike : Alike full reduced)
    (stateId : StateId) :
    Known full.control stateId ↔
      Known reduced.control stateId := by
  have hSame :=
    congrArg Option.isSome (hAlike.lineage stateId)
  unfold lineageOf at hSame
  rw [Option.isSome_map, Option.isSome_map] at hSame
  unfold Known
  rw [hSame]

/- The queries depend on the lineage alone. -/
theorem Alike.sameLineage
    (hAlike : Alike full reduced) :
    StateVersionControl.SameLineage full.control
      reduced.control := by
  have hLink :
      full.control.parentLink =
        reduced.control.parentLink := by
    funext stateId
    rw [parentLink_eq, parentLink_eq, hAlike.lineage]
  have hChildren :
      full.control.childrenOf =
        reduced.control.childrenOf := by
    funext stateId
    rw [childrenOf_eq, childrenOf_eq, hAlike.lineage]
  constructor
  · intro stateId chain
    unfold StateVersionControl.AncestryIs
      StateVersionControl.getAncestry
    rw [hLink]
  · intro stateId found
    unfold StateVersionControl.DescendantsAre
      StateVersionControl.getDescendants
    rw [hChildren]

/- Calls on both sides record alike. -/
theorem Alike.both
    (hAlike : Alike full reduced)
    {op : VersionOp}
    (hOther : op.isBranchOp = false) :
    Alike (full.step op) (reduced.step op) := by
  have hEntry :
      op.entry full.control = op.entry reduced.control := by
    cases op with
    | rollback toState uuid now =>
        have hSame := hAlike.known_iff toState
        unfold Known at hSame
        unfold VersionOp.entry
        dsimp only
        cases hFull :
            full.control.history.lookup toState with
        | none =>
            cases hReduced :
                reduced.control.history.lookup toState with
            | none => rfl
            | some recorded => simp [hFull, hReduced] at hSame
        | some recorded =>
            cases hReduced :
                reduced.control.history.lookup toState with
            | none => simp [hFull, hReduced] at hSame
            | some other => rfl
    | createBranch => cases hOther
    | _ => rfl
  have hFull := history_step full op
  have hReduced := history_step reduced op
  rw [hEntry] at hFull
  cases hCase : op.entry reduced.control with
  | none =>
      simp only [hCase] at hFull hReduced
      constructor
      · rw [hFull]
        exact hAlike.filled
      · rw [hReduced]
        exact hAlike.filledReduced
      · rw [hFull, hReduced]
        exact hAlike.lineage
  | some entry =>
      simp only [hCase] at hFull hReduced
      constructor
      · rw [hFull]
        exact filled_recordedHistory hAlike.filled entry
      · rw [hReduced]
        exact
          filled_recordedHistory hAlike.filledReduced entry
      · intro stateId
        rw [hFull, hReduced,
          lineageOf_recordedHistory hAlike.filled,
          lineageOf_recordedHistory hAlike.filledReduced,
          hAlike.lineage stateId]

/- A branch at a known state leaves the lineage alone. -/
theorem Alike.alone
    (hAlike : Alike full reduced)
    {op : VersionOp}
    (hBranch : op.isBranchOp = true)
    (hKnown : full.BranchesKnown op) :
    Alike (full.step op) reduced := by
  have hFull := history_step full op
  cases hEntry : op.entry full.control with
  | none =>
      simp only [hEntry] at hFull
      constructor
      · rw [hFull]
        exact hAlike.filled
      · exact hAlike.filledReduced
      · rw [hFull]
        exact hAlike.lineage
  | some entry =>
      simp only [hEntry] at hFull
      have hNoParent :
          entry.parentId = none ∧
            Known full.control entry.stateId := by
        cases op with
        | createBranch name atState now =>
            unfold VersionOp.entry at hEntry
            dsimp only at hEntry
            split at hEntry
            · cases hEntry
            · cases hEntry
              exact ⟨rfl, hKnown⟩
        | deleteBranch => cases hEntry
        | _ => cases hBranch
      rcases Option.isSome_iff_exists.mp hNoParent.2 with
        ⟨recorded, hLookup⟩
      constructor
      · rw [hFull]
        exact filled_recordedHistory hAlike.filled entry
      · exact hAlike.filledReduced
      · intro stateId
        rw [hFull, lineageOf_recordedHistory hAlike.filled,
          hNoParent.1, ← hAlike.lineage stateId]
        by_cases hSame : stateId = entry.stateId
        · subst hSame
          simp [lineageOf, hLookup]
        · simp [hSame]

/-
  Branches that are created at known states only do not
  change the lineage.
-/
theorem sameLineage_of_branchesKnown
    (ops : List VersionOp)
    (hKnown : Runs.AlongRun step BranchesKnown new ops) :
    StateVersionControl.SameLineage
      (Runs.run step new ops).control
      (Runs.run step new (withoutBranches ops)).control := by
  have hRun :
      ∀ full reduced, Alike full reduced →
        Runs.AlongRun step BranchesKnown full ops →
          Alike (Runs.run step full ops)
            (Runs.run step reduced (withoutBranches ops)) := by
    clear hKnown
    unfold withoutBranches
    induction ops with
    | nil => exact fun _ _ hAlike _ => hAlike
    | cons op rest ih =>
        rintro full reduced hAlike ⟨hFirst, hLater⟩
        cases hBranch : op.isBranchOp with
        | false =>
            rw [List.filter_cons_of_pos (by simp [hBranch])]
            exact ih _ _ (hAlike.both hBranch) hLater
        | true =>
            rw [List.filter_cons_of_neg (by simp [hBranch])]
            exact
              ih _ _ (hAlike.alone hBranch hFirst) hLater
  have hFilled : Filled new.control.history := by
    intro stateId recorded hLookup
    cases hLookup
  exact
    (hRun new new ⟨hFilled, hFilled, fun _ => rfl⟩
      hKnown).sameLineage

------------------------------------------------------------
-- Sample Runs
------------------------------------------------------------

open LineageSample

/- Two states, and a branch at the second one. -/
def mainBranch : VersionOp :=
  .createBranch "main" ⟨"state-2"⟩ DateTime.unixEpoch

/-
  The branch counts as a third state, and its entry is in
  the run with it only.
-/
theorem branchesApart_branched :
    (Runs.run step new
          [initial, second, mainBranch]).control.totalStates =
        3 ∧
      (Runs.run step new
          [initial, second, mainBranch]).states.toFinset.card =
        2 ∧
      ¬ BranchesApart [initial, second, mainBranch] := by
  refine ⟨by decide +kernel, by decide +kernel, ?_⟩
  intro hApart
  have hCounted := hApart.counted
  revert hCounted
  decide +kernel

end VersionLedger

end IsaWorkspace
