import IsaWorkspace.Versioning.Operations

/-
  The lineage of recorded states.

  When every state is recorded once and after its parent,
  the parent links of the histories and their lists of
  children are two views of one forest: the ancestry of a
  state is its chain of parents, and its descendants are the
  states in whose ancestry it is.

  Main declarations:
    * `VersionLedger.ParentChain`, `LineageForest`
    * `VersionLedger.Grows`
    * `VersionLedger.Forest`, `forest_step`
    * `VersionLedger.lineageForest`
-/

------------------------------------------------------------
-- The Property
------------------------------------------------------------

namespace IsaWorkspace

namespace StateVersionControl

/- The ancestry loop ends, with a list of states. -/
def AncestryIs
    (control : StateVersionControl)
    (stateId : StateId)
    (ancestry : List StateId) : Prop :=
  ∃ rounds, ∀ more, rounds ≤ more →
    control.getAncestry stateId more = some ancestry

/- The search for descendants ends, with a list of states. -/
def DescendantsAre
    (control : StateVersionControl)
    (stateId : StateId)
    (descendants : List StateId) : Prop :=
  ∃ rounds, ∀ more, rounds ≤ more →
    control.getDescendants stateId more = some descendants

/- An ancestry is a chain of links. -/
theorem ancestryIs_iff
    {control : StateVersionControl}
    {stateId : StateId}
    {chain : List StateId} :
    control.AncestryIs stateId chain ↔
      Links.Chain control.parentLink (some stateId) chain :=
  Links.ends_iff_chain

end StateVersionControl

namespace VersionLedger

/- The states that were recorded. -/
def states
    (ledger : VersionLedger) : List StateId :=
  ledger.recorded.map (·.1)

/- The states from one up to its root, by recorded parents. -/
inductive ParentChain
    (recorded : List (StateId × Option StateId)) :
    StateId → List StateId → Prop where
  | root
      {stateId : StateId}
      (hRecorded : (stateId, none) ∈ recorded) :
      ParentChain recorded stateId [stateId]
  | child
      {stateId parent : StateId}
      {chain : List StateId}
      (hRecorded : (stateId, some parent) ∈ recorded)
      (hChain : ParentChain recorded parent chain) :
      ParentChain recorded stateId (stateId :: chain)

/-
  Ancestry ends with the chain of parents, and descendants
  are the other states that have one in their ancestry.
-/
structure LineageForest
    (ledger : VersionLedger) : Prop where
  ancestry :
    ∀ stateId ∈ ledger.states,
      ∃ chain,
        ledger.control.AncestryIs stateId chain ∧
          ParentChain ledger.recorded stateId chain ∧
          chain.Nodup
  descendants :
    ∀ ancestor ∈ ledger.states,
      ∃ found,
        ledger.control.DescendantsAre ancestor found ∧
          found.Nodup ∧
          ∀ stateId,
            stateId ∈ found ↔
              stateId ≠ ancestor ∧
                ∃ chain,
                  ledger.control.AncestryIs stateId chain ∧
                    ancestor ∈ chain

/-
  A state is recorded once, and after its parent; no branch
  is created.
-/
def Grows
    (ledger : VersionLedger) : VersionOp → Prop
| .recordState stateId parentId _ _ _ =>
    stateId ∉ ledger.states ∧
      ∀ parent ∈ parentId, parent ∈ ledger.states
| .rollback _ uuid _ => ⟨uuid⟩ ∉ ledger.states
| .createBranch _ _ _ => False
| _ => True

instance
    (ledger : VersionLedger)
    (op : VersionOp) :
    Decidable (ledger.Grows op) := by
  unfold Grows
  split <;> infer_instance

------------------------------------------------------------
-- Two Views of a Forest
------------------------------------------------------------

/- The states that were recorded with a parent. -/
def childrenIn
    (recorded : List (StateId × Option StateId))
    (parent : StateId) : List StateId :=
  (recorded.filter fun entry =>
    decide (entry.2 = some parent)).map (·.1)

/-
  Each recorded state has a history with one entry, which
  names its parent, and with the children recorded for it;
  its parent was recorded before it.
-/
structure Forest
    (ledger : VersionLedger) : Prop where
  nodup : ledger.states.Nodup
  recorded :
    ∀ stateId parentId,
      (stateId, parentId) ∈ ledger.recorded →
        ∃ entry,
          ledger.control.history.lookup stateId =
              some
                { stateId := stateId
                  entries := [entry]
                  children :=
                    childrenIn ledger.recorded stateId } ∧
            entry.parentId = parentId
  absent :
    ∀ stateId, stateId ∉ ledger.states →
      ledger.control.history.lookup stateId = none
  ordered :
    ∀ stateId parent,
      (stateId, some parent) ∈ ledger.recorded →
        ledger.states.idxOf parent <
          ledger.states.idxOf stateId

/- Nothing is recorded at first. -/
theorem forest_new : Forest new where
  nodup := List.nodup_nil
  recorded := by
    intro stateId parentId hRecorded
    cases hRecorded
  absent := by
    intro stateId _
    exact Finmap.lookup_empty _
  ordered := by
    intro stateId parent hRecorded
    cases hRecorded

variable {ledger : VersionLedger}

/- A recorded state is among the states. -/
theorem mem_states
    {stateId : StateId}
    {parentId : Option StateId}
    (hRecorded : (stateId, parentId) ∈ ledger.recorded) :
    stateId ∈ ledger.states :=
  List.mem_map_of_mem hRecorded

theorem exists_of_mem_states
    {stateId : StateId}
    (hState : stateId ∈ ledger.states) :
    ∃ parentId, (stateId, parentId) ∈ ledger.recorded := by
  rcases List.mem_map.mp hState with
    ⟨⟨_, parentId⟩, hRecorded, rfl⟩
  exact ⟨parentId, hRecorded⟩

/- A parent was recorded, too. -/
theorem Forest.parent_mem
    (hForest : ledger.Forest)
    {stateId parent : StateId}
    (hRecorded :
      (stateId, some parent) ∈ ledger.recorded) :
    parent ∈ ledger.states := by
  have hBefore := hForest.ordered stateId parent hRecorded
  exact
    List.idxOf_lt_length_iff.mp
      (hBefore.trans_le List.idxOf_le_length)

/- No state of which nothing is known has children. -/
theorem Forest.childrenIn_of_absent
    (hForest : ledger.Forest)
    {stateId : StateId}
    (hAbsent : stateId ∉ ledger.states) :
    childrenIn ledger.recorded stateId = [] := by
  unfold childrenIn
  rw [List.map_eq_nil_iff, List.filter_eq_nil_iff]
  rintro ⟨child, parentId⟩ hRecorded hParent
  have hSame : parentId = some stateId :=
    of_decide_eq_true hParent
  rw [hSame] at hRecorded
  exact hAbsent (hForest.parent_mem hRecorded)

/- The children, with one more state recorded. -/
theorem childrenIn_concat
    (recorded : List (StateId × Option StateId))
    (stateId : StateId)
    (parentId : Option StateId)
    (other : StateId) :
    childrenIn (recorded ++ [(stateId, parentId)]) other =
      if parentId = some other then
        childrenIn recorded other ++ [stateId]
      else
        childrenIn recorded other := by
  unfold childrenIn
  by_cases hParent : parentId = some other
  · simp [hParent]
  · simp [hParent]

/- Recording a new state below one that is there. -/
theorem Forest.record
    (hForest : ledger.Forest)
    (entry : HistoryEntry)
    (hNew : entry.stateId ∉ ledger.states)
    (hParent :
      ∀ parent ∈ entry.parentId, parent ∈ ledger.states) :
    Forest
      { control :=
          { ledger.control with
            history :=
              ledger.control.recordedHistory entry }
        recorded :=
          ledger.recorded ++
            [(entry.stateId, entry.parentId)] } := by
  have hStates :
      states
          { control :=
              { ledger.control with
                history :=
                  ledger.control.recordedHistory entry }
            recorded :=
              ledger.recorded ++
                [(entry.stateId, entry.parentId)] } =
        ledger.states ++ [entry.stateId] := by
    simp [states]
  have hNotParent : entry.parentId ≠ some entry.stateId :=
    fun hSame => hNew (hParent entry.stateId hSame)
  have hFresh := hForest.absent entry.stateId hNew
  constructor
  · rw [hStates]
    refine List.nodup_append.mpr
      ⟨hForest.nodup, List.nodup_singleton _, ?_⟩
    intro one hOne other hOther hSame
    rcases List.mem_singleton.mp hOther with rfl
    exact hNew (hSame ▸ hOne)
  · intro stateId parentId hRecorded
    dsimp only [StateVersionControl.recordedHistory]
    rw [StateVersionControl.lookup_pushChild,
      StateVersionControl.lookup_pushEntry,
      childrenIn_concat]
    rcases List.mem_append.mp hRecorded with hOld | hLast
    · have hOther : stateId ≠ entry.stateId := by
        rintro rfl
        exact hNew (mem_states hOld)
      rcases hForest.recorded stateId parentId hOld with
        ⟨first, hLookup, hFirst⟩
      refine ⟨first, ?_, hFirst⟩
      rw [if_neg hOther, hLookup, Option.map_some]
      by_cases hChild : entry.parentId = some stateId
      · rw [if_pos hChild, if_pos hChild]
      · rw [if_neg hChild, if_neg hChild]
    · rcases List.mem_singleton.mp hLast with hSame
      cases hSame
      refine ⟨entry, ?_, rfl⟩
      rw [if_pos rfl, hFresh, Option.map_some,
        if_neg hNotParent, if_neg hNotParent,
        hForest.childrenIn_of_absent hNew]
      rfl
  · intro stateId hAbsent
    rw [hStates, List.mem_append, List.mem_singleton,
      not_or] at hAbsent
    dsimp only [StateVersionControl.recordedHistory]
    rw [StateVersionControl.lookup_pushChild,
      StateVersionControl.lookup_pushEntry,
      if_neg hAbsent.2, hForest.absent stateId hAbsent.1]
    rfl
  · intro stateId parent hRecorded
    rw [hStates]
    rcases List.mem_append.mp hRecorded with hOld | hLast
    · rw [List.idxOf_append_of_mem (hForest.parent_mem hOld),
        List.idxOf_append_of_mem (mem_states hOld)]
      exact hForest.ordered stateId parent hOld
    · have hSame := List.mem_singleton.mp hLast
      have hId : stateId = entry.stateId :=
        congrArg Prod.fst hSame
      have hParentId : some parent = entry.parentId :=
        congrArg Prod.snd hSame
      have hThere := hParent parent hParentId.symm
      rw [hId, List.idxOf_append_of_mem hThere,
        List.idxOf_append_of_notMem hNew]
      exact
        (List.idxOf_lt_length_iff.mpr hThere).trans_le
          (Nat.le_add_right _ _)

/- A call that lets the forest grow keeps both views of it. -/
theorem forest_step
    (ledger : VersionLedger)
    (op : VersionOp)
    (hForest : ledger.Forest)
    (hGrows : ledger.Grows op) :
    (ledger.step op).Forest := by
  have hEffect := versionEffect ledger op
  generalize ledger.step op = next at hEffect ⊢
  cases hEffect with
  | recorded entry hEntry hCreate =>
      cases op with
      | recordState =>
          cases hEntry
          exact hForest.record _ hGrows.1 hGrows.2
      | rollback toState uuid now =>
          rcases Option.map_eq_some_iff.mp hEntry with
            ⟨found, hLookup, rfl⟩
          refine
            hForest.record
              (StateVersionControl.entryOf ⟨uuid⟩
                (some toState) "Rollback" "system" now)
              hGrows ?_
          rintro parent ⟨⟩
          by_contra hAbsent
          rw [hForest.absent toState hAbsent] at hLookup
          cases hLookup
      | createBranch => cases hCreate
      | _ => cases hEntry
  | branched name entry hEntry hCreate =>
      cases op with
      | createBranch => exact hGrows.elim
      | _ => cases hCreate
  | kept control hEntry hHistory hBranches =>
      constructor
      · exact hForest.nodup
      · rw [hHistory]
        exact hForest.recorded
      · rw [hHistory]
        exact hForest.absent
      · exact hForest.ordered

------------------------------------------------------------
-- What the Queries Return
------------------------------------------------------------

/- A state links to the parent that was recorded for it. -/
theorem Forest.parentLink_eq_some_iff
    (hForest : ledger.Forest)
    {stateId : StateId}
    {parentId : Option StateId} :
    ledger.control.parentLink stateId = some parentId ↔
      (stateId, parentId) ∈ ledger.recorded := by
  constructor
  · intro hLink
    by_cases hState : stateId ∈ ledger.states
    · rcases exists_of_mem_states hState with
        ⟨found, hRecorded⟩
      rcases hForest.recorded stateId found hRecorded with
        ⟨entry, hLookup, hEntry⟩
      unfold StateVersionControl.parentLink at hLink
      rw [hLookup] at hLink
      have hSame : entry.parentId = parentId :=
        Option.some.inj hLink
      rw [← hSame, hEntry]
      exact hRecorded
    · unfold StateVersionControl.parentLink at hLink
      rw [hForest.absent stateId hState] at hLink
      cases hLink
  · intro hRecorded
    rcases hForest.recorded stateId parentId hRecorded with
      ⟨entry, hLookup, rfl⟩
    unfold StateVersionControl.parentLink
    rw [hLookup]
    rfl

/- A state that was recorded has a link. -/
theorem Forest.parentLink_ne_none
    (hForest : ledger.Forest)
    {stateId : StateId}
    (hState : stateId ∈ ledger.states) :
    ledger.control.parentLink stateId ≠ none := by
  rcases exists_of_mem_states hState with
    ⟨parentId, hRecorded⟩
  rw [hForest.parentLink_eq_some_iff.mpr hRecorded]
  exact Option.some_ne_none parentId

/- Links go back to states recorded earlier. -/
theorem Forest.link_down
    (hForest : ledger.Forest) :
    ∀ stateId parent,
      ledger.control.parentLink stateId =
          some (some parent) →
        ledger.states.idxOf parent <
          ledger.states.idxOf stateId := by
  intro stateId parent hLink
  exact
    hForest.ordered stateId parent
      (hForest.parentLink_eq_some_iff.mp hLink)

/- The children of a state are those that link to it. -/
theorem Forest.mem_childrenOf_iff
    (hForest : ledger.Forest)
    {parent child : StateId} :
    child ∈ ledger.control.childrenOf parent ↔
      Links.Parent ledger.control.parentLink parent
        child := by
  unfold Links.Parent
  rw [hForest.parentLink_eq_some_iff]
  have hChildren :
      ledger.control.childrenOf parent =
        childrenIn ledger.recorded parent := by
    unfold StateVersionControl.childrenOf
    by_cases hState : parent ∈ ledger.states
    · rcases exists_of_mem_states hState with
        ⟨parentId, hRecorded⟩
      rcases hForest.recorded parent parentId hRecorded with
        ⟨entry, hLookup, _⟩
      rw [hLookup]
    · rw [hForest.absent parent hState,
        hForest.childrenIn_of_absent hState]
  rw [hChildren]
  unfold childrenIn
  simp

/- A chain of links is a chain of recorded parents. -/
theorem Forest.parentChain_of_chain
    (hForest : ledger.Forest)
    {stateId : StateId}
    {chain : List StateId}
    (hState : stateId ∈ ledger.states)
    (hChain :
      Links.Chain ledger.control.parentLink (some stateId)
        chain) :
    ParentChain ledger.recorded stateId chain := by
  generalize hStart : some stateId = start at hChain
  induction hChain generalizing stateId with
  | ended => cases hStart
  | @missing node hLink =>
      cases hStart
      exact absurd hLink (hForest.parentLink_ne_none hState)
  | @linked node next rest hLink hRest ih =>
      cases hStart
      have hRecorded :=
        hForest.parentLink_eq_some_iff.mp hLink
      cases next with
      | none =>
          cases hRest
          exact .root hRecorded
      | some parent =>
          exact
            .child hRecorded
              (ih (hForest.parent_mem hRecorded) rfl)

/- Descendants by children are descendants by links. -/
theorem Forest.reaches_iff
    (hForest : ledger.Forest)
    {ancestor stateId : StateId} :
    Reachability.Reaches ledger.control.childrenOf ancestor
        stateId ↔
      Relation.TransGen
        (Links.Parent ledger.control.parentLink) ancestor
        stateId := by
  have hSame :
      (fun parent child =>
          child ∈ ledger.control.childrenOf parent) =
        Links.Parent ledger.control.parentLink := by
    funext parent child
    exact propext hForest.mem_childrenOf_iff
  unfold Reachability.Reaches
  rw [hSame]

/- A state descends from those in its ancestry. -/
theorem Forest.descends_iff
    (hForest : ledger.Forest)
    {ancestor stateId : StateId}
    (hAncestor : ancestor ∈ ledger.states) :
    Relation.TransGen
        (Links.Parent ledger.control.parentLink) ancestor
        stateId ↔
      stateId ≠ ancestor ∧
        ∃ chain,
          ledger.control.AncestryIs stateId chain ∧
            ancestor ∈ chain := by
  have hThere := hForest.parentLink_ne_none hAncestor
  rw [Links.descends_iff hForest.link_down]
  constructor
  · rintro ⟨hOther, hDescends⟩
    rcases Links.exists_chain _ hForest.link_down
        (some stateId) with ⟨chain, hChain⟩
    exact
      ⟨hOther.symm, chain,
        StateVersionControl.ancestryIs_iff.mpr hChain,
        hChain.mem_iff.mpr ⟨hThere, hDescends⟩⟩
  · rintro ⟨hOther, chain, hIs, hMember⟩
    have hChain :=
      StateVersionControl.ancestryIs_iff.mp hIs
    exact ⟨hOther.symm, (hChain.mem_iff.mp hMember).2⟩

/- Both queries tell the same about a forest. -/
theorem Forest.isLineage
    (hForest : ledger.Forest) :
    ledger.LineageForest := by
  constructor
  · intro stateId hState
    rcases Links.exists_chain _ hForest.link_down
        (some stateId) with ⟨chain, hChain⟩
    exact
      ⟨chain, StateVersionControl.ancestryIs_iff.mpr hChain,
        hForest.parentChain_of_chain hState hChain,
        hChain.nodup hForest.link_down⟩
  · intro ancestor hAncestor
    have hInside :
        ∀ node, ∀ child ∈ ledger.control.childrenOf node,
          child ∈ ledger.states.toFinset := by
      intro node child hChild
      rw [List.mem_toFinset]
      exact
        mem_states
          (hForest.parentLink_eq_some_iff.mp
            (hForest.mem_childrenOf_iff.mp hChild))
    rcases Reachability.ends_with_reachable
        ledger.control.childrenOf ledger.states.toFinset
        hInside ancestor with
      ⟨found, hEnds, hNodup, hFound⟩
    refine ⟨found, hEnds, hNodup, ?_⟩
    intro stateId
    rw [hFound, hForest.reaches_iff,
      hForest.descends_iff hAncestor]

/-
  In every run that records each state once and after its
  parent, the lineage is a forest at all times.
-/
theorem lineageForest
    (ops : List VersionOp)
    (hGrows : Runs.AlongRun step Grows new ops) :
    Runs.Throughout step LineageForest new ops :=
  (Runs.throughout_of_alongRun forest_step forest_new
    hGrows).mono fun _ hForest => hForest.isLineage

------------------------------------------------------------
-- Sample Runs
------------------------------------------------------------

/- A root with two children, one of them by a rollback. -/
namespace LineageSample

def initial : VersionOp :=
  .recordState ⟨"state-1"⟩ none "Initial" "user"
    DateTime.unixEpoch

def second : VersionOp :=
  .recordState ⟨"state-2"⟩ (some ⟨"state-1"⟩) "Second"
    "user" DateTime.unixEpoch

def back : VersionOp :=
  .rollback ⟨"state-1"⟩
    "0f8fad5b-d9cb-469f-a165-70867728950e"
    DateTime.unixEpoch

end LineageSample

open LineageSample

theorem lineageForest_sample :
    Runs.Throughout step LineageForest new
      [initial, second, back] :=
  lineageForest [initial, second, back] (by decide +kernel)

end VersionLedger

end IsaWorkspace
