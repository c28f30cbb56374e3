import IsaWorkspace.Versioning.Branches
import IsaWorkspace.Foundations.LinkForest

/-
  When the ancestry queries end.

  The loop of the ancestry follows the parents that clients
  have named, and has no memory of where it has been.  A
  state gets its parent with its first entry and keeps it,
  so a loop is closed for good by the recording that gives a
  new state a parent above which the new state stands
  already.

  Main declarations:
    * `StateVersionControl.CommonAncestorIs`
    * `VersionLedger.QueriesEnd`
    * `VersionLedger.ClosesNoLoop`
    * `VersionLedger.parentLink_step`
    * `VersionLedger.queriesEnd_iff`
-/

------------------------------------------------------------
-- The Property
------------------------------------------------------------

namespace IsaWorkspace

open Relation (ReflTransGen TransGen)

namespace StateVersionControl

/- The search for a common ancestor ends, with a result. -/
def CommonAncestorIs
    (control : StateVersionControl)
    (stateA stateB : StateId)
    (ancestor : Option StateId) : Prop :=
  ∃ rounds, ∀ more, rounds ≤ more →
    control.findCommonAncestor stateA stateB more =
      some ancestor

end StateVersionControl

namespace VersionLedger

/-
  Every ancestry ends and repeats no state, and with them
  every search for a common ancestor ends.
-/
structure QueriesEnd
    (ledger : VersionLedger) : Prop where
  ancestry :
    ∀ stateId, ∃ chain,
      ledger.control.AncestryIs stateId chain ∧ chain.Nodup
  commonAncestor :
    ∀ stateA stateB, ∃ ancestor,
      ledger.control.CommonAncestorIs stateA stateB ancestor

/-
  A state without a history is not recorded below itself,
  nor below a state in whose line of parents it stands.
-/
def ClosesNoLoop
    (ledger : VersionLedger)
    (op : VersionOp) : Prop :=
  ∀ entry, op.entry ledger.control = some entry →
    ¬ Known ledger.control entry.stateId →
      ∀ parent ∈ entry.parentId,
        ¬ ReflTransGen
          (Links.Parent ledger.control.parentLink)
          entry.stateId parent

------------------------------------------------------------
-- Queries and Chains
------------------------------------------------------------

end VersionLedger

namespace StateVersionControl

variable {control : StateVersionControl}
variable {stateA stateB : StateId}
variable {chainA chainB : List StateId}

/- The search ends with the two ancestries. -/
theorem commonAncestorIs_of_ancestries
    (hAncestryA : control.AncestryIs stateA chainA)
    (hAncestryB : control.AncestryIs stateB chainB) :
    control.CommonAncestorIs stateA stateB
      (chainA.find? fun id => decide (id ∈ chainB)) := by
  rcases hAncestryA with ⟨roundsA, hA⟩
  rcases hAncestryB with ⟨roundsB, hB⟩
  refine ⟨max roundsA roundsB, ?_⟩
  intro more hMore
  unfold findCommonAncestor
  rw [hA more (le_of_max_le_left hMore),
    hB more (le_of_max_le_right hMore)]
  rfl

/- A state has a link exactly if it has a history. -/
theorem parentLink_ne_none_iff
    {stateId : StateId} :
    control.parentLink stateId ≠ none ↔
      VersionLedger.Known control stateId := by
  unfold parentLink VersionLedger.Known
  rw [Ne, Option.map_eq_none_iff]
  exact Option.isSome_iff_ne_none.symm

end StateVersionControl

------------------------------------------------------------
-- What a Call Does to the Links
------------------------------------------------------------

namespace VersionLedger

variable {ledger : VersionLedger} {op : VersionOp}

/- A recorded state that has no link yet gets one. -/
theorem parentLink_step
    (hFilled : Filled ledger.control.history)
    (op : VersionOp)
    (other : StateId) :
    (ledger.step op).control.parentLink other =
      match op.entry ledger.control with
      | none => ledger.control.parentLink other
      | some entry =>
          if other = entry.stateId then
            some
              ((ledger.control.parentLink other).getD
                entry.parentId)
          else
            ledger.control.parentLink other := by
  rw [parentLink_eq, parentLink_eq, history_step]
  cases op.entry ledger.control with
  | none => rfl
  | some entry =>
      dsimp only
      rw [lineageOf_recordedHistory hFilled]
      by_cases hSame : other = entry.stateId
      · rw [if_pos hSame, if_pos hSame, Option.map_some,
          Option.map_some]
        cases lineageOf ledger.control.history other with
        | none =>
            split
            · rfl
            · rfl
        | some lineage =>
            split
            · rfl
            · rfl
      · rw [if_neg hSame, if_neg hSame, Option.map_map]
        congr 1
        funext lineage
        dsimp only [Function.comp]
        split
        · rfl
        · rfl

/- A link that is there is kept. -/
theorem parentLink_kept
    (hFilled : Filled ledger.control.history)
    {stateId : StateId}
    {parent : Option StateId}
    (hLink :
      ledger.control.parentLink stateId = some parent) :
    (ledger.step op).control.parentLink stateId =
      some parent := by
  rw [parentLink_step hFilled]
  cases op.entry ledger.control with
  | none => exact hLink
  | some entry =>
      dsimp only
      rw [hLink, Option.getD_some, ite_self]

theorem filled_step
    (hFilled : Filled ledger.control.history) :
    Filled (ledger.step op).control.history := by
  rw [history_step]
  cases op.entry ledger.control with
  | none => exact hFilled
  | some entry => exact filled_recordedHistory hFilled entry

------------------------------------------------------------
-- The Invariant
------------------------------------------------------------

/- Histories have entries, whose links lead to an end. -/
structure Grounded
    (ledger : VersionLedger) : Prop where
  filled : Filled ledger.control.history
  ranked : Links.Ranked ledger.control.parentLink

theorem grounded_new : Grounded new where
  filled := by
    intro stateId recorded hLookup
    cases hLookup
  ranked := ⟨fun _ => 0, fun _ _ hLink => nomatch hLink⟩

theorem Grounded.queriesEnd
    (hGrounded : ledger.Grounded) :
    ledger.QueriesEnd := by
  have hAncestry :
      ∀ stateId, ∃ chain,
        ledger.control.AncestryIs stateId chain ∧
          chain.Nodup := by
    intro stateId
    rcases hGrounded.ranked.exists_nodup_chain
        (some stateId) with ⟨chain, hChain, hNodup⟩
    exact
      ⟨chain,
        StateVersionControl.ancestryIs_iff.mpr hChain,
        hNodup⟩
  constructor
  · exact hAncestry
  · intro stateA stateB
    rcases hAncestry stateA with ⟨chainA, hA, _⟩
    rcases hAncestry stateB with ⟨chainB, hB, _⟩
    exact
      ⟨_,
        StateVersionControl.commonAncestorIs_of_ancestries
          hA hB⟩

/- A recording that closes no loop keeps the links ranked. -/
theorem Grounded.step
    (hGrounded : ledger.Grounded)
    (hCloses : ledger.ClosesNoLoop op) :
    (ledger.step op).Grounded where
  filled := filled_step hGrounded.filled
  ranked := by
    have hStep := parentLink_step hGrounded.filled op
    cases hEntry : op.entry ledger.control with
    | none =>
        rw [hEntry] at hStep
        rw [show (ledger.step op).control.parentLink = _ from
          funext hStep]
        exact hGrounded.ranked
    | some entry =>
        rw [hEntry] at hStep
        dsimp only at hStep
        have hOthers :
            ∀ other, other ≠ entry.stateId →
              (ledger.step op).control.parentLink other =
                ledger.control.parentLink other := by
          intro other hOther
          rw [hStep, if_neg hOther]
        have hLink := hStep entry.stateId
        rw [if_pos rfl] at hLink
        by_cases hKnown :
            Known ledger.control entry.stateId
        · -- the state keeps the parent that it has
          rcases Option.ne_none_iff_exists'.mp
              (StateVersionControl.parentLink_ne_none_iff.mpr
                hKnown) with ⟨parent, hParent⟩
          rw [hParent, Option.getD_some, ← hParent] at hLink
          have hSame :
              (ledger.step op).control.parentLink =
                ledger.control.parentLink := by
            funext other
            by_cases hOther : other = entry.stateId
            · rw [hOther, hLink]
            · exact hOthers other hOther
          rw [hSame]
          exact hGrounded.ranked
        · have hNone :
              ledger.control.parentLink entry.stateId =
                none := by
            by_contra hSome
            exact
              hKnown
                (StateVersionControl.parentLink_ne_none_iff.mp
                  hSome)
          rw [hNone, Option.getD_none] at hLink
          exact
            hGrounded.ranked.relink hLink hOthers
              (hCloses entry hEntry hKnown)

/- On a loop that is closed no ancestry ends. -/
theorem Grounded.closesNoLoop
    (hGrounded : ledger.Grounded)
    (hEnd : (ledger.step op).QueriesEnd) :
    ledger.ClosesNoLoop op := by
  intro entry hEntry hKnown parent hParent hAbove
  have hNone :
      ledger.control.parentLink entry.stateId = none := by
    by_contra hSome
    exact
      hKnown
        (StateVersionControl.parentLink_ne_none_iff.mp hSome)
  have hLink :
      Links.Parent (ledger.step op).control.parentLink
        parent entry.stateId := by
    unfold Links.Parent
    rw [parentLink_step hGrounded.filled, hEntry]
    dsimp only
    rw [if_pos rfl, hNone, Option.getD_none, hParent]
  have hStill :
      ReflTransGen
        (Links.Parent (ledger.step op).control.parentLink)
        entry.stateId parent :=
    hAbove.lift id fun _ _ hOld =>
      parentLink_kept hGrounded.filled hOld
  rcases hEnd.ancestry entry.stateId with ⟨chain, hChain, _⟩
  exact
    Links.not_chain_of_cycle
      (TransGen.tail' hStill hLink) chain
      (StateVersionControl.ancestryIs_iff.mp hChain)

------------------------------------------------------------
-- When the Queries End
------------------------------------------------------------

/-
  The queries end in all states of a run exactly if none of
  its calls closes a loop.
-/
theorem queriesEnd_iff
    (ops : List VersionOp) :
    Runs.Throughout step QueriesEnd new ops ↔
      Runs.AlongRun step ClosesNoLoop new ops :=
  Runs.throughout_iff_alongRun_of_stronger
    (fun _ hGrounded => hGrounded.queriesEnd)
    (fun _ _ hGrounded hEnd => hGrounded.closesNoLoop hEnd)
    (fun _ _ hGrounded hCloses => hGrounded.step hCloses)
    grounded_new

/- A state that is recorded as its own parent. -/
theorem queriesEnd_selfParent :
    ¬ Runs.Throughout step QueriesEnd new
      [.recordState ⟨"state-1"⟩ (some ⟨"state-1"⟩)
        "Initial" "user" DateTime.unixEpoch] := by
  intro hRun
  have hCloses := grounded_new.closesNoLoop hRun.2
  exact
    hCloses _ rfl (by decide) ⟨"state-1"⟩ rfl
      ReflTransGen.refl

end VersionLedger

end IsaWorkspace
