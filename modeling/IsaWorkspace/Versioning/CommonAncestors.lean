import IsaWorkspace.Versioning.Termination

/-
  The common ancestor of two states.

  In a lineage that is a forest, the first state of one
  ancestry that is on the other is the common ancestor below
  all others, whichever of the two is searched first.

  Main declarations:
    * `VersionLedger.Above`, `VersionLedger.RootOf`
    * `VersionLedger.NearestAncestor`
    * `VersionLedger.CommonAncestors`
    * `VersionLedger.commonAncestors`
-/

------------------------------------------------------------
-- The Property
------------------------------------------------------------

namespace IsaWorkspace

open Relation (ReflTransGen)

namespace VersionLedger

/- A state is an ancestor of another, or that state. -/
def Above
    (ledger : VersionLedger) :
    StateId → StateId → Prop :=
  ReflTransGen fun parent child =>
    (child, some parent) ∈ ledger.recorded

/- The ancestor of a state that was recorded without one. -/
structure RootOf
    (ledger : VersionLedger)
    (root stateId : StateId) : Prop where
  recorded : (root, none) ∈ ledger.recorded
  above : ledger.Above root stateId

/- A common ancestor of which all others are ancestors. -/
structure NearestAncestor
    (ledger : VersionLedger)
    (stateA stateB nearest : StateId) : Prop where
  aboveA : ledger.Above nearest stateA
  aboveB : ledger.Above nearest stateB
  below :
    ∀ other, ledger.Above other stateA →
      ledger.Above other stateB → ledger.Above other nearest

/-
  The search for a common ancestor ends with the nearest one
  and with none exactly for states of different roots, and
  so it does the other way round.
-/
structure CommonAncestors
    (ledger : VersionLedger) : Prop where
  roots :
    ∀ stateId ∈ ledger.states,
      ∃! root, ledger.RootOf root stateId
  searched :
    ∀ stateA ∈ ledger.states, ∀ stateB ∈ ledger.states,
      ∃ ancestor,
        ledger.control.CommonAncestorIs stateA stateB
            ancestor ∧
          ledger.control.CommonAncestorIs stateB stateA
            ancestor ∧
          (∀ nearest ∈ ancestor,
            ledger.NearestAncestor stateA stateB nearest) ∧
          (ancestor = none ↔
            ∀ rootA rootB,
              ledger.RootOf rootA stateA →
                ledger.RootOf rootB stateB →
                  rootA ≠ rootB)

------------------------------------------------------------
-- Ancestors by Links
------------------------------------------------------------

variable {ledger : VersionLedger}
variable {stateA stateB nearest : StateId}

/- Recorded parents are those that states link to. -/
theorem Forest.above_eq
    (hForest : ledger.Forest) :
    ledger.Above =
      ReflTransGen
        (Links.Parent ledger.control.parentLink) := by
  unfold Above
  congr 1
  funext parent child
  exact propext hForest.parentLink_eq_some_iff.symm

theorem Forest.rootOf_iff
    (hForest : ledger.Forest)
    {root stateId : StateId} :
    ledger.RootOf root stateId ↔
      Links.IsRoot ledger.control.parentLink root
        stateId := by
  constructor
  · rintro ⟨hRecorded, hAbove⟩
    rw [hForest.above_eq] at hAbove
    exact
      ⟨hForest.parentLink_eq_some_iff.mpr hRecorded, hAbove⟩
  · rintro ⟨hTop, hAbove⟩
    rw [← hForest.above_eq] at hAbove
    exact ⟨hForest.parentLink_eq_some_iff.mp hTop, hAbove⟩

theorem Forest.nearestAncestor_of
    (hForest : ledger.Forest)
    (hNearest :
      Links.Nearest ledger.control.parentLink stateA stateB
        nearest) :
    ledger.NearestAncestor stateA stateB nearest := by
  have hAbove := hForest.above_eq
  constructor
  · rw [hAbove]
    exact hNearest.ofOne
  · rw [hAbove]
    exact hNearest.ofOther
  · rw [hAbove]
    exact hNearest.above

theorem Forest.ranked
    (hForest : ledger.Forest) :
    Links.Ranked ledger.control.parentLink :=
  ⟨_, hForest.link_down⟩

theorem Forest.complete
    (hForest : ledger.Forest) :
    Links.Complete ledger.control.parentLink := by
  intro stateId parent hLink
  apply hForest.parentLink_ne_none
  exact
    hForest.parent_mem
      (hForest.parentLink_eq_some_iff.mp hLink)

/- The ancestry of any state ends with a chain. -/
theorem Forest.exists_chain
    (hForest : ledger.Forest)
    (stateId : StateId) :
    ∃ chain,
      Links.Chain ledger.control.parentLink (some stateId)
        chain := by
  rcases hForest.ranked.exists_nodup_chain (some stateId)
    with ⟨chain, hChain, _⟩
  exact ⟨chain, hChain⟩

------------------------------------------------------------
-- What the Search Returns
------------------------------------------------------------

/- Each state has one root. -/
theorem Forest.existsUnique_root
    (hForest : ledger.Forest)
    {stateId : StateId}
    (hState : stateId ∈ ledger.states) :
    ∃! root, ledger.RootOf root stateId := by
  rcases hForest.exists_chain stateId with ⟨chain, hChain⟩
  rcases Links.exists_root hForest.complete
      (hForest.parentLink_ne_none hState) hChain with
    ⟨root, hRoot⟩
  refine ⟨root, hForest.rootOf_iff.mpr hRoot, ?_⟩
  intro other hOther
  exact (hForest.rootOf_iff.mp hOther).unique hRoot

/- States have one root exactly if they have an ancestor. -/
theorem Forest.different_roots_iff
    (hForest : ledger.Forest)
    (hA : stateA ∈ ledger.states) :
    (∀ ancestor, ledger.Above ancestor stateA →
        ¬ ledger.Above ancestor stateB) ↔
      ∀ rootA rootB,
        ledger.RootOf rootA stateA →
          ledger.RootOf rootB stateB → rootA ≠ rootB := by
  constructor
  · rintro hApart root _ hRootA hRootB rfl
    exact hApart root hRootA.above hRootB.above
  · intro hDiffer ancestor hAboveA hAboveB
    -- the root of the ancestor would be that of both
    have hThere :
        ledger.control.parentLink ancestor ≠ none := by
      rw [hForest.above_eq] at hAboveA
      exact
        hForest.complete.there
          (hForest.parentLink_ne_none hA) hAboveA
    rcases hForest.exists_chain ancestor with
      ⟨chain, hChain⟩
    rcases Links.exists_root hForest.complete hThere hChain
      with ⟨root, hRoot⟩
    have hRootOf := hForest.rootOf_iff.mpr hRoot
    exact
      hDiffer root root
        ⟨hRootOf.recorded, hRootOf.above.trans hAboveA⟩
        ⟨hRootOf.recorded, hRootOf.above.trans hAboveB⟩ rfl

/- Both searches return the same. -/
theorem Forest.find_comm
    (hForest : ledger.Forest)
    (hA : stateA ∈ ledger.states)
    (hB : stateB ∈ ledger.states)
    {chainA chainB : List StateId}
    (hChainA :
      Links.Chain ledger.control.parentLink (some stateA)
        chainA)
    (hChainB :
      Links.Chain ledger.control.parentLink (some stateB)
        chainB) :
    (chainA.find? fun id => decide (id ∈ chainB)) =
      chainB.find? fun id => decide (id ∈ chainA) := by
  have hThereA := hForest.parentLink_ne_none hA
  have hThereB := hForest.parentLink_ne_none hB
  have hNone :=
    Links.find_eq_none_iff hForest.complete hThereA hThereB
      hChainA hChainB
  have hNone' :=
    Links.find_eq_none_iff hForest.complete hThereB hThereA
      hChainB hChainA
  cases hFind :
      chainA.find? fun id => decide (id ∈ chainB) with
  | none =>
      symm
      apply hNone'.mpr
      intro ancestor hAboveB hAboveA
      exact hNone.mp hFind ancestor hAboveA hAboveB
  | some nearest =>
      have hNearest :=
        Links.nearest_of_find hForest.complete hThereA
          hThereB hChainA hChainB hFind
      cases hFind' :
          chainB.find? fun id => decide (id ∈ chainA) with
      | none =>
          exact
            absurd hNearest.ofOne
              (hNone'.mp hFind' nearest hNearest.ofOther)
      | some nearest' =>
          have hNearest' :=
            Links.nearest_of_find hForest.complete hThereB
              hThereA hChainB hChainA hFind'
          rw [hNearest.unique hForest.ranked hNearest'.symm]

theorem Forest.hasCommonAncestors
    (hForest : ledger.Forest) :
    ledger.CommonAncestors where
  roots := fun _ hState => hForest.existsUnique_root hState
  searched := by
    intro stateA hA stateB hB
    have hThereA := hForest.parentLink_ne_none hA
    have hThereB := hForest.parentLink_ne_none hB
    rcases hForest.exists_chain stateA with
      ⟨chainA, hChainA⟩
    rcases hForest.exists_chain stateB with
      ⟨chainB, hChainB⟩
    have hAncestryA :=
      StateVersionControl.ancestryIs_iff.mpr hChainA
    have hAncestryB :=
      StateVersionControl.ancestryIs_iff.mpr hChainB
    refine
      ⟨chainA.find? fun id => decide (id ∈ chainB),
        StateVersionControl.commonAncestorIs_of_ancestries
          hAncestryA hAncestryB, ?_, ?_, ?_⟩
    · rw [hForest.find_comm hA hB hChainA hChainB]
      exact
        StateVersionControl.commonAncestorIs_of_ancestries
          hAncestryB hAncestryA
    · intro nearest hFind
      exact
        hForest.nearestAncestor_of
          (Links.nearest_of_find hForest.complete hThereA
            hThereB hChainA hChainB hFind)
    · rw [← hForest.different_roots_iff hA,
        hForest.above_eq]
      exact
        Links.find_eq_none_iff hForest.complete hThereA
          hThereB hChainA hChainB

------------------------------------------------------------
-- Runs
------------------------------------------------------------

/-
  In every run that records each state once and after its
  parent, the nearest common ancestors are found.
-/
theorem commonAncestors
    (ops : List VersionOp)
    (hGrows : Runs.AlongRun step Grows new ops) :
    Runs.Throughout step CommonAncestors new ops :=
  (Runs.throughout_of_alongRun forest_step forest_new
    hGrows).mono fun _ hForest => hForest.hasCommonAncestors

open LineageSample in
theorem commonAncestors_siblings :
    Runs.AlongRun step Grows new [initial, second, back] ∧
      Runs.Throughout step CommonAncestors new
        [initial, second, back] := by
  have hGrows :
      Runs.AlongRun step Grows new
        [initial, second, back] := by
    decide +kernel
  exact
    ⟨hGrows, commonAncestors [initial, second, back] hGrows⟩

end VersionLedger

end IsaWorkspace
