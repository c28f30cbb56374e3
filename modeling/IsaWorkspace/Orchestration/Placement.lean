import IsaWorkspace.Orchestration.Selection

/-
  Placements between two health updates.

  A placement changes no node, so that a node which is best
  once stays best until its VMs are reported.  The nodes are
  not overcommitted as long as each has a slot for every call
  that it is a candidate for, and exactly as long as a node
  without a slot left is outranked by another one.

  Main declarations:
    * `EdgeOrchestrator.PlaceCall`
    * `EdgeOrchestrator.placements`
    * `EdgeOrchestrator.NeverOvercommits`
    * `EdgeOrchestrator.FitsCandidacies`
    * `EdgeOrchestrator.PassesOverFull`
    * `EdgeOrchestrator.neverOvercommits_iff`
    * `EdgeOrchestrator.overcommits_of_repeated`
-/

------------------------------------------------------------
-- Placements
------------------------------------------------------------

namespace IsaWorkspace

/- How many VMs a node can still take. -/
def EdgeNode.freeSlots
    (node : EdgeNode) : Nat :=
  node.config.maxVms.toNat - node.currentVms.toNat

namespace EdgeOrchestrator

/- A call for a placement, and its visit of the nodes. -/
structure PlaceCall
    (orchestrator : EdgeOrchestrator) where
  regionPreference : Option String
  order : orchestrator.NodeOrder

variable {orchestrator : EdgeOrchestrator}

def PlaceCall.run
    (call : orchestrator.PlaceCall) :
    Option (Option PlacementDecision) :=
  orchestrator.placeVm call.order call.regionPreference

/- The node is the best one for the call. -/
def PlaceCall.Selects
    (node : EdgeNode)
    (call : orchestrator.PlaceCall) : Prop :=
  orchestrator.IsBest call.order call.regionPreference node

instance
    (node : EdgeNode)
    (call : orchestrator.PlaceCall) :
    Decidable (call.Selects node) :=
  inferInstanceAs (Decidable (IsBest _ _ _ _))

/- Whether a call decides for a node. -/
def PlaceCall.decidesFor
    (nodeId : String)
    (call : orchestrator.PlaceCall) : Bool :=
  match call.run with
  | some (some decision) => decide (decision.nodeId = nodeId)
  | _ => false

/- How many of the calls decide for a node. -/
def placements
    (calls : List orchestrator.PlaceCall)
    (nodeId : String) : Nat :=
  calls.countP (·.decidesFor nodeId)

/- With what has been placed, the nodes of a region are full. -/
def FullAfter
    (calls : List orchestrator.PlaceCall)
    (region : String) : Prop :=
  ∀ nodeId node,
    orchestrator.nodes.lookup nodeId = some node →
      node.config.region = region →
        node.config.maxVms.toNat ≤
          node.currentVms.toNat + placements calls nodeId

/-
  No node is decided for more often than it has free slots,
  and no node for a preferred region that is full.
-/
structure NeverOvercommits
    (calls : List orchestrator.PlaceCall) : Prop where
  within :
    ∀ nodeId node,
      orchestrator.nodes.lookup nodeId = some node →
        placements calls nodeId ≤ node.freeSlots
  full :
    ∀ earlier call later region,
      calls = earlier ++ call :: later →
        call.regionPreference = some region →
          FullAfter earlier region →
            call.run = some none

/-
  Every node has a free slot for each of the calls that it
  may be placed on for: it accepts VMs, in the region that is
  preferred.
-/
def FitsCandidacies
    (calls : List orchestrator.PlaceCall) : Prop :=
  ∀ nodeId node,
    orchestrator.nodes.lookup nodeId = some node →
      (calls.countP fun call =>
          isCandidate call.regionPreference node) ≤
        node.freeSlots

/- What these calls have placed takes all slots of a node. -/
def UsedUp
    (earlier : List orchestrator.PlaceCall)
    (node : EdgeNode) : Prop :=
  node.freeSlots ≤ placements earlier node.config.nodeId

/-
  At each call, a candidate without a slot left is outranked
  by another candidate: one that scores higher, or as high
  and is visited later, or does not compare.
-/
def PassesOverFull
    (calls : List orchestrator.PlaceCall) : Prop :=
  ∀ earlier call later,
    calls = earlier ++ call :: later →
      ∀ node ∈
          orchestrator.candidates call.order
            call.regionPreference,
        UsedUp earlier node →
          ∃ other,
            Outranks scoresBelow
              (orchestrator.candidates call.order
                call.regionPreference)
              other node

------------------------------------------------------------
-- Decisions
------------------------------------------------------------

variable {calls : List orchestrator.PlaceCall}
variable {call : orchestrator.PlaceCall}
variable {nodeId : String} {node : EdgeNode}

theorem decidesFor_iff
    (hKeyed : orchestrator.KeyedByNodeId)
    (hNode : orchestrator.nodes.lookup nodeId = some node) :
    call.decidesFor nodeId = true ↔ call.Selects node := by
  refine Iff.trans ?_ (placeVm_for_iff hKeyed hNode)
  unfold PlaceCall.decidesFor
  constructor
  · intro hDecides
    split at hDecides
    · next decision hDecision =>
        exact
          ⟨decision, hDecision, of_decide_eq_true hDecides⟩
    · cases hDecides
  · rintro ⟨decision, hDecision, hId⟩
    rw [show call.run = _ from hDecision]
    exact decide_eq_true hId

/- A node is decided for as often as it is the best one. -/
theorem placements_eq
    (hKeyed : orchestrator.KeyedByNodeId)
    (hNode : orchestrator.nodes.lookup nodeId = some node) :
    placements calls nodeId =
      calls.countP fun call =>
        decide (call.Selects node) := by
  apply List.countP_congr
  intro call _
  rw [decidesFor_iff hKeyed hNode, decide_eq_true_iff]

/- A node that accepts VMs has a free slot. -/
theorem lt_of_canAccept
    (hAccepts : node.canAccept = true) :
    node.currentVms.toNat < node.config.maxVms.toNat :=
  (canAccept_iff.mp hAccepts).2

/-
  A candidate of a region that is full has been placed on,
  and the others were candidates for that call as well.
-/
theorem selected_of_fullAfter
    (hKeyed : orchestrator.KeyedByNodeId)
    {region : String}
    (hFull : FullAfter calls region)
    (hNode :
      node ∈
        orchestrator.candidates call.order (some region)) :
    ∃ earlier : orchestrator.PlaceCall,
      earlier.Selects node ∧
        orchestrator.candidates call.order (some region) ⊆
          orchestrator.candidates earlier.order
            earlier.regionPreference := by
  rcases (mem_candidates_iff hKeyed).mp hNode with
    ⟨hStored, hCandidate⟩
  rcases isCandidate_iff.mp hCandidate with
    ⟨hAccepts, hRegion⟩
  have hInside := hRegion region rfl
  have hMost := hFull _ node hStored hInside
  have hRoom := lt_of_canAccept hAccepts
  have hPlaced :
      0 < placements calls node.config.nodeId := by
    omega
  rcases List.countP_pos_iff.mp hPlaced with
    ⟨earlier, _, hDecides⟩
  have hSelects :=
    (decidesFor_iff hKeyed hStored).mp hDecides
  refine ⟨earlier, hSelects, ?_⟩
  intro other hOther
  rcases (mem_candidates_iff hKeyed).mp hOther with
    ⟨hOtherStored, hOtherCandidate⟩
  rcases isCandidate_iff.mp hOtherCandidate with
    ⟨hOtherAccepts, hOtherRegion⟩
  have hEarlier :=
    isCandidate_iff.mp (hSelects.candidate hKeyed).2
  apply (mem_candidates_iff hKeyed).mpr
  refine
    ⟨hOtherStored,
      isCandidate_iff.mpr ⟨hOtherAccepts, ?_⟩⟩
  -- both nodes are in the region that is full
  intro preferred hPreferred
  rw [hOtherRegion region rfl, ← hInside]
  exact hEarlier.2 preferred hPreferred

/- Within the free slots nothing is placed in a full region. -/
theorem run_eq_none_of_fullAfter
    (hKeyed : orchestrator.KeyedByNodeId)
    {earlier later : List orchestrator.PlaceCall}
    {region : String}
    (hWithin :
      ∀ nodeId node,
        orchestrator.nodes.lookup nodeId = some node →
          placements (earlier ++ call :: later) nodeId ≤
            node.freeSlots)
    (hRegion : call.regionPreference = some region)
    (hFull : FullAfter earlier region) :
    call.run = some none := by
  by_cases hCandidates :
      orchestrator.candidates call.order
        call.regionPreference = []
  · unfold PlaceCall.run placeVm findBestNode
    rw [hCandidates]
    rfl
  · exfalso
    have hBest : ∃ best, call.Selects best := by
      apply
        exists_isMax_of_covered isRanking_scoresBelow
          hCandidates (nodup_candidates hKeyed _ _)
      intro node hNode
      rw [hRegion] at hNode ⊢
      rcases selected_of_fullAfter hKeyed hFull hNode with
        ⟨earlier, hSelects, hSubset⟩
      exact ⟨_, hSelects, hSubset⟩
    rcases hBest with ⟨best, hBest⟩
    rcases hBest.candidate hKeyed with
      ⟨hStored, hCandidate⟩
    rcases isCandidate_iff.mp hCandidate with
      ⟨hAccepts, hInside⟩
    have hRoom := lt_of_canAccept hAccepts
    have hMost :=
      hFull _ best hStored (hInside region hRegion)
    have hDecides :=
      (decidesFor_iff hKeyed hStored).mpr hBest
    have hSlots := hWithin _ best hStored
    unfold placements at hMost hSlots
    unfold EdgeNode.freeSlots at hSlots
    rw [List.countP_append, List.countP_cons, hDecides]
      at hSlots
    rw [if_pos rfl] at hSlots
    omega

/- A call selects the candidate that no other one outranks. -/
theorem selects_iff
    (hKeyed : orchestrator.KeyedByNodeId) :
    call.Selects node ↔
      node ∈
          orchestrator.candidates call.order
            call.regionPreference ∧
        ∀ other,
          ¬ Outranks scoresBelow
            (orchestrator.candidates call.order
              call.regionPreference)
            other node :=
  isMax_iff_not_outranked (nodup_candidates hKeyed _ _)

/- With the next call, a node may have one VM more. -/
theorem placements_concat
    (earlier : List orchestrator.PlaceCall)
    (call : orchestrator.PlaceCall)
    (nodeId : String) :
    placements (earlier ++ [call]) nodeId =
      placements earlier nodeId +
        if call.decidesFor nodeId then 1 else 0 := by
  unfold placements
  rw [List.countP_append, List.countP_singleton]

/- A node that is placed on at each call has a slot left. -/
theorem within_of_passesOverFull
    (hKeyed : orchestrator.KeyedByNodeId)
    (hPasses : PassesOverFull calls)
    (hNode : orchestrator.nodes.lookup nodeId = some node)
    {earlier : List orchestrator.PlaceCall}
    (hEarlier : earlier <+: calls) :
    placements earlier nodeId ≤ node.freeSlots := by
  induction earlier using List.reverseRecOn with
  | nil => exact Nat.zero_le _
  | append_singleton earlier call ih =>
      rcases hEarlier with ⟨later, hCalls⟩
      rw [List.append_assoc] at hCalls
      have hBefore := ih ⟨_, hCalls⟩
      rw [placements_concat]
      split
      · next hDecides =>
          have hSelects :=
            (decidesFor_iff hKeyed hNode).mp hDecides
          rcases (selects_iff hKeyed).mp hSelects with
            ⟨hCandidate, hNone⟩
          have hId : node.config.nodeId = nodeId :=
            hKeyed nodeId node hNode
          have hLeft : ¬ UsedUp earlier node := by
            intro hUsedUp
            rcases hPasses earlier call later hCalls.symm
                node hCandidate hUsedUp with
              ⟨other, hOutranks⟩
            exact hNone other hOutranks
          unfold UsedUp at hLeft
          rw [hId] at hLeft
          omega
      · exact hBefore

/- A full node that is outranked by none is overcommitted. -/
theorem passesOverFull_of_within
    (hKeyed : orchestrator.KeyedByNodeId)
    (hWithin :
      ∀ nodeId node,
        orchestrator.nodes.lookup nodeId = some node →
          placements calls nodeId ≤ node.freeSlots) :
    PassesOverFull calls := by
  intro earlier call later hCalls node hCandidate hUsedUp
  by_contra hNone
  have hSelects : call.Selects node :=
    (selects_iff hKeyed).mpr
      ⟨hCandidate, fun other hOutranks =>
        hNone ⟨other, hOutranks⟩⟩
  have hStored := (hSelects.candidate hKeyed).1
  have hDecides :=
    (decidesFor_iff hKeyed hStored).mpr hSelects
  have hSlots := hWithin _ node hStored
  unfold UsedUp at hUsedUp
  unfold placements at hSlots hUsedUp
  rw [hCalls, List.countP_append, List.countP_cons,
    hDecides, if_pos rfl] at hSlots
  omega

/- A node is decided for only where it is a candidate. -/
theorem placements_le
    (hKeyed : orchestrator.KeyedByNodeId)
    (hNode : orchestrator.nodes.lookup nodeId = some node) :
    placements calls nodeId ≤
      calls.countP fun call =>
        isCandidate call.regionPreference node := by
  apply List.countP_mono_left
  intro call _ hDecides
  exact
    (((decidesFor_iff hKeyed hNode).mp
      hDecides).candidate hKeyed).2

/- Within the free slots nothing is overcommitted. -/
theorem neverOvercommits_of_within
    (hKeyed : orchestrator.KeyedByNodeId)
    (hWithin :
      ∀ nodeId node,
        orchestrator.nodes.lookup nodeId = some node →
          placements calls nodeId ≤ node.freeSlots) :
    NeverOvercommits calls := by
  refine ⟨hWithin, ?_⟩
  intro earlier call later region hCalls hRegion hFull
  rw [hCalls] at hWithin
  exact
    run_eq_none_of_fullAfter hKeyed hWithin hRegion hFull

/-
  Between two health updates no node is overcommitted if each
  has a free slot for every call that it is a candidate for,
  and exactly if at each call the candidates without a slot
  left are outranked by others.
-/
theorem neverOvercommits_iff
    [BuildProfile]
    (history : List NodeCall)
    (calls : List (reached history).PlaceCall) :
    (FitsCandidacies calls → NeverOvercommits calls) ∧
      (NeverOvercommits calls ↔ PassesOverFull calls) := by
  have hKeyed := keyedByNodeId_reached history
  refine ⟨?_, ?_, ?_⟩
  · intro hFits
    apply neverOvercommits_of_within hKeyed
    intro nodeId node hNode
    exact
      (placements_le hKeyed hNode).trans
        (hFits nodeId node hNode)
  · intro hNever
    exact passesOverFull_of_within hKeyed hNever.within
  · intro hPasses
    apply neverOvercommits_of_within hKeyed
    intro nodeId node hNode
    exact
      within_of_passesOverFull hKeyed hPasses hNode
        (List.prefix_refl calls)

/- A call repeated once more than there is room overcommits. -/
theorem overcommits_of_repeated
    (hKeyed : orchestrator.KeyedByNodeId)
    (hSelects : call.Selects node) :
    ¬ NeverOvercommits
      (List.replicate (node.freeSlots + 1) call) := by
  intro hNever
  have hStored := (hSelects.candidate hKeyed).1
  have hWithin := hNever.within _ node hStored
  rw [placements_eq hKeyed hStored, List.countP_replicate,
    if_pos (decide_eq_true hSelects)] at hWithin
  exact Nat.not_succ_le_self _ hWithin

end EdgeOrchestrator

end IsaWorkspace

namespace IsaWorkspace

namespace EdgeOrchestrator

/- A node that has room for one VM, and is registered. -/
def sampleHistory : List NodeCall :=
  [.membership
    (.register (.createTestNode "node-1" "us-west-2" 1))]

def sampleCall :
    (@reached ⟨true⟩ sampleHistory).PlaceCall where
  regionPreference := none
  order :=
    HashMap.Iteration.single "node-1"
      (EdgeNode.createTestNode "node-1" "us-west-2" 1)

/- Two VMs are placed on the node. -/
theorem neverOvercommits_twice :
    ¬ NeverOvercommits [sampleCall, sampleCall] := by
  intro hNever
  have hWithin :=
    hNever.within "node-1"
      (.createTestNode "node-1" "us-west-2" 1)
      (by decide +kernel)
  revert hWithin
  decide +kernel

end EdgeOrchestrator

end IsaWorkspace
