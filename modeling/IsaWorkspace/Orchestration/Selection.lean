import IsaWorkspace.Orchestration.Health
import IsaWorkspace.Orchestration.Regions

/-
  The node that is selected for a VM.

  A node is selected from the candidates: those that are
  healthy, have room and are in the preferred region.  The
  one with the highest score is selected, the one visited
  last if there are several.

  Main declarations:
    * `NodeCall`, `EdgeOrchestrator.reached`
    * `EdgeOrchestrator.keyedByNodeId_reached`
    * `EdgeOrchestrator.mem_candidates_iff`
    * `EdgeOrchestrator.isCandidate_iff`
    * `EdgeOrchestrator.IsBest`
    * `EdgeOrchestrator.findBestNode_eq_some_iff`
    * `EdgeOrchestrator.placeVm_eq_some_iff`
-/

------------------------------------------------------------
-- Histories
------------------------------------------------------------

namespace IsaWorkspace

/- The calls that change the nodes of an orchestrator. -/
inductive NodeCall where
  | membership (call : RegionCall)
  | updateNodeHealth
      (now : DateTime) (nodeId : String)
      (health : NodeHealth)
  | incrementFailureCount (nodeId : String)
  | resetFailureCount (nodeId : String)
  | markNodeUnhealthy (nodeId : String)

def NodeCall.run
    [BuildProfile]
    (orchestrator : EdgeOrchestrator) :
    NodeCall → EdgeOrchestrator
| .membership call => call.run orchestrator
| .updateNodeHealth now nodeId health =>
    orchestrator.updateNodeHealth now nodeId health
| .incrementFailureCount nodeId =>
    (orchestrator.incrementFailureCount nodeId).2
| .resetFailureCount nodeId =>
    orchestrator.resetFailureCount nodeId
| .markNodeUnhealthy nodeId =>
    orchestrator.markNodeUnhealthy nodeId

namespace EdgeOrchestrator

/- What becomes of a new orchestrator. -/
def reached
    [BuildProfile]
    (history : List NodeCall) : EdgeOrchestrator :=
  Runs.run NodeCall.run new history

variable {orchestrator : EdgeOrchestrator}

/- A node that keeps its configuration stays under its id. -/
theorem keyedByNodeId_modifyNode
    {change : EdgeNode → EdgeNode}
    (hConfig : ∀ node, (change node).config = node.config)
    (nodeId : String)
    (hKeyed : orchestrator.KeyedByNodeId) :
    (orchestrator.modifyNode nodeId change).KeyedByNodeId := by
  intro key node hNode
  rw [lookup_modifyNode] at hNode
  split at hNode
  · rcases Option.map_eq_some_iff.mp hNode with
      ⟨stored, hStored, rfl⟩
    rw [hConfig]
    exact hKeyed key stored hStored
  · exact hKeyed key node hNode

theorem config_countFailure
    [BuildProfile]
    (node : EdgeNode) :
    node.countFailure.config = node.config := by
  unfold EdgeNode.countFailure
  split <;> rfl

theorem keyedByNodeId_nodeCall
    [BuildProfile]
    (orchestrator : EdgeOrchestrator)
    (call : NodeCall)
    (hKeyed : orchestrator.KeyedByNodeId) :
    (call.run orchestrator).KeyedByNodeId := by
  cases call with
  | membership call =>
      exact keyedByNodeId_step orchestrator call hKeyed
  | updateNodeHealth now nodeId health =>
      refine keyedByNodeId_modifyNode ?_ nodeId hKeyed
      exact fun _ => rfl
  | incrementFailureCount nodeId =>
      change
        KeyedByNodeId
          (orchestrator.incrementFailureCount nodeId).2
      rw [incrementFailureCount_eq]
      exact
        keyedByNodeId_modifyNode config_countFailure nodeId
          hKeyed
  | resetFailureCount nodeId =>
      refine keyedByNodeId_modifyNode ?_ nodeId hKeyed
      exact fun _ => rfl
  | markNodeUnhealthy nodeId =>
      refine keyedByNodeId_modifyNode ?_ nodeId hKeyed
      exact fun _ => rfl

/- Every node is always stored under its own id. -/
theorem keyedByNodeId_reached
    [BuildProfile]
    (history : List NodeCall) :
    (reached history).KeyedByNodeId :=
  (Runs.throughout_of_step keyedByNodeId_nodeCall history
    keyedByNodeId_new).last

------------------------------------------------------------
-- Candidates
------------------------------------------------------------

variable {order : orchestrator.NodeOrder}
variable {regionPreference : Option String}
variable {node : EdgeNode}

/- The candidates are registered nodes, in any order. -/
theorem mem_candidates_iff
    (hKeyed : orchestrator.KeyedByNodeId) :
    node ∈ orchestrator.candidates order regionPreference ↔
      orchestrator.nodes.lookup node.config.nodeId =
          some node ∧
        isCandidate regionPreference node = true := by
  unfold candidates
  rw [List.mem_filter, List.mem_map]
  refine and_congr_left' ?_
  constructor
  · rintro ⟨⟨key, stored⟩, hEntry, rfl⟩
    have hStored := (order.mem_iff key stored).mp hEntry
    rw [hKeyed key stored hStored]
    exact hStored
  · intro hStored
    exact ⟨_, (order.mem_iff _ _).mpr hStored, rfl⟩

/- No node is a candidate twice. -/
theorem nodup_candidates
    (hKeyed : orchestrator.KeyedByNodeId)
    (order : orchestrator.NodeOrder)
    (regionPreference : Option String) :
    (orchestrator.candidates order
      regionPreference).Nodup := by
  have hIds :
      (order.entries.map (·.2)).map
          (fun node => node.config.nodeId) =
        order.entries.map (·.1) := by
    rw [List.map_map]
    apply List.map_congr_left
    intro entry hEntry
    exact
      hKeyed entry.1 entry.2
        ((order.mem_iff entry.1 entry.2).mp hEntry)
  have hNodup :
      (order.entries.map (·.2)).Nodup := by
    apply List.Nodup.of_map fun node => node.config.nodeId
    rw [hIds]
    exact order.nodup
  exact hNodup.filter _

/- A candidate accepts VMs, in the region that is preferred. -/
theorem isCandidate_iff :
    isCandidate regionPreference node = true ↔
      node.canAccept = true ∧
        ∀ region, regionPreference = some region →
          node.config.region = region := by
  cases regionPreference with
  | none =>
      exact (and_iff_left nofun).symm
  | some preferred =>
      unfold isCandidate
      rw [Bool.and_eq_true, decide_eq_true_iff, and_comm]
      refine and_congr_right' ?_
      constructor
      · rintro hRegion region ⟨⟩
        exact hRegion
      · exact fun hRegion => hRegion preferred rfl

/- A node accepts VMs when it is healthy and has room. -/
theorem canAccept_iff :
    node.canAccept = true ↔
      node.status = .healthy ∧
        node.currentVms < node.config.maxVms := by
  unfold EdgeNode.canAccept
  exact decide_eq_true_iff

------------------------------------------------------------
-- The Best Node
------------------------------------------------------------

/- One node scores at most as high as another. -/
def scoresBelow
    (first second : EdgeNode) : Bool :=
  F32.le first.placementScore second.placementScore

/-
  The node is a candidate that no other one scores higher
  than, and none that is visited later as high.
-/
def IsBest
    (orchestrator : EdgeOrchestrator)
    (order : orchestrator.NodeOrder)
    (regionPreference : Option String)
    (node : EdgeNode) : Prop :=
  IsMax scoresBelow
    (orchestrator.candidates order regionPreference) node

instance :
    Decidable
      (orchestrator.IsBest order regionPreference node) :=
  inferInstanceAs (Decidable (IsMax _ _ _))

theorem isRanking_scoresBelow :
    IsRanking scoresBelow :=
  F32.isRanking_le.comap EdgeNode.placementScore

/- The best node is found. -/
theorem findBestNode_eq_some_iff :
    orchestrator.findBestNode order regionPreference =
        some (some node) ↔
      orchestrator.IsBest order regionPreference node :=
  maxBy_eq_some_iff isRanking_scoresBelow

/- The decision is to place on the best node. -/
theorem placeVm_eq_some_iff
    {decision : PlacementDecision} :
    orchestrator.placeVm order regionPreference =
        some (some decision) ↔
      ∃ node,
        orchestrator.IsBest order regionPreference node ∧
          decision = decideFor node := by
  unfold placeVm
  rw [Option.map_eq_some_iff]
  constructor
  · rintro ⟨found, hFound, hDecision⟩
    rcases Option.map_eq_some_iff.mp hDecision with
      ⟨node, rfl, rfl⟩
    exact ⟨node, findBestNode_eq_some_iff.mp hFound, rfl⟩
  · rintro ⟨node, hBest, rfl⟩
    exact
      ⟨some node, findBestNode_eq_some_iff.mpr hBest, rfl⟩

/- The best node is registered, and may be placed on. -/
theorem IsBest.candidate
    (hKeyed : orchestrator.KeyedByNodeId)
    (hBest :
      orchestrator.IsBest order regionPreference node) :
    orchestrator.nodes.lookup node.config.nodeId =
        some node ∧
      isCandidate regionPreference node = true :=
  (mem_candidates_iff hKeyed).mp hBest.mem

/- A decision for a registered node is one that it is best. -/
theorem placeVm_for_iff
    (hKeyed : orchestrator.KeyedByNodeId)
    {nodeId : String}
    (hNode : orchestrator.nodes.lookup nodeId = some node) :
    (∃ decision,
        orchestrator.placeVm order regionPreference =
            some (some decision) ∧
          decision.nodeId = nodeId) ↔
      orchestrator.IsBest order regionPreference node := by
  constructor
  · rintro ⟨decision, hDecision, hId⟩
    rcases placeVm_eq_some_iff.mp hDecision with
      ⟨best, hBest, rfl⟩
    have hStored := (hBest.candidate hKeyed).1
    change best.config.nodeId = nodeId at hId
    rw [hId, hNode] at hStored
    cases hStored
    exact hBest
  · intro hBest
    exact
      ⟨decideFor node,
        placeVm_eq_some_iff.mpr ⟨node, hBest, rfl⟩,
        hKeyed nodeId node hNode⟩

end EdgeOrchestrator

end IsaWorkspace
