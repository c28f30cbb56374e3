import IsaWorkspace.Foundations.Runs
import IsaWorkspace.Orchestration.Nodes

/-
  The node lists of the regions.

  A registration appends the id of the node to the list of
  its region, and a deregistration takes it out of the list
  of the region that the node has then.  The lists agree with
  the nodes as long as no registered id is registered again:
  then it would be listed twice, or for two regions.

  Main declarations:
    * `RegionCall`, `RegionCall.run`
    * `EdgeOrchestrator.KeyedByNodeId`
    * `EdgeOrchestrator.RegionsExact`
    * `EdgeOrchestrator.RegistersNew`
    * `EdgeOrchestrator.regionsExact_step_iff`
    * `EdgeOrchestrator.regionsExact_iff`
-/

------------------------------------------------------------
-- Calls
------------------------------------------------------------

namespace IsaWorkspace

/- The calls that register and deregister nodes. -/
inductive RegionCall where
  | register (node : EdgeNode)
  | deregister (nodeId : String)

def RegionCall.run
    (orchestrator : EdgeOrchestrator) :
    RegionCall → EdgeOrchestrator
| .register node => orchestrator.registerNode node
| .deregister nodeId => orchestrator.deregisterNode nodeId

namespace EdgeOrchestrator

/- Every node is stored under its own id. -/
def KeyedByNodeId
    (orchestrator : EdgeOrchestrator) : Prop :=
  ∀ key node, orchestrator.nodes.lookup key = some node →
    node.config.nodeId = key

/- A node is registered under an id, with a region. -/
def HasNodeIn
    (orchestrator : EdgeOrchestrator)
    (region nodeId : String) : Prop :=
  ∃ node, orchestrator.nodes.lookup nodeId = some node ∧
    node.config.region = region

/-
  The list of every region has the ids of its nodes, each of
  them once, as the nodes that are found for it do.
-/
structure RegionsExact
    (orchestrator : EdgeOrchestrator) : Prop where
  nodup :
    ∀ region, (orchestrator.edgeNodes region).Nodup
  mem_iff :
    ∀ region nodeId,
      nodeId ∈ orchestrator.edgeNodes region ↔
        orchestrator.HasNodeIn region nodeId
  agrees :
    ∀ order region,
      ((orchestrator.getNodesInRegion order region).map
          fun node => node.config.nodeId).Perm
        (orchestrator.edgeNodes region)

/- A node is registered under an id that is not registered. -/
def RegistersNew
    (orchestrator : EdgeOrchestrator) : RegionCall → Prop
| .register node =>
    orchestrator.nodes.lookup node.config.nodeId = none
| .deregister _ => True

variable {orchestrator : EdgeOrchestrator}

------------------------------------------------------------
-- Nodes That Are Found
------------------------------------------------------------

/- The nodes of a region are found under their ids. -/
theorem nodeIds_getNodesInRegion
    (hKeyed : orchestrator.KeyedByNodeId)
    (order : orchestrator.NodeOrder)
    (region : String) :
    ((orchestrator.getNodesInRegion order region).map
        fun node => node.config.nodeId) =
      (order.entries.filter fun entry =>
        decide (entry.2.config.region = region)).map
          (·.1) := by
  unfold getNodesInRegion
  rw [List.filter_map, List.map_map]
  apply List.map_congr_left
  intro entry hEntry
  exact
    hKeyed entry.1 entry.2
      ((order.mem_iff entry.1 entry.2).mp
        (List.mem_filter.mp hEntry).1)

/- Exact lists agree with the nodes that are found. -/
theorem agrees_of_mem_iff
    (hKeyed : orchestrator.KeyedByNodeId)
    {region : String}
    (hNodup : (orchestrator.edgeNodes region).Nodup)
    (hMem :
      ∀ nodeId,
        nodeId ∈ orchestrator.edgeNodes region ↔
          orchestrator.HasNodeIn region nodeId)
    (order : orchestrator.NodeOrder) :
    ((orchestrator.getNodesInRegion order region).map
        fun node => node.config.nodeId).Perm
      (orchestrator.edgeNodes region) := by
  rw [nodeIds_getNodesInRegion hKeyed]
  have hKeys :
      ((order.entries.filter fun entry =>
        decide (entry.2.config.region = region)).map
          (·.1)).Nodup :=
    order.nodup.sublist (List.filter_sublist.map _)
  apply (List.perm_ext_iff_of_nodup hKeys hNodup).mpr
  intro nodeId
  rw [hMem, List.mem_map]
  constructor
  · rintro ⟨⟨key, node⟩, hEntry, rfl⟩
    rcases List.mem_filter.mp hEntry with ⟨hThere, hRegion⟩
    exact
      ⟨node, (order.mem_iff key node).mp hThere,
        of_decide_eq_true hRegion⟩
  · rintro ⟨node, hNode, hRegion⟩
    exact
      ⟨⟨nodeId, node⟩,
        List.mem_filter.mpr
          ⟨(order.mem_iff nodeId node).mpr hNode,
            decide_eq_true hRegion⟩,
        rfl⟩

------------------------------------------------------------
-- Lists After a Call
------------------------------------------------------------

theorem lookup_registerNode
    (orchestrator : EdgeOrchestrator)
    (node : EdgeNode)
    (nodeId : String) :
    (orchestrator.registerNode node).nodes.lookup nodeId =
      if nodeId = node.config.nodeId then some node
      else orchestrator.nodes.lookup nodeId :=
  HashMap.lookup_insert_eq_ite _ _ _ _

/- A registration appends to the list of the region. -/
theorem edgeNodes_registerNode
    (orchestrator : EdgeOrchestrator)
    (node : EdgeNode)
    (region : String) :
    (orchestrator.registerNode node).edgeNodes region =
      if region = node.config.region then
        orchestrator.edgeNodes region ++
          [node.config.nodeId]
      else
        orchestrator.edgeNodes region := by
  unfold edgeNodes registerNode
  dsimp only
  rw [HashMap.lookup_insert_eq_ite]
  split
  · next hRegion =>
      subst hRegion
      cases orchestrator.regions.lookup node.config.region with
      | none => rfl
      | some entry => rfl
  · rfl

/- Deregistering what is not there does nothing. -/
theorem deregisterNode_none
    {nodeId : String}
    (hNone : orchestrator.nodes.lookup nodeId = none) :
    orchestrator.deregisterNode nodeId = orchestrator := by
  unfold deregisterNode
  rw [hNone]

theorem lookup_deregisterNode
    (orchestrator : EdgeOrchestrator)
    (nodeId other : String) :
    (orchestrator.deregisterNode nodeId).nodes.lookup other =
      if other = nodeId then none
      else orchestrator.nodes.lookup other := by
  cases hNode : orchestrator.nodes.lookup nodeId with
  | none =>
      rw [deregisterNode_none hNode]
      exact HashMap.lookup_eq_ite hNode other
  | some node =>
      unfold deregisterNode
      rw [hNode]
      exact HashMap.lookup_erase_eq_ite _ _ _

/- A deregistration filters the list of the region. -/
theorem edgeNodes_deregisterNode
    {nodeId : String}
    {node : EdgeNode}
    (hNode : orchestrator.nodes.lookup nodeId = some node)
    (region : String) :
    (orchestrator.deregisterNode nodeId).edgeNodes region =
      if region = node.config.region then
        (orchestrator.edgeNodes region).filter
          fun id => decide (id ≠ nodeId)
      else
        orchestrator.edgeNodes region := by
  unfold edgeNodes deregisterNode
  rw [hNode]
  dsimp only
  cases hRegion :
      orchestrator.regions.lookup node.config.region with
  | none =>
      dsimp only
      split
      · next hSame =>
          rw [hSame, hRegion]
          rfl
      · rfl
  | some entry =>
      dsimp only
      rw [HashMap.lookup_insert_eq_ite]
      split
      · next hSame =>
          rw [hSame, hRegion]
          rfl
      · rfl

------------------------------------------------------------
-- Steps
------------------------------------------------------------

theorem keyedByNodeId_step
    (orchestrator : EdgeOrchestrator)
    (call : RegionCall)
    (hKeyed : orchestrator.KeyedByNodeId) :
    (call.run orchestrator).KeyedByNodeId := by
  intro key node hNode
  cases call with
  | register registered =>
      change
        (orchestrator.registerNode registered).nodes.lookup
          key = some node at hNode
      rw [lookup_registerNode] at hNode
      split at hNode
      · next hKey =>
          cases hNode
          exact hKey.symm
      · exact hKeyed key node hNode
  | deregister nodeId =>
      change
        (orchestrator.deregisterNode nodeId).nodes.lookup
          key = some node at hNode
      rw [lookup_deregisterNode] at hNode
      split at hNode
      · cases hNode
      · exact hKeyed key node hNode

/- A new id is listed for its region, and for no other. -/
theorem mem_edgeNodes_registerNode
    (hExact : orchestrator.RegionsExact)
    {node : EdgeNode}
    (hNew :
      orchestrator.nodes.lookup node.config.nodeId = none)
    (region nodeId : String) :
    nodeId ∈ (orchestrator.registerNode node).edgeNodes
        region ↔
      (orchestrator.registerNode node).HasNodeIn region
        nodeId := by
  unfold HasNodeIn
  rw [edgeNodes_registerNode, lookup_registerNode]
  by_cases hId : nodeId = node.config.nodeId
  · have hOld : nodeId ∉ orchestrator.edgeNodes region := by
      rw [hExact.mem_iff, hId]
      rintro ⟨stored, hStored, _⟩
      rw [hNew] at hStored
      cases hStored
    rw [if_pos hId]
    constructor
    · intro hMem
      split at hMem
      · next hRegion => exact ⟨node, rfl, hRegion.symm⟩
      · exact absurd hMem hOld
    · rintro ⟨_, hSome, hRegion⟩
      cases hSome
      rw [if_pos hRegion.symm, hId]
      exact List.mem_append_right _ List.mem_cons_self
  · rw [if_neg hId]
    refine Iff.trans ?_ (hExact.mem_iff region nodeId)
    split
    · rw [List.mem_append, List.mem_singleton]
      exact or_iff_left hId
    · rfl

/- A registration under a new id keeps the lists exact. -/
theorem regionsExact_registerNode
    (hKeyed : orchestrator.KeyedByNodeId)
    (hExact : orchestrator.RegionsExact)
    {node : EdgeNode}
    (hNew :
      orchestrator.nodes.lookup node.config.nodeId = none) :
    (orchestrator.registerNode node).RegionsExact := by
  have hMem := mem_edgeNodes_registerNode hExact hNew
  have hNodup :
      ∀ region,
        ((orchestrator.registerNode node).edgeNodes
          region).Nodup := by
    intro region
    rw [edgeNodes_registerNode]
    split
    · apply List.nodup_append'.mpr
      refine
        ⟨hExact.nodup region, List.nodup_singleton _, ?_⟩
      rw [List.disjoint_singleton, hExact.mem_iff]
      rintro ⟨stored, hStored, _⟩
      rw [hNew] at hStored
      cases hStored
    · exact hExact.nodup region
  have hAfter :=
    keyedByNodeId_step orchestrator (.register node) hKeyed
  exact
    ⟨hNodup, hMem,
      fun order region =>
        agrees_of_mem_iff hAfter (hNodup region)
          (hMem region) order⟩

/-
  An id that is registered again is listed twice, or still
  for the region that its node had before.
-/
theorem not_regionsExact_registerNode
    (hExact : orchestrator.RegionsExact)
    {node stored : EdgeNode}
    (hStored :
      orchestrator.nodes.lookup node.config.nodeId =
        some stored) :
    ¬ (orchestrator.registerNode node).RegionsExact := by
  intro hAfter
  have hListed :
      node.config.nodeId ∈
        orchestrator.edgeNodes stored.config.region :=
    (hExact.mem_iff _ _).mpr ⟨stored, hStored, rfl⟩
  by_cases hRegion :
      stored.config.region = node.config.region
  · have hTwice := hAfter.nodup stored.config.region
    rw [edgeNodes_registerNode, if_pos hRegion] at hTwice
    have hDisjoint := (List.nodup_append'.mp hTwice).2.2
    exact
      List.disjoint_singleton.mp hDisjoint hListed
  · have hStill :
        (orchestrator.registerNode node).HasNodeIn
          stored.config.region node.config.nodeId := by
      apply (hAfter.mem_iff _ _).mp
      rw [edgeNodes_registerNode, if_neg hRegion]
      exact hListed
    rcases hStill with ⟨found, hFound, hFoundRegion⟩
    rw [lookup_registerNode, if_pos rfl] at hFound
    cases hFound
    exact hRegion hFoundRegion.symm

/- A deregistration keeps the lists exact. -/
theorem regionsExact_deregisterNode
    (hKeyed : orchestrator.KeyedByNodeId)
    (hExact : orchestrator.RegionsExact)
    (nodeId : String) :
    (orchestrator.deregisterNode nodeId).RegionsExact := by
  cases hNode : orchestrator.nodes.lookup nodeId with
  | none =>
      rw [deregisterNode_none hNode]
      exact hExact
  | some node =>
      have hNodup :
          ∀ region,
            ((orchestrator.deregisterNode nodeId).edgeNodes
              region).Nodup := by
        intro region
        rw [edgeNodes_deregisterNode hNode]
        split
        · exact (hExact.nodup region).filter _
        · exact hExact.nodup region
      have hMem :
          ∀ region other,
            other ∈ (orchestrator.deregisterNode
                nodeId).edgeNodes region ↔
              (orchestrator.deregisterNode
                nodeId).HasNodeIn region other := by
        intro region other
        unfold HasNodeIn
        rw [edgeNodes_deregisterNode hNode,
          lookup_deregisterNode]
        by_cases hOther : other = nodeId
        · subst hOther
          rw [if_pos rfl]
          apply iff_of_false
          · split
            · intro hListed
              have hNe := (List.mem_filter.mp hListed).2
              exact of_decide_eq_true hNe rfl
            · next hRegion =>
                rw [hExact.mem_iff]
                rintro ⟨found, hFound, hFoundRegion⟩
                rw [hNode] at hFound
                cases hFound
                exact hRegion hFoundRegion.symm
          · rintro ⟨_, hNone, _⟩
            cases hNone
        · rw [if_neg hOther]
          refine Iff.trans ?_ (hExact.mem_iff region other)
          split
          · rw [List.mem_filter]
            exact and_iff_left (decide_eq_true hOther)
          · rfl
      have hAfter :=
        keyedByNodeId_step orchestrator (.deregister nodeId)
          hKeyed
      exact
        ⟨hNodup, hMem,
          fun order region =>
            agrees_of_mem_iff hAfter (hNodup region)
              (hMem region) order⟩

/- Of the calls, only a registration of a known id fails. -/
theorem regionsExact_step_iff
    (orchestrator : EdgeOrchestrator)
    (call : RegionCall)
    (hKeyed : orchestrator.KeyedByNodeId)
    (hExact : orchestrator.RegionsExact) :
    (call.run orchestrator).RegionsExact ↔
      orchestrator.RegistersNew call := by
  cases call with
  | register node =>
      constructor
      · intro hAfter
        cases hStored :
            orchestrator.nodes.lookup node.config.nodeId with
        | none => exact hStored
        | some stored =>
            exact
              absurd hAfter
                (not_regionsExact_registerNode hExact hStored)
      · exact regionsExact_registerNode hKeyed hExact
  | deregister nodeId =>
      exact
        iff_of_true
          (regionsExact_deregisterNode hKeyed hExact nodeId)
          trivial

------------------------------------------------------------
-- Runs
------------------------------------------------------------

theorem keyedByNodeId_new :
    new.KeyedByNodeId := by
  intro key node hNode
  cases hNode

theorem edgeNodes_new
    (region : String) :
    new.edgeNodes region = [] := by
  unfold edgeNodes new
  rw [Finmap.lookup_empty]
  rfl

theorem regionsExact_new :
    new.RegionsExact := by
  have hNodup :
      ∀ region, (new.edgeNodes region).Nodup := by
    intro region
    rw [edgeNodes_new]
    exact List.nodup_nil
  have hMem :
      ∀ region nodeId,
        nodeId ∈ new.edgeNodes region ↔
          new.HasNodeIn region nodeId := by
    intro region nodeId
    rw [edgeNodes_new]
    refine iff_of_false List.not_mem_nil ?_
    rintro ⟨node, hNode, _⟩
    cases hNode
  exact
    ⟨hNodup, hMem,
      fun order region =>
        agrees_of_mem_iff keyedByNodeId_new (hNodup region)
          (hMem region) order⟩

/-
  The node lists of the regions are exact throughout a run
  exactly when no registered id is registered again.
-/
theorem regionsExact_iff
    (calls : List RegionCall) :
    Runs.Throughout RegionCall.run RegionsExact new calls ↔
      Runs.AlongRun RegionCall.run RegistersNew new calls :=
  Runs.throughout_iff_alongRun_of_invariant
    keyedByNodeId_step regionsExact_step_iff
    keyedByNodeId_new regionsExact_new

/- A node that is registered twice is listed twice. -/
theorem regionsExact_twice :
    ¬ Runs.Throughout RegionCall.run RegionsExact new
      [.register (.createTestNode "node-1" "us-west-2" 10),
        .register
          (.createTestNode "node-1" "us-west-2" 10)] := by
  intro hRun
  have hNodup := hRun.last.nodup "us-west-2"
  revert hNodup
  decide +kernel

end EdgeOrchestrator

end IsaWorkspace
