import IsaWorkspace.Foundations.KeyedList
import IsaWorkspace.Foundations.SinglePrecision
import IsaWorkspace.Foundations.SocketAddr
import IsaWorkspace.Externals

/-
  The edge nodes of an orchestrator and their placement.

  An orchestrator keeps its nodes under their ids, and for
  each region a list of node ids.  Every operation holds the
  locks it needs while it runs, and is one step here.  An
  operation that goes through the nodes visits them in some
  order, which a hash map does not fix.

  Main declarations:
    * `EdgeNodeConfig`, `NodeStatus`, `EdgeNode`
    * `EdgeNode.canAccept`, `EdgeNode.placementScore`
    * `NodeHealth`, `EdgeNode.updateHealth`
    * `Region`, `EdgeOrchestrator`
    * `EdgeOrchestrator.registerNode`
    * `EdgeOrchestrator.deregisterNode`
    * `EdgeOrchestrator.findBestNode`
    * `EdgeOrchestrator.updateNodeHealth`
    * `EdgeOrchestrator.incrementFailureCount`
    * `EdgeOrchestrator.placeVm`
-/

------------------------------------------------------------
-- Nodes
------------------------------------------------------------

namespace IsaWorkspace

/- Edge node configuration. -/
structure EdgeNodeConfig where
  nodeId : String
  address : SocketAddr
  region : String
  maxVms : UInt32
  healthCheckIntervalSecs : UInt64
deriving DecidableEq

/- Edge node status. -/
inductive NodeStatus where
  | healthy
  | degraded
  | unhealthy
  | draining
deriving DecidableEq

/- Edge node information. -/
structure EdgeNode where
  config : EdgeNodeConfig
  status : NodeStatus
  currentVms : UInt32
  availableMemoryMb : UInt32
  cpuUtilization : F32
  lastHealthCheck : Option DateTime
  avgLatencyMs : F32
deriving DecidableEq

/- Node health information. -/
structure NodeHealth where
  currentVms : UInt32
  availableMemoryMb : UInt32
  cpuUtilization : F32
deriving DecidableEq

namespace EdgeNode

/- Create a new edge node. -/
def new
    (config : EdgeNodeConfig) : EdgeNode where
  config := config
  status := .healthy
  currentVms := 0
  availableMemoryMb := 0
  cpuUtilization := F32.ofRat 0
  lastHealthCheck := none
  avgLatencyMs := F32.ofRat 0

/- A node as the tests of the source create one. -/
def createTestNode
    (nodeId region : String)
    (maxVms : UInt32) : EdgeNode :=
  .new
    { nodeId := nodeId
      address := .new (.v4 ⟨127, 0, 0, 1⟩) 8080
      region := region
      maxVms := maxVms
      healthCheckIntervalSecs := 30 }

/- Check if node can accept new VMs. -/
def canAccept
    (node : EdgeNode) : Bool :=
  decide
    (node.status = .healthy ∧
      node.currentVms < node.config.maxVms)

/- Calculate node score for placement. -/
def placementScore
    (node : EdgeNode) : F32 :=
  let one := F32.ofRat 1
  if node.canAccept then
    let capacityScore :=
      one.sub
        ((F32.ofNat node.currentVms.toNat).div
          (F32.ofNat node.config.maxVms.toNat))
    let memoryScore :=
      ((F32.ofNat node.availableMemoryMb.toNat).div
        (F32.ofRat 8192)).min one
    let cpuScore := one.sub node.cpuUtilization
    let latencyScore :=
      one.sub
        ((node.avgLatencyMs.div (F32.ofRat 100)).min one)
    -- Weighted score.
    (((capacityScore.mul (F32.ofRat (3 / 10))).add
        (memoryScore.mul (F32.ofRat (3 / 10)))).add
      (cpuScore.mul (F32.ofRat (2 / 10)))).add
      (latencyScore.mul (F32.ofRat (2 / 10)))
  else
    F32.ofRat 0

/- Update health status. -/
def updateHealth
    (now : DateTime)
    (health : NodeHealth)
    (node : EdgeNode) : EdgeNode :=
  { node with
    currentVms := health.currentVms
    availableMemoryMb := health.availableMemoryMb
    cpuUtilization := health.cpuUtilization
    lastHealthCheck := some now
    status :=
      if (F32.ofRat (9 / 10)).lt health.cpuUtilization ∨
          health.availableMemoryMb < 512 then
        .degraded
      else if
          (F32.ofRat (95 / 100)).lt health.cpuUtilization ∨
            health.availableMemoryMb < 256 then
        .unhealthy
      else
        .healthy }

end EdgeNode

end IsaWorkspace

------------------------------------------------------------
-- Orchestrators
------------------------------------------------------------

namespace IsaWorkspace

/- Region information. -/
structure Region where
  regionId : String
  name : String
  edgeNodes : List String
  totalCapacity : UInt32
  usedCapacity : UInt32
deriving DecidableEq

/- Edge orchestrator for distributed state management. -/
structure EdgeOrchestrator where
  nodes : HashMap String EdgeNode
  regions : HashMap String Region
deriving DecidableEq

namespace EdgeOrchestrator

def new : EdgeOrchestrator where
  nodes := ∅
  regions := ∅

/- An order in which the nodes are visited. -/
abbrev NodeOrder
    (orchestrator : EdgeOrchestrator) : Type :=
  HashMap.Iteration orchestrator.nodes

/- A region that no node has been added to. -/
def emptyRegion
    (region : String) : Region where
  regionId := region
  name := region
  edgeNodes := []
  totalCapacity := 0
  usedCapacity := 0

/- Register an edge node. -/
def registerNode
    (orchestrator : EdgeOrchestrator)
    (node : EdgeNode) : EdgeOrchestrator :=
  let nodeId := node.config.nodeId
  let region := node.config.region
  let entry :=
    (orchestrator.regions.lookup region).getD
      (emptyRegion region)
  { nodes := orchestrator.nodes.insert nodeId node
    regions :=
      orchestrator.regions.insert region
        { entry with
          edgeNodes := entry.edgeNodes ++ [nodeId] } }

/- Deregister an edge node. -/
def deregisterNode
    (orchestrator : EdgeOrchestrator)
    (nodeId : String) : EdgeOrchestrator :=
  match orchestrator.nodes.lookup nodeId with
  | none => orchestrator
  | some node =>
      { nodes := orchestrator.nodes.erase nodeId
        regions :=
          match orchestrator.regions.lookup
              node.config.region with
          | none => orchestrator.regions
          | some region =>
              orchestrator.regions.insert
                node.config.region
                { region with
                  edgeNodes :=
                    region.edgeNodes.filter
                      fun id => decide (id ≠ nodeId) } }

/- Get nodes in a specific region. -/
def getNodesInRegion
    (orchestrator : EdgeOrchestrator)
    (order : orchestrator.NodeOrder)
    (region : String) : List EdgeNode :=
  (order.entries.map (·.2)).filter fun node =>
    decide (node.config.region = region)

/- The node ids that are listed for a region. -/
def edgeNodes
    (orchestrator : EdgeOrchestrator)
    (region : String) : List String :=
  ((orchestrator.regions.lookup region).map
    Region.edgeNodes).getD []

------------------------------------------------------------
-- Health
------------------------------------------------------------

/- Change a node, if it is registered. -/
def modifyNode
    (orchestrator : EdgeOrchestrator)
    (nodeId : String)
    (change : EdgeNode → EdgeNode) : EdgeOrchestrator :=
  match orchestrator.nodes.lookup nodeId with
  | none => orchestrator
  | some node =>
      { orchestrator with
        nodes := orchestrator.nodes.insert nodeId (change node) }

/- Update node health. -/
def updateNodeHealth
    (orchestrator : EdgeOrchestrator)
    (now : DateTime)
    (nodeId : String)
    (health : NodeHealth) : EdgeOrchestrator :=
  orchestrator.modifyNode nodeId (·.updateHealth now health)

/-
  Increment failure count for a node.  The count is kept in
  the last digit of the number of VMs; `none` is a panic.
-/
def incrementFailureCount
    [BuildProfile]
    (orchestrator : EdgeOrchestrator)
    (nodeId : String) : Option UInt32 × EdgeOrchestrator :=
  match orchestrator.nodes.lookup nodeId with
  | none => (some 0, orchestrator)
  | some node =>
      let newCount := node.currentVms % 10 + 1
      match checkedAddU32 (node.currentVms / 10 * 10)
          newCount with
      | none => (none, orchestrator)
      | some currentVms =>
          (some newCount,
            { orchestrator with
              nodes :=
                orchestrator.nodes.insert nodeId
                  { node with currentVms := currentVms } })

/- Reset failure count for a node. -/
def resetFailureCount
    (orchestrator : EdgeOrchestrator)
    (nodeId : String) : EdgeOrchestrator :=
  orchestrator.modifyNode nodeId fun node =>
    { node with currentVms := node.currentVms / 10 * 10 }

/- Mark node as unhealthy. -/
def markNodeUnhealthy
    (orchestrator : EdgeOrchestrator)
    (nodeId : String) : EdgeOrchestrator :=
  orchestrator.modifyNode nodeId fun node =>
    { node with status := .unhealthy }

end EdgeOrchestrator

end IsaWorkspace

------------------------------------------------------------
-- Placement
------------------------------------------------------------

namespace IsaWorkspace

/- Placement decision. -/
structure PlacementDecision where
  nodeId : String
  region : String
  score : F32
  reason : String
deriving DecidableEq

namespace EdgeOrchestrator

/- Whether a node may be placed on, by its region as well. -/
def isCandidate
    (regionPreference : Option String)
    (node : EdgeNode) : Bool :=
  match regionPreference with
  | some pref =>
      decide (node.config.region = pref) && node.canAccept
  | none => node.canAccept

/- The nodes that may be placed on. -/
def candidates
    (orchestrator : EdgeOrchestrator)
    (order : orchestrator.NodeOrder)
    (regionPreference : Option String) : List EdgeNode :=
  (order.entries.map (·.2)).filter
    (isCandidate regionPreference)

/-
  Find the best node for VM placement; `none` is the panic
  at scores that do not compare.
-/
def findBestNode
    (orchestrator : EdgeOrchestrator)
    (order : orchestrator.NodeOrder)
    (regionPreference : Option String) :
    Option (Option EdgeNode) :=
  maxBy
    (fun first second =>
      partialCmp F32.le first.placementScore
        second.placementScore)
    (orchestrator.candidates order regionPreference)

/- The decision to place on a node. -/
def decideFor
    (node : EdgeNode) : PlacementDecision where
  nodeId := node.config.nodeId
  region := node.config.region
  score := node.placementScore
  reason :=
    "Best score based on capacity (" ++
      toString node.currentVms.toNat ++ "/" ++
      toString node.config.maxVms.toNat ++ "), memory (" ++
      toString node.availableMemoryMb.toNat ++
      "MB), CPU (" ++
      toString
        (node.cpuUtilization.mul (F32.ofRat 100)).toU32.toNat ++
      "%), latency (" ++
      toString node.avgLatencyMs.toU32.toNat ++ "ms)"

/- Make a placement decision; `none` is a panic. -/
def placeVm
    (orchestrator : EdgeOrchestrator)
    (order : orchestrator.NodeOrder)
    (regionPreference : Option String) :
    Option (Option PlacementDecision) :=
  (orchestrator.findBestNode order regionPreference).map
    (Option.map decideFor)

end EdgeOrchestrator

end IsaWorkspace
