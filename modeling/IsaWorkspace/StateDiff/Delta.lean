import IsaWorkspace.Foundations.Exec
import IsaWorkspace.Foundations.KeyedList
import IsaWorkspace.Memory.Snapshot
import IsaWorkspace.Model

/-
  Differences between states, and how they are applied.

  A delta lists the regions that were added, removed and
  modified, and the hashes of what changed.  A region's hash
  is of its id, its base address and its size.

  Main declarations:
    * `StateDelta`
    * `StateDiffer.computeDelta`
    * `StatePatcher.applyDelta`
    * `StatePatcher.mergeDeltas`
-/

------------------------------------------------------------
-- Deltas
------------------------------------------------------------

namespace IsaWorkspace

/- State delta representing differences of two states. -/
structure StateDelta where
  fromState : StateId
  toState : StateId
  addedRegions : List MemoryRegion
  removedRegions : List MemoryRegion
  modifiedRegions : List MemoryRegion
  addedPages : HashMap String Bytes
  removedPages : Finset String
  cpuChanged : Bool
  fdChanged : Bool
  socketChanged : Bool
  deltaSize : UInt64

namespace StateDelta

/- Create an empty delta. -/
def new
    (fromState toState : StateId) : StateDelta where
  fromState := fromState
  toState := toState
  addedRegions := []
  removedRegions := []
  modifiedRegions := []
  addedPages := ∅
  removedPages := ∅
  cpuChanged := false
  fdChanged := false
  socketChanged := false
  deltaSize := 0

/- The total number of bytes to transfer. -/
def transferSize
    (delta : StateDelta) : UInt64 :=
  UInt64.ofNat (delta.addedPages.weight List.length)

end StateDelta

------------------------------------------------------------
-- Computing Deltas
------------------------------------------------------------

/- The regions of a state under their ids. -/
abbrev regionMap
    (state : State) : HashMap String MemoryRegion :=
  KeyedList.index MemoryRegion.regionId
    state.memoryManifest

/- An order in which the regions of a state are visited. -/
abbrev RegionOrder
    (state : State) : Type :=
  HashMap.Iteration (regionMap state)

/- State differ - computes deltas between states. -/
structure StateDiffer where
  pageLevelDiff : Bool
  minDeltaSize : Nat

namespace StateDiffer

def new : StateDiffer where
  pageLevelDiff := true
  minDeltaSize := pageSize

def withPageDiff
    (differ : StateDiffer)
    (enabled : Bool) : StateDiffer :=
  { differ with pageLevelDiff := enabled }

def withMinDeltaSize
    (differ : StateDiffer)
    (size : Nat) : StateDiffer :=
  { differ with minDeltaSize := size }

variable [Sha256]

/- Hash any serializable state. -/
def hashState
    {T : Type}
    [SerdeJson T]
    (item : T) : String :=
  sha256Hex ((SerdeJson.toVec item).toOption.getD [])

/- Compare two tables, entry by entry. -/
def compareTables
    {T : Type}
    [SerdeJson T]
    (fromTable toTable : List T) : Bool :=
  if fromTable.length = toTable.length then
    (fromTable.zip toTable).any fun pair =>
      hashState pair.1 != hashState pair.2
  else
    true

/- What is hashed of a region. -/
def regionBytes
    (region : MemoryRegion) : Bytes :=
  asBytes region.regionId ++
    (toBeBytes region.baseAddr ++ toBeBytes region.size)

def regionHash
    (region : MemoryRegion) : String :=
  sha256Hex (regionBytes region)

/- Build map of page hash to page data, which is empty. -/
def buildPageHashMap
    (state : State) : HashMap String Bytes :=
  state.memoryManifest.foldl
    (fun pages region =>
      pages.insert (regionHash region) []) ∅

/- Page-level diff for modified regions. -/
def diffModifiedRegions
    (delta : StateDelta)
    (fromState toState : State)
    (toOrder : RegionOrder toState) : StateDelta :=
  let fromPages := buildPageHashMap fromState
  let toPages := buildPageHashMap toState
  let changed :=
    toPages.keys.filter fun hash => hash ∉ fromPages
  { delta with
    addedPages :=
      toPages.retain (fun hash _ => hash ∉ fromPages) ∪
        delta.addedPages
    removedPages :=
      delta.removedPages ∪
        fromPages.keys.filter fun hash => hash ∉ toPages
    modifiedRegions :=
      -- one changed hash refreshes all common regions
      if changed.Nonempty then
        delta.modifiedRegions ++
          KeyedList.visited toOrder fun regionId =>
            regionId ∈ regionMap fromState
      else
        delta.modifiedRegions }

/- Compare memory regions and pages. -/
def compareMemoryRegions
    (differ : StateDiffer)
    (delta : StateDelta)
    (fromState toState : State)
    (fromOrder : RegionOrder fromState)
    (toOrder : RegionOrder toState) : StateDelta :=
  let delta :=
    { delta with
      addedRegions :=
        delta.addedRegions ++
          KeyedList.visited toOrder fun regionId =>
            regionId ∉ regionMap fromState
      removedRegions :=
        delta.removedRegions ++
          KeyedList.visited fromOrder fun regionId =>
            regionId ∉ regionMap toState }
  if differ.pageLevelDiff then
    diffModifiedRegions delta fromState toState toOrder
  else
    { delta with
      modifiedRegions :=
        delta.modifiedRegions ++
          fromOrder.entries.filterMap fun entry =>
            (regionMap toState).lookup entry.1 }

variable [SerdeJson CPUState]
variable [SerdeJson FDDescriptor]
variable [SerdeJson SocketDescriptor]

/- Compute delta between two states. -/
def computeDelta
    (differ : StateDiffer)
    (fromState toState : State)
    (fromOrder : RegionOrder fromState)
    (toOrder : RegionOrder toState) : StateDelta :=
  let delta :=
    { StateDelta.new fromState.stateId toState.stateId with
      cpuChanged :=
        hashState fromState.cpuState !=
          hashState toState.cpuState
      fdChanged :=
        compareTables fromState.fdTable toState.fdTable
      socketChanged :=
        compareTables fromState.socketTable
          toState.socketTable }
  let delta :=
    differ.compareMemoryRegions delta fromState toState
      fromOrder toOrder
  { delta with deltaSize := delta.transferSize }

end StateDiffer

------------------------------------------------------------
-- Applying and Merging Deltas
------------------------------------------------------------

/- Patch errors. -/
inductive PatchError where
  | stateMismatch (expected got : String)
  | invalidDelta (message : String)
  | serializationError (message : String)
deriving DecidableEq

namespace StatePatcher

open MemoryRegion (regionId)

/- Apply memory region patches. -/
def applyMemoryPatches
    (manifest : List MemoryRegion)
    (delta : StateDelta) : List MemoryRegion :=
  let kept :=
    KeyedList.without regionId delta.removedRegions manifest
  let extended :=
    KeyedList.pushAll regionId kept delta.addedRegions
  KeyedList.replaceAll regionId extended
    delta.modifiedRegions

/- Apply delta to source state to get target state. -/
def applyDelta
    (fromState : State)
    (delta : StateDelta)
    (toCpu : Option CPUState) : Except PatchError State :=
  if delta.fromState = fromState.stateId then
    .ok
      { fromState with
        stateId := delta.toState
        cpuState :=
          if delta.cpuChanged then
            toCpu.getD fromState.cpuState
          else
            fromState.cpuState
        memoryManifest :=
          applyMemoryPatches fromState.memoryManifest
            delta }
  else
    .error
      (.stateMismatch fromState.stateId.id
        delta.fromState.id)

variable [BuildProfile]

/- Add one delta to the merged one; `none` is a panic. -/
def mergeDelta
    (merged delta : StateDelta) : Option StateDelta :=
  (checkedAdd merged.deltaSize delta.deltaSize).map
    fun deltaSize =>
      { merged with
        addedPages := delta.addedPages ∪ merged.addedPages
        removedPages :=
          merged.removedPages ∪ delta.removedPages
        cpuChanged := merged.cpuChanged || delta.cpuChanged
        fdChanged := merged.fdChanged || delta.fdChanged
        socketChanged :=
          merged.socketChanged || delta.socketChanged
        deltaSize := deltaSize }

/- Merge multiple deltas into one. -/
def mergeDeltas :
    List StateDelta →
      Outcome PatchError (Option StateDelta)
| [] => .ok none
| first :: rest =>
    let last := rest.getLastD first
    let empty :=
      StateDelta.new first.fromState last.toState
    match (first :: rest).foldlM mergeDelta empty with
    | some merged => .ok (some merged)
    | none => .panicked

end StatePatcher

end IsaWorkspace
