import IsaWorkspace.Model
import IsaWorkspace.Foundations.Exec
import IsaWorkspace.Foundations.KeyedList
import IsaWorkspace.Foundations.Reachability

/-
  Version control for states.

  Each recorded state has a history: its entries, of which
  the first names its parent, and its children.  Branches
  and tags are names of states.  Random identifiers and the
  readings of the clock are arguments.  The two queries over
  the lineage are loops, and take the number of rounds they
  may make.

  Main declarations:
    * `HistoryEntry`, `StateHistory`, `VersionStats`
    * `StateVersionControl`
    * `StateVersionControl.recordState`, `rollback`
    * `StateVersionControl.createBranch`, `deleteBranch`
    * `StateVersionControl.getAncestry`, `getDescendants`
    * `StateVersionControl.getStats`
-/

------------------------------------------------------------
-- Records
------------------------------------------------------------

namespace IsaWorkspace

/- Single history entry. -/
structure HistoryEntry where
  stateId : StateId
  parentId : Option StateId
  timestamp : DateTime
  message : String
  author : String
  tags : List String
deriving DecidableEq

/- History of a single state lineage. -/
structure StateHistory where
  stateId : StateId
  entries : List HistoryEntry
  children : List StateId
deriving DecidableEq

def StateHistory.new
    (stateId : StateId) : StateHistory where
  stateId := stateId
  entries := []
  children := []

/- Version statistics. -/
structure VersionStats where
  totalStates : Nat
  totalBranches : Nat
  totalTags : Nat
  oldestState : Option DateTime
  newestState : Option DateTime

/- Version errors. -/
inductive VersionError where
  | branchExists (name : String)
  | branchNotFound (name : String)
  | tagExists (name : String)
  | tagNotFound (name : String)
  | stateNotFound (stateId : String)
deriving DecidableEq

------------------------------------------------------------
-- The Version Control
------------------------------------------------------------

/- Version control for states. -/
structure StateVersionControl where
  history : HashMap StateId StateHistory
  branches : HashMap String StateId
  tags : HashMap String StateId

namespace StateVersionControl

def new : StateVersionControl where
  history := ∅
  branches := ∅
  tags := ∅

/- Put an entry at the end of its state's history. -/
def pushEntry
    (entry : HistoryEntry)
    (history : HashMap StateId StateHistory) :
    HashMap StateId StateHistory :=
  let recorded :=
    (history.lookup entry.stateId).getD
      (StateHistory.new entry.stateId)
  history.insert entry.stateId
    { recorded with entries := recorded.entries ++ [entry] }

/- Note a child of a parent that has a history. -/
def pushChild
    (parentId : Option StateId)
    (stateId : StateId)
    (history : HashMap StateId StateHistory) :
    HashMap StateId StateHistory :=
  match parentId with
  | none => history
  | some parent =>
      match history.lookup parent with
      | none => history
      | some parentHistory =>
          history.insert parent
            { parentHistory with
              children :=
                parentHistory.children ++ [stateId] }

/- Record a new state in history. -/
def recordState
    (stateId : StateId)
    (parentId : Option StateId)
    (message author : String)
    (now : DateTime) :
    Exec StateVersionControl VersionError Unit :=
  Exec.update fun control =>
    { control with
      history :=
        pushChild parentId stateId
          (pushEntry
            { stateId := stateId
              parentId := parentId
              timestamp := now
              message := message
              author := author
              tags := [] }
            control.history) }

/- Create a new branch at a state. -/
def createBranch
    (name : String)
    (atState : StateId)
    (now : DateTime) :
    Exec StateVersionControl VersionError Unit := do
  let control ← Exec.read
  match control.branches.lookup name with
  | some _ => Exec.fail (.branchExists name)
  | none => do
      Exec.update fun control =>
        { control with
          branches := control.branches.insert name atState }
      recordState atState none ("Branch: " ++ name) "system"
        now

/- Get branch head. -/
def getBranch
    (control : StateVersionControl)
    (name : String) : Option StateId :=
  control.branches.lookup name

/- Delete a branch. -/
def deleteBranch
    (name : String) :
    Exec StateVersionControl VersionError Unit := do
  let control ← Exec.read
  match control.branches.lookup name with
  | none => Exec.fail (.branchNotFound name)
  | some _ =>
      Exec.update fun control =>
        { control with
          branches := control.branches.erase name }

/- Create a tag at a state. -/
def createTag
    (name : String)
    (atState : StateId) :
    Exec StateVersionControl VersionError Unit := do
  let control ← Exec.read
  match control.tags.lookup name with
  | some _ => Exec.fail (.tagExists name)
  | none =>
      Exec.update fun control =>
        { control with
          tags := control.tags.insert name atState }

/- Get tag. -/
def getTag
    (control : StateVersionControl)
    (name : String) : Option StateId :=
  control.tags.lookup name

/- Delete a tag. -/
def deleteTag
    (name : String) :
    Exec StateVersionControl VersionError Unit := do
  let control ← Exec.read
  match control.tags.lookup name with
  | none => Exec.fail (.tagNotFound name)
  | some _ =>
      Exec.update fun control =>
        { control with tags := control.tags.erase name }

/- Get state history. -/
def getHistory
    (control : StateVersionControl)
    (stateId : StateId) : Option StateHistory :=
  control.history.lookup stateId

/- Rollback to a previous state, under a drawn id. -/
def rollback
    (toState : StateId)
    (uuid : String)
    (now : DateTime) :
    Exec StateVersionControl VersionError StateId := do
  let control ← Exec.read
  match control.history.lookup toState with
  | none => Exec.fail (.stateNotFound toState.id)
  | some _ => do
      recordState ⟨uuid⟩ (some toState) "Rollback" "system"
        now
      pure ⟨uuid⟩

------------------------------------------------------------
-- Lineage
------------------------------------------------------------

/- The parent that the first entry of a history names. -/
def parentLink
    (control : StateVersionControl)
    (stateId : StateId) : Option (Option StateId) :=
  (control.history.lookup stateId).map fun recorded =>
    recorded.entries.head?.bind (·.parentId)

/- Get full ancestry (all parents). -/
def getAncestry
    (control : StateVersionControl)
    (stateId : StateId)
    (rounds : Nat) : Option (List StateId) :=
  Loop.run (Links.round control.parentLink) rounds
    (some stateId, [])

/- The children of a state, if it has a history. -/
def childrenOf
    (control : StateVersionControl)
    (stateId : StateId) : List StateId :=
  match control.history.lookup stateId with
  | some recorded => recorded.children
  | none => []

/- Get all descendants (children, grandchildren, etc.). -/
def getDescendants
    (control : StateVersionControl)
    (stateId : StateId)
    (rounds : Nat) : Option (List StateId) :=
  Loop.run (Reachability.round control.childrenOf) rounds
    ⟨[stateId], []⟩

/- Find common ancestor of two states. -/
def findCommonAncestor
    (control : StateVersionControl)
    (stateA stateB : StateId)
    (rounds : Nat) : Option (Option StateId) := do
  let ancestryA ← control.getAncestry stateA rounds
  let ancestryB ← control.getAncestry stateB rounds
  pure (ancestryA.find? fun id => decide (id ∈ ancestryB))

------------------------------------------------------------
-- Statistics
------------------------------------------------------------

/- The number of entries of all histories. -/
def totalStates
    (control : StateVersionControl) : Nat :=
  HashMap.weight (·.entries.length) control.history

/- The instants of all entries, as they are visited. -/
def timestamps
    {control : StateVersionControl}
    (order : HashMap.Iteration control.history) :
    List DateTime :=
  order.entries.flatMap fun visited =>
    visited.2.entries.map (·.timestamp)

/- Get version statistics. -/
def getStats
    (control : StateVersionControl)
    (order : HashMap.Iteration control.history) :
    VersionStats where
  totalStates := control.totalStates
  totalBranches := HashMap.len control.branches
  totalTags := HashMap.len control.tags
  oldestState := (timestamps order).min?
  newestState := (timestamps order).max?

end StateVersionControl

end IsaWorkspace
