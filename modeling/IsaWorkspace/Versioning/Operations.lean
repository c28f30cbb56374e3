import IsaWorkspace.Versioning.Control
import IsaWorkspace.Foundations.Runs

/-
  Runs of the calls on a version control.

  A ledger is the version control with what has been
  recorded so far: the states, each with the parent that was
  given for it.  The lemmas say what a call leaves in each
  history and how many entries it adds.

  Main declarations:
    * `VersionOp`, `VersionResponse`, `VersionOp.perform`
    * `VersionLedger`, `VersionLedger.step`
    * `StateVersionControl.lookup_pushEntry`, ...
    * `StateVersionControl.weight_pushEntry`, ...
    * `VersionOp.entry`
    * `VersionEffect`, `versionEffect`, `history_step`
-/

------------------------------------------------------------
-- Ledgers
------------------------------------------------------------

namespace IsaWorkspace

/- The calls, with what they are given and what they draw. -/
inductive VersionOp where
  | recordState
      (stateId : StateId)
      (parentId : Option StateId)
      (message author : String)
      (now : DateTime)
  | rollback
      (toState : StateId)
      (uuid : String)
      (now : DateTime)
  | createBranch
      (name : String)
      (atState : StateId)
      (now : DateTime)
  | deleteBranch (name : String)
  | createTag (name : String) (atState : StateId)
  | deleteTag (name : String)

/- What the calls return. -/
inductive VersionResponse where
  | done
  | rolledBack (stateId : StateId)

/- Make the call. -/
def VersionOp.perform :
    VersionOp →
      Exec StateVersionControl VersionError VersionResponse
| recordState stateId parentId message author now => do
    StateVersionControl.recordState stateId parentId message
      author now
    return .done
| rollback toState uuid now =>
    return .rolledBack
      (← StateVersionControl.rollback toState uuid now)
| createBranch name atState now => do
    StateVersionControl.createBranch name atState now
    return .done
| deleteBranch name => do
    StateVersionControl.deleteBranch name
    return .done
| createTag name atState => do
    StateVersionControl.createTag name atState
    return .done
| deleteTag name => do
    StateVersionControl.deleteTag name
    return .done

/-
  A version control, and the states that were recorded, each
  with its parent.
-/
structure VersionLedger where
  control : StateVersionControl
  recorded : List (StateId × Option StateId)

namespace VersionLedger

/- A version control nothing has been asked of yet. -/
def new : VersionLedger where
  control := StateVersionControl.new
  recorded := []

/- What a call has recorded, from how it has ended. -/
def recordedBy :
    VersionOp → Outcome VersionError VersionResponse →
      List (StateId × Option StateId)
| .recordState stateId parentId _ _ _, .ok _ =>
    [(stateId, parentId)]
| .rollback toState _ _, .ok (.rolledBack stateId) =>
    [(stateId, some toState)]
| _, _ => []

/- Make a call and take note of what it has recorded. -/
def step
    (ledger : VersionLedger)
    (op : VersionOp) : VersionLedger where
  control := (op.perform ledger.control).2
  recorded :=
    ledger.recorded ++
      recordedBy op (op.perform ledger.control).1

end VersionLedger

------------------------------------------------------------
-- What Recording Leaves
------------------------------------------------------------

namespace StateVersionControl

/- The history with one more entry, if it is that state's. -/
theorem lookup_pushEntry
    (entry : HistoryEntry)
    (history : HashMap StateId StateHistory)
    (other : StateId) :
    (pushEntry entry history).lookup other =
      if other = entry.stateId then
        some
          { (history.lookup entry.stateId).getD
              (StateHistory.new entry.stateId) with
            entries :=
              ((history.lookup entry.stateId).getD
                  (StateHistory.new entry.stateId)).entries ++
                [entry] }
      else
        history.lookup other := by
  unfold pushEntry
  exact HashMap.lookup_insert_eq_ite _ _ _ _

/- The history with one more child, if it is the parent's. -/
theorem lookup_pushChild
    (parentId : Option StateId)
    (stateId : StateId)
    (history : HashMap StateId StateHistory)
    (other : StateId) :
    (pushChild parentId stateId history).lookup other =
      (history.lookup other).map fun recorded =>
        if parentId = some other then
          { recorded with
            children := recorded.children ++ [stateId] }
        else
          recorded := by
  unfold pushChild
  cases parentId with
  | none => simp
  | some parent =>
      dsimp only
      cases hLookup : history.lookup parent with
      | none =>
          by_cases hSame : parent = other
          · subst hSame
            simp [hLookup]
          · simp [hSame]
      | some parentHistory =>
          dsimp only
          rw [HashMap.lookup_insert_eq_ite]
          by_cases hSame : parent = other
          · subst hSame
            simp [hLookup]
          · simp [hSame, Ne.symm hSame]

/- The record that is made of a state. -/
def entryOf
    (stateId : StateId)
    (parentId : Option StateId)
    (message author : String)
    (now : DateTime) : HistoryEntry where
  stateId := stateId
  parentId := parentId
  timestamp := now
  message := message
  author := author
  tags := []

/- A rollback records a state unless there is no target. -/
theorem rollback_apply
    (toState : StateId)
    (uuid : String)
    (now : DateTime)
    (control : StateVersionControl) :
    rollback toState uuid now control =
      match control.history.lookup toState with
      | none => (.err (.stateNotFound toState.id), control)
      | some _ =>
          (.ok ⟨uuid⟩,
            { control with
              history :=
                pushChild (some toState) ⟨uuid⟩
                  (pushEntry
                    (entryOf ⟨uuid⟩ (some toState)
                      "Rollback" "system" now)
                    control.history) }) := by
  unfold rollback
  rw [Exec.read_bind_apply]
  cases control.history.lookup toState with
  | none => rfl
  | some recorded => rfl

/- A new branch adds an entry without a parent. -/
theorem createBranch_apply
    (name : String)
    (atState : StateId)
    (now : DateTime)
    (control : StateVersionControl) :
    createBranch name atState now control =
      match control.branches.lookup name with
      | some _ => (.err (.branchExists name), control)
      | none =>
          (.ok (),
            { control with
              history :=
                pushChild none atState
                  (pushEntry
                    (entryOf atState none
                      ("Branch: " ++ name) "system" now)
                    control.history)
              branches :=
                control.branches.insert name atState }) := by
  unfold createBranch
  rw [Exec.read_bind_apply]
  cases control.branches.lookup name with
  | none => rfl
  | some other => rfl

theorem deleteBranch_apply
    (name : String)
    (control : StateVersionControl) :
    deleteBranch name control =
      match control.branches.lookup name with
      | none => (.err (.branchNotFound name), control)
      | some _ =>
          (.ok (),
            { control with
              branches := control.branches.erase name }) := by
  unfold deleteBranch
  rw [Exec.read_bind_apply]
  cases control.branches.lookup name with
  | none => rfl
  | some atState => rfl

theorem createTag_apply
    (name : String)
    (atState : StateId)
    (control : StateVersionControl) :
    createTag name atState control =
      match control.tags.lookup name with
      | some _ => (.err (.tagExists name), control)
      | none =>
          (.ok (),
            { control with
              tags := control.tags.insert name atState }) := by
  unfold createTag
  rw [Exec.read_bind_apply]
  cases control.tags.lookup name with
  | none => rfl
  | some other => rfl

theorem deleteTag_apply
    (name : String)
    (control : StateVersionControl) :
    deleteTag name control =
      match control.tags.lookup name with
      | none => (.err (.tagNotFound name), control)
      | some _ =>
          (.ok (),
            { control with
              tags := control.tags.erase name }) := by
  unfold deleteTag
  rw [Exec.read_bind_apply]
  cases control.tags.lookup name with
  | none => rfl
  | some atState => rfl

/- The entries are weighed wherever the children are. -/
theorem weight_pushChild
    (parentId : Option StateId)
    (stateId : StateId)
    (history : HashMap StateId StateHistory) :
    HashMap.weight (·.entries.length)
        (pushChild parentId stateId history) =
      HashMap.weight (·.entries.length) history := by
  unfold pushChild
  cases parentId with
  | none => rfl
  | some parent =>
      cases hLookup : history.lookup parent with
      | none => simp [hLookup]
      | some parentHistory =>
          have hBefore :=
            HashMap.weight_insert
              (fun recorded : StateHistory =>
                recorded.entries.length)
              history parent parentHistory
          rw [HashMap.insert_lookup hLookup] at hBefore
          simp only [hLookup]
          rw [HashMap.weight_insert, hBefore]

theorem weight_pushEntry
    (entry : HistoryEntry)
    (history : HashMap StateId StateHistory) :
    HashMap.weight (·.entries.length)
        (pushEntry entry history) =
      HashMap.weight (·.entries.length) history + 1 := by
  unfold pushEntry
  cases hLookup : history.lookup entry.stateId with
  | none =>
      exact
        HashMap.weight_insert_of_lookup_none _ _ hLookup
  | some recorded =>
      have hBefore :=
        HashMap.weight_insert
          (fun recorded : StateHistory =>
            recorded.entries.length)
          history entry.stateId recorded
      rw [HashMap.insert_lookup hLookup] at hBefore
      rw [HashMap.weight_insert, hBefore]
      simp [Nat.add_assoc]

end StateVersionControl

------------------------------------------------------------
-- What a Call Can Do
------------------------------------------------------------

/- The histories after a state has been recorded. -/
def StateVersionControl.recordedHistory
    (control : StateVersionControl)
    (entry : HistoryEntry) :
    HashMap StateId StateHistory :=
  pushChild entry.parentId entry.stateId
    (pushEntry entry control.history)

namespace VersionOp

/- The entry that a call makes, if it makes one. -/
def entry
    (control : StateVersionControl) :
    VersionOp → Option HistoryEntry
| recordState stateId parentId message author now =>
    some
      (StateVersionControl.entryOf stateId parentId message
        author now)
| rollback toState uuid now =>
    (control.history.lookup toState).map fun _ =>
      StateVersionControl.entryOf ⟨uuid⟩ (some toState)
        "Rollback" "system" now
| createBranch name atState now =>
    match control.branches.lookup name with
    | some _ => none
    | none =>
        some
          (StateVersionControl.entryOf atState none
            ("Branch: " ++ name) "system" now)
| _ => none

/- A call that creates a branch. -/
def isCreateBranch : VersionOp → Bool
| createBranch _ _ _ => true
| _ => false

end VersionOp

/-
  A call records a state with its parent, or makes a branch
  and with it an entry without a parent, or leaves all
  histories as they are.
-/
inductive VersionEffect
    (ledger : VersionLedger)
    (op : VersionOp) : VersionLedger → Prop where
  | recorded
      (entry : HistoryEntry)
      (hEntry : op.entry ledger.control = some entry)
      (hCreate : op.isCreateBranch = false) :
      VersionEffect ledger op
        { control :=
            { ledger.control with
              history :=
                ledger.control.recordedHistory entry }
          recorded :=
            ledger.recorded ++
              [(entry.stateId, entry.parentId)] }
  | branched
      (name : String)
      (entry : HistoryEntry)
      (hEntry : op.entry ledger.control = some entry)
      (hCreate : op.isCreateBranch = true) :
      VersionEffect ledger op
        { ledger with
          control :=
            { ledger.control with
              history :=
                ledger.control.recordedHistory entry
              branches :=
                ledger.control.branches.insert name
                  entry.stateId } }
  | kept
      (control : StateVersionControl)
      (hEntry : op.entry ledger.control = none)
      (hHistory : control.history = ledger.control.history)
      (hBranches :
        HashMap.SubMap control.branches
          ledger.control.branches) :
      VersionEffect ledger op
        { ledger with control := control }

/- A ledger after a call that is known to end so. -/
theorem VersionLedger.step_of_perform
    {ledger : VersionLedger}
    {op : VersionOp}
    {outcome : Outcome VersionError VersionResponse}
    {control : StateVersionControl}
    (hPerform :
      op.perform ledger.control = (outcome, control)) :
    ledger.step op =
      { control := control
        recorded :=
          ledger.recorded ++ recordedBy op outcome } := by
  unfold step
  rw [hPerform]

/- A call that records nothing and keeps the histories. -/
theorem VersionEffect.ended
    {ledger : VersionLedger}
    {op : VersionOp}
    {outcome : Outcome VersionError VersionResponse}
    {control : StateVersionControl}
    (hPerform :
      op.perform ledger.control = (outcome, control))
    (hNothing :
      VersionLedger.recordedBy op outcome = [])
    (hEntry : op.entry ledger.control = none)
    (hHistory : control.history = ledger.control.history)
    (hBranches :
      HashMap.SubMap control.branches
        ledger.control.branches) :
    VersionEffect ledger op (ledger.step op) := by
  rw [VersionLedger.step_of_perform hPerform, hNothing,
    List.append_nil]
  exact .kept control hEntry hHistory hBranches

theorem versionEffect
    (ledger : VersionLedger)
    (op : VersionOp) :
    VersionEffect ledger op (ledger.step op) := by
  rcases ledger with ⟨control, recorded⟩
  cases op with
  | recordState stateId parentId message author now =>
      exact
        .recorded
          (StateVersionControl.entryOf stateId parentId
            message author now)
          rfl rfl
  | rollback toState uuid now =>
      have hCall :=
        StateVersionControl.rollback_apply toState uuid now
          control
      cases hLookup : control.history.lookup toState with
      | none =>
          rw [hLookup] at hCall
          exact
            .ended (Exec.bind_of_err hCall) rfl
              (by simp [VersionOp.entry, hLookup]) rfl
              (HashMap.SubMap.refl _)
      | some found =>
          rw [hLookup] at hCall
          rw [VersionLedger.step_of_perform
            (Exec.bind_of_ok hCall)]
          exact
            .recorded
              (StateVersionControl.entryOf ⟨uuid⟩
                (some toState) "Rollback" "system" now)
              (by simp [VersionOp.entry, hLookup]) rfl
  | createBranch name atState now =>
      have hCall :=
        StateVersionControl.createBranch_apply name atState
          now control
      cases hLookup : control.branches.lookup name with
      | some other =>
          rw [hLookup] at hCall
          exact
            .ended (Exec.bind_of_err hCall) rfl
              (by simp [VersionOp.entry, hLookup]) rfl
              (HashMap.SubMap.refl _)
      | none =>
          rw [hLookup] at hCall
          rw [VersionLedger.step_of_perform
            (Exec.bind_of_ok hCall)]
          simp only [VersionLedger.recordedBy,
            List.append_nil]
          exact
            .branched name
              (StateVersionControl.entryOf atState none
                ("Branch: " ++ name) "system" now)
              (by simp [VersionOp.entry, hLookup]) rfl
  | deleteBranch name =>
      have hCall :=
        StateVersionControl.deleteBranch_apply name control
      cases hLookup : control.branches.lookup name with
      | none =>
          rw [hLookup] at hCall
          exact
            .ended (Exec.bind_of_err hCall) rfl rfl rfl
              (HashMap.SubMap.refl _)
      | some atState =>
          rw [hLookup] at hCall
          exact
            .ended (Exec.bind_of_ok hCall) rfl rfl rfl
              (HashMap.subMap_erase _ _)
  | createTag name atState =>
      have hCall :=
        StateVersionControl.createTag_apply name atState
          control
      cases hLookup : control.tags.lookup name with
      | some other =>
          rw [hLookup] at hCall
          exact
            .ended (Exec.bind_of_err hCall) rfl rfl rfl
              (HashMap.SubMap.refl _)
      | none =>
          rw [hLookup] at hCall
          exact
            .ended (Exec.bind_of_ok hCall) rfl rfl rfl
              (HashMap.SubMap.refl _)
  | deleteTag name =>
      have hCall :=
        StateVersionControl.deleteTag_apply name control
      cases hLookup : control.tags.lookup name with
      | none =>
          rw [hLookup] at hCall
          exact
            .ended (Exec.bind_of_err hCall) rfl rfl rfl
              (HashMap.SubMap.refl _)
      | some atState =>
          rw [hLookup] at hCall
          exact
            .ended (Exec.bind_of_ok hCall) rfl rfl rfl
              (HashMap.SubMap.refl _)

/- A call records its entry, and changes no history else. -/
theorem VersionLedger.history_step
    (ledger : VersionLedger)
    (op : VersionOp) :
    (ledger.step op).control.history =
      match op.entry ledger.control with
      | some entry => ledger.control.recordedHistory entry
      | none => ledger.control.history := by
  have hEffect := versionEffect ledger op
  generalize ledger.step op = next at hEffect ⊢
  cases hEffect with
  | recorded entry hEntry hCreate => rw [hEntry]
  | branched name entry hEntry hCreate => rw [hEntry]
  | kept control hEntry hHistory hBranches =>
      rw [hEntry]
      exact hHistory

end IsaWorkspace
