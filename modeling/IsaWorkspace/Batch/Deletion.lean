import IsaWorkspace.Batch.Accounting
import IsaWorkspace.Foundations.HashMap

/-
  Deletions by batches that run at the same time.

  The executor in memory deletes a state if it has it.  The
  tasks of the states do so in any order, also those of
  several batches, and each batch reports what its own tasks
  were answered.  In all these reports together, a state is
  deleted as often as it was added and is gone.

  Main declarations:
    * `MemoryBatchExecutor`, `deleteState`
    * `BatchTask.finishing`, `BatchTask.finishedEnds`
    * `BatchTask.finishedEnds_act`
    * `ExecutedBatches`, `ExecutedBatches.step`
    * `ExecutedBatches.DeletesOnce`
    * `ExecutedBatches.deletesOnce_run`
-/

------------------------------------------------------------
-- The Executor in Memory
------------------------------------------------------------

namespace IsaWorkspace

/- In-memory batch executor. -/
structure MemoryBatchExecutor where
  states : HashMap StateId Bool

namespace MemoryBatchExecutor

def new : MemoryBatchExecutor :=
  ⟨∅⟩

def addState
    (stateId : StateId)
    (executor : MemoryBatchExecutor) : MemoryBatchExecutor :=
  ⟨executor.states.insert stateId true⟩

def deleteState
    (stateId : StateId)
    (executor : MemoryBatchExecutor) :
    Except String Unit × MemoryBatchExecutor :=
  match executor.states.lookup stateId with
  | some _ => (.ok (), ⟨executor.states.erase stateId⟩)
  | none => (.error "State not found", executor)

/- What the task of one state asks of the executor. -/
def perform
    (operation : BatchOperation)
    (stateId : StateId)
    (executor : MemoryBatchExecutor) :
    Except String Unit × MemoryBatchExecutor :=
  match operation with
  | .delete _ => executor.deleteState stateId
  | .addTags _ _ | .removeTags _ _ | .updateMetadata _ _
  | .exportStates _ _ => (.ok (), executor)

/- How often the executor has a state. -/
def present
    (stateId : StateId)
    (executor : MemoryBatchExecutor) : Nat :=
  if executor.states.lookup stateId = none then 0 else 1

theorem present_addState
    (added stateId : StateId)
    (executor : MemoryBatchExecutor) :
    (executor.addState added).present stateId =
      if stateId = added then 1
      else executor.present stateId := by
  unfold present addState
  rw [HashMap.lookup_insert_eq_ite]
  by_cases hSame : stateId = added
  · rw [if_pos hSame, if_pos hSame]
    rfl
  · rw [if_neg hSame, if_neg hSame]

/- A state is gone exactly after it is reported deleted. -/
theorem present_deleteState
    (deleted stateId : StateId)
    (executor : MemoryBatchExecutor) :
    executor.present stateId =
      (executor.deleteState deleted).2.present stateId +
        if (executor.deleteState deleted).1 = .ok () ∧
            deleted = stateId then 1
        else 0 := by
  unfold deleteState
  cases hFound : executor.states.lookup deleted with
  | none =>
      have hFailed :
          ¬ ((.error "State not found" :
              Except String Unit) = .ok () ∧
            deleted = stateId) := by
        rintro ⟨hOk, _⟩
        cases hOk
      dsimp only
      rw [if_neg hFailed, Nat.add_zero]
  | some value =>
      unfold present
      dsimp only
      rw [HashMap.lookup_erase_eq_ite]
      by_cases hSame : stateId = deleted
      · subst hSame
        rw [hFound]
        simp
      · have hOther :
            ¬ ((.ok () : Except String Unit) = .ok () ∧
              deleted = stateId) :=
          fun hBoth => hSame hBoth.2.symm
        rw [if_neg hSame, if_neg hOther]
        rfl

end MemoryBatchExecutor

------------------------------------------------------------
-- What the Tasks of a Batch Have Been Answered
------------------------------------------------------------

/- A task of a state has returned without an error. -/
def JoinResult.isSuccess : JoinResult → Bool
| .ok (.ok _) => true
| .ok (.error _) | .error _ => false

namespace BatchTask

variable {task : BatchTask} {manager : BatchManager}

def isFinished
    (handle : ItemTask) : Bool :=
  decide (handle.stage = .finished)

/- The task of a state that returns by an action. -/
def finishing
    (action : TaskAction)
    (task : BatchTask) : Option ItemTask :=
  match action, task.phase with
  | .finish item, .collecting handles =>
      (handles[item]?).filter fun handle =>
        decide (handle.stage = .holding)
  | _, _ => none

/- How the tasks of the states that have returned ended. -/
def finishedEnds
    (executor : Bool)
    (task : BatchTask) : List (StateId × JoinResult) :=
  match task.phase with
  | .spawned | .started | .panicked => []
  | .collecting handles =>
      (task.itemEnds executor).take
          ((task.itemEnds executor).length -
            handles.length) ++
        (handles.filter isFinished).map outcomeOf
  | .ended => task.itemEnds executor

/- No task of a state that is spawned has returned. -/
theorem filter_spawnItems
    (task : BatchTask)
    (executor : Bool) :
    (task.spawnItems executor).filter isFinished = [] := by
  apply List.filter_eq_nil_iff.mpr
  intro handle hHandle
  unfold spawnItems at hHandle
  rcases List.mem_mapIdx.mp hHandle with
    ⟨position, hPosition, rfl⟩
  exact Bool.false_ne_true

theorem length_spawnItems
    (task : BatchTask)
    (executor : Bool) :
    (task.spawnItems executor).length =
      (task.itemEnds executor).length := by
  rw [← map_outcomeOf_spawnItems, List.length_map]

/- Taking a permit is not returning. -/
theorem filter_acquireItem
    (item maxConcurrent : Nat)
    (handles : List ItemTask) :
    (acquireItem item maxConcurrent handles).filter
        isFinished =
      handles.filter isFinished := by
  unfold acquireItem
  split
  · clear * -
    induction handles generalizing item with
    | nil => simp
    | cons handle rest ih =>
        cases item with
        | zero =>
            rw [List.modify_zero_cons]
            by_cases hWaiting : handle.stage = .waiting
            · have hOpen : ¬ isFinished handle = true := by
                unfold isFinished
                rw [hWaiting]
                exact Bool.false_ne_true
              rw [if_pos hWaiting,
                List.filter_cons_of_neg hOpen,
                List.filter_cons_of_neg Bool.false_ne_true]
            · rw [if_neg hWaiting]
        | succ item =>
            rw [List.modify_succ_cons, List.filter_cons,
              List.filter_cons, ih]
  · rfl

/- The task of a state that returns is one more. -/
theorem filter_finishItem
    (item : Nat)
    (handles : List ItemTask) :
    (((finishItem item handles).filter isFinished).map
        outcomeOf).Perm
      ((handles.filter isFinished).map outcomeOf ++
        (((handles[item]?).filter fun handle =>
            decide (handle.stage = .holding)).map
          outcomeOf).toList) := by
  unfold finishItem
  induction handles generalizing item with
  | nil => simp
  | cons handle rest ih =>
      cases item with
      | zero =>
          rw [List.modify_zero_cons, List.getElem?_cons_zero]
          by_cases hHolding : handle.stage = .holding
          · have hOpen : ¬ isFinished handle = true := by
              unfold isFinished
              rw [hHolding]
              exact Bool.false_ne_true
            have hFinished :
                isFinished { handle with stage := .finished } =
                  true := rfl
            rw [if_pos hHolding,
              List.filter_cons_of_neg hOpen,
              List.filter_cons_of_pos hFinished,
              Option.filter_some,
              if_pos (by simpa using hHolding)]
            exact (List.perm_append_singleton _ _).symm
          · rw [if_neg hHolding, Option.filter_some,
              if_neg (by simpa using hHolding)]
            exact List.Perm.of_eq (List.append_nil _).symm
      | succ item =>
          rw [List.modify_succ_cons, List.getElem?_cons_succ]
          rw [List.filter_cons, List.filter_cons]
          split
          · exact (ih item).cons _
          · exact ih item

/- The results that are left, when some have been taken. -/
theorem take_itemEnds
    {taken : List (StateId × JoinResult)}
    {handles : List ItemTask}
    {executor : Bool}
    (hAll :
      taken ++ handles.map outcomeOf =
        task.itemEnds executor) :
    (task.itemEnds executor).take
        ((task.itemEnds executor).length - handles.length) =
      taken := by
  rw [← hAll, List.length_append, List.length_map,
    Nat.add_sub_cancel, List.take_left]

/- The ends of a task that is collecting. -/
theorem finishedEnds_of_collecting
    {taken : List (StateId × JoinResult)}
    {handles : List ItemTask}
    {executor : Bool}
    (hPhase : task.phase = .collecting handles)
    (hAll :
      taken ++ handles.map outcomeOf =
        task.itemEnds executor) :
    task.finishedEnds executor =
      taken ++ (handles.filter isFinished).map outcomeOf := by
  unfold finishedEnds
  rw [hPhase]
  dsimp only
  rw [take_itemEnds hAll]

/- Going on returns from no task of a state. -/
theorem finishedEnds_advance
    (hSound : task.Sound manager)
    (now : DateTime) :
    (task.advance now manager).1.finishedEnds
        manager.executor =
      task.finishedEnds manager.executor := by
  unfold Sound at hSound
  cases hPhase : task.phase with
  | spawned =>
      unfold advance finishedEnds
      rw [hPhase]
  | started =>
      have hNone :
          task.finishedEnds manager.executor = [] := by
        unfold finishedEnds
        rw [hPhase]
      rw [hNone]
      unfold advance
      rw [hPhase]
      dsimp only
      split
      · rfl
      · unfold finishedEnds
        dsimp only
        rw [filter_spawnItems, length_spawnItems]
        change
          (task.itemEnds manager.executor).take
              ((task.itemEnds manager.executor).length -
                (task.itemEnds manager.executor).length) ++
            [] = []
        rw [Nat.sub_self]
        rfl
  | collecting handles =>
      rw [hPhase] at hSound
      rcases hSound with ⟨taken, hAll, _⟩
      rw [finishedEnds_of_collecting hPhase hAll]
      cases handles with
      | nil =>
          unfold advance
          rw [hPhase]
          exact hAll.symm
      | cons handle rest =>
          unfold advance
          rw [hPhase]
          dsimp only
          split
          · next hFinished =>
              have hNext :
                  (taken ++ [outcomeOf handle]) ++
                      rest.map outcomeOf =
                    task.itemEnds manager.executor := by
                rw [List.append_assoc]
                exact hAll
              have hReturned : isFinished handle = true :=
                decide_eq_true hFinished
              have hAfter :
                  ({ task with
                      result :=
                        task.operation.collect handle.stateId
                          handle.joined task.result
                      phase := .collecting rest } :
                    BatchTask).finishedEnds
                      manager.executor =
                    (taken ++ [outcomeOf handle]) ++
                      (rest.filter isFinished).map
                        outcomeOf :=
                finishedEnds_of_collecting rfl hNext
              split
              · dsimp only
                rw [hAfter,
                  List.filter_cons_of_pos hReturned,
                  List.map_cons, List.append_assoc]
                rfl
              · exact finishedEnds_of_collecting hPhase hAll
          · exact finishedEnds_of_collecting hPhase hAll
  | ended =>
      unfold advance
      rw [hPhase]
  | panicked =>
      unfold advance
      rw [hPhase]

/- An action adds the end of the task that returns by it. -/
theorem finishedEnds_act
    (hSound : task.Sound manager)
    (action : TaskAction) :
    ((task.act action manager).1.finishedEnds
        manager.executor).Perm
      (task.finishedEnds manager.executor ++
        ((task.finishing action).map outcomeOf).toList) := by
  cases action with
  | advance now =>
      have hSame := finishedEnds_advance hSound now
      have hNone : task.finishing (.advance now) = none := rfl
      rw [hNone, Option.map_none, Option.toList_none,
        List.append_nil]
      unfold act
      exact .of_eq hSame
  | acquire item =>
      have hNone : task.finishing (.acquire item) = none := rfl
      rw [hNone, Option.map_none, Option.toList_none,
        List.append_nil]
      unfold Sound at hSound
      unfold act
      cases hPhase : task.phase with
      | collecting handles =>
          rw [hPhase] at hSound
          rcases hSound with ⟨taken, hAll, _⟩
          have hNext := hAll
          rw [← map_outcomeOf_acquireItem item
            manager.maxConcurrent handles] at hNext
          have hAfter :
              ({ task with
                  phase :=
                    .collecting
                      (acquireItem item manager.maxConcurrent
                        handles) } :
                BatchTask).finishedEnds manager.executor =
                taken ++
                  ((acquireItem item manager.maxConcurrent
                    handles).filter isFinished).map
                      outcomeOf :=
            finishedEnds_of_collecting rfl hNext
          dsimp only
          rw [hAfter, finishedEnds_of_collecting hPhase hAll,
            filter_acquireItem]
      | _ => exact .refl _
  | finish item =>
      unfold Sound at hSound
      unfold act finishing
      cases hPhase : task.phase with
      | collecting handles =>
          rw [hPhase] at hSound
          rcases hSound with ⟨taken, hAll, _⟩
          have hNext := hAll
          rw [← map_outcomeOf_finishItem item handles]
            at hNext
          have hAfter :
              ({ task with
                  phase :=
                    .collecting (finishItem item handles) } :
                BatchTask).finishedEnds manager.executor =
                taken ++
                  ((finishItem item handles).filter
                    isFinished).map outcomeOf :=
            finishedEnds_of_collecting rfl hNext
          dsimp only
          rw [hAfter, finishedEnds_of_collecting hPhase hAll,
            List.append_assoc]
          exact
            List.Perm.append_left _
              (filter_finishItem item handles)
      | _ => exact .of_eq (List.append_nil _).symm

/- An end is a successful deletion of the state. -/
def deletes
    (stateId : StateId)
    (ended : StateId × JoinResult) : Bool :=
  decide (ended.1 = stateId) && ended.2.isSuccess

/- How often a batch was answered that the state is deleted. -/
def deletions
    (stateId : StateId)
    (executor : Bool)
    (task : BatchTask) : Nat :=
  match task.operation with
  | .delete _ =>
      (task.finishedEnds executor).countP (deletes stateId)
  | .addTags _ _ | .removeTags _ _ | .updateMetadata _ _
  | .exportStates _ _ => 0

/- How many such answers a task that returns brings. -/
def gained
    (stateId : StateId)
    (operation : BatchOperation)
    (handle : ItemTask) : Nat :=
  match operation with
  | .delete _ =>
      if deletes stateId (outcomeOf handle) then 1 else 0
  | .addTags _ _ | .removeTags _ _ | .updateMetadata _ _
  | .exportStates _ _ => 0

/- An action adds what the task that returns by it brings. -/
theorem deletions_act
    (hSound : task.Sound manager)
    (stateId : StateId)
    (action : TaskAction) :
    (task.act action manager).1.deletions stateId
        manager.executor =
      task.deletions stateId manager.executor +
        ((task.finishing action).map
          (gained stateId task.operation)).getD 0 := by
  have hEnds := finishedEnds_act hSound action
  have hOperation := (act_frame action task manager).1
  have hCount := hEnds.countP_eq (deletes stateId)
  rw [List.countP_append] at hCount
  unfold deletions gained
  rw [hOperation]
  cases task.operation with
  | delete stateIds =>
      dsimp only
      rw [hCount]
      cases task.finishing action with
      | none => rfl
      | some handle =>
          rw [Option.map_some, Option.map_some,
            Option.toList_some, List.countP_singleton]
          rfl
  | _ =>
      cases task.finishing action with
      | none => rfl
      | some handle => rfl

end BatchTask

------------------------------------------------------------
-- Batches and Their Executor
------------------------------------------------------------

namespace BatchSystem

open BatchTask

/- The task of a state that returns by an event. -/
def returning
    (system : BatchSystem) :
    BatchEvent → Option (BatchOperation × ItemTask)
| .act position action =>
    (system.calls[position]?).bind fun task =>
      (task.finishing action).map fun handle =>
        (task.operation, handle)
| .execute _ _ _ | .cancel _ _ | .getStatus _
| .receive | .close => none

/- How often a state was reported deleted, by all batches. -/
def deletedTimes
    (stateId : StateId)
    (system : BatchSystem) : Nat :=
  (system.calls.map
    (deletions stateId system.shared.executor)).sum

theorem executor_step
    (system : BatchSystem)
    (event : BatchEvent) :
    (system.step event).shared.executor =
      system.shared.executor := by
  cases event with
  | execute operation uuid ends => rfl
  | act position action =>
      rcases Interleaved.step_cases (BatchTask.act action)
          system position with
        ⟨_, hSame⟩ | ⟨before, task, later, _, _, hNext⟩
      · unfold step
        dsimp only
        rw [hSame]
      · unfold step
        dsimp only
        rw [hNext]
        exact (touches_act action task system.shared).executor
  | cancel operationId now =>
      unfold step BatchManager.cancel
      dsimp only
      split
      · rfl
      · split <;> rfl
  | getStatus operationId => rfl
  | receive => rfl
  | close => rfl

/- An event adds what the task that returns by it brings. -/
theorem deletedTimes_step
    {system : BatchSystem}
    (hSound : Sound system.shared system.calls)
    (stateId : StateId)
    (event : BatchEvent) :
    (system.step event).deletedTimes stateId =
      system.deletedTimes stateId +
        ((system.returning event).map fun returned =>
          gained stateId returned.1 returned.2).getD 0 := by
  have hExecutor := executor_step system event
  unfold deletedTimes
  rw [hExecutor]
  cases event with
  | execute operation uuid ends =>
      have hNone :
          deletions stateId system.shared.executor
              { operation := operation
                ends := ends
                result := BatchResult.initial operation uuid
                phase := .spawned } =
            0 := by
        unfold deletions
        cases operation with
        | delete stateIds => rfl
        | _ => rfl
      unfold step BatchSystem.execute
      dsimp only
      rw [List.map_append, List.sum_append, List.map_singleton,
        List.sum_singleton, hNone]
      rfl
  | act position action =>
      unfold step
      dsimp only
      cases hTask : system.calls[position]? with
      | none =>
          rw [Interleaved.step_of_none hTask]
          unfold returning
          dsimp only
          rw [hTask]
          rfl
      | some task =>
          rcases Interleaved.step_of_some
              (BatchTask.act action) hTask with
            ⟨_, hBefore, hAfter⟩
          have hTaskSound :=
            hSound.tasks task (List.mem_of_getElem? hTask)
          have hDeletions :=
            deletions_act hTaskSound stateId action
          rw [(hBefore.map _).sum_eq, (hAfter.map _).sum_eq,
            List.map_cons, List.map_cons, List.sum_cons,
            List.sum_cons, hDeletions]
          unfold returning
          dsimp only
          rw [hTask, Option.bind_some, Option.map_map]
          exact Nat.add_right_comm _ _ _
  | cancel operationId now => rfl
  | getStatus operationId => rfl
  | receive => rfl
  | close => rfl

end BatchSystem

/- Batches, and the executor of all their tasks. -/
structure ExecutedBatches where
  batches : BatchSystem
  executor : MemoryBatchExecutor

/- A state is added, or something happens with the batches. -/
inductive ExecutedEvent where
  | addState (stateId : StateId)
  | batch (event : BatchEvent)

namespace ExecutedBatches

open BatchTask MemoryBatchExecutor

/- A manager with an executor that has no states. -/
def start
    (maxConcurrent : Nat)
    (progress : Option { capacity : Nat // 0 < capacity }) :
    ExecutedBatches where
  batches := BatchSystem.start maxConcurrent true progress
  executor := MemoryBatchExecutor.new

/- The task of a state asks the executor when it returns. -/
def step
    (system : ExecutedBatches) :
    ExecutedEvent → ExecutedBatches
| .addState stateId =>
    { system with
      executor := system.executor.addState stateId }
| .batch event =>
    { batches := system.batches.step event
      executor :=
        match system.batches.returning event with
        | some (operation, handle) =>
            (system.executor.perform operation
              handle.stateId).2
        | none => system.executor }

/-
  Ids are fresh, and a task of a state ends with what the
  executor has answered it.
-/
def Executes
    (system : ExecutedBatches) : ExecutedEvent → Prop
| .addState _ => True
| .batch event =>
    system.batches.DrawsFresh event ∧
      ∀ returned ∈ system.batches.returning event,
        returned.2.joined =
          .ok
            (system.executor.perform returned.1
              returned.2.stateId).1

instance
    (system : BatchSystem)
    (event : BatchEvent) :
    Decidable (system.DrawsFresh event) :=
  match event with
  | .execute _ uuid _ =>
      inferInstanceAs
        (Decidable (system.shared.getStatus uuid = none))
  | .act _ _ | .cancel _ _ | .getStatus _
  | .receive | .close =>
      inferInstanceAs (Decidable True)

instance
    (system : ExecutedBatches)
    (event : ExecutedEvent) :
    Decidable (system.Executes event) :=
  match event with
  | .addState _ => inferInstanceAs (Decidable True)
  | .batch event =>
      inferInstanceAs
        (Decidable
          (system.batches.DrawsFresh event ∧
            ∀ returned ∈ system.batches.returning event,
              returned.2.joined =
                .ok
                  (system.executor.perform returned.1
                    returned.2.stateId).1))

/- How often an event adds the state that was not there. -/
def adds
    (stateId : StateId)
    (system : ExecutedBatches) : ExecutedEvent → Nat
| .addState added =>
    if added = stateId then
      1 - system.executor.present stateId
    else
      0
| .batch _ => 0

/-
  A state has been reported deleted as often as it was added
  and is gone, and what a batch has reported in the end is
  how many of its tasks have deleted their states.
-/
structure DeletesOnce
    (added : StateId → Nat)
    (system : ExecutedBatches) : Prop where
  conserved :
    ∀ stateId,
      added stateId =
        system.batches.deletedTimes stateId +
          system.executor.present stateId
  reported :
    ∀ task ∈ system.batches.calls, task.phase = .ended →
      ∃ record,
        system.batches.shared.getStatus
              task.result.operationId =
            some record ∧
          record.succeeded =
            (task.finishedEnds true).countP fun ended =>
              ended.2.isSuccess

variable {system : ExecutedBatches}

/- A task that returns has deleted what is gone after it. -/
theorem present_perform
    (operation : BatchOperation)
    {handle : ItemTask}
    {executor : MemoryBatchExecutor}
    (hJoined :
      handle.joined =
        .ok (executor.perform operation handle.stateId).1)
    (stateId : StateId) :
    executor.present stateId =
      (executor.perform operation
          handle.stateId).2.present stateId +
        gained stateId operation handle := by
  cases operation with
  | delete stateIds =>
      rw [present_deleteState handle.stateId stateId executor]
      unfold gained deletes outcomeOf perform
      unfold perform at hJoined
      dsimp only at hJoined ⊢
      rw [hJoined]
      congr 1
      cases (executor.deleteState handle.stateId).1 with
      | ok value => simp [JoinResult.isSuccess]
      | error message => simp [JoinResult.isSuccess]
  | _ => rfl

/- Every event keeps the states accounted for. -/
theorem conserved_step
    (hSound :
      BatchSystem.Sound system.batches.shared
        system.batches.calls)
    (event : ExecutedEvent)
    (hExecutes : system.Executes event)
    (stateId : StateId) :
    (system.step event).batches.deletedTimes stateId +
        (system.step event).executor.present stateId =
      system.batches.deletedTimes stateId +
        system.executor.present stateId +
          adds stateId system event := by
  cases event with
  | addState added =>
      have hPresent :=
        present_addState added stateId system.executor
      have hAtMost : system.executor.present stateId ≤ 1 := by
        unfold present
        split <;> omega
      unfold step adds
      dsimp only
      rw [hPresent]
      by_cases hSame : added = stateId
      · rw [if_pos hSame, if_pos hSame.symm]
        omega
      · rw [if_neg hSame, if_neg (Ne.symm hSame)]
        rfl
  | batch event =>
      have hDeleted :=
        BatchSystem.deletedTimes_step hSound stateId event
      unfold step adds
      dsimp only
      rw [hDeleted]
      cases hReturned : system.batches.returning event with
      | none => rfl
      | some returned =>
          have hPresent :=
            present_perform returned.1
              (hExecutes.2 returned hReturned) stateId
          rw [Option.map_some, Option.getD_some]
          dsimp only
          omega

/- What has not failed has succeeded. -/
theorem countP_isSuccess
    (ends : List (StateId × JoinResult)) :
    (ends.countP fun ended => ended.2.isSuccess) +
        (ends.filterMap BatchResult.failureOf).length =
      ends.length := by
  induction ends with
  | nil => rfl
  | cons ended rest ih =>
      obtain ⟨stateId, joined⟩ := ended
      rw [List.countP_cons, List.length_cons, ← ih]
      cases joined with
      | error message =>
          change _ + 0 + (_ + 1) = _
          omega
      | ok returned =>
          cases returned with
          | error message =>
              change _ + 0 + (_ + 1) = _
              omega
          | ok value =>
              change
                _ + 1 +
                    (rest.filterMap
                      BatchResult.failureOf).length =
                  _
              omega

/- A batch that has ended has reported its deletions. -/
theorem succeeded_of_ended
    {manager : BatchManager}
    {task : BatchTask}
    (hSound : task.Sound manager)
    (hExecutor : manager.executor = true)
    (hEnded : task.phase = .ended) :
    ∃ record,
      manager.getStatus task.result.operationId =
          some record ∧
        record.succeeded =
          (task.finishedEnds true).countP fun ended =>
            ended.2.isSuccess := by
  rcases hSound.finalRecord hEnded with
    ⟨record, hStored, hFinal⟩
  refine ⟨record, hStored, ?_⟩
  have hEnds : task.finishedEnds true = task.itemEnds true := by
    unfold finishedEnds
    rw [hEnded]
  have hLength :
      (task.itemEnds true).length =
        task.operation.stateIds.length := by
    simp [itemEnds]
  have hErrors := congrArg List.length hFinal.errors
  have hAll := countP_isSuccess (task.itemEnds true)
  have hCounted := hFinal.counted
  have hFailed := hFinal.failed
  have hProcessed := hFinal.processed
  have hTotal := hFinal.total
  rw [hExecutor] at hErrors
  rw [hEnds]
  omega

/- What holds in every state of a run with an executor. -/
structure Executed
    (system : ExecutedBatches) : Prop where
  sound :
    BatchSystem.Sound system.batches.shared
      system.batches.calls
  executor : system.batches.shared.executor = true

theorem executed_step
    (system : ExecutedBatches)
    (event : ExecutedEvent)
    (hExecuted : system.Executed)
    (hExecutes : system.Executes event) :
    (system.step event).Executed := by
  cases event with
  | addState stateId =>
      exact ⟨hExecuted.sound, hExecuted.executor⟩
  | batch event =>
      exact
        { sound :=
            BatchSystem.sound_step system.batches event
              hExecuted.sound hExecutes.1
          executor :=
            (BatchSystem.executor_step system.batches
              event).trans hExecuted.executor }

/- What is added on the way is accounted for in the end. -/
theorem conserved_run
    (hExecuted : system.Executed)
    {events : List ExecutedEvent}
    (hExecutes : Runs.AlongRun step Executes system events)
    (stateId : StateId) :
    (Runs.run step system events).batches.deletedTimes
          stateId +
        (Runs.run step system events).executor.present
          stateId =
      system.batches.deletedTimes stateId +
        system.executor.present stateId +
          (Runs.answers step (adds stateId) system
            events).sum := by
  induction events generalizing system with
  | nil => rfl
  | cons event rest ih =>
      have hStep :=
        conserved_step hExecuted.sound event hExecutes.1
          stateId
      have hNext :=
        executed_step system event hExecuted hExecutes.1
      rw [Runs.run_cons, ih hNext hExecutes.2, hStep,
        Runs.answers, List.sum_cons, Nat.add_assoc]

/-
  However the tasks of any batches interleave, a state is
  reported deleted, in all of them together, exactly as often
  as it was added and is gone again: by one task for each
  time, and by none if it is still there.
-/
theorem deletesOnce_run
    {maxConcurrent : Nat}
    (hLimit :
      0 < maxConcurrent ∧
        maxConcurrent ≤ Semaphore.maxPermits)
    (progress : Option { capacity : Nat // 0 < capacity })
    (events : List ExecutedEvent)
    (hExecutes :
      Runs.AlongRun step Executes
        (start maxConcurrent progress) events) :
    (Runs.run step (start maxConcurrent progress)
        events).DeletesOnce
      fun stateId =>
        (Runs.answers step (adds stateId)
          (start maxConcurrent progress) events).sum := by
  have hStart : (start maxConcurrent progress).Executed :=
    ⟨BatchSystem.sound_start hLimit true progress, rfl⟩
  have hEnd :
      (Runs.run step (start maxConcurrent progress)
        events).Executed :=
    (Runs.throughout_of_alongRun executed_step hStart
      hExecutes).last
  constructor
  · intro stateId
    have hConserved := conserved_run hStart hExecutes stateId
    rw [hConserved]
    change _ = 0 + 0 + _
    omega
  · intro task hTask hEnded
    exact
      succeeded_of_ended (hEnd.sound.tasks task hTask)
        hEnd.executor hEnded

/- Two batches delete one state at the same time. -/
def sampleEvents : List ExecutedEvent :=
  let now := DateTime.unixEpoch
  [.addState ⟨"s1"⟩,
    .batch
      (.execute (.delete [⟨"s1"⟩]) "b1"
        fun _ => .ok (.ok ())),
    .batch
      (.execute (.delete [⟨"s1"⟩]) "b2"
        fun _ => .ok (.error "State not found")),
    .batch (.act 0 (.advance now)),
    .batch (.act 0 (.advance now)),
    .batch (.act 1 (.advance now)),
    .batch (.act 1 (.advance now)),
    .batch (.act 1 (.acquire 0)),
    .batch (.act 0 (.acquire 0)),
    .batch (.act 0 (.finish 0)),
    .batch (.act 1 (.finish 0))]

theorem deletesOnce_sample :
    (Runs.run step (start 10 none)
        sampleEvents).DeletesOnce
      fun stateId =>
        (Runs.answers step (adds stateId) (start 10 none)
          sampleEvents).sum :=
  deletesOnce_run (by decide) none sampleEvents
    (by decide +kernel)

end ExecutedBatches

end IsaWorkspace
