import IsaWorkspace.Batch.Counting
import Mathlib.Algebra.GroupWithZero.Nat

/-
  The final results of batch operations.

  Every step of a task that does something leaves one step
  less, and a task that has not ended can take one, unless
  the channel for its updates is full.  So all tasks end
  however they are scheduled, if the receiver goes on to take
  updates, each with a result that accounts for all of its
  states.

  Main declarations:
    * `BatchManager.Full`
    * `BatchTask.stepsLeft`, `BatchSystem.workLeft`
    * `BatchTask.act_eq_or_stepsLeft_lt`
    * `BatchTask.exists_stepsLeft_lt`
    * `BatchTask.FinalRecord`
    * `BatchSystem.Sound`, `BatchSystem.sound_step`
    * `BatchSystem.BatchAccounting`
    * `BatchSystem.batchAccounting`
-/

------------------------------------------------------------
-- Room in the Channel
------------------------------------------------------------

namespace IsaWorkspace

namespace BatchManager

variable {manager after : BatchManager}

/- There is a channel, it is open, and it has no room. -/
def Full
    (manager : BatchManager) : Prop :=
  ∃ channel ∈ manager.progressTx,
    channel.closed = false ∧
      channel.capacity ≤ channel.queue.length

/- How many updates are in the channel. -/
def unread
    (manager : BatchManager) : Nat :=
  (manager.progressTx.map (·.queue.length)).getD 0

/- A sender waits for room only. -/
theorem full_of_sendProgress
    {update : ProgressUpdate}
    (hWaits : manager.sendProgress update = none) :
    manager.Full := by
  unfold sendProgress at hWaits
  split at hWaits
  · cases hWaits
  · next channel hChannel =>
      have hNone := Option.map_eq_none_iff.mp hWaits
      unfold ProgressChannel.send at hNone
      split at hNone
      · cases hNone
      · next hOpen =>
          split at hNone
          · cases hNone
          · next hNoRoom =>
              exact
                ⟨channel, hChannel,
                  Bool.eq_false_iff.mpr hOpen,
                  Nat.le_of_not_lt hNoRoom⟩

/- Where an update is taken out there is room for another. -/
theorem not_full_receiveProgress
    (manager : BatchManager) :
    ¬ manager.receiveProgress.Full := by
  rintro ⟨channel, hChannel, _, hNoRoom⟩
  rcases Option.map_eq_some_iff.mp hChannel with
    ⟨before, _, rfl⟩
  have hFits := before.fits
  have hPositive := before.positive
  unfold ProgressChannel.recv at hNoRoom
  dsimp only at hNoRoom
  rw [List.length_tail] at hNoRoom
  omega

/- A full channel has updates to take out. -/
theorem unread_pos_of_full
    (hFull : manager.Full) :
    0 < manager.unread := by
  rcases hFull with ⟨channel, hChannel, _, hNoRoom⟩
  have hPositive := channel.positive
  unfold unread
  rw [hChannel, Option.map_some, Option.getD_some]
  omega

theorem unread_receiveProgress
    (manager : BatchManager) :
    manager.receiveProgress.unread = manager.unread - 1 := by
  unfold unread receiveProgress
  cases manager.progressTx with
  | none => rfl
  | some channel => exact List.length_tail

/- There is at most one update more. -/
theorem unread_sendProgress_le
    {update : ProgressUpdate}
    (hSent : manager.sendProgress update = some after) :
    after.unread ≤ manager.unread + 1 := by
  rcases BatchTask.sendProgress_cases hSent with
    ⟨_, rfl⟩ | ⟨channel, next, hChannel, hNext, rfl⟩
  · exact Nat.le_succ _
  · unfold unread
    rw [hChannel, Option.map_some, Option.map_some,
      Option.getD_some, Option.getD_some]
    unfold ProgressChannel.send at hNext
    split at hNext
    · cases hNext
      exact Nat.le_succ _
    · split at hNext
      · cases hNext
        rw [List.length_append, List.length_singleton]
      · cases hNext

/- One manager has other updates than another in its channel. -/
structure Delivers
    (before after : BatchManager) : Prop where
  operations : after.operations = before.operations
  executor : after.executor = before.executor
  maxConcurrent :
    after.maxConcurrent = before.maxConcurrent
  reports :
    ∀ operationId updates,
      before.Reports operationId updates →
        after.Reports operationId updates

theorem delivers_receiveProgress
    (manager : BatchManager) :
    Delivers manager manager.receiveProgress where
  operations := rfl
  executor := rfl
  maxConcurrent := rfl
  reports := by
    intro operationId updates hReports channel hChannel
    rcases Option.map_eq_some_iff.mp hChannel with
      ⟨before, hBefore, rfl⟩
    exact (hReports before hBefore).recv

theorem delivers_closeProgress
    (manager : BatchManager) :
    Delivers manager manager.closeProgress where
  operations := rfl
  executor := rfl
  maxConcurrent := rfl
  reports := by
    intro operationId updates hReports channel hChannel
    rcases Option.map_eq_some_iff.mp hChannel with
      ⟨before, hBefore, rfl⟩
    exact (hReports before hBefore).close

end BatchManager

/- No task notices which updates have been taken out. -/
theorem BatchTask.Sound.of_delivers
    {task : BatchTask}
    {manager after : BatchManager}
    (hSound : task.Sound manager)
    (hDelivers : manager.Delivers after) :
    task.Sound after := by
  have hProgressed :
      ∀ taken, Progressed manager task taken →
        Progressed after task taken := by
    rintro taken ⟨hTotal, hAccounts, hSent⟩
    exact ⟨hTotal, hAccounts, hDelivers.reports _ _ hSent⟩
  unfold Sound at hSound ⊢
  rw [hDelivers.executor, hDelivers.maxConcurrent]
  cases hPhase : task.phase with
  | spawned =>
      rw [hPhase] at hSound
      exact hProgressed [] hSound
  | started =>
      rw [hPhase] at hSound
      exact hProgressed [] hSound
  | collecting handles =>
      rw [hPhase] at hSound
      rcases hSound with ⟨taken, hAll, hTaken⟩
      exact ⟨taken, hAll, hProgressed taken hTaken⟩
  | ended =>
      rw [hPhase] at hSound
      rcases hSound with ⟨hAll, hStatus, hStored⟩
      refine ⟨hProgressed _ hAll, hStatus, ?_⟩
      unfold BatchManager.getStatus
      rw [hDelivers.operations]
      exact hStored
  | panicked =>
      rw [hPhase] at hSound
      exact hSound

end IsaWorkspace

------------------------------------------------------------
-- Steps Left
------------------------------------------------------------

namespace IsaWorkspace

namespace BatchTask

open BatchResult

variable {task : BatchTask} {manager : BatchManager}

/- How often the task of a state is still heard of. -/
def itemSteps
    (handle : ItemTask) : Nat :=
  match handle.stage with
  | .waiting => 3
  | .holding => 2
  | .finished => 1

/- How many steps are left until the task ends. -/
def stepsLeft
    (task : BatchTask) : Nat :=
  match task.phase with
  | .spawned => 3 + 3 * task.operation.stateIds.length
  | .started => 2 + 3 * task.operation.stateIds.length
  | .collecting handles => 1 + (handles.map itemSteps).sum
  | .ended | .panicked => 0

/- One handle changes the sum by its own steps. -/
theorem sum_itemSteps_modify
    {handles : List ItemTask}
    {item : Nat}
    {handle : ItemTask}
    (change : ItemTask → ItemTask)
    (hHandle : handles[item]? = some handle) :
    ((handles.modify item change).map itemSteps).sum +
        itemSteps handle =
      (handles.map itemSteps).sum +
        itemSteps (change handle) := by
  induction handles generalizing item with
  | nil => simp at hHandle
  | cons first rest ih =>
      cases item with
      | zero =>
          simp only [List.getElem?_cons_zero,
            Option.some.injEq] at hHandle
          subst hHandle
          simp only [List.modify_zero_cons, List.map_cons,
            List.sum_cons]
          omega
      | succ item =>
          simp only [List.getElem?_cons_succ] at hHandle
          have hRest := ih hHandle
          simp only [List.modify_succ_cons, List.map_cons,
            List.sum_cons]
          omega

/- A change that is none, or takes a step, does so here. -/
theorem modify_eq_or_sum_lt
    {change : ItemTask → ItemTask}
    (hChange :
      ∀ handle, change handle = handle ∨
        itemSteps (change handle) < itemSteps handle)
    (handles : List ItemTask)
    (item : Nat) :
    handles.modify item change = handles ∨
      ((handles.modify item change).map itemSteps).sum <
        (handles.map itemSteps).sum := by
  cases hHandle : handles[item]? with
  | none =>
      left
      exact
        List.modify_eq_self
          (List.getElem?_eq_none_iff.mp hHandle)
  | some handle =>
      rcases hChange handle with hSame | hLess
      · left
        apply List.ext_getElem?
        intro position
        rw [List.getElem?_modify]
        split
        · next hItem =>
            rw [← hItem, hHandle]
            exact congrArg some hSame
        · simp
      · right
        have hSum := sum_itemSteps_modify change hHandle
        omega

/- The states have three steps each when they are spawned. -/
theorem sum_itemSteps_spawnItems
    (task : BatchTask)
    (executor : Bool) :
    ((task.spawnItems executor).map itemSteps).sum =
      3 * task.operation.stateIds.length := by
  have hSteps :
      (task.spawnItems executor).map itemSteps =
        List.replicate task.operation.stateIds.length 3 := by
    apply List.ext_getElem
    · simp [spawnItems]
    · intro position hLeft hRight
      simp [spawnItems, itemSteps]
  rw [hSteps, List.sum_replicate]
  simp [Nat.mul_comm]

/- Taking a permit does nothing, or is one step less. -/
theorem acquireItem_eq_or_sum_lt
    (item maxConcurrent : Nat)
    (handles : List ItemTask) :
    acquireItem item maxConcurrent handles = handles ∨
      ((acquireItem item maxConcurrent handles).map
            itemSteps).sum <
        (handles.map itemSteps).sum := by
  unfold acquireItem
  split
  · apply modify_eq_or_sum_lt
    intro handle
    split
    · next hStage =>
        right
        simp [itemSteps, hStage]
    · exact Or.inl rfl
  · exact Or.inl rfl

/- Returning does nothing, or is one step less. -/
theorem finishItem_eq_or_sum_lt
    (item : Nat)
    (handles : List ItemTask) :
    finishItem item handles = handles ∨
      ((finishItem item handles).map itemSteps).sum <
        (handles.map itemSteps).sum := by
  unfold finishItem
  apply modify_eq_or_sum_lt
  intro handle
  split
  · next hStage =>
      right
      simp [itemSteps, hStage]
  · exact Or.inl rfl

/- The steps of the handles are steps of the task. -/
theorem collecting_eq_or_stepsLeft_lt
    {task : BatchTask}
    {handles handles' : List ItemTask}
    (hPhase : task.phase = .collecting handles)
    (hHandles :
      handles' = handles ∨
        (handles'.map itemSteps).sum <
          (handles.map itemSteps).sum) :
    { task with phase := .collecting handles' } = task ∨
      stepsLeft
          { task with phase := .collecting handles' } <
        task.stepsLeft := by
  rcases hHandles with rfl | hLess
  · left
    rw [← hPhase]
  · right
    unfold stepsLeft
    rw [hPhase]
    dsimp only
    omega

/- Going on does nothing, or is one step less. -/
theorem advance_eq_or_stepsLeft_lt
    (now : DateTime)
    (task : BatchTask)
    (manager : BatchManager) :
    task.advance now manager = (task, manager) ∨
      (task.advance now manager).1.stepsLeft <
        task.stepsLeft := by
  rcases task with ⟨operation, ends, result, phase⟩
  unfold advance
  cases phase with
  | spawned =>
      right
      simp [stepsLeft]
  | started =>
      right
      dsimp only
      split
      · simp only [stepsLeft]
        omega
      · simp only [stepsLeft, sum_itemSteps_spawnItems]
        omega
  | collecting handles =>
      cases handles with
      | nil =>
          right
          simp [stepsLeft]
      | cons handle rest =>
          dsimp only
          split
          · next hFinished =>
              have hOne : itemSteps handle = 1 := by
                simp [itemSteps, hFinished]
              split
              · right
                simp only [stepsLeft, List.map_cons,
                  List.sum_cons]
                omega
              · exact Or.inl rfl
          · exact Or.inl rfl
  | ended => exact Or.inl rfl
  | panicked => exact Or.inl rfl

/- Every step of a task does nothing, or one step less is left. -/
theorem act_eq_or_stepsLeft_lt
    (action : TaskAction)
    (task : BatchTask)
    (manager : BatchManager) :
    task.act action manager = (task, manager) ∨
      (task.act action manager).1.stepsLeft <
        task.stepsLeft := by
  unfold act
  cases action with
  | advance now =>
      exact advance_eq_or_stepsLeft_lt now task manager
  | acquire item =>
      cases hPhase : task.phase with
      | collecting handles =>
          rcases collecting_eq_or_stepsLeft_lt hPhase
              (acquireItem_eq_or_sum_lt item
                manager.maxConcurrent handles) with
            hSame | hFewer
          · exact Or.inl (congrArg (·, manager) hSame)
          · exact Or.inr hFewer
      | _ => exact Or.inl rfl
  | finish item =>
      cases hPhase : task.phase with
      | collecting handles =>
          rcases collecting_eq_or_stepsLeft_lt hPhase
              (finishItem_eq_or_sum_lt item handles) with
            hSame | hFewer
          · exact Or.inl (congrArg (·, manager) hSame)
          · exact Or.inr hFewer
      | _ => exact Or.inl rfl

/- Changing one handle takes a step if its stage does. -/
theorem stepsLeft_modify_lt
    {handles : List ItemTask}
    {item : Nat}
    {handle : ItemTask}
    {change : ItemTask → ItemTask}
    (hPhase : task.phase = .collecting handles)
    (hHandle : handles[item]? = some handle)
    (hLess : itemSteps (change handle) < itemSteps handle) :
    stepsLeft
        { task with
          phase :=
            .collecting (handles.modify item change) } <
      task.stepsLeft := by
  have hSum := sum_itemSteps_modify change hHandle
  unfold stepsLeft
  rw [hPhase]
  dsimp only
  omega

/- The task of a state that holds a permit may return. -/
theorem finish_stepsLeft_lt
    {handles : List ItemTask}
    {item : Nat}
    {handle : ItemTask}
    (hPhase : task.phase = .collecting handles)
    (hHandle : handles[item]? = some handle)
    (hStage : handle.stage = .holding) :
    (task.act (.finish item) manager).1.stepsLeft <
      task.stepsLeft := by
  unfold act
  rw [hPhase]
  dsimp only
  apply stepsLeft_modify_lt hPhase hHandle
  simp [itemSteps, hStage]

/- The task of a waiting state may take a free permit. -/
theorem acquire_stepsLeft_lt
    {handles : List ItemTask}
    {item : Nat}
    {handle : ItemTask}
    (hPhase : task.phase = .collecting handles)
    (hHandle : handles[item]? = some handle)
    (hStage : handle.stage = .waiting)
    (hFree :
      permitsTaken handles < manager.maxConcurrent) :
    (task.act (.acquire item) manager).1.stepsLeft <
      task.stepsLeft := by
  unfold act
  rw [hPhase]
  dsimp only [acquireItem]
  rw [if_pos hFree]
  apply stepsLeft_modify_lt hPhase hHandle
  simp [itemSteps, hStage]

/-
  A task that has not ended can take a step, if there is room
  for what it reports.
-/
theorem exists_stepsLeft_lt
    (hRoom : ¬ manager.Full)
    (hSound : task.Sound manager)
    (hLimit :
      0 < manager.maxConcurrent ∧
        manager.maxConcurrent ≤ Semaphore.maxPermits)
    (hOpen : task.phase ≠ .ended) :
    ∃ action,
      (task.act action manager).1.stepsLeft <
        task.stepsLeft := by
  have hAdvance
      (hMoves :
        task.act (.advance DateTime.unixEpoch) manager ≠
          (task, manager)) :
      ∃ action,
        (task.act action manager).1.stepsLeft <
          task.stepsLeft :=
    ⟨_, (act_eq_or_stepsLeft_lt _ task manager).resolve_left
      hMoves⟩
  cases hPhase : task.phase with
  | spawned =>
      apply hAdvance
      intro hSame
      have hStays := congrArg (·.1.phase) hSame
      simp [act, advance, hPhase] at hStays
  | started =>
      apply hAdvance
      intro hSame
      have hStays := congrArg (·.1.phase) hSame
      simp only [act, advance, hPhase] at hStays
      split at hStays
      · cases hStays
      · cases hStays
  | ended => exact absurd hPhase hOpen
  | panicked =>
      unfold Sound at hSound
      rw [hPhase] at hSound
      exact absurd hSound (Nat.not_lt.mpr hLimit.2)
  | collecting handles =>
      cases handles with
      | nil =>
          apply hAdvance
          intro hSame
          have hStays := congrArg (·.1.phase) hSame
          simp [act, advance, hPhase] at hStays
      | cons handle rest =>
          cases hStage : handle.stage with
          | finished =>
              apply hAdvance
              intro hSame
              have hStays := congrArg (·.1.phase) hSame
              simp only [act, advance, hPhase, hStage,
                ↓reduceIte] at hStays
              split at hStays
              · cases hStays
              · next hWaits =>
                  exact
                    hRoom
                      (BatchManager.full_of_sendProgress
                        hWaits)
          | holding =>
              exact
                ⟨.finish 0,
                  finish_stepsLeft_lt hPhase rfl hStage⟩
          | waiting =>
              by_cases hFree :
                  permitsTaken (handle :: rest) <
                    manager.maxConcurrent
              · exact
                  ⟨.acquire 0,
                    acquire_stepsLeft_lt hPhase rfl hStage
                      hFree⟩
              · -- All permits are taken, so one can return.
                have hTaken :
                    0 < permitsTaken (handle :: rest) := by
                  omega
                rcases List.countP_pos_iff.mp hTaken with
                  ⟨holder, hMember, hHolds⟩
                rcases List.getElem?_of_mem hMember with
                  ⟨item, hItem⟩
                exact
                  ⟨_, finish_stepsLeft_lt hPhase hItem
                    (of_decide_eq_true hHolds)⟩

end BatchTask

------------------------------------------------------------
-- Final Results
------------------------------------------------------------

namespace BatchTask

open BatchResult

variable {task : BatchTask} {manager : BatchManager}

/- The result with which an operation has ended. -/
structure FinalRecord
    (manager : BatchManager)
    (task : BatchTask)
    (record : BatchResult) : Prop where
  total : record.total = task.operation.stateIds.length
  processed : record.processed = record.total
  counted :
    record.succeeded + record.failed = record.processed
  failed : record.failed = record.errors.length
  errors :
    record.errors =
      (task.itemEnds manager.executor).filterMap failureOf
  status :
    record.status =
      if 0 < record.failed then .failed else .completed
  progress :
    manager.Reports record.operationId
      (ProgressUpdate.upTo record.operationId record.total
        task.operation.stateIds)

/- What a task leaves when it has ended. -/
theorem Sound.finalRecord
    (hSound : task.Sound manager)
    (hEnded : task.phase = .ended) :
    ∃ record,
      manager.getStatus task.result.operationId =
          some record ∧
        FinalRecord manager task record := by
  unfold Sound at hSound
  rw [hEnded] at hSound
  rcases hSound with
    ⟨⟨hTotal, hAccounts, hSent⟩, hStatus, hStored⟩
  have hLength :
      (task.itemEnds manager.executor).length =
        task.operation.stateIds.length := by
    simp [itemEnds]
  rw [map_fst_itemEnds] at hSent
  refine ⟨task.result, hStored, ?_⟩
  exact
    { total := hTotal
      processed := by
        rw [hAccounts.processed, hLength, hTotal]
      counted := by
        rw [hAccounts.counted, hAccounts.processed]
      failed := hAccounts.failed
      errors := hAccounts.errors
      status := hStatus
      progress := hSent }

/- Only its own end makes a task rely on what is stored. -/
theorem Sound.updateResult
    (hSound : task.Sound manager)
    (hOpen : task.phase ≠ .ended)
    (result : BatchResult) :
    task.Sound (manager.updateResult result) := by
  have hProgressed :
      ∀ taken, Progressed manager task taken →
        Progressed (manager.updateResult result) task
          taken := by
    rintro taken ⟨hTotal, hAccounts, hSent⟩
    exact ⟨hTotal, hAccounts, hSent⟩
  unfold Sound at hSound ⊢
  cases hPhase : task.phase with
  | spawned =>
      rw [hPhase] at hSound
      exact hProgressed [] hSound
  | started =>
      rw [hPhase] at hSound
      exact hProgressed [] hSound
  | collecting handles =>
      rw [hPhase] at hSound
      rcases hSound with ⟨taken, hAll, hTaken⟩
      exact ⟨taken, hAll, hProgressed taken hTaken⟩
  | ended => exact absurd hPhase hOpen
  | panicked =>
      rw [hPhase] at hSound
      exact hSound

end BatchTask

namespace BatchSystem

open BatchTask

variable {manager after : BatchManager}
variable {calls calls' rest : List BatchTask}
variable {task : BatchTask}

/- Each drawn id is one that is not in use. -/
def DrawsFresh
    (system : BatchSystem) : BatchEvent → Prop
| .execute _ uuid _ => system.shared.getStatus uuid = none
| _ => True

/-
  All tasks are as they should be; their operations are
  different, stored, and the only ones reported about.
-/
structure Sound
    (manager : BatchManager)
    (calls : List BatchTask) : Prop where
  limit :
    0 < manager.maxConcurrent ∧
      manager.maxConcurrent ≤ Semaphore.maxPermits
  distinct : (calls.map (·.result.operationId)).Nodup
  stored :
    ∀ task ∈ calls,
      manager.getStatus task.result.operationId ≠ none
  tasks : ∀ task ∈ calls, task.Sound manager
  unsent :
    ∀ operationId,
      (∀ task ∈ calls,
          task.result.operationId ≠ operationId) →
        manager.Reports operationId []

/- The order of the tasks does not matter. -/
theorem Sound.perm
    (hSound : Sound manager calls)
    (hPerm : calls.Perm calls') :
    Sound manager calls' where
  limit := hSound.limit
  distinct := (hPerm.map _).nodup_iff.mp hSound.distinct
  stored := by
    intro task hTask
    exact hSound.stored task (hPerm.mem_iff.mpr hTask)
  tasks := by
    intro task hTask
    exact hSound.tasks task (hPerm.mem_iff.mpr hTask)
  unsent := by
    intro operationId hNone
    apply hSound.unsent
    intro task hTask
    exact hNone task (hPerm.mem_iff.mp hTask)

/- The other tasks have other operations. -/
theorem Sound.operationId_ne
    (hSound : Sound manager (task :: rest))
    {other : BatchTask}
    (hOther : other ∈ rest) :
    other.result.operationId ≠ task.result.operationId := by
  intro hSame
  apply (List.nodup_cons.mp hSound.distinct).1
  exact List.mem_map.mpr ⟨other, hOther, hSame⟩

/- One task takes a step among others. -/
theorem Sound.act
    (hSound : Sound manager (task :: rest))
    (action : TaskAction) :
    Sound (task.act action manager).2
      ((task.act action manager).1 :: rest) := by
  have hTouches := touches_act action task manager
  have hId := (act_frame action task manager).2.2
  have hKnown := hSound.stored task List.mem_cons_self
  have hDistinct := hSound.distinct
  constructor
  · rw [hTouches.maxConcurrent]
    exact hSound.limit
  · rw [List.map_cons, hId]
    exact hDistinct
  · intro other hMember
    rcases List.mem_cons.mp hMember with rfl | hRest
    · rw [hId]
      exact hTouches.known hKnown
    · rw [hTouches.status _ (hSound.operationId_ne hRest)]
      exact
        hSound.stored other (List.mem_cons_of_mem _ hRest)
  · intro other hMember
    rcases List.mem_cons.mp hMember with rfl | hRest
    · exact
        sound_act action
          (hSound.tasks task List.mem_cons_self) hKnown
    · exact
        (hSound.tasks other
            (List.mem_cons_of_mem _ hRest)).of_touches
          hTouches (hSound.operationId_ne hRest)
  · intro operationId hNone
    have hOther :
        ∀ other ∈ task :: rest,
          other.result.operationId ≠ operationId := by
      intro other hMember
      rcases List.mem_cons.mp hMember with rfl | hRest
      · have hNext := hNone _ List.mem_cons_self
        rw [hId] at hNext
        exact hNext
      · exact hNone other (List.mem_cons_of_mem _ hRest)
    exact
      hTouches.sent operationId []
        (Ne.symm (hOther task List.mem_cons_self))
        (hSound.unsent operationId hOther)

/- What is stored with a new operation comes last. -/
theorem getStatus_execute
    (operation : BatchOperation)
    (uuid : String)
    (ends : Nat → JoinResult)
    (system : BatchSystem)
    (operationId : String) :
    (execute operation uuid ends
          system).shared.getStatus operationId =
      (system.shared.getStatus operationId).or
        (KeyedList.find (·.operationId) operationId
          [BatchResult.initial operation uuid]) :=
  KeyedList.find_append _ _ _

/- A new operation touches what is stored of its own id. -/
theorem touches_execute
    {system : BatchSystem}
    (operation : BatchOperation)
    {uuid : String}
    (ends : Nat → JoinResult)
    (hFresh : system.shared.getStatus uuid = none) :
    Touches uuid system.shared
      (execute operation uuid ends system).shared := by
  constructor
  · rfl
  · rfl
  · intro other hOther
    have hNone :
        KeyedList.find (·.operationId) other
            [BatchResult.initial operation uuid] =
          none :=
      KeyedList.find_cons_of_ne (Ne.symm hOther) []
    rw [getStatus_execute, hNone, Option.or_none]
  · intro hKnown
    exact absurd hFresh hKnown
  · exact fun _ _ _ hReports => hReports

/- A new operation has its task. -/
theorem Sound.execute
    {system : BatchSystem}
    (hSound : Sound system.shared system.calls)
    (operation : BatchOperation)
    {uuid : String}
    (ends : Nat → JoinResult)
    (hFresh : system.shared.getStatus uuid = none) :
    Sound (execute operation uuid ends system).shared
      (execute operation uuid ends system).calls := by
  have hOthers :
      ∀ task ∈ system.calls,
        task.result.operationId ≠ uuid := by
    rintro task hTask rfl
    exact hSound.stored task hTask hFresh
  have hTouches :=
    touches_execute operation ends hFresh
  constructor
  · exact hSound.limit
  · unfold BatchSystem.execute
    dsimp only
    rw [List.map_append, List.nodup_append_comm]
    refine List.nodup_cons.mpr ⟨?_, hSound.distinct⟩
    intro hMember
    rcases List.mem_map.mp hMember with
      ⟨task, hTask, hSame⟩
    exact hOthers task hTask hSame
  · intro task hTask
    rcases List.mem_append.mp hTask with hOld | hNew
    · rw [hTouches.status _ (hOthers task hOld)]
      exact hSound.stored task hOld
    · cases List.mem_singleton.mp hNew
      have hFound :
          KeyedList.find (·.operationId) uuid
              [BatchResult.initial operation uuid] =
            some (BatchResult.initial operation uuid) :=
        KeyedList.find_cons_self
          (BatchResult.initial operation uuid) []
      change
        (BatchSystem.execute operation uuid ends
            system).shared.getStatus uuid ≠
          none
      rw [getStatus_execute, hFresh, hFound]
      simp
  · intro task hTask
    rcases List.mem_append.mp hTask with hOld | hNew
    · exact
        (hSound.tasks task hOld).of_touches hTouches
          (hOthers task hOld)
    · cases List.mem_singleton.mp hNew
      refine ⟨rfl, ⟨rfl, rfl, rfl, rfl⟩, ?_⟩
      exact hSound.unsent uuid hOthers
  · intro operationId hNone
    apply hSound.unsent
    intro task hTask
    exact hNone task (List.mem_append_left _ hTask)

/- A cancellation meets no result of a task that has ended. -/
theorem Sound.cancel
    (hSound : Sound manager calls)
    (operationId : String)
    (now : DateTime) :
    Sound (manager.cancel operationId now).2 calls := by
  unfold BatchManager.cancel
  cases hFound : manager.getStatus operationId with
  | none => exact hSound
  | some found =>
      dsimp only
      split
      · next hOpen =>
          have hTouches :=
            touches_updateResult
              { found with
                status := .cancelled
                completedAt := some now }
              manager
          constructor
          · exact hSound.limit
          · exact hSound.distinct
          · intro task hTask
            rw [BatchManager.getStatus_updateResult]
            simpa using hSound.stored task hTask
          · intro task hTask
            have hTaskSound := hSound.tasks task hTask
            by_cases hEnded : task.phase = .ended
            · refine hTaskSound.of_touches hTouches ?_
              intro hSame
              have hId : found.operationId = operationId :=
                (KeyedList.of_find hFound).2
              rcases hTaskSound.finalRecord hEnded with
                ⟨record, hStored, hFinal⟩
              rw [hSame, hId, hFound] at hStored
              cases hStored
              have hStatus := hFinal.status
              rcases hOpen with hPending | hRunning
              · rw [hPending] at hStatus
                split at hStatus
                · cases hStatus
                · cases hStatus
              · rw [hRunning] at hStatus
                split at hStatus
                · cases hStatus
                · cases hStatus
            · exact hTaskSound.updateResult hEnded _
          · exact hSound.unsent
      · exact hSound

/- What the receiver does meets no task. -/
theorem Sound.delivers
    (hSound : Sound manager calls)
    (hDelivers : manager.Delivers after) :
    Sound after calls where
  limit := by
    rw [hDelivers.maxConcurrent]
    exact hSound.limit
  distinct := hSound.distinct
  stored := by
    intro task hTask
    unfold BatchManager.getStatus
    rw [hDelivers.operations]
    exact hSound.stored task hTask
  tasks := by
    intro task hTask
    exact (hSound.tasks task hTask).of_delivers hDelivers
  unsent := by
    intro operationId hNone
    exact
      hDelivers.reports _ _ (hSound.unsent operationId hNone)

/- One event keeps everything as it should be. -/
theorem sound_step
    (system : BatchSystem)
    (event : BatchEvent)
    (hSound : Sound system.shared system.calls)
    (hFresh : system.DrawsFresh event) :
    Sound (system.step event).shared
      (system.step event).calls := by
  cases event with
  | execute operation uuid ends =>
      exact hSound.execute operation ends hFresh
  | act position action =>
      change
        Sound
          (Interleaved.step (BatchTask.act action) system
            position).shared
          (Interleaved.step (BatchTask.act action) system
            position).calls
      refine
        Interleaved.invariant_step
          (I := Sound) Sound.perm ?_ hSound
      intro task _ hNow
      exact hNow.act action
  | cancel operationId now =>
      exact hSound.cancel operationId now
  | getStatus operationId => exact hSound
  | receive =>
      exact
        hSound.delivers
          (BatchManager.delivers_receiveProgress _)
  | close =>
      exact
        hSound.delivers
          (BatchManager.delivers_closeProgress _)

------------------------------------------------------------
-- Every Schedule
------------------------------------------------------------

/-
  What is left to do: each step of a task may leave an update
  that the receiver has yet to take.
-/
def workLeft
    (system : BatchSystem) : Nat :=
  2 * (system.calls.map stepsLeft).sum +
    system.shared.unread

/- What happens without a call from outside. -/
def GoesAlone : BatchEvent → Prop
| .act _ _ | .receive => True
| .execute _ _ _ | .cancel _ _ | .getStatus _
| .close => False

/-
  A task that has not ended can take a step, at once or after
  the receiver has taken an update from the full channel.
  Whatever the tasks and the receiver do leaves them less to
  do, and where there is nothing left to do all tasks have
  ended.  The result of an operation that has ended accounts
  for all of its states.
-/
structure Accounted
    (system : BatchSystem) : Prop where
  goesOn :
    ∀ task ∈ system.calls, task.phase ≠ .ended →
      ∃ action,
        (task.act action system.shared).1.stepsLeft <
            task.stepsLeft ∨
          system.shared.Full ∧
            (task.act action
                system.shared.receiveProgress).1.stepsLeft <
              task.stepsLeft
  shrinks :
    ∀ task ∈ system.calls, ∀ action,
      task.act action system.shared =
          (task, system.shared) ∨
        (task.act action system.shared).1.stepsLeft <
          task.stepsLeft
  runsDown :
    ∀ event, GoesAlone event →
      system.step event = system ∨
        (system.step event).workLeft < system.workLeft
  rests :
    (∀ event, GoesAlone event →
        system.step event = system) →
      ∀ task ∈ system.calls, task.phase = .ended
  final :
    ∀ task ∈ system.calls, task.phase = .ended →
      ∃ record,
        system.shared.getStatus task.result.operationId =
            some record ∧
          FinalRecord system.shared task record

/- What a call asks to be executed. -/
def requested :
    BatchEvent →
      Option (BatchOperation × String × (Nat → JoinResult))
| .execute operation uuid ends =>
    some (operation, uuid, ends)
| _ => none

/- What the tasks have been asked for. -/
def requests
    (system : BatchSystem) :
    List (BatchOperation × String × (Nat → JoinResult)) :=
  system.calls.map fun task =>
    (task.operation, task.result.operationId, task.ends)

/-
  With so many permits, every operation that is asked for
  has its task, and all tasks are accounted for at all times.
-/
def BatchAccounting
    (maxConcurrent : Nat) : Prop :=
  ∀ executor progress events,
    Runs.AlongRun step DrawsFresh
        (start maxConcurrent executor progress) events →
      (Runs.run step
              (start maxConcurrent executor progress)
              events).requests =
          events.filterMap requested ∧
        Runs.Throughout step Accounted
          (start maxConcurrent executor progress) events

/- A step of a task leaves at most one update more. -/
theorem unread_act_le
    (action : TaskAction)
    (task : BatchTask)
    (manager : BatchManager) :
    (task.act action manager).2.unread ≤
      manager.unread + 1 := by
  unfold BatchTask.act
  split
  · unfold BatchTask.advance
    split
    · exact Nat.le_succ _
    · split <;> exact Nat.le_succ _
    · exact Nat.le_succ _
    · split
      · dsimp only
        split
        · next hSent =>
            exact BatchManager.unread_sendProgress_le hSent
        · exact Nat.le_succ _
      · exact Nat.le_succ _
    · exact Nat.le_succ _
    · exact Nat.le_succ _
  · exact Nat.le_succ _
  · exact Nat.le_succ _
  · exact Nat.le_succ _

/- A task that takes a step leaves less to do. -/
theorem workLeft_act
    (system : BatchSystem)
    (position : Nat)
    (action : TaskAction) :
    system.step (.act position action) = system ∨
      (system.step (.act position action)).workLeft <
        system.workLeft := by
  change
    Interleaved.step (BatchTask.act action) system position =
        _ ∨
      workLeft
          (Interleaved.step (BatchTask.act action) system
            position) <
        _
  cases hTask : system.calls[position]? with
  | none => exact Or.inl (Interleaved.step_of_none hTask)
  | some task =>
      rcases act_eq_or_stepsLeft_lt action task
          system.shared with
        hSame | hLess
      · left
        rcases List.getElem?_eq_some_iff.mp hTask with
          ⟨hRange, hAt⟩
        unfold Interleaved.step
        rw [hTask]
        dsimp only
        rw [hSame, ← hAt, List.set_getElem_self]
      · right
        rcases Interleaved.step_of_some
            (BatchTask.act action) hTask with
          ⟨hShared, hBefore, hAfter⟩
        have hUnread :=
          unread_act_le action task system.shared
        unfold workLeft
        rw [hShared, (hBefore.map _).sum_eq,
          (hAfter.map _).sum_eq, List.map_cons,
          List.map_cons, List.sum_cons, List.sum_cons]
        omega

/- So does a receiver that takes an update. -/
theorem workLeft_receive
    (system : BatchSystem) :
    system.step .receive = system ∨
      (system.step .receive).workLeft <
        system.workLeft := by
  have hUnread :=
    BatchManager.unread_receiveProgress system.shared
  rcases Nat.eq_zero_or_pos system.shared.unread with
    hNone | hSome
  · left
    rcases system with ⟨shared, calls⟩
    unfold step
    dsimp only at hNone ⊢
    congr 1
    unfold BatchManager.unread at hNone
    unfold BatchManager.receiveProgress
    rcases shared with ⟨operations, limit, channel, executor⟩
    cases channel with
    | none => rfl
    | some channel =>
        rcases channel with
          ⟨capacity, queue, received, closed, _, _⟩
        have hEmpty : queue = [] :=
          List.length_eq_zero_iff.mp hNone
        subst hEmpty
        simp [ProgressChannel.recv]
  · right
    unfold workLeft step
    dsimp only
    omega

/- A step that leaves less to do changes the system. -/
theorem step_act_ne
    {system : BatchSystem}
    {task : BatchTask}
    (hTask : task ∈ system.calls)
    {action : TaskAction}
    (hLess :
      (task.act action system.shared).1.stepsLeft <
        task.stepsLeft) :
    ∃ position,
      system.step (.act position action) ≠ system := by
  rcases List.getElem?_of_mem hTask with ⟨position, hAt⟩
  refine ⟨position, ?_⟩
  intro hSame
  have hCalls := congrArg Interleaved.calls hSame
  change
    (Interleaved.step (BatchTask.act action) system
        position).calls =
      system.calls at hCalls
  unfold Interleaved.step at hCalls
  rw [hAt] at hCalls
  have hRange :=
    (List.getElem?_eq_some_iff.mp hAt).1
  have hNext := congrArg (·[position]?) hCalls
  dsimp only at hNext
  rw [List.getElem?_set_self hRange, hAt] at hNext
  rw [Option.some.inj hNext] at hLess
  exact Nat.lt_irrefl _ hLess

/- A task can go on, or waits for a full channel. -/
theorem Sound.goesOn
    {system : BatchSystem}
    (hSound : Sound system.shared system.calls)
    {task : BatchTask}
    (hTask : task ∈ system.calls)
    (hOpen : task.phase ≠ .ended) :
    ∃ action,
      (task.act action system.shared).1.stepsLeft <
          task.stepsLeft ∨
        system.shared.Full ∧
          (task.act action
              system.shared.receiveProgress).1.stepsLeft <
            task.stepsLeft := by
  have hTaskSound := hSound.tasks task hTask
  by_cases hFull : system.shared.Full
  · have hDelivers :=
      BatchManager.delivers_receiveProgress system.shared
    rcases exists_stepsLeft_lt
        (BatchManager.not_full_receiveProgress _)
        (hTaskSound.of_delivers hDelivers) hSound.limit
        hOpen with
      ⟨action, hLess⟩
    exact ⟨action, Or.inr ⟨hFull, hLess⟩⟩
  · rcases exists_stepsLeft_lt hFull hTaskSound hSound.limit
        hOpen with
      ⟨action, hLess⟩
    exact ⟨action, Or.inl hLess⟩

/- What is right about all tasks accounts for them. -/
theorem Sound.accounted
    {system : BatchSystem}
    (hSound : Sound system.shared system.calls) :
    system.Accounted where
  goesOn := fun _ hTask hOpen => hSound.goesOn hTask hOpen
  shrinks := fun task _ action =>
    act_eq_or_stepsLeft_lt action task system.shared
  runsDown := by
    intro event hAlone
    cases event with
    | act position action =>
        exact workLeft_act system position action
    | receive => exact workLeft_receive system
    | _ => exact absurd hAlone id
  rests := by
    intro hRests task hTask
    by_contra hOpen
    rcases hSound.goesOn hTask hOpen with
      ⟨action, hLess | ⟨hFull, _⟩⟩
    · rcases step_act_ne hTask hLess with
        ⟨position, hMoves⟩
      exact hMoves (hRests (.act position action) trivial)
    · have hUnread := BatchManager.unread_pos_of_full hFull
      have hSame :=
        congrArg (·.shared.unread) (hRests .receive trivial)
      have hFewer :=
        BatchManager.unread_receiveProgress system.shared
      unfold step at hSame
      dsimp only at hSame
      omega
  final := by
    intro task hTask hEnded
    exact (hSound.tasks task hTask).finalRecord hEnded

/- A request adds its task, and no other event does. -/
theorem requests_step
    (system : BatchSystem)
    (event : BatchEvent) :
    (system.step event).requests =
      system.requests ++ (requested event).toList := by
  cases event with
  | execute operation uuid ends =>
      unfold step BatchSystem.execute requests requested
      dsimp only
      rw [List.map_append]
      rfl
  | act position action =>
      unfold step requested
      dsimp only
      rw [Option.toList_none, List.append_nil]
      rcases Interleaved.step_cases (BatchTask.act action)
          system position with
        ⟨_, hSame⟩ | ⟨before, task, later, _, hCalls, hNext⟩
      · rw [hSame]
      · rcases act_frame action task system.shared with
          ⟨hOperation, hEnds, hId⟩
        unfold requests
        rw [hNext, hCalls]
        dsimp only
        rw [List.map_append, List.map_append, List.map_cons,
          List.map_cons, hOperation, hEnds, hId]
  | cancel operationId now =>
      exact (List.append_nil _).symm
  | getStatus operationId =>
      exact (List.append_nil _).symm
  | receive => exact (List.append_nil _).symm
  | close => exact (List.append_nil _).symm

theorem requests_run
    (system : BatchSystem)
    (events : List BatchEvent) :
    (Runs.run step system events).requests =
      system.requests ++ events.filterMap requested := by
  induction events generalizing system with
  | nil => exact (List.append_nil _).symm
  | cons event rest ih =>
      rw [Runs.run_cons, ih, requests_step,
        List.append_assoc]
      cases hRequest : requested event with
      | none => rw [List.filterMap_cons_none hRequest]; rfl
      | some request =>
          rw [List.filterMap_cons_some hRequest]
          rfl

theorem sound_start
    {maxConcurrent : Nat}
    (hLimit :
      0 < maxConcurrent ∧
        maxConcurrent ≤ Semaphore.maxPermits)
    (executor : Bool)
    (progress : Option { capacity : Nat // 0 < capacity }) :
    Sound (start maxConcurrent executor progress).shared
      (start maxConcurrent executor progress).calls where
  limit := hLimit
  distinct := List.nodup_nil
  stored := by
    intro task hTask
    cases hTask
  tasks := by
    intro task hTask
    cases hTask
  unsent := by
    intro operationId _ channel hChannel
    rcases Option.map_eq_some_iff.mp hChannel with
      ⟨capacity, _, rfl⟩
    exact ProgressChannel.reports_new capacity operationId

/-
  With at least one permit, and no more than a semaphore can
  have, all batches are accounted for.
-/
theorem batchAccounting
    (maxConcurrent : Nat)
    (hLimit :
      0 < maxConcurrent ∧
        maxConcurrent ≤ Semaphore.maxPermits) :
    BatchAccounting maxConcurrent := by
  intro executor progress events hFresh
  constructor
  · rw [requests_run]
    rfl
  · have hSound :
        Runs.Throughout step
          (fun system =>
            Sound system.shared system.calls)
          (start maxConcurrent executor progress) events :=
      Runs.throughout_of_alongRun sound_step
        (sound_start hLimit executor progress) hFresh
    exact hSound.mono fun _ hSystem => hSystem.accounted

/- The default number of permits. -/
theorem batchAccounting_ten : BatchAccounting 10 :=
  batchAccounting 10 (by decide)

/- A deletion is executed, and its task takes two steps. -/
def twoSteps : List BatchEvent :=
  [.execute (.delete [⟨"state"⟩]) "batch" fun _ =>
      .ok (.ok ()),
    .act 0 (.advance DateTime.unixEpoch),
    .act 0 (.advance DateTime.unixEpoch)]

/- The system in which the task has died. -/
def died : BatchSystem :=
  Runs.run step (start (2 ^ 61) false none) twoSteps

/- Nothing that the tasks could do changes it. -/
theorem died_act
    (action : TaskAction) :
    step died (.act 0 action) = died := by
  cases action with
  | advance now => rfl
  | acquire item => rfl
  | finish item => rfl

/-
  Two states are deleted, and the update on the first fills
  the channel.
-/
def oneUpdate : List BatchEvent :=
  [.execute (.delete [⟨"one"⟩, ⟨"two"⟩]) "batch" fun _ =>
      .ok (.ok ()),
    .act 0 (.advance DateTime.unixEpoch),
    .act 0 (.advance DateTime.unixEpoch),
    .act 0 (.acquire 0),
    .act 0 (.finish 0),
    .act 0 (.advance DateTime.unixEpoch),
    .act 0 (.acquire 0),
    .act 0 (.finish 0)]

/- The system in which the task waits for the receiver. -/
def waits : BatchSystem :=
  Runs.run step
    (start 1 false (some ⟨1, Nat.one_pos⟩)) oneUpdate

theorem waits_act
    (action : TaskAction) :
    step waits (.act 0 action) = waits := by
  -- One handle is left, so an item is there or it is not.
  cases action with
  | advance now => rfl
  | acquire item =>
      match item with
      | 0 | 1 | _ + 2 => rfl
  | finish item =>
      match item with
      | 0 | 1 | _ + 2 => rfl

/- A system that no task changes reports what it reports. -/
theorem getStatus_run_act
    {system : BatchSystem}
    (hStays :
      ∀ action, step system (.act 0 action) = system)
    (actions : List TaskAction) :
    Runs.run step system (actions.map (.act 0)) =
      system := by
  induction actions with
  | nil => rfl
  | cons action rest ih =>
      rw [List.map_cons, Runs.run_cons, hStays]
      exact ih

/-
  With more permits than a semaphore can have the task dies,
  and where nothing is taken out of the channel it waits: its
  operation never has all of its states processed.
-/
theorem batchAccounting_stuck :
    (∀ actions : List TaskAction,
        ((Runs.run step died
                (actions.map (.act 0))).shared.getStatus
            "batch").map
              (fun record =>
                (record.status, record.total,
                  record.processed)) =
          some (.running, 1, 0)) ∧
      (¬ BatchAccounting (2 ^ 61)) ∧
      ∀ actions : List TaskAction,
        ((Runs.run step waits
                (actions.map (.act 0))).shared.getStatus
            "batch").map
              (fun record =>
                (record.status, record.total,
                  record.processed)) =
          some (.running, 2, 0) := by
  refine ⟨?_, ?_, ?_⟩
  · intro actions
    rw [getStatus_run_act died_act]
    decide +kernel
  · intro hAccounting
    have hAccounted : died.Accounted :=
      (hAccounting false none twoSteps
        ⟨rfl, trivial, trivial, trivial⟩).2.last
    have hTask : ∃ task ∈ died.calls,
        task.phase = .panicked :=
      ⟨_, List.mem_singleton.mpr rfl, rfl⟩
    rcases hTask with ⟨task, hTask, hPhase⟩
    have hOpen : task.phase ≠ .ended := by
      rw [hPhase]
      exact nofun
    have hNone : task.stepsLeft = 0 := by
      unfold stepsLeft
      rw [hPhase]
    rcases hAccounted.goesOn task hTask hOpen with
      ⟨action, hLess | ⟨_, hLess⟩⟩
    · omega
    · omega
  · intro actions
    rw [getStatus_run_act waits_act]
    decide +kernel

end BatchSystem

end IsaWorkspace
