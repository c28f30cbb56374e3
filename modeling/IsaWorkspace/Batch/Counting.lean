import IsaWorkspace.Batch.Cancellation

/-
  What the task of a batch operation counts and reports.

  The tasks of the states end in any order, but their
  results are taken up in the order of the list, and each
  one is counted, reported and listed when it has failed.

  Main declarations:
    * `BatchResult.failureOf`, `BatchResult.Accounts`
    * `ProgressUpdate.upTo`, `BatchManager.Reports`
    * `BatchTask.itemEnds`, `BatchTask.Progressed`
    * `BatchTask.Sound`, `BatchTask.sound_act`
    * `BatchTask.Touches`, `BatchTask.touches_act`
-/

------------------------------------------------------------
-- Counting Results
------------------------------------------------------------

namespace IsaWorkspace

namespace BatchResult

variable {result : BatchResult}
variable {taken : List (StateId × JoinResult)}

/- The error that is listed for the end of a task, if any. -/
def failureOf :
    StateId × JoinResult → Option BatchError
| (_, .ok (.ok _)) => none
| (stateId, .ok (.error e)) => some ⟨stateId.id, e⟩
| (stateId, .error e) => some ⟨stateId.id, e⟩

/- The ends of these tasks have been counted. -/
structure Accounts
    (taken : List (StateId × JoinResult))
    (result : BatchResult) : Prop where
  processed : result.processed = taken.length
  counted : result.succeeded + result.failed = taken.length
  failed : result.failed = result.errors.length
  errors : result.errors = taken.filterMap failureOf

/- The two loops count alike. -/
theorem executeDelete_eq_collectResults :
    executeDelete = collectResults := rfl

theorem collect_eq
    (operation : BatchOperation) :
    operation.collect = collectResults := by
  cases operation with
  | delete stateIds => exact executeDelete_eq_collectResults
  | _ => rfl

/- One more end is counted. -/
theorem Accounts.collectResults
    (hAccounts : Accounts taken result)
    (stateId : StateId)
    (joined : JoinResult) :
    Accounts (taken ++ [(stateId, joined)])
      (collectResults stateId joined result) := by
  rcases hAccounts with
    ⟨hProcessed, hCounted, hFailed, hErrors⟩
  unfold BatchResult.collectResults
  cases joined with
  | error e =>
      constructor
      · simp [hProcessed]
      · simp only [List.length_append, List.length_singleton]
        omega
      · simp [hFailed]
      · simp [hErrors, failureOf]
  | ok returned =>
      cases returned with
      | error e =>
          constructor
          · simp [hProcessed]
          · simp only [List.length_append,
              List.length_singleton]
            omega
          · simp [hFailed]
          · simp [hErrors, failureOf]
      | ok value =>
          constructor
          · simp [hProcessed]
          · simp only [List.length_append,
              List.length_singleton]
            omega
          · exact hFailed
          · simp [hErrors, failureOf]

/- Counting leaves the rest of a result alone. -/
theorem collectResults_frame
    (stateId : StateId)
    (joined : JoinResult)
    (result : BatchResult) :
    (collectResults stateId joined result).operationId =
        result.operationId ∧
      (collectResults stateId joined result).total =
        result.total := by
  unfold collectResults
  cases joined with
  | error e => exact ⟨rfl, rfl⟩
  | ok returned =>
      cases returned with
      | error e => exact ⟨rfl, rfl⟩
      | ok value => exact ⟨rfl, rfl⟩

end BatchResult

/- The updates that are sent for these states. -/
def ProgressUpdate.upTo
    (operationId : String)
    (total : Nat)
    (stateIds : List StateId) : List ProgressUpdate :=
  stateIds.mapIdx fun position stateId =>
    { operationId := operationId
      processed := position + 1
      total := total
      currentState := some stateId.id }

namespace ProgressChannel

variable {operationId : String}
variable {updates : List ProgressUpdate}
variable {channel after : ProgressChannel}

/- What was sent for one operation. -/
def sentFor
    (operationId : String)
    (channel : ProgressChannel) : List ProgressUpdate :=
  channel.sent.filter fun update =>
    decide (update.operationId = operationId)

/-
  These updates were sent for an operation: all of them, or
  the first of them if the channel was closed meanwhile.
-/
def Reports
    (operationId : String)
    (updates : List ProgressUpdate)
    (channel : ProgressChannel) : Prop :=
  channel.sentFor operationId <+: updates ∧
    (channel.closed = false →
      channel.sentFor operationId = updates)

theorem reports_new
    (capacity : { capacity : Nat // 0 < capacity })
    (operationId : String) :
    (new capacity).Reports operationId [] :=
  ⟨List.nil_prefix, fun _ => rfl⟩

/- What is taken out has still been sent. -/
theorem sent_recv
    (channel : ProgressChannel) :
    channel.recv.sent = channel.sent := by
  unfold sent recv
  dsimp only
  rw [List.append_assoc, ← List.drop_one,
    List.take_append_drop]

/- A closed channel stays as it is, and others take it in. -/
theorem send_cases
    {update : ProgressUpdate}
    (hSent : channel.send update = some after) :
    (channel.closed = true ∧ after = channel) ∨
      channel.closed = false ∧ after.closed = false ∧
        after.sent = channel.sent ++ [update] := by
  unfold send at hSent
  split at hSent
  · next hClosed =>
      cases hSent
      exact Or.inl ⟨hClosed, rfl⟩
  · next hOpen =>
      have hStaysOpen : channel.closed = false :=
        Bool.eq_false_iff.mpr hOpen
      split at hSent
      · cases hSent
        right
        refine ⟨hStaysOpen, hStaysOpen, ?_⟩
        unfold sent
        rw [List.append_assoc]
      · cases hSent

/- One more update of an operation is sent. -/
theorem Reports.send
    (hReports : channel.Reports operationId updates)
    {update : ProgressUpdate}
    (hSent : channel.send update = some after)
    (hId : update.operationId = operationId) :
    after.Reports operationId (updates ++ [update]) := by
  rcases send_cases hSent with
    ⟨hClosed, rfl⟩ | ⟨hOpen, hStaysOpen, hAll⟩
  · refine ⟨?_, ?_⟩
    · exact hReports.1.trans (List.prefix_append _ _)
    · intro hOpen
      rw [hClosed] at hOpen
      cases hOpen
  · have hFor :
        after.sentFor operationId = updates ++ [update] := by
      unfold sentFor
      rw [hAll, List.filter_append,
        ← hReports.2 hOpen]
      simp [sentFor, hId]
    exact ⟨hFor ▸ List.prefix_refl _, fun _ => hFor⟩

/- The updates of other operations are not concerned. -/
theorem Reports.send_other
    (hReports : channel.Reports operationId updates)
    {update : ProgressUpdate}
    (hSent : channel.send update = some after)
    (hOther : operationId ≠ update.operationId) :
    after.Reports operationId updates := by
  rcases send_cases hSent with
    ⟨_, rfl⟩ | ⟨hOpen, _, hAll⟩
  · exact hReports
  · have hFor :
        after.sentFor operationId = updates := by
      unfold sentFor
      rw [hAll, List.filter_append, ← hReports.2 hOpen]
      simp [sentFor, hOther.symm]
    exact ⟨hFor ▸ List.prefix_refl _, fun _ => hFor⟩

theorem Reports.recv
    (hReports : channel.Reports operationId updates) :
    channel.recv.Reports operationId updates := by
  unfold Reports sentFor at hReports ⊢
  rw [sent_recv]
  exact hReports

/- A channel that is closed may miss the next updates. -/
theorem Reports.close
    (hReports : channel.Reports operationId updates) :
    channel.close.Reports operationId updates :=
  ⟨hReports.1, nofun⟩

end ProgressChannel

/- These updates were sent, if there is a channel. -/
def BatchManager.Reports
    (operationId : String)
    (updates : List ProgressUpdate)
    (manager : BatchManager) : Prop :=
  ∀ channel ∈ manager.progressTx,
    channel.Reports operationId updates

------------------------------------------------------------
-- What a Task Has Done
------------------------------------------------------------

namespace BatchTask

open BatchResult

variable {task : BatchTask} {manager : BatchManager}
variable {taken : List (StateId × JoinResult)}

/- How the tasks of the states end. -/
def itemEnds
    (task : BatchTask)
    (executor : Bool) : List (StateId × JoinResult) :=
  task.operation.stateIds.mapIdx fun position stateId =>
    (stateId,
      if executor then task.ends position
      else .ok (.ok ()))

/- What one handle stands for. -/
def outcomeOf
    (handle : ItemTask) : StateId × JoinResult :=
  (handle.stateId, handle.joined)

/- The handles stand for the tasks of all states. -/
theorem map_outcomeOf_spawnItems
    (task : BatchTask)
    (executor : Bool) :
    (task.spawnItems executor).map outcomeOf =
      task.itemEnds executor := by
  apply List.ext_getElem
  · simp [spawnItems, itemEnds]
  · intro position hLeft hRight
    simp [spawnItems, itemEnds, outcomeOf]

/- The states of the ends are those of the operation. -/
theorem map_fst_itemEnds
    (task : BatchTask)
    (executor : Bool) :
    (task.itemEnds executor).map Prod.fst =
      task.operation.stateIds := by
  apply List.ext_getElem
  · simp [itemEnds]
  · intro position hLeft hRight
    simp [itemEnds]

/- The ends that were taken up are counted and reported. -/
structure Progressed
    (manager : BatchManager)
    (task : BatchTask)
    (taken : List (StateId × JoinResult)) : Prop where
  total :
    task.result.total = task.operation.stateIds.length
  accounts : Accounts taken task.result
  sent :
    manager.Reports task.result.operationId
      (ProgressUpdate.upTo task.result.operationId
        task.result.total (taken.map Prod.fst))

/- The phase is not part of what was counted. -/
theorem Progressed.rephase
    (hProgressed : Progressed manager task taken)
    (phase : TaskPhase) :
    Progressed manager { task with phase := phase } taken :=
  ⟨hProgressed.total, hProgressed.accounts,
    hProgressed.sent⟩

/- What holds of a task in each of its phases. -/
def Sound
    (manager : BatchManager)
    (task : BatchTask) : Prop :=
  match task.phase with
  | .spawned | .started => Progressed manager task []
  | .collecting handles =>
      ∃ taken,
        taken ++ handles.map outcomeOf =
            task.itemEnds manager.executor ∧
          Progressed manager task taken
  | .ended =>
      Progressed manager task
          (task.itemEnds manager.executor) ∧
        task.result.status =
          (if 0 < task.result.failed then .failed
            else .completed) ∧
        manager.getStatus task.result.operationId =
          some task.result
  | .panicked =>
      Semaphore.maxPermits < manager.maxConcurrent

/- One manager may differ from another on one operation. -/
structure Touches
    (operationId : String)
    (before after : BatchManager) : Prop where
  executor : after.executor = before.executor
  maxConcurrent :
    after.maxConcurrent = before.maxConcurrent
  status :
    ∀ other, other ≠ operationId →
      after.getStatus other = before.getStatus other
  known :
    before.getStatus operationId ≠ none →
      after.getStatus operationId ≠ none
  sent :
    ∀ other updates, other ≠ operationId →
      before.Reports other updates →
        after.Reports other updates

theorem Touches.refl
    (operationId : String)
    (manager : BatchManager) :
    Touches operationId manager manager where
  executor := rfl
  maxConcurrent := rfl
  status := fun _ _ => rfl
  known := id
  sent := fun _ _ _ hReports => hReports

theorem touches_updateResult
    (result : BatchResult)
    (manager : BatchManager) :
    Touches result.operationId manager
      (manager.updateResult result) where
  executor := rfl
  maxConcurrent := rfl
  status := by
    intro other hOther
    rw [BatchManager.getStatus_updateResult]
    cases manager.getStatus other with
    | none => rfl
    | some found => simp [Ne.symm hOther]
  known := by
    intro hKnown
    rw [BatchManager.getStatus_updateResult]
    simpa using hKnown
  sent := fun _ _ _ hReports => hReports

/- Sending an update changes the channel alone. -/
theorem sendProgress_cases
    {update : ProgressUpdate}
    {after : BatchManager}
    (hSent : manager.sendProgress update = some after) :
    (manager.progressTx = none ∧ after = manager) ∨
      ∃ channel next,
        manager.progressTx = some channel ∧
          channel.send update = some next ∧
          after =
            { manager with progressTx := some next } := by
  unfold BatchManager.sendProgress at hSent
  split at hSent
  · next hNone =>
      cases hSent
      exact Or.inl ⟨hNone, rfl⟩
  · next channel hChannel =>
      rcases Option.map_eq_some_iff.mp hSent with
        ⟨next, hNext, rfl⟩
      exact Or.inr ⟨channel, next, hChannel, hNext, rfl⟩

theorem touches_sendProgress
    {update : ProgressUpdate}
    {after : BatchManager}
    (hSent : manager.sendProgress update = some after) :
    Touches update.operationId manager after := by
  rcases sendProgress_cases hSent with
    ⟨_, rfl⟩ | ⟨channel, next, hChannel, hNext, rfl⟩
  · exact Touches.refl _ _
  · constructor
    · rfl
    · rfl
    · exact fun _ _ => rfl
    · exact id
    · intro other updates hOther hReports sent hMember
      cases hMember
      exact (hReports channel hChannel).send_other hNext hOther

/- The reports with one more update. -/
theorem reports_sendProgress
    {update : ProgressUpdate}
    {after : BatchManager}
    {updates : List ProgressUpdate}
    (hReports :
      manager.Reports update.operationId updates)
    (hSent : manager.sendProgress update = some after) :
    after.Reports update.operationId
      (updates ++ [update]) := by
  rcases sendProgress_cases hSent with
    ⟨hNone, rfl⟩ | ⟨channel, next, hChannel, hNext, rfl⟩
  · intro sent hMember
    rw [hNone] at hMember
    cases hMember
  · intro sent hMember
    cases hMember
    exact (hReports channel hChannel).send hNext rfl

/- Tasks of other operations do not notice. -/
theorem Sound.of_touches
    {operationId : String}
    {after : BatchManager}
    (hSound : task.Sound manager)
    (hTouches : Touches operationId manager after)
    (hOther : task.result.operationId ≠ operationId) :
    task.Sound after := by
  have hProgressed :
      ∀ taken, Progressed manager task taken →
        Progressed after task taken := by
    rintro taken ⟨hTotal, hAccounts, hSent⟩
    exact
      ⟨hTotal, hAccounts, hTouches.sent _ _ hOther hSent⟩
  unfold Sound at hSound ⊢
  cases hPhase : task.phase with
  | spawned =>
      rw [hPhase] at hSound
      exact hProgressed [] hSound
  | started =>
      rw [hPhase] at hSound
      exact hProgressed [] hSound
  | collecting handles =>
      rw [hPhase] at hSound
      rcases hSound with ⟨taken, hAll, hTaken⟩
      refine ⟨taken, ?_, hProgressed taken hTaken⟩
      rw [hTouches.executor]
      exact hAll
  | ended =>
      rw [hPhase] at hSound
      rcases hSound with ⟨hAll, hStatus, hStored⟩
      refine ⟨?_, hStatus, ?_⟩
      · rw [hTouches.executor]
        exact hProgressed _ hAll
      · rw [hTouches.status _ hOther]
        exact hStored
  | panicked =>
      rw [hPhase] at hSound
      dsimp only at hSound ⊢
      rw [hTouches.maxConcurrent]
      exact hSound

------------------------------------------------------------
-- Steps of a Task
------------------------------------------------------------

/- Changing the stage of a handle keeps what it stands for. -/
theorem map_outcomeOf_modify
    (handles : List ItemTask)
    (item : Nat)
    (change : ItemTask → ItemTask)
    (hChange :
      ∀ handle, outcomeOf (change handle) = outcomeOf handle) :
    (handles.modify item change).map outcomeOf =
      handles.map outcomeOf := by
  induction handles generalizing item with
  | nil => simp
  | cons handle rest ih =>
      cases item with
      | zero => simp [hChange]
      | succ item => simp [ih]

theorem map_outcomeOf_acquireItem
    (item maxConcurrent : Nat)
    (handles : List ItemTask) :
    (acquireItem item maxConcurrent handles).map outcomeOf =
      handles.map outcomeOf := by
  unfold acquireItem
  split
  · apply map_outcomeOf_modify
    intro handle
    split
    · rfl
    · rfl
  · rfl

theorem map_outcomeOf_finishItem
    (item : Nat)
    (handles : List ItemTask) :
    (finishItem item handles).map outcomeOf =
      handles.map outcomeOf := by
  unfold finishItem
  apply map_outcomeOf_modify
  intro handle
  split
  · rfl
  · rfl

/- One more state is reported. -/
theorem upTo_append
    (operationId : String)
    (total : Nat)
    (stateIds : List StateId)
    (stateId : StateId) :
    ProgressUpdate.upTo operationId total
        (stateIds ++ [stateId]) =
      ProgressUpdate.upTo operationId total stateIds ++
        [{ operationId := operationId
           processed := stateIds.length + 1
           total := total
           currentState := some stateId.id }] := by
  unfold ProgressUpdate.upTo
  rw [List.mapIdx_append]
  simp

/- One more end is taken up and reported. -/
theorem Progressed.collect
    (hProgressed : Progressed manager task taken)
    (handle : ItemTask)
    (phase : TaskPhase)
    {after : BatchManager}
    (hSends :
      manager.sendProgress
          ((task.operation.collect handle.stateId
            handle.joined task.result).progress
              handle.stateId) =
        some after) :
    Progressed after
      { task with
        result :=
          task.operation.collect handle.stateId
            handle.joined task.result
        phase := phase }
      (taken ++ [outcomeOf handle]) := by
  rcases hProgressed with ⟨hTotal, hAccounts, hSent⟩
  rw [collect_eq] at hSends ⊢
  rcases collectResults_frame handle.stateId handle.joined
      task.result with
    ⟨hId, hKeepsTotal⟩
  have hCounted :=
    hAccounts.collectResults handle.stateId handle.joined
  refine ⟨hKeepsTotal.trans hTotal, hCounted, ?_⟩
  have hUpdates :
      ProgressUpdate.upTo task.result.operationId
          task.result.total
          ((taken ++ [outcomeOf handle]).map Prod.fst) =
        ProgressUpdate.upTo task.result.operationId
            task.result.total (taken.map Prod.fst) ++
          [(collectResults handle.stateId handle.joined
            task.result).progress handle.stateId] := by
    unfold progress
    rw [List.map_append, List.map_singleton, upTo_append,
      hCounted.processed, hId, hKeepsTotal]
    simp [outcomeOf]
  dsimp only
  rw [hId, hKeepsTotal, hUpdates]
  have hReports :
      manager.Reports
        ((collectResults handle.stateId handle.joined
          task.result).progress handle.stateId).operationId
        (ProgressUpdate.upTo task.result.operationId
          task.result.total (taken.map Prod.fst)) := by
    change manager.Reports (collectResults _ _ _).operationId _
    rw [hId]
    exact hSent
  have hNext := reports_sendProgress hReports hSends
  change
    after.Reports (collectResults _ _ _).operationId _
      at hNext
  rw [hId] at hNext
  exact hNext

/- Storing the same counts keeps what was done. -/
theorem Progressed.store
    (hProgressed : Progressed manager task taken)
    {result : BatchResult}
    (phase : TaskPhase)
    (hId : result.operationId = task.result.operationId)
    (hTotal : result.total = task.result.total)
    (hAccounts : Accounts taken result) :
    Progressed (manager.updateResult result)
      { task with result := result, phase := phase }
      taken := by
  refine ⟨hTotal.trans hProgressed.total, hAccounts, ?_⟩
  dsimp only
  rw [hId, hTotal]
  exact hProgressed.sent

/- What the task goes on with is as it should be. -/
theorem sound_advance
    (now : DateTime)
    (hSound : task.Sound manager)
    (hKnown :
      manager.getStatus task.result.operationId ≠ none) :
    (task.advance now manager).1.Sound
      (task.advance now manager).2 := by
  unfold Sound at hSound
  unfold advance
  cases hPhase : task.phase with
  | spawned =>
      rw [hPhase] at hSound
      have hAccounts :
          Accounts [] (task.result.begun now) := by
        rcases hSound.accounts with
          ⟨hProcessed, hCounted, hFailed, hErrors⟩
        exact ⟨hProcessed, hCounted, hFailed, hErrors⟩
      exact hSound.store .started rfl rfl hAccounts
  | started =>
      rw [hPhase] at hSound
      dsimp only
      split
      · next hBeyond => exact hBeyond
      · refine ⟨[], ?_, Progressed.rephase hSound _⟩
        exact map_outcomeOf_spawnItems task manager.executor
  | collecting handles =>
      rw [hPhase] at hSound
      rcases hSound with ⟨taken, hAll, hTaken⟩
      cases handles with
      | nil =>
          have hEnds :
              taken = task.itemEnds manager.executor := by
            simpa using hAll
          subst hEnds
          have hAccounts :
              Accounts (task.itemEnds manager.executor)
                (task.result.concluded now) := by
            rcases hTaken.accounts with
              ⟨hProcessed, hCounted, hFailed, hErrors⟩
            exact ⟨hProcessed, hCounted, hFailed, hErrors⟩
          refine
            ⟨hTaken.store .ended rfl rfl hAccounts, rfl, ?_⟩
          dsimp only
          rw [BatchManager.getStatus_updateResult]
          rcases Option.ne_none_iff_exists'.mp hKnown with
            ⟨stored, hStored⟩
          have hId :
              (task.result.concluded now).operationId =
                task.result.operationId := rfl
          rw [hId, hStored]
          simp
      | cons handle rest =>
          have hWaits : task.Sound manager := by
            unfold Sound
            rw [hPhase]
            exact ⟨taken, hAll, hTaken⟩
          dsimp only
          split
          · split
            · next after hSends =>
                have hExecutor :=
                  (touches_sendProgress hSends).executor
                refine
                  ⟨taken ++ [outcomeOf handle], ?_,
                    hTaken.collect handle
                      (.collecting rest) hSends⟩
                rw [hExecutor, List.append_assoc]
                exact hAll
            · exact hWaits
          · exact hWaits
  | ended =>
      dsimp only
      unfold Sound
      rw [hPhase]
      rw [hPhase] at hSound
      exact hSound
  | panicked =>
      dsimp only
      unfold Sound
      rw [hPhase]
      rw [hPhase] at hSound
      exact hSound

/- Whatever a task does, it is as it should be. -/
theorem sound_act
    (action : TaskAction)
    (hSound : task.Sound manager)
    (hKnown :
      manager.getStatus task.result.operationId ≠ none) :
    (task.act action manager).1.Sound
      (task.act action manager).2 := by
  unfold act
  split
  · exact sound_advance _ hSound hKnown
  · next item handles hPhase =>
      unfold Sound at hSound
      rw [hPhase] at hSound
      rcases hSound with ⟨taken, hAll, hTaken⟩
      refine ⟨taken, ?_, hTaken.rephase _⟩
      rw [map_outcomeOf_acquireItem]
      exact hAll
  · next item handles hPhase =>
      unfold Sound at hSound
      rw [hPhase] at hSound
      rcases hSound with ⟨taken, hAll, hTaken⟩
      refine ⟨taken, ?_, hTaken.rephase _⟩
      rw [map_outcomeOf_finishItem]
      exact hAll
  · exact hSound

/- A task stays with its operation. -/
theorem act_frame
    (action : TaskAction)
    (task : BatchTask)
    (manager : BatchManager) :
    (task.act action manager).1.operation =
        task.operation ∧
      (task.act action manager).1.ends = task.ends ∧
      (task.act action manager).1.result.operationId =
        task.result.operationId := by
  unfold act
  split
  · unfold advance
    split
    · exact ⟨rfl, rfl, rfl⟩
    · split
      · exact ⟨rfl, rfl, rfl⟩
      · exact ⟨rfl, rfl, rfl⟩
    · exact ⟨rfl, rfl, rfl⟩
    · split
      · dsimp only
        split
        · refine ⟨rfl, rfl, ?_⟩
          dsimp only
          rw [collect_eq]
          exact (collectResults_frame _ _ task.result).1
        · exact ⟨rfl, rfl, rfl⟩
      · exact ⟨rfl, rfl, rfl⟩
    · exact ⟨rfl, rfl, rfl⟩
    · exact ⟨rfl, rfl, rfl⟩
  · exact ⟨rfl, rfl, rfl⟩
  · exact ⟨rfl, rfl, rfl⟩
  · exact ⟨rfl, rfl, rfl⟩

/- A task changes what is kept of its own operation only. -/
theorem touches_act
    (action : TaskAction)
    (task : BatchTask)
    (manager : BatchManager) :
    Touches task.result.operationId manager
      (task.act action manager).2 := by
  unfold act
  split
  · next now =>
      unfold advance
      split
      · exact
          touches_updateResult (task.result.begun now) manager
      · split
        · exact .refl _ manager
        · exact .refl _ manager
      · exact
          touches_updateResult (task.result.concluded now)
            manager
      · next handle rest hPhase =>
          split
          · have hId :
                ((task.operation.collect handle.stateId
                      handle.joined task.result).progress
                    handle.stateId).operationId =
                  task.result.operationId := by
              rw [collect_eq]
              exact
                (collectResults_frame handle.stateId
                  handle.joined task.result).1
            rw [← hId]
            dsimp only
            split
            · next after hSends =>
                exact touches_sendProgress hSends
            · exact .refl _ manager
          · exact .refl _ manager
      · exact .refl _ manager
      · exact .refl _ manager
  · exact .refl _ manager
  · exact .refl _ manager
  · exact .refl _ manager

end BatchTask

end IsaWorkspace
