import IsaWorkspace.Batch.Manager
import IsaWorkspace.Foundations.Runs

/-
  When a cancellation is final.

  A task stores its own copy of the result over whatever is
  stored.  The statuses that are observed go forward exactly
  as long as no task stores over a final status.

  Main declarations:
    * `BatchStatus.Precedes`
    * `BatchManager.getStatus_updateResult`
    * `BatchTask.storing`
    * `BatchSystem.GoesForward`, `goesForward_step`
    * `BatchSystem.CancelFinal`
    * `BatchSystem.cancelFinal_iff`
-/

------------------------------------------------------------
-- Statuses
------------------------------------------------------------

namespace IsaWorkspace

namespace BatchStatus

/- Pending, then running, then one of the others. -/
def stage : BatchStatus → Nat
| pending => 0
| running => 1
| completed | failed | cancelled => 2

/- A status that is for good. -/
def isFinal : BatchStatus → Bool
| pending | running => false
| completed | failed | cancelled => true

/- A status may be followed by the same or a later one. -/
def Precedes
    (earlier later : BatchStatus) : Prop :=
  earlier = later ∨ earlier.stage < later.stage

instance
    (earlier later : BatchStatus) :
    Decidable (earlier.Precedes later) :=
  inferInstanceAs
    (Decidable
      (earlier = later ∨ earlier.stage < later.stage))

variable {first second third : BatchStatus}

theorem Precedes.refl
    (status : BatchStatus) :
    status.Precedes status :=
  Or.inl rfl

theorem Precedes.trans
    (hFirst : first.Precedes second)
    (hSecond : second.Precedes third) :
    first.Precedes third := by
  rcases hFirst with rfl | hLess
  · exact hSecond
  · rcases hSecond with rfl | hMore
    · exact Or.inr hLess
    · exact Or.inr (hLess.trans hMore)

/- What a task stores follows all but other final ones. -/
theorem precedes_iff
    {earlier later : BatchStatus}
    (hLater : later ≠ .pending) :
    earlier.Precedes later ↔
      (earlier.isFinal = true → earlier = later) := by
  unfold Precedes
  cases earlier with
  | pending =>
      cases later with
      | pending => exact absurd rfl hLater
      | _ => decide
  | running =>
      cases later with
      | pending => exact absurd rfl hLater
      | _ => decide
  | completed => cases later with | _ => decide
  | failed => cases later with | _ => decide
  | cancelled => cases later with | _ => decide

/- Nothing but itself follows a cancellation. -/
theorem eq_of_cancelled_precedes
    {later : BatchStatus}
    (hLater : cancelled.Precedes later) :
    later = .cancelled := by
  rcases hLater with hSame | hLess
  · exact hSame.symm
  · cases later with
    | _ => exact absurd hLess (by decide)

end BatchStatus

------------------------------------------------------------
-- Stored Results
------------------------------------------------------------

namespace BatchManager

variable {manager : BatchManager}

/- What is read after a result has been stored. -/
theorem getStatus_updateResult
    (result : BatchResult)
    (operationId : String) :
    (manager.updateResult result).getStatus operationId =
      (manager.getStatus operationId).map fun found =>
        if result.operationId = operationId then result
        else found := by
  unfold getStatus updateResult
  rw [KeyedList.find_replace]
  congr 1
  funext found
  split
  · next hSame =>
      subst hSame
      have hFound :
          KeyedList.find (·.operationId) result.operationId
              [result] =
            some result :=
        KeyedList.find_cons_self result []
      rw [hFound]
      rfl
  · next hOther =>
      have hNone :
          KeyedList.find (·.operationId) operationId
              [result] =
            none :=
        KeyedList.find_cons_of_ne hOther []
      rw [hNone]
      rfl

/- A cancellation that succeeds is what is stored then. -/
theorem getStatus_cancel
    {operationId : String}
    {now : DateTime}
    (hCancelled :
      (manager.cancel operationId now).1 = true) :
    ((manager.cancel operationId now).2.getStatus
        operationId).map (·.status) =
      some .cancelled := by
  unfold cancel at hCancelled ⊢
  cases hFound : manager.getStatus operationId with
  | none =>
      rw [hFound] at hCancelled
      cases hCancelled
  | some result =>
      have hId : result.operationId = operationId :=
        (KeyedList.of_find hFound).2
      rw [hFound] at hCancelled
      dsimp only at hCancelled ⊢
      split at hCancelled
      · next hOpen =>
          rw [if_pos hOpen, getStatus_updateResult, hFound]
          simp [hId]
      · cases hCancelled

/- Sending an update does not change what is stored. -/
theorem operations_sendProgress
    {update : ProgressUpdate}
    {after : BatchManager}
    (hSent : manager.sendProgress update = some after) :
    after.operations = manager.operations := by
  unfold sendProgress at hSent
  split at hSent
  · cases hSent
    rfl
  · rcases Option.map_eq_some_iff.mp hSent with
      ⟨channel, _, rfl⟩
    rfl

end BatchManager

namespace BatchTask

/- The result that a step stores. -/
def storing
    (action : TaskAction)
    (task : BatchTask) : Option BatchResult :=
  match action, task.phase with
  | .advance now, .spawned => some (task.result.begun now)
  | .advance now, .collecting [] =>
      some (task.result.concluded now)
  | _, _ => none

/- A step changes the stored results by storing at most. -/
theorem operations_act
    (action : TaskAction)
    (task : BatchTask)
    (manager : BatchManager) :
    (act action task manager).2.operations =
      match storing action task with
      | some result =>
          (manager.updateResult result).operations
      | none => manager.operations := by
  rcases task with ⟨operation, ends, result, phase⟩
  cases action with
  | advance now =>
      cases phase with
      | spawned => rfl
      | started =>
          unfold act advance storing
          dsimp only
          split
          · rfl
          · rfl
      | collecting handles =>
          cases handles with
          | nil => rfl
          | cons handle rest =>
              unfold act advance storing
              dsimp only
              split
              · split
                · next after hSent =>
                    exact
                      BatchManager.operations_sendProgress
                        hSent
                · rfl
              · rfl
      | ended => rfl
      | panicked => rfl
  | acquire item => cases phase with | _ => rfl
  | finish item => cases phase with | _ => rfl

/- No task stores that its operation is pending. -/
theorem status_of_storing
    {action : TaskAction}
    {task : BatchTask}
    {result : BatchResult}
    (hStoring : storing action task = some result) :
    result.status ≠ .pending := by
  unfold storing at hStoring
  split at hStoring
  · cases hStoring
    exact nofun
  · cases hStoring
    unfold BatchResult.concluded
    dsimp only
    split
    · exact nofun
    · exact nofun
  · cases hStoring

end BatchTask

------------------------------------------------------------
-- Observed Statuses
------------------------------------------------------------

namespace BatchSystem

variable {system : BatchSystem}

/- The status that a query reports, if any. -/
def statusOf
    (system : BatchSystem)
    (operationId : String) : Option BatchStatus :=
  (system.shared.getStatus operationId).map (·.status)

/- What was reported once is followed by what is reported. -/
def GoesForward
    (first second : BatchSystem) : Prop :=
  ∀ operationId earlier,
    first.statusOf operationId = some earlier →
      ∃ later,
        second.statusOf operationId = some later ∧
          earlier.Precedes later

/- No task stores another status over a final one. -/
def KeepsFinal
    (system : BatchSystem) : BatchEvent → Prop
| .act position action =>
    ∀ task ∈ system.calls[position]?,
      ∀ result ∈ task.storing action,
        ∀ stored ∈
            system.shared.getStatus result.operationId,
          stored.status.isFinal = true →
            stored.status = result.status
| _ => True

theorem GoesForward.refl
    (system : BatchSystem) :
    system.GoesForward system := by
  intro operationId earlier hEarlier
  exact ⟨earlier, hEarlier, .refl earlier⟩

theorem GoesForward.trans
    {first second third : BatchSystem}
    (hFirst : first.GoesForward second)
    (hSecond : second.GoesForward third) :
    first.GoesForward third := by
  intro operationId earlier hEarlier
  rcases hFirst operationId earlier hEarlier with
    ⟨middle, hMiddle, hBefore⟩
  rcases hSecond operationId middle hMiddle with
    ⟨later, hLater, hAfter⟩
  exact ⟨later, hLater, hBefore.trans hAfter⟩

/- Where the same is stored, the same is reported. -/
theorem goesForward_of_operations
    {first second : BatchSystem}
    (hSame :
      second.shared.operations = first.shared.operations) :
    first.GoesForward second := by
  intro operationId earlier hEarlier
  refine ⟨earlier, ?_, .refl earlier⟩
  unfold statusOf BatchManager.getStatus
  rw [hSame]
  exact hEarlier

/- Storing a result goes forward if its status does. -/
theorem goesForward_updateResult
    {second : BatchSystem}
    {result : BatchResult}
    (hStored :
      second.shared.operations =
        (system.shared.updateResult result).operations) :
    system.GoesForward second ↔
      ∀ stored ∈ system.shared.getStatus result.operationId,
        stored.status.Precedes result.status := by
  have hStatus (operationId : String) :
      second.statusOf operationId =
        (system.shared.getStatus operationId).map
          fun found =>
            if result.operationId = operationId then
              result.status
            else
              found.status := by
    have hFound :
        (system.shared.updateResult result).getStatus
            operationId =
          _ :=
      BatchManager.getStatus_updateResult result operationId
    unfold statusOf BatchManager.getStatus at *
    rw [hStored, hFound, Option.map_map]
    congr 1
    funext found
    dsimp only [Function.comp_apply]
    split
    · rfl
    · rfl
  constructor
  · intro hForward stored hFound
    have hEarlier :
        system.statusOf result.operationId =
          some stored.status := by
      unfold statusOf
      rw [hFound]
      rfl
    rcases hForward _ _ hEarlier with
      ⟨later, hLater, hPrecedes⟩
    rw [hStatus, hFound] at hLater
    simp only [Option.map_some, if_pos] at hLater
    cases hLater
    exact hPrecedes
  · intro hPrecedes operationId earlier hEarlier
    rcases Option.map_eq_some_iff.mp hEarlier with
      ⟨stored, hFound, rfl⟩
    rw [hStatus, hFound]
    by_cases hSame : result.operationId = operationId
    · subst hSame
      exact
        ⟨result.status, by simp, hPrecedes stored hFound⟩
    · exact ⟨stored.status, by simp [hSame], .refl _⟩

/- A new operation is none that was reported. -/
theorem goesForward_execute
    (system : BatchSystem)
    (operation : BatchOperation)
    (uuid : String)
    (ends : Nat → JoinResult) :
    system.GoesForward
      (system.step (.execute operation uuid ends)) := by
  intro operationId earlier hEarlier
  refine ⟨earlier, ?_, .refl earlier⟩
  rcases Option.map_eq_some_iff.mp hEarlier with
    ⟨stored, hFound, rfl⟩
  unfold BatchManager.getStatus at hFound
  unfold step execute statusOf BatchManager.getStatus
  dsimp only
  rw [KeyedList.find_append, hFound]
  rfl

/- A task goes forward where it stores over nothing final. -/
theorem goesForward_act_iff
    (system : BatchSystem)
    (position : Nat)
    (action : TaskAction) :
    system.GoesForward
        (system.step (.act position action)) ↔
      system.KeepsFinal (.act position action) := by
  unfold KeepsFinal
  cases hCall : system.calls[position]? with
  | none =>
      constructor
      · intro _ task hTask
        rw [hCall] at hTask
        cases hTask
      · intro _
        unfold step
        dsimp only
        rw [Interleaved.step_of_none hCall]
        exact .refl system
  | some task =>
      have hShared :=
        (Interleaved.step_of_some (BatchTask.act action)
          hCall).1
      have hOperations :=
        BatchTask.operations_act action task system.shared
      rw [← hShared] at hOperations
      cases hStoring : task.storing action with
      | none =>
          rw [hStoring] at hOperations
          refine
            iff_of_true
              (goesForward_of_operations hOperations) ?_
          intro other hOther result hResult
          rw [hCall] at hOther
          cases hOther
          rw [hStoring] at hResult
          cases hResult
      | some result =>
          rw [hStoring] at hOperations
          have hWrites :=
            BatchTask.status_of_storing hStoring
          refine
            (goesForward_updateResult hOperations).trans ?_
          constructor
          · intro hPrecedes other hOther written hWritten
            rw [hCall] at hOther
            cases hOther
            rw [hStoring] at hWritten
            cases hWritten
            intro stored hFound
            exact
              (BatchStatus.precedes_iff hWrites).mp
                (hPrecedes stored hFound)
          · intro hKeeps stored hFound
            exact
              (BatchStatus.precedes_iff hWrites).mpr
                (hKeeps task hCall result hStoring stored
                  hFound)

/- Only what is not final yet is cancelled. -/
theorem goesForward_cancel
    (system : BatchSystem)
    (operationId : String)
    (now : DateTime) :
    system.GoesForward
      (system.step (.cancel operationId now)) := by
  unfold step BatchManager.cancel
  dsimp only
  cases hFound : system.shared.getStatus operationId with
  | none => exact .refl system
  | some result =>
      dsimp only
      split
      · next hOpen =>
          have hId : result.operationId = operationId :=
            (KeyedList.of_find hFound).2
          refine (goesForward_updateResult rfl).mpr ?_
          intro stored hStored
          dsimp only at hStored ⊢
          rw [hId, hFound] at hStored
          cases hStored
          have hWrites :
              BatchStatus.cancelled ≠ .pending := by
            decide
          refine (BatchStatus.precedes_iff hWrites).mpr ?_
          intro hFinal
          rcases hOpen with hPending | hRunning
          · rw [hPending] at hFinal
            cases hFinal
          · rw [hRunning] at hFinal
            cases hFinal
      · exact .refl system

/- A step goes forward unless a task stores over an end. -/
theorem goesForward_step
    (system : BatchSystem)
    (event : BatchEvent) :
    system.GoesForward (system.step event) ↔
      system.KeepsFinal event := by
  cases event with
  | execute operation uuid ends =>
      exact
        iff_of_true
          (goesForward_execute system operation uuid ends)
          trivial
  | act position action =>
      exact goesForward_act_iff system position action
  | cancel operationId now =>
      exact
        iff_of_true
          (goesForward_cancel system operationId now)
          trivial
  | getStatus operationId =>
      exact iff_of_true (.refl system) trivial
  | receive =>
      exact iff_of_true (goesForward_of_operations rfl) trivial
  | close =>
      exact iff_of_true (goesForward_of_operations rfl) trivial

------------------------------------------------------------
-- Along a Run
------------------------------------------------------------

/-
  A cancellation that succeeded is reported ever after, and
  all statuses that are observed follow each other.
-/
structure CancelFinal
    (initial : BatchSystem)
    (events : List BatchEvent) : Prop where
  stays :
    ∀ earlier later operationId now,
      earlier ++ .cancel operationId now :: later <+:
          events →
        ((Runs.run step initial earlier).shared.cancel
              operationId now).1 =
            true →
          (Runs.run step initial
                (earlier ++
                  .cancel operationId now ::
                    later)).statusOf
              operationId =
            some .cancelled
  follows :
    (Runs.trace step initial events).Pairwise GoesForward

/- What goes forward keeps a cancellation. -/
theorem stays_of_goesForward
    {initial : BatchSystem}
    {events : List BatchEvent}
    {operationId : String}
    (hCancelled :
      initial.statusOf operationId = some .cancelled)
    (hForward :
      (Runs.trace step initial events).Pairwise
        GoesForward) :
    (Runs.run step initial events).statusOf operationId =
      some .cancelled := by
  cases events with
  | nil => exact hCancelled
  | cons event rest =>
      have hLast :=
        Runs.of_pairwise_trace hForward
          (List.prefix_refl (event :: rest))
      rcases hLast operationId .cancelled hCancelled with
        ⟨later, hLater, hPrecedes⟩
      rw [BatchStatus.eq_of_cancelled_precedes hPrecedes]
        at hLater
      exact hLater

/-
  Cancellations are final in a run exactly if no task stores
  over a final status.
-/
theorem cancelFinal_iff
    (maxConcurrent : Nat)
    (executor : Bool)
    (progress : Option { capacity : Nat // 0 < capacity })
    (events : List BatchEvent) :
    CancelFinal (start maxConcurrent executor progress)
        events ↔
      Runs.AlongRun step KeepsFinal
        (start maxConcurrent executor progress) events := by
  constructor
  · intro hFinal
    have hForward :=
      Runs.alongRun_of_pairwise_trace hFinal.follows
    exact
      hForward.mono fun state event hStep =>
        (goesForward_step state event).mp hStep
  · intro hKeeps
    have hForward :
        Runs.AlongRun step
          (fun state event =>
            GoesForward state (step state event))
          (start maxConcurrent executor progress) events :=
      hKeeps.mono fun state event hStep =>
        (goesForward_step state event).mpr hStep
    constructor
    · intro earlier later operationId now hPrefix hCancelled
      rcases hPrefix with ⟨rest, rfl⟩
      have hLater :=
        (Runs.alongRun_append.mp
          (Runs.alongRun_append.mp hForward).1).2.2
      rw [Runs.run_append, Runs.run_cons]
      apply stays_of_goesForward
      · exact BatchManager.getStatus_cancel hCancelled
      · exact
          Runs.pairwise_trace
            (fun _ _ _ hFirst hSecond =>
              hFirst.trans hSecond)
            hLater
    · exact
        Runs.pairwise_trace
          (fun _ _ _ hFirst hSecond => hFirst.trans hSecond)
          hForward

------------------------------------------------------------
-- Sample Runs
------------------------------------------------------------

/- A deletion is cancelled before its task begins. -/
def cancelledEarly : List BatchEvent :=
  [.execute (.delete [⟨"state"⟩]) "batch" fun _ =>
      .ok (.ok ()),
    .cancel "batch" DateTime.unixEpoch,
    .act 0 (.advance DateTime.unixEpoch)]

/- The task stores that the operation is running. -/
theorem cancelFinal_cancelledEarly :
    ((Runs.run step (start 1 false none)
              [cancelledEarly[0]]).shared.cancel "batch"
          DateTime.unixEpoch).1 =
        true ∧
      (Runs.run step (start 1 false none)
            cancelledEarly).statusOf "batch" =
          some .running ∧
      ¬ CancelFinal (start 1 false none)
          cancelledEarly := by
  have hRunning :
      (Runs.run step (start 1 false none)
            cancelledEarly).statusOf "batch" =
        some .running := by
    decide +kernel
  have hCancelled :
      ((Runs.run step (start 1 false none)
                [cancelledEarly[0]]).shared.cancel "batch"
            DateTime.unixEpoch).1 =
          true := by
    decide +kernel
  refine ⟨hCancelled, hRunning, ?_⟩
  intro hFinal
  have hStays :=
    hFinal.stays [cancelledEarly[0]]
      [.act 0 (.advance DateTime.unixEpoch)] "batch"
      DateTime.unixEpoch (List.prefix_refl _) hCancelled
  have hSame :
      [cancelledEarly[0]] ++
          .cancel "batch" DateTime.unixEpoch ::
            [.act 0 (.advance DateTime.unixEpoch)] =
        cancelledEarly := rfl
  rw [hSame, hRunning] at hStays
  cases hStays

end BatchSystem

end IsaWorkspace
