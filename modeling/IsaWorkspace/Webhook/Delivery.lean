import IsaWorkspace.Foundations.Runs
import IsaWorkspace.Webhook.Manager

/-
  Delivery records after their tasks.

  A task writes its record back into the list that a helper
  returns, and that list is a new one each time.  What it
  writes is right, but the record of the manager stays as it
  was before the first attempt.

  Main declarations:
    * `SettledAs`, `WebhookSystem.Settled`
    * `DeliveryTask.Copied`, `WebhookSystem.copied_run`
    * `WebhookSystem.Tracked`, `tracked_step`
    * `WebhookSystem.settled_iff_noneEnded`
    * `WebhookSystem.settled_iff`
    * `WebhookSystem.FansOut`, `WebhookSystem.fansOut_run`
-/

------------------------------------------------------------
-- Final Records
------------------------------------------------------------

namespace IsaWorkspace

/-
  A record as the attempts made leave it: delivered by the
  first that succeeded, or failed after so many retries.
-/
def SettledAs
    (maxRetries : Nat)
    (outcomes : List AttemptOutcome)
    (record : DeliveryRecord) : Prop :=
  match
    (outcomes.take maxRetries).findIdx? fun outcome =>
      outcome.error?.isNone with
  | some index =>
      record.status = .delivered ∧
        record.attempts = index + 1
  | none =>
      (∃ lastError,
          record.status = .failed maxRetries lastError) ∧
        record.attempts = maxRetries

namespace DeliveryTask

/-
  The copy of a task: it has failed in its attempts so far,
  or it is as it should be in the end.
-/
def Copied
    (maxRetries : Nat)
    (task : DeliveryTask) : Prop :=
  match task.status with
  | .running =>
      task.outcomes.length + 1 = task.attempt ∧
        task.attempt ≤ maxRetries ∧
          ∀ outcome ∈ task.outcomes,
            outcome.error?.isNone = false
  | .ended =>
      SettledAs maxRetries task.outcomes task.delivery
  | .panicked => True

variable [BuildProfile]
variable {maxRetries : Nat} {baseDelayMs : UInt64}
variable {outcome : AttemptOutcome} {now : DateTime}
variable {heap : SharedLists} {task : DeliveryTask}

/- An attempt keeps the copy right. -/
theorem Copied.attemptOnce
    (hCopied : task.Copied maxRetries)
    (hRunning : task.status = .running) :
    (task.attemptOnce maxRetries baseDelayMs outcome now
      heap).1.Copied maxRetries := by
  unfold Copied at hCopied
  rw [hRunning] at hCopied
  rcases hCopied with ⟨hLength, hRange, hFailed⟩
  have hNone :
      (task.outcomes.findIdx? fun outcome =>
          outcome.error?.isNone) =
        none :=
    List.findIdx?_eq_none_iff.mpr hFailed
  have hTake :
      (task.outcomes ++ [outcome]).take maxRetries =
        task.outcomes ++ [outcome] := by
    apply List.take_of_length_le
    rw [List.length_append, List.length_singleton]
    omega
  unfold DeliveryTask.attemptOnce
  cases delayMs baseDelayMs task.attempt with
  | none => trivial
  | some delay =>
      cases hError : outcome.error? with
      | none =>
          change SettledAs maxRetries _ _
          unfold SettledAs
          rw [hTake, List.findIdx?_append, hNone]
          simp [hError, hLength]
      | some lastError =>
          dsimp only
          by_cases hMore : task.attempt < maxRetries
          · rw [if_pos hMore]
            unfold Copied
            dsimp only
            rw [hRunning]
            refine ⟨?_, hMore, ?_⟩
            · rw [List.length_append, List.length_singleton,
                hLength]
            · intro other hOther
              rcases List.mem_append.mp hOther with
                hEarlier | hLast
              · exact hFailed other hEarlier
              · rw [List.mem_singleton.mp hLast, hError]
                rfl
          · rw [if_neg hMore]
            have hLast : task.attempt = maxRetries := by
              omega
            change SettledAs maxRetries _ _
            unfold SettledAs
            rw [hTake, List.findIdx?_append, hNone]
            simp [hError, hLast]

/- An attempt leaves the id of its record. -/
theorem id_attemptOnce :
    (task.attemptOnce maxRetries baseDelayMs outcome now
        heap).1.delivery.id =
      task.delivery.id := by
  unfold DeliveryTask.attemptOnce
  split
  · rfl
  · split
    · rfl
    · split
      · rfl
      · rfl

/- Which attempts end a task. -/
theorem ended_attemptOnce_iff
    (hRunning : task.status = .running) :
    (task.attemptOnce maxRetries baseDelayMs outcome now
          heap).1.status =
        .ended ↔
      delayMs baseDelayMs task.attempt ≠ none ∧
        (outcome.error? = none ∨
          maxRetries ≤ task.attempt) := by
  unfold DeliveryTask.attemptOnce
  cases delayMs baseDelayMs task.attempt with
  | none =>
      exact
        iff_of_false (fun hEnded => by cases hEnded)
          fun hBoth => hBoth.1 rfl
  | some delay =>
      rw [and_iff_right (Option.some_ne_none _)]
      cases outcome.error? with
      | none => exact iff_of_true rfl (Or.inl rfl)
      | some lastError =>
          dsimp only
          by_cases hMore : task.attempt < maxRetries
          · rw [if_pos hMore, hRunning]
            refine iff_of_false (fun hEnded => ?_) ?_
            · cases hEnded
            · rintro (hNone | hLast)
              · cases hNone
              · omega
          · rw [if_neg hMore]
            exact
              iff_of_true rfl
                (Or.inr (Nat.le_of_not_lt hMore))

end DeliveryTask

------------------------------------------------------------
-- Shared Lists
------------------------------------------------------------

namespace SharedLists

variable {address : Nat}

/- Writing back changes no list that anyone has. -/
theorem getElem?_writeBack
    (heap : SharedLists)
    (delivery : DeliveryRecord)
    (hAddress : address < heap.length) :
    (writeBack heap delivery)[address]? = heap[address]? := by
  have hOther : heap.length ≠ address :=
    Nat.ne_of_gt hAddress
  unfold writeBack getDeliveries
  dsimp only
  rw [List.getElem?_modify]
  simp only [if_neg hOther]
  rw [List.getElem?_append_left hAddress]
  exact Option.map_id'

theorem length_writeBack
    (heap : SharedLists)
    (delivery : DeliveryRecord) :
    heap.length ≤ (writeBack heap delivery).length := by
  unfold writeBack getDeliveries
  dsimp only
  rw [List.length_modify, List.length_append]
  exact Nat.le_add_right _ _

variable [BuildProfile]

/- Neither does an attempt. -/
theorem getElem?_attemptOnce
    (maxRetries : Nat)
    (baseDelayMs : UInt64)
    (outcome : AttemptOutcome)
    (now : DateTime)
    (heap : SharedLists)
    (task : DeliveryTask)
    (hAddress : address < heap.length) :
    (task.attemptOnce maxRetries baseDelayMs outcome now
          heap).2[address]? =
        heap[address]? ∧
      address <
        (task.attemptOnce maxRetries baseDelayMs outcome now
          heap).2.length := by
  have hOnce :
      ∀ delivery,
        (writeBack heap delivery)[address]? =
            heap[address]? ∧
          address < (writeBack heap delivery).length :=
    fun delivery =>
      ⟨getElem?_writeBack heap delivery hAddress,
        Nat.lt_of_lt_of_le hAddress
          (length_writeBack heap delivery)⟩
  unfold DeliveryTask.attemptOnce
  split
  · exact ⟨rfl, hAddress⟩
  · split
    · exact hOnce _
    · next lastError _ =>
        rcases
            hOnce
              { task.delivery with
                attempts := task.attempt
                status := .failed task.attempt lastError }
          with ⟨hSame, hInside⟩
        split
        · exact ⟨hSame, hInside⟩
        · exact
            ⟨(getElem?_writeBack _ _ hInside).trans hSame,
              Nat.lt_of_lt_of_le hInside
                (length_writeBack _ _)⟩

end SharedLists

------------------------------------------------------------
-- Records of the Manager
------------------------------------------------------------

namespace WebhookSystem

/-
  Once a task has ended, its record is in the history and as
  the attempts of the task leave it.
-/
def Settled
    (system : WebhookSystem) : Prop :=
  ∀ task ∈ system.tasks,
    task.status = .ended →
      (∃ record ∈ system.history,
          record.id = task.delivery.id) ∧
        ∀ record ∈ system.history,
          record.id = task.delivery.id →
            SettledAs system.manager.maxRetries
              task.outcomes record

/- No task has ended. -/
def NoneEnded
    (system : WebhookSystem) : Prop :=
  ∀ task ∈ system.tasks, task.status ≠ .ended

/-
  The list of the manager is there, and has a record for each
  task that nothing has happened to.
-/
structure Tracked
    (system : WebhookSystem) : Prop where
  retries : 0 < system.manager.maxRetries
  address : system.manager.deliveries < system.heap.length
  pending :
    ∀ task ∈ system.tasks,
      ∃ record ∈ system.history,
        record.id = task.delivery.id ∧
          record.status = .pending

variable {system : WebhookSystem}

/- A record that is pending is not as it should be. -/
theorem not_settledAs_pending
    {maxRetries : Nat}
    {outcomes : List AttemptOutcome}
    {record : DeliveryRecord}
    (hPending : record.status = .pending) :
    ¬ SettledAs maxRetries outcomes record := by
  unfold SettledAs
  split
  · rintro ⟨hDelivered, _⟩
    rw [hPending] at hDelivered
    cases hDelivered
  · rintro ⟨⟨lastError, hFailed⟩, _⟩
    rw [hPending] at hFailed
    cases hFailed

theorem settled_iff_noneEnded
    (hTracked : system.Tracked) :
    system.Settled ↔ system.NoneEnded := by
  constructor
  · intro hSettled task hTask hEnded
    rcases hTracked.pending task hTask with
      ⟨record, hRecord, hId, hPending⟩
    exact
      not_settledAs_pending hPending
        ((hSettled task hTask hEnded).2 record hRecord hId)
  · intro hNone task hTask hEnded
    exact absurd hEnded (hNone task hTask)

/- A delivery that is started adds its record and its task. -/
theorem startDelivery_eq
    (hTracked : system.Tracked)
    (endpoint : WebhookEndpoint)
    (event : WebhookEvent)
    (id : String)
    (now : DateTime) :
    (system.startDelivery endpoint event id now).history =
        system.history ++ [newRecord id endpoint event now] ∧
      (system.startDelivery endpoint event id now).tasks =
        system.tasks ++
          [{ endpoint := endpoint
             event := event
             delivery := newRecord id endpoint event now
             attempt := 1
             status := .running
             outcomes := [] }] ∧
        (system.startDelivery endpoint event id
              now).manager =
            system.manager ∧
          system.manager.deliveries <
            (system.startDelivery endpoint event id
              now).heap.length := by
  unfold startDelivery
  dsimp only
  rw [if_pos hTracked.retries]
  refine ⟨?_, rfl, rfl, ?_⟩
  · unfold history
    dsimp only
    rw [List.getElem?_modify_eq,
      List.getElem?_eq_getElem hTracked.address]
    rfl
  · exact
      Nat.lt_of_lt_of_eq hTracked.address
        (List.length_modify _ _ _).symm

/- Notifying an endpoint starts a delivery, if there is one. -/
theorem notifyNext_cases
    (hTracked : system.Tracked)
    (sender : Nat)
    (id : String)
    (now : DateTime) :
    system.notifyNext sender id now = system ∨
      ∃ endpoint event,
        (system.notifyNext sender id now).history =
            system.history ++
              [newRecord id endpoint event now] ∧
          (system.notifyNext sender id now).tasks =
            system.tasks ++
              [{ endpoint := endpoint
                 event := event
                 delivery := newRecord id endpoint event now
                 attempt := 1
                 status := .running
                 outcomes := [] }] ∧
            (system.notifyNext sender id now).manager =
                system.manager ∧
              system.manager.deliveries <
                (system.notifyNext sender id
                  now).heap.length := by
  unfold notifyNext
  split
  · next event endpoint rest _ =>
      exact
        Or.inr
          ⟨endpoint, event,
            startDelivery_eq hTracked endpoint event id now⟩
  · exact Or.inl rfl

variable [BuildProfile]

/- What an attempt makes of the task it is made by. -/
def attempted
    (system : WebhookSystem)
    (outcome : AttemptOutcome)
    (now : DateTime)
    (task : DeliveryTask) : DeliveryTask :=
  if task.status = .running then
    (task.attemptOnce system.manager.maxRetries
      system.manager.baseDelayMs outcome now system.heap).1
  else
    task

/- An attempt changes its task, and no record. -/
theorem attempt_eq
    (hTracked : system.Tracked)
    (index : Nat)
    (outcome : AttemptOutcome)
    (now : DateTime) :
    (system.attempt index outcome now).history =
        system.history ∧
      (system.attempt index outcome now).tasks =
          system.tasks.modify index
            (system.attempted outcome now) ∧
        (system.attempt index outcome now).manager =
            system.manager ∧
          system.manager.deliveries <
            (system.attempt index outcome
              now).heap.length := by
  unfold attempt
  cases hTask : system.tasks[index]? with
  | none =>
      refine ⟨rfl, ?_, rfl, hTracked.address⟩
      apply List.ext_getElem?
      intro other
      rw [List.getElem?_modify]
      by_cases hOther : index = other
      · rw [← hOther, hTask]
        rfl
      · simp only [if_neg hOther]
        exact Option.map_id'.symm
  | some task =>
      have hModify :
          ∀ after,
            system.attempted outcome now task = after →
              system.tasks.set index after =
                system.tasks.modify index
                  (system.attempted outcome now) := by
        intro after hAfter
        apply List.ext_getElem?
        intro other
        rw [List.getElem?_modify, List.getElem?_set]
        have hInside : index < system.tasks.length :=
          (List.getElem?_eq_some_iff.mp hTask).1
        by_cases hOther : index = other
        · rw [if_pos hOther, if_pos hInside, ← hOther, hTask]
          simp [hAfter]
        · simp only [if_neg hOther]
          exact Option.map_id'.symm
      dsimp only
      by_cases hRunning : task.status = .running
      · rw [if_pos hRunning]
        rcases SharedLists.getElem?_attemptOnce
            system.manager.maxRetries
            system.manager.baseDelayMs outcome now
            system.heap task hTracked.address with
          ⟨hSame, hInside⟩
        refine
          ⟨congrArg (Option.getD · []) hSame,
            hModify _ (if_pos hRunning), rfl, hInside⟩
      · rw [if_neg hRunning]
        refine ⟨rfl, ?_, rfl, hTracked.address⟩
        rcases List.getElem?_eq_some_iff.mp hTask with
          ⟨hInside, hSame⟩
        rw [← hModify task (if_neg hRunning), ← hSame,
          List.set_getElem_self]

/- What holds of all tasks is kept where their own is. -/
omit [BuildProfile] in
theorem forall_mem_modify
    {P : DeliveryTask → Prop}
    {tasks : List DeliveryTask}
    {index : Nat}
    {change : DeliveryTask → DeliveryTask}
    (hChange :
      ∀ task, tasks[index]? = some task →
        P task → P (change task))
    (hAll : ∀ task ∈ tasks, P task) :
    ∀ task ∈ tasks.modify index change, P task := by
  intro task hTask
  rcases List.mem_iff_getElem?.mp hTask with
    ⟨other, hOther⟩
  rw [List.getElem?_modify] at hOther
  rcases Option.map_eq_some_iff.mp hOther with
    ⟨earlier, hEarlier, rfl⟩
  have hBefore : P earlier :=
    hAll earlier (List.mem_of_getElem? hEarlier)
  by_cases hSame : index = other
  · simp only [if_pos hSame]
    exact hChange earlier (hSame ▸ hEarlier) hBefore
  · simp only [if_neg hSame]
    exact hBefore

/- Every step keeps the manager's records where they are. -/
theorem tracked_step
    (step : WebhookStep)
    (hTracked : system.Tracked) :
    (system.step step).Tracked := by
  cases step with
  | addEndpoint endpoint =>
      exact
        ⟨hTracked.retries, hTracked.address,
          hTracked.pending⟩
  | removeEndpoint endpointId =>
      exact
        ⟨hTracked.retries, hTracked.address,
          hTracked.pending⟩
  | sendEvent event =>
      exact
        ⟨hTracked.retries, hTracked.address,
          hTracked.pending⟩
  | notifyNext sender id now =>
      change (system.notifyNext sender id now).Tracked
      rcases notifyNext_cases hTracked sender id now with
        hSame | ⟨endpoint, event, hHistory, hTasks,
          hManager, hAddress⟩
      · rw [hSame]
        exact hTracked
      · constructor
        · exact hManager ▸ hTracked.retries
        · exact hManager ▸ hAddress
        · intro task hTask
          rw [hTasks] at hTask
          rw [hHistory]
          rcases List.mem_append.mp hTask with
            hEarlier | hNew
          · rcases hTracked.pending task hEarlier with
              ⟨record, hRecord, hBoth⟩
            exact
              ⟨record, List.mem_append_left _ hRecord,
                hBoth⟩
          · rw [List.mem_singleton.mp hNew]
            exact
              ⟨_, List.mem_append_right _
                List.mem_cons_self, rfl, rfl⟩
  | attempt index outcome now =>
      rcases attempt_eq hTracked index outcome now with
        ⟨hHistory, hTasks, hManager, hAddress⟩
      change (system.attempt index outcome now).Tracked
      constructor
      · exact hManager ▸ hTracked.retries
      · exact hManager ▸ hAddress
      · rw [hHistory, hTasks]
        apply forall_mem_modify ?_ hTracked.pending
        intro task _ hPending
        unfold attempted
        split
        · rw [DeliveryTask.id_attemptOnce]
          exact hPending
        · exact hPending

------------------------------------------------------------
-- Tasks That End
------------------------------------------------------------

/-
  An attempt does not end its task: it fails, and it is not
  the last one, or its delay panics.
-/
def NoneEnds
    (system : WebhookSystem) : WebhookStep → Prop
| .attempt index outcome _ =>
    ∀ task,
      system.tasks[index]? = some task →
        task.status = .running →
          delayMs system.manager.baseDelayMs task.attempt ≠
              none →
            outcome.error? ≠ none ∧
              task.attempt < system.manager.maxRetries
| .addEndpoint _ => True
| .removeEndpoint _ => True
| .sendEvent _ => True
| .notifyNext _ _ _ => True

/- An attempt leaves all records but its own as they are. -/
def OthersUnchanged
    (system : WebhookSystem) : WebhookStep → Prop
| .attempt index outcome now =>
    ∀ task,
      system.tasks[index]? = some task →
        ((system.attempt index outcome
            now).history.filter fun record =>
              record.id ≠ task.delivery.id) =
          system.history.filter fun record =>
            record.id ≠ task.delivery.id
| .addEndpoint _ => True
| .removeEndpoint _ => True
| .sendEvent _ => True
| .notifyNext _ _ _ => True

/- A delivery that is started has not ended. -/
omit [BuildProfile] in
theorem noneEnded_notifyNext
    (hTracked : system.Tracked)
    (hNone : system.NoneEnded)
    (sender : Nat)
    (id : String)
    (now : DateTime) :
    (system.notifyNext sender id now).NoneEnded := by
  rcases notifyNext_cases hTracked sender id now with
    hSame | ⟨endpoint, event, _, hTasks, _, _⟩
  · rw [hSame]
    exact hNone
  · intro task hTask
    rw [hTasks] at hTask
    rcases List.mem_append.mp hTask with hEarlier | hNew
    · exact hNone task hEarlier
    · rw [List.mem_singleton.mp hNew]
      exact fun hEnded => by cases hEnded

/- What an attempt has to be like to end its task. -/
theorem attempted_ended_iff
    {outcome : AttemptOutcome}
    {now : DateTime}
    {task : DeliveryTask}
    (hRunning : task.status = .running) :
    (system.attempted outcome now task).status ≠ .ended ↔
      (delayMs system.manager.baseDelayMs task.attempt ≠
          none →
        outcome.error? ≠ none ∧
          task.attempt < system.manager.maxRetries) := by
  unfold attempted
  rw [if_pos hRunning, ne_eq,
    DeliveryTask.ended_attemptOnce_iff hRunning, not_and,
    not_or, Nat.not_le]

/- The condition decides whether an attempt ends its task. -/
theorem noneEnded_attempt_iff
    (hTracked : system.Tracked)
    (hNone : system.NoneEnded)
    (index : Nat)
    (outcome : AttemptOutcome)
    (now : DateTime) :
    (system.attempt index outcome now).NoneEnded ↔
      system.NoneEnds (.attempt index outcome now) := by
  rcases attempt_eq hTracked index outcome now with
    ⟨_, hTasks, _, _⟩
  constructor
  · intro hAfter task hTask hRunning
    refine
      (attempted_ended_iff hRunning).mp
        (hAfter (system.attempted outcome now task) ?_)
    rw [hTasks]
    apply List.mem_iff_getElem?.mpr
    refine ⟨index, ?_⟩
    rw [List.getElem?_modify, hTask]
    simp
  · intro hCondition task hTask
    rw [hTasks] at hTask
    refine forall_mem_modify ?_ hNone task hTask
    intro found hFound hNotEnded
    by_cases hRunning : found.status = .running
    · exact
        (attempted_ended_iff hRunning).mpr
          (hCondition found hFound hRunning)
    · unfold attempted
      rw [if_neg hRunning]
      exact hNotEnded

/- The condition decides whether a task ends. -/
theorem noneEnded_step_iff
    (step : WebhookStep)
    (hTracked : system.Tracked)
    (hNone : system.NoneEnded) :
    (system.step step).NoneEnded ↔ system.NoneEnds step := by
  cases step with
  | addEndpoint endpoint => exact iff_of_true hNone trivial
  | removeEndpoint endpointId =>
      exact iff_of_true hNone trivial
  | sendEvent event => exact iff_of_true hNone trivial
  | notifyNext sender id now =>
      exact
        iff_of_true
          (noneEnded_notifyNext hTracked hNone sender id now)
          trivial
  | attempt index outcome now =>
      exact
        noneEnded_attempt_iff hTracked hNone index outcome now

/- No attempt changes a record, its own included. -/
theorem othersUnchanged_step
    (step : WebhookStep)
    (hTracked : system.Tracked) :
    system.OthersUnchanged step := by
  cases step with
  | attempt index outcome now =>
      intro task _
      rw [(attempt_eq hTracked index outcome now).1]
  | addEndpoint endpoint => trivial
  | removeEndpoint endpointId => trivial
  | sendEvent event => trivial
  | notifyNext sender id now => trivial

------------------------------------------------------------
-- Runs
------------------------------------------------------------

omit [BuildProfile] in
theorem tracked_new
    {maxRetries : Nat}
    (hRetries : 1 ≤ maxRetries)
    (baseDelayMs : UInt64) :
    (new maxRetries baseDelayMs).Tracked where
  retries := hRetries
  address := Nat.one_pos
  pending := fun _ hTask => nomatch hTask

/- The copies of all tasks are right. -/
def Copies
    (system : WebhookSystem) : Prop :=
  ∀ task ∈ system.tasks,
    task.Copied system.manager.maxRetries

theorem copies_step
    (step : WebhookStep)
    (hTracked : system.Tracked)
    (hCopies : system.Copies) :
    (system.step step).Copies := by
  cases step with
  | addEndpoint endpoint => exact hCopies
  | removeEndpoint endpointId => exact hCopies
  | sendEvent event => exact hCopies
  | notifyNext sender id now =>
      change (system.notifyNext sender id now).Copies
      rcases notifyNext_cases hTracked sender id now with
        hSame | ⟨endpoint, event, _, hTasks, hManager, _⟩
      · rw [hSame]
        exact hCopies
      · unfold Copies
        rw [hTasks, hManager]
        intro task hTask
        rcases List.mem_append.mp hTask with
          hEarlier | hNew
        · exact hCopies task hEarlier
        · rw [List.mem_singleton.mp hNew]
          exact
            ⟨rfl, hTracked.retries,
              fun _ hOutcome => nomatch hOutcome⟩
  | attempt index outcome now =>
      rcases attempt_eq hTracked index outcome now with
        ⟨_, hTasks, hManager, _⟩
      change (system.attempt index outcome now).Copies
      unfold Copies
      rw [hTasks, hManager]
      refine forall_mem_modify ?_ hCopies
      intro task _ hCopied
      unfold attempted
      split
      · next hRunning => exact hCopied.attemptOnce hRunning
      · exact hCopied

/-
  In every run, what a task has come to in the end is right;
  it is only written into a list that nobody has.
-/
theorem copies_run
    {maxRetries : Nat}
    (hRetries : 1 ≤ maxRetries)
    (baseDelayMs : UInt64)
    (steps : List WebhookStep) :
    (Runs.run step (new maxRetries baseDelayMs)
      steps).Copies := by
  have hStep :
      ∀ (system : WebhookSystem) step,
        system.Tracked ∧ system.Copies →
          (system.step step).Tracked ∧
            (system.step step).Copies :=
    fun _ step hBoth =>
      ⟨tracked_step step hBoth.1,
        copies_step step hBoth.1 hBoth.2⟩
  have hRun :=
    Runs.run_of_invariant hStep steps
      ⟨tracked_new hRetries baseDelayMs,
        fun _ hTask => nomatch hTask⟩
  exact hRun.2

/-
  In every run records are changed by no other task than
  their own, and they are settled when their tasks end
  exactly as long as no task ends.
-/
theorem settled_iff
    {maxRetries : Nat}
    (hRetries : 1 ≤ maxRetries)
    (baseDelayMs : UInt64)
    (steps : List WebhookStep) :
    Runs.AlongRun step OthersUnchanged
        (new maxRetries baseDelayMs) steps ∧
      (Runs.Throughout step Settled
          (new maxRetries baseDelayMs) steps ↔
        Runs.AlongRun step NoneEnds
          (new maxRetries baseDelayMs) steps) := by
  have hTracked := tracked_new hRetries baseDelayMs
  have hStep :
      ∀ (system : WebhookSystem) step,
        system.Tracked → (system.step step).Tracked :=
    fun _ step hTracked => tracked_step step hTracked
  constructor
  · have hAny :
        Runs.AlongRun step (fun _ _ => True)
          (new maxRetries baseDelayMs) steps :=
      Runs.alongRun_of_forall_mem fun _ _ _ => trivial
    exact
      Runs.alongRun_of_invariant
        (fun system step hTracked _ =>
          hStep system step hTracked)
        (fun _ step hTracked _ =>
          othersUnchanged_step step hTracked)
        hTracked hAny
  · apply
      Runs.throughout_iff_alongRun_of_invariant hStep ?_
        hTracked
    · exact fun _ hTask => nomatch hTask
    · intro system step hTracked hSettled
      rw [settled_iff_noneEnded (hStep system step hTracked)]
      exact
        noneEnded_step_iff step hTracked
          ((settled_iff_noneEnded hTracked).mp hSettled)

end WebhookSystem

end IsaWorkspace

------------------------------------------------------------
-- Notifications
------------------------------------------------------------

namespace IsaWorkspace

/- What delivers which event to which endpoint. -/
abbrev Notification : Type :=
  WebhookEvent × WebhookEndpoint

def DeliveryTask.notification
    (task : DeliveryTask) : Notification :=
  (task.event, task.endpoint)

namespace WebhookSystem

/- The notifications that a step has to bring about. -/
def notifies
    (system : WebhookSystem) :
    WebhookStep → List Notification
| .sendEvent event =>
    (system.manager.endpoints.filter fun endpoint =>
      endpoint.active &&
        endpoint.listensTo event.eventType).map fun endpoint =>
          (event, endpoint)
| .addEndpoint _ | .removeEndpoint _ | .notifyNext _ _ _
| .attempt _ _ _ => []

/- The notifications that have a task. -/
def started
    (system : WebhookSystem) : List Notification :=
  system.tasks.map DeliveryTask.notification

/- The notifications that calls still have to start. -/
def toStart
    (system : WebhookSystem) : List Notification :=
  system.senders.flatMap fun sender =>
    sender.2.map fun endpoint => (sender.1, endpoint)

/-
  Every notification that is due has one task, or it is
  still to be started, and no other has.
-/
def Notified
    (due : List Notification)
    (system : WebhookSystem) : Prop :=
  (system.started ++ system.toStart).Perm due

/- Every notification that is started has one record. -/
def Recorded
    (system : WebhookSystem) : Prop :=
  system.history.map (fun record =>
      (record.event, record.endpointId)) =
    system.started.map fun notification =>
      (notification.1, notification.2.id)

/- No record says what has become of its delivery. -/
def AllPending
    (system : WebhookSystem) : Prop :=
  ∀ record ∈ system.history, record.status = .pending

variable [BuildProfile]
variable {system : WebhookSystem}
variable {due : List Notification}

/- An attempt is for the same notification as its task. -/
theorem notification_attempted
    (system : WebhookSystem)
    (outcome : AttemptOutcome)
    (now : DateTime)
    (task : DeliveryTask) :
    (system.attempted outcome now task).notification =
      task.notification := by
  unfold attempted DeliveryTask.attemptOnce
  split
  · split
    · rfl
    · dsimp only
      split
      · rfl
      · split <;> rfl
  · rfl

theorem started_attempt
    (hTracked : system.Tracked)
    (index : Nat)
    (outcome : AttemptOutcome)
    (now : DateTime) :
    (system.attempt index outcome now).started =
      system.started := by
  have hTasks := (attempt_eq hTracked index outcome now).2.1
  unfold started
  rw [hTasks]
  apply List.ext_getElem?
  intro other
  rw [List.getElem?_map, List.getElem?_map,
    List.getElem?_modify]
  cases system.tasks[other]? with
  | none => rfl
  | some task =>
      by_cases hOther : index = other
      · simp only [if_pos hOther]
        exact
          congrArg some
            (notification_attempted system outcome now task)
      · simp only [if_neg hOther]
        rfl

theorem senders_attempt
    (system : WebhookSystem)
    (index : Nat)
    (outcome : AttemptOutcome)
    (now : DateTime) :
    (system.attempt index outcome now).senders =
      system.senders := by
  unfold attempt
  split
  · dsimp only
    split <;> rfl
  · rfl

omit [BuildProfile] in
/- The next endpoint of a call goes over to the tasks. -/
theorem notified_notifyNext
    (hTracked : system.Tracked)
    (hNotified : system.Notified due)
    (sender : Nat)
    (id : String)
    (now : DateTime) :
    (system.notifyNext sender id now).Notified due := by
  unfold notifyNext
  split
  · next event endpoint rest hSender =>
      have hTasks :=
        (startDelivery_eq hTracked endpoint event id now).2.1
      rcases List.getElem?_eq_some_iff.mp hSender with
        ⟨hRange, hFound⟩
      have hBefore :
          system.toStart.Perm
            ((event, endpoint) ::
              (rest.map (fun other => (event, other)) ++
                (system.senders.eraseIdx sender).flatMap
                  fun sender =>
                    sender.2.map fun endpoint =>
                      (sender.1, endpoint))) := by
        have hPerm :=
          (List.getElem_cons_eraseIdx_perm hRange).symm
        rw [hFound] at hPerm
        exact hPerm.flatMap_right _
      have hAfter :=
        (List.set_perm_cons_eraseIdx hRange
          (event, rest)).flatMap_right
            fun sender =>
              sender.2.map fun endpoint =>
                (sender.1, endpoint)
      unfold Notified started toStart
      dsimp only
      rw [hTasks, List.map_append, List.append_assoc]
      refine List.Perm.trans ?_ hNotified
      refine List.Perm.append_left _ ?_
      exact (List.Perm.cons _ hAfter).trans hBefore.symm
  · exact hNotified

/- Every step notifies of what it has to bring about. -/
theorem notified_step
    (step : WebhookStep)
    (hTracked : system.Tracked)
    (hNotified : system.Notified due) :
    (system.step step).Notified
      (due ++ system.notifies step) := by
  cases step with
  | addEndpoint endpoint =>
      exact (List.append_nil due).symm ▸ hNotified
  | removeEndpoint endpointId =>
      exact (List.append_nil due).symm ▸ hNotified
  | sendEvent event =>
      have hToStart :
          (system.sendEvent event).toStart =
            system.toStart ++
              system.notifies (.sendEvent event) := by
        unfold toStart sendEvent
        dsimp only
        rw [List.flatMap_append, List.flatMap_singleton]
        rfl
      change
        (system.started ++
          (system.sendEvent event).toStart).Perm _
      rw [hToStart, ← List.append_assoc]
      exact hNotified.append_right _
  | notifyNext sender id now =>
      exact
        (List.append_nil due).symm ▸
          notified_notifyNext hTracked hNotified sender id now
  | attempt index outcome now =>
      have hStarted := started_attempt hTracked index outcome now
      have hSenders :=
        senders_attempt system index outcome now
      change
        ((system.attempt index outcome now).started ++
          (system.attempt index outcome now).toStart).Perm
            (due ++ [])
      unfold toStart
      rw [hStarted, hSenders, List.append_nil]
      exact hNotified

/- A step records what it starts, and that it is pending. -/
theorem recorded_step
    (step : WebhookStep)
    (hTracked : system.Tracked)
    (hRecorded : system.Recorded)
    (hPending : system.AllPending) :
    (system.step step).Recorded ∧
      (system.step step).AllPending := by
  cases step with
  | addEndpoint endpoint => exact ⟨hRecorded, hPending⟩
  | removeEndpoint endpointId => exact ⟨hRecorded, hPending⟩
  | sendEvent event => exact ⟨hRecorded, hPending⟩
  | notifyNext sender id now =>
      change
        (system.notifyNext sender id now).Recorded ∧
          (system.notifyNext sender id now).AllPending
      rcases notifyNext_cases hTracked sender id now with
        hSame | ⟨endpoint, event, hHistory, hTasks, _, _⟩
      · rw [hSame]
        exact ⟨hRecorded, hPending⟩
      · unfold Recorded AllPending started
        rw [hHistory, hTasks, List.map_append,
          List.map_append, List.map_append]
        refine ⟨congrArg (· ++ _) hRecorded, ?_⟩
        intro record hRecord
        rcases List.mem_append.mp hRecord with
          hEarlier | hNew
        · exact hPending record hEarlier
        · rw [List.mem_singleton.mp hNew]
          rfl
  | attempt index outcome now =>
      have hHistory := (attempt_eq hTracked index outcome now).1
      have hStarted := started_attempt hTracked index outcome now
      change
        (system.attempt index outcome now).Recorded ∧
          (system.attempt index outcome now).AllPending
      unfold Recorded AllPending
      rw [hHistory, hStarted]
      exact ⟨hRecorded, hPending⟩

omit [BuildProfile] in
/- The stats count every delivery as pending, for ever. -/
theorem getStats_of_allPending
    (hRecorded : system.Recorded)
    (hPending : system.AllPending) :
    system.getStats.totalDeliveries = system.started.length ∧
      system.getStats.delivered = 0 ∧
      system.getStats.failed = 0 ∧
      system.getStats.pending = system.started.length ∧
      system.getStats.successRate =
        .finite 0 F32.isSingle_zero := by
  have hLength :
      system.history.length = system.started.length := by
    have hBoth := congrArg List.length hRecorded
    rwa [List.length_map, List.length_map] at hBoth
  have hDelivered :
      (system.history.filter fun d =>
        d.status.isDelivered) = [] := by
    apply List.filter_eq_nil_iff.mpr
    intro record hRecord
    rw [hPending record hRecord]
    exact Bool.false_ne_true
  have hFailed :
      (system.history.filter fun d =>
        d.status.isFailed) = [] := by
    apply List.filter_eq_nil_iff.mpr
    intro record hRecord
    rw [hPending record hRecord]
    exact Bool.false_ne_true
  have hAll :
      (system.history.filter fun d =>
        d.status.isPending) = system.history := by
    apply List.filter_eq_self.mpr
    intro record hRecord
    rw [hPending record hRecord]
    rfl
  have hZero :
      F32.ofNat 0 = .finite 0 F32.isSingle_zero :=
    F32.ofNat_of_le (by norm_num)
  unfold getStats
  dsimp only
  rw [hDelivered, hFailed, hAll, hLength, List.length_nil,
    hZero]
  refine ⟨rfl, rfl, rfl, rfl, ?_⟩
  split
  · next hSome =>
      rw [F32.finite_zero_div_ofNat hSome,
        F32.ofNat_of_le (by norm_num), F32.finite_zero_mul]
  · rfl

/-
  What is due has its tasks and records, and the stats count
  none of the deliveries as made or as failed.
-/
structure FansOut
    (due : List Notification)
    (system : WebhookSystem) : Prop where
  notified : system.Notified due
  recorded : system.Recorded
  delivered : system.getStats.delivered = 0
  failed : system.getStats.failed = 0
  pending : system.getStats.pending = system.started.length
  successRate :
    system.getStats.successRate = .finite 0 F32.isSingle_zero

/- A run brings about what its steps have to. -/
theorem notified_run
    (hTracked : system.Tracked)
    (hNotified : system.Notified due)
    (hRecorded : system.Recorded)
    (hPending : system.AllPending)
    (steps : List WebhookStep) :
    (Runs.run step system steps).Notified
        (due ++
          (Runs.answers step notifies system
            steps).flatten) ∧
      (Runs.run step system steps).Recorded ∧
      (Runs.run step system steps).AllPending := by
  induction steps generalizing system due with
  | nil =>
      exact
        ⟨(List.append_nil due).symm ▸ hNotified, hRecorded,
          hPending⟩
  | cons first rest ih =>
      have hNext :=
        recorded_step first hTracked hRecorded hPending
      rw [Runs.run_cons, Runs.answers, List.flatten_cons,
        ← List.append_assoc]
      exact
        ih (tracked_step first hTracked)
          (notified_step first hTracked hNotified) hNext.1
          hNext.2

/-
  In every run, each event that is sent is delivered to each
  endpoint that was registered then, active and listening,
  by one task with one record, whatever is registered or
  removed meanwhile; the stats never count any of them as
  delivered or failed.
-/
theorem fansOut_run
    {maxRetries : Nat}
    (hRetries : 1 ≤ maxRetries)
    (baseDelayMs : UInt64)
    (steps : List WebhookStep) :
    (Runs.run step (new maxRetries baseDelayMs)
        steps).FansOut
      (Runs.answers step notifies
        (new maxRetries baseDelayMs) steps).flatten := by
  rcases notified_run (tracked_new hRetries baseDelayMs)
      (.refl []) rfl (fun _ hRecord => nomatch hRecord)
      steps with
    ⟨hNotified, hRecorded, hPending⟩
  rcases getStats_of_allPending hRecorded hPending with
    ⟨_, hDelivered, hFailed, hAll, hRate⟩
  exact
    ⟨hNotified, hRecorded, hDelivered, hFailed, hAll, hRate⟩

end WebhookSystem

end IsaWorkspace

------------------------------------------------------------
-- A Sample Delivery
------------------------------------------------------------

namespace IsaWorkspace

namespace WebhookSample

open WebhookSystem

scoped instance : BuildProfile :=
  ⟨true⟩

/- An endpoint that listens to all events. -/
def endpoint : WebhookEndpoint :=
  { id := "e1"
    url := "http://localhost:9999/webhook"
    secret := "secret"
    events := []
    active := true
    createdAt := DateTime.unixEpoch }

/- An event is sent to it, and its task has a turn. -/
def sending
    (outcome : AttemptOutcome) : List WebhookStep :=
  [.addEndpoint endpoint,
    .sendEvent (.stateDeleted "s1"),
    .notifyNext 0 "d1" DateTime.unixEpoch,
    .attempt 0 outcome DateTime.unixEpoch]

end WebhookSample

open WebhookSample

namespace WebhookSystem

/- The first of three attempts fails. -/
theorem settled_refused :
    Runs.Throughout step Settled (new 3 1000)
      (sending (.refused "503 Service Unavailable")) := by
  apply (settled_iff (by decide) 1000 _).2.mpr
  refine ⟨trivial, trivial, trivial, ?_, trivial⟩
  intro task hTask _ _
  cases hTask
  exact ⟨Option.some_ne_none _, by decide⟩

/- The first attempt succeeds, and the record is pending. -/
theorem settled_delivered :
    ¬ Runs.Throughout step Settled (new 3 1000)
      (sending .success) := by
  intro hRun
  have hRecords :
      (Runs.run step (new 3 1000)
            (sending .success)).history =
        [newRecord "d1" endpoint (.stateDeleted "s1")
          DateTime.unixEpoch] := by
    decide +kernel
  rcases hRun.last _ List.mem_cons_self rfl with ⟨_, hAll⟩
  rw [hRecords] at hAll
  exact
    not_settledAs_pending rfl
      (hAll _ List.mem_cons_self rfl)

/- The endpoint is removed while it is being notified. -/
theorem fansOut_sample :
    (Runs.run step (new 3 1000)
        [.addEndpoint endpoint,
          .sendEvent (.stateDeleted "s1"),
          .removeEndpoint "e1",
          .sendEvent (.stateDeleted "s2"),
          .notifyNext 0 "d1" DateTime.unixEpoch,
          .attempt 0 .success
            DateTime.unixEpoch]).FansOut
      (Runs.answers step notifies (new 3 1000)
        [.addEndpoint endpoint,
          .sendEvent (.stateDeleted "s1"),
          .removeEndpoint "e1",
          .sendEvent (.stateDeleted "s2"),
          .notifyNext 0 "d1" DateTime.unixEpoch,
          .attempt 0 .success
            DateTime.unixEpoch]).flatten :=
  fansOut_run (by decide) 1000 _

end WebhookSystem

end IsaWorkspace
