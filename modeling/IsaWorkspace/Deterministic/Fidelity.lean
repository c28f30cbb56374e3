import IsaWorkspace.Deterministic.Replay

/-
  What a recorded log tells apart.

  Of each event the log keeps the kind and one field.  Two
  executions have different logs exactly when they differ in
  these, and a replay of one against the other reports a
  divergence exactly when they differ at a place that both
  have.

  Main declarations:
    * `SameKey`, `sameKey_iff`
    * `ReportsDivergence`, `reportsDivergence_iff`
    * `recording_distinguishes_iff`
-/

------------------------------------------------------------
-- What the Log Keeps
------------------------------------------------------------

namespace IsaWorkspace

/-
  Two events of one kind with the same name, thread,
  connection or seed.
-/
def SameKey : RecordedEvent → RecordedEvent → Prop
| .syscall event, .syscall other =>
    event.syscallName = other.syscallName
| .signal event, .signal other =>
    event.signalName = other.signalName
| .threadSchedule event, .threadSchedule other =>
    event.threadId = other.threadId
| .networkIo event, .networkIo other =>
    event.connectionId = other.connectionId
| .randomness event, .randomness other =>
    event.seed = other.seed
| _, _ => False

/- They are the events that the log does not tell apart. -/
theorem sameKey_iff
    {event other : RecordedEvent} :
    SameKey event other ↔ event.toEvent = other.toEvent := by
  cases event <;> cases other <;>
    simp [SameKey, RecordedEvent.toEvent]

/- A divergence: its error, or the answer that none is made of. -/
def ReportsDivergence
    (results : List (Outcome ReplayError Bool)) : Prop :=
  ∃ result ∈ results,
    result = .ok false ∨
      ∃ expected actual position,
        result =
          .err (.divergence expected actual position)

------------------------------------------------------------
-- Replaying Another Execution
------------------------------------------------------------

section Fidelity

variable [Debug DeterministicEvent]

/- A failed comparison is a divergence in either mode. -/
theorem mismatchOutcome_reports
    (engine : ReplayEngine)
    (expected actual : DeterministicEvent) :
    mismatchOutcome engine expected actual = .ok false ∨
      ∃ expectedText actualText position,
        mismatchOutcome engine expected actual =
          .err
            (.divergence expectedText actualText
              position) := by
  unfold mismatchOutcome
  cases engine.strictMode with
  | true => exact Or.inr ⟨_, _, _, rfl⟩
  | false => exact Or.inl rfl

/- The first result, or one of the others. -/
omit [Debug DeterministicEvent] in
theorem reportsDivergence_cons
    {result : Outcome ReplayError Bool}
    {rest : List (Outcome ReplayError Bool)} :
    ReportsDivergence (result :: rest) ↔
      (result = .ok false ∨
        ∃ expected actual position,
          result =
            .err (.divergence expected actual position)) ∨
        ReportsDivergence rest := by
  unfold ReportsDivergence
  rw [List.exists_mem_cons_iff]

/-
  An engine reports a divergence exactly when an event
  differs from the one at its place in the rest of the log.
-/
theorem reportsDivergence_iff
    (events : List DeterministicEvent)
    {engine : ReplayEngine} :
    ReportsDivergence (engine.verifyEach events).1 ↔
      ∃ pair ∈
          ((engine.originalLog.map LogEntry.event).drop
            engine.currentPosition).zip events,
        pair.1 ≠ pair.2 := by
  induction events generalizing engine with
  | nil => simp [ReplayEngine.verifyEach, ReportsDivergence]
  | cons actual rest ih =>
      rw [ReplayEngine.verifyEach, reportsDivergence_cons]
      cases hNext : engine.nextEvent with
      | none =>
          have hPast :
              (engine.originalLog.map LogEntry.event).drop
                engine.currentPosition = [] := by
            rw [engine.nextEvent_eq] at hNext
            exact
              List.drop_eq_nil_of_le
                (List.getElem?_eq_none_iff.mp hNext)
          rw [ReplayEngine.verifyEvent_of_end hNext]
          dsimp only
          rw [ih, hPast]
          simp
      | some expected =>
          rw [engine.nextEvent_eq] at hNext
          have hRest :
              (engine.originalLog.map LogEntry.event).drop
                  engine.currentPosition =
                expected ::
                  (engine.originalLog.map
                    LogEntry.event).drop
                    (engine.currentPosition + 1) := by
            rcases List.getElem?_eq_some_iff.mp hNext with
              ⟨hRange, rfl⟩
            exact List.drop_eq_getElem_cons hRange
          rw [← engine.nextEvent_eq] at hNext
          rw [hRest, List.zip_cons_cons,
            List.exists_mem_cons_iff]
          by_cases hSame : expected = actual
          · subst hSame
            rw [ReplayEngine.verifyEvent_of_match hNext]
            dsimp only
            rw [ih]
            simp
          · rw [ReplayEngine.verifyEvent_of_mismatch hNext
              hSame]
            have hReports :=
              mismatchOutcome_reports engine expected actual
            exact
              iff_of_true (Or.inl hReports) (Or.inl hSame)

/- Two lists of events that a logger makes into one log. -/
omit [Debug DeterministicEvent] in
theorem toEvent_map_eq_iff
    {requests others : List RecordRequest} :
    requests.map (fun request => request.recorded.toEvent) =
        others.map (fun request =>
          request.recorded.toEvent) ↔
      List.Forall₂
        (fun request other =>
          SameKey request.recorded other.recorded)
        requests others := by
  rw [← List.forall₂_eq_eq_eq, List.forall₂_map_left_iff,
    List.forall₂_map_right_iff]
  simp only [sameKey_iff]

variable [BuildProfile]

/-
  Of two executions, the logs differ exactly when what is
  counted of them differs in length, in the kind of an event
  or in the field that the log keeps of it.  Replaying the
  second against the first reports a divergence exactly when
  two events at one place differ so.
-/
theorem recording_distinguishes_iff
    (loggerConfig config : DeterministicLogConfig)
    (requests others : List RecordRequest) :
    let recorded := counted (2 ^ 64 - 1) requests
    let replayed := counted (2 ^ 64 - 1) others
    let log :=
      ((DeterministicLogger.new loggerConfig).recordEach
        requests).getEventLog
    let otherLog :=
      ((DeterministicLogger.new loggerConfig).recordEach
        others).getEventLog
    (log ≠ otherLog ↔
      ¬ List.Forall₂
        (fun request other =>
          SameKey request.recorded other.recorded)
        recorded replayed) ∧
      (ReportsDivergence
          ((ReplayEngine.new log config).verifyEach
            otherLog.events).1 ↔
        ∃ pair ∈ recorded.zip replayed,
          ¬ SameKey pair.1.recorded pair.2.recorded) := by
  intro recorded replayed log otherLog
  have hLog :
      log.events =
        recorded.map fun request =>
          request.recorded.toEvent :=
    getEventLog_recordEach requests rfl
  have hOther :
      otherLog.events =
        replayed.map fun request =>
          request.recorded.toEvent :=
    getEventLog_recordEach others rfl
  refine ⟨?_, ?_⟩
  · have hEvents :
        log = otherLog ↔ log.events = otherLog.events := by
      rw [← EventLog.mk.injEq]
    rw [ne_eq, hEvents, hLog, hOther, toEvent_map_eq_iff]
  · rw [reportsDivergence_iff, ReplayEngine.events_new]
    have hStart :
        (ReplayEngine.new log config).currentPosition = 0 :=
      rfl
    rw [hStart, List.drop_zero, hLog, hOther, List.zip_map]
    simp only [List.mem_map, sameKey_iff]
    constructor
    · rintro ⟨_, ⟨pair, hPair, rfl⟩, hDiffers⟩
      exact ⟨pair, hPair, hDiffers⟩
    · rintro ⟨pair, hPair, hDiffers⟩
      exact ⟨_, ⟨pair, hPair, rfl⟩, hDiffers⟩

end Fidelity

end IsaWorkspace

------------------------------------------------------------
-- Sample Executions
------------------------------------------------------------

namespace IsaWorkspace

open RecordSample (config syscall request)
open ReplaySample

/- A read that fails where the sample read succeeds. -/
def failedRequest : RecordRequest :=
  ⟨DateTime.unixEpoch,
    .syscall
      { syscall with
        returnValue := -1
        errorCode := some 5 }⟩

/-
  The log keeps the name of a system call alone: a replay
  accepts a read that fails for one that has succeeded.
-/
theorem recording_conflated :
    [request.recorded] ≠ [failedRequest.recorded] ∧
      ((DeterministicLogger.new config).recordEach
          [request]).getEventLog =
        ((DeterministicLogger.new config).recordEach
          [failedRequest]).getEventLog ∧
      ¬ ReportsDivergence
        ((ReplayEngine.new
            ((DeterministicLogger.new config).recordEach
              [request]).getEventLog config).verifyEach
          ((DeterministicLogger.new config).recordEach
            [failedRequest]).getEventLog.events).1 := by
  refine ⟨?_, rfl, ?_⟩
  · intro hSame
    have hEvent :=
      RecordedEvent.syscall.inj (List.cons.inj hSame).1
    have hReturn := congrArg SyscallEvent.returnValue hEvent
    revert hReturn
    decide
  · rw [reportsDivergence_iff]
    rintro ⟨pair, hPair, hDiffers⟩
    have hSame :
        pair = (.syscall "read", .syscall "read") :=
      List.mem_singleton.mp hPair
    rw [hSame] at hDiffers
    exact hDiffers rfl

end IsaWorkspace
