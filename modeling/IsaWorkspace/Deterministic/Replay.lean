import IsaWorkspace.Deterministic.Ordering

/-
  Replaying a recorded log.

  An engine holds a log and a position in it.  Each event of
  a new execution is compared with the one at the position,
  which moves on when they match.  How an event is printed
  in an error is a parameter.

  Main declarations:
    * `ReplayEngine`, `ReplayEngine.new`
    * `eventsMatch`, `eventsMatch_iff`
    * `ReplayEngine.advance`, `ReplayEngine.verifyEvent`
    * `ReplayEngine.verifyEach`
    * `counted`, `getEventLog_recordEach`
    * `verifyEach_prefix`
    * `recordThenReplay`
    * `ReplayEngine.StaysPut`
-/

------------------------------------------------------------
-- The Engine
------------------------------------------------------------

namespace IsaWorkspace

/- How a value is printed for a programmer. -/
class Debug (α : Type) where
  debug : α → String

inductive ReplayError where
  | divergence
      (expected actual : String)
      (position : Nat)
  | endOfLog
  | notStarted
  | serializationError (message : String)
deriving DecidableEq

/- Deterministic replay engine. -/
structure ReplayEngine where
  config : DeterministicLogConfig
  originalLog : List LogEntry
  currentPosition : Nat
  strictMode : Bool

/- Check if two events match. -/
def eventsMatch :
    DeterministicEvent → DeterministicEvent → Bool
| .syscall n1, .syscall n2 => n1 = n2
| .signal s1, .signal s2 => s1 = s2
| .threadSchedule t1, .threadSchedule t2 => t1 = t2
| .networkIoBoundary c1, .networkIoBoundary c2 => c1 = c2
| .randomnessSeed s1, .randomnessSeed s2 => s1 = s2
| _, _ => false

/- Every field of an event is compared. -/
theorem eventsMatch_iff
    {expected actual : DeterministicEvent} :
    eventsMatch expected actual = true ↔
      expected = actual := by
  cases expected <;> cases actual <;> simp [eventsMatch]

namespace ReplayEngine

/- Create a new replay engine from an event log. -/
def new
    (log : EventLog)
    (config : DeterministicLogConfig) : ReplayEngine where
  config := config
  originalLog :=
    log.events.zipIdx.map fun numbered =>
      { sequence := UInt64.ofNat numbered.2
        timestamp := none
        event := numbered.1
        metadata := none }
  currentPosition := 0
  strictMode := config.strictReplay

/- Get next expected event. -/
def nextEvent
    (engine : ReplayEngine) : Option DeterministicEvent :=
  engine.originalLog[engine.currentPosition]?.map
    LogEntry.event

/- Advance replay position. -/
def advance :
    Exec ReplayEngine ReplayError (Option UInt64) := do
  let engine ← Exec.read
  match engine.originalLog[engine.currentPosition]? with
  | some entry => do
      Exec.update fun engine =>
        { engine with
          currentPosition := engine.currentPosition + 1 }
      pure (some entry.sequence)
  | none => pure none

/- Verify event matches expected (for lockstep replay). -/
def verifyEvent
    [Debug DeterministicEvent]
    (actual : DeterministicEvent) :
    Exec ReplayEngine ReplayError Bool := do
  let engine ← Exec.read
  match engine.nextEvent with
  | some expected =>
      if !eventsMatch expected actual &&
          engine.strictMode then do
        let engine ← Exec.read
        Exec.fail
          (.divergence (Debug.debug expected)
            (Debug.debug actual) engine.currentPosition)
      else if eventsMatch expected actual then do
        let _ ← advance
        pure true
      else
        pure false
  | none => Exec.fail .endOfLog

/- Check if replay is complete. -/
def isComplete
    (engine : ReplayEngine) : Bool :=
  engine.originalLog.length ≤ engine.currentPosition

/- The results of verifying one event after the other. -/
def verifyEach
    [Debug DeterministicEvent] :
    List DeterministicEvent → ReplayEngine →
      List (Outcome ReplayError Bool) × ReplayEngine
| [], engine => ([], engine)
| actual :: rest, engine =>
    let result := verifyEvent actual engine
    let others := verifyEach rest result.2
    (result.1 :: others.1, others.2)

end ReplayEngine

end IsaWorkspace

------------------------------------------------------------
-- What Is Recorded
------------------------------------------------------------

namespace IsaWorkspace

section Recording

variable [BuildProfile]

namespace DeterministicLogger

/- The logger after one recording call after the other. -/
def recordEach
    (logger : DeterministicLogger)
    (requests : List RecordRequest) : DeterministicLogger :=
  Runs.run
    (fun logger request => (record request logger).2)
    logger requests

/- One call after which others follow. -/
theorem recordEach_cons
    (logger : DeterministicLogger)
    (request : RecordRequest)
    (rest : List RecordRequest) :
    recordEach logger (request :: rest) =
      recordEach (record request logger).2 rest :=
  rfl

end DeterministicLogger

/-
  The requests that find a number: a checking build panics
  when the counter has none left.
-/
def counted
    {α : Type}
    (remaining : Nat)
    (requests : List α) : List α :=
  if BuildProfile.overflowChecks then
    requests.take remaining
  else
    requests

/- A sum that fails does so for want of range. -/
theorem overflow_of_checkedAdd
    {left right : UInt64}
    (hSum : checkedAdd left right = none) :
    BuildProfile.overflowChecks = true ∧
      2 ^ 64 ≤ left.toNat + right.toNat := by
  unfold checkedAdd at hSum
  by_cases hRange : left.toNat + right.toNat < 2 ^ 64
  · rw [if_pos hRange] at hSum
    cases hSum
  · rw [if_neg hRange] at hSum
    cases hChecks : BuildProfile.overflowChecks with
    | true => exact ⟨rfl, Nat.le_of_not_lt hRange⟩
    | false =>
        rw [hChecks] at hSum
        cases hSum

/- A counter without a next number counts nothing. -/
theorem counted_of_none
    {α : Type}
    {counter : UInt64}
    (hSum : checkedAdd counter 1 = none)
    (requests : List α) :
    counted (2 ^ 64 - 1 - counter.toNat) requests = [] := by
  rcases overflow_of_checkedAdd hSum with
    ⟨hChecks, hRange⟩
  have hOne : (1 : UInt64).toNat = 1 := rfl
  have hZero : 2 ^ 64 - 1 - counter.toNat = 0 := by
    omega
  unfold counted
  rw [if_pos hChecks, hZero]
  rfl

/- A counter with a next number counts one request more. -/
theorem counted_of_some
    {α : Type}
    {counter next : UInt64}
    (hSum : checkedAdd counter 1 = some next)
    (request : α)
    (rest : List α) :
    counted (2 ^ 64 - 1 - counter.toNat)
        (request :: rest) =
      request ::
        counted (2 ^ 64 - 1 - next.toNat) rest := by
  unfold counted
  cases hChecks : BuildProfile.overflowChecks with
  | false => rfl
  | true =>
      have hValue :=
        toNat_of_checkedAdd hSum (Or.inl hChecks)
      have hOne : (1 : UInt64).toNat = 1 := rfl
      have hBound := next.toNat_lt
      have hRemaining :
          2 ^ 64 - 1 - counter.toNat =
            (2 ^ 64 - 1 - next.toNat) + 1 := by
        omega
      rw [if_pos rfl, if_pos rfl, hRemaining,
        List.take_succ_cons]

/- Calls in a row export the events that were counted. -/
theorem getEventLog_recordEach
    (requests : List RecordRequest)
    {logger : DeterministicLogger}
    (hRecording : logger.recording = true) :
    (DeterministicLogger.recordEach logger
        requests).getEventLog.events =
      logger.getEventLog.events ++
        (counted (2 ^ 64 - 1 - logger.sequence.toNat)
          requests).map fun request =>
            request.recorded.toEvent := by
  induction requests generalizing logger with
  | nil =>
      unfold counted
      simp [DeterministicLogger.recordEach]
  | cons request rest ih =>
      rw [DeterministicLogger.recordEach_cons,
        DeterministicLogger.record_eq,
        DeterministicLogger.logEvent_eq _ hRecording]
      cases hSum : checkedAdd logger.sequence 1 with
      | none =>
          dsimp only
          rw [ih hRecording, counted_of_none hSum,
            counted_of_none hSum]
      | some sequence =>
          let pushed :=
            (logger.push (request.entry sequence)).getEventLog
          have hPushed :
              pushed.events =
                logger.getEventLog.events ++
                  [request.recorded.toEvent] :=
            List.map_append
          have hNext :
              ({ logger with
                  sequence := sequence }.push
                    (request.entry sequence)).recording =
                true :=
            hRecording
          dsimp only
          rw [ih hNext, counted_of_some hSum,
            List.map_cons]
          change pushed.events ++ _ = _
          rw [hPushed, List.append_assoc]
          rfl

end Recording

end IsaWorkspace

------------------------------------------------------------
-- Verifying Events
------------------------------------------------------------

namespace IsaWorkspace

section Verifying

variable [Debug DeterministicEvent]

/- What a failed comparison returns. -/
def mismatchOutcome
    (engine : ReplayEngine)
    (expected actual : DeterministicEvent) :
    Outcome ReplayError Bool :=
  if engine.strictMode then
    .err
      (.divergence (Debug.debug expected)
        (Debug.debug actual) engine.currentPosition)
  else
    .ok false

variable {engine : ReplayEngine}
variable {expected actual : DeterministicEvent}

/- Where an event is expected, the position can move on. -/
omit [Debug DeterministicEvent] in
theorem ReplayEngine.advance_of_next
    (hNext : engine.nextEvent = some expected) :
    ∃ sequence,
      advance engine =
        (.ok (some sequence),
          { engine with
            currentPosition := engine.currentPosition + 1 }) := by
  unfold nextEvent at hNext
  rcases Option.map_eq_some_iff.mp hNext with
    ⟨entry, hEntry, _⟩
  refine ⟨entry.sequence, ?_⟩
  unfold advance
  rw [Exec.read_bind_apply, hEntry]
  rfl

/- The expected event is accepted. -/
theorem ReplayEngine.verifyEvent_of_match
    (hNext : engine.nextEvent = some actual) :
    verifyEvent actual engine =
      (.ok true,
        { engine with
          currentPosition := engine.currentPosition + 1 }) := by
  rcases advance_of_next hNext with ⟨sequence, hAdvance⟩
  have hMatches : eventsMatch actual actual = true :=
    eventsMatch_iff.mpr rfl
  unfold verifyEvent
  rw [Exec.read_bind_apply, hNext]
  dsimp only
  rw [hMatches, Bool.not_true, Bool.false_and,
    if_neg Bool.false_ne_true, if_pos rfl,
    Exec.bind_of_ok hAdvance]
  rfl

/- Another event is not, and the engine stays as it was. -/
theorem ReplayEngine.verifyEvent_of_mismatch
    (hNext : engine.nextEvent = some expected)
    (hDiffers : expected ≠ actual) :
    verifyEvent actual engine =
      (mismatchOutcome engine expected actual, engine) := by
  have hMatches : eventsMatch expected actual = false := by
    rw [Bool.eq_false_iff]
    exact fun hMatches =>
      hDiffers (eventsMatch_iff.mp hMatches)
  unfold verifyEvent mismatchOutcome
  rw [Exec.read_bind_apply, hNext]
  dsimp only
  rw [hMatches, Bool.not_false, Bool.true_and]
  cases engine.strictMode with
  | true => rfl
  | false => rfl

/- At the end of the log there is nothing to compare. -/
theorem ReplayEngine.verifyEvent_of_end
    (hNext : engine.nextEvent = none)
    (actual : DeterministicEvent) :
    verifyEvent actual engine = (.err .endOfLog, engine) := by
  unfold verifyEvent
  rw [Exec.read_bind_apply, hNext]
  rfl

/- A new engine holds the events of the log. -/
omit [Debug DeterministicEvent] in
theorem ReplayEngine.events_new
    (log : EventLog)
    (config : DeterministicLogConfig) :
    (new log config).originalLog.map LogEntry.event =
      log.events := by
  unfold new
  rw [List.map_map]
  exact List.zipIdx_map_fst 0 log.events

/- The expected event is the one at the position. -/
omit [Debug DeterministicEvent] in
theorem ReplayEngine.nextEvent_eq
    (engine : ReplayEngine) :
    engine.nextEvent =
      (engine.originalLog.map
        LogEntry.event)[engine.currentPosition]? := by
  rw [List.getElem?_map]
  rfl

/- Events that are next in the log are all accepted. -/
theorem ReplayEngine.verifyEach_prefix
    (events : List DeterministicEvent)
    {engine : ReplayEngine}
    (hPrefix :
      events <+:
        (engine.originalLog.map LogEntry.event).drop
          engine.currentPosition) :
    verifyEach events engine =
      (List.replicate events.length (.ok true),
        { engine with
          currentPosition :=
            engine.currentPosition + events.length }) := by
  induction events generalizing engine with
  | nil => rfl
  | cons actual rest ih =>
      rcases hPrefix with ⟨others, hOthers⟩
      have hNext : engine.nextEvent = some actual := by
        rw [engine.nextEvent_eq, ← Nat.add_zero
          engine.currentPosition, ← List.getElem?_drop,
          ← hOthers]
        rfl
      have hRest :
          rest <+:
            (engine.originalLog.map LogEntry.event).drop
              (engine.currentPosition + 1) := by
        refine ⟨others, ?_⟩
        rw [← List.tail_drop, ← hOthers]
        rfl
      rw [verifyEach, verifyEvent_of_match hNext]
      dsimp only
      rw [ih hRest, List.length_cons, List.replicate_succ]
      simp only [Nat.add_assoc, Nat.add_comm 1]

/- A new engine accepts its own log up to any position. -/
theorem ReplayEngine.verifyEach_new
    (log : EventLog)
    (config : DeterministicLogConfig)
    {position : Nat}
    (hBound : position ≤ log.events.length) :
    verifyEach (log.events.take position) (new log config) =
      (List.replicate position (.ok true),
        { new log config with
          currentPosition := position }) := by
  have hPrefix :
      log.events.take position <+:
        ((new log config).originalLog.map
          LogEntry.event).drop
          (new log config).currentPosition := by
    rw [events_new]
    exact List.take_prefix position log.events
  have hLength :
      (log.events.take position).length = position :=
    List.length_take_of_le hBound
  have hMoved :
      (new log config).currentPosition + position =
        position :=
    Nat.zero_add position
  have hVerified := verifyEach_prefix _ hPrefix
  rw [hLength, hMoved] at hVerified
  exact hVerified

/- What it then expects is the event at the position. -/
omit [Debug DeterministicEvent] in
theorem ReplayEngine.nextEvent_new
    (log : EventLog)
    (config : DeterministicLogConfig)
    (position : Nat) :
    { new log config with
      currentPosition := position }.nextEvent =
        log.events[position]? := by
  rw [nextEvent_eq]
  dsimp only
  rw [events_new]

/- Nothing but the expected event moves the position. -/
theorem ReplayEngine.verifyEach_stuck
    (events : List DeterministicEvent)
    (hNext : engine.nextEvent = some expected)
    (hNone : expected ∉ events) :
    (verifyEach events engine).2 = engine := by
  induction events with
  | nil => rfl
  | cons actual rest ih =>
      rw [List.mem_cons, not_or] at hNone
      rw [verifyEach,
        verifyEvent_of_mismatch hNext hNone.1]
      exact ih hNone.2

end Verifying

------------------------------------------------------------
-- Record, Then Replay
------------------------------------------------------------

section RecordAndReplay

variable [Debug DeterministicEvent] [BuildProfile]

open ReplayEngine

/-
  A log accepts its own events up to its end.  Another
  execution is accepted up to where it first differs, and
  there the engine stops until it is given the event it
  expects.
-/
theorem recordThenReplay
    (loggerConfig config : DeterministicLogConfig)
    (requests : List RecordRequest) :
    let log :=
      ((DeterministicLogger.new loggerConfig).recordEach
        requests).getEventLog
    let engine := ReplayEngine.new log config
    let complete := verifyEach log.events engine
    log.events =
        (counted (2 ^ 64 - 1) requests).map
          (fun request => request.recorded.toEvent) ∧
      complete.1 =
        List.replicate log.events.length (.ok true) ∧
      isComplete complete.2 = true ∧
      (∀ event,
        (verifyEvent event complete.2).1 =
          .err .endOfLog) ∧
      ∀ (events : List DeterministicEvent) (position : Nat)
        (expected actual : DeterministicEvent),
        events.take position = log.events.take position →
        log.events[position]? = some expected →
        events[position]? = some actual →
        expected ≠ actual →
          let before :=
            verifyEach (events.take position) engine
          before.1 = List.replicate position (.ok true) ∧
            verifyEvent actual before.2 =
              (if config.strictReplay then
                .err
                  (.divergence (Debug.debug expected)
                    (Debug.debug actual) position)
              else .ok false,
                before.2) ∧
            before.2.currentPosition = position ∧
            ∀ later, expected ∉ later →
              (verifyEach later
                before.2).2.currentPosition = position := by
  intro log engine complete
  have hComplete :
      complete =
        (List.replicate log.events.length (.ok true),
          { engine with
            currentPosition := log.events.length }) := by
    have hAll :=
      verifyEach_new log config (Nat.le_refl _)
    rw [List.take_length] at hAll
    exact hAll
  have hEnd : complete.2.nextEvent = none := by
    rw [hComplete]
    dsimp only
    rw [nextEvent_new]
    exact List.getElem?_eq_none (Nat.le_refl _)
  refine ⟨?_, ?_, ?_, ?_, ?_⟩
  · have hRecording :
        (DeterministicLogger.new loggerConfig).recording =
          true := rfl
    exact getEventLog_recordEach requests hRecording
  · rw [hComplete]
  · have hLength :
        engine.originalLog.length = log.events.length := by
      rw [← events_new log config, List.length_map]
    rw [hComplete]
    unfold isComplete
    dsimp only
    rw [hLength]
    exact decide_eq_true (Nat.le_refl _)
  · intro event
    rw [verifyEvent_of_end hEnd]
  · intro events position expected actual hSame hExpected
      hActual hDiffers before
    have hBound : position ≤ log.events.length :=
      Nat.le_of_lt (List.getElem?_eq_some_iff.mp hExpected).1
    have hBefore :
        before =
          (List.replicate position (.ok true),
            { engine with currentPosition := position }) := by
      dsimp only [before]
      rw [hSame]
      exact verifyEach_new log config hBound
    have hNext : before.2.nextEvent = some expected := by
      rw [hBefore]
      dsimp only
      rw [nextEvent_new]
      exact hExpected
    have hStuck :
        before.2.currentPosition = position := by
      rw [hBefore]
    refine ⟨?_, ?_, hStuck, ?_⟩
    · rw [hBefore]
    · rw [verifyEvent_of_mismatch hNext hDiffers, hBefore]
      rfl
    · intro later hNone
      rw [verifyEach_stuck later hNext hNone]
      exact hStuck

/-
  Another execution leaves the engine at the place where it
  first differs from the log, whatever it goes on with.
-/
def ReplayEngine.StaysPut
    (log : EventLog)
    (config : DeterministicLogConfig)
    (events : List DeterministicEvent) : Prop :=
  ∀ (position : Nat) (expected actual : DeterministicEvent),
    events.take position = log.events.take position →
    log.events[position]? = some expected →
    events[position]? = some actual →
    expected ≠ actual →
      (verifyEach events
        (new log config)).2.currentPosition = position

end RecordAndReplay

end IsaWorkspace

------------------------------------------------------------
-- A Sample Replay
------------------------------------------------------------

namespace IsaWorkspace

/- One read is recorded, and replayed in strict mode. -/
namespace ReplaySample

open RecordSample (config request)

scoped instance : BuildProfile :=
  RecordSample.instBuildProfile

/- Exact for names without characters that are escaped. -/
scoped instance : Debug DeterministicEvent where
  debug
    | .syscall name =>
        "Syscall \x7b name: \"" ++ name ++ "\" \x7d"
    | .signal signal =>
        "Signal \x7b signal: \"" ++ signal ++ "\" \x7d"
    | .threadSchedule threadId =>
        "ThreadSchedule \x7b thread_id: " ++
          threadId.toNat.repr ++ " \x7d"
    | .networkIoBoundary connectionId =>
        "NetworkIoBoundary \x7b connection_id: \"" ++
          connectionId ++ "\" \x7d"
    | .randomnessSeed seed =>
        "RandomnessSeed \x7b seed: " ++ seed.toNat.repr ++
          " \x7d"

def log : EventLog :=
  ((DeterministicLogger.new config).recordEach
    [request]).getEventLog

end ReplaySample

open RecordSample (config request)
open ReplaySample

/- A write where a read was recorded is a divergence. -/
theorem recordThenReplay_sample :
    (ReplayEngine.verifyEvent (.syscall "write")
        (ReplayEngine.new ReplaySample.log config)).1 =
      .err
        (.divergence "Syscall \x7b name: \"read\" \x7d"
          "Syscall \x7b name: \"write\" \x7d" 0) := by
  rcases recordThenReplay config config [request] with
    ⟨_, _, _, _, hDiverges⟩
  have hAtStart :=
    hDiverges [.syscall "write"] 0 (.syscall "read")
      (.syscall "write") rfl rfl rfl (by decide)
  exact congrArg Prod.fst hAtStart.2.1

/- The read that comes after the write is accepted again. -/
theorem not_staysPut_sample :
    ReplaySample.log.events = [.syscall "read"] ∧
      ¬ ReplayEngine.StaysPut ReplaySample.log config
        [.syscall "write", .syscall "read"] := by
  refine ⟨rfl, ?_⟩
  intro hStays
  have hMoved :
      (ReplayEngine.verifyEach
          [.syscall "write", .syscall "read"]
          (ReplayEngine.new ReplaySample.log
            config)).2.currentPosition = 1 :=
    rfl
  have hPut :=
    hStays 0 (.syscall "read") (.syscall "write") rfl rfl
      rfl (by decide)
  rw [hMoved] at hPut
  cases hPut

end IsaWorkspace
