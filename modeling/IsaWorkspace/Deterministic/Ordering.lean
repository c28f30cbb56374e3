import IsaWorkspace.Deterministic.Logger
import IsaWorkspace.Foundations.Interleaving
import IsaWorkspace.Foundations.Runs

/-
  Recording calls in interleaving.

  A call takes the next sequence number under one lock and
  pushes its entry under another.  The entries are in the
  order of their numbers exactly when the calls push in the
  order in which they have taken them.

  Main declarations:
    * `RecordPhase`, `RecordPhase.step`
    * `DeterministicLogger.record_steps`
    * `Increasing`, `InSequence`
    * `CounterAhead`, `InTurn`
    * `Ordered`, `ordered_step`
    * `Overtaken`, `overtaken_step`
    * `concurrentRecord_inSequence_iff`
-/

------------------------------------------------------------
-- Recording in Two Steps
------------------------------------------------------------

namespace IsaWorkspace

/- What a recording call has yet to do. -/
inductive RecordPhase where
  | takeSequence (request : RecordRequest)
  | push (entry : LogEntry)
  | finished (outcome : Outcome LoggerError UInt64)

namespace RecordPhase

/- The number of the entry a call has yet to push. -/
def held : RecordPhase → Option UInt64
| push entry => some entry.sequence
| _ => none

def isFinished : RecordPhase → Bool
| finished _ => true
| _ => false

/- A finished call has nothing to push. -/
theorem held_of_isFinished
    {phase : RecordPhase}
    (hFinished : phase.isFinished = true) :
    phase.held = none := by
  cases phase with
  | takeSequence request => cases hFinished
  | push entry => cases hFinished
  | finished outcome => rfl

/- Go on with a number, if there is one. -/
def afterTake
    (request : RecordRequest) :
    Outcome LoggerError UInt64 → RecordPhase
| .ok sequence => push (request.entry sequence)
| .err error => finished (.err error)
| .panicked => finished .panicked

variable [BuildProfile]

/- One atomic step of a call. -/
def step
    (phase : RecordPhase)
    (logger : DeterministicLogger) :
    RecordPhase × DeterministicLogger :=
  match phase with
  | takeSequence request =>
      if logger.recording then
        let result := DeterministicLogger.takeSequence logger
        (afterTake request result.1, result.2)
      else
        (finished (.ok 0), logger)
  | push entry =>
      (finished (.ok entry.sequence), logger.push entry)
  | finished outcome => (finished outcome, logger)

/- Taking a number leaves the entries alone. -/
theorem step_takeSequence
    (request : RecordRequest)
    (logger : DeterministicLogger) :
    let next := step (takeSequence request) logger
    next.2.entries = logger.entries ∧
      ∀ sequence ∈ next.1.held,
        checkedAdd logger.sequence 1 = some sequence ∧
          logger.recording = true := by
  intro next
  cases hRecording : logger.recording with
  | false =>
      have hNext : next = (finished (.ok 0), logger) := by
        dsimp only [next, step]
        rw [hRecording]
        rfl
      rw [hNext]
      refine ⟨rfl, ?_⟩
      rintro sequence ⟨⟩
  | true =>
      have hNext :
          next =
            (afterTake request
              (DeterministicLogger.takeSequence logger).1,
              (DeterministicLogger.takeSequence
                logger).2) := by
        dsimp only [next, step]
        rw [hRecording]
        rfl
      rw [hNext, DeterministicLogger.takeSequence_eq]
      cases checkedAdd logger.sequence 1 with
      | none =>
          refine ⟨rfl, ?_⟩
          rintro sequence ⟨⟩
      | some taken =>
          refine ⟨rfl, ?_⟩
          rintro sequence ⟨⟩
          exact ⟨rfl, rfl⟩

/- The number that a recording logger gives out is held. -/
theorem held_takeSequence
    (request : RecordRequest)
    {logger : DeterministicLogger}
    (hRecording : logger.recording = true)
    {sequence : UInt64}
    (hSum : checkedAdd logger.sequence 1 = some sequence) :
    (step (takeSequence request) logger).1.held =
      some sequence := by
  dsimp only [step]
  rw [if_pos hRecording, DeterministicLogger.takeSequence_eq,
    hSum]
  rfl

end RecordPhase

/- A logger and the recording calls on it. -/
abbrev ConcurrentRecord : Type :=
  Interleaved DeterministicLogger RecordPhase

/- The steps of a call, with nothing between, are the call. -/
theorem DeterministicLogger.record_steps
    [BuildProfile]
    (request : RecordRequest)
    (logger : DeterministicLogger) :
    Runs.run (Interleaved.step RecordPhase.step)
        ⟨logger, [.takeSequence request]⟩ [0, 0] =
      ⟨(record request logger).2,
        [.finished (record request logger).1]⟩ := by
  rw [record_eq]
  have hSteps :
      Runs.run (Interleaved.step RecordPhase.step)
          ⟨logger, [.takeSequence request]⟩ [0, 0] =
        (let first :=
          RecordPhase.step (.takeSequence request) logger
        let second := RecordPhase.step first.1 first.2
        ⟨second.2, [second.1]⟩) := rfl
  rw [hSteps]
  dsimp only [RecordPhase.step]
  cases hRecording : logger.recording with
  | false =>
      rw [logEvent_of_paused _ hRecording]
      rfl
  | true =>
      rw [logEvent_eq _ hRecording, if_pos rfl,
        takeSequence_eq]
      cases checkedAdd logger.sequence 1 with
      | none => rfl
      | some sequence => rfl

------------------------------------------------------------
-- Order
------------------------------------------------------------

/- The numbers increase along the entries. -/
def Increasing
    (entries : List LogEntry) : Prop :=
  entries.Pairwise fun earlier later =>
    earlier.sequence < later.sequence

instance
    (entries : List LogEntry) :
    Decidable (Increasing entries) := by
  unfold Increasing
  infer_instance

/-
  The numbers increase along the entries, and the exported
  events are in the order of the numbers.
-/
def InSequence
    (logger : DeterministicLogger) : Prop :=
  Increasing logger.entries ∧
    logger.getEventLog.events =
      (logger.entries.mergeSort fun earlier later =>
        earlier.sequence ≤ later.sequence).map
          LogEntry.event

/- The second part follows from the first. -/
theorem inSequence_iff
    {logger : DeterministicLogger} :
    InSequence logger ↔ Increasing logger.entries := by
  refine ⟨And.left, fun hIncreasing => ⟨hIncreasing, ?_⟩⟩
  have hSorted :
      logger.entries.Pairwise fun earlier later =>
        decide (earlier.sequence ≤ later.sequence) =
          true := by
    apply hIncreasing.imp
    intro earlier later hLess
    exact decide_eq_true (UInt64.le_of_lt hLess)
  rw [List.mergeSort_of_pairwise hSorted]
  rfl

instance
    (logger : DeterministicLogger) :
    Decidable (InSequence logger) :=
  decidable_of_iff _ inSequence_iff.symm

/- An entry at the end must exceed the ones before it. -/
theorem increasing_concat_iff
    {entries : List LogEntry}
    {entry : LogEntry} :
    Increasing (entries ++ [entry]) ↔
      Increasing entries ∧
        ∀ earlier ∈ entries,
          earlier.sequence < entry.sequence := by
  unfold Increasing
  rw [List.pairwise_append]
  simp

section Schedules

variable [BuildProfile]

/-
  A recording logger next takes a greater number than those
  in its log: its counter is not behind the log, and does
  not wrap.
-/
def CounterAhead
    (logger : DeterministicLogger) : Prop :=
  logger.recording = true →
    ∀ sequence ∈ checkedAdd logger.sequence 1,
      ∀ entry ∈ logger.entries, entry.sequence < sequence

instance
    (logger : DeterministicLogger) :
    Decidable (CounterAhead logger) := by
  unfold CounterAhead
  infer_instance

/-
  A call that pushes holds the smallest of the numbers that
  are held, and one that takes a number takes a greater one
  than those in the log.
-/
def InTurn
    (system : ConcurrentRecord)
    (position : Nat) : Prop :=
  match system.calls[position]? with
  | some (.push entry) =>
      ∀ other ∈ system.calls.eraseIdx position,
        ∀ sequence ∈ other.held, entry.sequence < sequence
  | some (.takeSequence _) => CounterAhead system.shared
  | _ => True

instance
    (system : ConcurrentRecord)
    (position : Nat) :
    Decidable (InTurn system position) := by
  unfold InTurn
  split <;> infer_instance

/- The numbers in the log are smaller than those held. -/
omit [BuildProfile] in
structure Ordered
    (system : ConcurrentRecord) : Prop where
  increasing : Increasing system.shared.entries
  held :
    ∀ phase ∈ system.calls, ∀ sequence ∈ phase.held,
      ∀ entry ∈ system.shared.entries,
        entry.sequence < sequence

/-
  The log is out of order, or will be: a number that is held
  is not greater than one in the log.
-/
omit [BuildProfile] in
def Overtaken
    (system : ConcurrentRecord) : Prop :=
  ¬ Increasing system.shared.entries ∨
    ∃ phase ∈ system.calls, ∃ sequence ∈ phase.held,
      ∃ entry ∈ system.shared.entries,
        ¬ entry.sequence < sequence

variable {system : ConcurrentRecord}

/- A step in turn keeps the numbers ordered. -/
theorem ordered_step
    (hOrdered : Ordered system)
    {position : Nat}
    (hTurn : InTurn system position) :
    Ordered
      (Interleaved.step RecordPhase.step system
        position) := by
  cases hCall : system.calls[position]? with
  | none =>
      rw [Interleaved.step_of_none hCall]
      exact hOrdered
  | some phase =>
      rcases Interleaved.step_of_some RecordPhase.step
          hCall with
        ⟨hShared, hCalls, hNext⟩
      unfold InTurn at hTurn
      rw [hCall] at hTurn
      have hOthers :
          ∀ other ∈ system.calls.eraseIdx position,
            other ∈ system.calls :=
        fun _ hOther => List.mem_of_mem_eraseIdx hOther
      have hPhase : phase ∈ system.calls :=
        List.mem_of_getElem? hCall
      have hBuild :
          Increasing (phase.step system.shared).2.entries →
          (∀ sequence ∈ (phase.step system.shared).1.held,
            ∀ entry ∈ (phase.step system.shared).2.entries,
              entry.sequence < sequence) →
          (∀ other ∈ system.calls.eraseIdx position,
            ∀ sequence ∈ other.held,
              ∀ entry ∈
                  (phase.step system.shared).2.entries,
                entry.sequence < sequence) →
            Ordered
              (Interleaved.step RecordPhase.step system
                position) := by
        intro hIncreasing hOwn hRest
        refine ⟨?_, ?_⟩
        · rw [hShared]
          exact hIncreasing
        · intro other hOther
          rw [hShared]
          rcases List.mem_cons.mp (hNext.mem_iff.mp hOther)
            with rfl | hOther
          · exact hOwn
          · exact hRest other hOther
      cases phase with
      | finished outcome =>
          apply hBuild hOrdered.increasing
          · rintro _ ⟨⟩
          · intro other hOther
            exact hOrdered.held other (hOthers other hOther)
      | takeSequence request =>
          dsimp only at hTurn
          rcases RecordPhase.step_takeSequence request
              system.shared with
            ⟨hEntries, hHeld⟩
          rw [hEntries] at hBuild
          apply hBuild hOrdered.increasing
          · intro sequence hSequence
            rcases hHeld sequence hSequence with
              ⟨hSum, hRecording⟩
            exact hTurn hRecording sequence hSum
          · intro other hOther
            exact hOrdered.held other (hOthers other hOther)
      | push entry =>
          dsimp only at hTurn
          apply hBuild
          · exact
              increasing_concat_iff.mpr
                ⟨hOrdered.increasing,
                  hOrdered.held _ hPhase _ rfl⟩
          · rintro _ ⟨⟩
          · intro other hOther sequence hSequence earlier
              hEarlier
            rcases List.mem_append.mp hEarlier with
              hOld | hNew
            · exact
                hOrdered.held other (hOthers other hOther)
                  sequence hSequence earlier hOld
            · rw [List.mem_singleton.mp hNew]
              exact hTurn other hOther sequence hSequence

/-
  A step of a call adds no entry, and then the call held no
  number, or it pushes the entry of the number it held.
-/
theorem RecordPhase.step_entries
    (phase : RecordPhase)
    (logger : DeterministicLogger) :
    (phase.held = none ∧
        (phase.step logger).2.entries = logger.entries) ∨
      ∃ entry, phase = .push entry ∧
        (phase.step logger).2.entries =
          logger.entries ++ [entry] := by
  cases phase with
  | finished outcome => exact Or.inl ⟨rfl, rfl⟩
  | takeSequence request =>
      exact
        Or.inl ⟨rfl, (step_takeSequence request logger).1⟩
  | push entry => exact Or.inr ⟨entry, rfl, rfl⟩

/- What is overtaken stays so: it is held, or it is pushed. -/
theorem overtaken_step
    (hOvertaken : Overtaken system)
    (position : Nat) :
    Overtaken
      (Interleaved.step RecordPhase.step system
        position) := by
  cases hCall : system.calls[position]? with
  | none =>
      rw [Interleaved.step_of_none hCall]
      exact hOvertaken
  | some phase =>
      rcases Interleaved.step_of_some RecordPhase.step
          hCall with
        ⟨hShared, hCalls, hNext⟩
      have hEntries := phase.step_entries system.shared
      have hSubset :
          ∀ entry ∈ system.shared.entries,
            entry ∈ (phase.step system.shared).2.entries := by
        intro entry hEntry
        rcases hEntries with ⟨_, hSame⟩ | ⟨_, _, hMore⟩
        · rw [hSame]
          exact hEntry
        · rw [hMore]
          exact List.mem_append_left _ hEntry
      unfold Overtaken
      rw [hShared]
      rcases hOvertaken with hBroken | hHeld
      · left
        intro hIncreasing
        apply hBroken
        rcases hEntries with ⟨_, hSame⟩ | ⟨_, _, hMore⟩
        · rw [hSame] at hIncreasing
          exact hIncreasing
        · rw [hMore] at hIncreasing
          exact (increasing_concat_iff.mp hIncreasing).1
      · rcases hHeld with
          ⟨other, hOther, sequence, hSequence, entry, hEntry,
            hLess⟩
        rcases List.mem_cons.mp (hCalls.mem_iff.mp hOther)
          with rfl | hRest
        · left
          intro hIncreasing
          rcases hEntries with
            ⟨hNone, _⟩ | ⟨pushed, rfl, hMore⟩
          · rw [hNone] at hSequence
            cases hSequence
          · rw [hMore] at hIncreasing
            cases hSequence
            exact
              hLess
                ((increasing_concat_iff.mp hIncreasing).2
                  entry hEntry)
        · right
          refine
            ⟨other, ?_, sequence, hSequence, entry,
              hSubset entry hEntry, hLess⟩
          exact
            hNext.mem_iff.mpr (List.mem_cons_of_mem _ hRest)

/- A step out of turn leaves a call overtaken. -/
theorem overtaken_of_not_inTurn
    {position : Nat}
    (hTurn : ¬ InTurn system position) :
    Overtaken
      (Interleaved.step RecordPhase.step system
        position) := by
  unfold InTurn at hTurn
  cases hCall : system.calls[position]? with
  | none =>
      rw [hCall] at hTurn
      exact absurd trivial hTurn
  | some phase =>
      rcases Interleaved.step_of_some RecordPhase.step
          hCall with
        ⟨hShared, _, hNext⟩
      rw [hCall] at hTurn
      cases phase with
      | finished outcome => exact absurd trivial hTurn
      | takeSequence request =>
          dsimp only at hTurn
          unfold CounterAhead at hTurn
          push Not at hTurn
          rcases hTurn with
            ⟨hRecording, sequence, hSum, entry, hEntry,
              hLess⟩
          right
          refine
            ⟨_, hNext.mem_iff.mpr List.mem_cons_self,
              sequence, ?_, entry, ?_, hLess⟩
          · exact
              RecordPhase.held_takeSequence request
                hRecording hSum
          · rw [hShared]
            rw [(RecordPhase.step_takeSequence request
              system.shared).1]
            exact hEntry
      | push entry =>
          dsimp only at hTurn
          push Not at hTurn
          rcases hTurn with
            ⟨other, hOther, sequence, hSequence, hLess⟩
          right
          refine
            ⟨other,
              hNext.mem_iff.mpr
                (List.mem_cons_of_mem _ hOther),
              sequence, hSequence, entry, ?_, hLess⟩
          rw [hShared]
          exact List.mem_append_right _ List.mem_cons_self

/-
  From a log in sequence, calls that take their steps in
  turn keep it so.  When all calls have finished, it is in
  sequence only if they did.
-/
theorem concurrentRecord_inSequence_iff
    (logger : DeterministicLogger)
    (hLogger : InSequence logger)
    (requests : List RecordRequest)
    (schedule : List Nat) :
    let start : ConcurrentRecord :=
      ⟨logger, requests.map RecordPhase.takeSequence⟩
    let final :=
      Runs.run (Interleaved.step RecordPhase.step) start
        schedule
    (Runs.AlongRun (Interleaved.step RecordPhase.step) InTurn
        start schedule →
      Runs.Throughout (Interleaved.step RecordPhase.step)
        (fun system => InSequence system.shared) start
        schedule) ∧
      ((∀ phase ∈ final.calls, phase.isFinished = true) →
        (InSequence final.shared ↔
          Runs.AlongRun (Interleaved.step RecordPhase.step)
            InTurn start schedule)) := by
  intro start final
  have hStart : Ordered start := by
    refine ⟨inSequence_iff.mp hLogger, ?_⟩
    intro phase hPhase sequence hSequence
    rcases List.mem_map.mp hPhase with ⟨request, _, rfl⟩
    cases hSequence
  have hForward :
      Runs.AlongRun (Interleaved.step RecordPhase.step)
          InTurn start schedule →
        Runs.Throughout (Interleaved.step RecordPhase.step)
          (fun system => InSequence system.shared) start
          schedule := by
    intro hAlong
    have hStep :
        ∀ (system : ConcurrentRecord) position,
          Ordered system → InTurn system position →
            Ordered
              (Interleaved.step RecordPhase.step system
                position) :=
      fun _ _ hOrdered hTurn => ordered_step hOrdered hTurn
    have hOrdered :=
      Runs.throughout_of_alongRun hStep hStart hAlong
    exact
      hOrdered.mono fun _ hOrdered =>
        inSequence_iff.mpr hOrdered.increasing
  refine ⟨hForward, ?_⟩
  intro hFinished
  constructor
  · intro hSequence
    apply Runs.alongRun_of_not_broken
      (fun _ _ hTurn => overtaken_of_not_inTurn hTurn)
      (fun _ position hOvertaken =>
        overtaken_step hOvertaken position)
    rintro (hBroken | ⟨phase, hPhase, sequence, hHeld, _⟩)
    · exact hBroken (inSequence_iff.mp hSequence)
    · rw [RecordPhase.held_of_isFinished
        (hFinished phase hPhase)] at hHeld
      cases hHeld
  · intro hAlong
    exact (hForward hAlong).last

end Schedules

end IsaWorkspace

------------------------------------------------------------
-- Sample Schedules
------------------------------------------------------------

namespace IsaWorkspace

/- Two reads by calls at once, on a new logger. -/
namespace RecordSample

scoped instance : BuildProfile :=
  ⟨true⟩

/- The default configuration. -/
def config : DeterministicLogConfig :=
  ⟨1000000, true, true⟩

def syscall : SyscallEvent where
  syscallNumber := 1
  syscallName := "read"
  arguments := ⟨#[0, 0, 100, 0, 0, 0], rfl⟩
  returnValue := 50
  errorCode := none

def request : RecordRequest :=
  ⟨DateTime.unixEpoch, .syscall syscall⟩

def start : ConcurrentRecord :=
  ⟨DeterministicLogger.new config,
    [request, request].map RecordPhase.takeSequence⟩

end RecordSample

open RecordSample

/- Both take their numbers, and then push in turn. -/
theorem concurrentRecord_sample :
    Runs.Throughout (Interleaved.step RecordPhase.step)
        (fun system => InSequence system.shared)
        RecordSample.start [0, 1, 0, 1] ∧
      (InSequence
          (Runs.run (Interleaved.step RecordPhase.step)
            RecordSample.start [0, 1, 0, 1]).shared ↔
        Runs.AlongRun (Interleaved.step RecordPhase.step)
          InTurn RecordSample.start [0, 1, 0, 1]) := by
  have hBoth :=
    concurrentRecord_inSequence_iff
      (DeterministicLogger.new config) (by decide)
      [request, request] [0, 1, 0, 1]
  exact
    ⟨hBoth.1 (by decide +kernel),
      hBoth.2 (by decide +kernel)⟩

/- The second to take a number is the first to push. -/
theorem concurrentRecord_reordered :
    ¬ InSequence
      (Runs.run (Interleaved.step RecordPhase.step)
        RecordSample.start [0, 1, 1, 0]).shared := by
  decide +kernel

end IsaWorkspace
