import IsaWorkspace.Deterministic.Replay
import Mathlib.Data.List.Perm.Basic

/-
  Verifying calls in interleaving.

  A call compares its event with the one at the position,
  and then, under another lock, moves the position on.  The
  accepted events are the first events of the log, in some
  order, as long as every call that moves the position still
  finds the event it has compared with.

  Main declarations:
    * `VerifyPhase`, `VerifyPhase.step`
    * `ReplayEngine.verify_steps`
    * `ConsumedOnce`, `AdvancesExpected`
    * `consumedOnce_step_iff`
    * `consumedOnce_iff`
-/

------------------------------------------------------------
-- Verifying in Steps
------------------------------------------------------------

namespace IsaWorkspace

/-
  What a verifying call has yet to do.  A call that reports
  a divergence reads the position once more.
-/
inductive VerifyPhase where
  | compare (actual : DeterministicEvent)
  | advance (actual : DeterministicEvent)
  | report (expected actual : DeterministicEvent)
  | finished
      (actual : DeterministicEvent)
      (outcome : Outcome ReplayError Bool)

namespace VerifyPhase

/- The event that a call has accepted. -/
def accepted : VerifyPhase → Option DeterministicEvent
| finished actual (.ok true) => some actual
| _ => none

variable [Debug DeterministicEvent]

/- Where a call goes on, by the event it has read. -/
def afterCompare
    (strictMode : Bool)
    (actual : DeterministicEvent) :
    Option DeterministicEvent → VerifyPhase
| none => finished actual (.err .endOfLog)
| some expected =>
    if !eventsMatch expected actual && strictMode then
      report expected actual
    else if eventsMatch expected actual then
      advance actual
    else
      finished actual (.ok false)

/- One atomic step of a call. -/
def step
    (phase : VerifyPhase)
    (engine : ReplayEngine) : VerifyPhase × ReplayEngine :=
  match phase with
  | compare actual =>
      (afterCompare engine.strictMode actual
        engine.nextEvent, engine)
  | advance actual =>
      (finished actual (.ok true),
        (ReplayEngine.advance engine).2)
  | report expected actual =>
      (finished actual
        (.err
          (.divergence (Debug.debug expected)
            (Debug.debug actual) engine.currentPosition)),
        engine)
  | finished actual outcome =>
      (finished actual outcome, engine)

/- Comparing accepts nothing yet. -/
omit [Debug DeterministicEvent] in
theorem accepted_afterCompare
    (strictMode : Bool)
    (actual : DeterministicEvent)
    (expected : Option DeterministicEvent) :
    (afterCompare strictMode actual expected).accepted =
      none := by
  cases expected with
  | none => rfl
  | some expected =>
      unfold afterCompare
      dsimp only
      split
      · rfl
      · split
        · rfl
        · rfl

end VerifyPhase

/- An engine and the verifying calls on it. -/
abbrev ConcurrentReplay : Type :=
  Interleaved ReplayEngine VerifyPhase

/- The steps of a call, with nothing between, are the call. -/
theorem ReplayEngine.verify_steps
    [Debug DeterministicEvent]
    (actual : DeterministicEvent)
    (engine : ReplayEngine) :
    Runs.run (Interleaved.step VerifyPhase.step)
        ⟨engine, [.compare actual]⟩ [0, 0] =
      ⟨(verifyEvent actual engine).2,
        [.finished actual
          (verifyEvent actual engine).1]⟩ := by
  have hSteps :
      Runs.run (Interleaved.step VerifyPhase.step)
          ⟨engine, [.compare actual]⟩ [0, 0] =
        (let first := VerifyPhase.step (.compare actual) engine
        let second := VerifyPhase.step first.1 first.2
        ⟨second.2, [second.1]⟩) := rfl
  rw [hSteps]
  dsimp only [VerifyPhase.step]
  cases hNext : engine.nextEvent with
  | none =>
      rw [verifyEvent_of_end hNext]
      rfl
  | some expected =>
      by_cases hSame : expected = actual
      · subst hSame
        rcases advance_of_next hNext with
          ⟨sequence, hAdvance⟩
        have hMatches :
            eventsMatch expected expected = true :=
          eventsMatch_iff.mpr rfl
        rw [verifyEvent_of_match hNext]
        unfold VerifyPhase.afterCompare
        dsimp only
        rw [hMatches, Bool.not_true, Bool.false_and,
          if_neg Bool.false_ne_true, if_pos rfl]
        dsimp only
        rw [hAdvance]
      · have hMatches :
            eventsMatch expected actual = false := by
          rw [Bool.eq_false_iff]
          exact fun hMatches =>
            hSame (eventsMatch_iff.mp hMatches)
        rw [verifyEvent_of_mismatch hNext hSame]
        unfold VerifyPhase.afterCompare mismatchOutcome
        dsimp only
        rw [hMatches, Bool.not_false, Bool.true_and]
        cases engine.strictMode with
        | true => rfl
        | false => rfl

------------------------------------------------------------
-- Consuming the Log
------------------------------------------------------------

/- The events of the calls that have returned true. -/
def acceptedEvents
    (calls : List VerifyPhase) : List DeterministicEvent :=
  calls.filterMap VerifyPhase.accepted

/-
  As many calls have returned true as the position says, and
  their events are the log up to the position, in some order.
-/
def ConsumedOnce
    (system : ConcurrentReplay) : Prop :=
  system.shared.currentPosition =
      (acceptedEvents system.calls).length ∧
    (acceptedEvents system.calls).Perm
      ((system.shared.originalLog.map LogEntry.event).take
        system.shared.currentPosition)

instance
    (system : ConcurrentReplay) :
    Decidable (ConsumedOnce system) := by
  unfold ConsumedOnce
  infer_instance

/-
  A call that moves the position on has the event that is
  expected now.
-/
def AdvancesExpected
    (system : ConcurrentReplay)
    (position : Nat) : Prop :=
  match system.calls[position]? with
  | some (.advance actual) =>
      system.shared.nextEvent = some actual
  | _ => True

instance
    (system : ConcurrentReplay)
    (position : Nat) :
    Decidable (AdvancesExpected system position) := by
  unfold AdvancesExpected
  split <;> infer_instance

/- The order of the calls does not matter. -/
theorem consumedOnce_congr
    {engine : ReplayEngine}
    {calls others : List VerifyPhase}
    (hCalls : calls.Perm others) :
    ConsumedOnce ⟨engine, calls⟩ ↔
      ConsumedOnce ⟨engine, others⟩ := by
  have hAccepted :
      (acceptedEvents calls).Perm (acceptedEvents others) :=
    hCalls.filterMap _
  unfold ConsumedOnce
  dsimp only
  rw [hAccepted.length_eq, hAccepted.congr_left]

/- Of two heads on one multiset only equal ones agree. -/
theorem cons_perm_cons_iff
    {first second : DeterministicEvent}
    {rest others : List DeterministicEvent}
    (hRest : rest.Perm others) :
    (first :: rest).Perm (second :: others) ↔
      first = second := by
  constructor
  · intro hPerm
    have hMoved :
        (first :: rest).Perm (second :: rest) :=
      hPerm.trans (hRest.symm.cons second)
    by_contra hDiffers
    have hCount := hMoved.count_eq first
    rw [List.count_cons_self,
      List.count_cons_of_ne (Ne.symm hDiffers)] at hCount
    omega
  · rintro rfl
    exact hRest.cons first

/-
  A call that accepts its event consumes the one at the
  position exactly when it is the same.
-/
theorem consumedOnce_advance_iff
    {engine : ReplayEngine}
    {others : List VerifyPhase}
    {actual : DeterministicEvent}
    (hOnce :
      ConsumedOnce ⟨engine, .advance actual :: others⟩) :
    ConsumedOnce
        ⟨(ReplayEngine.advance engine).2,
          .finished actual (.ok true) :: others⟩ ↔
      engine.nextEvent = some actual := by
  rcases hOnce with ⟨hCount, hPerm⟩
  have hBefore :
      acceptedEvents (.advance actual :: others) =
        acceptedEvents others := rfl
  have hAfter :
      acceptedEvents (.finished actual (.ok true) :: others) =
        actual :: acceptedEvents others := rfl
  rw [hBefore] at hCount hPerm
  dsimp only at hCount hPerm
  unfold ConsumedOnce
  dsimp only
  rw [hAfter, List.length_cons]
  cases hNext : engine.nextEvent with
  | none =>
      have hEntry :
          engine.originalLog[engine.currentPosition]? =
            none :=
        Option.map_eq_none_iff.mp hNext
      have hStays :
          ReplayEngine.advance engine =
            (.ok none, engine) := by
        unfold ReplayEngine.advance
        rw [Exec.read_bind_apply, hEntry]
        rfl
      rw [hStays]
      dsimp only
      apply iff_of_false
      · rintro ⟨hMore, _⟩
        omega
      · rintro ⟨⟩
  | some expected =>
      rcases ReplayEngine.advance_of_next hNext with
        ⟨sequence, hAdvance⟩
      rw [engine.nextEvent_eq] at hNext
      have hTake :
          ((engine.originalLog.map LogEntry.event).take
              (engine.currentPosition + 1)).Perm
            (expected ::
              (engine.originalLog.map LogEntry.event).take
                engine.currentPosition) := by
        rw [List.take_add_one, hNext, Option.toList_some]
        exact List.perm_append_singleton _ _
      rw [hAdvance]
      dsimp only
      rw [hTake.congr_right, cons_perm_cons_iff hPerm,
        and_iff_right (by omega), Option.some.injEq]
      exact eq_comm

section Schedules

variable [Debug DeterministicEvent]
variable {system : ConcurrentReplay}

/-
  A step keeps the log consumed once exactly when it does
  not move the position for another event.
-/
theorem consumedOnce_step_iff
    (hOnce : ConsumedOnce system)
    (position : Nat) :
    ConsumedOnce
        (Interleaved.step VerifyPhase.step system
          position) ↔
      AdvancesExpected system position := by
  unfold AdvancesExpected
  cases hCall : system.calls[position]? with
  | none =>
      rw [Interleaved.step_of_none hCall]
      exact iff_of_true hOnce trivial
  | some phase =>
      rcases Interleaved.step_of_some VerifyPhase.step hCall
        with ⟨hShared, hCalls, hNext⟩
      have hBefore :=
        (consumedOnce_congr hCalls).mp hOnce
      have hStep :
          ConsumedOnce
              (Interleaved.step VerifyPhase.step system
                position) ↔
            ConsumedOnce
              ⟨(phase.step system.shared).2,
                (phase.step system.shared).1 ::
                  system.calls.eraseIdx position⟩ := by
        rw [← hShared]
        exact consumedOnce_congr hNext
      rw [hStep]
      cases phase with
      | finished actual outcome =>
          exact iff_of_true hBefore trivial
      | report expected actual =>
          exact iff_of_true hBefore trivial
      | compare actual =>
          have hNone :
              (VerifyPhase.afterCompare
                system.shared.strictMode actual
                system.shared.nextEvent).accepted = none :=
            VerifyPhase.accepted_afterCompare _ _ _
          apply iff_of_true _ trivial
          unfold ConsumedOnce acceptedEvents at hBefore ⊢
          dsimp only [VerifyPhase.step] at hBefore ⊢
          rw [List.filterMap_cons_none hNone]
          exact hBefore
      | advance actual =>
          exact consumedOnce_advance_iff hBefore

/-
  For calls in any order on a new engine, every state has
  the log consumed once exactly when no call moves the
  position past an event that it has not compared with.
-/
theorem consumedOnce_iff
    (log : EventLog)
    (config : DeterministicLogConfig)
    (events : List DeterministicEvent)
    (schedule : List Nat) :
    let start : ConcurrentReplay :=
      ⟨ReplayEngine.new log config,
        events.map VerifyPhase.compare⟩
    Runs.Throughout (Interleaved.step VerifyPhase.step)
        ConsumedOnce start schedule ↔
      Runs.AlongRun (Interleaved.step VerifyPhase.step)
        AdvancesExpected start schedule := by
  intro start
  have hNone :
      acceptedEvents (events.map VerifyPhase.compare) =
        [] := by
    unfold acceptedEvents
    rw [List.filterMap_map]
    exact List.filterMap_eq_nil_iff.mpr fun _ _ => rfl
  have hStart : ConsumedOnce start := by
    unfold ConsumedOnce
    dsimp only [start]
    rw [hNone]
    exact ⟨rfl, List.Perm.refl _⟩
  exact
    Runs.throughout_iff_alongRun
      (fun _ position hOnce =>
        consumedOnce_step_iff hOnce position)
      schedule hStart

end Schedules

end IsaWorkspace

------------------------------------------------------------
-- Sample Schedules
------------------------------------------------------------

namespace IsaWorkspace

open RecordSample (config)
open ReplaySample

/-
  Two calls compare with the read at the start of the log,
  and the second one moves past an interrupt.
-/
theorem consumedOnce_skipped :
    ¬ ConsumedOnce
      (Runs.run (Interleaved.step VerifyPhase.step)
        ⟨ReplayEngine.new
            ⟨[.syscall "read", .signal "SIGINT"]⟩ config,
          [.syscall "read", .syscall "read"].map
            VerifyPhase.compare⟩
        [0, 1, 0, 1]) := by
  decide +kernel

end IsaWorkspace
