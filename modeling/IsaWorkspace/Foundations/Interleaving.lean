import Mathlib.Data.List.Basic
import Mathlib.Data.List.Perm.Basic

/-
  Calls that take their atomic steps in any order.

  Several calls share one state.  Each is somewhere between
  its steps, which is its phase, and a step of a call acts
  on the shared state and moves the call to its next phase.
  A schedule is a list of positions; the call at a position
  takes its next step when the schedule names it.

  Main declarations:
    * `Interleaved`, `Interleaved.step`
    * `Interleaved.step_cases`
    * `Interleaved.step_of_some`
    * `Interleaved.invariant_step`
-/

------------------------------------------------------------
-- Interleaved Calls
------------------------------------------------------------

namespace IsaWorkspace

/- A shared state and the phases of the calls on it. -/
structure Interleaved (S P : Type) where
  shared : S
  calls : List P

namespace Interleaved

variable {S P : Type}

/- The call at a position takes its next step. -/
def step
    (phaseStep : P → S → P × S)
    (system : Interleaved S P)
    (position : Nat) : Interleaved S P :=
  match system.calls[position]? with
  | none => system
  | some phase =>
      { shared := (phaseStep phase system.shared).2
        calls :=
          system.calls.set position
            (phaseStep phase system.shared).1 }

variable {phaseStep : P → S → P × S}
variable {system : Interleaved S P} {position : Nat}

theorem step_of_none
    (hCall : system.calls[position]? = none) :
    step phaseStep system position = system := by
  unfold step
  rw [hCall]

/-
  Either no call is named, or one call among the others
  takes its step and the others stay where they are.
-/
theorem step_cases
    (phaseStep : P → S → P × S)
    (system : Interleaved S P)
    (position : Nat) :
    (system.calls[position]? = none ∧
        step phaseStep system position = system) ∨
      ∃ before phase after,
        system.calls[position]? = some phase ∧
          system.calls = before ++ phase :: after ∧
          step phaseStep system position =
            ⟨(phaseStep phase system.shared).2,
              before ++
                (phaseStep phase system.shared).1 ::
                  after⟩ := by
  cases hCall : system.calls[position]? with
  | none => exact Or.inl ⟨rfl, step_of_none hCall⟩
  | some phase =>
      right
      have hRange : position < system.calls.length :=
        (List.getElem?_eq_some_iff.mp hCall).1
      have hPhase : system.calls[position] = phase :=
        (List.getElem?_eq_some_iff.mp hCall).2
      refine
        ⟨system.calls.take position, phase,
          system.calls.drop (position + 1), rfl, ?_, ?_⟩
      · rw [← hPhase, List.getElem_cons_drop,
          List.take_append_drop]
      · unfold step
        rw [hCall]
        dsimp only
        rw [List.set_eq_take_append_cons_drop,
          if_pos hRange]

/-
  The call that takes its step stands among the others, and
  so does what it becomes.
-/
theorem step_of_some
    (phaseStep : P → S → P × S)
    {phase : P}
    (hCall : system.calls[position]? = some phase) :
    (step phaseStep system position).shared =
        (phaseStep phase system.shared).2 ∧
      system.calls.Perm
        (phase :: system.calls.eraseIdx position) ∧
      (step phaseStep system position).calls.Perm
        ((phaseStep phase system.shared).1 ::
          system.calls.eraseIdx position) := by
  rcases List.getElem?_eq_some_iff.mp hCall with
    ⟨hRange, hPhase⟩
  unfold step
  rw [hCall]
  refine ⟨rfl, ?_, ?_⟩
  · rw [← hPhase]
    exact (List.getElem_cons_eraseIdx_perm hRange).symm
  · exact List.set_perm_cons_eraseIdx hRange _

/-
  What does not depend on the order of the calls, and is
  kept when the first of them takes its step, is kept when
  any of them does.
-/
theorem invariant_step
    {I : S → List P → Prop}
    (hPerm :
      ∀ {shared : S} {calls calls' : List P},
        I shared calls → calls.Perm calls' →
          I shared calls')
    (hStep :
      ∀ phase, system.calls[position]? = some phase →
        I system.shared
            (phase :: system.calls.eraseIdx position) →
          I (phaseStep phase system.shared).2
            ((phaseStep phase system.shared).1 ::
              system.calls.eraseIdx position))
    (hInvariant : I system.shared system.calls) :
    I (step phaseStep system position).shared
      (step phaseStep system position).calls := by
  cases hCall : system.calls[position]? with
  | none =>
      rw [step_of_none hCall]
      exact hInvariant
  | some phase =>
      rcases step_of_some phaseStep hCall with
        ⟨hShared, hBefore, hAfter⟩
      rw [hShared]
      have hFirst := hPerm hInvariant hBefore
      exact hPerm (hStep phase hCall hFirst) hAfter.symm

end Interleaved

end IsaWorkspace
