import Mathlib.Data.List.Basic

/-
  Runs of a deterministic machine over a list of actions.

  `run step start actions` is the last state of a run,
  `Throughout` says that a property holds in every state the
  run visits, and `AlongRun` that every action meets a
  condition in the state before it.

  Main declarations:
    * `run`, `Throughout`, `AlongRun`
    * `throughout_of_alongRun`, `alongRun_of_invariant`
    * `throughout_iff_alongRun_of_given`
    * `throughout_iff_alongRun`
    * `throughout_iff_alongRun_of_invariant`
    * `throughout_iff_alongRun_of_stronger`
    * `run_iff_alongRun_of_invariant`
    * `alongRun_of_not_broken`
    * `throughout_iff_prefix`
    * `trace`, `pairwise_trace`
    * `alongRun_of_pairwise_trace`, `run_mem_trace`
    * `answers`, `observed`, `observed_eq_answers_filter`
-/

------------------------------------------------------------
-- Runs
------------------------------------------------------------

namespace IsaWorkspace

namespace Runs

variable {S A : Type}

/- The state after a list of actions. -/
def run
    (step : S → A → S)
    (start : S)
    (actions : List A) : S :=
  actions.foldl step start

/- Every state of the run satisfies `P`. -/
def Throughout
    (step : S → A → S)
    (P : S → Prop) :
    S → List A → Prop
| state, [] => P state
| state, action :: rest =>
    P state ∧ Throughout step P (step state action) rest

/- Every action meets `C` in the state before it. -/
def AlongRun
    (step : S → A → S)
    (C : S → A → Prop) :
    S → List A → Prop
| _, [] => True
| state, action :: rest =>
    C state action ∧
      AlongRun step C (step state action) rest

variable {step : S → A → S}
variable {P Q : S → Prop} {C : S → A → Prop}

instance decidableThroughout
    [DecidablePred P] :
    (state : S) → (actions : List A) →
      Decidable (Throughout step P state actions)
| state, [] => inferInstanceAs (Decidable (P state))
| state, action :: rest =>
    have := decidableThroughout (step state action) rest
    inferInstanceAs
      (Decidable
        (P state ∧
          Throughout step P (step state action) rest))

instance decidableAlongRun
    [∀ state, DecidablePred (C state)] :
    (state : S) → (actions : List A) →
      Decidable (AlongRun step C state actions)
| _, [] => inferInstanceAs (Decidable True)
| state, action :: rest =>
    have := decidableAlongRun (step state action) rest
    inferInstanceAs
      (Decidable
        (C state action ∧
          AlongRun step C (step state action) rest))

@[simp] theorem run_nil
    (start : S) :
    run step start [] = start := rfl

@[simp] theorem run_cons
    (start : S)
    (action : A)
    (rest : List A) :
    run step start (action :: rest) =
      run step (step start action) rest := rfl

theorem run_append
    (start : S)
    (earlier later : List A) :
    run step start (earlier ++ later) =
      run step (run step start earlier) later := by
  exact List.foldl_append

/- The last action of a run acts on the state before it. -/
theorem run_concat
    (start : S)
    (earlier : List A)
    (action : A) :
    run step start (earlier ++ [action]) =
      step (run step start earlier) action := by
  rw [run_append]
  rfl

/- A condition is met along two runs in a row. -/
theorem alongRun_append
    {state : S}
    {earlier later : List A} :
    AlongRun step C state (earlier ++ later) ↔
      AlongRun step C state earlier ∧
        AlongRun step C (run step state earlier) later := by
  induction earlier generalizing state with
  | nil => exact (true_and _).symm.to_iff
  | cons action rest ih =>
      rw [List.cons_append, AlongRun, AlongRun, ih,
        and_assoc]
      rfl

/- The first state of a run is one of its states. -/
theorem Throughout.start
    {state : S}
    {actions : List A}
    (hRun : Throughout step P state actions) :
    P state := by
  cases actions with
  | nil => exact hRun
  | cons action rest => exact hRun.1

/- The last state of a run is one of its states. -/
theorem Throughout.last
    {state : S}
    {actions : List A}
    (hRun : Throughout step P state actions) :
    P (run step state actions) := by
  induction actions generalizing state with
  | nil => exact hRun
  | cons action rest ih => exact ih hRun.2

theorem Throughout.mono
    {state : S}
    {actions : List A}
    (hImp : ∀ state, P state → Q state)
    (hRun : Throughout step P state actions) :
    Throughout step Q state actions := by
  induction actions generalizing state with
  | nil => exact hImp state hRun
  | cons action rest ih =>
      exact ⟨hImp state hRun.1, ih hRun.2⟩

/-
  A property holds throughout a run exactly when it holds
  after every prefix of the actions.
-/
theorem throughout_iff_prefix
    {state : S}
    {actions : List A} :
    Throughout step P state actions ↔
      ∀ earlier, earlier <+: actions →
        P (run step state earlier) := by
  induction actions generalizing state with
  | nil =>
      simp [Throughout]
  | cons action rest ih =>
      rw [Throughout, ih]
      constructor
      · rintro ⟨hState, hRest⟩ earlier hPrefix
        cases earlier with
        | nil => exact hState
        | cons first earlier =>
            rcases List.cons_prefix_cons.mp hPrefix with
              ⟨rfl, hTail⟩
            exact hRest earlier hTail
      · intro hAll
        refine ⟨hAll [] (List.nil_prefix), ?_⟩
        intro earlier hPrefix
        exact hAll (action :: earlier)
          (List.cons_prefix_cons.mpr ⟨rfl, hPrefix⟩)

------------------------------------------------------------
-- Invariants
------------------------------------------------------------

/-
  A property kept by every step that meets the condition
  holds throughout every run whose steps all meet it.
-/
theorem throughout_of_alongRun
    (hStep :
      ∀ state action, P state → C state action →
        P (step state action))
    {state : S}
    {actions : List A}
    (hStart : P state)
    (hAlong : AlongRun step C state actions) :
    Throughout step P state actions := by
  induction actions generalizing state with
  | nil => exact hStart
  | cons action rest ih =>
      exact
        ⟨hStart,
          ih (hStep state action hStart hAlong.1)
            hAlong.2⟩

/-
  An invariant of the steps that meet one condition carries
  over to the other conditions it implies.
-/
theorem alongRun_of_invariant
    {D : S → A → Prop}
    (hStep :
      ∀ state action, P state → C state action →
        P (step state action))
    (hMeets :
      ∀ state action, P state → C state action →
        D state action)
    {state : S}
    {actions : List A}
    (hStart : P state)
    (hAlong : AlongRun step C state actions) :
    AlongRun step D state actions := by
  induction actions generalizing state with
  | nil => trivial
  | cons action rest ih =>
      exact
        ⟨hMeets state action hStart hAlong.1,
          ih (hStep state action hStart hAlong.1)
            hAlong.2⟩

theorem AlongRun.mono
    {D : S → A → Prop}
    {state : S}
    {actions : List A}
    (hImp :
      ∀ state action, C state action → D state action)
    (hAlong : AlongRun step C state actions) :
    AlongRun step D state actions := by
  induction actions generalizing state with
  | nil => trivial
  | cons action rest ih =>
      exact ⟨hImp state action hAlong.1, ih hAlong.2⟩

/- A property kept by every step holds throughout. -/
theorem throughout_of_step
    (hStep :
      ∀ state action, P state → P (step state action))
    {state : S}
    (actions : List A)
    (hStart : P state) :
    Throughout step P state actions := by
  induction actions generalizing state with
  | nil => exact hStart
  | cons action rest ih =>
      exact ⟨hStart, ih (hStep state action hStart)⟩

/-
  Let the condition decide, step by step and under an
  invariant `Q` of the steps that meet `F`, whether `P`
  survives.  Then it decides whether `P` holds throughout a
  run whose steps all meet `F`.
-/
theorem throughout_iff_alongRun_of_given
    {F : S → A → Prop}
    (hInvariant :
      ∀ state action, Q state → F state action →
        Q (step state action))
    (hStep :
      ∀ state action, Q state → F state action → P state →
        (P (step state action) ↔ C state action))
    {state : S}
    {actions : List A}
    (hInitial : Q state)
    (hStart : P state)
    (hGiven : AlongRun step F state actions) :
    Throughout step P state actions ↔
      AlongRun step C state actions := by
  induction actions generalizing state with
  | nil =>
      exact ⟨fun _ => trivial, fun _ => hStart⟩
  | cons action rest ih =>
      rcases hGiven with ⟨hFirst, hLater⟩
      have hDecides :=
        hStep state action hInitial hFirst hStart
      have hKept := hInvariant state action hInitial hFirst
      constructor
      · rintro ⟨_, hRest⟩
        have hNext : P (step state action) := hRest.start
        exact
          ⟨hDecides.mp hNext,
            (ih hKept hNext hLater).mp hRest⟩
      · rintro ⟨hCondition, hRest⟩
        have hNext : P (step state action) :=
          hDecides.mpr hCondition
        exact
          ⟨hStart, (ih hKept hNext hLater).mpr hRest⟩

/-
  A condition that every action meets in every state is met
  along every run.
-/
theorem alongRun_of_forall_mem
    {state : S}
    {actions : List A}
    (hAll :
      ∀ action ∈ actions, ∀ state, C state action) :
    AlongRun step C state actions := by
  induction actions generalizing state with
  | nil => trivial
  | cons action rest ih =>
      refine ⟨hAll action (List.mem_cons_self) state, ?_⟩
      apply ih
      intro other hOther
      exact hAll other (List.mem_cons_of_mem _ hOther)

/-
  What an action must be to meet a condition in any state,
  all actions of a run along which it is met are.
-/
theorem forall_mem_of_alongRun
    {D : A → Prop}
    (hNeeds :
      ∀ state action, C state action → D action)
    {state : S}
    {actions : List A}
    (hAlong : AlongRun step C state actions) :
    ∀ action ∈ actions, D action := by
  induction actions generalizing state with
  | nil =>
      intro action hAction
      cases hAction
  | cons first rest ih =>
      intro action hAction
      rcases List.mem_cons.mp hAction with rfl | hRest
      · exact hNeeds state action hAlong.1
      · exact ih hAlong.2 action hRest

/-
  When the condition decides, step by step and under an
  unconditional invariant `Q`, whether `P` survives, it
  decides whether `P` holds throughout.
-/
theorem throughout_iff_alongRun_of_invariant
    (hInvariant :
      ∀ state action, Q state → Q (step state action))
    (hStep :
      ∀ state action, Q state → P state →
        (P (step state action) ↔ C state action))
    {state : S}
    {actions : List A}
    (hInitial : Q state)
    (hStart : P state) :
    Throughout step P state actions ↔
      AlongRun step C state actions := by
  exact
    throughout_iff_alongRun_of_given
      (fun state action hKept (_ : True) =>
        hInvariant state action hKept)
      (fun state action hKept _ => hStep state action hKept)
      hInitial hStart
      (alongRun_of_forall_mem fun _ _ _ => trivial)

/-
  When the condition decides, step by step, whether `P`
  survives, it decides whether `P` holds throughout.
-/
theorem throughout_iff_alongRun
    (hStep :
      ∀ state action, P state →
        (P (step state action) ↔ C state action))
    {state : S}
    (actions : List A)
    (hStart : P state) :
    Throughout step P state actions ↔
      AlongRun step C state actions := by
  have hInvariant :
      ∀ (state : S) (action : A), True → True :=
    fun _ _ _ => trivial
  exact
    throughout_iff_alongRun_of_invariant hInvariant
      (fun state action _ => hStep state action) trivial
      hStart

/-
  A condition that a step to `P` needs, and that keeps an
  invariant stronger than `P`, decides whether `P` holds
  throughout.
-/
theorem throughout_iff_alongRun_of_stronger
    (hStronger : ∀ state, Q state → P state)
    (hNeeds :
      ∀ state action, Q state → P (step state action) →
        C state action)
    (hKeeps :
      ∀ state action, Q state → C state action →
        Q (step state action))
    {state : S}
    {actions : List A}
    (hStart : Q state) :
    Throughout step P state actions ↔
      AlongRun step C state actions := by
  constructor
  · intro hRun
    induction actions generalizing state with
    | nil => trivial
    | cons action rest ih =>
        have hCondition :=
          hNeeds state action hStart hRun.2.start
        exact
          ⟨hCondition,
            ih (hKeeps state action hStart hCondition)
              hRun.2⟩
  · intro hAlong
    exact
      (throughout_of_alongRun hKeeps hStart hAlong).mono
        hStronger

/-
  When a step keeps `P` only from states that have it, and
  exactly where the condition is met, the condition decides
  whether the last state has `P`.
-/
theorem run_iff_alongRun_of_invariant
    (hInvariant :
      ∀ state action, Q state → Q (step state action))
    (hStep :
      ∀ state action, Q state →
        (P (step state action) ↔
          P state ∧ C state action))
    {state : S}
    (actions : List A)
    (hInitial : Q state)
    (hStart : P state) :
    P (run step state actions) ↔
      AlongRun step C state actions := by
  have hRun :
      P (run step state actions) ↔
        P state ∧ AlongRun step C state actions := by
    clear hStart
    induction actions generalizing state with
    | nil => exact ⟨fun hP => ⟨hP, trivial⟩, And.left⟩
    | cons action rest ih =>
        rw [run_cons, ih (hInvariant state action hInitial),
          hStep state action hInitial]
        exact and_assoc
  rw [hRun]
  exact and_iff_right hStart

/- An invariant holds in the last state of a run. -/
theorem run_of_invariant
    (hInvariant :
      ∀ state action, Q state → Q (step state action))
    {state : S}
    (actions : List A)
    (hInitial : Q state) :
    Q (run step state actions) :=
  (throughout_of_step hInvariant actions hInitial).last

/-
  Where breaking the condition leads to what no later step
  repairs, a run that ends without it met the condition.
-/
theorem alongRun_of_not_broken
    {Broken : S → Prop}
    (hBreaks :
      ∀ state action, ¬ C state action →
        Broken (step state action))
    (hStays :
      ∀ state action, Broken state →
        Broken (step state action))
    {state : S}
    {actions : List A}
    (hFinal : ¬ Broken (run step state actions)) :
    AlongRun step C state actions := by
  induction actions generalizing state with
  | nil => trivial
  | cons action rest ih =>
      refine ⟨?_, ih hFinal⟩
      by_contra hCondition
      exact
        hFinal
          (run_of_invariant hStays rest
            (hBreaks state action hCondition))

------------------------------------------------------------
-- Traces
------------------------------------------------------------

/- The states that a run visits, one after another. -/
def trace
    (step : S → A → S) :
    S → List A → List S
| state, [] => [state]
| state, action :: rest =>
    state :: trace step (step state action) rest

/- A trace starts with the first state of the run. -/
theorem trace_eq_cons
    (step : S → A → S)
    (state : S)
    (actions : List A) :
    ∃ later, trace step state actions = state :: later := by
  cases actions with
  | nil => exact ⟨[], rfl⟩
  | cons action rest => exact ⟨_, rfl⟩

/-
  If each step goes on from its state in a transitive way,
  every state of the run goes on from all earlier ones.
-/
theorem pairwise_trace
    {R : S → S → Prop}
    (hTrans :
      ∀ first second third, R first second →
        R second third → R first third)
    {state : S}
    {actions : List A}
    (hAlong :
      AlongRun step
        (fun state action => R state (step state action))
        state actions) :
    (trace step state actions).Pairwise R := by
  induction actions generalizing state with
  | nil => exact List.pairwise_singleton R state
  | cons action rest ih =>
      have hLater := ih hAlong.2
      rcases trace_eq_cons step (step state action) rest with
        ⟨later, hTrace⟩
      refine List.pairwise_cons.mpr ⟨?_, hLater⟩
      rw [hTrace] at hLater ⊢
      intro other hOther
      rcases List.mem_cons.mp hOther with rfl | hMember
      · exact hAlong.1
      · exact
          hTrans _ _ _ hAlong.1
            ((List.pairwise_cons.mp hLater).1 other hMember)

/- In a trace, each step goes on from its state. -/
theorem alongRun_of_pairwise_trace
    {R : S → S → Prop}
    {state : S}
    {actions : List A}
    (hTrace : (trace step state actions).Pairwise R) :
    AlongRun step
      (fun state action => R state (step state action))
      state actions := by
  induction actions generalizing state with
  | nil => trivial
  | cons action rest ih =>
      rcases List.pairwise_cons.mp hTrace with
        ⟨hFirst, hLater⟩
      refine ⟨?_, ih hLater⟩
      rcases trace_eq_cons step (step state action) rest with
        ⟨later, hNext⟩
      apply hFirst
      rw [hNext]
      exact List.mem_cons_self

/- Every prefix of a run leads to a state of its trace. -/
theorem run_mem_trace
    {state : S}
    {earlier actions : List A}
    (hPrefix : earlier <+: actions) :
    run step state earlier ∈ trace step state actions := by
  induction earlier generalizing state actions with
  | nil =>
      rcases trace_eq_cons step state actions with
        ⟨later, hTrace⟩
      rw [hTrace]
      exact List.mem_cons_self
  | cons action rest ih =>
      rcases hPrefix with ⟨after, rfl⟩
      exact
        List.mem_cons_of_mem state
          (ih (List.prefix_append rest after))

/- The state after a run goes on from the first one. -/
theorem of_pairwise_trace
    {R : S → S → Prop}
    {state : S}
    {earlier actions : List A}
    {action : A}
    (hTrace : (trace step state actions).Pairwise R)
    (hPrefix : action :: earlier <+: actions) :
    R state (run step state (action :: earlier)) := by
  rcases hPrefix with ⟨after, rfl⟩
  exact
    (List.pairwise_cons.mp hTrace).1 _
      (run_mem_trace (List.prefix_append earlier after))

------------------------------------------------------------
-- Answers
------------------------------------------------------------

variable {B : Type}

/- What the actions of a run answer, one after another. -/
def answers
    (step : S → A → S)
    (answer : S → A → B) :
    S → List A → List B
| _, [] => []
| state, action :: rest =>
    answer state action ::
      answers step answer (step state action) rest

/- What the actions answer that an observer sees. -/
def observed
    (step : S → A → S)
    (answer : S → A → B)
    (visible : A → Bool) :
    S → List A → List B
| _, [] => []
| state, action :: rest =>
    if visible action then
      answer state action ::
        observed step answer visible (step state action) rest
    else
      observed step answer visible (step state action) rest

/-
  Let states be alike to an observer after actions that it
  does not see, and after each that it sees, which answers
  the same.  Then it observes what it would if there were
  only the actions that it sees.
-/
theorem observed_eq_answers_filter
    {answer : S → A → B}
    {visible : A → Bool}
    {Alike : S → S → Prop}
    (hHidden :
      ∀ state other action, Alike state other →
        visible action = false →
          Alike (step state action) other)
    (hVisible :
      ∀ state other action, Alike state other →
        visible action = true →
          answer state action = answer other action ∧
            Alike (step state action) (step other action))
    {state other : S}
    (actions : List A)
    (hAlike : Alike state other) :
    observed step answer visible state actions =
      answers step answer other
        (actions.filter visible) := by
  induction actions generalizing state other with
  | nil => rfl
  | cons action rest ih =>
      unfold observed
      split
      · next hSeen =>
          rcases hVisible state other action hAlike hSeen with
            ⟨hAnswer, hNext⟩
          rw [List.filter_cons_of_pos hSeen, answers, hAnswer,
            ih hNext]
      · next hUnseen =>
          have hFalse := Bool.eq_false_iff.mpr hUnseen
          rw [List.filter_cons_of_neg hUnseen,
            ih (hHidden state other action hAlike hFalse)]

end Runs

end IsaWorkspace
