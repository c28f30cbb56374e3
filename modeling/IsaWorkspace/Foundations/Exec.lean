import Mathlib.Logic.Basic

/-
  Stateful computations that return, fail, or panic.

  `Outcome` is the result of one call: a value, a reported
  error, or a panic.  `Exec σ ε α` threads a state of type
  `σ` through such calls.  A failing or panicking call keeps
  the state changes it had already made, as a function that
  mutates through shared references does.

  Main declarations:
    * `Outcome`
    * `Exec` and its monad operations
    * `Exec.mapErr`, `Exec.ignoreErr`, `Exec.onPart`
    * `Exec.bind_of_ok`, `Exec.bind_of_err`
    * `Exec.OkOr`, `Exec.bind_okOr`
    * `Exec.of_bind_ok`
-/

------------------------------------------------------------
-- Outcomes
------------------------------------------------------------

namespace IsaWorkspace

/- The three ways a call can end. -/
inductive Outcome (ε α : Type) where
  | ok (value : α)
  | err (error : ε)
  | panicked
deriving DecidableEq, Repr

/- Whether a call has returned a value. -/
def Outcome.isOk
    {ε α : Type} : Outcome ε α → Bool
| .ok _ => true
| .err _ => false
| .panicked => false

end IsaWorkspace

------------------------------------------------------------
-- Stateful Computations
------------------------------------------------------------

namespace IsaWorkspace

/- A computation over a mutable state. -/
def Exec (σ ε α : Type) : Type :=
  σ → Outcome ε α × σ

namespace Exec

variable {σ τ ε α β : Type}

/- Return a value and leave the state alone. -/
protected def pure
    (value : α) : Exec σ ε α :=
  fun state => (.ok value, state)

/-
  Run a second computation on the value of the first.  An
  error or a panic of the first is the whole result.
-/
protected def bind
    (first : Exec σ ε α)
    (next : α → Exec σ ε β) : Exec σ ε β :=
  fun state =>
    match first state with
    | (.ok value, state') => next value state'
    | (.err error, state') => (.err error, state')
    | (.panicked, state') => (.panicked, state')

instance : Monad (Exec σ ε) where
  pure := Exec.pure
  bind := Exec.bind

/- Report an error. -/
def fail
    (error : ε) : Exec σ ε α :=
  fun state => (.err error, state)

/- Unwind. -/
def panic : Exec σ ε α :=
  fun state => (.panicked, state)

/- Read the state. -/
def read : Exec σ ε σ :=
  fun state => (.ok state, state)

/- Change the state. -/
def update
    (change : σ → σ) : Exec σ ε Unit :=
  fun state => (.ok (), change state)

/- Return a value, or wrap a foreign error and report it. -/
def ofExcept
    (wrap : String → ε) :
    Except String α → Exec σ ε α
| .ok value => Exec.pure value
| .error message => Exec.fail (wrap message)

/- Take over the outcome of another computation. -/
def ofOutcome
    (outcome : Outcome ε α) : Exec σ ε α :=
  fun state => (outcome, state)

/- Return a value, or panic where there is none. -/
def orPanic : Option α → Exec σ ε α
| some value => Exec.pure value
| none => Exec.panic

/- Rename the error of a computation. -/
def mapErr
    {ε' : Type}
    (wrap : ε → ε')
    (inner : Exec σ ε α) : Exec σ ε' α :=
  fun state =>
    match inner state with
    | (.ok value, state') => (.ok value, state')
    | (.err error, state') => (.err (wrap error), state')
    | (.panicked, state') => (.panicked, state')

/- Go on after an error of a computation. -/
def ignoreErr
    (inner : Exec σ ε Unit) : Exec σ ε Unit :=
  fun state =>
    match inner state with
    | (.err _, state') => (.ok (), state')
    | result => result

/- The value of a computation, or none after an error. -/
def okOrNone
    {ε' : Type}
    (inner : Exec σ ε α) : Exec σ ε' (Option α) :=
  fun state =>
    match inner state with
    | (.ok value, state') => (.ok (some value), state')
    | (.err _, state') => (.ok none, state')
    | (.panicked, state') => (.panicked, state')

/- Run a computation on one part of a larger state. -/
def onPart
    (get : σ → τ)
    (set : σ → τ → σ)
    (inner : Exec τ ε α) : Exec σ ε α :=
  fun state =>
    ((inner (get state)).1,
      set state (inner (get state)).2)

------------------------------------------------------------
-- Evaluation Rules
------------------------------------------------------------

@[simp] theorem pure_apply
    (value : α)
    (state : σ) :
    (pure value : Exec σ ε α) state =
      (.ok value, state) := rfl

@[simp] theorem fail_apply
    (error : ε)
    (state : σ) :
    (Exec.fail error : Exec σ ε α) state =
      (.err error, state) := rfl

@[simp] theorem update_apply
    (change : σ → σ)
    (state : σ) :
    (Exec.update change : Exec σ ε Unit) state =
      (.ok (), change state) := rfl

@[simp] theorem ofExcept_ok
    (wrap : String → ε)
    (value : α) :
    (ofExcept wrap (.ok value) : Exec σ ε α) =
      pure value := rfl

/- Wrapping a foreign error leaves the state alone. -/
theorem ofExcept_state
    (wrap : String → ε)
    (result : Except String α)
    (state : σ) :
    ((ofExcept wrap result : Exec σ ε α) state).2 =
      state := by
  cases result with
  | ok value => rfl
  | error message => rfl

@[simp] theorem orPanic_some
    (value : α) :
    (orPanic (some value) : Exec σ ε α) =
      pure value := rfl

theorem ofOutcome_apply
    (outcome : Outcome ε α)
    (state : σ) :
    (ofOutcome outcome : Exec σ ε α) state =
      (outcome, state) := rfl

theorem onPart_apply
    (get : σ → τ)
    (set : σ → τ → σ)
    (inner : Exec τ ε α)
    (state : σ) :
    onPart get set inner state =
      ((inner (get state)).1,
        set state (inner (get state)).2) := rfl

/- Renaming errors keeps a returned value. -/
theorem mapErr_of_ok
    {ε' : Type}
    {wrap : ε → ε'}
    {inner : Exec σ ε α}
    {state state' : σ}
    {value : α}
    (hInner : inner state = (.ok value, state')) :
    mapErr wrap inner state = (.ok value, state') := by
  simp only [mapErr, hInner]

theorem mapErr_of_err
    {ε' : Type}
    {wrap : ε → ε'}
    {inner : Exec σ ε α}
    {state state' : σ}
    {error : ε}
    (hInner : inner state = (.err error, state')) :
    mapErr wrap inner state =
      (.err (wrap error), state') := by
  simp only [mapErr, hInner]

theorem mapErr_of_panicked
    {ε' : Type}
    {wrap : ε → ε'}
    {inner : Exec σ ε α}
    {state state' : σ}
    (hInner : inner state = (.panicked, state')) :
    mapErr wrap inner state = (.panicked, state') := by
  simp only [mapErr, hInner]

/- Renaming errors leaves the state alone. -/
theorem mapErr_state
    {ε' : Type}
    (wrap : ε → ε')
    (inner : Exec σ ε α)
    (state : σ) :
    (mapErr wrap inner state).2 = (inner state).2 := by
  rcases hInner : inner state with ⟨outcome, state'⟩
  cases outcome with
  | ok value => rw [mapErr_of_ok hInner]
  | err error => rw [mapErr_of_err hInner]
  | panicked => rw [mapErr_of_panicked hInner]

theorem ignoreErr_of_ok
    {inner : Exec σ ε Unit}
    {state state' : σ}
    {value : Unit}
    (hInner : inner state = (.ok value, state')) :
    ignoreErr inner state = (.ok value, state') := by
  simp only [ignoreErr, hInner]

theorem ignoreErr_of_err
    {inner : Exec σ ε Unit}
    {state state' : σ}
    {error : ε}
    (hInner : inner state = (.err error, state')) :
    ignoreErr inner state = (.ok (), state') := by
  simp only [ignoreErr, hInner]

theorem ignoreErr_of_panicked
    {inner : Exec σ ε Unit}
    {state state' : σ}
    (hInner : inner state = (.panicked, state')) :
    ignoreErr inner state = (.panicked, state') := by
  simp only [ignoreErr, hInner]

/- What is returned under renamed errors was returned. -/
theorem of_mapErr_ok
    {ε' : Type}
    {wrap : ε → ε'}
    {inner : Exec σ ε α}
    {state state' : σ}
    {value : α}
    (hOuter :
      mapErr wrap inner state = (.ok value, state')) :
    inner state = (.ok value, state') := by
  rcases hInner : inner state with ⟨outcome, middle⟩
  cases outcome with
  | ok result =>
      rw [mapErr_of_ok hInner] at hOuter
      cases hOuter
      rfl
  | err error =>
      rw [mapErr_of_err hInner] at hOuter
      cases hOuter
  | panicked =>
      rw [mapErr_of_panicked hInner] at hOuter
      cases hOuter

/- Passing over errors leaves the state alone. -/
theorem ignoreErr_state
    (inner : Exec σ ε Unit)
    (state : σ) :
    (ignoreErr inner state).2 = (inner state).2 := by
  rcases hInner : inner state with ⟨outcome, state'⟩
  cases outcome with
  | ok value => rw [ignoreErr_of_ok hInner]
  | err error => rw [ignoreErr_of_err hInner]
  | panicked => rw [ignoreErr_of_panicked hInner]

/- A returning first computation hands over its value. -/
theorem bind_of_ok
    {first : Exec σ ε α}
    {next : α → Exec σ ε β}
    {state state' : σ}
    {value : α}
    (hFirst : first state = (.ok value, state')) :
    (first >>= next) state = next value state' := by
  change Exec.bind first next state = _
  simp only [Exec.bind, hFirst]

/- A failing first computation is the whole result. -/
theorem bind_of_err
    {first : Exec σ ε α}
    {next : α → Exec σ ε β}
    {state state' : σ}
    {error : ε}
    (hFirst : first state = (.err error, state')) :
    (first >>= next) state = (.err error, state') := by
  change Exec.bind first next state = _
  simp only [Exec.bind, hFirst]

/- A panicking first computation is the whole result. -/
theorem bind_of_panicked
    {first : Exec σ ε α}
    {next : α → Exec σ ε β}
    {state state' : σ}
    (hFirst : first state = (.panicked, state')) :
    (first >>= next) state = (.panicked, state') := by
  change Exec.bind first next state = _
  simp only [Exec.bind, hFirst]

/- Computations that follow each other, in either grouping. -/
theorem bind_assoc
    {γ : Type}
    (first : Exec σ ε α)
    (next : α → Exec σ ε β)
    (last : β → Exec σ ε γ) :
    first >>= next >>= last =
      first >>= fun value => next value >>= last := by
  funext state
  rcases hFirst : first state with ⟨outcome, middle⟩
  cases outcome with
  | ok value =>
      rw [bind_of_ok hFirst]
      change Exec.bind (Exec.bind first next) last state = _
      simp only [Exec.bind, hFirst]
      rfl
  | err error =>
      rw [bind_of_err hFirst]
      exact bind_of_err (bind_of_err hFirst)
  | panicked =>
      rw [bind_of_panicked hFirst]
      exact bind_of_panicked (bind_of_panicked hFirst)

/-
  What the first computation brings about, and the second
  keeps, holds of the state the composite ends in, whatever
  its outcome.
-/
theorem bind_state
    (P : σ → Prop)
    {first : Exec σ ε α}
    {next : α → Exec σ ε β}
    {state : σ}
    (hFirst : P (first state).2)
    (hNext :
      ∀ value middle, P middle → P (next value middle).2) :
    P ((first >>= next) state).2 := by
  rcases hCall : first state with ⟨outcome, middle⟩
  rw [hCall] at hFirst
  cases outcome with
  | ok value =>
      rw [bind_of_ok hCall]
      exact hNext value middle hFirst
  | err error =>
      rw [bind_of_err hCall]
      exact hFirst
  | panicked =>
      rw [bind_of_panicked hCall]
      exact hFirst

/- A call returns, or it ends in a state that satisfies `P`. -/
def OkOr
    (P : σ → Prop)
    (call : Exec σ ε α)
    (state : σ) : Prop :=
  (call state).1.isOk = true ∨ P (call state).2

/-
  When the first computation ends in `P`, whatever its
  outcome, and the second returns or keeps `P`, then so does
  the composite.
-/
theorem bind_okOr
    {P : σ → Prop}
    {first : Exec σ ε α}
    {next : α → Exec σ ε β}
    {state : σ}
    (hFirst : P (first state).2)
    (hNext :
      ∀ value middle, P middle →
        OkOr P (next value) middle) :
    OkOr P (first >>= next) state := by
  rcases hCall : first state with ⟨outcome, middle⟩
  rw [hCall] at hFirst
  cases outcome with
  | ok value =>
      unfold OkOr
      rw [bind_of_ok hCall]
      exact hNext value middle hFirst
  | err error =>
      right
      rw [bind_of_err hCall]
      exact hFirst
  | panicked =>
      right
      rw [bind_of_panicked hCall]
      exact hFirst

/- A composite that returned ran both computations. -/
theorem of_bind_ok
    {first : Exec σ ε α}
    {next : α → Exec σ ε β}
    {state state' : σ}
    {result : β}
    (hBind :
      (first >>= next) state = (.ok result, state')) :
    ∃ value middle,
      first state = (.ok value, middle) ∧
        next value middle = (.ok result, state') := by
  rcases hFirst : first state with ⟨outcome, middle⟩
  cases outcome with
  | ok value =>
      rw [bind_of_ok hFirst] at hBind
      exact ⟨value, middle, rfl, hBind⟩
  | err error =>
      rw [bind_of_err hFirst] at hBind
      cases hBind
  | panicked =>
      rw [bind_of_panicked hFirst] at hBind
      cases hBind

/- What a call on a part returned, the part's call did. -/
theorem of_onPart_ok
    {get : σ → τ}
    {set : σ → τ → σ}
    {inner : Exec τ ε α}
    {state state' : σ}
    {value : α}
    (hOuter :
      onPart get set inner state = (.ok value, state')) :
    ∃ part,
      inner (get state) = (.ok value, part) ∧
        state' = set state part := by
  rw [onPart_apply] at hOuter
  rcases hInner : inner (get state) with ⟨outcome, part⟩
  rw [hInner] at hOuter
  cases hOuter
  exact ⟨part, rfl, rfl⟩

theorem of_ofExcept_ok
    {wrap : String → ε}
    {result : Except String α}
    {state state' : σ}
    {value : α}
    (hOk :
      (ofExcept wrap result : Exec σ ε α) state =
        (.ok value, state')) :
    result = .ok value ∧ state' = state := by
  cases result with
  | ok found =>
      cases hOk
      exact ⟨rfl, rfl⟩
  | error message => cases hOk

theorem of_orPanic_ok
    {result : Option α}
    {state state' : σ}
    {value : α}
    (hOk :
      (orPanic result : Exec σ ε α) state =
        (.ok value, state')) :
    result = some value ∧ state' = state := by
  cases result with
  | some found =>
      cases hOk
      exact ⟨rfl, rfl⟩
  | none => cases hOk

@[simp] theorem pure_bind_apply
    (value : α)
    (next : α → Exec σ ε β)
    (state : σ) :
    ((pure value : Exec σ ε α) >>= next) state =
      next value state := rfl

@[simp] theorem read_bind_apply
    (next : σ → Exec σ ε β)
    (state : σ) :
    ((Exec.read : Exec σ ε σ) >>= next) state =
      next state state := rfl

@[simp] theorem update_bind_apply
    (change : σ → σ)
    (next : Unit → Exec σ ε β)
    (state : σ) :
    ((Exec.update change : Exec σ ε Unit) >>= next) state =
      next () (change state) := rfl

end Exec

end IsaWorkspace
