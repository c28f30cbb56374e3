import Mathlib.Data.Nat.Basic

/-
  Loops that run until a round says they are done.

  `Loop.run` makes at most a given number of rounds and
  returns nothing if the loop is not done by then.  A loop
  ends with a result when enough rounds return it.

  Main declarations:
    * `Round`, `Loop.run`, `Loop.Ends`
    * `Loop.Ends.unique`
    * `Loop.ends_of_done`, `Loop.ends_again_iff`
    * `Loop.ends_of_measure`
    * `Loop.foldlM_eq_some`
-/

------------------------------------------------------------
-- Loops
------------------------------------------------------------

namespace IsaWorkspace

/- What one round of a loop comes to. -/
inductive Round (S α : Type) where
  | again (state : S)
  | done (result : α)
deriving DecidableEq

namespace Loop

variable {S α : Type}

/- The result of a loop, if so many rounds are enough. -/
def run
    (round : S → Round S α) :
    Nat → S → Option α
| 0, _ => none
| rounds + 1, state =>
    match round state with
    | .again next => run round rounds next
    | .done result => some result

/- From some number of rounds on the result is returned. -/
def Ends
    (round : S → Round S α)
    (state : S)
    (result : α) : Prop :=
  ∃ rounds, ∀ more, rounds ≤ more →
    run round more state = some result

variable {round : S → Round S α}
variable {state next : S} {result other : α}

/- A loop that is done in time is done in more time. -/
theorem run_of_le
    {rounds more : Nat}
    (hRounds : rounds ≤ more)
    (hRun : run round rounds state = some result) :
    run round more state = some result := by
  induction rounds generalizing state more with
  | zero => cases hRun
  | succ rounds ih =>
      cases more with
      | zero => cases hRounds
      | succ more =>
          unfold run at hRun ⊢
          cases hRound : round state with
          | done value =>
              rw [hRound] at hRun
              exact hRun
          | again next =>
              rw [hRound] at hRun
              exact ih (Nat.le_of_succ_le_succ hRounds) hRun

/- A loop ends with whatever some number of rounds return. -/
theorem ends_iff :
    Ends round state result ↔
      ∃ rounds, run round rounds state = some result := by
  constructor
  · rintro ⟨rounds, hRounds⟩
    exact ⟨rounds, hRounds rounds le_rfl⟩
  · rintro ⟨rounds, hRun⟩
    exact
      ⟨rounds, fun more hMore => run_of_le hMore hRun⟩

/- A loop ends with one result at most. -/
theorem Ends.unique
    (hOne : Ends round state result)
    (hOther : Ends round state other) :
    result = other := by
  rcases hOne with ⟨rounds, hRounds⟩
  rcases hOther with ⟨more, hMore⟩
  have hLeft :=
    hRounds (max rounds more) (le_max_left rounds more)
  have hRight :=
    hMore (max rounds more) (le_max_right rounds more)
  rw [hLeft] at hRight
  exact Option.some.inj hRight

theorem ends_of_done
    (hRound : round state = .done result) :
    Ends round state result := by
  apply ends_iff.mpr
  refine ⟨1, ?_⟩
  unfold run
  rw [hRound]

/- One round more does not change how a loop ends. -/
theorem ends_again_iff
    (hRound : round state = .again next) :
    Ends round state result ↔ Ends round next result := by
  rw [ends_iff, ends_iff]
  constructor
  · rintro ⟨rounds, hRun⟩
    cases rounds with
    | zero => cases hRun
    | succ rounds =>
        unfold run at hRun
        rw [hRound] at hRun
        exact ⟨rounds, hRun⟩
  · rintro ⟨rounds, hRun⟩
    refine ⟨rounds + 1, ?_⟩
    unfold run
    rw [hRound]
    exact hRun

/-
  A loop whose rounds keep an invariant and go down in a
  measure ends, with what the invariant says of the result.
-/
theorem ends_of_measure
    {Post : α → Prop}
    (Inv : S → Prop)
    (measure : S → Nat)
    (hAgain :
      ∀ state next, Inv state → round state = .again next →
        Inv next ∧ measure next < measure state)
    (hDone :
      ∀ state result, Inv state →
        round state = .done result → Post result)
    (state : S)
    (hStart : Inv state) :
    ∃ result, Ends round state result ∧ Post result := by
  induction hMeasure : measure state
      using Nat.strongRecOn generalizing state with
  | ind size ih =>
      cases hRound : round state with
      | done result =>
          exact
            ⟨result, ends_of_done hRound,
              hDone state result hStart hRound⟩
      | again next =>
          rcases hAgain state next hStart hRound with
            ⟨hNext, hLess⟩
          rw [hMeasure] at hLess
          rcases ih _ hLess next hNext rfl with
            ⟨result, hEnds, hPost⟩
          exact
            ⟨result, (ends_again_iff hRound).mpr hEnds,
              hPost⟩

------------------------------------------------------------
-- Loops over Lists
------------------------------------------------------------

/- A loop over a list goes through if no round fails. -/
theorem foldlM_eq_some
    {turn : S → α → Option S}
    {next : S → α → S}
    {items : List α}
    (hTurn :
      ∀ item ∈ items, ∀ state,
        turn state item = some (next state item))
    (state : S) :
    items.foldlM turn state =
      some (items.foldl next state) := by
  induction items generalizing state with
  | nil => rfl
  | cons item rest ih =>
      rw [List.foldlM_cons, List.foldl_cons,
        hTurn item List.mem_cons_self]
      exact ih
        (fun other hOther =>
          hTurn other (List.mem_cons_of_mem _ hOther))
        (next state item)

end Loop

end IsaWorkspace
