import Mathlib.Algebra.BigOperators.Group.List.Basic
import Mathlib.Algebra.Order.Field.Basic
import Mathlib.Data.List.Chain
import Mathlib.Tactic.Ring

/-
  What can be drawn from a vessel that is filled at a rate.

  A draw takes an amount at some time and leaves the rest.
  The vessel holds no more than its capacity, and between
  two draws no more flows in than the rate allows.  So over
  any closed interval of time no more is drawn than the
  capacity and what flows in meanwhile.

  Main declarations:
    * `Draw`, `Draw.Within`, `Draw.Follows`
    * `Draw.takenIn`
    * `Draw.takenIn_le_left`
    * `Draw.takenIn_le`
-/

------------------------------------------------------------
-- Draws
------------------------------------------------------------

namespace IsaWorkspace

/- An amount taken at a time, and what it leaves. -/
structure Draw (K : Type) where
  time : K
  taken : K
  left : K

namespace Draw

variable {K : Type}
variable [Field K] [LinearOrder K] [IsStrictOrderedRing K]

/- No more is taken and left than the vessel holds. -/
structure Within
    (capacity : K)
    (draw : Draw K) : Prop where
  left_nonneg : 0 ≤ draw.left
  total_le : draw.taken + draw.left ≤ capacity

/- No more flows in between two draws than the rate allows. -/
structure Follows
    (rate : K)
    (earlier later : Draw K) : Prop where
  time_le : earlier.time ≤ later.time
  inflow :
    later.taken + later.left ≤
      earlier.left + rate * (later.time - earlier.time)

/- Whether a draw is made in a closed interval. -/
def isIn
    (first last : K)
    (draw : Draw K) : Bool :=
  decide (first ≤ draw.time ∧ draw.time ≤ last)

/- What is taken in a closed interval. -/
def takenIn
    (first last : K)
    (draws : List (Draw K)) : K :=
  ((draws.filter (isIn first last)).map Draw.taken).sum

variable {capacity rate first last : K}
variable {draw : Draw K} {draws : List (Draw K)}

omit [IsStrictOrderedRing K] in
theorem takenIn_cons
    (first last : K)
    (draw : Draw K)
    (draws : List (Draw K)) :
    takenIn first last (draw :: draws) =
      (if isIn first last draw then draw.taken else 0) +
        takenIn first last draws := by
  unfold takenIn
  rw [List.filter_cons]
  split
  · rw [List.map_cons, List.sum_cons]
  · rw [zero_add]

/- Later draws are made no earlier. -/
omit [IsStrictOrderedRing K] in
theorem time_le_of_isChain
    (hChain : (draw :: draws).IsChain (Follows rate)) :
    ∀ later ∈ draws, draw.time ≤ later.time := by
  induction draws generalizing draw with
  | nil =>
      intro later hLater
      cases hLater
  | cons next rest ih =>
      rcases List.isChain_cons_cons.mp hChain with
        ⟨hNext, hRest⟩
      intro later hLater
      rcases List.mem_cons.mp hLater with rfl | hLater
      · exact hNext.time_le
      · exact hNext.time_le.trans (ih hRest later hLater)

/- After the end of an interval, nothing is taken in it. -/
omit [IsStrictOrderedRing K] in
theorem takenIn_of_last_lt
    (hAfter : ∀ draw ∈ draws, last < draw.time) :
    takenIn first last draws = 0 := by
  have hNone :
      draws.filter (isIn first last) = [] := by
    apply List.filter_eq_nil_iff.mpr
    intro draw hDraw hIn
    exact
      absurd (of_decide_eq_true hIn).2
        (not_le.mpr (hAfter draw hDraw))
  unfold takenIn
  rw [hNone]
  rfl

/-
  The potential: from a draw on, no more is taken than it
  leaves and than flows in until the end of the interval.
-/
theorem takenIn_le_left
    (hRate : 0 ≤ rate)
    (hChain : (draw :: draws).IsChain (Follows rate))
    (hWithin : ∀ later ∈ draws, later.Within capacity)
    (hLast : draw.time ≤ last)
    (hLeft : 0 ≤ draw.left)
    (hFirst : first ≤ draw.time) :
    takenIn first last draws ≤
      draw.left + rate * (last - draw.time) := by
  induction draws generalizing draw with
  | nil =>
      have hInflow : 0 ≤ rate * (last - draw.time) :=
        mul_nonneg hRate (sub_nonneg.mpr hLast)
      exact add_nonneg hLeft hInflow
  | cons next rest ih =>
      rcases List.isChain_cons_cons.mp hChain with
        ⟨hNext, hRest⟩
      have hNextFirst : first ≤ next.time :=
        hFirst.trans hNext.time_le
      rcases le_or_gt next.time last with hIn | hOut
      · have hTaken : isIn first last next = true :=
          decide_eq_true ⟨hNextFirst, hIn⟩
        have hLater :=
          ih hRest
            (fun later hLater =>
              hWithin later (List.mem_cons_of_mem next hLater))
            hIn (hWithin next List.mem_cons_self).left_nonneg
            hNextFirst
        rw [takenIn_cons, if_pos hTaken]
        calc next.taken + takenIn first last rest
            ≤ next.taken +
                (next.left + rate * (last - next.time)) :=
              add_le_add le_rfl hLater
          _ = next.taken + next.left +
                rate * (last - next.time) := by ring
          _ ≤ draw.left + rate * (next.time - draw.time) +
                rate * (last - next.time) :=
              add_le_add hNext.inflow le_rfl
          _ = draw.left + rate * (last - draw.time) := by
              ring
      · have hAfter :
            ∀ later ∈ next :: rest, last < later.time := by
          intro later hLater
          rcases List.mem_cons.mp hLater with rfl | hLater
          · exact hOut
          · exact
              hOut.trans_le
                (time_le_of_isChain hRest later hLater)
        rw [takenIn_of_last_lt hAfter]
        exact
          add_nonneg hLeft
            (mul_nonneg hRate (sub_nonneg.mpr hLast))

/-
  In a closed interval no more is drawn than the capacity
  and what flows in from its start to its end.
-/
theorem takenIn_le
    (hRate : 0 ≤ rate)
    (hCapacity : 0 ≤ capacity)
    (hChain : draws.IsChain (Follows rate))
    (hWithin : ∀ draw ∈ draws, draw.Within capacity)
    (hInterval : first ≤ last) :
    takenIn first last draws ≤
      capacity + rate * (last - first) := by
  induction draws with
  | nil =>
      exact
        add_nonneg hCapacity
          (mul_nonneg hRate (sub_nonneg.mpr hInterval))
  | cons draw rest ih =>
      rw [takenIn_cons]
      split
      · next hIn =>
          have hBounds := of_decide_eq_true hIn
          have hDraw := hWithin draw List.mem_cons_self
          have hLater :=
            takenIn_le_left hRate hChain
              (fun later hLater =>
                hWithin later
                  (List.mem_cons_of_mem draw hLater))
              hBounds.2 hDraw.left_nonneg hBounds.1
          have hShorter :
              rate * (last - draw.time) ≤
                rate * (last - first) :=
            mul_le_mul_of_nonneg_left
              (sub_le_sub_left hBounds.1 last) hRate
          calc draw.taken + takenIn first last rest
              ≤ draw.taken +
                  (draw.left + rate * (last - draw.time)) :=
                add_le_add le_rfl hLater
            _ = draw.taken + draw.left +
                  rate * (last - draw.time) := by ring
            _ ≤ capacity + rate * (last - first) :=
                add_le_add hDraw.total_le hShorter
      · rw [zero_add]
        exact
          ih hChain.tail
            (fun later hLater =>
              hWithin later
                (List.mem_cons_of_mem draw hLater))

end Draw

end IsaWorkspace
