import Mathlib.Data.List.Chain

/-
  Stretches of equal values.

  A function on the first indices is cut into stretches on
  which it is constant, each as long as it can be.  The cut
  goes from left to right and carries the stretch that it is
  in.

  Main declarations:
    * `Stretch`, `Stretch.Tiles`
    * `Stretch.Tiles.pairwise`, `Stretch.Tiles.covers`
    * `stretches`
    * `stretches_tiles`, `stretches_constant`
    * `stretches_adjacent`
-/

------------------------------------------------------------
-- Tilings
------------------------------------------------------------

namespace IsaWorkspace

/- Some indices in a row that have one value. -/
structure Stretch (α : Type) where
  start : Nat
  length : Nat
  value : α
deriving DecidableEq

namespace Stretch

variable {α : Type}

/- The index behind the last one of a stretch. -/
def stop
    (stretch : Stretch α) : Nat :=
  stretch.start + stretch.length

/- A stretch with its next index. -/
def extend
    (stretch : Stretch α) : Stretch α :=
  { stretch with length := stretch.length + 1 }

@[simp] theorem stop_extend
    (stretch : Stretch α) :
    stretch.extend.stop = stretch.stop + 1 := rfl

/- The stretch of one index. -/
def single
    (valueAt : Nat → α)
    (index : Nat) : Stretch α where
  start := index
  length := 1
  value := valueAt index

@[simp] theorem stop_single
    (valueAt : Nat → α)
    (index : Nat) :
    (single valueAt index).stop = index + 1 := rfl

/- The function has the value of the stretch on all of it. -/
def Constant
    (valueAt : Nat → α)
    (stretch : Stretch α) : Prop :=
  ∀ index, stretch.start ≤ index → index < stretch.stop →
    valueAt index = stretch.value

/- Stretches, not empty, one after another without a gap. -/
def Tiles :
    Nat → Nat → List (Stretch α) → Prop
| first, last, [] => first = last
| first, last, stretch :: rest =>
    stretch.start = first ∧ 0 < stretch.length ∧
      Tiles stretch.stop last rest

variable {first last index : Nat}
variable {stretches : List (Stretch α)}

theorem Tiles.le
    (hTiles : Tiles first last stretches) :
    first ≤ last := by
  induction stretches generalizing first with
  | nil => exact Nat.le_of_eq hTiles
  | cons stretch rest ih =>
      rcases hTiles with ⟨rfl, _, hRest⟩
      exact Nat.le_trans (Nat.le_add_right _ _) (ih hRest)

theorem Tiles.pos
    (hTiles : Tiles first last stretches) :
    ∀ stretch ∈ stretches, 0 < stretch.length := by
  induction stretches generalizing first with
  | nil => exact fun _ hMember => nomatch hMember
  | cons stretch rest ih =>
      rcases hTiles with ⟨_, hPos, hRest⟩
      exact List.forall_mem_cons.mpr ⟨hPos, ih hRest⟩

theorem Tiles.bounds
    (hTiles : Tiles first last stretches) :
    ∀ stretch ∈ stretches,
      first ≤ stretch.start ∧ stretch.stop ≤ last := by
  induction stretches generalizing first with
  | nil => exact fun _ hMember => nomatch hMember
  | cons stretch rest ih =>
      rcases hTiles with ⟨rfl, _, hRest⟩
      refine
        List.forall_mem_cons.mpr ⟨⟨le_rfl, hRest.le⟩, ?_⟩
      intro other hOther
      rcases ih hRest other hOther with ⟨hStart, hStop⟩
      exact
        ⟨Nat.le_trans (Nat.le_add_right _ _) hStart, hStop⟩

/- Each stretch starts where the one before stops. -/
theorem Tiles.contiguous
    (hTiles : Tiles first last stretches) :
    stretches.IsChain fun one next =>
      one.stop = next.start := by
  induction stretches generalizing first with
  | nil => exact List.isChain_nil
  | cons stretch rest ih =>
      rcases hTiles with ⟨_, _, hRest⟩
      refine List.isChain_cons.mpr ⟨?_, ih hRest⟩
      intro next hNext
      cases rest with
      | nil => cases hNext
      | cons other rest =>
          cases hNext
          exact hRest.1.symm

/- Stretches are in ascending order, and disjoint. -/
theorem Tiles.pairwise
    (hTiles : Tiles first last stretches) :
    stretches.Pairwise fun one other =>
      one.stop ≤ other.start := by
  induction stretches generalizing first with
  | nil => exact List.Pairwise.nil
  | cons stretch rest ih =>
      rcases hTiles with ⟨_, _, hRest⟩
      refine List.pairwise_cons.mpr ⟨?_, ih hRest⟩
      intro other hOther
      exact (hRest.bounds other hOther).1

/- Together they have all indices, and no others. -/
theorem Tiles.covers
    (hTiles : Tiles first last stretches) :
    (∃ stretch ∈ stretches,
        stretch.start ≤ index ∧ index < stretch.stop) ↔
      first ≤ index ∧ index < last := by
  constructor
  · rintro ⟨stretch, hMember, hStart, hStop⟩
    rcases hTiles.bounds stretch hMember with
      ⟨hFirst, hLast⟩
    exact
      ⟨Nat.le_trans hFirst hStart,
        Nat.lt_of_lt_of_le hStop hLast⟩
  · rintro ⟨hFirst, hLast⟩
    induction stretches generalizing first with
    | nil =>
        have hEmpty : first = last := hTiles
        omega
    | cons stretch rest ih =>
        rcases hTiles with ⟨hStart, _, hRest⟩
        by_cases hInside : index < stretch.stop
        · exact
            ⟨stretch, List.mem_cons_self, by omega, hInside⟩
        · rcases ih hRest (Nat.le_of_not_lt hInside) with
            ⟨other, hOther, hThere⟩
          exact ⟨other, List.mem_cons_of_mem _ hOther, hThere⟩

end Stretch

------------------------------------------------------------
-- The Cut
------------------------------------------------------------

variable {α : Type} [DecidableEq α]

/-
  The stretches from the current one on, with so many
  indices still to come.
-/
def stretchesFrom
    (valueAt : Nat → α)
    (current : Stretch α) :
    Nat → List (Stretch α)
| 0 => [current]
| remaining + 1 =>
    if valueAt current.stop = current.value then
      stretchesFrom valueAt current.extend remaining
    else
      current ::
        stretchesFrom valueAt
          (Stretch.single valueAt current.stop) remaining

/- The stretches of a function on the first indices. -/
def stretches
    (valueAt : Nat → α) : Nat → List (Stretch α)
| 0 => []
| count + 1 =>
    stretchesFrom valueAt (Stretch.single valueAt 0) count

section Cut

variable (valueAt : Nat → α)

theorem stretchesFrom_tiles
    (current : Stretch α)
    (remaining : Nat)
    (hPos : 0 < current.length) :
    Stretch.Tiles current.start (current.stop + remaining)
      (stretchesFrom valueAt current remaining) := by
  fun_induction stretchesFrom valueAt current remaining with
  | case1 current => exact ⟨rfl, hPos, rfl⟩
  | case2 current remaining hSame ih =>
      have hLonger := ih (Nat.succ_pos _)
      rw [Stretch.stop_extend, Nat.add_right_comm] at hLonger
      exact hLonger
  | case3 current remaining hOther ih =>
      have hNext := ih Nat.one_pos
      rw [Stretch.stop_single, Nat.add_right_comm] at hNext
      exact ⟨rfl, hPos, hNext⟩

theorem stretchesFrom_constant
    (current : Stretch α)
    (remaining : Nat)
    (hCurrent : current.Constant valueAt) :
    ∀ stretch ∈ stretchesFrom valueAt current remaining,
      stretch.Constant valueAt := by
  fun_induction stretchesFrom valueAt current remaining with
  | case1 current =>
      intro stretch hMember
      rw [List.mem_singleton.mp hMember]
      exact hCurrent
  | case2 current remaining hSame ih =>
      apply ih
      intro index hStart hStop
      rw [Stretch.stop_extend] at hStop
      rcases Nat.lt_succ_iff_lt_or_eq.mp hStop with
        hInside | rfl
      · exact hCurrent index hStart hInside
      · exact hSame
  | case3 current remaining hOther ih =>
      refine List.forall_mem_cons.mpr ⟨hCurrent, ih ?_⟩
      intro index hStart hStop
      rw [Stretch.stop_single] at hStop
      have hIndex : index = current.stop :=
        Nat.le_antisymm (Nat.le_of_lt_succ hStop) hStart
      rw [hIndex]
      rfl

/- The first stretch goes on from the current one. -/
theorem head?_stretchesFrom
    (current : Stretch α)
    (remaining : Nat) :
    ∃ first ∈ (stretchesFrom valueAt current remaining).head?,
      first.value = current.value := by
  fun_induction stretchesFrom valueAt current remaining with
  | case1 current => exact ⟨current, rfl, rfl⟩
  | case2 current remaining hSame ih => exact ih
  | case3 current remaining hOther ih =>
      exact ⟨current, rfl, rfl⟩

theorem stretchesFrom_adjacent
    (current : Stretch α)
    (remaining : Nat) :
    (stretchesFrom valueAt current remaining).IsChain
      fun one next => one.value ≠ next.value := by
  fun_induction stretchesFrom valueAt current remaining with
  | case1 current => exact List.isChain_singleton current
  | case2 current remaining hSame ih => exact ih
  | case3 current remaining hOther ih =>
      refine List.isChain_cons.mpr ⟨?_, ih⟩
      intro next hNext
      rcases
          head?_stretchesFrom valueAt
            (Stretch.single valueAt current.stop) remaining
        with ⟨first, hFirst, hValue⟩
      rw [Option.mem_unique hNext hFirst, hValue]
      exact Ne.symm hOther

variable (count : Nat)

/- The stretches tile the indices. -/
theorem stretches_tiles :
    Stretch.Tiles 0 count (stretches valueAt count) := by
  cases count with
  | zero => rfl
  | succ count =>
      have hFrom :=
        stretchesFrom_tiles valueAt
          (Stretch.single valueAt 0) count Nat.one_pos
      rw [Stretch.stop_single, Nat.zero_add, Nat.add_comm]
        at hFrom
      exact hFrom

/- Each stretch has one value. -/
theorem stretches_constant :
    ∀ stretch ∈ stretches valueAt count,
      stretch.Constant valueAt := by
  cases count with
  | zero => exact fun _ hMember => nomatch hMember
  | succ count =>
      apply stretchesFrom_constant
      intro index _ hStop
      rw [Stretch.stop_single] at hStop
      rw [Nat.lt_one_iff.mp hStop]
      rfl

/- Stretches next to each other have different values. -/
theorem stretches_adjacent :
    (stretches valueAt count).IsChain
      fun one next => one.value ≠ next.value := by
  cases count with
  | zero => exact List.isChain_nil
  | succ count => exact stretchesFrom_adjacent valueAt _ count

end Cut

end IsaWorkspace
