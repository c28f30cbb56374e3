import Mathlib.Data.Nat.Bitwise
import Mathlib.Tactic.Linarith

/-
  Rounding to multiples of a size.

  A start that is rounded down and a length that is rounded
  up make a range that reaches the end of what was asked for
  only if the last byte lies no further in its page than the
  rounding of the start leaves room for.

  Main declarations:
    * `Alignment.roundDown`, `Alignment.roundUp`
    * `Alignment.roundUp_add_mod`
    * `Alignment.contains_iff`
    * `Alignment.toNat_and_not_low`
-/

------------------------------------------------------------
-- Rounding
------------------------------------------------------------

namespace IsaWorkspace

namespace Alignment

/- The last multiple of the size up to a number. -/
def roundDown
    (number size : Nat) : Nat :=
  number / size * size

/- The first multiple of the size from a number on. -/
def roundUp
    (number size : Nat) : Nat :=
  (number + size - 1) / size * size

variable {number size start len : Nat}

theorem roundDown_add_mod
    (number size : Nat) :
    roundDown number size + number % size = number :=
  Nat.div_add_mod' number size

/- What is added in rounding up leaves out the last unit. -/
theorem roundUp_add_mod
    (hSize : 0 < size)
    (hSome : 0 < number) :
    roundUp number size + (number - 1) % size + 1 =
      number + size := by
  have hDiv : (number + size - 1) / size =
      (number - 1) / size + 1 := by
    have hSum : number + size - 1 = number - 1 + size := by
      omega
    rw [hSum, Nat.add_div_right _ hSize]
  have hParts := Nat.div_add_mod' (number - 1) size
  unfold roundUp
  rw [hDiv, Nat.succ_mul]
  omega

theorem roundUp_zero
    (hSize : 0 < size) :
    roundUp 0 size = 0 := by
  unfold roundUp
  rw [Nat.div_eq_of_lt (by omega), Nat.zero_mul]

theorem le_roundUp
    (hSize : 0 < size) :
    number ≤ roundUp number size := by
  rcases Nat.eq_zero_or_pos number with rfl | hSome
  · exact Nat.zero_le _
  · have hRest := roundUp_add_mod hSize hSome
    have hMod := Nat.mod_lt (number - 1) hSize
    omega

theorem roundUp_lt
    (hSize : 0 < size) :
    roundUp number size < number + size := by
  rcases Nat.eq_zero_or_pos number with rfl | hSome
  · rw [roundUp_zero hSize]
    omega
  · have hRest := roundUp_add_mod hSize hSome
    omega

/- The numbers between the rounded bounds hold the range. -/
theorem contains_iff
    (hSize : 0 < size) :
    (∀ byte, start ≤ byte → byte < start + len →
        roundDown start size ≤ byte ∧
          byte < roundDown start size + roundUp len size) ↔
      len = 0 ∨ start % size + (len - 1) % size < size := by
  have hStart := roundDown_add_mod start size
  rcases Nat.eq_zero_or_pos len with rfl | hSome
  · apply iff_of_true
    · intro byte hFirst hLast
      omega
    · exact Or.inl rfl
  · have hLen := roundUp_add_mod hSize hSome
    constructor
    · intro hContains
      have hLast :=
        hContains (start + len - 1) (by omega) (by omega)
      omega
    · intro hRoom byte hFirst hLast
      omega

------------------------------------------------------------
-- Masks
------------------------------------------------------------

/- Clearing the low bits rounds down to a power of two. -/
theorem toNat_and_not_low
    (word : UInt64)
    {pageSize : UInt64}
    {k : Nat}
    (hPageSize : pageSize.toNat = 2 ^ k) :
    (word &&& ~~~ (pageSize - 1)).toNat =
      roundDown word.toNat pageSize.toNat := by
  have hRange := pageSize.toNat_lt
  have hWordRange := word.toNat_lt
  rw [hPageSize] at hRange
  have hMask : (pageSize - 1).toNat = 2 ^ k - 1 := by
    have hOne : (1 : UInt64) ≤ pageSize := by
      apply UInt64.le_iff_toNat_le.mpr
      rw [hPageSize]
      exact Nat.one_le_two_pow
    rw [UInt64.toNat_sub_of_le _ _ hOne, hPageSize]
    rfl
  have hNot :
      (~~~ (pageSize - 1)).toNat =
        2 ^ 64 - (2 ^ k - 1 + 1) := by
    rw [UInt64.toNat_not, hMask]
    simp only [UInt64.size]
    omega
  have hBelow : 2 ^ k - 1 < 2 ^ 64 := by
    omega
  unfold roundDown
  rw [UInt64.toNat_and, hNot, hPageSize]
  apply Nat.eq_of_testBit_eq
  intro i
  rw [Nat.testBit_and, Nat.testBit_two_pow_sub_succ hBelow,
    Nat.testBit_two_pow_sub_one, Nat.testBit_mul_two_pow,
    Nat.testBit_div_two_pow]
  by_cases hLow : i < k
  · have hNotHigh : ¬ k ≤ i := Nat.not_le_of_lt hLow
    simp [hLow, hNotHigh]
  · have hHigh : k ≤ i := Nat.le_of_not_lt hLow
    simp only [hLow, hHigh, decide_true, decide_false,
      Bool.not_false, Bool.and_true, Bool.true_and,
      Nat.sub_add_cancel hHigh]
    by_cases hWord : i < 64
    · simp [hWord]
    · have hWide : word.toNat < 2 ^ i := by
        refine Nat.lt_of_lt_of_le hWordRange ?_
        exact
          Nat.pow_le_pow_right (by decide)
            (Nat.le_of_not_lt hWord)
      simp [Nat.testBit_lt_two_pow hWide]

end Alignment

end IsaWorkspace
