import IsaWorkspace.Foundations.MaxBy
import Mathlib.Algebra.Order.Field.Power
import Mathlib.Algebra.Order.Ring.Rat
import Mathlib.Order.WithBot
import Mathlib.Data.Rat.Floor
import Mathlib.Tactic.Linarith
import Mathlib.Tactic.NormNum
import Mathlib.Tactic.Positivity
import Mathlib.Tactic.Ring

/-
  Single-precision numbers.

  A finite number of the format is a rational number with a
  binary significand of twenty-four digits and an exponent
  in range.  An operation computes exactly and then takes
  the nearest number of the format, the even one of two.
  The two zeros are one number here.

  Main declarations:
    * `roundHalfEven`, `roundSingle`, `nearestSingle`
    * `HasSingleForm`, `nearestSingle_form`
    * `nearestSingle_of_form`, `le_nearestSingle`
    * `le_nearestSingle_of_form`
    * `F32`, `F32.ofRat` and its operations
    * `F32.ofRat_of_isSingle`, `F32.ofNat_eq_finite`
    * `HasSingleForm.sub_one`, `F32.add_finite_zero`
    * `F32.NotNegative`, `F32.min_add_of_notNegative`
    * `F32.isRanking_le`
-/

------------------------------------------------------------
-- Rounding
------------------------------------------------------------

namespace IsaWorkspace

/- A power of two, with any exponent. -/
def pow2 : Int → Rat
| .ofNat exponent => (2 ^ exponent : Nat)
| .negSucc exponent => 1 / (2 ^ (exponent + 1) : Nat)

/- The exponent of the power of two below a number. -/
def binaryExponent
    (value : Rat) : Int :=
  let guess : Int :=
    (value.num.toNat.log2 : Int) - (value.den.log2 : Int)
  if pow2 guess ≤ value then guess else guess - 1

/- The nearest integer, and the even one of two. -/
def roundHalfEven
    (value : Rat) : Int :=
  let below := value.floor
  if value - below < 1 / 2 then below
  else if 1 / 2 < value - below then below + 1
  else if below % 2 = 0 then below
  else below + 1

/-
  The nearest single-precision number, of twenty-four binary
  digits, to a number that is not negative and in the range
  of normal numbers.
-/
def roundSingle
    (value : Rat) : Rat :=
  if value = 0 then
    0
  else
    let unit := pow2 (binaryExponent value - 23)
    roundHalfEven (value / unit) * unit

/- A cast to an unsigned word cuts off, and saturates. -/
def castU32
    (value : Rat) : UInt32 :=
  UInt32.ofNat (min value.floor.toNat (2 ^ 32 - 1))

/-
  The same for any number that is not negative: below the
  normal numbers, the digits end at a fixed place.
-/
def nearestMagnitude
    (value : Rat) : Rat :=
  if value < pow2 (-126) then
    roundHalfEven (value / pow2 (-149)) * pow2 (-149)
  else
    roundSingle value

/- Rounding does not depend on the sign. -/
def nearestSingle
    (value : Rat) : Rat :=
  if value < 0 then -nearestMagnitude (-value)
  else nearestMagnitude value

------------------------------------------------------------
-- Powers of Two
------------------------------------------------------------

theorem pow2_eq_zpow
    (exponent : Int) :
    pow2 exponent = 2 ^ exponent := by
  cases exponent with
  | ofNat exponent => simp [pow2]
  | negSucc exponent => simp [pow2, zpow_negSucc]

theorem pow2_natCast
    (exponent : Nat) :
    pow2 exponent = ((2 ^ exponent : Nat) : Rat) := rfl

theorem pow2_pos
    (exponent : Int) :
    0 < pow2 exponent := by
  rw [pow2_eq_zpow]
  positivity

theorem pow2_add
    (left right : Int) :
    pow2 (left + right) = pow2 left * pow2 right := by
  simp only [pow2_eq_zpow]
  exact zpow_add₀ two_ne_zero left right

theorem pow2_le_pow2_iff
    {left right : Int} :
    pow2 left ≤ pow2 right ↔ left ≤ right := by
  simp only [pow2_eq_zpow]
  exact zpow_le_zpow_iff_right₀ one_lt_two

theorem pow2_lt_pow2_iff
    {left right : Int} :
    pow2 left < pow2 right ↔ left < right := by
  simp only [pow2_eq_zpow]
  exact zpow_lt_zpow_iff_right₀ one_lt_two

/- A natural number lies between its two powers of two. -/
theorem pow2_log2_bounds
    {number : Nat}
    (hNumber : number ≠ 0) :
    pow2 (number.log2 : Int) ≤ number ∧
      (number : Rat) < pow2 ((number.log2 : Int) + 1) := by
  constructor
  · rw [pow2_natCast]
    exact_mod_cast Nat.log2_self_le hNumber
  · rw [← Nat.cast_succ, pow2_natCast]
    exact_mod_cast Nat.lt_log2_self

/- A quotient lies between two quotients of such powers. -/
theorem pow2_log2_sub_bounds
    {num den : Nat}
    (hNum : num ≠ 0)
    (hDen : den ≠ 0) :
    pow2 ((num.log2 : Int) - den.log2 - 1) ≤
        (num : Rat) / den ∧
      (num : Rat) / den <
        pow2 ((num.log2 : Int) - den.log2 + 1) := by
  obtain ⟨hNumLow, hNumHigh⟩ := pow2_log2_bounds hNum
  obtain ⟨hDenLow, hDenHigh⟩ := pow2_log2_bounds hDen
  have hPositive : (0 : Rat) < den :=
    Nat.cast_pos.mpr (Nat.pos_of_ne_zero hDen)
  constructor
  · rw [le_div_iff₀ hPositive]
    calc pow2 ((num.log2 : Int) - den.log2 - 1) * den
        ≤ pow2 ((num.log2 : Int) - den.log2 - 1) *
            pow2 ((den.log2 : Int) + 1) :=
          mul_le_mul_of_nonneg_left hDenHigh.le
            (pow2_pos _).le
      _ = pow2 (num.log2 : Int) := by
          rw [← pow2_add]
          congr 1
          ring
      _ ≤ num := hNumLow
  · rw [div_lt_iff₀ hPositive]
    calc (num : Rat)
        < pow2 ((num.log2 : Int) + 1) := hNumHigh
      _ = pow2 ((num.log2 : Int) - den.log2 + 1) *
            pow2 (den.log2 : Int) := by
          rw [← pow2_add]
          congr 1
          ring
      _ ≤ pow2 ((num.log2 : Int) - den.log2 + 1) * den :=
          mul_le_mul_of_nonneg_left hDenLow (pow2_pos _).le

variable {value : Rat}

/- A positive number lies between its two powers of two. -/
theorem binaryExponent_bounds
    (hPositive : 0 < value) :
    pow2 (binaryExponent value) ≤ value ∧
      value < pow2 (binaryExponent value + 1) := by
  have hNum : 0 < value.num := Rat.num_pos.mpr hPositive
  have hCast : ((value.num.toNat : Nat) : Rat) = value.num := by
    exact_mod_cast Int.toNat_of_nonneg hNum.le
  have hNonzero : value.num.toNat ≠ 0 := by omega
  have hGuess := pow2_log2_sub_bounds hNonzero value.den_nz
  rw [hCast, Rat.num_div_den] at hGuess
  unfold binaryExponent
  dsimp only
  split
  · next hLow => exact ⟨hLow, hGuess.2⟩
  · next hHigh =>
      rw [sub_add_cancel]
      exact ⟨hGuess.1, not_le.mp hHigh⟩

------------------------------------------------------------
-- Nearest Integers
------------------------------------------------------------

theorem roundHalfEven_intCast
    (number : Int) :
    roundHalfEven number = number := by
  unfold roundHalfEven
  simp

theorem le_roundHalfEven
    {number : Int}
    (hLow : number ≤ value) :
    number ≤ roundHalfEven value := by
  have hFloor : number ≤ value.floor := Int.le_floor.mpr hLow
  unfold roundHalfEven
  dsimp only
  split_ifs <;> omega

theorem roundHalfEven_le
    {number : Int}
    (hHigh : value ≤ number) :
    roundHalfEven value ≤ number := by
  rcases hHigh.eq_or_lt with rfl | hLess
  · exact (roundHalfEven_intCast number).le
  · have hFloor : value.floor < number :=
      Int.floor_lt.mpr hLess
    unfold roundHalfEven
    dsimp only
    split_ifs <;> omega

/- Half way above an odd number, one goes up. -/
theorem lt_roundHalfEven_of_odd
    {number : Int}
    (hOdd : number % 2 = 1)
    (hLow : number + 1 / 2 ≤ value) :
    number < roundHalfEven value := by
  have hBelow : (number : Rat) ≤ value := by linarith
  have hFloor : number ≤ value.floor :=
    Int.le_floor.mpr hBelow
  unfold roundHalfEven
  dsimp only
  rcases hFloor.eq_or_lt with hEq | hLess
  · rw [← hEq]
    split_ifs with hNear hFar hEven
    · linarith
    · exact lt_add_one number
    · omega
    · exact lt_add_one number
  · split_ifs <;> omega

------------------------------------------------------------
-- Numbers of the Format
------------------------------------------------------------

/- A significand of twenty-four digits and an exponent. -/
def HasSingleForm
    (value : Rat) : Prop :=
  ∃ (significand : Nat) (exponent : Int),
    significand < 2 ^ 24 ∧ -149 ≤ exponent ∧
      |value| = significand * pow2 exponent

theorem roundSingle_of_pos
    (hPositive : 0 < value) :
    roundSingle value =
      roundHalfEven
          (value / pow2 (binaryExponent value - 23)) *
        pow2 (binaryExponent value - 23) :=
  if_neg hPositive.ne'

/- The significand of a normal number fills its digits. -/
theorem significand_bounds
    (hPositive : 0 < value) :
    2 ^ 23 ≤
        roundHalfEven
          (value / pow2 (binaryExponent value - 23)) ∧
      roundHalfEven
          (value / pow2 (binaryExponent value - 23)) ≤
        2 ^ 24 := by
  obtain ⟨hLow, hHigh⟩ := binaryExponent_bounds hPositive
  have hUnit := pow2_pos (binaryExponent value - 23)
  constructor
  · apply le_roundHalfEven
    rw [le_div_iff₀ hUnit]
    calc ((2 ^ 23 : Int) : Rat) *
          pow2 (binaryExponent value - 23)
        = pow2 23 * pow2 (binaryExponent value - 23) := by
          norm_num [pow2]
      _ = pow2 (binaryExponent value) := by
          rw [← pow2_add]
          congr 1
          ring
      _ ≤ value := hLow
  · apply roundHalfEven_le
    rw [div_le_iff₀ hUnit]
    calc value
        ≤ pow2 (binaryExponent value + 1) := hHigh.le
      _ = pow2 24 * pow2 (binaryExponent value - 23) := by
          rw [← pow2_add]
          congr 1
          ring
      _ = ((2 ^ 24 : Int) : Rat) *
          pow2 (binaryExponent value - 23) := by
          norm_num [pow2]

/- A coarser grid lies on the grid one rounds to. -/
theorem roundHalfEven_grid
    (significand : Nat)
    {exponent unit : Int}
    (hCoarser : unit ≤ exponent) :
    roundHalfEven (significand * pow2 exponent / pow2 unit) *
        pow2 unit =
      significand * pow2 exponent := by
  obtain ⟨shift, hShift⟩ :=
    Int.eq_ofNat_of_zero_le (Int.sub_nonneg.mpr hCoarser)
  have hExponent : exponent = shift + unit := by omega
  have hUnit := (pow2_pos unit).ne'
  have hInteger :
      significand * pow2 exponent / pow2 unit =
        ((significand * 2 ^ shift : Int) : Rat) := by
    rw [hExponent, pow2_add, ← mul_assoc,
      mul_div_cancel_right₀ _ hUnit, pow2_natCast]
    push_cast
    rfl
  rw [hInteger, roundHalfEven_intCast, ← hInteger,
    div_mul_cancel₀ _ hUnit]

/- A number on a coarser grid is not rounded past. -/
theorem le_roundHalfEven_grid
    {significand : Nat}
    {exponent unit : Int}
    (hCoarser : unit ≤ exponent)
    (hLow : significand * pow2 exponent ≤ value) :
    significand * pow2 exponent ≤
      roundHalfEven (value / pow2 unit) * pow2 unit := by
  obtain ⟨shift, hShift⟩ :=
    Int.eq_ofNat_of_zero_le (Int.sub_nonneg.mpr hCoarser)
  have hExponent : exponent = shift + unit := by omega
  have hUnit := pow2_pos unit
  have hInteger :
      significand * pow2 exponent =
        ((significand * 2 ^ shift : Int) : Rat) *
          pow2 unit := by
    rw [hExponent, pow2_add, ← mul_assoc, pow2_natCast]
    push_cast
    rfl
  rw [hInteger] at hLow ⊢
  apply mul_le_mul_of_nonneg_right _ hUnit.le
  have hDigits :=
    le_roundHalfEven ((le_div_iff₀ hUnit).mpr hLow)
  exact_mod_cast hDigits

/- Numbers of the format are their own nearest ones. -/
theorem nearestMagnitude_of_form
    {significand : Nat}
    {exponent : Int}
    (hDigits : significand < 2 ^ 24)
    (hExponent : -149 ≤ exponent) :
    nearestMagnitude (significand * pow2 exponent) =
      significand * pow2 exponent := by
  unfold nearestMagnitude
  split
  · exact roundHalfEven_grid significand hExponent
  · next hNormal =>
      generalize hValue : significand * pow2 exponent = value
        at hNormal
      have hPositive : 0 < value :=
        (pow2_pos _).trans_le (not_lt.mp hNormal)
      have hBelow :
          pow2 (binaryExponent value) <
            pow2 (24 + exponent) := by
        calc pow2 (binaryExponent value)
            ≤ value := (binaryExponent_bounds hPositive).1
          _ = significand * pow2 exponent := hValue.symm
          _ < pow2 24 * pow2 exponent := by
              apply mul_lt_mul_of_pos_right _
                (pow2_pos exponent)
              change
                (significand : Rat) < ((2 ^ 24 : Nat) : Rat)
              exact_mod_cast hDigits
          _ = pow2 (24 + exponent) := (pow2_add _ _).symm
      have hUnit : binaryExponent value - 23 ≤ exponent := by
        have hLess := pow2_lt_pow2_iff.mp hBelow
        omega
      rw [roundSingle_of_pos hPositive]
      generalize binaryExponent value - 23 = unit at hUnit
      rw [← hValue]
      exact roundHalfEven_grid significand hUnit

/- Nor is a number of the format. -/
theorem le_nearestMagnitude
    {significand : Nat}
    {exponent : Int}
    (hDigits : significand < 2 ^ 24)
    (hExponent : -149 ≤ exponent)
    (hLow : significand * pow2 exponent ≤ value) :
    significand * pow2 exponent ≤ nearestMagnitude value := by
  unfold nearestMagnitude
  split
  · exact le_roundHalfEven_grid hExponent hLow
  · next hNormal =>
      have hPositive : 0 < value :=
        (pow2_pos _).trans_le (not_lt.mp hNormal)
      rw [roundSingle_of_pos hPositive]
      rcases le_or_gt (binaryExponent value - 23) exponent
        with hCoarser | hFiner
      · exact le_roundHalfEven_grid hCoarser hLow
      · -- The number has not as many digits before the point.
        have hCast : (significand : Rat) ≤ pow2 24 := by
          change (significand : Rat) ≤ ((2 ^ 24 : Nat) : Rat)
          exact_mod_cast hDigits.le
        have hFilled :
            ((2 ^ 23 : Int) : Rat) ≤
              roundHalfEven
                (value / pow2 (binaryExponent value - 23)) := by
          exact_mod_cast (significand_bounds hPositive).1
        have hPower : pow2 23 = ((2 ^ 23 : Int) : Rat) := by
          norm_num [pow2]
        rw [← hPower] at hFilled
        calc significand * pow2 exponent
            ≤ pow2 24 * pow2 exponent :=
              mul_le_mul_of_nonneg_right hCast
                (pow2_pos _).le
          _ = pow2 (24 + exponent) := (pow2_add _ _).symm
          _ ≤ pow2 (23 + (binaryExponent value - 23)) :=
              pow2_le_pow2_iff.mpr (by omega)
          _ = pow2 23 * pow2 (binaryExponent value - 23) :=
              pow2_add _ _
          _ ≤ roundHalfEven
                  (value /
                    pow2 (binaryExponent value - 23)) *
                pow2 (binaryExponent value - 23) :=
              mul_le_mul_of_nonneg_right hFilled
                (pow2_pos _).le

/- Below the normal numbers, not all digits are used. -/
theorem subnormal_bounds
    (hNonneg : 0 ≤ value)
    (hSubnormal : value < pow2 (-126)) :
    0 ≤ roundHalfEven (value / pow2 (-149)) ∧
      roundHalfEven (value / pow2 (-149)) ≤ 2 ^ 23 := by
  have hUnit := pow2_pos (-149)
  constructor
  · apply le_roundHalfEven
    exact_mod_cast div_nonneg hNonneg hUnit.le
  · apply roundHalfEven_le
    rw [div_le_iff₀ hUnit]
    calc value
        ≤ pow2 (-126) := hSubnormal.le
      _ = pow2 23 * pow2 (-149) := by
          rw [← pow2_add]
          rfl
      _ = ((2 ^ 23 : Int) : Rat) * pow2 (-149) := by
          norm_num [pow2]

theorem nearestMagnitude_form
    (hNonneg : 0 ≤ value) :
    ∃ (significand : Nat) (exponent : Int),
      significand < 2 ^ 24 ∧ -149 ≤ exponent ∧
        nearestMagnitude value =
          significand * pow2 exponent := by
  unfold nearestMagnitude
  split
  · next hSubnormal =>
      obtain ⟨hLow, hHigh⟩ :=
        subnormal_bounds hNonneg hSubnormal
      obtain ⟨significand, hSignificand⟩ :=
        Int.eq_ofNat_of_zero_le hLow
      refine ⟨significand, -149, by omega, le_rfl, ?_⟩
      rw [hSignificand]
      rfl
  · next hNormal =>
      have hAbove := not_lt.mp hNormal
      have hPositive := (pow2_pos _).trans_le hAbove
      obtain ⟨hLow, hHigh⟩ := significand_bounds hPositive
      have hExponent : -126 < binaryExponent value + 1 :=
        pow2_lt_pow2_iff.mp
          (hAbove.trans_lt
            (binaryExponent_bounds hPositive).2)
      rw [roundSingle_of_pos hPositive]
      generalize roundHalfEven
        (value / pow2 (binaryExponent value - 23)) = digits
        at hLow hHigh ⊢
      obtain ⟨significand, rfl⟩ :=
        Int.eq_ofNat_of_zero_le
          (le_trans (by norm_num) hLow)
      rcases hHigh.eq_or_lt with hTop | hLess
      · -- Rounding up to the next power of two.
        refine
          ⟨2 ^ 23, 1 + (binaryExponent value - 23),
            by norm_num, by omega, ?_⟩
        rw [hTop, pow2_add, ← mul_assoc]
        congr 1
        norm_num [pow2]
      · exact
          ⟨significand, binaryExponent value - 23, by omega,
            by omega, rfl⟩

/- Rounding goes no further than to a power of two. -/
theorem nearestMagnitude_le_pow2
    {exponent : Int}
    (hNonneg : 0 ≤ value)
    (hExponent : -126 ≤ exponent)
    (hHigh : value < pow2 exponent) :
    nearestMagnitude value ≤ pow2 exponent := by
  unfold nearestMagnitude
  split
  · next hSubnormal =>
      have hDigits :
          ((roundHalfEven (value / pow2 (-149)) : Int) : Rat) ≤
            pow2 23 := by
        calc ((roundHalfEven (value / pow2 (-149)) : Int) : Rat)
            ≤ ((2 ^ 23 : Int) : Rat) := by
              exact_mod_cast
                (subnormal_bounds hNonneg hSubnormal).2
          _ = pow2 23 := by norm_num [pow2]
      calc roundHalfEven (value / pow2 (-149)) * pow2 (-149)
          ≤ pow2 23 * pow2 (-149) :=
            mul_le_mul_of_nonneg_right hDigits (pow2_pos _).le
        _ = pow2 (-126) := by
            rw [← pow2_add]
            rfl
        _ ≤ pow2 exponent := pow2_le_pow2_iff.mpr hExponent
  · next hNormal =>
      have hPositive := (pow2_pos _).trans_le (not_lt.mp hNormal)
      have hBelow : binaryExponent value < exponent :=
        pow2_lt_pow2_iff.mp
          ((binaryExponent_bounds hPositive).1.trans_lt hHigh)
      have hDigits :
          ((roundHalfEven
              (value / pow2 (binaryExponent value - 23)) :
              Int) : Rat) ≤
            pow2 24 := by
        calc ((roundHalfEven
              (value / pow2 (binaryExponent value - 23)) :
              Int) : Rat)
            ≤ ((2 ^ 24 : Int) : Rat) := by
              exact_mod_cast (significand_bounds hPositive).2
          _ = pow2 24 := by norm_num [pow2]
      rw [roundSingle_of_pos hPositive]
      calc roundHalfEven
              (value / pow2 (binaryExponent value - 23)) *
            pow2 (binaryExponent value - 23)
          ≤ pow2 24 * pow2 (binaryExponent value - 23) :=
            mul_le_mul_of_nonneg_right hDigits (pow2_pos _).le
        _ = pow2 (24 + (binaryExponent value - 23)) :=
            (pow2_add _ _).symm
        _ ≤ pow2 exponent := pow2_le_pow2_iff.mpr (by omega)

theorem nearestSingle_form
    (value : Rat) :
    HasSingleForm (nearestSingle value) := by
  have hMagnitude :
      ∀ magnitude : Rat, 0 ≤ magnitude →
        HasSingleForm (nearestMagnitude magnitude) := by
    intro magnitude hNonneg
    obtain ⟨significand, exponent, hDigits, hExponent, hForm⟩ :=
      nearestMagnitude_form hNonneg
    refine ⟨significand, exponent, hDigits, hExponent, ?_⟩
    rw [hForm, abs_of_nonneg]
    exact
      mul_nonneg (Nat.cast_nonneg _) (pow2_pos exponent).le
  unfold nearestSingle
  split
  · next hNegative =>
      have hForm :=
        hMagnitude (-value) (neg_nonneg.mpr hNegative.le)
      unfold HasSingleForm at hForm ⊢
      rw [abs_neg]
      exact hForm
  · next hNonneg => exact hMagnitude value (not_lt.mp hNonneg)

/- Rounding keeps the numbers of the format. -/
theorem nearestSingle_of_form
    (hForm : HasSingleForm value) :
    nearestSingle value = value := by
  obtain ⟨significand, exponent, hDigits, hExponent, hValue⟩ :=
    hForm
  have hExact := nearestMagnitude_of_form hDigits hExponent
  rw [← hValue] at hExact
  unfold nearestSingle
  split
  · next hNegative =>
      rw [abs_of_neg hNegative] at hExact
      rw [hExact, neg_neg]
  · next hNonneg =>
      rw [abs_of_nonneg (not_lt.mp hNonneg)] at hExact
      exact hExact

/- A number of the format is below what is nearest above. -/
theorem le_nearestSingle_of_form
    {bound : Rat}
    (hForm : HasSingleForm bound)
    (hNonneg : 0 ≤ bound)
    (hLow : bound ≤ value) :
    bound ≤ nearestSingle value := by
  obtain ⟨significand, exponent, hDigits, hExponent, hBound⟩ :=
    hForm
  rw [abs_of_nonneg hNonneg] at hBound
  unfold nearestSingle
  rw [if_neg (not_lt.mpr (hNonneg.trans hLow))]
  rw [hBound] at hLow ⊢
  exact le_nearestMagnitude hDigits hExponent hLow

/-
  Above the numbers whose units are digits, the nearest
  numbers are the multiples of four, or coarser ones.
-/
theorem le_nearestSingle
    (hLarge : 2 ^ 24 + 3 ≤ value) :
    2 ^ 24 + 4 ≤ nearestSingle value := by
  have hPositive : 0 < value := by linarith
  have hNormal : pow2 (-126) ≤ value := by
    have hOne : pow2 (-126) ≤ pow2 0 :=
      pow2_le_pow2_iff.mpr (by decide)
    have hZero : pow2 0 = 1 := by norm_num [pow2]
    linarith
  obtain ⟨_, hHigh⟩ := binaryExponent_bounds hPositive
  have hExponent : (24 : Int) < binaryExponent value + 1 := by
    apply pow2_lt_pow2_iff.mp
    have hPower : pow2 24 = 2 ^ 24 := by norm_num [pow2]
    linarith
  unfold nearestSingle nearestMagnitude
  rw [if_neg (not_lt.mpr hPositive.le),
    if_neg (not_lt.mpr hNormal), roundSingle_of_pos hPositive]
  rcases (Int.le_of_lt_add_one hExponent).eq_or_lt with
    hEq | hLess
  · have hUnit : pow2 (binaryExponent value - 23) = 2 := by
      rw [← hEq]
      norm_num [pow2]
    rw [hUnit]
    have hDigits :
        (2 ^ 23 + 1 : Int) < roundHalfEven (value / 2) := by
      apply lt_roundHalfEven_of_odd (by norm_num)
      push_cast
      linarith
    have hCast :
        ((2 ^ 23 + 2 : Int) : Rat) ≤
          roundHalfEven (value / 2) := by
      exact_mod_cast hDigits
    push_cast at hCast
    linarith
  · have hDigits :
        ((2 ^ 23 : Int) : Rat) ≤
          roundHalfEven
            (value / pow2 (binaryExponent value - 23)) := by
      exact_mod_cast (significand_bounds hPositive).1
    have hUnit :
        pow2 2 ≤ pow2 (binaryExponent value - 23) :=
      pow2_le_pow2_iff.mpr (by omega)
    calc (2 ^ 24 + 4 : Rat)
        ≤ ((2 ^ 23 : Int) : Rat) * pow2 2 := by
          norm_num [pow2]
      _ ≤ roundHalfEven
              (value / pow2 (binaryExponent value - 23)) *
            pow2 (binaryExponent value - 23) :=
          mul_le_mul hDigits hUnit (pow2_pos _).le
            (le_trans (by norm_num) hDigits)

/- A number that is large enough has an even integer. -/
theorem HasSingleForm.even_of_large
    (hForm : HasSingleForm value)
    (hLarge : 2 ^ 24 < value) :
    ∃ half : Nat, value = 2 * half := by
  obtain ⟨significand, exponent, hDigits, _, hValue⟩ := hForm
  rw [abs_of_pos (by linarith)] at hValue
  have hCast : (significand : Rat) < 2 ^ 24 := by
    exact_mod_cast hDigits
  have hExponent : 0 < exponent := by
    by_contra hSmall
    have hUnit : pow2 exponent ≤ pow2 0 :=
      pow2_le_pow2_iff.mpr (not_lt.mp hSmall)
    have hOne : pow2 0 = 1 := by norm_num [pow2]
    have hBelow :
        significand * pow2 exponent ≤ significand * 1 :=
      mul_le_mul_of_nonneg_left (hUnit.trans_eq hOne)
        (Nat.cast_nonneg _)
    linarith
  obtain ⟨shift, hShift⟩ :=
    Int.eq_ofNat_of_zero_le (by omega : 0 ≤ exponent - 1)
  have hSplit : pow2 exponent = pow2 1 * pow2 shift := by
    rw [← pow2_add]
    congr 1
    omega
  refine ⟨significand * 2 ^ shift, ?_⟩
  rw [hValue, hSplit, pow2_natCast]
  have hTwo : pow2 1 = 2 := by norm_num [pow2]
  rw [hTwo]
  push_cast
  ring

/- Up to the last exact integer, taking one is exact. -/
theorem HasSingleForm.sub_one
    (hForm : HasSingleForm value)
    (hLow : 1 ≤ value)
    (hHigh : value ≤ 2 ^ 24) :
    HasSingleForm (value - 1) := by
  obtain ⟨significand, exponent, hDigits, hExponent, hValue⟩ :=
    hForm
  rw [abs_of_pos (by linarith)] at hValue
  have hNonneg : |value - 1| = value - 1 :=
    abs_of_nonneg (by linarith)
  rcases le_total exponent 0 with hFraction | hInteger
  · obtain ⟨shift, hShift⟩ :=
      Int.eq_ofNat_of_zero_le (neg_nonneg.mpr hFraction)
    have hOne : pow2 shift * pow2 exponent = 1 := by
      rw [← pow2_add, ← hShift, neg_add_cancel]
      norm_num [pow2]
    have hTaken : 2 ^ shift ≤ significand := by
      have hBelow :
          pow2 shift * pow2 exponent ≤
            significand * pow2 exponent := by
        rw [hOne, ← hValue]
        exact hLow
      have hCast :=
        le_of_mul_le_mul_right hBelow (pow2_pos exponent)
      rw [pow2_natCast] at hCast
      exact_mod_cast hCast
    refine
      ⟨significand - 2 ^ shift, exponent,
        (Nat.sub_le _ _).trans_lt hDigits, hExponent, ?_⟩
    rw [hNonneg, hValue, Nat.cast_sub hTaken, sub_mul,
      ← pow2_natCast, hOne]
  · obtain ⟨shift, rfl⟩ := Int.eq_ofNat_of_zero_le hInteger
    have hNumber :
        value = ((significand * 2 ^ shift : Nat) : Rat) := by
      rw [hValue, pow2_natCast]
      push_cast
      rfl
    have hAtLeast : 1 ≤ significand * 2 ^ shift := by
      rw [hNumber] at hLow
      exact_mod_cast hLow
    have hAtMost : significand * 2 ^ shift ≤ 2 ^ 24 := by
      rw [hNumber] at hHigh
      exact_mod_cast hHigh
    refine
      ⟨significand * 2 ^ shift - 1, 0, by omega, by norm_num,
        ?_⟩
    rw [hNonneg, hNumber, Nat.cast_sub hAtLeast]
    norm_num [pow2]

end IsaWorkspace

------------------------------------------------------------
-- Single-Precision Arithmetic
------------------------------------------------------------

namespace IsaWorkspace

/- A finite number has the form, and its exponent a bound. -/
structure IsSingle
    (value : Rat) : Prop where
  form : HasSingleForm value
  inRange : |value| < pow2 128

/- A single-precision number, an infinity, or no number. -/
inductive F32 where
  | nan
  | infinite (negative : Bool)
  | finite (value : Rat) (isSingle : IsSingle value)
deriving DecidableEq

namespace F32

/- The nearest number of the format, or an infinity. -/
def ofRat
    (value : Rat) : F32 :=
  if hRange : |nearestSingle value| < pow2 128 then
    finite (nearestSingle value)
      ⟨nearestSingle_form value, hRange⟩
  else
    infinite (value < 0)

/- The nearest number to an unsigned integer. -/
def ofNat
    (number : Nat) : F32 :=
  ofRat number

def add : F32 → F32 → F32
| nan, _ => nan
| _, nan => nan
| infinite first, infinite second =>
    if first = second then infinite first else nan
| infinite sign, finite _ _ => infinite sign
| finite _ _, infinite sign => infinite sign
| finite first _, finite second _ => ofRat (first + second)

def sub : F32 → F32 → F32
| nan, _ => nan
| _, nan => nan
| infinite first, infinite second =>
    if first = second then nan else infinite first
| infinite sign, finite _ _ => infinite sign
| finite _ _, infinite sign => infinite (!sign)
| finite first _, finite second _ => ofRat (first - second)

def mul : F32 → F32 → F32
| nan, _ => nan
| _, nan => nan
| infinite first, infinite second =>
    infinite (first != second)
| infinite sign, finite value _ =>
    if value = 0 then nan
    else infinite (sign != decide (value < 0))
| finite value _, infinite sign =>
    if value = 0 then nan
    else infinite (decide (value < 0) != sign)
| finite first _, finite second _ => ofRat (first * second)

def div : F32 → F32 → F32
| nan, _ => nan
| _, nan => nan
| infinite _, infinite _ => nan
| infinite sign, finite value _ =>
    infinite (sign != decide (value < 0))
| finite _ _, infinite _ => ofRat 0
| finite first _, finite second _ =>
    if second = 0 then
      if first = 0 then nan else infinite (first < 0)
    else
      ofRat (first / second)

/- The order of the numbers; nothing is ordered with `nan`. -/
def le : F32 → F32 → Bool
| nan, _ => false
| _, nan => false
| infinite true, _ => true
| _, infinite false => true
| infinite false, _ => false
| _, infinite true => false
| finite first _, finite second _ => decide (first ≤ second)

/- Strictly less; nothing is less than `nan`. -/
def lt
    (first second : F32) : Bool :=
  le first second && !le second first

/- The smaller number, and the other one for `nan`. -/
def min : F32 → F32 → F32
| nan, other => other
| other, nan => other
| first, second => if le first second then first else second

/- A cast to an unsigned word cuts off, and saturates. -/
def toU32 : F32 → UInt32
| nan => 0
| infinite true => 0
| infinite false => UInt32.ofNat (2 ^ 32 - 1)
| finite value _ => castU32 value

------------------------------------------------------------
-- Exact Results
------------------------------------------------------------

variable {value : Rat}

/- A number of the format is its own nearest number. -/
theorem ofRat_of_isSingle
    (hSingle : IsSingle value) :
    ofRat value = finite value hSingle := by
  have hNearest := nearestSingle_of_form hSingle.form
  have hRange : |nearestSingle value| < pow2 128 := by
    rw [hNearest]
    exact hSingle.inRange
  unfold ofRat
  rw [dif_pos hRange]
  simp only [hNearest]

/- The number nearest to a machine word is finite. -/
theorem ofNat_eq_finite
    {number : Nat}
    (hWord : number < 2 ^ 32) :
    ∃ hSingle : IsSingle (nearestSingle number),
      ofNat number = finite (nearestSingle number) hSingle := by
  have hNonneg : (0 : Rat) ≤ number := Nat.cast_nonneg number
  have hHigh : (number : Rat) < pow2 32 := by
    change (number : Rat) < ((2 ^ 32 : Nat) : Rat)
    exact_mod_cast hWord
  have hMagnitude :=
    nearestMagnitude_le_pow2 hNonneg (by decide) hHigh
  obtain ⟨significand, exponent, _, _, hForm⟩ :=
    nearestMagnitude_form hNonneg
  have hRange : |nearestSingle number| < pow2 128 := by
    unfold nearestSingle
    rw [if_neg (not_lt.mpr hNonneg), abs_of_nonneg]
    · exact
        hMagnitude.trans_lt (pow2_lt_pow2_iff.mpr (by decide))
    · rw [hForm]
      exact
        mul_nonneg (Nat.cast_nonneg _) (pow2_pos exponent).le
  refine ⟨⟨nearestSingle_form _, hRange⟩, ?_⟩
  unfold ofNat ofRat
  rw [dif_pos hRange]

theorem isSingle_zero : IsSingle 0 where
  form := ⟨0, 0, by norm_num, by norm_num, by simp⟩
  inRange := by
    rw [abs_zero]
    exact pow2_pos 128

/- Adding nothing changes nothing. -/
theorem add_finite_zero
    (number : F32) :
    number.add (finite 0 isSingle_zero) = number := by
  cases number with
  | nan => rfl
  | infinite negative => rfl
  | finite value hSingle =>
      change ofRat (value + 0) = finite value hSingle
      rw [add_zero]
      exact ofRat_of_isSingle hSingle

/- Nothing, times a finite number, is nothing. -/
theorem finite_zero_mul
    {value : Rat}
    (hSingle : IsSingle value) :
    (finite 0 isSingle_zero).mul (finite value hSingle) =
      finite 0 isSingle_zero := by
  change ofRat (0 * value) = _
  rw [zero_mul]
  exact ofRat_of_isSingle isSingle_zero

/- Small integers are numbers of the format. -/
theorem isSingle_natCast
    {number : Nat}
    (hSmall : number ≤ 2 ^ 24) :
    IsSingle number where
  form := by
    rw [HasSingleForm, abs_of_nonneg (Nat.cast_nonneg number)]
    rcases hSmall.eq_or_lt with rfl | hLess
    · exact
        ⟨1, 24, by norm_num, by norm_num, by norm_num [pow2]⟩
    · exact
        ⟨number, 0, hLess, by norm_num, by norm_num [pow2]⟩
  inRange := by
    rw [abs_of_nonneg (Nat.cast_nonneg number)]
    calc (number : Rat)
        ≤ pow2 24 := by
          rw [← Nat.cast_ofNat, pow2_natCast]
          exact_mod_cast hSmall
      _ < pow2 128 := pow2_lt_pow2_iff.mpr (by decide)

theorem ofNat_of_le
    {number : Nat}
    (hSmall : number ≤ 2 ^ 24) :
    ofNat number = finite number (isSingle_natCast hSmall) :=
  ofRat_of_isSingle (isSingle_natCast hSmall)

------------------------------------------------------------
-- Numbers That Are Not Negative
------------------------------------------------------------

/- Not less than nothing, where it is a number. -/
def NotNegative : F32 → Prop
| nan => True
| infinite negative => negative = false
| finite value _ => 0 ≤ value

instance
    (number : F32) :
    Decidable number.NotNegative :=
  match number with
  | nan => inferInstanceAs (Decidable True)
  | infinite negative =>
      inferInstanceAs (Decidable (negative = false))
  | finite value _ => inferInstanceAs (Decidable (0 ≤ value))

theorem notNegative_ofRat
    (hNonneg : 0 ≤ value) :
    (ofRat value).NotNegative := by
  unfold ofRat
  split
  · exact
      le_nearestSingle_of_form isSingle_zero.form le_rfl
        hNonneg
  · exact decide_eq_false (not_lt.mpr hNonneg)

theorem notNegative_ofNat
    (number : Nat) :
    (ofNat number).NotNegative :=
  notNegative_ofRat (Nat.cast_nonneg number)

theorem NotNegative.add
    {first second : F32}
    (hFirst : first.NotNegative)
    (hSecond : second.NotNegative) :
    (first.add second).NotNegative := by
  cases first with
  | nan => trivial
  | infinite sign =>
      cases second with
      | nan => trivial
      | infinite other =>
          cases hFirst
          cases hSecond
          rfl
      | finite other _ => exact hFirst
  | finite value hSingle =>
      cases second with
      | nan => trivial
      | infinite other => exact hSecond
      | finite other _ =>
          exact notNegative_ofRat (add_nonneg hFirst hSecond)

theorem NotNegative.mul
    {first second : F32}
    (hFirst : first.NotNegative)
    (hSecond : second.NotNegative) :
    (first.mul second).NotNegative := by
  cases first with
  | nan => trivial
  | infinite sign =>
      cases second with
      | nan => trivial
      | infinite other =>
          cases hFirst
          cases hSecond
          rfl
      | finite other _ =>
          cases hFirst
          have hSign : decide (other < 0) = false :=
            decide_eq_false (not_lt.mpr hSecond)
          change
            (if other = 0 then nan
              else infinite (false != decide (other < 0))
              ).NotNegative
          split
          · trivial
          · rw [hSign]
            rfl
  | finite value hSingle =>
      cases second with
      | nan => trivial
      | infinite other =>
          cases hSecond
          have hSign : decide (value < 0) = false :=
            decide_eq_false (not_lt.mpr hFirst)
          change
            (if value = 0 then nan
              else infinite (decide (value < 0) != false)
              ).NotNegative
          split
          · trivial
          · rw [hSign]
            rfl
      | finite other _ =>
          exact notNegative_ofRat (mul_nonneg hFirst hSecond)

theorem NotNegative.div
    {first second : F32}
    (hFirst : first.NotNegative)
    (hSecond : second.NotNegative) :
    (first.div second).NotNegative := by
  cases first with
  | nan => trivial
  | infinite sign =>
      cases second with
      | nan => trivial
      | infinite other => trivial
      | finite other _ =>
          cases hFirst
          have hSign : decide (other < 0) = false :=
            decide_eq_false (not_lt.mpr hSecond)
          change
            (infinite (false != decide (other < 0))).NotNegative
          rw [hSign]
          rfl
  | finite value hSingle =>
      cases second with
      | nan => trivial
      | infinite other => exact notNegative_ofRat le_rfl
      | finite other _ =>
          change
            (if other = 0 then
                if value = 0 then nan
                else infinite (decide (value < 0))
              else ofRat (value / other)).NotNegative
          split
          · split
            · trivial
            · exact decide_eq_false (not_lt.mpr hFirst)
          · exact
              notNegative_ofRat (div_nonneg hFirst hSecond)

/- Nothing, parted among some, is nothing. -/
theorem finite_zero_div_ofNat
    {number : Nat}
    (hSome : 0 < number) :
    (finite 0 isSingle_zero).div (ofNat number) =
      finite 0 isSingle_zero := by
  have hOne : ((1 : Nat) : Rat) ≤ number := by
    exact_mod_cast hSome
  have hNearest : 1 ≤ nearestSingle (number : Rat) := by
    have hForm :=
      (isSingle_natCast (by norm_num : 1 ≤ 2 ^ 24)).form
    have hLow :=
      le_nearestSingle_of_form hForm (Nat.cast_nonneg 1) hOne
    rwa [Nat.cast_one] at hLow
  unfold ofNat ofRat
  split
  · have hNonzero : nearestSingle (number : Rat) ≠ 0 := by
      linarith
    change
      (if nearestSingle (number : Rat) = 0 then
          if (0 : Rat) = 0 then nan
          else infinite (decide ((0 : Rat) < 0))
        else ofRat (0 / nearestSingle (number : Rat))) = _
    rw [if_neg hNonzero, zero_div]
    exact ofRat_of_isSingle isSingle_zero
  · exact ofRat_of_isSingle isSingle_zero

/- What is full stays full when something flows in. -/
theorem min_add_of_notNegative
    (hSingle : IsSingle value)
    (hNonneg : 0 ≤ value)
    {inflow : F32}
    (hInflow : inflow.NotNegative) :
    ((finite value hSingle).add inflow).min
        (finite value hSingle) =
      finite value hSingle := by
  have hMin :
      ∀ {other : F32},
        le (finite value hSingle) other = true →
          other.min (finite value hSingle) =
            finite value hSingle := by
    intro other hLe
    cases other with
    | nan => rfl
    | infinite sign =>
        cases sign with
        | true => cases hLe
        | false => rfl
    | finite number hNumber =>
        have hLow : value ≤ number := of_decide_eq_true hLe
        change
          (if decide (number ≤ value) = true then
              finite number hNumber
            else finite value hSingle) = _
        split
        · next hHigh =>
            have hEq : number = value :=
              le_antisymm (of_decide_eq_true hHigh) hLow
            subst hEq
            rfl
        · rfl
  cases inflow with
  | nan => rfl
  | infinite sign =>
      cases hInflow
      rfl
  | finite number hNumber =>
      apply hMin
      change le _ (ofRat (value + number)) = true
      have hNumberNonneg : 0 ≤ number := hInflow
      unfold ofRat
      split
      · apply decide_eq_true
        exact
          le_nearestSingle_of_form hSingle.form hNonneg
            (by linarith)
      · have hSign : decide (value + number < 0) = false :=
          decide_eq_false (by linarith)
        rw [hSign]
        rfl

------------------------------------------------------------
-- Order
------------------------------------------------------------

/- The place of a number among all; `nan` has none. -/
def rank : F32 → Option (WithBot (WithTop Rat))
| nan => none
| infinite true => some ⊥
| infinite false => some ((⊤ : WithTop Rat) : WithBot _)
| finite value _ => some ((value : WithTop Rat) : WithBot _)

theorem le_iff_rank
    (first second : F32) :
    le first second = true ↔
      ∃ low high, rank first = some low ∧
        rank second = some high ∧ low ≤ high := by
  rcases first with _ | ⟨_ | _⟩ | ⟨first, _⟩ <;>
    rcases second with _ | ⟨_ | _⟩ | ⟨second, _⟩ <;>
    simp [le, rank]

theorem isRanking_le :
    IsRanking le :=
  .of_rank rank le_iff_rank

/- What is below a number is below all greater ones. -/
theorem lt_of_lt_of_le
    {first second third : F32}
    (hLt : lt first second = true)
    (hLe : le second third = true) :
    lt first third = true := by
  unfold lt at hLt ⊢
  rw [Bool.and_eq_true, Bool.not_eq_true'] at hLt ⊢
  refine ⟨isRanking_le.trans hLt.1 hLe, ?_⟩
  by_contra hBack
  rw [Bool.not_eq_false] at hBack
  rw [isRanking_le.trans hLe hBack] at hLt
  cases hLt.2

end F32

end IsaWorkspace
