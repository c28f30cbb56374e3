import Mathlib.Data.List.Basic
import Mathlib.Data.List.TakeWhile
import Mathlib.Data.Nat.Init
import Mathlib.Tactic.Ring

/-
  Reading numbers from the front of a text.

  A number is printed by the core library's `Nat.toDigits`.
  `readNumber` takes all the digits there are at the front of
  a text, so that a number is read back exactly where no
  digit follows it.  Where a numeral was cut short, a smaller
  number is read.

  Main declarations:
    * `Numeral.digitValue`, `Numeral.value`
    * `Numeral.readNumber`
    * `Numeral.range_of_isDigit`
    * `Numeral.value_toDigits`, `Numeral.value_lt_of_cut`
    * `Numeral.readNumber_digits`
    * `Numeral.readNumber_toDigits`
    * `Numeral.readNumber_none`, `Numeral.suffix_of_readNumber`
    * `Numeral.parseUnsigned`
    * `Numeral.parseUnsigned_digits`
    * `Numeral.parseUnsigned_toDigits`
-/

------------------------------------------------------------
-- Digits
------------------------------------------------------------

namespace IsaWorkspace

namespace Numeral

/- What a digit or a letter counts, in any base. -/
def rawDigit
    (char : Char) : Option Nat :=
  if '0' ≤ char ∧ char ≤ '9' then
    some (char.toNat - '0'.toNat)
  else if 'a' ≤ char ∧ char ≤ 'z' then
    some (char.toNat - 'a'.toNat + 10)
  else if 'A' ≤ char ∧ char ≤ 'Z' then
    some (char.toNat - 'A'.toNat + 10)
  else
    none

/- The value of a character as a digit in a base. -/
def digitValue
    (base : Nat)
    (char : Char) : Option Nat :=
  (rawDigit char).filter fun value => decide (value < base)

def isDigit
    (base : Nat)
    (char : Char) : Bool :=
  (digitValue base char).isSome

/- The number that a list of digits spells. -/
def value
    (base : Nat)
    (digits : List Char) : Nat :=
  digits.foldl
    (fun sum char =>
      sum * base + (digitValue base char).getD 0)
    0

variable {base : Nat}

/- A printed digit has its value, in bases up to sixteen. -/
theorem digitValue_digitChar
    (hBase : base ≤ 16)
    {digit : Nat}
    (hDigit : digit < base) :
    digitValue base digit.digitChar = some digit := by
  have hRaw :
      ∀ digit < 16, rawDigit digit.digitChar = some digit := by
    decide
  unfold digitValue
  rw [hRaw digit (Nat.lt_of_lt_of_le hDigit hBase)]
  exact Option.filter_some_pos (decide_eq_true hDigit)

theorem isDigit_digitChar
    (hBase : base ≤ 16)
    {digit : Nat}
    (hDigit : digit < base) :
    isDigit base digit.digitChar = true := by
  unfold isDigit
  rw [digitValue_digitChar hBase hDigit]
  rfl

/- Digits in any base are ASCII numbers or letters. -/
theorem range_of_isDigit
    {char : Char}
    (hDigit : isDigit base char = true) :
    (48 ≤ char.toNat ∧ char.toNat ≤ 57) ∨
      (97 ≤ char.toNat ∧ char.toNat ≤ 122) ∨
      (65 ≤ char.toNat ∧ char.toNat ≤ 90) := by
  unfold isDigit digitValue rawDigit at hDigit
  by_cases hNumber : '0' ≤ char ∧ char ≤ '9'
  · exact Or.inl hNumber
  · by_cases hLower : 'a' ≤ char ∧ char ≤ 'z'
    · exact Or.inr (Or.inl hLower)
    · by_cases hUpper : 'A' ≤ char ∧ char ≤ 'Z'
      · exact Or.inr (Or.inr hUpper)
      · rw [if_neg hNumber, if_neg hLower,
          if_neg hUpper] at hDigit
        cases hDigit

/- A digit takes one byte. -/
theorem utf8Size_of_isDigit
    {char : Char}
    (hDigit : isDigit base char = true) :
    char.utf8Size = 1 := by
  have hRange := range_of_isDigit hDigit
  have hAscii : char.toNat ≤ 127 := by omega
  exact Char.utf8Size_eq_one_iff.mpr hAscii

theorem value_append
    (digits others : List Char) :
    value base (digits ++ others) =
      value base digits * base ^ others.length +
        value base others := by
  have hFold :
      ∀ (others : List Char) (start : Nat),
        others.foldl
            (fun sum char =>
              sum * base + (digitValue base char).getD 0)
            start =
          start * base ^ others.length +
            value base others := by
    intro others
    induction others with
    | nil =>
        intro start
        simp [value]
    | cons char rest ih =>
        intro start
        have hZero := ih ((digitValue base char).getD 0)
        have hStart :=
          ih (start * base + (digitValue base char).getD 0)
        unfold value
        rw [List.foldl_cons, List.foldl_cons, zero_mul,
          zero_add, hZero, hStart, List.length_cons]
        ring
  unfold value
  rw [List.foldl_append]
  exact hFold others _

theorem value_singleton
    (char : Char) :
    value base [char] = (digitValue base char).getD 0 := by
  simp [value]

/- A printed number is spelled by its digits. -/
theorem value_toDigits
    (hLow : 1 < base)
    (hBase : base ≤ 16)
    (number : Nat) :
    value base (Nat.toDigits base number) = number := by
  have hSingle :
      ∀ digit < base,
        value base (Nat.toDigits base digit) = digit := by
    intro digit hDigit
    rw [Nat.toDigits_of_lt_base hDigit, value_singleton,
      digitValue_digitChar hBase hDigit]
    rfl
  induction number using Nat.base_induction base hLow with
  | single digit hDigit => exact hSingle digit hDigit
  | digit high low hLowDigit hPositive ih =>
      rw [← Nat.toDigits_append_toDigits hLow hPositive
        hLowDigit, value_append, ih, hSingle low hLowDigit,
        Nat.toDigits_of_lt_base hLowDigit,
        List.length_singleton, pow_one, mul_comm]

/- A printed number is made of digits. -/
theorem isDigit_of_mem_toDigits
    (hLow : 1 < base)
    (hBase : base ≤ 16)
    {number : Nat}
    {char : Char}
    (hChar : char ∈ Nat.toDigits base number) :
    isDigit base char = true := by
  have hSingle :
      ∀ digit < base, char ∈ Nat.toDigits base digit →
        isDigit base char = true := by
    intro digit hDigit hMem
    rw [Nat.toDigits_of_lt_base hDigit,
      List.mem_singleton] at hMem
    rw [hMem]
    exact isDigit_digitChar hBase hDigit
  induction number using Nat.base_induction base hLow with
  | single digit hDigit => exact hSingle digit hDigit hChar
  | digit high low hLowDigit hPositive ih =>
      rw [← Nat.toDigits_append_toDigits hLow hPositive
        hLowDigit, List.mem_append] at hChar
      rcases hChar with hHigh | hLast
      · exact ih hHigh
      · exact hSingle low hLowDigit hLast

/- A positive number is not printed with a leading zero. -/
theorem head_toDigits
    (hLow : 1 < base)
    (hBase : base ≤ 16)
    {number : Nat}
    (hNumber : 0 < number) :
    (Nat.toDigits base number).head? ≠ some '0' := by
  induction number using Nat.base_induction base hLow with
  | single digit hDigit =>
      rw [Nat.toDigits_of_lt_base hDigit]
      intro hZero
      have hChar : digit.digitChar = (0 : Nat).digitChar :=
        Option.some.inj hZero
      have hSame : some digit = some 0 := by
        rw [← digitValue_digitChar hBase hDigit, hChar,
          digitValue_digitChar hBase (by omega)]
      exact hNumber.ne' (Option.some.inj hSame)
  | digit high low hLowDigit hPositive ih =>
      rw [← Nat.toDigits_append_toDigits hLow hPositive
        hLowDigit,
        List.head?_append_of_ne_nil _ Nat.toDigits_ne_nil]
      exact ih hPositive

/- Zero is printed with one digit. -/
theorem pos_of_length_toDigits
    {number : Nat}
    (hLong : 1 < (Nat.toDigits base number).length) :
    0 < number := by
  by_contra hZero
  rw [Nat.eq_zero_of_not_pos hZero,
    Nat.toDigits_zero] at hLong
  exact Nat.lt_irrefl 1 hLong

/-
  The first digits of a printed number spell another number,
  and a smaller one.
-/
theorem value_lt_of_cut
    (hLow : 1 < base)
    (hBase : base ≤ 16)
    {number : Nat}
    {kept lost : List Char}
    (hDigits : Nat.toDigits base number = kept ++ lost)
    (hKept : kept ≠ [])
    (hLost : lost ≠ []) :
    value base kept < number := by
  have hNumber :
      number =
        value base kept * base ^ lost.length +
          value base lost := by
    rw [← value_append, ← hDigits,
      value_toDigits hLow hBase]
  have hBasePower : base ≤ base ^ lost.length :=
    Nat.le_self_pow
      (List.length_pos_iff.mpr hLost).ne' base
  have hGrows :
      value base kept * base ≤
        value base kept * base ^ lost.length :=
    Nat.mul_le_mul_left _ hBasePower
  have hPositive : 0 < number := by
    apply @pos_of_length_toDigits base
    rw [hDigits, List.length_append]
    have := List.length_pos_iff.mpr hKept
    have := List.length_pos_iff.mpr hLost
    omega
  by_cases hKeptZero : value base kept = 0
  · omega
  · have hMore :
        value base kept * 2 ≤ value base kept * base :=
      Nat.mul_le_mul_left _ hLow
    omega

end Numeral

end IsaWorkspace

------------------------------------------------------------
-- Reading
------------------------------------------------------------

namespace IsaWorkspace

namespace Numeral

/-
  Read a number below a bound from the front of a text, with
  at most so many digits, and the text after it.
-/
def readNumber
    (base bound : Nat)
    (maxDigits : Option Nat)
    (allowZeroPrefix : Bool)
    (input : List Char) :
    Option (Nat × List Char) :=
  let digits := input.takeWhile (isDigit base)
  if ∃ most ∈ maxDigits, most < digits.length then
    none
  else if digits = [] then
    none
  else if
      allowZeroPrefix = false ∧ digits.head? = some '0' ∧
        1 < digits.length then
    none
  else if value base digits < bound then
    some (value base digits, input.dropWhile (isDigit base))
  else
    none

variable {base bound : Nat} {maxDigits : Option Nat}
variable {allowZeroPrefix : Bool}

/- No number starts with a character that is no digit. -/
theorem readNumber_none
    {input : List Char}
    (hHead : ∀ char ∈ input.head?, isDigit base char = false) :
    readNumber base bound maxDigits allowZeroPrefix input =
      none := by
  have hDigits : input.takeWhile (isDigit base) = [] := by
    cases input with
    | nil => rfl
    | cons char rest =>
        have hNo : ¬ isDigit base char = true := by
          rw [hHead char rfl]
          exact Bool.false_ne_true
        exact List.takeWhile_cons_of_neg hNo
  unfold readNumber
  rw [hDigits]
  dsimp only
  split
  · rfl
  · rw [if_pos rfl]

/- All the digits there are at the front are read. -/
theorem readNumber_digits
    {digits rest : List Char}
    (hSome : digits ≠ [])
    (hAll : ∀ char ∈ digits, isDigit base char = true)
    (hRest : ∀ char ∈ rest.head?, isDigit base char = false)
    (hMost : ∀ most ∈ maxDigits, digits.length ≤ most)
    (hZero :
      allowZeroPrefix = true ∨
        (1 < digits.length → digits.head? ≠ some '0'))
    (hBound : value base digits < bound) :
    readNumber base bound maxDigits allowZeroPrefix
        (digits ++ rest) =
      some (value base digits, rest) := by
  have hTake :
      (digits ++ rest).takeWhile (isDigit base) = digits := by
    rw [List.takeWhile_append_of_pos hAll]
    cases rest with
    | nil => rw [List.takeWhile_nil, List.append_nil]
    | cons char others =>
        have hNo : ¬ isDigit base char = true := by
          rw [hRest char rfl]
          exact Bool.false_ne_true
        rw [List.takeWhile_cons_of_neg hNo, List.append_nil]
  have hDrop :
      (digits ++ rest).dropWhile (isDigit base) = rest := by
    have hSplit :=
      List.takeWhile_append_dropWhile
        (p := isDigit base) (l := digits ++ rest)
    rw [hTake] at hSplit
    exact List.append_cancel_left hSplit
  have hFew :
      ¬ ∃ most ∈ maxDigits, most < digits.length := by
    rintro ⟨most, hMem, hLess⟩
    exact Nat.not_lt_of_le (hMost most hMem) hLess
  have hPrefix :
      ¬ (allowZeroPrefix = false ∧
          digits.head? = some '0' ∧ 1 < digits.length) := by
    rintro ⟨hFalse, hHead, hLong⟩
    rcases hZero with hTrue | hNot
    · rw [hTrue] at hFalse
      cases hFalse
    · exact hNot hLong hHead
  unfold readNumber
  rw [hTake, hDrop]
  dsimp only
  rw [if_neg hFew, if_neg hSome, if_neg hPrefix,
    if_pos hBound]

/- A printed number is read back where no digit follows. -/
theorem readNumber_toDigits
    (hLow : 1 < base)
    (hBase : base ≤ 16)
    {number : Nat}
    (hBound : number < bound)
    (hMost :
      ∀ most ∈ maxDigits,
        (Nat.toDigits base number).length ≤ most)
    {rest : List Char}
    (hRest :
      ∀ char ∈ rest.head?, isDigit base char = false) :
    readNumber base bound maxDigits allowZeroPrefix
        (Nat.toDigits base number ++ rest) =
      some (number, rest) := by
  have hValue := value_toDigits hLow hBase number
  have hDigits :
      ∀ char ∈ Nat.toDigits base number,
        isDigit base char = true := fun _ hChar =>
    isDigit_of_mem_toDigits hLow hBase hChar
  have hRead :
      readNumber base bound maxDigits allowZeroPrefix
          (Nat.toDigits base number ++ rest) =
        some (value base (Nat.toDigits base number), rest) :=
    readNumber_digits Nat.toDigits_ne_nil hDigits hRest hMost
      (Or.inr fun hLong =>
        head_toDigits hLow hBase
          (pos_of_length_toDigits hLong))
      (by rwa [hValue])
  rwa [hValue] at hRead

/- What is left after a number is the end of the text. -/
theorem suffix_of_readNumber
    {input rest : List Char}
    {number : Nat}
    (hRead :
      readNumber base bound maxDigits allowZeroPrefix input =
        some (number, rest)) :
    rest <:+ input := by
  unfold readNumber at hRead
  dsimp only at hRead
  split at hRead
  · cases hRead
  · split at hRead
    · cases hRead
    · split at hRead
      · cases hRead
      · split at hRead
        · cases hRead
          exact List.dropWhile_suffix _
        · cases hRead

------------------------------------------------------------
-- Whole Texts
------------------------------------------------------------

/-
  The number below a bound that a whole text spells, with or
  without a plus sign in front.
-/
def parseUnsigned
    (bound : Nat)
    (text : List Char) : Option Nat :=
  let digits :=
    if text.head? = some '+' then text.tail else text
  if digits = [] then
    none
  else if digits.all (isDigit 10) = false then
    none
  else if value 10 digits < bound then
    some (value 10 digits)
  else
    none

/- A text of digits alone is the number they spell. -/
theorem parseUnsigned_digits
    {digits : List Char}
    (hSome : digits ≠ [])
    (hAll : digits.all (isDigit 10) = true) :
    parseUnsigned bound digits =
      if value 10 digits < bound then
        some (value 10 digits)
      else
        none := by
  have hSign : digits.head? ≠ some '+' := by
    intro hPlus
    have hDigit :=
      List.all_eq_true.mp hAll '+' (List.mem_of_head? hPlus)
    revert hDigit
    decide
  have hNot : ¬ digits.all (isDigit 10) = false := by
    rw [hAll]
    decide
  unfold parseUnsigned
  rw [if_neg hSign]
  dsimp only
  rw [if_neg hSome, if_neg hNot]

/- A printed number is read back. -/
theorem parseUnsigned_toDigits
    {number : Nat}
    (hBound : number < bound) :
    parseUnsigned bound (Nat.toDigits 10 number) =
      some number := by
  have hAll :
      (Nat.toDigits 10 number).all (isDigit 10) = true :=
    List.all_eq_true.mpr fun _ hChar =>
      isDigit_of_mem_toDigits (by decide) (by decide) hChar
  rw [parseUnsigned_digits Nat.toDigits_ne_nil hAll,
    value_toDigits (by decide) (by decide), if_pos hBound]

end Numeral

end IsaWorkspace
