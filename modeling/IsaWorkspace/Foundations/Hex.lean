import Mathlib.Algebra.Group.Nat.Defs
import Mathlib.Data.List.Basic

/-
  Byte strings and their lower-case hexadecimal text.

  Main declarations:
    * `Bytes`, `asBytes`
    * `beBytes`, `toBeBytes`, `beValue`
    * `hexEncode`
    * `beValue_beBytes`, `beBytes_beValue`
    * `ofNat_beBytes16`, `beBytes_ofNat16`
    * `ofNat_beBytes32`, `beBytes_ofNat32`
    * `hexEncode_length`, `hexEncode_injective`
-/

------------------------------------------------------------
-- Byte Strings
------------------------------------------------------------

namespace IsaWorkspace

/- A byte string. -/
abbrev Bytes : Type :=
  List UInt8

/- The UTF-8 bytes of a text. -/
def asBytes
    (text : String) : Bytes :=
  text.toUTF8.data.toList

/- The low bytes of a number, high byte first. -/
def beBytes
    (count value : Nat) : Bytes :=
  (List.range count).map fun i =>
    UInt8.ofNat (value / 256 ^ (count - 1 - i))

@[simp] theorem beBytes_length
    (count value : Nat) :
    (beBytes count value).length = count := by
  simp [beBytes]

/- The eight bytes of a word, high byte first. -/
def toBeBytes
    (word : UInt64) : Bytes :=
  beBytes 8 word.toNat

/- The number some bytes spell, high byte first. -/
def beValue : Bytes → Nat
| [] => 0
| byte :: rest =>
    byte.toNat * 256 ^ rest.length + beValue rest

/- The high byte comes first. -/
theorem beBytes_succ
    (count value : Nat) :
    beBytes (count + 1) value =
      UInt8.ofNat (value / 256 ^ count) ::
        beBytes count value := by
  unfold beBytes
  rw [List.range_succ_eq_map, List.map_cons, List.map_map]
  congr 1
  apply List.map_congr_left
  intro i _
  have hIndex : count + 1 - 1 - (i + 1) = count - 1 - i := by
    omega
  simp only [Function.comp_apply, Nat.succ_eq_add_one,
    hIndex]

/- The low bytes of a number spell it, if they reach. -/
theorem beValue_beBytes
    (count value : Nat) :
    beValue (beBytes count value) =
      value % 256 ^ count := by
  induction count with
  | zero => simp [beBytes, beValue, Nat.mod_one]
  | succ count ih =>
      rw [beBytes_succ, beValue, ih, beBytes_length,
        Nat.mod_pow_succ, UInt8.toNat_ofNat']
      rw [Nat.mul_comm, Nat.add_comm]

/- A number that fits is determined by its bytes. -/
theorem beBytes_inj
    {count value other : Nat}
    (hValue : value < 256 ^ count)
    (hOther : other < 256 ^ count)
    (hEq : beBytes count value = beBytes count other) :
    value = other := by
  have hSpelt := congrArg beValue hEq
  rw [beValue_beBytes, beValue_beBytes,
    Nat.mod_eq_of_lt hValue,
    Nat.mod_eq_of_lt hOther] at hSpelt
  exact hSpelt

/- Bytes spell less than one byte more would. -/
theorem beValue_lt
    (bytes : Bytes) :
    beValue bytes < 256 ^ bytes.length := by
  induction bytes with
  | nil => exact Nat.one_pos
  | cons byte rest ih =>
      have hByte : byte.toNat + 1 ≤ 256 := byte.toNat_lt
      calc
        beValue (byte :: rest)
            < (byte.toNat + 1) * 256 ^ rest.length := by
              rw [beValue, Nat.add_mul, Nat.one_mul]
              exact Nat.add_lt_add_left ih _
        _ ≤ 256 * 256 ^ rest.length :=
              Nat.mul_le_mul_right _ hByte
        _ = 256 ^ (byte :: rest).length := by
              rw [List.length_cons, Nat.pow_succ,
                Nat.mul_comm]

/- As many bytes that spell the same are the same. -/
theorem beValue_inj
    {bytes other : Bytes}
    (hLength : bytes.length = other.length)
    (hValue : beValue bytes = beValue other) :
    bytes = other := by
  induction bytes generalizing other with
  | nil => exact (List.length_eq_zero_iff.mp hLength.symm).symm
  | cons byte rest ih =>
      cases other with
      | nil => cases hLength
      | cons byte' rest' =>
          have hSame : rest.length = rest'.length :=
            Nat.succ.inj hLength
          have hPower : 0 < 256 ^ rest'.length :=
            Nat.pow_pos (by decide)
          have hRest := beValue_lt rest
          have hRest' := beValue_lt rest'
          rw [hSame] at hRest
          rw [beValue, beValue, hSame] at hValue
          have hHigh : byte.toNat = byte'.toNat := by
            have hDiv := congrArg (· / 256 ^ rest'.length) hValue
            simpa [Nat.mul_comm, Nat.mul_add_div hPower,
              Nat.div_eq_of_lt hRest,
              Nat.div_eq_of_lt hRest'] using hDiv
          rw [hHigh] at hValue
          rw [UInt8.toNat_inj.mp hHigh,
            ih hSame (Nat.add_left_cancel hValue)]

/- Bytes are the low bytes of what they spell. -/
theorem beBytes_beValue
    (bytes : Bytes) :
    beBytes bytes.length (beValue bytes) = bytes := by
  apply beValue_inj
  · exact beBytes_length _ _
  · rw [beValue_beBytes]
    exact Nat.mod_eq_of_lt (beValue_lt bytes)

/- A half word is read from the bytes that it is written to. -/
theorem ofNat_beBytes16
    (word : UInt16) :
    UInt16.ofNat (beValue (beBytes 2 word.toNat)) =
      word := by
  have hFits : word.toNat < 256 ^ 2 := word.toNat_lt
  rw [beValue_beBytes, Nat.mod_eq_of_lt hFits,
    UInt16.ofNat_toNat]

/- A half word is written to the bytes that it is read from. -/
theorem beBytes_ofNat16
    {bytes : Bytes}
    (hLength : bytes.length = 2) :
    beBytes 2 (UInt16.ofNat (beValue bytes)).toNat =
      bytes := by
  have hFits := beValue_lt bytes
  have hBytes := beBytes_beValue bytes
  rw [hLength] at hFits hBytes
  rw [UInt16.toNat_ofNat_of_lt' hFits, hBytes]

/- A word is read from the bytes that it is written to. -/
theorem ofNat_beBytes32
    (word : UInt32) :
    UInt32.ofNat (beValue (beBytes 4 word.toNat)) =
      word := by
  have hFits : word.toNat < 256 ^ 4 := word.toNat_lt
  rw [beValue_beBytes, Nat.mod_eq_of_lt hFits,
    UInt32.ofNat_toNat]

/- A word is written to the bytes that it is read from. -/
theorem beBytes_ofNat32
    {bytes : Bytes}
    (hLength : bytes.length = 4) :
    beBytes 4 (UInt32.ofNat (beValue bytes)).toNat =
      bytes := by
  have hFits := beValue_lt bytes
  have hBytes := beBytes_beValue bytes
  rw [hLength] at hFits hBytes
  rw [UInt32.toNat_ofNat_of_lt' hFits, hBytes]

/- A word is determined by its bytes. -/
theorem toBeBytes_injective :
    Function.Injective toBeBytes := by
  intro word other hEq
  have hRange : (256 : Nat) ^ 8 = 2 ^ 64 := by
    decide
  apply UInt64.toNat.inj
  refine beBytes_inj ?_ ?_ hEq
  · rw [hRange]
    exact word.toNat_lt
  · rw [hRange]
    exact other.toNat_lt

@[simp] theorem toBeBytes_length
    (word : UInt64) :
    (toBeBytes word).length = 8 :=
  beBytes_length 8 word.toNat

/- The bytes of two texts in a row. -/
theorem asBytes_append
    (text other : String) :
    asBytes (text ++ other) =
      asBytes text ++ asBytes other := by
  simp [asBytes]

/- A text is determined by its bytes. -/
theorem asBytes_injective :
    Function.Injective asBytes := by
  intro text other hEq
  unfold asBytes at hEq
  apply String.toByteArray_inj.mp
  exact ByteArray.ext (Array.toList_inj.mp hEq)

end IsaWorkspace

------------------------------------------------------------
-- Hexadecimal Encoding
------------------------------------------------------------

namespace IsaWorkspace

/- The lower-case digit of a value below sixteen. -/
def hexDigit
    (value : Nat) : Char :=
  if value < 10 then Char.ofNat (48 + value)
  else Char.ofNat (87 + value)

/- The two digits of one byte, high half first. -/
def hexByte
    (byte : UInt8) : List Char :=
  [hexDigit (byte.toNat / 16),
    hexDigit (byte.toNat % 16)]

/- The hexadecimal text of a byte string. -/
def hexEncode
    (bytes : Bytes) : String :=
  String.ofList (bytes.flatMap hexByte)

/- Each byte takes two digits. -/
theorem hexEncode_length
    (bytes : Bytes) :
    (hexEncode bytes).length = 2 * bytes.length := by
  have hDigits :
      (bytes.flatMap hexByte).length =
        2 * bytes.length := by
    induction bytes with
    | nil => rfl
    | cons byte rest ih =>
        rw [List.flatMap_cons, List.length_append, ih]
        simp only [hexByte, List.length_cons,
          List.length_nil]
        omega
  rw [hexEncode, String.length_ofList, hDigits]

/- Different values below sixteen have different digits. -/
theorem hexDigit_inj
    {value other : Nat}
    (hValue : value < 16)
    (hOther : other < 16)
    (hEq : hexDigit value = hexDigit other) :
    value = other := by
  have hAll :
      ∀ a < 16, ∀ b < 16,
        hexDigit a = hexDigit b → a = b := by
    decide
  exact hAll value hValue other hOther hEq

/- A byte is determined by its two digits. -/
theorem hexByte_injective :
    Function.Injective hexByte := by
  intro byte other hEq
  unfold hexByte at hEq
  rw [List.cons.injEq, List.cons.injEq] at hEq
  rcases hEq with ⟨hHigh, hLow, _⟩
  have hByte := byte.toNat_lt
  have hOther := other.toNat_lt
  have hHalf :
      byte.toNat / 16 = other.toNat / 16 := by
    apply hexDigit_inj
    · omega
    · omega
    · exact hHigh
  have hRest :
      byte.toNat % 16 = other.toNat % 16 := by
    apply hexDigit_inj
    · omega
    · omega
    · exact hLow
  apply UInt8.toNat.inj
  omega

/- All characters of an encoding are digits. -/
theorem exists_of_mem_hexEncode
    {bytes : Bytes}
    {char : Char}
    (hChar : char ∈ (hexEncode bytes).toList) :
    ∃ value < 16, char = hexDigit value := by
  unfold hexEncode at hChar
  rw [String.toList_ofList] at hChar
  rcases List.mem_flatMap.mp hChar with ⟨byte, _, hByte⟩
  have hRange := byte.toNat_lt
  rcases List.mem_cons.mp hByte with hHigh | hRest
  · exact ⟨_, by omega, hHigh⟩
  · exact ⟨_, by omega, List.mem_singleton.mp hRest⟩

/- There is no dash among hexadecimal digits. -/
theorem dash_not_mem_hexEncode
    (bytes : Bytes) :
    '-' ∉ (hexEncode bytes).toList := by
  have hDigit : ∀ value < 16, '-' ≠ hexDigit value := by
    decide
  intro hDash
  rcases exists_of_mem_hexEncode hDash with
    ⟨value, hValue, hSame⟩
  exact hDigit value hValue hSame

/- A byte string is determined by its digits. -/
theorem hexEncode_injective :
    Function.Injective hexEncode := by
  intro bytes other hEq
  unfold hexEncode at hEq
  rw [String.ofList_inj] at hEq
  induction bytes generalizing other with
  | nil =>
      cases other with
      | nil => rfl
      | cons byte rest => simp [hexByte] at hEq
  | cons byte rest ih =>
      cases other with
      | nil => simp [hexByte] at hEq
      | cons byte' rest' =>
          rw [List.flatMap_cons, List.flatMap_cons] at hEq
          rcases List.append_inj hEq rfl with
            ⟨hByte, hRest⟩
          rw [hexByte_injective hByte, ih hRest]

end IsaWorkspace
