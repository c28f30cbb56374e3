import IsaWorkspace.Foundations.Hex
import Mathlib.Data.List.DropRight

/-
  Texts as the standard library takes them apart.

  A text is the list of its characters.  Bytes that came
  from elsewhere are decoded with a replacement character in
  the place of every sequence that is not UTF-8, so that an
  ASCII text at their front is always read as it stands.

  Main declarations:
    * `Text.fromUtf8Lossy`, `Text.fromUtf8Lossy_ascii`
    * `Text.isWhitespace`, `Text.trim`
    * `Text.stripPrefix`, `Text.stripPrefix_append`
    * `Text.firstWord`, `Text.firstWord_append`
    * `Text.words`, `Text.words_cons`
    * `Text.sliceFrom`, `Text.sliceFrom_append`
    * `Text.append_separator_eq_iff`
    * `asBytes_ofList`, `asBytes_ascii`
-/

------------------------------------------------------------
-- Decoding
------------------------------------------------------------

namespace IsaWorkspace

namespace Text

/- Stands for bytes that are no character. -/
def replacement : Char :=
  Char.ofNat 0xFFFD

/-
  A character whose first bytes were read: how many bytes it
  still needs, the range of the next one, and its value.
-/
structure Incomplete where
  missing : Nat
  low : UInt8
  high : UInt8
  value : Nat

/- A byte between two characters. -/
def startChar
    (byte : UInt8) : List Char × Option Incomplete :=
  if byte < 0x80 then
    ([Char.ofNat byte.toNat], none)
  else if 0xC2 ≤ byte ∧ byte ≤ 0xDF then
    ([], some ⟨1, 0x80, 0xBF, byte.toNat % 32⟩)
  else if byte = 0xE0 then
    ([], some ⟨2, 0xA0, 0xBF, byte.toNat % 16⟩)
  else if byte = 0xED then
    ([], some ⟨2, 0x80, 0x9F, byte.toNat % 16⟩)
  else if 0xE1 ≤ byte ∧ byte ≤ 0xEF then
    ([], some ⟨2, 0x80, 0xBF, byte.toNat % 16⟩)
  else if byte = 0xF0 then
    ([], some ⟨3, 0x90, 0xBF, byte.toNat % 8⟩)
  else if 0xF1 ≤ byte ∧ byte ≤ 0xF3 then
    ([], some ⟨3, 0x80, 0xBF, byte.toNat % 8⟩)
  else if byte = 0xF4 then
    ([], some ⟨3, 0x80, 0x8F, byte.toNat % 8⟩)
  else
    ([replacement], none)

/- A byte inside a character that can go on with it. -/
def continueChar
    (char : Incomplete)
    (byte : UInt8) : List Char × Option Incomplete :=
  let value := char.value * 64 + byte.toNat % 64
  if char.missing ≤ 1 then
    ([Char.ofNat value], none)
  else
    ([], some ⟨char.missing - 1, 0x80, 0xBF, value⟩)

/-
  Decode bytes.  A character that breaks off is replaced as
  a whole, and the byte it broke off at starts anew.
-/
def decodeFrom :
    Option Incomplete → Bytes → List Char
| none, [] => []
| some _, [] => [replacement]
| none, byte :: rest =>
    (startChar byte).1 ++ decodeFrom (startChar byte).2 rest
| some char, byte :: rest =>
    if char.low ≤ byte ∧ byte ≤ char.high then
      (continueChar char byte).1 ++
        decodeFrom (continueChar char byte).2 rest
    else
      replacement ::
        ((startChar byte).1 ++
          decodeFrom (startChar byte).2 rest)

/- The text of some bytes, whatever they are. -/
def fromUtf8Lossy
    (bytes : Bytes) : List Char :=
  decodeFrom none bytes

/-
  What is said of the characters of a text is decided at
  them, before any way that goes through all characters.
-/
instance (priority := 2000) decidableForallChar
    {p : Char → Prop}
    [DecidablePred p]
    (text : List Char) :
    Decidable (∀ char ∈ text, p char) :=
  List.decidableBAll p text

def IsAscii
    (text : List Char) : Prop :=
  ∀ char ∈ text, char.toNat < 128

instance
    (text : List Char) :
    Decidable (IsAscii text) :=
  decidableForallChar text

theorem IsAscii.append
    {text other : List Char}
    (hText : IsAscii text)
    (hOther : IsAscii other) :
    IsAscii (text ++ other) := by
  intro char hChar
  rcases List.mem_append.mp hChar with hLeft | hRight
  · exact hText char hLeft
  · exact hOther char hRight

/- ASCII text is read as it stands, whatever comes after. -/
theorem fromUtf8Lossy_ascii
    {text : List Char}
    (hAscii : IsAscii text)
    (rest : Bytes) :
    fromUtf8Lossy
        (text.map (fun char => UInt8.ofNat char.toNat) ++
          rest) =
      text ++ fromUtf8Lossy rest := by
  induction text with
  | nil => rfl
  | cons char others ih =>
      have hChar : char.toNat < 128 :=
        hAscii char List.mem_cons_self
      have hByte :
          (UInt8.ofNat char.toNat).toNat = char.toNat := by
        rw [UInt8.toNat_ofNat']
        exact Nat.mod_eq_of_lt (by omega)
      have hLow : UInt8.ofNat char.toNat < 0x80 := by
        rw [UInt8.lt_iff_toNat_lt, hByte]
        exact hChar
      have hStart :
          startChar (UInt8.ofNat char.toNat) =
            ([char], none) := by
        unfold startChar
        rw [if_pos hLow, hByte, Char.ofNat_toNat]
      have hOthers : IsAscii others := fun other hOther =>
        hAscii other (List.mem_cons_of_mem _ hOther)
      have hRest := ih hOthers
      unfold fromUtf8Lossy at hRest ⊢
      rw [List.map_cons, List.cons_append, decodeFrom, hStart,
        hRest]
      rfl

end Text

/- The bytes of a text, character by character. -/
theorem asBytes_ofList
    (text : List Char) :
    asBytes (String.ofList text) =
      text.flatMap String.utf8EncodeChar := by
  unfold asBytes
  rw [String.toUTF8_eq_toByteArray, String.toByteArray_ofList,
    List.utf8Encode, List.toList_data_toByteArray]

/- An ASCII character is one byte. -/
theorem asBytes_ascii
    {text : List Char}
    (hAscii : Text.IsAscii text) :
    asBytes (String.ofList text) =
      text.map fun char => UInt8.ofNat char.toNat := by
  rw [asBytes_ofList]
  induction text with
  | nil => rfl
  | cons char others ih =>
      have hChar : char.toNat < 128 :=
        hAscii char List.mem_cons_self
      have hLow : char.val ≤ 0x7F := by
        rw [UInt32.le_iff_toNat_le]
        exact Nat.le_of_lt_succ hChar
      have hSize : char.utf8Size = 1 :=
        if_pos hLow
      have hOthers : Text.IsAscii others :=
        fun other hOther =>
          hAscii other (List.mem_cons_of_mem _ hOther)
      rw [List.flatMap_cons, List.map_cons, ih hOthers,
        String.utf8EncodeChar_eq_singleton hSize]
      rfl

end IsaWorkspace

------------------------------------------------------------
-- Words
------------------------------------------------------------

namespace IsaWorkspace

namespace Text

/- The characters that Unicode calls white space. -/
def isWhitespace
    (char : Char) : Bool :=
  let code := char.toNat
  decide
    ((9 ≤ code ∧ code ≤ 13) ∨ code = 32 ∨ code = 0x85 ∨
      code = 0xA0 ∨ code = 0x1680 ∨
      (0x2000 ≤ code ∧ code ≤ 0x200A) ∨
      code = 0x2028 ∨ code = 0x2029 ∨ code = 0x202F ∨
      code = 0x205F ∨ code = 0x3000)

/- Without the white space around it. -/
def trim
    (text : List Char) : List Char :=
  (text.dropWhile isWhitespace).rdropWhile isWhitespace

/- What follows a prefix, where there is the prefix. -/
def stripPrefix
    (text first : List Char) : Option (List Char) :=
  if first.isPrefixOf text then
    some (text.drop first.length)
  else
    none

/- The first of the words between white space. -/
def firstWord
    (text : List Char) : Option (List Char) :=
  let word :=
    (text.dropWhile isWhitespace).takeWhile
      fun char => !isWhitespace char
  if word = [] then none else some word

/- All the words between white space. -/
def words
    (text : List Char) : List (List Char) :=
  (text.splitOnP isWhitespace).filter fun word =>
    decide (word ≠ [])

theorem stripPrefix_append
    (first rest : List Char) :
    stripPrefix (first ++ rest) first = some rest := by
  have hPrefix : first.isPrefixOf (first ++ rest) = true :=
    List.isPrefixOf_iff_prefix.mpr
      (List.prefix_append first rest)
  unfold stripPrefix
  rw [if_pos hPrefix, List.drop_left]

/- A text that is too short does not have the prefix. -/
theorem stripPrefix_short
    {text first : List Char}
    (hShort : text.length < first.length) :
    stripPrefix text first = none := by
  have hNot : ¬ first.isPrefixOf text = true := by
    intro hPrefix
    have hLength :=
      (List.isPrefixOf_iff_prefix.mp hPrefix).length_le
    omega
  unfold stripPrefix
  rw [if_neg hNot]

/- A word is read up to the white space behind it. -/
theorem firstWord_append
    {word rest : List Char}
    (hSome : word ≠ [])
    (hWord : ∀ char ∈ word, isWhitespace char = false)
    (hRest : ∀ char ∈ rest.head?, isWhitespace char = true) :
    firstWord (word ++ rest) = some word := by
  have hDrop :
      (word ++ rest).dropWhile isWhitespace =
        word ++ rest := by
    cases word with
    | nil => exact absurd rfl hSome
    | cons char others =>
        have hNo : ¬ isWhitespace char = true := by
          rw [hWord char List.mem_cons_self]
          exact Bool.false_ne_true
        exact List.dropWhile_cons_of_neg hNo
  have hTake :
      (word ++ rest).takeWhile
          (fun char => !isWhitespace char) =
        word := by
    rw [List.takeWhile_append_of_pos]
    · cases rest with
      | nil => rw [List.takeWhile_nil, List.append_nil]
      | cons char others =>
          rw [List.takeWhile_cons, hRest char rfl,
            Bool.not_true, if_neg Bool.false_ne_true,
            List.append_nil]
    · intro char hChar
      rw [hWord char hChar]
      rfl
  unfold firstWord
  rw [hDrop, hTake]
  dsimp only
  rw [if_neg hSome]

/- A word is taken up to the white space behind it. -/
theorem words_cons
    {word rest : List Char}
    {space : Char}
    (hSome : word ≠ [])
    (hWord : ∀ char ∈ word, isWhitespace char = false)
    (hSpace : isWhitespace space = true) :
    words (word ++ space :: rest) = word :: words rest := by
  unfold words
  rw [List.splitOnP_append_cons_of_forall_mem hWord space
    hSpace]
  exact List.filter_cons_of_pos (decide_eq_true hSome)

end Text

end IsaWorkspace

------------------------------------------------------------
-- Slices
------------------------------------------------------------

namespace IsaWorkspace

namespace Text

/-
  What follows the first `count` bytes of a text; `none` is
  the panic of a slice that begins inside a character or
  behind the text.
-/
def sliceFrom
    (count : Nat) :
    List Char → Option (List Char)
| [] => if count = 0 then some [] else none
| char :: rest =>
    if count = 0 then
      some (char :: rest)
    else if char.utf8Size ≤ count then
      sliceFrom (count - char.utf8Size) rest
    else
      none

/- Behind characters of one byte each. -/
theorem sliceFrom_append
    {front : List Char}
    (rest : List Char)
    (hFront : ∀ char ∈ front, char.utf8Size = 1) :
    sliceFrom front.length (front ++ rest) = some rest := by
  induction front with
  | nil => cases rest <;> rfl
  | cons char others ih =>
      have hChar := hFront char List.mem_cons_self
      have hOthers :=
        ih fun other hOther =>
          hFront other (List.mem_cons_of_mem char hOther)
      rw [List.length_cons, List.cons_append]
      unfold sliceFrom
      rw [if_neg (Nat.succ_ne_zero _), hChar,
        if_pos (Nat.le_add_left 1 _), Nat.add_sub_cancel]
      exact hOthers

end Text

end IsaWorkspace

------------------------------------------------------------
-- Separators
------------------------------------------------------------

namespace IsaWorkspace

namespace Text

/-
  Two lists around a separator are the same as two others if
  they are split at it in one place, or at two places with
  a part between them.
-/
theorem append_separator_eq_iff
    {α : Type}
    (separator : α)
    (before after before' after' : List α) :
    before ++ separator :: after =
        before' ++ separator :: after' ↔
      (before = before' ∧ after = after') ∨
        (∃ middle,
          before' = before ++ separator :: middle ∧
            after = middle ++ separator :: after') ∨
          ∃ middle,
            before = before' ++ separator :: middle ∧
              after' = middle ++ separator :: after := by
  constructor
  · intro hEq
    rcases List.append_eq_append_iff.mp hEq with
      ⟨rest, hBefore, hAfter⟩ | ⟨rest, hBefore, hAfter⟩
    · cases rest with
      | nil =>
          rw [List.append_nil] at hBefore
          rw [List.nil_append] at hAfter
          exact
            Or.inl
              ⟨hBefore.symm, (List.cons.inj hAfter).2⟩
      | cons first middle =>
          rw [List.cons_append] at hAfter
          obtain ⟨rfl, hTail⟩ := List.cons.inj hAfter
          exact Or.inr (Or.inl ⟨middle, hBefore, hTail⟩)
    · cases rest with
      | nil =>
          rw [List.append_nil] at hBefore
          rw [List.nil_append] at hAfter
          exact
            Or.inl
              ⟨hBefore, (List.cons.inj hAfter).2.symm⟩
      | cons first middle =>
          rw [List.cons_append] at hAfter
          obtain ⟨rfl, hTail⟩ := List.cons.inj hAfter
          exact Or.inr (Or.inr ⟨middle, hBefore, hTail⟩)
  · rintro
      (⟨rfl, rfl⟩ | ⟨middle, rfl, rfl⟩ |
        ⟨middle, rfl, rfl⟩)
    · rfl
    · simp
    · simp

end Text

end IsaWorkspace
