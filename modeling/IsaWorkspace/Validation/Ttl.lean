import IsaWorkspace.Api.Ttl
import IsaWorkspace.Validation.Validators

/-
  Two readers of one format.

  Both readers count the characters of the digits and slice
  by bytes, which is the same in front of the unit, as digits
  take one byte each.  The validator follows the handlers'
  parser step by step and then checks the range.

  Main declarations:
    * `ttlSlices_some`, `parseTtlSliced_eq`
    * `TtlFollows`, `validateTtl_follows`
    * `ttlParsers_agree`
-/

------------------------------------------------------------
-- Slices
------------------------------------------------------------

namespace IsaWorkspace

theorem isDigit_of_mem_ttlDigits
    {text : String}
    {char : Char}
    (hChar : char ∈ ttlDigits text) :
    Numeral.isDigit 10 char = true :=
  List.mem_takeWhile_imp hChar

/- A text is its digits and what comes after them. -/
theorem ttlDigits_append_ttlUnit
    (text : String) :
    ttlDigits text ++ (ttlUnit text).toList =
      text.toList := by
  unfold ttlDigits ttlUnit
  rw [String.toList_ofList]
  exact List.takeWhile_append_dropWhile

/- The digits end where there are no more of them. -/
theorem ttlNumEnd_eq
    (text : String) :
    ttlNumEnd text = (ttlDigits text).length := by
  unfold ttlNumEnd ttlDigits
  rw [← List.findIdx_eq_getD_findIdx?,
    List.takeWhile_eq_take_findIdx_not, List.length_take,
    Nat.min_eq_left List.findIdx_le_length]

/- There are digits where they do not end at once. -/
theorem ttlNumEnd_ne_zero
    {text : String}
    (hEnd : ttlNumEnd text ≠ 0) : ttlDigits text ≠ [] := by
  rw [ttlNumEnd_eq] at hEnd
  exact List.length_pos_iff.mp (Nat.pos_of_ne_zero hEnd)

/- Both slices are at the end of the digits. -/
theorem ttlSlices_some
    (text : String) :
    LocalBackend.byteSlice (ttlNumEnd text) text.toList =
        some (ttlDigits text) ∧
      Text.sliceFrom (ttlNumEnd text) text.toList =
        some (ttlUnit text).toList := by
  have hBytes :
      ∀ char ∈ ttlDigits text, char.utf8Size = 1 :=
    fun _ hChar =>
      Numeral.utf8Size_of_isDigit
        (isDigit_of_mem_ttlDigits hChar)
  rw [ttlNumEnd_eq, ← ttlDigits_append_ttlUnit text]
  exact ⟨LocalBackend.byteSlice_append _ hBytes,
    Text.sliceFrom_append _ hBytes⟩

/- Digits spell a number, if they are not too many. -/
theorem parseUnsigned_ttlDigits
    {text : String}
    (hDigits : ttlDigits text ≠ []) :
    Numeral.parseUnsigned (2 ^ 64) (ttlDigits text) =
      if Numeral.value 10 (ttlDigits text) < 2 ^ 64 then
        some (Numeral.value 10 (ttlDigits text))
      else
        none :=
  Numeral.parseUnsigned_digits hDigits
    (List.all_eq_true.mpr fun _ =>
      isDigit_of_mem_ttlDigits)

end IsaWorkspace

------------------------------------------------------------
-- Agreement
------------------------------------------------------------

namespace IsaWorkspace

section

variable [BuildProfile]

/- The slices are what the parser takes of a text. -/
theorem parseTtlSliced_eq
    (ttl : Option String) :
    parseTtlSliced ttl = parseTtl ttl := by
  cases ttl with
  | none => rfl
  | some text =>
      unfold parseTtlSliced parseTtl
      dsimp only
      by_cases hEmpty : text = ""
      · rw [if_pos hEmpty, if_pos hEmpty]
      · have hChars : text.toList ≠ [] := by
          rwa [Ne, String.toList_eq_nil_iff]
        rw [if_neg hEmpty, if_neg hEmpty, if_neg hChars]
        by_cases hEnd : ttlNumEnd text = 0
        · have hDigits : ttlDigits text = [] := by
            rw [ttlNumEnd_eq] at hEnd
            exact List.length_eq_zero_iff.mp hEnd
          rw [if_pos hEnd, if_pos hDigits]
        · have hDigits := ttlNumEnd_ne_zero hEnd
          rw [if_neg hEnd, if_neg hDigits,
            (ttlSlices_some text).1,
            (ttlSlices_some text).2]
          dsimp only
          rw [parseUnsigned_ttlDigits hDigits]
          by_cases hWord :
              Numeral.value 10 (ttlDigits text) < 2 ^ 64
          · rw [if_pos hWord,
              if_neg (Nat.not_le_of_lt hWord)]
            have hUnit :
                String.ofList (ttlUnit text).toList =
                  ttlUnit text :=
              String.ofList_toList
            dsimp only
            generalize String.ofList (ttlUnit text).toList =
              unit at hUnit ⊢
            subst hUnit
            rfl
          · rw [if_neg hWord, if_pos (Nat.le_of_not_lt hWord)]

omit [BuildProfile] in
/- The two tables of units are the same. -/
theorem validateTtlUnit_eq
    (unit : String) :
    validateTtlUnit unit = parseTtlUnit unit := by
  rfl

/-
  A validated TTL after the parsed one: the range is checked
  of seconds, and all else stays what it was.
-/
inductive TtlFollows :
    Outcome Refusal (Option UInt64) →
      Outcome ValidationErrors (Option UInt64) → Prop where
  | unset : TtlFollows (.ok none) (.ok none)
  | read (seconds : UInt64) :
      TtlFollows (.ok (some seconds))
        ((ttlRange seconds).refuseOr (some seconds))
  | refused
      (refusal : Refusal)
      (errors : ValidationErrors) :
      TtlFollows (.err refusal) (.err errors)
  | panicked : TtlFollows .panicked .panicked

/- The validator takes every step that the parser takes. -/
theorem validateTtl_follows
    (ttl : Option String) :
    TtlFollows (parseTtlSliced ttl) (validateTtl ttl) := by
  cases ttl with
  | none => exact .unset
  | some text =>
      unfold parseTtlSliced validateTtl
      dsimp only
      by_cases hEmpty : text = ""
      · rw [if_pos hEmpty, if_pos hEmpty]
        exact .unset
      rw [if_neg hEmpty, if_neg hEmpty]
      by_cases hChars : text.toList = []
      · rw [if_pos hChars, if_pos hChars]
        exact .refused _ _
      rw [if_neg hChars, if_neg hChars]
      by_cases hEnd : ttlNumEnd text = 0
      · rw [if_pos hEnd, if_pos hEnd]
        exact .refused _ _
      rw [if_neg hEnd, if_neg hEnd]
      cases LocalBackend.byteSlice (ttlNumEnd text)
          text.toList with
      | none => exact .panicked
      | some digits =>
      dsimp only
      cases Numeral.parseUnsigned (2 ^ 64) digits with
      | none => exact .refused _ _
      | some num =>
      dsimp only
      cases Text.sliceFrom (ttlNumEnd text) text.toList with
      | none => exact .panicked
      | some unit =>
      dsimp only
      rw [validateTtlUnit_eq]
      cases parseTtlUnit (String.ofList unit) with
      | none => exact .refused _ _
      | some factor =>
      dsimp only
      cases checkedMul (UInt64.ofNat num) factor with
      | none => exact .panicked
      | some seconds => exact .read seconds

end

/- Seconds in the range are the ones that are returned. -/
theorem refuseOr_ttlRange
    (seconds : UInt64)
    (value : Option UInt64) :
    (ttlRange seconds).refuseOr (some seconds) = .ok value ↔
      some seconds = value ∧
        60 ≤ seconds.toNat ∧ seconds.toNat ≤ 31536000 := by
  have hLow : seconds < 60 ↔ seconds.toNat < 60 :=
    UInt64.lt_iff_toNat_lt
  have hHigh :
      seconds > 365 * 86400 ↔ 31536000 < seconds.toNat :=
    UInt64.lt_iff_toNat_lt
  unfold ttlRange
  by_cases hShort : seconds < 60
  · rw [if_pos hShort]
    dsimp only
    constructor
    · split <;> nofun
    · rintro ⟨_, hLeast, _⟩
      exact absurd (hLow.mp hShort) (Nat.not_lt_of_le hLeast)
  · rw [if_neg hShort]
    dsimp only
    by_cases hLong : seconds > 365 * 86400
    · rw [if_pos hLong]
      constructor
      · nofun
      · rintro ⟨_, _, hMost⟩
        exact absurd (hHigh.mp hLong) (Nat.not_lt_of_le hMost)
    · rw [if_neg hLong]
      rw [hLow] at hShort
      rw [hHigh] at hLong
      constructor
      · intro hOk
        exact ⟨Outcome.ok.inj hOk, Nat.le_of_not_lt hShort,
          Nat.le_of_not_lt hLong⟩
      · rintro ⟨rfl, _, _⟩
        rfl

/- What follows a value is the value, if it is in range. -/
theorem TtlFollows.ok_iff
    {parsed : Outcome Refusal (Option UInt64)}
    {validated : Outcome ValidationErrors (Option UInt64)}
    (hFollows : TtlFollows parsed validated)
    (value : Option UInt64) :
    validated = .ok value ↔
      parsed = .ok value ∧
        ∀ seconds ∈ value,
          60 ≤ seconds.toNat ∧
            seconds.toNat ≤ 31536000 := by
  cases hFollows with
  | unset =>
      constructor
      · rintro ⟨⟩
        exact ⟨rfl, nofun⟩
      · rintro ⟨⟨⟩, _⟩
        rfl
  | read seconds =>
      rw [refuseOr_ttlRange]
      constructor
      · rintro ⟨rfl, hRange⟩
        refine ⟨rfl, ?_⟩
        rintro _ ⟨⟩
        exact hRange
      · rintro ⟨⟨⟩, hRange⟩
        exact ⟨rfl, hRange seconds rfl⟩
  | refused refusal errors =>
      constructor
      · nofun
      · rintro ⟨⟨⟩, _⟩
  | panicked =>
      constructor
      · nofun
      · rintro ⟨⟨⟩, _⟩

/- A panic comes after a panic only. -/
theorem TtlFollows.panicked_iff
    {parsed : Outcome Refusal (Option UInt64)}
    {validated : Outcome ValidationErrors (Option UInt64)}
    (hFollows : TtlFollows parsed validated) :
    validated = .panicked ↔ parsed = .panicked := by
  cases hFollows with
  | unset => exact iff_of_false nofun nofun
  | read seconds =>
      refine iff_of_false ?_ nofun
      unfold ValidationErrors.refuseOr
      split <;> nofun
  | refused refusal errors =>
      exact iff_of_false nofun nofun
  | panicked => exact iff_of_true rfl rfl

/- Without overflow checks there is nothing to panic. -/
theorem parseTtl_wrapping
    (ttl : Option String) :
    @parseTtl ⟨false⟩ ttl ≠ .panicked := by
  cases ttl with
  | none => nofun
  | some text =>
      unfold parseTtl
      dsimp only
      split
      · nofun
      split
      · nofun
      split
      · nofun
      cases parseTtlUnit (ttlUnit text) with
      | none => nofun
      | some factor =>
          dsimp only
          rw [@checkedMul_eq_some ⟨false⟩ _ _ (Or.inl rfl)]
          nofun

/-
  Both parsers return the same, in the range of the
  validator, and slice a text where its digits end.
-/
theorem ttlParsers_agree
    [BuildProfile]
    (text : String) :
    (∀ value : Option UInt64,
        validateTtl (some text) = .ok value ↔
          parseTtlSliced (some text) = .ok value ∧
            ∀ seconds ∈ value,
              60 ≤ seconds.toNat ∧
                seconds.toNat ≤ 31536000) ∧
      (LocalBackend.byteSlice (ttlNumEnd text)
        text.toList).isSome ∧
      (Text.sliceFrom (ttlNumEnd text) text.toList).isSome ∧
      @validateTtl ⟨false⟩ (some text) ≠ .panicked ∧
      @parseTtlSliced ⟨false⟩ (some text) ≠ .panicked := by
  have hParsed :
      @parseTtlSliced ⟨false⟩ (some text) ≠ .panicked := by
    rw [@parseTtlSliced_eq ⟨false⟩]
    exact parseTtl_wrapping (some text)
  have hValidated :
      @validateTtl ⟨false⟩ (some text) ≠ .panicked := by
    rw [Ne, (@validateTtl_follows ⟨false⟩ _).panicked_iff]
    exact hParsed
  refine ⟨(validateTtl_follows (some text)).ok_iff, ?_, ?_,
    hValidated, hParsed⟩
  · rw [(ttlSlices_some text).1]
    rfl
  · rw [(ttlSlices_some text).2]
    rfl

end IsaWorkspace
