import IsaWorkspace.Validation.Ttl

/-
  The product of a TTL and the range of a TTL.

  The product is formed in a word before the range is
  checked.  A number that fits a word may have a product that
  does not, and such a text panics or wraps around.  All
  other texts are read as what they denote.

  Main declarations:
    * `DenotesUnit`, `parseTtlUnit_iff`
    * `DenotesTtl`, `denotesTtl_iff`
    * `ValidatesExactly`, `validatesExactly_iff`
-/

------------------------------------------------------------
-- Denotations
------------------------------------------------------------

namespace IsaWorkspace

/- The words for a unit, and the seconds that it counts. -/
def DenotesUnit
    (word : String)
    (seconds : Nat) : Prop :=
  word ∈ ["s", "sec", "secs", "second", "seconds"] ∧
      seconds = 1 ∨
    word ∈ ["m", "min", "mins", "minute", "minutes"] ∧
      seconds = 60 ∨
    word ∈ ["h", "hr", "hrs", "hour", "hours"] ∧
      seconds = 3600 ∨
    word ∈ ["d", "day", "days"] ∧ seconds = 86400 ∨
    word ∈ ["w", "week", "weeks"] ∧ seconds = 604800

/-
  A run of digits in front of a unit word, so many seconds
  altogether, in the range of a TTL.
-/
def DenotesTtl
    (text : String)
    (seconds : Nat) : Prop :=
  ∃ digits unit factor,
    text.toList = digits ++ unit.toList ∧
      digits ≠ [] ∧
      (∀ char ∈ digits, Numeral.isDigit 10 char = true) ∧
      DenotesUnit unit factor ∧
      seconds = Numeral.value 10 digits * factor ∧
      60 ≤ seconds ∧ seconds ≤ 31536000

/- The handlers read a unit as what it denotes. -/
theorem parseTtlUnit_iff
    {unit : String}
    {factor : UInt64} :
    parseTtlUnit unit = some factor ↔
      DenotesUnit unit factor.toNat := by
  unfold DenotesUnit
  constructor
  · intro hUnit
    unfold parseTtlUnit at hUnit
    split at hUnit
    case h_22 => cases hUnit
    all_goals
      cases hUnit
      simp
  · simp only [List.mem_cons, List.not_mem_nil, or_false]
    rintro (⟨hWord, hFactor⟩ | ⟨hWord, hFactor⟩ |
      ⟨hWord, hFactor⟩ | ⟨hWord, hFactor⟩ |
      ⟨hWord, hFactor⟩)
    · obtain rfl : factor = 1 := UInt64.toNat.inj hFactor
      rcases hWord with rfl | rfl | rfl | rfl | rfl <;> rfl
    · obtain rfl : factor = 60 := UInt64.toNat.inj hFactor
      rcases hWord with rfl | rfl | rfl | rfl | rfl <;> rfl
    · obtain rfl : factor = 3600 := UInt64.toNat.inj hFactor
      rcases hWord with rfl | rfl | rfl | rfl | rfl <;> rfl
    · obtain rfl : factor = 86400 := UInt64.toNat.inj hFactor
      rcases hWord with rfl | rfl | rfl <;> rfl
    · obtain rfl : factor = 604800 :=
        UInt64.toNat.inj hFactor
      rcases hWord with rfl | rfl | rfl <;> rfl

/- The seconds of a unit fit a word. -/
theorem DenotesUnit.exists_factor
    {unit : String}
    {seconds : Nat}
    (hUnit : DenotesUnit unit seconds) :
    ∃ factor : UInt64, seconds = factor.toNat := by
  rcases hUnit with ⟨-, rfl⟩ | ⟨-, rfl⟩ | ⟨-, rfl⟩ |
    ⟨-, rfl⟩ | ⟨-, rfl⟩
  · exact ⟨1, rfl⟩
  · exact ⟨60, rfl⟩
  · exact ⟨3600, rfl⟩
  · exact ⟨86400, rfl⟩
  · exact ⟨604800, rfl⟩

/- No unit word begins with a digit. -/
theorem head_of_parseTtlUnit
    {unit : String}
    {factor : UInt64}
    (hUnit : parseTtlUnit unit = some factor) :
    ∀ char ∈ unit.toList.head?,
      Numeral.isDigit 10 char = false := by
  have hHead :
      unit.toList.head?.all
          (fun char => !Numeral.isDigit 10 char) =
        true := by
    unfold parseTtlUnit at hUnit
    split at hUnit
    case h_22 => cases hUnit
    all_goals decide
  intro char hChar
  rw [Option.mem_def.mp hChar] at hHead
  exact Bool.not_eq_eq_eq_not.mp hHead

/- A text is taken apart in one way only. -/
theorem ttlDigits_eq
    {text unit : String}
    {digits : List Char}
    (hText : text.toList = digits ++ unit.toList)
    (hDigits :
      ∀ char ∈ digits, Numeral.isDigit 10 char = true)
    (hHead :
      ∀ char ∈ unit.toList.head?,
        Numeral.isDigit 10 char = false) :
    ttlDigits text = digits ∧ ttlUnit text = unit := by
  have hTake : ttlDigits text = digits := by
    unfold ttlDigits
    rw [hText, List.takeWhile_append_of_pos hDigits]
    cases hUnit : unit.toList with
    | nil => rw [List.takeWhile_nil, List.append_nil]
    | cons char others =>
        rw [hUnit] at hHead
        rw [List.takeWhile_cons, hHead char rfl,
          if_neg Bool.false_ne_true, List.append_nil]
  refine ⟨hTake, ?_⟩
  have hBoth := ttlDigits_append_ttlUnit text
  rw [hTake, hText] at hBoth
  exact String.toList_inj.mp (List.append_cancel_left hBoth)

/- What a text denotes, by its digits and its unit. -/
theorem denotesTtl_iff
    (text : String)
    (seconds : Nat) :
    DenotesTtl text seconds ↔
      ttlDigits text ≠ [] ∧
        (∃ factor,
          parseTtlUnit (ttlUnit text) = some factor ∧
            seconds =
              Numeral.value 10 (ttlDigits text) *
                factor.toNat) ∧
        60 ≤ seconds ∧ seconds ≤ 31536000 := by
  constructor
  · rintro ⟨digits, unit, seconds', hText, hSome, hDigits,
      hUnit, hSeconds, hRange⟩
    rcases hUnit.exists_factor with ⟨factor, rfl⟩
    have hParsed := parseTtlUnit_iff.mpr hUnit
    rcases ttlDigits_eq hText hDigits
      (head_of_parseTtlUnit hParsed) with ⟨rfl, rfl⟩
    exact ⟨hSome, ⟨factor, hParsed, hSeconds⟩, hRange⟩
  · rintro ⟨hSome, ⟨factor, hUnit, hSeconds⟩, hRange⟩
    exact ⟨ttlDigits text, ttlUnit text, factor.toNat,
      (ttlDigits_append_ttlUnit text).symm, hSome,
      fun _ => isDigit_of_mem_ttlDigits,
      parseTtlUnit_iff.mp hUnit, hSeconds, hRange⟩

end IsaWorkspace

------------------------------------------------------------
-- Exactness
------------------------------------------------------------

namespace IsaWorkspace

/-
  Whether every build validates a text as what it denotes,
  refuses it if it denotes nothing, and does not panic.
-/
def ValidatesExactly
    (text : String) : Prop :=
  ∀ profile : BuildProfile,
    (∀ seconds : UInt64,
        @validateTtl profile (some text) =
            .ok (some seconds) ↔
          DenotesTtl text seconds.toNat) ∧
      (text ≠ "" → (¬ ∃ seconds, DenotesTtl text seconds) →
        ∃ errors,
          @validateTtl profile (some text) = .err errors) ∧
      @validateTtl profile (some text) ≠ .panicked

/- A number that fits a word has a product that does. -/
def ProductFits
    (text : String) : Prop :=
  Numeral.value 10 (ttlDigits text) < 2 ^ 64 →
    ttlValue text < 2 ^ 64

/- Every unit counts one second or more. -/
theorem parseTtlUnit_pos
    {unit : String}
    {factor : UInt64}
    (hUnit : parseTtlUnit unit = some factor) :
    0 < factor.toNat := by
  unfold parseTtlUnit at hUnit
  split at hUnit
  case h_22 => cases hUnit
  all_goals
    cases hUnit
    decide

theorem ttlValue_of_unit
    {text : String}
    {factor : UInt64}
    (hUnit : parseTtlUnit (ttlUnit text) = some factor) :
    ttlValue text =
      Numeral.value 10 (ttlDigits text) * factor.toNat := by
  unfold ttlValue
  rw [hUnit]
  rfl

/- What is read of a text whose product fits. -/
inductive ReadsAsDenoted
    (text : String) :
    Outcome Refusal (Option UInt64) → Prop where
  | unset
      (hEmpty : text = "") :
      ReadsAsDenoted text (.ok none)
  | refused
      (refusal : Refusal)
      (hNothing : ¬ ∃ seconds, DenotesTtl text seconds) :
      ReadsAsDenoted text (.err refusal)
  | read
      (seconds : UInt64)
      (hSeconds :
        ∀ number, DenotesTtl text number ↔
          number = seconds.toNat ∧
            60 ≤ number ∧ number ≤ 31536000) :
      ReadsAsDenoted text (.ok (some seconds))

/-
  The cases are those of the parser.  A number of a word or
  more denotes nothing, as units do not make it smaller.
-/
theorem parseTtl_readsAsDenoted
    [BuildProfile]
    {text : String}
    (hFits : ProductFits text) :
    ReadsAsDenoted text (parseTtl (some text)) := by
  unfold parseTtl
  dsimp only
  by_cases hEmpty : text = ""
  · rw [if_pos hEmpty]
    exact .unset hEmpty
  rw [if_neg hEmpty]
  by_cases hDigits : ttlDigits text = []
  · rw [if_pos hDigits]
    refine .refused _ ?_
    rintro ⟨seconds, hDenotes⟩
    exact ((denotesTtl_iff text seconds).mp hDenotes).1
      hDigits
  rw [if_neg hDigits]
  by_cases hWord :
      2 ^ 64 ≤ Numeral.value 10 (ttlDigits text)
  · rw [if_pos hWord]
    refine .refused _ ?_
    rintro ⟨seconds, hDenotes⟩
    rcases (denotesTtl_iff text seconds).mp hDenotes with
      ⟨_, ⟨factor, hUnit, hSeconds⟩, _, hMost⟩
    have hGrows :
        Numeral.value 10 (ttlDigits text) ≤ seconds := by
      rw [hSeconds]
      exact Nat.le_mul_of_pos_right _
        (parseTtlUnit_pos hUnit)
    omega
  rw [if_neg hWord]
  cases hUnit : parseTtlUnit (ttlUnit text) with
  | none =>
      refine .refused _ ?_
      rintro ⟨seconds, hDenotes⟩
      rcases ((denotesTtl_iff text seconds).mp
        hDenotes).2.1 with ⟨factor, hSome, _⟩
      rw [hUnit] at hSome
      cases hSome
  | some factor =>
      have hNumber := Nat.lt_of_not_le hWord
      have hProduct := hFits hNumber
      rw [ttlValue_of_unit hUnit] at hProduct
      have hWord :=
        UInt64.toNat_ofNat_of_lt' hNumber
      dsimp only
      rw [checkedMul_eq_some (Or.inr (by rwa [hWord]))]
      refine .read _ ?_
      intro number
      rw [denotesTtl_iff, UInt64.toNat_mul, hWord,
        Nat.mod_eq_of_lt hProduct]
      constructor
      · rintro ⟨_, ⟨other, hOther, hSame⟩, hRange⟩
        rw [hUnit] at hOther
        cases hOther
        exact ⟨hSame, hRange⟩
      · rintro ⟨hSame, hRange⟩
        exact ⟨hDigits, ⟨factor, hUnit, hSame⟩, hRange⟩

/- A product that does not fit panics where it is checked. -/
theorem parseTtl_overflow
    {text : String}
    (hNumber : Numeral.value 10 (ttlDigits text) < 2 ^ 64)
    (hProduct : 2 ^ 64 ≤ ttlValue text) :
    @parseTtl ⟨true⟩ (some text) = .panicked := by
  have hDigits : ttlDigits text ≠ [] := by
    intro hNone
    unfold ttlValue at hProduct
    rw [hNone] at hProduct
    change 2 ^ 64 ≤ 0 * _ at hProduct
    omega
  have hEmpty : text ≠ "" := by
    rintro rfl
    exact hDigits rfl
  cases hUnit : parseTtlUnit (ttlUnit text) with
  | none =>
      unfold ttlValue at hProduct
      rw [hUnit] at hProduct
      change 2 ^ 64 ≤ _ * 0 at hProduct
      omega
  | some factor =>
      rw [ttlValue_of_unit hUnit] at hProduct
      unfold parseTtl
      dsimp only
      rw [if_neg hEmpty, if_neg hDigits,
        if_neg (Nat.not_le_of_lt hNumber), hUnit]
      dsimp only
      rw [@checkedMul_eq_none ⟨true⟩ _ _ rfl]
      rwa [UInt64.toNat_ofNat_of_lt' hNumber]

/- What follows a text that is read as it denotes. -/
theorem validates_of_follows
    {text : String}
    {parsed : Outcome Refusal (Option UInt64)}
    {validated : Outcome ValidationErrors (Option UInt64)}
    (hFollows : TtlFollows parsed validated)
    (hReads : ReadsAsDenoted text parsed) :
    (∀ seconds : UInt64,
        validated = .ok (some seconds) ↔
          DenotesTtl text seconds.toNat) ∧
      (text ≠ "" → (¬ ∃ seconds, DenotesTtl text seconds) →
        ∃ errors, validated = .err errors) ∧
      validated ≠ .panicked := by
  cases hReads with
  | unset hEmpty =>
      cases hFollows
      refine ⟨?_, fun hSome => absurd hEmpty hSome, nofun⟩
      intro seconds
      refine iff_of_false nofun ?_
      rw [denotesTtl_iff, hEmpty]
      rintro ⟨hDigits, _⟩
      exact hDigits rfl
  | refused refusal hNothing =>
      cases hFollows with
      | refused refusal errors =>
          refine ⟨?_, fun _ _ => ⟨errors, rfl⟩, nofun⟩
          intro seconds
          exact iff_of_false nofun fun hDenotes =>
            hNothing ⟨_, hDenotes⟩
  | read number hNumber =>
      cases hFollows
      refine ⟨?_, ?_, ?_⟩
      · intro seconds
        rw [refuseOr_ttlRange, hNumber]
        constructor
        · rintro ⟨⟨⟩, hRange⟩
          exact ⟨rfl, hRange⟩
        · rintro ⟨hSame, hRange⟩
          rw [hSame] at hRange
          exact ⟨congrArg some (UInt64.toNat.inj hSame).symm,
            hRange⟩
      · intro _ hNothing
        by_cases hOk : (ttlRange number).isEmpty = true
        · have hReturned :
              (ttlRange number).refuseOr (some number) =
                .ok (some number) := by
            unfold ValidationErrors.refuseOr
            rw [if_pos hOk]
          have hRange :=
            ((refuseOr_ttlRange number _).mp hReturned).2
          exact absurd
            ⟨_, (hNumber number.toNat).mpr ⟨rfl, hRange⟩⟩
            hNothing
        · refine ⟨ttlRange number, ?_⟩
          unfold ValidationErrors.refuseOr
          rw [if_neg hOk]
      · unfold ValidationErrors.refuseOr
        split <;> nofun

/-
  A text is validated exactly unless it is a number of one
  word before a unit whose product takes more than a word.
-/
theorem validatesExactly_iff
    (text : String) :
    ValidatesExactly text ↔ ProductFits text := by
  constructor
  · intro hExact hNumber
    by_contra hLarge
    have hPanics :
        @parseTtlSliced ⟨true⟩ (some text) = .panicked := by
      rw [@parseTtlSliced_eq ⟨true⟩]
      exact parseTtl_overflow hNumber
        (Nat.le_of_not_lt hLarge)
    exact (hExact ⟨true⟩).2.2
      ((@validateTtl_follows ⟨true⟩ _).panicked_iff.mpr
        hPanics)
  · intro hFits profile
    have hFollows := validateTtl_follows (some text)
    rw [parseTtlSliced_eq] at hFollows
    exact validates_of_follows hFollows
      (parseTtl_readsAsDenoted hFits)

/- Its product is 104 more than a word can count. -/
def overflowingTtl : String :=
  "307445734561825862m"

/- It panics in one build and is 104 seconds in another. -/
theorem validatesExactly_overflowing :
    ¬ ValidatesExactly overflowingTtl ∧
      @validateTtl ⟨true⟩ (some overflowingTtl) =
        .panicked ∧
      @validateTtl ⟨false⟩ (some overflowingTtl) =
        .ok (some 104) := by
  have hPanics :
      @validateTtl ⟨true⟩ (some overflowingTtl) =
        .panicked := by
    decide +kernel
  exact ⟨fun hExact => (hExact ⟨true⟩).2.2 hPanics, hPanics,
    by decide +kernel⟩

end IsaWorkspace
