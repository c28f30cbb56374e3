import IsaWorkspace.Webrtc.IceCandidate

/-
  Candidates that are written and read back.

  All fields up to the type come back.  What follows the type
  is written and never read.

  Main declarations:
    * `IceCandidate.PlainTexts`
    * `IceCandidate.fromSdp_toSdp`
    * `IceCandidate.roundTrips_iff`
-/

------------------------------------------------------------
-- Plain Texts
------------------------------------------------------------

namespace IsaWorkspace

/- A text that is one word. -/
def IsWord
    (text : String) : Prop :=
  text.toList ≠ [] ∧
    ∀ char ∈ text.toList, Text.isWhitespace char = false

namespace IceCandidate

/- All texts of a candidate are words. -/
structure PlainTexts
    (candidate : IceCandidate) : Prop where
  foundation : IsWord candidate.foundation
  protocol : IsWord candidate.protocol
  address : IsWord candidate.address
  relatedAddress :
    ∀ address ∈ candidate.relatedAddress, IsWord address

/- A candidate without its related address. -/
def withoutRelated
    (candidate : IceCandidate) : IceCandidate :=
  { candidate with
    relatedAddress := none
    relatedPort := none }

------------------------------------------------------------
-- The Words of a Line
------------------------------------------------------------

/- A digit is no white space. -/
theorem isWhitespace_of_isDigit
    {char : Char}
    (hDigit : Numeral.isDigit 10 char = true) :
    Text.isWhitespace char = false := by
  have hRange := Numeral.range_of_isDigit hDigit
  apply decide_eq_false
  omega

/- The characters of a printed number are its digits. -/
theorem toList_repr
    (number : Nat) :
    (Nat.repr number).toList = Nat.toDigits 10 number :=
  String.toList_ofList

/- Digits are words, too. -/
theorem isWhitespace_of_mem_toDigits
    {number : Nat}
    {char : Char}
    (hChar : char ∈ Nat.toDigits 10 number) :
    Text.isWhitespace char = false :=
  isWhitespace_of_isDigit
    (Numeral.isDigit_of_mem_toDigits (by decide) (by decide)
      hChar)

/- The word of a type is a word. -/
theorem isWord_text
    (candidateType : CandidateType) :
    IsWord candidateType.text := by
  cases candidateType <;> exact ⟨by decide, by decide⟩

theorem ofText_text
    (candidateType : CandidateType) :
    CandidateType.ofText candidateType.text =
      candidateType := by
  cases candidateType <;> rfl

/- What stands behind the type begins with white space. -/
theorem related_cons
    (candidate : IceCandidate) :
    ∃ space rest,
      (candidate.relatedSdp ++ "\r\n").toList =
          space :: rest ∧
        Text.isWhitespace space = true := by
  unfold relatedSdp
  cases candidate.relatedAddress with
  | none =>
      refine ⟨'\r', ['\n'], ?_, by decide⟩
      dsimp only
      rfl
  | some address =>
      refine ⟨' ', "raddr ".toList ++ address.toList ++
        " rport ".toList ++
        (Nat.repr
          (candidate.relatedPort.getD 0).toNat).toList ++
        "\r\n".toList, ?_, by decide⟩
      simp only [String.toList_append]
      rfl

/- The fields of a line, each behind the one before it. -/
def fields
    (candidate : IceCandidate) : List Char :=
  candidate.foundation.toList ++ ' ' ::
    (Nat.toDigits 10 candidate.componentId.toNat ++ ' ' ::
      (candidate.protocol.toList ++ ' ' ::
        (Nat.toDigits 10 candidate.priority.toNat ++ ' ' ::
          (candidate.address.toList ++ ' ' ::
            (Nat.toDigits 10 candidate.port.toNat ++ ' ' ::
              ("typ".toList ++ ' ' ::
                (candidate.candidateType.text.toList ++
                  (candidate.relatedSdp ++
                    "\r\n").toList)))))))

theorem toList_toSdp
    (candidate : IceCandidate) :
    candidate.toSdp.toList =
      "a=candidate:".toList ++ candidate.fields := by
  unfold toSdp fields
  simp only [String.toList_append, List.append_assoc,
    toList_repr]
  rfl

/- The first eight words of a line are the fields in order. -/
theorem words_fields
    {candidate : IceCandidate}
    (hTexts : candidate.PlainTexts) :
    ∃ others,
      Text.words candidate.fields =
        candidate.foundation.toList ::
          Nat.toDigits 10 candidate.componentId.toNat ::
          candidate.protocol.toList ::
          Nat.toDigits 10 candidate.priority.toNat ::
          candidate.address.toList ::
          Nat.toDigits 10 candidate.port.toNat ::
          "typ".toList ::
          candidate.candidateType.text.toList :: others := by
  have hSpace : Text.isWhitespace ' ' = true := by decide
  rcases related_cons candidate with
    ⟨space, rest, hRest, hBehind⟩
  refine ⟨Text.words rest, ?_⟩
  unfold fields
  rw [hRest]
  rw [Text.words_cons hTexts.foundation.1
      hTexts.foundation.2 hSpace,
    Text.words_cons Nat.toDigits_ne_nil
      (fun _ => isWhitespace_of_mem_toDigits) hSpace,
    Text.words_cons hTexts.protocol.1 hTexts.protocol.2
      hSpace,
    Text.words_cons Nat.toDigits_ne_nil
      (fun _ => isWhitespace_of_mem_toDigits) hSpace,
    Text.words_cons hTexts.address.1 hTexts.address.2
      hSpace,
    Text.words_cons Nat.toDigits_ne_nil
      (fun _ => isWhitespace_of_mem_toDigits) hSpace,
    Text.words_cons (by decide) (by decide) hSpace,
    Text.words_cons
      (isWord_text candidate.candidateType).1
      (isWord_text candidate.candidateType).2 hBehind]

------------------------------------------------------------
-- Round Trips
------------------------------------------------------------

/- All but the related address comes back. -/
theorem fromSdp_toSdp
    {candidate : IceCandidate}
    (hTexts : candidate.PlainTexts) :
    fromSdp candidate.toSdp =
      some candidate.withoutRelated := by
  rcases words_fields hTexts with ⟨others, hWords⟩
  unfold fromSdp
  rw [toList_toSdp, Text.stripPrefix_append]
  dsimp only
  rw [hWords]
  dsimp only
  rw [Numeral.parseUnsigned_toDigits
      candidate.componentId.toNat_lt,
    Numeral.parseUnsigned_toDigits
      candidate.priority.toNat_lt,
    Numeral.parseUnsigned_toDigits candidate.port.toNat_lt]
  simp only [Option.bind_eq_bind, Option.bind_some,
    String.ofList_toList, UInt16.ofNat_toNat,
    UInt64.ofNat_toNat, ofText_text]
  rfl

theorem roundTrips_iff
    (candidate : IceCandidate)
    (hTexts : candidate.PlainTexts)
    (hRelated :
      candidate.relatedPort.isSome =
        candidate.relatedAddress.isSome) :
    fromSdp candidate.toSdp = some candidate ↔
      candidate.relatedAddress = none := by
  rw [fromSdp_toSdp hTexts]
  constructor
  · intro hSame
    have hCandidate := Option.some.inj hSame
    rw [← hCandidate]
    rfl
  · intro hNone
    have hNoPort : candidate.relatedPort = none := by
      rw [hNone] at hRelated
      exact Option.isSome_eq_false_iff.mp hRelated
        |> Option.isNone_iff_eq_none.mp
    unfold withoutRelated
    rw [← hNone, ← hNoPort]

/- The candidates that are gathered. -/
def hostCandidate : IceCandidate where
  foundation := "1"
  componentId := 1
  protocol := "udp"
  priority := 2130706431
  address := "127.0.0.1"
  port := 8080
  candidateType := .host
  relatedAddress := none
  relatedPort := none

def srflxCandidate : IceCandidate where
  foundation := "2"
  componentId := 1
  protocol := "udp"
  priority := 1694498815
  address := "203.0.113.1"
  port := 9090
  candidateType := .srflx
  relatedAddress := some "192.168.1.100"
  relatedPort := some 8080

/- A candidate without a related address comes back. -/
theorem roundTrips_host :
    fromSdp hostCandidate.toSdp = some hostCandidate ↔
      hostCandidate.relatedAddress = none :=
  roundTrips_iff hostCandidate
    ⟨⟨by decide, by decide⟩, ⟨by decide, by decide⟩,
      ⟨by decide, by decide⟩, nofun⟩
    rfl

/- One with a related address does not. -/
theorem roundTrips_srflx :
    srflxCandidate.PlainTexts ∧
      fromSdp srflxCandidate.toSdp ≠
        some srflxCandidate := by
  have hTexts : srflxCandidate.PlainTexts :=
    ⟨⟨by decide, by decide⟩, ⟨by decide, by decide⟩,
      ⟨by decide, by decide⟩, by
        rintro address ⟨⟩
        exact ⟨by decide, by decide⟩⟩
  refine ⟨hTexts, ?_⟩
  rw [fromSdp_toSdp hTexts]
  decide

end IceCandidate

end IsaWorkspace
