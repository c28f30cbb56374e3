import IsaWorkspace.Rtp.Codec

/-
  Bytes that are taken for packets.

  The first byte announces up to fifteen sources, whose list
  follows the fixed header.  The length is compared with the
  fixed header alone, and the payload is sliced from behind
  the list, whether the bytes reach that far or not.

  Main declarations:
    * `RtpPacket.versionBits`, `RtpPacket.announcedSize`
    * `RtpPacket.ParsesSafely`, `RtpPacket.CutShort`
    * `RtpPacket.parsesSafely_iff`
-/

------------------------------------------------------------
-- The Property
------------------------------------------------------------

namespace IsaWorkspace

namespace RtpPacket

/- The two bits of the version. -/
def versionBits
    (data : Bytes) : UInt8 :=
  data.headD 0 >>> 6

/- The fixed header and the list of sources it announces. -/
def announcedSize
    (data : Bytes) : Nat :=
  12 + (data.headD 0 &&& 0x0F).toNat * 4

/-
  Bytes are taken or refused, and they are taken exactly if
  they are of version 2 and hold the header they announce.
-/
def ParsesSafely
    (data : Bytes) : Prop :=
  ∃ result,
    deserialize data = some result ∧
      (result.isSome ↔
        versionBits data = 2 ∧
          announcedSize data ≤ data.length)

/-
  A fixed header of version 2 is there, and the list that it
  announces is cut short.
-/
def CutShort
    (data : Bytes) : Prop :=
  versionBits data = 2 ∧ 12 ≤ data.length ∧
    data.length < announcedSize data

instance
    (data : Bytes) :
    Decidable (CutShort data) :=
  inferInstanceAs
    (Decidable
      (versionBits data = 2 ∧ 12 ≤ data.length ∧
        data.length < announcedSize data))

------------------------------------------------------------
-- Outcomes of the Parser
------------------------------------------------------------

variable {data : Bytes}

/- Two bits are what they are masked to. -/
theorem version_masked
    (first : UInt8) :
    (first >>> 6) &&& (0x03 : UInt8) = first >>> 6 := by
  revert first
  exact forall_byte (by decide +kernel)

/- Without a fixed header there is no packet. -/
theorem deserialize_of_short
    (hShort : data.length < 12) :
    deserialize data = some none := by
  unfold deserialize
  split
  · simp at hShort
    omega
  · rfl

theorem deserialize_of_otherVersion
    (hLong : 12 ≤ data.length)
    (hVersion : versionBits data ≠ 2) :
    deserialize data = some none := by
  rcases exists_header hLong with
    ⟨first, second, s0, s1, t0, t1, t2, t3, r0, r1, r2, r3,
      payload, rfl⟩
  unfold deserialize
  dsimp only
  rw [version_masked]
  exact if_pos hVersion

/- The slice of the payload starts behind the last byte. -/
theorem deserialize_of_cutShort
    (hCut : CutShort data) :
    deserialize data = none := by
  rcases hCut with ⟨hVersion, hLong, hCut⟩
  rcases exists_header hLong with
    ⟨first, second, s0, s1, t0, t1, t2, t3, r0, r1, r2, r3,
      payload, rfl⟩
  change first >>> 6 = 2 at hVersion
  unfold deserialize
  dsimp only
  rw [version_masked, if_neg (not_not_intro hVersion)]
  exact if_pos hCut

theorem deserialize_of_whole
    (hVersion : versionBits data = 2)
    (hWhole : announcedSize data ≤ data.length) :
    ∃ packet, deserialize data = some (some packet) := by
  have hLong : 12 ≤ data.length :=
    Nat.le_trans (Nat.le_add_right 12 _) hWhole
  rcases exists_header hLong with
    ⟨first, second, s0, s1, t0, t1, t2, t3, r0, r1, r2, r3,
      payload, rfl⟩
  change first >>> 6 = 2 at hVersion
  unfold deserialize
  dsimp only
  rw [version_masked, if_neg (not_not_intro hVersion)]
  exact ⟨_, if_neg (Nat.not_lt_of_le hWhole)⟩

------------------------------------------------------------
-- Safe Parsing
------------------------------------------------------------

theorem parsesSafely_iff
    (data : Bytes) :
    ParsesSafely data ↔ ¬ CutShort data := by
  constructor
  · rintro ⟨result, hResult, _⟩ hCut
    rw [deserialize_of_cutShort hCut] at hResult
    cases hResult
  · intro hNot
    by_cases hShort : data.length < 12
    · refine ⟨none, deserialize_of_short hShort, ?_⟩
      have hTooShort : data.length < announcedSize data :=
        Nat.lt_of_lt_of_le hShort (Nat.le_add_right 12 _)
      simp [Nat.not_le_of_lt hTooShort]
    · have hLong : 12 ≤ data.length :=
        Nat.le_of_not_lt hShort
      by_cases hVersion : versionBits data = 2
      · have hWhole : announcedSize data ≤ data.length := by
          by_contra hCut
          exact
            hNot
              ⟨hVersion, hLong, Nat.lt_of_not_le hCut⟩
        rcases deserialize_of_whole hVersion hWhole with
          ⟨packet, hPacket⟩
        exact
          ⟨some packet, hPacket,
            fun _ => ⟨hVersion, hWhole⟩, fun _ => rfl⟩
      · refine
          ⟨none,
            deserialize_of_otherVersion hLong hVersion, ?_⟩
        simp [hVersion]

/- A header that announces one source, and no more bytes. -/
theorem parsesSafely_cut :
    ¬ ParsesSafely (0x81 :: List.replicate 11 0) := by
  rintro ⟨result, hResult, _⟩
  have hCut : CutShort (0x81 :: List.replicate 11 0) := by
    decide
  rw [deserialize_of_cutShort hCut] at hResult
  cases hResult

end RtpPacket

end IsaWorkspace
