import IsaWorkspace.Rtp.Packet

/-
  Packets and their bytes, both ways.

  The two packed bytes are put together and taken apart by
  separate shifts and masks, which are checked on all bytes;
  the numbers are read from as many bytes as they are
  written to.

  Main declarations:
    * `RtpPacket.first_eq`, `RtpPacket.flags_first`
    * `RtpPacket.second_eq`, `RtpPacket.marker_second`
    * `RtpPacket.deserialize_serialize`
    * `RtpPacket.serialize_of_deserialize`
    * `RtpPacket.PacketCodec`, `RtpPacket.packetCodec`
-/

------------------------------------------------------------
-- Packed Bytes
------------------------------------------------------------

namespace IsaWorkspace

namespace RtpPacket

/- Bytes are told apart by their numbers. -/
theorem forall_byte
    {P : UInt8 → Prop}
    (hAll : ∀ value < 256, P (UInt8.ofNat value)) :
    ∀ byte, P byte := by
  intro byte
  have hByte := hAll byte.toNat byte.toNat_lt
  rw [UInt8.ofNat_toNat] at hByte
  exact hByte

/- A first byte of version 2 without CSRC is its two flags. -/
theorem first_eq
    (first : UInt8)
    (hVersion : first >>> 6 = 2)
    (hCount : first &&& 0x0F = 0) :
    ((2 : UInt8) <<< 6) |||
        (flagBit ((first &&& 0x20) != 0) <<< 5) |||
        (flagBit ((first &&& 0x10) != 0) <<< 4) ||| 0 =
      first := by
  revert hVersion hCount
  revert first
  exact forall_byte (by decide +kernel)

/- The flags are read from the first byte. -/
theorem flags_first
    (padding extension : Bool) :
    let first :=
      ((2 : UInt8) <<< 6) ||| (flagBit padding <<< 5) |||
        (flagBit extension <<< 4) ||| 0
    (first >>> 6) &&& 0x03 = 2 ∧
      first &&& 0x0F = 0 ∧
      ((first &&& 0x20) != 0) = padding ∧
      ((first &&& 0x10) != 0) = extension := by
  cases padding <;> cases extension <;> decide

/- A second byte is its flag and its low bits. -/
theorem second_eq
    (second : UInt8) :
    (flagBit ((second &&& 0x80) != 0) <<< 7) |||
        (second &&& 0x7F) =
      second := by
  revert second
  exact forall_byte (by decide +kernel)

/- The marker and a type of seven bits are read from it. -/
theorem marker_second
    (marker : Bool)
    (payloadType : UInt8)
    (hType : payloadType < 128) :
    let second := (flagBit marker <<< 7) ||| payloadType
    ((second &&& 0x80) != 0) = marker ∧
      second &&& 0x7F = payloadType := by
  revert hType
  revert payloadType
  cases marker
  · exact forall_byte (by decide +kernel)
  · exact forall_byte (by decide +kernel)

------------------------------------------------------------
-- The Codec
------------------------------------------------------------

/-
  A packet of version 2 without CSRC is read back, and bytes
  of such a packet are those of the packet read from them.
-/
structure PacketCodec : Prop where
  reads :
    ∀ packet : RtpPacket, packet.version = 2 →
      packet.csrcCount = 0 → packet.payloadType < 128 →
        deserialize packet.serialize = some (some packet)
  writes :
    ∀ data : Bytes, 12 ≤ data.length →
      data.headD 0 >>> 6 = 2 → data.headD 0 &&& 0x0F = 0 →
        ∃ packet,
          deserialize data = some (some packet) ∧
            packet.serialize = data

/- Twelve bytes and more begin with a fixed header. -/
theorem exists_header
    {data : Bytes}
    (hLong : 12 ≤ data.length) :
    ∃ first second s0 s1 t0 t1 t2 t3 r0 r1 r2 r3 payload,
      data =
        first :: second :: s0 :: s1 :: t0 :: t1 :: t2 ::
          t3 :: r0 :: r1 :: r2 :: r3 :: payload := by
  rcases data with
    _ | ⟨first, _ | ⟨second, _ | ⟨s0, _ | ⟨s1, _ | ⟨t0,
      _ | ⟨t1, _ | ⟨t2, _ | ⟨t3, _ | ⟨r0, _ | ⟨r1,
        _ | ⟨r2, _ | ⟨r3, payload⟩⟩⟩⟩⟩⟩⟩⟩⟩⟩⟩⟩
  all_goals
    first
    | exact ⟨_, _, _, _, _, _, _, _, _, _, _, _, _, rfl⟩
    | exact absurd hLong (by simp)

/- Bytes of a packet that are long enough are taken apart. -/
theorem deserialize_cons
    {first second s0 s1 t0 t1 t2 t3 r0 r1 r2 r3 : UInt8}
    (hVersion : (first >>> 6) &&& 0x03 = 2)
    (hCount : first &&& 0x0F = 0)
    (payload : Bytes) :
    deserialize
        (first :: second :: s0 :: s1 :: t0 :: t1 :: t2 ::
          t3 :: r0 :: r1 :: r2 :: r3 :: payload) =
      some
        (some
          { version := 2
            padding := (first &&& 0x20) != 0
            extension := (first &&& 0x10) != 0
            csrcCount := 0
            marker := (second &&& 0x80) != 0
            payloadType := second &&& 0x7F
            sequenceNumber :=
              UInt16.ofNat (beValue [s0, s1])
            timestamp :=
              UInt32.ofNat (beValue [t0, t1, t2, t3])
            ssrc := UInt32.ofNat (beValue [r0, r1, r2, r3])
            payload := payload }) := by
  unfold deserialize
  simp [hVersion, hCount]

/- A half word is read from the two bytes it is written to. -/
theorem exists_bytes_word16
    (word : UInt16) :
    ∃ b0 b1,
      beBytes 2 word.toNat = [b0, b1] ∧
        UInt16.ofNat (beValue [b0, b1]) = word := by
  rcases List.length_eq_two.mp (beBytes_length 2 word.toNat)
    with ⟨b0, b1, hBytes⟩
  refine ⟨b0, b1, hBytes, ?_⟩
  rw [← hBytes, ofNat_beBytes16]

/- A word is read from the four bytes it is written to. -/
theorem exists_bytes_word32
    (word : UInt32) :
    ∃ b0 b1 b2 b3,
      beBytes 4 word.toNat = [b0, b1, b2, b3] ∧
        UInt32.ofNat (beValue [b0, b1, b2, b3]) = word := by
  rcases List.length_eq_four.mp
      (beBytes_length 4 word.toNat) with
    ⟨b0, b1, b2, b3, hBytes⟩
  refine ⟨b0, b1, b2, b3, hBytes, ?_⟩
  rw [← hBytes, ofNat_beBytes32]

theorem deserialize_serialize
    (packet : RtpPacket)
    (hVersion : packet.version = 2)
    (hCount : packet.csrcCount = 0)
    (hType : packet.payloadType < 128) :
    deserialize packet.serialize = some (some packet) := by
  rcases packet with
    ⟨version, padding, extension, csrcCount, marker,
      payloadType, sequenceNumber, timestamp, ssrc, payload⟩
  dsimp only at hVersion hCount hType
  subst hVersion hCount
  rcases exists_bytes_word16 sequenceNumber with
    ⟨s0, s1, hSequence, hSequenceNumber⟩
  rcases exists_bytes_word32 timestamp with
    ⟨t0, t1, t2, t3, hTime, hTimestamp⟩
  rcases exists_bytes_word32 ssrc with
    ⟨r0, r1, r2, r3, hSource, hSsrc⟩
  rcases flags_first padding extension with
    ⟨hVersion, hCount, hPadding, hExtension⟩
  rcases marker_second marker payloadType hType with
    ⟨hMarker, hPayloadType⟩
  unfold serialize firstByte secondByte
  dsimp only
  rw [hSequence, hTime, hSource]
  refine (deserialize_cons hVersion hCount payload).trans ?_
  rw [hPadding, hExtension, hMarker, hPayloadType,
    hSequenceNumber, hTimestamp, hSsrc]

theorem serialize_of_deserialize
    {data : Bytes}
    (hLength : 12 ≤ data.length)
    (hVersion : data.headD 0 >>> 6 = 2)
    (hCount : data.headD 0 &&& 0x0F = 0) :
    ∃ packet,
      deserialize data = some (some packet) ∧
        packet.serialize = data := by
  rcases exists_header hLength with
    ⟨first, second, s0, s1, t0, t1, t2, t3, r0, r1, r2, r3,
      payload, rfl⟩
  change first >>> 6 = 2 at hVersion
  change first &&& 0x0F = 0 at hCount
  have hMasked : (first >>> 6) &&& 0x03 = 2 := by
    rw [hVersion]
    decide
  refine ⟨_, deserialize_cons hMasked hCount payload, ?_⟩
  have hSequence :=
    beBytes_ofNat16 (List.length_eq_two.mpr ⟨s0, s1, rfl⟩)
  have hTime :=
    beBytes_ofNat32
      (List.length_eq_four.mpr ⟨t0, t1, t2, t3, rfl⟩)
  have hSource :=
    beBytes_ofNat32
      (List.length_eq_four.mpr ⟨r0, r1, r2, r3, rfl⟩)
  unfold serialize firstByte secondByte
  dsimp only
  rw [first_eq first hVersion hCount, second_eq, hSequence,
    hTime, hSource]
  rfl

theorem packetCodec : PacketCodec where
  reads := deserialize_serialize
  writes := fun _ hLength hVersion hCount =>
    serialize_of_deserialize hLength hVersion hCount

/- A packet with four bytes of payload. -/
example :
    (new 96 1 1000 12345 [1, 2, 3, 4]).serialize =
      [0x80, 0x60, 0, 1, 0, 0, 0x03, 0xE8, 0, 0, 0x30, 0x39,
        1, 2, 3, 4] := by
  decide +kernel

end RtpPacket

end IsaWorkspace
