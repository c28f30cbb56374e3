import IsaWorkspace.Rtp.Packetizer

/-
  What the packets of a frame are, and when there are any.

  The packets are the pages of the frame, numbered from zero.
  Without room for a payload the loop takes nothing off the
  frame and goes on; with more packets than a sequence number
  can count, the counter leaves its word.

  Main declarations:
    * `VideoPacketizer.Lossless`
    * `VideoPacketizer.ends_framePackets`
    * `VideoPacketizer.losslessPackets`
    * `VideoPacketizer.EndsProperly`
    * `VideoPacketizer.endsProperly_iff`
-/

------------------------------------------------------------
-- The Packets of a Frame
------------------------------------------------------------

namespace IsaWorkspace

namespace VideoPacketizer

/-
  The payloads are the frame, cut at every multiple of the
  size; the packets are numbered, carry the timestamp, and
  are marked at the end of the frame or on a keyframe.
-/
structure Lossless
    (maxPayloadSize : Nat)
    (frameData : Bytes)
    (timestamp : UInt32)
    (isKeyframe : Bool)
    (packets : List RtpPacket) : Prop where
  whole : packets.flatMap RtpPacket.payload = frameData
  sizes :
    ∀ packet ∈ packets,
      1 ≤ packet.payload.length ∧
        packet.payload.length ≤ maxPayloadSize
  full :
    ∀ number (_ : number + 1 < packets.length),
      packets[number].payload.length = maxPayloadSize
  numbered :
    (packets.map fun packet =>
        packet.sequenceNumber.toNat) =
      List.range packets.length
  stamped :
    ∀ packet ∈ packets, packet.timestamp = timestamp
  marked :
    ∀ number (_ : number < packets.length),
      packets[number].marker =
        (decide (number + 1 = packets.length) || isKeyframe)

variable (packetizer : VideoPacketizer)
variable (frameData : Bytes)
variable (timestamp : UInt32)
variable (isKeyframe : Bool)

/- One packet for each page of the frame. -/
def framePackets : List RtpPacket :=
  (List.range (packetizer.packetCount frameData)).map
    (packetizer.packetAt frameData timestamp isKeyframe)

@[simp] theorem length_framePackets :
    (packetizer.framePackets frameData timestamp
        isKeyframe).length =
      packetizer.packetCount frameData := by
  simp [framePackets]

/- The payload of a packet is its page. -/
theorem payload_packetAt
    (number : Nat) :
    (packetizer.packetAt frameData timestamp isKeyframe
        number).payload =
      Paging.page packetizer.maxPayloadSize frameData
        number := by
  unfold packetAt packetFrom Paging.page
  dsimp only
  rw [← List.length_drop, min_comm]
  exact List.take_eq_take_min.symm

variable {packetizer} {frameData} {timestamp} {isKeyframe}

/- Pages before the last one have a page behind them. -/
theorem isLast_iff
    (hSize : 1 ≤ packetizer.maxPayloadSize)
    {number : Nat}
    (hNumber : number < packetizer.packetCount frameData) :
    frameData.length - number * packetizer.maxPayloadSize ≤
        packetizer.maxPayloadSize ↔
      number + 1 = packetizer.packetCount frameData := by
  have hNext :
      number + 1 < packetizer.packetCount frameData ↔
        (number + 1) * packetizer.maxPayloadSize <
          frameData.length :=
    Paging.lt_pageCount_iff hSize
  rw [Nat.add_mul, Nat.one_mul] at hNext
  omega

/- A page that is there has an item and is no longer than one. -/
theorem length_payload
    (hSize : 1 ≤ packetizer.maxPayloadSize)
    {number : Nat}
    (hNumber : number < packetizer.packetCount frameData) :
    1 ≤
        (packetizer.packetAt frameData timestamp isKeyframe
          number).payload.length ∧
      (packetizer.packetAt frameData timestamp isKeyframe
          number).payload.length ≤
        packetizer.maxPayloadSize := by
  have hMore :
      number * packetizer.maxPayloadSize <
        frameData.length :=
    (Paging.lt_pageCount_iff hSize).mp hNumber
  rw [payload_packetAt]
  unfold Paging.page
  rw [List.length_take, List.length_drop]
  omega

/- Packets that can be counted are the frame. -/
theorem lossless_framePackets
    (hSize : 1 ≤ packetizer.maxPayloadSize)
    (hFew : packetizer.packetCount frameData ≤ 65535) :
    Lossless packetizer.maxPayloadSize frameData timestamp
      isKeyframe
      (packetizer.framePackets frameData timestamp
        isKeyframe) where
  whole := by
    unfold framePackets
    rw [List.flatMap_map]
    simp only [payload_packetAt]
    exact Paging.flatMap_page hSize
  sizes := by
    intro packet hPacket
    rcases List.mem_map.mp hPacket with
      ⟨number, hNumber, rfl⟩
    exact length_payload hSize (List.mem_range.mp hNumber)
  full := by
    intro number hNumber
    rw [length_framePackets] at hNumber
    simp only [framePackets, List.getElem_map,
      List.getElem_range, payload_packetAt]
    exact Paging.length_page hSize hNumber
  numbered := by
    rw [length_framePackets]
    unfold framePackets
    rw [List.map_map]
    refine (List.map_congr_left ?_).trans (List.map_id _)
    intro number hNumber
    have hWord : number < 2 ^ 16 := by
      have hLess := List.mem_range.mp hNumber
      omega
    exact UInt16.toNat_ofNat_of_lt' hWord
  stamped := by
    intro packet hPacket
    rcases List.mem_map.mp hPacket with ⟨number, _, rfl⟩
    rfl
  marked := by
    intro number hNumber
    rw [length_framePackets] at hNumber ⊢
    simp only [framePackets, List.getElem_map,
      List.getElem_range]
    unfold packetAt packetFrom
    dsimp only
    rw [decide_eq_decide.mpr (isLast_iff hSize hNumber)]

------------------------------------------------------------
-- Lossless Packets
------------------------------------------------------------

/- The loop ends when the last page has been taken. -/
theorem ends_framePackets
    [BuildProfile]
    (hSize : 1 ≤ packetizer.maxPayloadSize)
    (hFew : packetizer.packetCount frameData ≤ 65535) :
    Loop.Ends
      (packetizer.packetizeRound frameData timestamp
        isKeyframe)
      .start
      (some
        (packetizer.framePackets frameData timestamp
          isKeyframe)) := by
  apply (ends_reached_iff hSize le_rfl hFew).mpr
  apply Loop.ends_of_done
  have hAll :
      ¬ packetizer.packetCount frameData *
            packetizer.maxPayloadSize <
          frameData.length := fun hMore =>
    Nat.lt_irrefl _
      ((Paging.lt_pageCount_iff hSize).mpr hMore)
  have hPast :
      ¬ (packetizer.reached frameData timestamp isKeyframe
            (packetizer.packetCount frameData)).offset <
          frameData.length := by
    unfold reached
    dsimp only
    omega
  exact if_neg hPast

theorem losslessPackets
    [BuildProfile]
    (packetizer : VideoPacketizer)
    (frameData : Bytes)
    (timestamp : UInt32)
    (isKeyframe : Bool)
    (hSize : 1 ≤ packetizer.maxPayloadSize)
    (hFew : packetizer.packetCount frameData ≤ 65535) :
    ∃ packets,
      Loop.Ends
          (packetizer.packetizeRound frameData timestamp
            isKeyframe)
          .start (some packets) ∧
        Lossless packetizer.maxPayloadSize frameData
          timestamp isKeyframe packets :=
  ⟨_, ends_framePackets hSize hFew,
    lossless_framePackets hSize hFew⟩

/- A frame of a payload and one byte. -/
theorem losslessPackets_oneOver :
    ∃ packets,
      Loop.Ends
          (@packetizeRound
            { default with maxPayloadSize := 3 }
            [1, 2, 3, 4] 1000 false ⟨true⟩)
          .start (some packets) ∧
        Lossless 3 [1, 2, 3, 4] 1000 false packets :=
  @losslessPackets ⟨true⟩
    { default with maxPayloadSize := 3 } [1, 2, 3, 4] 1000
    false (by decide) (by decide)

------------------------------------------------------------
-- Frames Without End
------------------------------------------------------------

/-
  In every build the loop ends, its counter in its word, with
  no more packets than the frame has bytes.
-/
def EndsProperly
    (packetizer : VideoPacketizer)
    (frameData : Bytes)
    (timestamp : UInt32)
    (isKeyframe : Bool) : Prop :=
  ∀ profile : BuildProfile, ∃ packets,
    Loop.Ends
        (@packetizeRound packetizer frameData timestamp
          isKeyframe profile)
        .start (some packets) ∧
      packets.length ≤ frameData.length

/- Without room for a payload the offset stays where it is. -/
theorem not_ends_of_noRoom
    [BuildProfile]
    (hNoRoom : packetizer.maxPayloadSize = 0)
    {loop : Packetizing}
    (hMore : loop.offset < frameData.length)
    (packets : List RtpPacket) :
    ¬ Loop.Ends
        (packetizer.packetizeRound frameData timestamp
          isKeyframe)
        loop (some packets) := by
  rw [Loop.ends_iff]
  rintro ⟨rounds, hRun⟩
  induction rounds generalizing loop with
  | zero => cases hRun
  | succ rounds ih =>
      unfold Loop.run packetizeRound at hRun
      rw [if_pos hMore] at hRun
      dsimp only at hRun
      cases hSeq : checkedAddU16 loop.seq 1 with
      | none =>
          rw [hSeq] at hRun
          cases hRun
      | some seq =>
          rw [hSeq] at hRun
          refine ih ?_ hRun
          dsimp only
          rw [hNoRoom, min_eq_right (Nat.zero_le _)]
          exact hMore

/- Past the last sequence number, a checked build panics. -/
theorem ends_none_of_many
    (timestamp : UInt32)
    (isKeyframe : Bool)
    (hSize : 1 ≤ packetizer.maxPayloadSize)
    (hMany : 65535 < packetizer.packetCount frameData) :
    Loop.Ends
      (@packetizeRound packetizer frameData timestamp
        isKeyframe ⟨true⟩)
      .start none := by
  apply
    (@ends_reached_iff packetizer frameData timestamp
      isKeyframe ⟨true⟩ hSize 65535 (Nat.le_of_lt hMany)
      le_rfl none).mpr
  apply Loop.ends_of_done
  have hMore :
      65535 * packetizer.maxPayloadSize <
        frameData.length :=
    (Paging.lt_pageCount_iff hSize).mp hMany
  have hOffset :=
    offset_reached packetizer frameData timestamp isKeyframe
      hMore
  have hSeq :
      @checkedAddU16 ⟨true⟩ (UInt16.ofNat 65535) 1 =
        none := by
    decide
  unfold packetizeRound
  rw [hOffset, if_pos hMore]
  unfold reached
  dsimp only
  rw [hSeq]

theorem endsProperly_iff
    (packetizer : VideoPacketizer)
    (frameData : Bytes)
    (timestamp : UInt32)
    (isKeyframe : Bool) :
    EndsProperly packetizer frameData timestamp isKeyframe ↔
      frameData = [] ∨
        (1 ≤ packetizer.maxPayloadSize ∧
          packetizer.packetCount frameData ≤ 65535) := by
  constructor
  · intro hEnds
    by_contra hNot
    rw [not_or, not_and] at hNot
    rcases hNot with ⟨hSome, hMany⟩
    rcases hEnds ⟨true⟩ with ⟨packets, hPackets, _⟩
    by_cases hNoRoom : packetizer.maxPayloadSize = 0
    · exact
        @not_ends_of_noRoom packetizer frameData timestamp
          isKeyframe ⟨true⟩ hNoRoom .start
          (List.length_pos_iff.mpr hSome) packets hPackets
    · have hSize := Nat.one_le_iff_ne_zero.mpr hNoRoom
      have hPanic :=
        ends_none_of_many timestamp isKeyframe hSize
          (Nat.lt_of_not_le (hMany hSize))
      cases hPackets.unique hPanic
  · rintro (rfl | ⟨hSize, hFew⟩) profile
    · refine ⟨[], Loop.ends_of_done ?_, le_rfl⟩
      exact if_neg (Nat.lt_irrefl 0)
    · refine ⟨_, ends_framePackets hSize hFew, ?_⟩
      rw [length_framePackets]
      by_contra hMore
      have hLess :=
        (Paging.lt_pageCount_iff hSize).mp
          (Nat.lt_of_not_le hMore)
      exact
        Nat.not_lt_of_le (Nat.le_mul_of_pos_right _ hSize)
          hLess

/- One byte, and no room for it. -/
theorem endsProperly_noRoom :
    ¬ EndsProperly { default with maxPayloadSize := 0 } [0]
        1000 false := by
  intro hEnds
  rcases hEnds ⟨false⟩ with ⟨packets, hPackets, _⟩
  exact
    @not_ends_of_noRoom { default with maxPayloadSize := 0 }
      [0] 1000 false ⟨false⟩ rfl .start (by decide) packets
      hPackets

end VideoPacketizer

end IsaWorkspace
