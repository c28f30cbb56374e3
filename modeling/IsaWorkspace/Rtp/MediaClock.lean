import IsaWorkspace.Rtp.Continuity

/-
  Timestamps on the media clock.

  A timestamp in microseconds is converted with the factor of
  a clock of 90 Hz, whatever the clock rate of the packetizer.
  The conversion agrees with that of the 90 kHz clock where
  the two counts of ticks differ by whole turns of the word.

  Main declarations:
    * `RtpPacket.timestampOf`
    * `WebRtcMediaSender.mediaTicks`
    * `WebRtcMediaSender.KeepsClock`
    * `WebRtcMediaSender.ClocksAgree`
    * `WebRtcMediaSender.keepsClock_iff`
-/

------------------------------------------------------------
-- The Property
------------------------------------------------------------

namespace IsaWorkspace

/- The timestamp that a datagram carries. -/
def RtpPacket.timestampOf
    (datagram : Bytes) : UInt32 :=
  UInt32.ofNat (beValue ((datagram.drop 4).take 4))

namespace WebRtcMediaSender

/- The ticks of a clock until a time in microseconds. -/
def mediaTicks
    (clockRate : UInt32)
    (timestampUs : UInt64) : Nat :=
  timestampUs.toNat * clockRate.toNat / 1000000

/-
  In every build the conversion stays in its word, and every
  datagram of a frame, whatever becomes of it, carries the
  ticks of the packetizer's clock, which runs at 90 kHz.
-/
structure KeepsClock
    (timestampUs : UInt64) : Prop where
  noOverflow :
    ∀ profile : BuildProfile,
      (@rtpTimestamp profile timestampUs).isSome
  carried :
    ∀ (profile : BuildProfile) (sender : WebRtcMediaSender)
      (rounds : Nat) (sent : Nat → Except String Nat)
      (frameData : Bytes) (isKeyframe : Bool),
      sender.packetizer.clockRate = 90000 →
        ∀ datagram ∈
          (@sendVideoFrame profile rounds sent frameData
              timestampUs isKeyframe
              sender).2.videoSession.datagrams.drop
            sender.videoSession.datagrams.length,
          RtpPacket.timestampOf datagram =
            sender.videoSession.timestampBase +
              UInt32.ofNat
                (mediaTicks sender.packetizer.clockRate
                  timestampUs)

/-
  The product with ninety fits, and the ticks at 90 kHz and
  at 90 Hz differ by a multiple of the word's range.
-/
def ClocksAgree
    (timestampUs : UInt64) : Prop :=
  timestampUs.toNat * 90 < 2 ^ 64 ∧
    (timestampUs.toNat * 90000 / 1000000 -
        timestampUs.toNat * 90 / 1000000) %
      2 ^ 32 = 0

------------------------------------------------------------
-- What a Frame Carries
------------------------------------------------------------

/- The word behind the first four bytes is the timestamp. -/
theorem timestampOf_serialize
    (packet : RtpPacket) :
    RtpPacket.timestampOf packet.serialize =
      packet.timestamp := by
  have hBytes :
      (packet.serialize.drop 4).take 4 =
        beBytes 4 packet.timestamp.toNat := by
    have hFront :
        ([packet.firstByte, packet.secondByte] ++
            beBytes 2 packet.sequenceNumber.toNat).length =
          4 := by
      simp
    unfold RtpPacket.serialize
    rw [List.append_assoc, List.append_assoc,
      List.drop_left' hFront,
      List.take_left' (beBytes_length 4 _)]
  unfold RtpPacket.timestampOf
  rw [hBytes, ofNat_beBytes32]

/- The packets of a frame all have its timestamp. -/
theorem timestamp_of_packetized
    [BuildProfile]
    {packetizer : VideoPacketizer}
    {frameData : Bytes}
    {timestamp : UInt32}
    {isKeyframe : Bool}
    {rounds : Nat}
    {loop : Packetizing}
    {packets : List RtpPacket}
    (hLoop :
      ∀ packet ∈ loop.packets, packet.timestamp = timestamp)
    (hRun :
      Loop.run
          (packetizer.packetizeRound frameData timestamp
            isKeyframe)
          rounds loop =
        some (some packets)) :
    ∀ packet ∈ packets, packet.timestamp = timestamp := by
  induction rounds generalizing loop with
  | zero => cases hRun
  | succ rounds ih =>
      unfold Loop.run VideoPacketizer.packetizeRound at hRun
      by_cases hMore : loop.offset < frameData.length
      · rw [if_pos hMore] at hRun
        dsimp only at hRun
        cases hSeq : checkedAddU16 loop.seq 1 with
        | none =>
            rw [hSeq] at hRun
            cases hRun
        | some seq =>
            rw [hSeq] at hRun
            refine ih ?_ hRun
            intro packet hPacket
            rcases List.mem_append.mp hPacket with
              hOld | hNew
            · exact hLoop packet hOld
            · rw [List.mem_singleton.mp hNew]
              rfl
      · rw [if_neg hMore] at hRun
        cases hRun
        exact hLoop

variable [BuildProfile]
variable {timestampUs : UInt64} {timestamp : UInt32}

theorem timestamp_of_packetsOf
    {sender : WebRtcMediaSender}
    {rounds : Nat}
    {frameData : Bytes}
    {isKeyframe : Bool}
    (hConverted : rtpTimestamp timestampUs = some timestamp) :
    ∀ packet ∈
        sender.packetsOf rounds frameData timestampUs
          isKeyframe,
      packet.timestamp = timestamp := by
  unfold packetsOf
  rw [hConverted, Option.bind_some]
  cases hRun :
      sender.packetizer.packetize frameData timestamp
        isKeyframe rounds with
  | none => exact nofun
  | some ended =>
      cases ended with
      | none => exact nofun
      | some packets =>
          exact
            timestamp_of_packetized
              (fun _ hPacket =>
                absurd hPacket List.not_mem_nil)
              hRun

/- What is sent carries what the timestamp is converted to. -/
theorem timestampOf_sent
    (hConverted : rtpTimestamp timestampUs = some timestamp)
    (sender : WebRtcMediaSender)
    (rounds : Nat)
    (sent : Nat → Except String Nat)
    (frameData : Bytes)
    (isKeyframe : Bool) :
    ∀ datagram ∈
        (sendVideoFrame rounds sent frameData timestampUs
            isKeyframe
            sender).2.videoSession.datagrams.drop
          sender.videoSession.datagrams.length,
      RtpPacket.timestampOf datagram =
        sender.videoSession.timestampBase + timestamp := by
  rcases sendVideoFrame_sends rounds sent frameData
      timestampUs isKeyframe sender with
    ⟨packets, hAdvances, hPrefix, _⟩
  rw [hAdvances.sent, List.drop_left]
  intro datagram hDatagram
  rcases List.mem_map.mp hDatagram with
    ⟨packet, hPacket, rfl⟩
  have hFrame :=
    hPrefix.subset (List.mem_map_of_mem hPacket)
  rcases List.mem_map.mp hFrame with
    ⟨source, hSource, hSame⟩
  rcases Prod.mk.inj hSame with ⟨_, hStamp⟩
  rw [timestampOf_serialize, ← hStamp,
    timestamp_of_packetsOf hConverted source hSource]

------------------------------------------------------------
-- The Conversion
------------------------------------------------------------

/- Where the product fits, the ticks are those of 90 Hz. -/
theorem rtpTimestamp_of_fits
    (hFits : timestampUs.toNat * 90 < 2 ^ 64) :
    rtpTimestamp timestampUs =
      some
        (UInt32.ofNat
          (timestampUs.toNat * 90 / 1000000)) := by
  have hProduct :
      (timestampUs * 90).toNat = timestampUs.toNat * 90 := by
    rw [UInt64.toNat_mul]
    exact Nat.mod_eq_of_lt hFits
  unfold rtpTimestamp
  rw [checkedMul_eq_some (Or.inr hFits), Option.map_some]
  apply congrArg some
  apply UInt32.toNat.inj
  rw [UInt64.toNat_toUInt32, UInt64.toNat_div, hProduct,
    UInt32.toNat_ofNat']
  rfl

/- A second later a frame is ninety ticks later. -/
theorem rtpTimestamp_secondLater
    (hFits : (timestampUs.toNat + 1000000) * 90 < 2 ^ 64) :
    ∃ earlier later,
      rtpTimestamp timestampUs = some earlier ∧
        rtpTimestamp (timestampUs + 1000000) = some later ∧
        later - earlier = 90 := by
  have hLater :
      (timestampUs + 1000000).toNat =
        timestampUs.toNat + 1000000 := by
    have hLess : timestampUs.toNat + 1000000 < 2 ^ 64 :=
      Nat.lt_of_le_of_lt
        (Nat.le_mul_of_pos_right _ (by decide)) hFits
    have hMillion : (1000000 : UInt64).toNat = 1000000 := rfl
    rw [UInt64.toNat_add, hMillion]
    exact Nat.mod_eq_of_lt hLess
  have hTicks :
      (timestampUs.toNat + 1000000) * 90 / 1000000 =
        timestampUs.toNat * 90 / 1000000 + 90 := by
    omega
  refine
    ⟨_, _, rtpTimestamp_of_fits (by omega),
      rtpTimestamp_of_fits (by rw [hLater]; exact hFits), ?_⟩
  rw [hLater, hTicks, UInt32.ofNat_add, UInt32.add_comm,
    UInt32.add_sub_cancel]
  rfl

/- Two counts are one word if they differ by whole turns. -/
omit [BuildProfile] in
theorem ofNat_eq_iff
    {low high : Nat}
    (hOrder : low ≤ high) :
    UInt32.ofNat low = UInt32.ofNat high ↔
      (high - low) % 2 ^ 32 = 0 := by
  rw [← UInt32.toNat_inj, UInt32.toNat_ofNat',
    UInt32.toNat_ofNat']
  omega

/- The same number of ticks, on the packetizer's clock. -/
omit [BuildProfile] in
theorem ticks_agree_iff :
    UInt32.ofNat (timestampUs.toNat * 90 / 1000000) =
        UInt32.ofNat (mediaTicks 90000 timestampUs) ↔
      (timestampUs.toNat * 90000 / 1000000 -
          timestampUs.toNat * 90 / 1000000) %
        2 ^ 32 = 0 := by
  have hOrder :
      timestampUs.toNat * 90 / 1000000 ≤
        timestampUs.toNat * 90000 / 1000000 :=
    Nat.div_le_div_right (Nat.mul_le_mul_left _ (by decide))
  exact ofNat_eq_iff hOrder

------------------------------------------------------------
-- Keeping the Clock
------------------------------------------------------------

/- A sender that is connected and has sent nothing. -/
def connectedSender : WebRtcMediaSender where
  videoSession :=
    (RtpSession.new 96 0 0).setRemote
      (.v4 ⟨⟨127, 0, 0, 1⟩, 5004⟩) ⟨[]⟩
  packetizer := .default

/- A frame of one byte is sent in one datagram. -/
theorem connectedSender_sends
    (hConverted : rtpTimestamp timestampUs = some timestamp) :
    ∃ datagram,
      datagram ∈
        (sendVideoFrame 2 (fun _ => .ok 13) [0] timestampUs
            false
            connectedSender).2.videoSession.datagrams.drop
          connectedSender.videoSession.datagrams.length := by
  rcases sendVideoFrame_sends 2 (fun _ => .ok 13) [0]
      timestampUs false connectedSender with
    ⟨packets, hAdvances, _, hAll, _⟩
  have hReturned :
      (sendVideoFrame 2 (fun _ => .ok 13) [0] timestampUs
          false connectedSender).1.isOk =
        true := by
    unfold sendVideoFrame
    rw [hConverted]
    rfl
  have hOne :
      (connectedSender.packetsOf 2 [0] timestampUs
          false).length =
        1 := by
    unfold packetsOf
    rw [hConverted]
    rfl
  rw [hAdvances.sent, List.drop_left]
  have hLength := (hAll hReturned).trans hOne
  rcases List.length_eq_one_iff.mp hLength with
    ⟨packet, rfl⟩
  exact ⟨_, List.mem_singleton_self _⟩

/- A clock that is kept agrees. -/
omit [BuildProfile] in
theorem clocksAgree_of_keepsClock
    (hKeeps : KeepsClock timestampUs) :
    ClocksAgree timestampUs := by
  have hFits : timestampUs.toNat * 90 < 2 ^ 64 := by
    by_contra hBeyond
    have hSome := hKeeps.noOverflow ⟨true⟩
    unfold rtpTimestamp at hSome
    rw [@checkedMul_eq_none ⟨true⟩ _ _ rfl
      (Nat.le_of_not_lt hBeyond)] at hSome
    cases hSome
  have hConverted :=
    @rtpTimestamp_of_fits ⟨true⟩ timestampUs hFits
  rcases @connectedSender_sends ⟨true⟩ timestampUs _
      hConverted with
    ⟨datagram, hDatagram⟩
  have hCarried :=
    hKeeps.carried ⟨true⟩ connectedSender 2
      (fun _ => .ok 13) [0] false rfl datagram hDatagram
  have hSent :=
    @timestampOf_sent ⟨true⟩ timestampUs _ hConverted
      connectedSender 2 (fun _ => .ok 13) [0] false datagram
      hDatagram
  rw [hSent] at hCarried
  exact
    ⟨hFits,
      ticks_agree_iff.mp (UInt32.add_right_inj _ |>.mp hCarried)⟩

/- Where the clocks agree, the one that is used is the right one. -/
omit [BuildProfile] in
theorem keepsClock_of_clocksAgree
    (hAgree : ClocksAgree timestampUs) :
    KeepsClock timestampUs where
  noOverflow := by
    intro profile
    rw [rtpTimestamp_of_fits hAgree.1]
    rfl
  carried := by
    intro profile sender rounds sent frameData isKeyframe
      hRate datagram hDatagram
    have hConverted :=
      @rtpTimestamp_of_fits profile timestampUs hAgree.1
    rw [timestampOf_sent hConverted sender rounds sent
      frameData isKeyframe datagram hDatagram, hRate,
      ticks_agree_iff.mpr hAgree.2]

/- In the first thirteen hours they agree eleven microseconds. -/
omit [BuildProfile] in
theorem clocksAgree_iff_of_early
    (hEarly :
      timestampUs.toNat * 90000 / 1000000 < 2 ^ 32) :
    ClocksAgree timestampUs ↔ timestampUs.toNat ≤ 11 := by
  have hThousandth :
      timestampUs.toNat * 90 / 1000000 =
        timestampUs.toNat * 90000 / 1000000 / 1000 := by
    omega
  unfold ClocksAgree
  rw [hThousandth]
  constructor
  · rintro ⟨_, hTurns⟩
    have hNone : timestampUs.toNat * 90000 / 1000000 = 0 := by
      rw [Nat.mod_eq_of_lt (by omega)] at hTurns
      omega
    omega
  · intro hFirst
    have hNone : timestampUs.toNat * 90000 / 1000000 = 0 := by
      omega
    rw [hNone]
    omega

/-
  Wherever the conversion fits, a frame one second later is
  ninety ticks later.
-/
def TicksAt90Hz
    (timestampUs : UInt64) : Prop :=
  (timestampUs.toNat + 1000000) * 90 < 2 ^ 64 →
    ∀ profile : BuildProfile, ∃ earlier later,
      @rtpTimestamp profile timestampUs = some earlier ∧
        @rtpTimestamp profile (timestampUs + 1000000) =
          some later ∧
        later - earlier = 90

omit [BuildProfile] in
theorem keepsClock_iff
    (timestampUs : UInt64) :
    (KeepsClock timestampUs ↔ ClocksAgree timestampUs) ∧
      TicksAt90Hz timestampUs :=
  ⟨⟨clocksAgree_of_keepsClock, keepsClock_of_clocksAgree⟩,
    fun hFits _ => rtpTimestamp_secondLater hFits⟩

/- A frame at one second. -/
omit [BuildProfile] in
theorem keepsClock_oneSecond :
    ¬ KeepsClock 1000000 := by
  intro hKeeps
  have hAgree := clocksAgree_of_keepsClock hKeeps
  exact absurd hAgree.2 (by decide)

end WebRtcMediaSender

end IsaWorkspace
