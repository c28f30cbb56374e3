import IsaWorkspace.Externals
import IsaWorkspace.Foundations.Loops
import IsaWorkspace.Foundations.Paging
import IsaWorkspace.Rtp.Packet

/-
  Packets of a video frame.

  The packetizer takes payloads off a frame, one after
  another, and counts the packets in the word of their
  sequence numbers.  As long as that word is not left, its
  loop has taken the first pages of the frame.

  Main declarations:
    * `VideoPacketizer`, `Packetizing`
    * `VideoPacketizer.packetFrom`
    * `VideoPacketizer.packetizeRound`
    * `VideoPacketizer.packetize`
    * `VideoPacketizer.reached`
    * `VideoPacketizer.ends_reached_iff`
-/

------------------------------------------------------------
-- The Packetizer
------------------------------------------------------------

namespace IsaWorkspace

/- RTP packetizer for video frames. -/
structure VideoPacketizer where
  maxPayloadSize : Nat
  payloadType : UInt8
  clockRate : UInt32
deriving DecidableEq

/- The variables of the loop over a frame. -/
structure Packetizing where
  packets : List RtpPacket
  offset : Nat
  seq : UInt16

/- Nothing has been taken off the frame. -/
def Packetizing.start : Packetizing where
  packets := []
  offset := 0
  seq := 0

namespace VideoPacketizer

/- Create a new video packetizer. -/
def new
    (payloadType : UInt8)
    (clockRate : UInt32) : VideoPacketizer where
  maxPayloadSize := 1200
  payloadType := payloadType
  clockRate := clockRate

/- The packetizer of a media sender. -/
def default : VideoPacketizer where
  maxPayloadSize := 1200
  payloadType := 96
  clockRate := 90000

variable (packetizer : VideoPacketizer)
variable (frameData : Bytes)
variable (timestamp : UInt32)
variable (isKeyframe : Bool)

/- The packet that one round takes off the frame. -/
def packetFrom
    (offset : Nat)
    (seq : UInt16) : RtpPacket :=
  let remaining := frameData.length - offset
  let payloadSize := min remaining packetizer.maxPayloadSize
  let isLast := decide (remaining ≤ packetizer.maxPayloadSize)
  { version := 2
    padding := false
    extension := false
    csrcCount := 0
    marker := isLast || isKeyframe
    payloadType := packetizer.payloadType
    sequenceNumber := seq
    timestamp := timestamp
    ssrc := 0
    payload := (frameData.drop offset).take payloadSize }

/- One round of the loop; `none` at its end is a panic. -/
def packetizeRound
    [BuildProfile]
    (loop : Packetizing) :
    Round Packetizing (Option (List RtpPacket)) :=
  if loop.offset < frameData.length then
    let remaining := frameData.length - loop.offset
    let payloadSize :=
      min remaining packetizer.maxPayloadSize
    let packet :=
      packetizer.packetFrom frameData timestamp isKeyframe
        loop.offset loop.seq
    match checkedAddU16 loop.seq 1 with
    | none => .done none
    | some seq =>
        .again
          { packets := loop.packets ++ [packet]
            offset := loop.offset + payloadSize
            seq := seq }
  else
    .done (some loop.packets)

/-
  Packetize a video frame into RTP packets, if so many rounds
  are enough.
-/
def packetize
    [BuildProfile]
    (rounds : Nat) : Option (Option (List RtpPacket)) :=
  Loop.run
    (packetizer.packetizeRound frameData timestamp
      isKeyframe)
    rounds .start

------------------------------------------------------------
-- Rounds
------------------------------------------------------------

/- The packets that a frame needs. -/
def packetCount : Nat :=
  Paging.pageCount packetizer.maxPayloadSize
    frameData.length

/- The packet of one page of the frame. -/
def packetAt
    (number : Nat) : RtpPacket :=
  packetizer.packetFrom frameData timestamp isKeyframe
    (number * packetizer.maxPayloadSize)
    (UInt16.ofNat number)

/- The variables after so many rounds. -/
def reached
    (number : Nat) : Packetizing where
  packets :=
    (List.range number).map
      (packetizer.packetAt frameData timestamp isKeyframe)
  offset :=
    min (number * packetizer.maxPayloadSize)
      frameData.length
  seq := UInt16.ofNat number

/- The offset of a page that is there is not cut to fit. -/
theorem offset_reached
    {number : Nat}
    (hMore :
      number * packetizer.maxPayloadSize <
        frameData.length) :
    (packetizer.reached frameData timestamp isKeyframe
        number).offset =
      number * packetizer.maxPayloadSize :=
  min_eq_left (Nat.le_of_lt hMore)

variable {packetizer} {frameData} {timestamp} {isKeyframe}
variable [BuildProfile]

/- The counter goes up where it does not leave its word. -/
theorem checkedAddU16_succ
    {number : Nat}
    (hNumber : number < 65535) :
    checkedAddU16 (UInt16.ofNat number) 1 =
      some (UInt16.ofNat (number + 1)) := by
  have hLow : number < 2 ^ 16 := by omega
  have hHigh : number + 1 < 2 ^ 16 := by omega
  have hWord : (UInt16.ofNat number).toNat = number :=
    UInt16.toNat_ofNat_of_lt' hLow
  have hFits :
      (UInt16.ofNat number).toNat + (1 : UInt16).toNat <
        2 ^ 16 := by
    rw [hWord]
    exact hHigh
  unfold checkedAddU16
  rw [if_pos hFits]
  apply congrArg some
  apply UInt16.toNat.inj
  rw [UInt16.toNat_add, hWord,
    UInt16.toNat_ofNat_of_lt' hHigh]
  exact Nat.mod_eq_of_lt hHigh

/- A page that is there is taken by the next round. -/
theorem packetizeRound_reached
    {number : Nat}
    (hMore :
      number * packetizer.maxPayloadSize <
        frameData.length)
    (hNumber : number < 65535) :
    packetizer.packetizeRound frameData timestamp isKeyframe
        (packetizer.reached frameData timestamp isKeyframe
          number) =
      .again
        (packetizer.reached frameData timestamp isKeyframe
          (number + 1)) := by
  have hOffset :=
    offset_reached packetizer frameData timestamp isKeyframe
      hMore
  have hNext :
      number * packetizer.maxPayloadSize +
          min
            (frameData.length -
              number * packetizer.maxPayloadSize)
            packetizer.maxPayloadSize =
        min ((number + 1) * packetizer.maxPayloadSize)
          frameData.length := by
    rw [Nat.add_mul, Nat.one_mul]
    omega
  unfold packetizeRound
  rw [hOffset, if_pos hMore]
  dsimp only
  rw [hNext]
  unfold reached
  dsimp only
  rw [checkedAddU16_succ hNumber, List.range_succ,
    List.map_append]
  rfl

/- The loop ends as it does from any state that it reaches. -/
theorem ends_reached_iff
    (hSize : 1 ≤ packetizer.maxPayloadSize)
    {number : Nat}
    (hCount : number ≤ packetizer.packetCount frameData)
    (hNumber : number ≤ 65535)
    {result : Option (List RtpPacket)} :
    Loop.Ends
        (packetizer.packetizeRound frameData timestamp
          isKeyframe)
        .start result ↔
      Loop.Ends
        (packetizer.packetizeRound frameData timestamp
          isKeyframe)
        (packetizer.reached frameData timestamp isKeyframe
          number)
        result := by
  induction number with
  | zero =>
      have hStart :
          packetizer.reached frameData timestamp isKeyframe
              0 =
            .start := by
        unfold reached Packetizing.start
        simp
      rw [hStart]
  | succ number ih =>
      have hMore :
          number * packetizer.maxPayloadSize <
            frameData.length :=
        (Paging.lt_pageCount_iff hSize).mp hCount
      rw [ih (Nat.le_of_succ_le hCount)
        (Nat.le_of_succ_le hNumber)]
      exact
        Loop.ends_again_iff
          (packetizeRound_reached hMore hNumber)

end VideoPacketizer

end IsaWorkspace
