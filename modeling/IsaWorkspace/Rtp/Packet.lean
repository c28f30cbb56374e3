import IsaWorkspace.Foundations.Hex

/-
  Packets of the media transport.

  A packet is a header of twelve bytes and a payload.  Two
  bytes of the header are packed with a version, flags, a
  count and a type; the others are numbers, high byte first.

  Main declarations:
    * `RtpPacket`, `RtpPacket.new`
    * `RtpPacket.serialize`, `RtpPacket.deserialize`
-/

------------------------------------------------------------
-- Packets
------------------------------------------------------------

namespace IsaWorkspace

/- RTP packet structure. -/
structure RtpPacket where
  version : UInt8
  padding : Bool
  extension : Bool
  csrcCount : UInt8
  marker : Bool
  payloadType : UInt8
  sequenceNumber : UInt16
  timestamp : UInt32
  ssrc : UInt32
  payload : Bytes
deriving DecidableEq

namespace RtpPacket

/- Create a new RTP packet. -/
def new
    (payloadType : UInt8)
    (sequenceNumber : UInt16)
    (timestamp ssrc : UInt32)
    (payload : Bytes) : RtpPacket where
  version := 2
  padding := false
  extension := false
  csrcCount := 0
  marker := false
  payloadType := payloadType
  sequenceNumber := sequenceNumber
  timestamp := timestamp
  ssrc := ssrc
  payload := payload

------------------------------------------------------------
-- Packed Bytes
------------------------------------------------------------

/- A flag as the lowest bit of a byte. -/
def flagBit
    (flag : Bool) : UInt8 :=
  if flag then 1 else 0

/- Version, padding, extension, CSRC count. -/
def firstByte
    (packet : RtpPacket) : UInt8 :=
  (packet.version <<< 6) |||
    (flagBit packet.padding <<< 5) |||
    (flagBit packet.extension <<< 4) |||
    packet.csrcCount

/- Marker, payload type. -/
def secondByte
    (packet : RtpPacket) : UInt8 :=
  (flagBit packet.marker <<< 7) ||| packet.payloadType

/- Serialize RTP packet to bytes. -/
def serialize
    (packet : RtpPacket) : Bytes :=
  [packet.firstByte, packet.secondByte] ++
    beBytes 2 packet.sequenceNumber.toNat ++
    beBytes 4 packet.timestamp.toNat ++
    beBytes 4 packet.ssrc.toNat ++
    packet.payload

/-
  Deserialize RTP packet from bytes; `none` is a panic, and
  `some none` is no packet.
-/
def deserialize
    (data : Bytes) : Option (Option RtpPacket) :=
  match data with
  | first :: second :: s0 :: s1 :: t0 :: t1 :: t2 :: t3 ::
      r0 :: r1 :: r2 :: r3 :: _ =>
      let version := (first >>> 6) &&& 0x03
      if version ≠ 2 then
        some none
      else
        let csrcCount := first &&& 0x0F
        let headerSize := 12 + csrcCount.toNat * 4
        -- the payload is sliced without a look at the length
        if data.length < headerSize then
          none
        else
          some
            (some
              { version := version
                padding := (first &&& 0x20) != 0
                extension := (first &&& 0x10) != 0
                csrcCount := csrcCount
                marker := (second &&& 0x80) != 0
                payloadType := second &&& 0x7F
                sequenceNumber :=
                  UInt16.ofNat (beValue [s0, s1])
                timestamp :=
                  UInt32.ofNat (beValue [t0, t1, t2, t3])
                ssrc :=
                  UInt32.ofNat (beValue [r0, r1, r2, r3])
                payload := data.drop headerSize })
  | _ => some none

end RtpPacket

end IsaWorkspace
