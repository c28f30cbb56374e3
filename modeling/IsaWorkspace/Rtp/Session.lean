import IsaWorkspace.Foundations.Exec
import IsaWorkspace.Foundations.SocketAddr
import IsaWorkspace.Rtp.Packetizer

/-
  Sending packets.

  A session numbers the packets that its socket takes.  What
  becomes of each call on the socket is an argument: the
  number of bytes sent, or a system message.  The socket
  keeps the datagrams that it has taken.

  Main declarations:
    * `UdpSocket`, `RtpStats`, `RtpSession`, `RtpError`
    * `RtpSession.sendPacket`
    * `WebRtcMediaSender`
    * `WebRtcMediaSender.rtpTimestamp`
    * `WebRtcMediaSender.sendVideoFrame`
-/

------------------------------------------------------------
-- Sessions
------------------------------------------------------------

namespace IsaWorkspace

/- A socket, by the datagrams it has taken and where to. -/
structure UdpSocket where
  taken : List (SocketAddr × Bytes)
deriving DecidableEq

/- RTP session statistics. -/
structure RtpStats where
  packetsSent : UInt64
  bytesSent : UInt64
deriving DecidableEq

/- RTP session for a single media stream. -/
structure RtpSession where
  localSsrc : UInt32
  payloadType : UInt8
  sequenceNumber : UInt16
  timestampBase : UInt32
  sendSocket : Option UdpSocket
  remoteAddr : Option SocketAddr
  stats : RtpStats
deriving DecidableEq

/- RTP errors. -/
inductive RtpError where
  | notConnected
  | sendError (message : String)
deriving DecidableEq

namespace RtpSession

/- Create a new RTP session; two numbers are drawn. -/
def new
    (payloadType : UInt8)
    (localSsrc timestampBase : UInt32) : RtpSession where
  localSsrc := localSsrc
  payloadType := payloadType
  sequenceNumber := 0
  timestampBase := timestampBase
  sendSocket := none
  remoteAddr := none
  stats := ⟨0, 0⟩

/- Set the remote destination for RTP packets. -/
def setRemote
    (addr : SocketAddr)
    (socket : UdpSocket)
    (session : RtpSession) : RtpSession :=
  { session with
    remoteAddr := some addr
    sendSocket := some socket }

/- The packet that is sent next. -/
def nextPacket
    (session : RtpSession)
    (payload : Bytes)
    (timestamp : UInt32)
    (marker : Bool) : RtpPacket where
  version := 2
  padding := false
  extension := false
  csrcCount := 0
  marker := marker
  payloadType := session.payloadType
  sequenceNumber := session.sequenceNumber
  timestamp := session.timestampBase + timestamp
  ssrc := session.localSsrc
  payload := payload

/- Hand a datagram to the socket. -/
def sendTo
    (sent : Except String Nat)
    (socket : UdpSocket)
    (data : Bytes)
    (addr : SocketAddr) :
    Exec RtpSession RtpError Nat :=
  match sent with
  | .error message => Exec.fail (.sendError message)
  | .ok bytes => do
      Exec.update fun session =>
        { session with
          sendSocket :=
            some ⟨socket.taken ++ [(addr, data)]⟩ }
      pure bytes

variable [BuildProfile]

/- Count a packet, and then its bytes. -/
def countSent
    (bytes : Nat) : Exec RtpSession RtpError Unit := do
  let session ← Exec.read
  let packetsSent ←
    Exec.orPanic (checkedAdd session.stats.packetsSent 1)
  Exec.update fun session =>
    { session with
      stats :=
        { session.stats with packetsSent := packetsSent } }
  let bytesSent ←
    Exec.orPanic
      (checkedAdd session.stats.bytesSent
        (UInt64.ofNat bytes))
  Exec.update fun session =>
    { session with
      stats := { session.stats with bytesSent := bytesSent } }

/- Send an RTP packet. -/
def sendPacket
    (sent : Except String Nat)
    (payload : Bytes)
    (timestamp : UInt32)
    (marker : Bool) :
    Exec RtpSession RtpError Unit := do
  let session ← Exec.read
  match session.remoteAddr, session.sendSocket with
  | none, _ => Exec.fail .notConnected
  | some _, none => Exec.fail .notConnected
  | some remoteAddr, some socket => do
      let packet := session.nextPacket payload timestamp marker
      let bytes ←
        sendTo sent socket packet.serialize remoteAddr
      Exec.update fun session =>
        { session with
          sequenceNumber := session.sequenceNumber + 1 }
      countSent bytes

end RtpSession

------------------------------------------------------------
-- Media Senders
------------------------------------------------------------

/- WebRTC media sender. -/
structure WebRtcMediaSender where
  videoSession : RtpSession
  packetizer : VideoPacketizer
deriving DecidableEq

namespace WebRtcMediaSender

/- Create a new WebRTC media sender; H.264 has type 96. -/
def new
    (localSsrc timestampBase : UInt32) :
    WebRtcMediaSender where
  videoSession := .new 96 localSsrc timestampBase
  packetizer := .default

/- Set remote destination for media. -/
def setRemote
    (videoAddr : SocketAddr)
    (socket : UdpSocket)
    (sender : WebRtcMediaSender) : WebRtcMediaSender :=
  { sender with
    videoSession :=
      sender.videoSession.setRemote videoAddr socket }

def onVideoSession
    {α : Type}
    (call : Exec RtpSession RtpError α) :
    Exec WebRtcMediaSender RtpError α :=
  Exec.onPart videoSession
    (fun sender session =>
      { sender with videoSession := session })
    call

variable [BuildProfile]

/-
  Convert a timestamp in microseconds to the RTP clock;
  `none` is a panic.
-/
def rtpTimestamp
    (timestampUs : UInt64) : Option UInt32 :=
  (checkedMul timestampUs 90).map fun product =>
    (product / 1000000).toUInt32

/- Send the packets from an index on, of so many. -/
def sendFrom
    (sent : Nat → Except String Nat)
    (count : Nat)
    (isKeyframe : Bool) :
    Nat → List RtpPacket →
      Exec WebRtcMediaSender RtpError Unit
| _, [] => pure ()
| index, packet :: rest => do
    let isLast := decide (index = count - 1)
    onVideoSession
      (RtpSession.sendPacket (sent index) packet.payload
        packet.timestamp (isLast || isKeyframe))
    sendFrom sent count isKeyframe (index + 1) rest

/-
  Send a video frame.  Where the packetizer has not ended
  after so many rounds there is no result yet.
-/
def sendVideoFrame
    (rounds : Nat)
    (sent : Nat → Except String Nat)
    (frameData : Bytes)
    (timestampUs : UInt64)
    (isKeyframe : Bool) :
    Exec WebRtcMediaSender RtpError (Option Unit) := do
  let timestamp ← Exec.orPanic (rtpTimestamp timestampUs)
  let sender ← Exec.read
  match sender.packetizer.packetize frameData timestamp
      isKeyframe rounds with
  | none => pure none
  | some none => Exec.panic
  | some (some packets) => do
      sendFrom sent packets.length isKeyframe 0 packets
      pure (some ())

end WebRtcMediaSender

end IsaWorkspace
