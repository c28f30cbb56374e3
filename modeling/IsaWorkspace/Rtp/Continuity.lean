import IsaWorkspace.Foundations.Runs
import IsaWorkspace.Rtp.Session

/-
  Sequence numbers over a run of calls.

  A call sends some packets, perhaps none, and moves the
  session on by so many.  A packet that the socket refuses
  does not move it, and ends the frame that it belongs to.

  Main declarations:
    * `RtpSession.Advances` and its composition
    * `RtpSession.sendPacket_advances`
    * `WebRtcMediaSender.packetsOf`
    * `WebRtcMediaSender.sendVideoFrame_sends`
    * `MediaCall`, `MediaCall.step`
    * `MediaCall.sequenceContinuity`
-/

------------------------------------------------------------
-- Sessions That Move On
------------------------------------------------------------

namespace IsaWorkspace

namespace RtpSession

/- The datagrams that the socket has taken. -/
def datagrams
    (session : RtpSession) : List Bytes :=
  match session.sendSocket with
  | none => []
  | some socket => socket.taken.map Prod.snd

variable [BuildProfile]

/-
  The packets have been sent in between: their numbers follow
  each other from that of the session, and they are counted,
  in a word where the build wraps and up to its end where the
  build checks it.
-/
structure Advances
    (before after : RtpSession)
    (packets : List RtpPacket) : Prop where
  sent :
    after.datagrams =
      before.datagrams ++ packets.map RtpPacket.serialize
  numbered :
    packets.map RtpPacket.sequenceNumber =
      (List.range packets.length).map fun i =>
        before.sequenceNumber + UInt16.ofNat i
  next :
    after.sequenceNumber =
      before.sequenceNumber + UInt16.ofNat packets.length
  counted :
    BuildProfile.overflowChecks = false ∨
        before.stats.packetsSent.toNat + packets.length <
          2 ^ 64 →
      after.stats.packetsSent =
        before.stats.packetsSent +
          UInt64.ofNat packets.length
  sameClock : after.timestampBase = before.timestampBase

namespace Advances

variable {before middle after : RtpSession}
variable {packets others : List RtpPacket}

theorem refl
    (session : RtpSession) :
    Advances session session [] where
  sent := (List.append_nil _).symm
  numbered := rfl
  next := (UInt16.add_zero _).symm
  counted := fun _ => (UInt64.add_zero _).symm
  sameClock := rfl

theorem trans
    (hFirst : Advances before middle packets)
    (hSecond : Advances middle after others) :
    Advances before after (packets ++ others) where
  sent := by
    rw [hSecond.sent, hFirst.sent, List.map_append,
      List.append_assoc]
  numbered := by
    rw [List.map_append, hFirst.numbered, hSecond.numbered,
      hFirst.next, List.length_append, List.range_add,
      List.map_append, List.map_map]
    apply congrArg
    apply List.map_congr_left
    intro i _
    rw [Function.comp_apply, UInt16.ofNat_add,
      UInt16.add_assoc]
  next := by
    rw [hSecond.next, hFirst.next, List.length_append,
      UInt16.ofNat_add, UInt16.add_assoc]
  counted := by
    rw [List.length_append]
    intro hFits
    have hEarlier := hFirst.counted (hFits.imp_right (by omega))
    have hLater :
        BuildProfile.overflowChecks = false ∨
          middle.stats.packetsSent.toNat + others.length <
            2 ^ 64 := by
      refine hFits.imp_right fun hWord => ?_
      have hLess : packets.length < 2 ^ 64 := by omega
      rw [hEarlier, UInt64.toNat_add,
        UInt64.toNat_ofNat_of_lt' hLess]
      omega
    rw [hSecond.counted hLater, hEarlier, UInt64.ofNat_add,
      UInt64.add_assoc]
  sameClock := hSecond.sameClock.trans hFirst.sameClock

end Advances

------------------------------------------------------------
-- Sending One Packet
------------------------------------------------------------

/- A packet that has gone out is counted, or a build panics. -/
theorem countSent_effect
    (bytes : Nat)
    (session : RtpSession) :
    ∃ stats,
      (countSent bytes session).2 =
          { session with stats := stats } ∧
        (∀ error, (countSent bytes session).1 ≠
          .err error) ∧
        (BuildProfile.overflowChecks = false ∨
            session.stats.packetsSent.toNat + 1 < 2 ^ 64 →
          stats.packetsSent =
            session.stats.packetsSent + 1) := by
  unfold countSent
  rw [Exec.read_bind_apply]
  cases hSum : checkedAdd session.stats.packetsSent 1 with
  | none =>
      refine ⟨session.stats, rfl, nofun, fun hWord => ?_⟩
      rw [checkedAdd_eq_some hWord] at hSum
      cases hSum
  | some packetsSent =>
      have hSame := eq_add_of_checkedAdd hSum
      cases hBytes :
          checkedAdd session.stats.bytesSent
            (UInt64.ofNat bytes) with
      | none =>
          refine
            ⟨{ session.stats with
                packetsSent := packetsSent },
              ?_, ?_, fun _ => hSame⟩
          · rw [Exec.orPanic_some]
            rfl
          · exact nofun
      | some bytesSent =>
          exact
            ⟨⟨packetsSent, bytesSent⟩, rfl, nofun,
              fun _ => hSame⟩

/-
  A packet that is refused leaves the session as it is; one
  that is taken moves it on.
-/
theorem sendPacket_advances
    (sent : Except String Nat)
    (payload : Bytes)
    (timestamp : UInt32)
    (marker : Bool)
    (session : RtpSession) :
    ∃ packets,
      Advances session
          (sendPacket sent payload timestamp marker
            session).2
          packets ∧
        (packets = [] ∧
            (∃ error,
              (sendPacket sent payload timestamp marker
                session).1 =
                .err error) ∨
          packets =
              [session.nextPacket payload timestamp
                marker] ∧
            ∀ error,
              (sendPacket sent payload timestamp marker
                session).1 ≠
                .err error) := by
  unfold sendPacket
  rw [Exec.read_bind_apply]
  cases hAddr : session.remoteAddr with
  | none => exact ⟨[], .refl session, Or.inl ⟨rfl, _, rfl⟩⟩
  | some addr =>
      cases hSocket : session.sendSocket with
      | none =>
          exact ⟨[], .refl session, Or.inl ⟨rfl, _, rfl⟩⟩
      | some socket =>
          cases sent with
          | error message =>
              exact
                ⟨[], .refl session, Or.inl ⟨rfl, _, rfl⟩⟩
          | ok bytes =>
              let packet :=
                session.nextPacket payload timestamp marker
              let numbered : RtpSession :=
                { session with
                  sendSocket :=
                    some
                      ⟨socket.taken ++
                        [(addr, packet.serialize)]⟩
                  sequenceNumber :=
                    session.sequenceNumber + 1 }
              rcases countSent_effect bytes numbered with
                ⟨stats, hAfter, hNoError, hCounted⟩
              refine
                ⟨[packet], ?_, Or.inr ⟨rfl, hNoError⟩⟩
              change
                Advances session (countSent bytes numbered).2
                  [packet]
              rw [hAfter]
              constructor
              · simp [datagrams, hSocket, numbered]
              · simp [packet, nextPacket]
              · rfl
              · exact hCounted
              · rfl

end RtpSession

------------------------------------------------------------
-- Sending a Frame
------------------------------------------------------------

namespace WebRtcMediaSender

variable [BuildProfile]

/-
  Packets of the frame have been sent from its front on, with
  the timestamps on the clock of the session: all of them if
  the call returned, and not all of them if it failed.
-/
def SendsFront
    {α : Type}
    (sender : WebRtcMediaSender)
    (frame : List RtpPacket)
    (result : Outcome RtpError α × WebRtcMediaSender) :
    Prop :=
  ∃ packets,
    sender.videoSession.Advances result.2.videoSession
        packets ∧
      (packets.map fun packet =>
          (packet.payload, packet.timestamp)) <+:
        (frame.map fun packet =>
          (packet.payload,
            sender.videoSession.timestampBase +
              packet.timestamp)) ∧
      (result.1.isOk = true →
        packets.length = frame.length) ∧
      ∀ error, result.1 = .err error →
        packets.length < frame.length

/- A frame of which nothing was sent. -/
theorem SendsFront.nothing
    {α : Type}
    {sender : WebRtcMediaSender}
    {frame : List RtpPacket}
    {outcome : Outcome RtpError α}
    (hOk : outcome.isOk = true → frame = [])
    (hErr : ∀ error, outcome = .err error → frame ≠ []) :
    SendsFront sender frame (outcome, sender) :=
  ⟨[], .refl _, List.nil_prefix,
    fun hReturned => by rw [hOk hReturned],
    fun error hError =>
      List.length_pos_iff.mpr (hErr error hError)⟩

/- What a call returns does not matter for what it sends. -/
theorem SendsFront.bind_pure
    {α : Type}
    {sender : WebRtcMediaSender}
    {frame : List RtpPacket}
    {call : Exec WebRtcMediaSender RtpError Unit}
    (hSends : SendsFront sender frame (call sender))
    (value : α) :
    SendsFront sender frame
      ((call >>= fun _ => pure value) sender) := by
  rcases hSends with ⟨packets, hSent, hPrefix, hOk, hErr⟩
  rcases hCall : call sender with ⟨outcome, after⟩
  rw [hCall] at hSent hOk hErr
  cases outcome with
  | ok returned =>
      rw [Exec.bind_of_ok hCall]
      exact
        ⟨packets, hSent, hPrefix, fun _ => hOk rfl, nofun⟩
  | err error =>
      rw [Exec.bind_of_err hCall]
      exact
        ⟨packets, hSent, hPrefix, nofun,
          fun _ _ => hErr error rfl⟩
  | panicked =>
      rw [Exec.bind_of_panicked hCall]
      exact ⟨packets, hSent, hPrefix, nofun, nofun⟩

/- The packets go out one by one, until one is refused. -/
theorem sendFrom_sends
    (sent : Nat → Except String Nat)
    (count : Nat)
    (isKeyframe : Bool)
    (index : Nat)
    (frame : List RtpPacket)
    (sender : WebRtcMediaSender) :
    SendsFront sender frame
      (sendFrom sent count isKeyframe index frame sender) := by
  induction frame generalizing index sender with
  | nil =>
      exact SendsFront.nothing (fun _ => rfl) nofun
  | cons packet rest ih =>
      rcases RtpSession.sendPacket_advances (sent index)
          packet.payload packet.timestamp
          (decide (index = count - 1) || isKeyframe)
          sender.videoSession with
        ⟨packets, hFirst, hOutcome⟩
      let call : Exec WebRtcMediaSender RtpError Unit :=
        onVideoSession
          (RtpSession.sendPacket (sent index) packet.payload
            packet.timestamp
            (decide (index = count - 1) || isKeyframe))
      have hFirst :
          sender.videoSession.Advances
            (call sender).2.videoSession packets :=
        hFirst
      change
        SendsFront sender (packet :: rest)
          ((call >>= fun _ =>
              sendFrom sent count isKeyframe (index + 1)
                rest)
            sender)
      rcases hOutcome with
        ⟨rfl, error, hError⟩ | ⟨rfl, hTaken⟩
      · have hCall :
            call sender = (.err error, (call sender).2) :=
          Prod.ext hError rfl
        rw [Exec.bind_of_err hCall]
        exact
          ⟨[], hFirst, List.nil_prefix, nofun,
            fun _ _ => Nat.succ_pos _⟩
      · rcases hCall : call sender with ⟨outcome, middle⟩
        rw [hCall] at hFirst
        cases outcome with
        | err error =>
            exact
              absurd (congrArg Prod.fst hCall)
                (hTaken error)
        | panicked =>
            rw [Exec.bind_of_panicked hCall]
            refine ⟨_, hFirst, ?_, nofun, nofun⟩
            exact
              List.cons_prefix_cons.mpr
                ⟨rfl, List.nil_prefix⟩
        | ok value =>
            rw [Exec.bind_of_ok hCall]
            rcases ih (index + 1) middle with
              ⟨later, hLater, hPrefix, hOk, hErr⟩
            rw [hFirst.sameClock] at hPrefix
            refine
              ⟨_, hFirst.trans hLater, ?_, ?_, ?_⟩
            · exact
                List.cons_prefix_cons.mpr ⟨rfl, hPrefix⟩
            · intro hReturned
              exact congrArg Nat.succ (hOk hReturned)
            · intro error hError
              exact Nat.succ_lt_succ (hErr error hError)

/- The packets of a frame, once they have been made. -/
def packetsOf
    (sender : WebRtcMediaSender)
    (rounds : Nat)
    (frameData : Bytes)
    (timestampUs : UInt64)
    (isKeyframe : Bool) : List RtpPacket :=
  ((rtpTimestamp timestampUs).bind fun timestamp =>
    (sender.packetizer.packetize frameData timestamp
      isKeyframe rounds).join).getD []

theorem sendVideoFrame_sends
    (rounds : Nat)
    (sent : Nat → Except String Nat)
    (frameData : Bytes)
    (timestampUs : UInt64)
    (isKeyframe : Bool)
    (sender : WebRtcMediaSender) :
    SendsFront sender
      (sender.packetsOf rounds frameData timestampUs
        isKeyframe)
      (sendVideoFrame rounds sent frameData timestampUs
        isKeyframe sender) := by
  unfold sendVideoFrame packetsOf
  cases rtpTimestamp timestampUs with
  | none => exact SendsFront.nothing nofun nofun
  | some timestamp =>
      rw [Option.bind_some, Exec.orPanic_some,
        Exec.pure_bind_apply, Exec.read_bind_apply]
      cases sender.packetizer.packetize frameData timestamp
          isKeyframe rounds with
      | none =>
          exact SendsFront.nothing (fun _ => rfl) nofun
      | some ended =>
          cases ended with
          | none => exact SendsFront.nothing nofun nofun
          | some frame =>
              exact
                (sendFrom_sends sent frame.length isKeyframe
                  0 frame sender).bind_pure (some ())

end WebRtcMediaSender

------------------------------------------------------------
-- Runs of Calls
------------------------------------------------------------

/- The calls that send packets, with what becomes of them. -/
inductive MediaCall where
  | sendPacket
      (sent : Except String Nat)
      (payload : Bytes)
      (timestamp : UInt32)
      (marker : Bool)
  | sendVideoFrame
      (rounds : Nat)
      (sent : Nat → Except String Nat)
      (frameData : Bytes)
      (timestampUs : UInt64)
      (isKeyframe : Bool)

namespace MediaCall

variable [BuildProfile]

/- The sender after a call. -/
def step
    (sender : WebRtcMediaSender) :
    MediaCall → WebRtcMediaSender
| .sendPacket sent payload timestamp marker =>
    (WebRtcMediaSender.onVideoSession
      (RtpSession.sendPacket sent payload timestamp marker)
      sender).2
| .sendVideoFrame rounds sent frameData timestampUs
    isKeyframe =>
    (WebRtcMediaSender.sendVideoFrame rounds sent frameData
      timestampUs isKeyframe sender).2

/- A frame goes out from its front on. -/
def FrameSendsFront
    (sender : WebRtcMediaSender) : MediaCall → Prop
| .sendPacket _ _ _ _ => True
| .sendVideoFrame rounds sent frameData timestampUs
    isKeyframe =>
    sender.SendsFront
      (sender.packetsOf rounds frameData timestampUs
        isKeyframe)
      (WebRtcMediaSender.sendVideoFrame rounds sent frameData
        timestampUs isKeyframe sender)

/-
  The packets of the whole run are numbered one after another
  and counted, and each frame of it goes out from its front.
-/
structure InSequence
    (sender : WebRtcMediaSender)
    (calls : List MediaCall) : Prop where
  advances :
    ∃ packets,
      sender.videoSession.Advances
        (Runs.run step sender calls).videoSession packets
  frames : Runs.AlongRun step FrameSendsFront sender calls

/- Each call moves the session on by what it has sent. -/
theorem step_advances
    (sender : WebRtcMediaSender)
    (call : MediaCall) :
    ∃ packets,
      sender.videoSession.Advances
        (step sender call).videoSession packets := by
  cases call with
  | sendPacket sent payload timestamp marker =>
      rcases RtpSession.sendPacket_advances sent payload
          timestamp marker sender.videoSession with
        ⟨packets, hAdvances, _⟩
      exact ⟨packets, hAdvances⟩
  | sendVideoFrame rounds sent frameData timestampUs
      isKeyframe =>
      rcases WebRtcMediaSender.sendVideoFrame_sends rounds
          sent frameData timestampUs isKeyframe sender with
        ⟨packets, hAdvances, _⟩
      exact ⟨packets, hAdvances⟩

/- So does a run, by what its calls have sent. -/
theorem run_advances
    (sender : WebRtcMediaSender)
    (calls : List MediaCall) :
    ∃ packets,
      sender.videoSession.Advances
        (Runs.run step sender calls).videoSession
        packets := by
  induction calls generalizing sender with
  | nil => exact ⟨[], .refl _⟩
  | cons call rest ih =>
      rcases step_advances sender call with
        ⟨packets, hFirst⟩
      rcases ih (step sender call) with ⟨others, hRest⟩
      exact ⟨packets ++ others, hFirst.trans hRest⟩

theorem sequenceContinuity
    (sender : WebRtcMediaSender)
    (calls : List MediaCall) :
    InSequence sender calls where
  advances := run_advances sender calls
  frames := by
    apply Runs.alongRun_of_forall_mem
    rintro (_ | ⟨rounds, sent, frameData, timestampUs,
      isKeyframe⟩) _ state
    · trivial
    · exact
        WebRtcMediaSender.sendVideoFrame_sends rounds sent
          frameData timestampUs isKeyframe state

end MediaCall

end IsaWorkspace
