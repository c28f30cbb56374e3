import IsaWorkspace.Foundations.Chunks
import IsaWorkspace.Rtp.Continuity
import IsaWorkspace.Rtp.Packetization

/-
  The packets that calls with frames send.

  A call that returns has sent a group of packets: those of
  its frame from the front on, up to the first one that was
  refused.  A run has sent the groups of its calls.

  Main declarations:
    * `RtpSession.unnumbered`, `RtpSession.SameKind`
    * `WebRtcMediaSender.sendFrom_sentFront`
    * `FrameCall`, `FrameCall.send`, `FrameCall.step`
    * `FrameCall.SendsGroup`, `FrameCall.sendsGroup`
    * `FrameCall.SendsGroups`, `FrameCall.sendsGroups_run`
-/

------------------------------------------------------------
-- What a Session Sends
------------------------------------------------------------

namespace IsaWorkspace

/- A packet without its number. -/
def RtpPacket.unnumbered
    (packet : RtpPacket) : RtpPacket :=
  { packet with sequenceNumber := 0 }

namespace RtpSession

/-
  The packets of a frame from an index on, of so many, as
  the session sends them, without their numbers.
-/
def unnumbered
    (session : RtpSession)
    (count : Nat)
    (isKeyframe : Bool)
    (index : Nat)
    (frame : List RtpPacket) : List RtpPacket :=
  frame.mapIdx fun i packet =>
    (session.nextPacket packet.payload packet.timestamp
      (decide (index + i = count - 1) ||
        isKeyframe)).unnumbered

@[simp] theorem length_unnumbered
    (session : RtpSession)
    (count : Nat)
    (isKeyframe : Bool)
    (index : Nat)
    (frame : List RtpPacket) :
    (session.unnumbered count isKeyframe index
        frame).length =
      frame.length :=
  List.length_mapIdx

/- A session sends what the packets of the frame carry. -/
@[simp] theorem map_payload_unnumbered
    (session : RtpSession)
    (count : Nat)
    (isKeyframe : Bool)
    (index : Nat)
    (frame : List RtpPacket) :
    (session.unnumbered count isKeyframe index frame).map
        RtpPacket.payload =
      frame.map RtpPacket.payload := by
  apply List.ext_getElem
  · simp
  · intro number _ _
    rw [List.getElem_map, List.getElem_map]
    simp only [unnumbered, List.getElem_mapIdx]
    rfl

/- The sessions send packets of one kind. -/
structure SameKind
    (before after : RtpSession) : Prop where
  payloadType : after.payloadType = before.payloadType
  localSsrc : after.localSsrc = before.localSsrc
  timestampBase : after.timestampBase = before.timestampBase

theorem SameKind.refl
    (session : RtpSession) :
    SameKind session session :=
  ⟨rfl, rfl, rfl⟩

theorem SameKind.trans
    {before middle after : RtpSession}
    (hFirst : SameKind before middle)
    (hSecond : SameKind middle after) :
    SameKind before after where
  payloadType :=
    hSecond.payloadType.trans hFirst.payloadType
  localSsrc := hSecond.localSsrc.trans hFirst.localSsrc
  timestampBase :=
    hSecond.timestampBase.trans hFirst.timestampBase

/- Packets of one kind are one without their numbers. -/
theorem SameKind.unnumbered_eq
    {before after : RtpSession}
    (hKind : SameKind before after)
    (count : Nat)
    (isKeyframe : Bool)
    (index : Nat)
    (frame : List RtpPacket) :
    after.unnumbered count isKeyframe index frame =
      before.unnumbered count isKeyframe index frame := by
  unfold unnumbered nextPacket
  rw [hKind.payloadType, hKind.localSsrc,
    hKind.timestampBase]
  rfl

variable [BuildProfile]

/- Sending a packet does not change the kind of packets. -/
theorem sendPacket_sameKind
    (sent : Except String Nat)
    (payload : Bytes)
    (timestamp : UInt32)
    (marker : Bool)
    (session : RtpSession) :
    SameKind session
      (sendPacket sent payload timestamp marker
        session).2 := by
  unfold sendPacket
  rw [Exec.read_bind_apply]
  cases session.remoteAddr with
  | none => exact .refl session
  | some addr =>
      cases session.sendSocket with
      | none => exact .refl session
      | some socket =>
          cases sent with
          | error message => exact .refl session
          | ok bytes =>
              let numbered : RtpSession :=
                { session with
                  sendSocket :=
                    some
                      ⟨socket.taken ++
                        [(addr,
                          (session.nextPacket payload
                            timestamp marker).serialize)]⟩
                  sequenceNumber :=
                    session.sequenceNumber + 1 }
              rcases countSent_effect bytes numbered with
                ⟨stats, hAfter, _, _⟩
              change
                SameKind session (countSent bytes numbered).2
              rw [hAfter]
              exact ⟨rfl, rfl, rfl⟩

end RtpSession

namespace WebRtcMediaSender

variable [BuildProfile]

/-
  Packets of a frame have been sent from its front on, and
  all of them if and only if the call has succeeded.
-/
structure SentFront
    {α : Type}
    (sender : WebRtcMediaSender)
    (frame : List RtpPacket)
    (result : Outcome RtpError α × WebRtcMediaSender)
    (packets : List RtpPacket) : Prop where
  advances :
    sender.videoSession.Advances result.2.videoSession
      packets
  sameKind :
    sender.videoSession.SameKind result.2.videoSession
  packetizer : result.2.packetizer = sender.packetizer
  front : packets.map RtpPacket.unnumbered <+: frame
  whole :
    result.1 ≠ .panicked →
      (result.1.isOk = true ↔
        packets.length = frame.length)

/- The packets go out one by one, until one is refused. -/
theorem sendFrom_sentFront
    (sent : Nat → Except String Nat)
    (count : Nat)
    (isKeyframe : Bool)
    (index : Nat)
    (frame : List RtpPacket)
    (sender : WebRtcMediaSender) :
    ∃ packets,
      SentFront sender
        (sender.videoSession.unnumbered count isKeyframe
          index frame)
        (sendFrom sent count isKeyframe index frame sender)
        packets := by
  induction frame generalizing index sender with
  | nil =>
      exact
        ⟨[], .refl _, .refl _, rfl, List.nil_prefix,
          fun _ => iff_of_true rfl rfl⟩
  | cons packet rest ih =>
      let marker :=
        decide (index = count - 1) || isKeyframe
      have hKind :=
        RtpSession.sendPacket_sameKind (sent index)
          packet.payload packet.timestamp marker
          sender.videoSession
      rcases RtpSession.sendPacket_advances (sent index)
          packet.payload packet.timestamp marker
          sender.videoSession with
        ⟨packets, hFirst, hOutcome⟩
      let call : Exec WebRtcMediaSender RtpError Unit :=
        onVideoSession
          (RtpSession.sendPacket (sent index) packet.payload
            packet.timestamp marker)
      have hTemplate :
          sender.videoSession.unnumbered count isKeyframe
              index (packet :: rest) =
            (sender.videoSession.nextPacket packet.payload
                packet.timestamp marker).unnumbered ::
              sender.videoSession.unnumbered count
                isKeyframe (index + 1) rest := by
        unfold RtpSession.unnumbered
        rw [List.mapIdx_cons, Nat.add_zero]
        simp only [Nat.add_assoc, Nat.add_comm 1]
        rfl
      rw [hTemplate]
      change
        ∃ packets,
          SentFront sender _
            ((call >>= fun _ =>
                sendFrom sent count isKeyframe (index + 1)
                  rest)
              sender)
            packets
      have hFirst :
          sender.videoSession.Advances
            (call sender).2.videoSession packets :=
        hFirst
      have hKind :
          sender.videoSession.SameKind
            (call sender).2.videoSession :=
        hKind
      have hPacketizer :
          (call sender).2.packetizer = sender.packetizer :=
        rfl
      rcases hOutcome with
        ⟨rfl, error, hError⟩ | ⟨rfl, hTaken⟩
      · have hCall :
            call sender = (.err error, (call sender).2) :=
          Prod.ext hError rfl
        rw [Exec.bind_of_err hCall]
        exact
          ⟨[], hFirst, hKind, hPacketizer, List.nil_prefix,
            fun _ => iff_of_false nofun nofun⟩
      · rcases hCall : call sender with ⟨outcome, middle⟩
        rw [hCall] at hFirst hKind hPacketizer
        cases outcome with
        | err error =>
            exact
              absurd (congrArg Prod.fst hCall)
                (hTaken error)
        | panicked =>
            rw [Exec.bind_of_panicked hCall]
            exact
              ⟨_, hFirst, hKind, hPacketizer,
                List.cons_prefix_cons.mpr
                  ⟨rfl, List.nil_prefix⟩,
                fun hReturned => absurd rfl hReturned⟩
        | ok value =>
            rw [Exec.bind_of_ok hCall]
            rcases ih (index + 1) middle with
              ⟨later, hLater⟩
            rw [hKind.unnumbered_eq] at hLater
            exact
              ⟨_, hFirst.trans hLater.advances,
                hKind.trans hLater.sameKind,
                hLater.packetizer.trans hPacketizer,
                List.cons_prefix_cons.mpr
                  ⟨rfl, hLater.front⟩,
                fun hReturned =>
                  (hLater.whole hReturned).trans
                    Nat.succ_inj.symm⟩

end WebRtcMediaSender

------------------------------------------------------------
-- The Packets of One Frame
------------------------------------------------------------

/- A call that sends a frame, with what becomes of it. -/
structure FrameCall where
  rounds : Nat
  sent : Nat → Except String Nat
  frameData : Bytes
  timestampUs : UInt64
  isKeyframe : Bool

namespace FrameCall

variable [BuildProfile]

/- Send the frame. -/
def send
    (call : FrameCall) :
    Exec WebRtcMediaSender RtpError (Option Unit) :=
  WebRtcMediaSender.sendVideoFrame call.rounds call.sent
    call.frameData call.timestampUs call.isKeyframe

/- The sender after a call. -/
def step
    (sender : WebRtcMediaSender)
    (call : FrameCall) : WebRtcMediaSender :=
  (call.send sender).2

/- The call returns, with or without an error. -/
def Returns
    (sender : WebRtcMediaSender)
    (call : FrameCall) : Prop :=
  (call.send sender).1 ≠ .panicked ∧
    (call.send sender).1 ≠ .ok none

/- The call returns without an error. -/
def Succeeds
    (sender : WebRtcMediaSender)
    (call : FrameCall) : Prop :=
  (call.send sender).1 = .ok (some ())

/- A call that succeeds returns. -/
theorem Succeeds.returns
    {sender : WebRtcMediaSender}
    {call : FrameCall}
    (hSucceeds : call.Succeeds sender) :
    call.Returns sender := by
  unfold Succeeds at hSucceeds
  unfold Returns
  rw [hSucceeds]
  exact ⟨nofun, nofun⟩

/-
  The packets are the first ones of the frame, on the clock
  of the session; only their numbers are left open.
-/
def SendsGroup
    (session : RtpSession)
    (packetizer : VideoPacketizer)
    (call : FrameCall)
    (group : List RtpPacket) : Prop :=
  ∃ timestamp,
    WebRtcMediaSender.rtpTimestamp call.timestampUs =
        some timestamp ∧
      group.map RtpPacket.unnumbered <+:
        session.unnumbered
          (packetizer.packetCount call.frameData)
          call.isKeyframe 0
          (packetizer.framePackets call.frameData timestamp
            call.isKeyframe)

/- The packets are as many as the frame needs. -/
def Whole
    (packetizer : VideoPacketizer)
    (call : FrameCall)
    (group : List RtpPacket) : Prop :=
  group.length = packetizer.packetCount call.frameData

variable {sender : WebRtcMediaSender}
variable {session : RtpSession}
variable {packetizer : VideoPacketizer}
variable {call : FrameCall} {group : List RtpPacket}

/- A call that returns has sent a group of packets. -/
theorem sendsGroup
    (hSize : 1 ≤ sender.packetizer.maxPayloadSize)
    (hFew :
      sender.packetizer.packetCount call.frameData ≤ 65535)
    (hReturns : call.Returns sender) :
    ∃ group,
      sender.videoSession.Advances
          (step sender call).videoSession group ∧
        sender.videoSession.SameKind
          (step sender call).videoSession ∧
        (step sender call).packetizer = sender.packetizer ∧
        call.SendsGroup sender.videoSession
          sender.packetizer group ∧
        (call.Succeeds sender ↔
          call.Whole sender.packetizer group) := by
  rcases hReturns with ⟨hNoPanic, hEnded⟩
  unfold step Succeeds SendsGroup Whole
  unfold send WebRtcMediaSender.sendVideoFrame at hNoPanic hEnded ⊢
  cases hTimestamp :
      WebRtcMediaSender.rtpTimestamp call.timestampUs with
  | none =>
      rw [hTimestamp] at hNoPanic
      exact absurd rfl hNoPanic
  | some timestamp =>
      rw [hTimestamp, Exec.orPanic_some, Exec.pure_bind_apply,
        Exec.read_bind_apply] at hNoPanic hEnded
      rw [Exec.orPanic_some, Exec.pure_bind_apply,
        Exec.read_bind_apply]
      cases hPackets :
          sender.packetizer.packetize call.frameData
            timestamp call.isKeyframe call.rounds with
      | none =>
          rw [hPackets] at hEnded
          exact absurd rfl hEnded
      | some ended =>
          have hFrame :
              ended =
                some
                  (sender.packetizer.framePackets
                    call.frameData timestamp
                    call.isKeyframe) :=
            (Loop.ends_iff.mpr ⟨_, hPackets⟩).unique
              (VideoPacketizer.ends_framePackets hSize hFew)
          subst hFrame
          rw [hPackets] at hNoPanic
          dsimp only at hNoPanic ⊢
          rw [VideoPacketizer.length_framePackets] at hNoPanic ⊢
          rcases WebRtcMediaSender.sendFrom_sentFront
              call.sent
              (sender.packetizer.packetCount call.frameData)
              call.isKeyframe 0
              (sender.packetizer.framePackets call.frameData
                timestamp call.isKeyframe)
              sender with
            ⟨group, hSent⟩
          rcases hCall :
              WebRtcMediaSender.sendFrom call.sent
                (sender.packetizer.packetCount
                  call.frameData)
                call.isKeyframe 0
                (sender.packetizer.framePackets
                  call.frameData timestamp call.isKeyframe)
                sender with
            ⟨outcome, after⟩
          rw [hCall] at hSent
          have hCount := hSent.whole
          rw [RtpSession.length_unnumbered,
            VideoPacketizer.length_framePackets] at hCount
          cases outcome with
          | panicked =>
              rw [Exec.bind_of_panicked hCall] at hNoPanic
              exact absurd rfl hNoPanic
          | err error =>
              rw [Exec.bind_of_err hCall]
              exact
                ⟨group, hSent.advances, hSent.sameKind,
                  hSent.packetizer,
                  ⟨timestamp, rfl, hSent.front⟩,
                  iff_of_false nofun fun hWhole =>
                    absurd ((hCount nofun).mpr hWhole)
                      nofun⟩
          | ok value =>
              rw [Exec.bind_of_ok hCall]
              exact
                ⟨group, hSent.advances, hSent.sameKind,
                  hSent.packetizer,
                  ⟨timestamp, rfl, hSent.front⟩,
                  iff_of_true rfl ((hCount nofun).mp rfl)⟩

/- A packet of a group, by its place in the group. -/
theorem SendsGroup.getElem
    (hGroup : call.SendsGroup session packetizer group) :
    ∃ timestamp,
      WebRtcMediaSender.rtpTimestamp call.timestampUs =
          some timestamp ∧
        ∀ number (hNumber : number < group.length),
          number < packetizer.packetCount call.frameData ∧
            group[number].unnumbered =
              (session.nextPacket
                (packetizer.packetAt call.frameData
                  timestamp call.isKeyframe number).payload
                timestamp
                (decide
                    (number =
                      packetizer.packetCount
                          call.frameData -
                        1) ||
                  call.isKeyframe)).unnumbered := by
  rcases hGroup with ⟨timestamp, hTimestamp, hFront⟩
  refine ⟨timestamp, hTimestamp, ?_⟩
  intro number hNumber
  have hMapped :
      number <
        (group.map RtpPacket.unnumbered).length := by
    rw [List.length_map]
    exact hNumber
  have hBound := Nat.lt_of_lt_of_le hMapped hFront.length_le
  rw [RtpSession.length_unnumbered,
    VideoPacketizer.length_framePackets] at hBound
  refine ⟨hBound, ?_⟩
  have hPacket := hFront.getElem hMapped
  rw [List.getElem_map] at hPacket
  rw [hPacket]
  unfold RtpSession.unnumbered VideoPacketizer.framePackets
  simp only [List.getElem_mapIdx, List.getElem_map,
    List.getElem_range, Nat.zero_add]
  rfl

/- The packets of a group can be read. -/
theorem SendsGroup.readable
    (hGroup : call.SendsGroup session packetizer group)
    (hType : session.payloadType < 128) :
    ∀ packet ∈ group,
      packet.version = 2 ∧ packet.csrcCount = 0 ∧
        packet.payloadType < 128 := by
  intro packet hPacket
  rcases List.getElem_of_mem hPacket with
    ⟨number, hNumber, rfl⟩
  rcases hGroup.getElem with ⟨timestamp, _, hPackets⟩
  have hSame := (hPackets number hNumber).2
  refine ⟨?_, ?_, ?_⟩
  · exact congrArg RtpPacket.version hSame
  · exact congrArg RtpPacket.csrcCount hSame
  · have hKind := congrArg RtpPacket.payloadType hSame
    exact hKind ▸ hType

/- No packet of a group is empty. -/
theorem SendsGroup.payload_ne_nil
    (hSize : 1 ≤ packetizer.maxPayloadSize)
    (hGroup : call.SendsGroup session packetizer group) :
    ∀ packet ∈ group, packet.payload ≠ [] := by
  intro packet hPacket
  rcases List.getElem_of_mem hPacket with
    ⟨number, hNumber, rfl⟩
  rcases hGroup.getElem with ⟨timestamp, _, hPackets⟩
  rcases hPackets number hNumber with ⟨hBound, hSame⟩
  have hPayload := congrArg RtpPacket.payload hSame
  change
    group[number].payload =
      (packetizer.packetAt call.frameData timestamp
        call.isKeyframe number).payload
    at hPayload
  have hSome :
      1 ≤
        (packetizer.packetAt call.frameData timestamp
          call.isKeyframe number).payload.length :=
    (VideoPacketizer.length_payload hSize hBound).1
  rw [hPayload]
  exact List.ne_nil_of_length_pos hSome

/-
  What a group carries is the front of its frame, and the
  frame if and only if the group is whole.
-/
theorem SendsGroup.front
    (hSize : 1 ≤ packetizer.maxPayloadSize)
    (hFew :
      packetizer.packetCount call.frameData ≤ 65535)
    (hGroup : call.SendsGroup session packetizer group) :
    group.flatMap RtpPacket.payload <+: call.frameData ∧
      (call.Whole packetizer group ↔
        group.flatMap RtpPacket.payload =
          call.frameData) := by
  rcases hGroup with ⟨timestamp, _, hFront⟩
  let packets :=
    packetizer.framePackets call.frameData timestamp
      call.isKeyframe
  have hLossless :=
    @VideoPacketizer.lossless_framePackets packetizer
      call.frameData timestamp call.isKeyframe hSize hFew
  have hPayloads := hFront.map RtpPacket.payload
  rw [List.map_map, RtpSession.map_payload_unnumbered]
    at hPayloads
  change
    group.map RtpPacket.payload <+:
      packets.map RtpPacket.payload
    at hPayloads
  rcases hPayloads with ⟨missing, hAll⟩
  have hFrame :
      (group.map RtpPacket.payload).flatten ++
          missing.flatten =
        call.frameData := by
    rw [← List.flatten_append, hAll]
    exact hLossless.whole
  have hSome : ∀ payload ∈ missing, payload ≠ [] := by
    intro payload hMissing
    have hPayload :
        payload ∈ packets.map RtpPacket.payload := by
      rw [← hAll]
      exact List.mem_append_right _ hMissing
    rcases List.mem_map.mp hPayload with
      ⟨packet, hPacket, rfl⟩
    exact
      List.ne_nil_of_length_pos
        (hLossless.sizes packet hPacket).1
  have hLengths :
      group.length + missing.length =
        packetizer.packetCount call.frameData := by
    have hLength := congrArg List.length hAll
    rw [List.length_append, List.length_map,
      List.length_map, VideoPacketizer.length_framePackets]
      at hLength
    exact hLength
  rw [List.flatMap_def]
  refine ⟨⟨missing.flatten, hFrame⟩, ?_⟩
  unfold Whole
  constructor
  · intro hWhole
    have hNone : missing = [] :=
      List.length_eq_zero_iff.mp (by omega)
    rw [hNone, List.flatten_nil, List.append_nil] at hFrame
    exact hFrame
  · intro hSame
    have hNothing : missing.flatMap id = [] := by
      rw [List.flatMap_id]
      rw [hSame, List.append_right_eq_self] at hFrame
      exact hFrame
    rw [Chunks.eq_nil_of_flatMap hSome hNothing,
      List.length_nil] at hLengths
    exact hLengths

/- A group that is whole is empty only for an empty frame. -/
theorem SendsGroup.eq_nil_iff
    (hSize : 1 ≤ packetizer.maxPayloadSize)
    (hFew :
      packetizer.packetCount call.frameData ≤ 65535)
    (hGroup : call.SendsGroup session packetizer group)
    (hWhole : call.Whole packetizer group) :
    group = [] ↔ call.frameData = [] := by
  have hPayload := (hGroup.front hSize hFew).2.mp hWhole
  constructor
  · rintro rfl
    exact hPayload.symm
  · intro hEmpty
    rw [hEmpty] at hPayload
    exact
      Chunks.eq_nil_of_flatMap
        (hGroup.payload_ne_nil hSize) hPayload

------------------------------------------------------------
-- The Packets of a Run
------------------------------------------------------------

/-
  A run has sent a group of packets for each of its calls,
  and whole ones if and only if no call has failed.
-/
structure SendsGroups
    (sender : WebRtcMediaSender)
    (calls : List FrameCall)
    (groups : List (List RtpPacket)) : Prop where
  advances :
    sender.videoSession.Advances
      (Runs.run step sender calls).videoSession
      groups.flatten
  sends :
    List.Forall₂
      (SendsGroup sender.videoSession sender.packetizer)
      calls groups
  whole :
    Runs.AlongRun step
        (fun sender call => call.Succeeds sender) sender
        calls ↔
      List.Forall₂ (Whole sender.packetizer) calls groups

/- A run of calls that return has sent groups of packets. -/
theorem sendsGroups_run
    (hSize : 1 ≤ sender.packetizer.maxPayloadSize)
    {calls : List FrameCall}
    (hFew :
      ∀ call ∈ calls,
        sender.packetizer.packetCount call.frameData ≤
          65535)
    (hReturns :
      Runs.AlongRun step
        (fun sender call => call.Returns sender) sender
        calls) :
    ∃ groups, SendsGroups sender calls groups := by
  induction calls generalizing sender with
  | nil =>
      exact
        ⟨[], .refl _, .nil, iff_of_true trivial .nil⟩
  | cons call rest ih =>
      rcases hReturns with ⟨hCall, hRest⟩
      rcases sendsGroup hSize
          (hFew call List.mem_cons_self) hCall with
        ⟨group, hAdvances, hKind, hPacketizer, hGroup,
          hWhole⟩
      rw [← hPacketizer] at hSize hFew
      rcases ih hSize
          (fun other hOther =>
            hFew other (List.mem_cons_of_mem _ hOther))
          hRest with
        ⟨groups, hGroups⟩
      refine
        ⟨group :: groups, hAdvances.trans hGroups.advances,
          .cons hGroup ?_, ?_⟩
      · have hSides := hGroups.sends
        rw [hPacketizer] at hSides
        refine hSides.imp ?_
        rintro other others ⟨timestamp, hTimestamp, hFront⟩
        rw [hKind.unnumbered_eq] at hFront
        exact ⟨timestamp, hTimestamp, hFront⟩
      · have hIff := hGroups.whole
        rw [hPacketizer] at hIff
        rw [Runs.AlongRun, List.forall₂_cons]
        exact and_congr hWhole hIff

end FrameCall

end IsaWorkspace
