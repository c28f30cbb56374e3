import Mathlib.Data.List.Sort
import Mathlib.Data.List.SplitBy
import IsaWorkspace.Rtp.Codec
import IsaWorkspace.Rtp.FrameGroups

/-
  Frames from the packets that arrive.

  A run of frames is sent over one session, and its
  datagrams arrive in any order.  A receiver reads them as
  packets, puts them in the order of their numbers, and cuts
  them into frames, at the packets that are marked or where
  the timestamp changes.

  Main declarations:
    * `MediaReceiver.framesBy`
    * `MediaReceiver.inOrder_of_perm`
    * `FrameCall.framesBy_eq_iff`
    * `FrameCall.framesByMarker_iff`
    * `FrameCall.framesByTimestamp_iff`
-/

------------------------------------------------------------
-- Receivers
------------------------------------------------------------

namespace IsaWorkspace

namespace MediaReceiver

/- The datagrams that are packets. -/
def readPackets
    (datagrams : List Bytes) : List RtpPacket :=
  datagrams.filterMap fun datagram =>
    (RtpPacket.deserialize datagram).join

/- How many numbers after a first one a packet has. -/
def distance
    (first : UInt16)
    (packet : RtpPacket) : Nat :=
  (packet.sequenceNumber - first).toNat

/- A packet has no later number than another. -/
def NotLater
    (first : UInt16)
    (packet other : RtpPacket) : Prop :=
  distance first packet ≤ distance first other

instance
    (first : UInt16) :
    DecidableRel (NotLater first) :=
  fun packet other =>
    inferInstanceAs
      (Decidable
        (distance first packet ≤ distance first other))

instance
    (first : UInt16) :
    Std.Total (NotLater first) where
  total _ _ := Nat.le_total _ _

instance
    (first : UInt16) :
    IsTrans RtpPacket (NotLater first) where
  trans _ _ _ := Nat.le_trans

/- Packets in the order of their numbers, from a first on. -/
def inOrder
    (first : UInt16)
    (packets : List RtpPacket) : List RtpPacket :=
  packets.insertionSort (NotLater first)

/-
  The frames of the datagrams: a frame goes on as long as
  its packets stay together.
-/
def framesBy
    (together : RtpPacket → RtpPacket → Bool)
    (first : UInt16)
    (datagrams : List Bytes) : List Bytes :=
  ((inOrder first (readPackets datagrams)).splitBy
    together).map (List.flatMap RtpPacket.payload)

/- A frame goes on behind a packet that is not marked. -/
def unmarked
    (packet _next : RtpPacket) : Bool :=
  !packet.marker

/- A frame goes on while the timestamp is the same. -/
def sameTimestamp
    (packet next : RtpPacket) : Bool :=
  packet.timestamp == next.timestamp

------------------------------------------------------------
-- Order of Arrival
------------------------------------------------------------

/- Packets of the right version are read from datagrams. -/
theorem readPackets_serialize
    {packets : List RtpPacket}
    (hReadable :
      ∀ packet ∈ packets,
        packet.version = 2 ∧ packet.csrcCount = 0 ∧
          packet.payloadType < 128) :
    readPackets (packets.map RtpPacket.serialize) =
      packets := by
  induction packets with
  | nil => rfl
  | cons packet rest ih =>
      rcases hReadable packet List.mem_cons_self with
        ⟨hVersion, hCount, hType⟩
      rw [List.map_cons]
      unfold readPackets
      rw [List.filterMap_cons,
        RtpPacket.deserialize_serialize packet hVersion
          hCount hType]
      exact
        congrArg (packet :: ·)
          (ih fun other hOther =>
            hReadable other
              (List.mem_cons_of_mem _ hOther))

/-
  Numbers that follow each other from the first one put the
  packets in their order, if no number comes twice.
-/
theorem inOrder_of_perm
    {first : UInt16}
    {packets arrived : List RtpPacket}
    (hNumbered :
      packets.map RtpPacket.sequenceNumber =
        (List.range packets.length).map fun i =>
          first + UInt16.ofNat i)
    (hFew : packets.length ≤ 65536)
    (hArrived : arrived.Perm packets) :
    inOrder first arrived = packets := by
  have hDistances :
      packets.map (distance first) =
        List.range packets.length := by
    have hMapped :=
      congrArg
        (List.map fun number : UInt16 =>
          (number - first).toNat)
        hNumbered
    rw [List.map_map, List.map_map] at hMapped
    refine hMapped.trans
      ((List.map_congr_left ?_).trans (List.map_id _))
    intro i hIndex
    have hWord : i < 2 ^ 16 := by
      have hLess := List.mem_range.mp hIndex
      omega
    change (first + UInt16.ofNat i - first).toNat = i
    rw [UInt16.add_comm, UInt16.add_sub_cancel]
    exact UInt16.toNat_ofNat_of_lt' hWord
  have hApart : (packets.map (distance first)).Nodup := by
    rw [hDistances]
    exact List.nodup_range
  have hSorted : packets.Pairwise (NotLater first) := by
    have hRising :
        (packets.map (distance first)).Pairwise
          (· ≤ ·) := by
      rw [hDistances]
      exact List.pairwise_le_range
    rw [List.pairwise_map] at hRising
    exact hRising
  have hPerm :
      (inOrder first arrived).Perm packets :=
    (List.perm_insertionSort _ arrived).trans hArrived
  refine
    List.Perm.eq_of_pairwise ?_
      (List.pairwise_insertionSort (NotLater first) arrived)
      hSorted hPerm
  intro packet other hPacket hOther hLeft hRight
  exact
    List.inj_on_of_nodup_map hApart
      (hPerm.mem_iff.mp hPacket) hOther
      (Nat.le_antisymm hLeft hRight)

end MediaReceiver

------------------------------------------------------------
-- Marks and Timestamps
------------------------------------------------------------

namespace FrameCall

variable [BuildProfile]
variable {sender : WebRtcMediaSender}
variable {session : RtpSession}
variable {packetizer : VideoPacketizer}
variable {call : FrameCall} {group : List RtpPacket}

/-
  The packets of a whole frame are unmarked before the last
  one, unless the frame is a keyframe of several packets.
-/
theorem SendsGroup.isChain_unmarked_iff
    (hGroup : call.SendsGroup session packetizer group)
    (hWhole : call.Whole packetizer group) :
    (group.IsChain fun packet next =>
        MediaReceiver.unmarked packet next = true) ↔
      (call.isKeyframe = true →
        packetizer.packetCount call.frameData ≤ 1) := by
  rcases hGroup.getElem with ⟨timestamp, _, hPackets⟩
  unfold Whole at hWhole
  have hUnmarked :
      ∀ number (hNumber : number + 1 < group.length),
        (!group[number].marker) = !call.isKeyframe := by
    intro number hNumber
    have hSame :=
      congrArg RtpPacket.marker
        (hPackets number (Nat.lt_of_succ_lt hNumber)).2
    change group[number].marker = _ at hSame
    have hInside :
        ¬ number =
            packetizer.packetCount call.frameData - 1 := by
      omega
    rw [hSame]
    change
      (!(decide
            (number =
              packetizer.packetCount call.frameData - 1) ||
          call.isKeyframe)) =
        _
    rw [decide_eq_false hInside, Bool.false_or]
  rw [List.isChain_iff_getElem, ← hWhole]
  constructor
  · intro hChain hKey
    by_contra hMany
    have hFirst := hChain 0 (by omega)
    unfold MediaReceiver.unmarked at hFirst
    rw [hUnmarked 0 (by omega), hKey] at hFirst
    cases hFirst
  · intro hKey number hNumber
    unfold MediaReceiver.unmarked
    rw [hUnmarked number hNumber]
    cases hIs : call.isKeyframe with
    | false => rfl
    | true =>
        have hFew := hKey hIs
        omega

/- The packets of a frame have one timestamp. -/
theorem SendsGroup.isChain_sameTimestamp
    (hGroup : call.SendsGroup session packetizer group) :
    group.IsChain fun packet next =>
      MediaReceiver.sameTimestamp packet next = true := by
  rcases hGroup.getElem with ⟨timestamp, _, hPackets⟩
  rw [List.isChain_iff_getElem]
  intro number hNumber
  have hSame :=
    congrArg RtpPacket.timestamp
      (hPackets number (Nat.lt_of_succ_lt hNumber)).2
  have hNext :=
    congrArg RtpPacket.timestamp
      (hPackets (number + 1) hNumber).2
  exact beq_iff_eq.mpr (hSame.trans hNext.symm)

/- The last packet of a whole frame is marked. -/
theorem SendsGroup.unmarked_getLast
    (hGroup : call.SendsGroup session packetizer group)
    (hWhole : call.Whole packetizer group)
    (hSome : group ≠ [])
    (next : RtpPacket) :
    MediaReceiver.unmarked (group.getLast hSome) next =
      false := by
  rcases hGroup.getElem with ⟨timestamp, _, hPackets⟩
  unfold Whole at hWhole
  have hLast : group.length - 1 < group.length :=
    Nat.sub_one_lt (List.length_pos_iff.mpr hSome).ne'
  have hSame :=
    congrArg RtpPacket.marker
      (hPackets (group.length - 1) hLast).2
  change group[group.length - 1].marker = (_ || _) at hSame
  rw [← hWhole, decide_eq_true rfl, Bool.true_or] at hSame
  unfold MediaReceiver.unmarked
  rw [List.getLast_eq_getElem, hSame]
  rfl

/-
  Packets of two frames have one timestamp if and only if
  the frames have.
-/
theorem SendsGroup.sameTimestamp_iff
    {other : FrameCall}
    {others : List RtpPacket}
    (hGroup : call.SendsGroup session packetizer group)
    (hOthers : other.SendsGroup session packetizer others)
    {packet next : RtpPacket}
    (hPacket : packet ∈ group)
    (hNext : next ∈ others) :
    MediaReceiver.sameTimestamp packet next = true ↔
      WebRtcMediaSender.rtpTimestamp call.timestampUs =
        WebRtcMediaSender.rtpTimestamp
          other.timestampUs := by
  rcases hGroup.getElem with
    ⟨timestamp, hTimestamp, hPackets⟩
  rcases hOthers.getElem with
    ⟨following, hFollowing, hLater⟩
  rcases List.getElem_of_mem hPacket with
    ⟨number, hNumber, rfl⟩
  rcases List.getElem_of_mem hNext with
    ⟨count, hCount, rfl⟩
  have hOne :=
    congrArg RtpPacket.timestamp (hPackets number hNumber).2
  have hOther :=
    congrArg RtpPacket.timestamp (hLater count hCount).2
  change
    group[number].timestamp =
      session.timestampBase + timestamp
    at hOne
  change
    others[count].timestamp =
      session.timestampBase + following
    at hOther
  unfold MediaReceiver.sameTimestamp
  rw [beq_iff_eq, hOne, hOther, hTimestamp, hFollowing,
    UInt32.add_right_inj, Option.some_inj]

------------------------------------------------------------
-- Frames That Come Back
------------------------------------------------------------

/- Neighbouring groups that a receiver keeps apart. -/
def Apart
    (together : RtpPacket → RtpPacket → Bool)
    (group next : List RtpPacket) : Prop :=
  ∃ hGroup hNext,
    together (group.getLast hGroup) (next.head hNext) =
      false

variable {calls : List FrameCall}
variable {groups : List (List RtpPacket)}

/- The groups are whole if and only if they are the frames. -/
theorem forall_whole_iff
    (hSize : 1 ≤ packetizer.maxPayloadSize)
    (hSends :
      List.Forall₂
        (fun call group =>
          packetizer.packetCount call.frameData ≤ 65535 ∧
            SendsGroup session packetizer call group)
        calls groups) :
    List.Forall₂ (Whole packetizer) calls groups ↔
      groups.map (List.flatMap RtpPacket.payload) =
        calls.map frameData := by
  induction hSends with
  | nil => exact iff_of_true .nil rfl
  | cons hHead _ ih =>
      rw [List.forall₂_cons, List.map_cons, List.map_cons,
        List.cons.injEq, ← ih,
        (hHead.2.front hSize hHead.1).2]

/- What the groups carry are fronts of the frames. -/
theorem forall_front
    (hSize : 1 ≤ packetizer.maxPayloadSize)
    (hSends :
      List.Forall₂
        (fun call group =>
          packetizer.packetCount call.frameData ≤ 65535 ∧
            SendsGroup session packetizer call group)
        calls groups) :
    List.Forall₂ (· <+: ·)
      (groups.map (List.flatMap RtpPacket.payload))
      (calls.map frameData) := by
  induction hSends with
  | nil => exact .nil
  | cons hHead _ ih =>
      exact .cons (hHead.2.front hSize hHead.1).1 ih

/- What holds of the packets of a group holds of all. -/
theorem forall_packets
    {P : RtpPacket → Prop}
    (hSends :
      List.Forall₂ (SendsGroup session packetizer) calls
        groups)
    (hGroup :
      ∀ call group,
        SendsGroup session packetizer call group →
          ∀ packet ∈ group, P packet) :
    ∀ packet ∈ groups.flatten, P packet := by
  intro packet hPacket
  rcases List.mem_flatten.mp hPacket with
    ⟨group, hMember, hIn⟩
  exact
    Chunks.forall_mem_of_forall₂ hSends hGroup group hMember
      packet hIn

/- What comes back from groups that arrive in any order. -/
theorem framesBy_eq
    (together : RtpPacket → RtpPacket → Bool)
    (hType : sender.videoSession.payloadType < 128)
    (hFresh : sender.videoSession.datagrams = [])
    (hGroups : SendsGroups sender calls groups)
    (hFit : groups.flatten.length ≤ 65536)
    {arrived : List Bytes}
    (hArrived :
      arrived.Perm
        (Runs.run step sender
          calls).videoSession.datagrams) :
    MediaReceiver.framesBy together
        sender.videoSession.sequenceNumber arrived =
      (groups.flatten.splitBy together).map
        (List.flatMap RtpPacket.payload) := by
  have hReadable :
      ∀ packet ∈ groups.flatten,
        packet.version = 2 ∧ packet.csrcCount = 0 ∧
          packet.payloadType < 128 :=
    forall_packets hGroups.sends fun _ _ hGroup =>
      hGroup.readable hType
  rw [hGroups.advances.sent, hFresh, List.nil_append]
    at hArrived
  have hRead :
      (MediaReceiver.readPackets arrived).Perm
        groups.flatten := by
    have hPerm :=
      hArrived.filterMap fun datagram =>
        (RtpPacket.deserialize datagram).join
    rw [← MediaReceiver.readPackets_serialize hReadable]
    exact hPerm
  unfold MediaReceiver.framesBy
  rw [MediaReceiver.inOrder_of_perm hGroups.advances.numbered
    hFit hRead]

/-
  The frames come back if and only if every group is whole,
  and a receiver cuts the packets between the groups and
  nowhere else.
-/
theorem framesBy_eq_iff
    (together : RtpPacket → RtpPacket → Bool)
    (hSize : 1 ≤ sender.packetizer.maxPayloadSize)
    (hFew :
      ∀ call ∈ calls,
        sender.packetizer.packetCount call.frameData ≤
          65535)
    (hGroups : SendsGroups sender calls groups) :
    (groups.flatten.splitBy together).map
          (List.flatMap RtpPacket.payload) =
        calls.map frameData ↔
      List.Forall₂ (Whole sender.packetizer) calls groups ∧
        [] ∉ groups ∧
        (∀ group ∈ groups,
          group.IsChain fun packet next =>
            together packet next = true) ∧
        groups.IsChain (Apart together) := by
  have hSends :=
    (List.forall₂_and_left _ _).mpr
      ⟨hFew, hGroups.sends⟩
  have hWhole := forall_whole_iff hSize hSends
  have hSome :
      ∀ packet ∈ groups.flatten, packet.payload ≠ [] :=
    forall_packets hGroups.sends fun _ _ hGroup =>
      hGroup.payload_ne_nil hSize
  have hCarried :
      ∀ cut : List (List RtpPacket),
        (cut.map (List.flatMap RtpPacket.payload)).flatten =
          cut.flatten.flatMap RtpPacket.payload := by
    intro cut
    rw [← @List.flatMap_id _ cut, List.flatMap_assoc]
    rfl
  constructor
  · intro hFrames
    have hBytes :
        (groups.map
            (List.flatMap RtpPacket.payload)).flatten =
          (calls.map frameData).flatten := by
      rw [← hFrames, hCarried, hCarried,
        List.flatten_splitBy]
    have hAll :=
      Chunks.eq_of_fronts (forall_front hSize hSends)
        (hBytes ▸ Nat.le_refl _)
    have hCut :
        groups.flatten.splitBy together = groups := by
      apply Chunks.eq_of_flatMap_eq (f := RtpPacket.payload)
      · rw [List.flatten_splitBy]
        exact hSome
      · exact List.flatten_splitBy _ _
      · exact hFrames.trans hAll.symm
    exact
      ⟨hWhole.mpr hAll, (List.splitBy_eq_iff.mp hCut).2⟩
  · rintro ⟨hAll, hNone, hTogether, hApart⟩
    rw [List.splitBy_flatten hNone hTogether hApart]
    exact hWhole.mp hAll

omit [BuildProfile] in
/- So many packets are enough for so many bytes. -/
theorem packetCount_le_iff
    (hSize : 1 ≤ packetizer.maxPayloadSize)
    {number : Nat} :
    packetizer.packetCount call.frameData ≤ number ↔
      call.frameData.length ≤
        number * packetizer.maxPayloadSize := by
  have hMore :
      number < packetizer.packetCount call.frameData ↔
        number * packetizer.maxPayloadSize <
          call.frameData.length :=
    Paging.lt_pageCount_iff hSize
  omega

/- A sender that was just created, and connected. -/
def connected
    (localSsrc timestampBase : UInt32)
    (videoAddr : SocketAddr) : WebRtcMediaSender :=
  (WebRtcMediaSender.new localSsrc timestampBase).setRemote
    videoAddr ⟨[]⟩

/- A group that is whole, of a frame that fits. -/
structure Complete
    (session : RtpSession)
    (packetizer : VideoPacketizer)
    (call : FrameCall)
    (group : List RtpPacket) : Prop where
  few : packetizer.packetCount call.frameData ≤ 65535
  sends : call.SendsGroup session packetizer group
  whole : call.Whole packetizer group

/- A group of a frame that is not empty is not empty. -/
theorem Complete.ne_nil
    (hSize : 1 ≤ packetizer.maxPayloadSize)
    (hGroup : Complete session packetizer call group)
    (hSome : call.frameData ≠ []) :
    group ≠ [] :=
  fun hNil =>
    hSome
      ((hGroup.sends.eq_nil_iff hSize hGroup.few
        hGroup.whole).mp hNil)

/-
  The frames of a run come back if and only if no call has
  failed, no frame is empty, and the packets are cut between
  the groups and nowhere else.
-/
theorem framesBy_connected_iff
    (together : RtpPacket → RtpPacket → Bool)
    (localSsrc timestampBase : UInt32)
    (videoAddr : SocketAddr)
    {calls : List FrameCall}
    {arrived : List Bytes}
    (hFits :
      ∀ call ∈ calls,
        call.frameData.length ≤ 65535 * 1200)
    (hReturns :
      Runs.AlongRun step
        (fun sender call => call.Returns sender)
        (connected localSsrc timestampBase videoAddr)
        calls)
    (hArrived :
      arrived.Perm
        (Runs.run step
          (connected localSsrc timestampBase videoAddr)
          calls).videoSession.datagrams)
    (hFew : arrived.length ≤ 65536)
    (tells : Prop)
    (hTells :
      ∀ groups,
        List.Forall₂
            (Complete
              (connected localSsrc timestampBase
                videoAddr).videoSession .default)
            calls groups →
          (∀ call ∈ calls, call.frameData ≠ []) →
            ((∀ group ∈ groups,
                group.IsChain fun packet next =>
                  together packet next = true) ∧
                groups.IsChain (Apart together) ↔
              tells)) :
    MediaReceiver.framesBy together 0 arrived =
        calls.map frameData ↔
      Runs.AlongRun step
          (fun sender call => call.Succeeds sender)
          (connected localSsrc timestampBase videoAddr)
          calls ∧
        (∀ call ∈ calls, call.frameData ≠ []) ∧ tells := by
  have hSize : 1 ≤ VideoPacketizer.default.maxPayloadSize :=
    by decide
  have hCounts :
      ∀ call ∈ calls,
        VideoPacketizer.default.packetCount call.frameData ≤
          65535 := fun call hCall =>
    (packetCount_le_iff hSize).mpr (hFits call hCall)
  rcases sendsGroups_run hSize hCounts hReturns with
    ⟨groups, hGroups⟩
  have hLength : groups.flatten.length ≤ 65536 := by
    have hDatagrams := hArrived.length_eq
    rw [hGroups.advances.sent, List.length_append,
      List.length_map] at hDatagrams
    omega
  have hType : (96 : UInt8) < 128 := by
    decide
  have hBack :=
    framesBy_eq together hType rfl hGroups hLength hArrived
  have hIff :=
    framesBy_eq_iff together hSize hCounts hGroups
  change
    MediaReceiver.framesBy together 0 arrived = _ at hBack
  rw [hBack, hIff, hGroups.whole]
  apply and_congr_right
  intro hWhole
  have hComplete :
      List.Forall₂
        (Complete
          (connected localSsrc timestampBase
            videoAddr).videoSession .default)
        calls groups := by
    have hSends :=
      (List.forall₂_and_left _ _).mpr
        ⟨hCounts, hGroups.sends⟩
    exact
      hSends.mp
        (fun _ _ hGroup hAll =>
          ⟨hGroup.1, hGroup.2, hAll⟩)
        hWhole
  have hEmpty :
      [] ∉ groups ↔
        ∀ call ∈ calls, call.frameData ≠ [] := by
    rw [Chunks.forall_mem_iff_of_forall₂
      (P := fun call : FrameCall => call.frameData ≠ [])
      (Q := fun group : List RtpPacket => group ≠ [])
      hComplete
      fun _ _ hGroup =>
        not_congr
          (hGroup.sends.eq_nil_iff hSize hGroup.few
            hGroup.whole).symm]
    exact
      ⟨fun hNone group hGroup hNil => hNone (hNil ▸ hGroup),
        fun hSome hNone => hSome [] hNone rfl⟩
  rw [hEmpty]
  apply and_congr_right
  intro hSome
  exact hTells groups hComplete hSome

/-
  Whatever arrives in whatever order, the frames of a run
  come back by their marked packets if and only if no call
  has failed, no frame is empty and no keyframe needs more
  than one packet.
-/
theorem framesByMarker_iff
    (localSsrc timestampBase : UInt32)
    (videoAddr : SocketAddr)
    (calls : List FrameCall)
    (arrived : List Bytes)
    (hFits :
      ∀ call ∈ calls,
        call.frameData.length ≤ 65535 * 1200)
    (hReturns :
      Runs.AlongRun step
        (fun sender call => call.Returns sender)
        (connected localSsrc timestampBase videoAddr)
        calls)
    (hArrived :
      arrived.Perm
        (Runs.run step
          (connected localSsrc timestampBase videoAddr)
          calls).videoSession.datagrams)
    (hFew : arrived.length ≤ 65536) :
    MediaReceiver.framesBy MediaReceiver.unmarked 0
          arrived =
        calls.map frameData ↔
      Runs.AlongRun step
          (fun sender call => call.Succeeds sender)
          (connected localSsrc timestampBase videoAddr)
          calls ∧
        ∀ call ∈ calls,
          call.frameData ≠ [] ∧
            (call.isKeyframe = true →
              call.frameData.length ≤ 1200) := by
  rw [framesBy_connected_iff MediaReceiver.unmarked
    localSsrc timestampBase videoAddr hFits hReturns
    hArrived hFew
    (∀ call ∈ calls, call.isKeyframe = true →
      call.frameData.length ≤ 1200)]
  · rw [forall₂_and]
  intro groups hComplete hSome
  have hKeys :
      (∀ call ∈ calls, call.isKeyframe = true →
          call.frameData.length ≤ 1200) ↔
        ∀ group ∈ groups,
          group.IsChain fun packet next =>
            MediaReceiver.unmarked packet next = true := by
    apply Chunks.forall_mem_iff_of_forall₂ hComplete
    intro call group hGroup
    rw [hGroup.sends.isChain_unmarked_iff hGroup.whole,
      packetCount_le_iff (by decide)]
    rfl
  have hMarked :
      groups.IsChain (Apart MediaReceiver.unmarked) := by
    apply
      Chunks.isChain_of_forall₂
        ((List.forall₂_and_left _ _).mpr
          ⟨hSome, hComplete⟩)
    rintro call group next others ⟨hData, hGroup⟩
      ⟨hNext, hOthers⟩
    have hFirst := hGroup.ne_nil (by decide) hData
    have hSecond := hOthers.ne_nil (by decide) hNext
    exact
      ⟨hFirst, hSecond,
        hGroup.sends.unmarked_getLast hGroup.whole hFirst _⟩
  rw [hKeys]
  exact and_iff_left hMarked

/-
  They come back by their timestamps if and only if no call
  has failed, no frame is empty, and no two frames in a row
  have one timestamp.
-/
theorem framesByTimestamp_iff
    (localSsrc timestampBase : UInt32)
    (videoAddr : SocketAddr)
    (calls : List FrameCall)
    (arrived : List Bytes)
    (hFits :
      ∀ call ∈ calls,
        call.frameData.length ≤ 65535 * 1200)
    (hReturns :
      Runs.AlongRun step
        (fun sender call => call.Returns sender)
        (connected localSsrc timestampBase videoAddr)
        calls)
    (hArrived :
      arrived.Perm
        (Runs.run step
          (connected localSsrc timestampBase videoAddr)
          calls).videoSession.datagrams)
    (hFew : arrived.length ≤ 65536) :
    MediaReceiver.framesBy MediaReceiver.sameTimestamp 0
          arrived =
        calls.map frameData ↔
      Runs.AlongRun step
          (fun sender call => call.Succeeds sender)
          (connected localSsrc timestampBase videoAddr)
          calls ∧
        (∀ call ∈ calls, call.frameData ≠ []) ∧
        calls.IsChain fun call next =>
          WebRtcMediaSender.rtpTimestamp call.timestampUs ≠
            WebRtcMediaSender.rtpTimestamp
              next.timestampUs := by
  apply
    framesBy_connected_iff MediaReceiver.sameTimestamp
      localSsrc timestampBase videoAddr hFits hReturns
      hArrived hFew
  intro groups hComplete hSome
  have hTogether :
      ∀ group ∈ groups,
        group.IsChain fun packet next =>
          MediaReceiver.sameTimestamp packet next =
            true :=
    Chunks.forall_mem_of_forall₂ hComplete
      fun _ _ hGroup => hGroup.sends.isChain_sameTimestamp
  have hApart :
      (calls.IsChain fun call next =>
          WebRtcMediaSender.rtpTimestamp call.timestampUs ≠
            WebRtcMediaSender.rtpTimestamp
              next.timestampUs) ↔
        groups.IsChain
          (Apart MediaReceiver.sameTimestamp) := by
    apply
      Chunks.isChain_iff_of_forall₂
        ((List.forall₂_and_left _ _).mpr
          ⟨hSome, hComplete⟩)
    rintro call group next others ⟨hData, hGroup⟩
      ⟨hNext, hOthers⟩
    have hFirst := hGroup.ne_nil (by decide) hData
    have hSecond := hOthers.ne_nil (by decide) hNext
    have hSame :=
      hGroup.sends.sameTimestamp_iff hOthers.sends
        (List.getLast_mem hFirst) (List.head_mem hSecond)
    rw [Ne, ← not_congr hSame, Bool.not_eq_true]
    exact
      ⟨fun hDiffer => ⟨hFirst, hSecond, hDiffer⟩,
        fun ⟨_, _, hDiffer⟩ => hDiffer⟩
  rw [hApart]
  exact and_iff_right hTogether

end FrameCall

/- A keyframe and another frame, two hundredths later. -/
namespace ReassemblySample

open FrameCall

scoped instance : BuildProfile :=
  ⟨true⟩

def calls : List FrameCall :=
  [⟨2, fun _ => .ok 15, [1, 2, 3], 0, true⟩,
    ⟨2, fun _ => .ok 13, [4], 20000, false⟩]

def sender : WebRtcMediaSender :=
  connected 12345 1000 (.v4 ⟨⟨127, 0, 0, 1⟩, 5004⟩)

/- The second datagram arrives first. -/
def arrived : List Bytes :=
  (Runs.run step sender
    calls).videoSession.datagrams.reverse

theorem succeeds_calls :
    Runs.AlongRun step
      (fun sender call => call.Succeeds sender) sender
      calls :=
  ⟨rfl, rfl, trivial⟩

theorem returns_calls :
    Runs.AlongRun step
      (fun sender call => call.Returns sender) sender
      calls :=
  succeeds_calls.mono fun _ _ hCall => hCall.returns

theorem framesByMarker_sample :
    MediaReceiver.framesBy MediaReceiver.unmarked 0
        arrived =
      [[1, 2, 3], [4]] :=
  (framesByMarker_iff 12345 1000
    (.v4 ⟨⟨127, 0, 0, 1⟩, 5004⟩) calls arrived (by decide)
    returns_calls (List.reverse_perm _) (by decide)).mpr
    ⟨succeeds_calls, by decide⟩

theorem framesByTimestamp_sample :
    MediaReceiver.framesBy MediaReceiver.sameTimestamp 0
        arrived =
      [[1, 2, 3], [4]] :=
  (framesByTimestamp_iff 12345 1000
    (.v4 ⟨⟨127, 0, 0, 1⟩, 5004⟩) calls arrived (by decide)
    returns_calls (List.reverse_perm _) (by decide)).mpr
    ⟨succeeds_calls, by decide, by decide⟩

end ReassemblySample

end IsaWorkspace
