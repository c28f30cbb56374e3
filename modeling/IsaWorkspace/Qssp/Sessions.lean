import IsaWorkspace.Foundations.Runs
import IsaWorkspace.Qssp.Delivery
import Mathlib.Data.List.Nodup
import Mathlib.Data.List.Perm.Subperm

/-
  A transfer session.

  A sender makes call after call, each of which opens a
  stream of its own.  The receiver hands each stream to a
  task, and the tasks finish in any order: what has arrived
  is read off the calls whose streams were handled, in the
  order in which they were.

  Main declarations:
    * `SenderCall`, `QSSPSender.perform`
    * `SeparateUniStreams`, `OwnStream`
    * `QSSPSender.streamsOf`, `QSSPSender.performAll_ok`
    * `QSSPReceiver.receive`, `Received`
    * `received_of_session`
-/

------------------------------------------------------------
-- Calls of a Sender
------------------------------------------------------------

namespace IsaWorkspace

/- The sending calls of a sender. -/
inductive SenderCall where
  | sendCpuState (cpuState : CPUState)
  | sendMemoryPages
      (now : Instant)
      (pages : List MemoryPage)
      (regionId : String)
      (baseOffset : UInt64)
      (isHot : Bool)
  | sendManifest (manifest : MemoryManifest)
  | sendTransferComplete (now : Instant)

namespace QSSPSender

variable {C : Type} [UniStreams C]

/- Send one message on a stream of its own. -/
def sendMessage
    (messageType : MessageType)
    (what : String)
    (encoded : Except String Bytes) :
    Exec (QSSPSender C) QSSPError Unit := do
  let stream ←
    onConnection .connectionError UniStreams.openUni
  let payload ←
    Exec.ofExcept
      (fun message =>
        .serializationError (what ++ ": " ++ message))
      encoded
  onConnection .ioError
    (UniStreams.writeAll stream
      (Message.new messageType payload).serialize)
  onConnection .ioError (UniStreams.finish stream)

/- Send CPU state on stream 1. -/
def sendCpuState
    [SerdeJson CPUState]
    (cpuState : CPUState) :
    Exec (QSSPSender C) QSSPError Unit :=
  sendMessage .cpuState "CPU state"
    (SerdeJson.toVec cpuState)

/- Send memory manifest. -/
def sendManifest
    [SerdeJson MemoryManifest]
    (manifest : MemoryManifest) :
    Exec (QSSPSender C) QSSPError Unit :=
  sendMessage .memoryManifest "Manifest"
    (SerdeJson.toVec manifest)

/-
  Send transfer complete notification.  Its payload is
  empty and cannot fail to be encoded.
-/
def sendTransferComplete
    (now : Instant) :
    Exec (QSSPSender C) QSSPError Unit := do
  sendMessage .transferComplete "" (.ok [])
  onStats
    (Exec.update fun stats =>
      { stats with endTime := some now })

variable [BuildProfile]
variable [SerdeJson CPUState] [SerdeJson MemoryPageMessage]
variable [SerdeJson MemoryManifest]

def perform :
    SenderCall → Exec (QSSPSender C) QSSPError Unit
| .sendCpuState cpuState => sendCpuState cpuState
| .sendMemoryPages now pages regionId baseOffset isHot =>
    sendMemoryPages now pages regionId baseOffset isHot
| .sendManifest manifest => sendManifest manifest
| .sendTransferComplete now => sendTransferComplete now

/- One call after the other, up to the first that fails. -/
def performAll :
    List SenderCall → Exec (QSSPSender C) QSSPError Unit
| [] => pure ()
| call :: rest => do
    perform call
    performAll rest

/- The stream that a call opens. -/
def streamOf
    (sender : QSSPSender C) : Option Nat :=
  match UniStreams.openUni sender.connection with
  | (.ok stream, _) => some stream
  | _ => none

/- The streams that the calls open, one after the other. -/
def streamsOf :
    List SenderCall → QSSPSender C → List Nat
| [], _ => []
| call :: rest, sender =>
    sender.streamOf.toList ++
      streamsOf rest (perform call sender).2

end QSSPSender

end IsaWorkspace

------------------------------------------------------------
-- Streams Apart
------------------------------------------------------------

namespace IsaWorkspace

/-
  A stream is new when it is opened, stays open from then on
  and is not written to by way of another stream.
-/
class SeparateUniStreams (C : Type) extends
    LawfulUniStreams C where
  isOpen : C → Nat → Prop
  fresh_of_open :
    ∀ {connection connection' : C} {stream : Nat},
      openUni connection = (.ok stream, connection') →
        ¬ isOpen connection stream ∧
          isOpen connection' stream
  apart_of_open :
    ∀ {connection connection' : C} {stream other : Nat},
      openUni connection = (.ok stream, connection') →
        isOpen connection other →
          isOpen connection' other ∧
            sent connection' other = sent connection other
  apart_of_write :
    ∀ {connection connection' : C} {stream other : Nat}
      {data : Bytes},
      writeAll stream data connection =
          (.ok (), connection') →
        isOpen connection other →
          isOpen connection' other ∧
            (other ≠ stream →
              sent connection' other =
                sent connection other)
  apart_of_finish :
    ∀ {connection connection' : C} {stream other : Nat},
      finish stream connection = (.ok (), connection') →
        isOpen connection other →
          isOpen connection' other ∧
            sent connection' other = sent connection other

open LawfulUniStreams (sent)
open SeparateUniStreams (isOpen)

/-
  Open streams stay open, and those other than one of them
  have been sent what they had been sent before.
-/
def OnlyOn
    {C : Type}
    [SeparateUniStreams C]
    (stream : Nat)
    (before after : C) : Prop :=
  ∀ other, isOpen before other →
    isOpen after other ∧
      (other ≠ stream →
        sent after other = sent before other)

namespace OnlyOn

variable {C : Type} [SeparateUniStreams C]
variable {before middle after : C} {stream : Nat}

theorem refl
    (stream : Nat)
    (connection : C) :
    OnlyOn stream connection connection :=
  fun _ hOpen => ⟨hOpen, fun _ => rfl⟩

theorem trans
    (hFirst : OnlyOn stream before middle)
    (hSecond : OnlyOn stream middle after) :
    OnlyOn stream before after := by
  intro other hOpen
  rcases hFirst other hOpen with ⟨hMiddle, hFirstSame⟩
  rcases hSecond other hMiddle with ⟨hAfter, hSecondSame⟩
  refine ⟨hAfter, ?_⟩
  intro hOther
  rw [hSecondSame hOther, hFirstSame hOther]

theorem of_open
    (hOpened :
      UniStreams.openUni before = (.ok stream, after)) :
    OnlyOn stream before after := by
  intro other hOpen
  rcases SeparateUniStreams.apart_of_open hOpened hOpen with
    ⟨hStill, hSame⟩
  exact ⟨hStill, fun _ => hSame⟩

theorem of_write
    {data : Bytes}
    (hWritten :
      UniStreams.writeAll stream data before =
        (.ok (), after)) :
    OnlyOn stream before after := by
  intro other hOpen
  exact SeparateUniStreams.apart_of_write hWritten hOpen

theorem of_finish
    (hFinished :
      UniStreams.finish stream before = (.ok (), after)) :
    OnlyOn stream before after := by
  intro other hOpen
  rcases SeparateUniStreams.apart_of_finish hFinished hOpen
    with ⟨hStill, hSame⟩
  exact ⟨hStill, fun _ => hSame⟩

end OnlyOn

end IsaWorkspace

------------------------------------------------------------
-- What Is Sent
------------------------------------------------------------

namespace IsaWorkspace

section Sending

open LawfulUniStreams (sent)
open SeparateUniStreams (isOpen)
open QSSPSender (frame IsPayload)

variable {C : Type} [SeparateUniStreams C]

/- A stream that was opened and used between two states. -/
structure OwnStream
    (stream : Nat)
    (before after : C) : Prop where
  fresh : ¬ isOpen before stream
  stays : isOpen after stream
  apart : OnlyOn stream before after

theorem OwnStream.of_open
    {stream : Nat}
    {before after : C}
    (hOpened :
      UniStreams.openUni before = (.ok stream, after)) :
    OwnStream stream before after where
  fresh := (SeparateUniStreams.fresh_of_open hOpened).1
  stays := (SeparateUniStreams.fresh_of_open hOpened).2
  apart := OnlyOn.of_open hOpened

theorem OwnStream.used
    {stream : Nat}
    {before middle after : C}
    (hOwn : OwnStream stream before middle)
    (hUse : OnlyOn stream middle after) :
    OwnStream stream before after where
  fresh := hOwn.fresh
  stays := (hUse stream hOwn.stays).1
  apart := hOwn.apart.trans hUse

namespace QSSPSender

variable {sender sender' : QSSPSender C}

/- A message is all that its stream has been sent. -/
theorem sendMessage_ok
    {messageType : MessageType}
    {what : String}
    {encoded : Except String Bytes}
    (hOk :
      sendMessage messageType what encoded sender =
        (.ok (), sender')) :
    ∃ stream payload,
      sender.streamOf = some stream ∧
        encoded = .ok payload ∧
        sent sender'.connection stream =
          (Message.new messageType payload).serialize ∧
        OwnStream stream sender.connection
          sender'.connection := by
  rcases Exec.of_bind_ok hOk with
    ⟨stream, opened, hOpen, hRest⟩
  rcases of_onConnection_ok hOpen with ⟨hOpened, _⟩
  rcases Exec.of_bind_ok hRest with
    ⟨payload, encodedAt, hEncode, hSend⟩
  rcases Exec.of_ofExcept_ok hEncode with ⟨hPayload, rfl⟩
  rcases Exec.of_bind_ok hSend with
    ⟨_, written, hWrite, hFinish⟩
  rcases of_onConnection_ok hWrite with ⟨hWritten, _⟩
  rcases of_onConnection_ok hFinish with ⟨hFinished, _⟩
  refine ⟨stream, payload, ?_, hPayload, ?_, ?_⟩
  · unfold streamOf
    rw [hOpened]
  · rw [LawfulUniStreams.sent_of_finish hFinished,
      LawfulUniStreams.sent_of_write hWritten,
      LawfulUniStreams.sent_of_open hOpened,
      List.nil_append]
  · exact
      ((OwnStream.of_open hOpened).used
        (OnlyOn.of_write hWritten)).used
          (OnlyOn.of_finish hFinished)

section Pages

variable [BuildProfile] [SerdeJson MemoryPageMessage]

/- Pages are written to one stream only. -/
theorem onlyOn_of_sendPage
    {stream : Nat}
    {regionId : String}
    {pageOffset : UInt64}
    {isHot : Bool}
    {page : MemoryPage}
    (hOk :
      sendPage stream regionId pageOffset isHot page sender =
        (.ok (), sender')) :
    OnlyOn stream sender.connection sender'.connection := by
  rcases Exec.of_bind_ok hOk with
    ⟨payload, encoded, hEncode, hRest⟩
  rcases Exec.of_ofExcept_ok hEncode with ⟨_, rfl⟩
  rcases Exec.of_bind_ok hRest with
    ⟨_, written, hWrite, hCount⟩
  rcases of_onConnection_ok hWrite with ⟨hWritten, _⟩
  rcases Exec.of_onPart_ok hCount with ⟨stats, _, rfl⟩
  exact OnlyOn.of_write hWritten

theorem onlyOn_of_sendPagesFrom
    {stream : Nat}
    {regionId : String}
    {baseOffset : UInt64}
    {isHot : Bool}
    {index : Nat}
    {pages : List MemoryPage}
    (hOk :
      sendPagesFrom stream regionId baseOffset isHot index
          pages sender =
        (.ok (), sender')) :
    OnlyOn stream sender.connection sender'.connection := by
  induction pages generalizing sender index with
  | nil =>
      cases hOk
      exact OnlyOn.refl stream _
  | cons page rest ih =>
      rcases Exec.of_bind_ok hOk with
        ⟨pageOffset, placed, hOffset, hSend⟩
      rcases Exec.of_orPanic_ok hOffset with ⟨_, rfl⟩
      rcases Exec.of_bind_ok hSend with
        ⟨_, afterPage, hPage, hRest⟩
      exact (onlyOn_of_sendPage hPage).trans (ih hRest)

theorem ownStream_of_sendMemoryPages
    {now : Instant}
    {pages : List MemoryPage}
    {regionId : String}
    {baseOffset : UInt64}
    {isHot : Bool}
    (hOk :
      sendMemoryPages now pages regionId baseOffset isHot
          sender =
        (.ok (), sender')) :
    ∃ stream opened,
      UniStreams.openUni sender.connection =
          (.ok stream, opened) ∧
        OwnStream stream sender.connection
          sender'.connection := by
  rcases Exec.of_bind_ok hOk with
    ⟨stream, withStream, hOpening, hStart⟩
  rcases of_onConnection_ok hOpening with ⟨hOpened, _⟩
  rcases Exec.of_bind_ok hStart with
    ⟨_, started, hStarted, hPages⟩
  cases hStarted
  rcases Exec.of_bind_ok hPages with
    ⟨_, afterPages, hSending, hFinish⟩
  rcases of_onConnection_ok hFinish with ⟨hFinished, _⟩
  have hOwn :
      OwnStream stream sender.connection
        withStream.connection :=
    OwnStream.of_open hOpened
  have hWritten := onlyOn_of_sendPagesFrom hSending
  exact
    ⟨stream, withStream.connection, hOpened,
      (hOwn.used hWritten).used (OnlyOn.of_finish hFinished)⟩

end Pages

end QSSPSender

variable [SerdeJson CPUState] [SerdeJson MemoryPageMessage]
variable [SerdeJson MemoryManifest]

namespace SenderCall

/- The bytes of a stream that belongs to a call. -/
def Carries
    (bytes : Bytes) : SenderCall → Prop
| .sendCpuState cpuState =>
    ∃ payload,
      SerdeJson.toVec cpuState = .ok payload ∧
        bytes = (Message.new .cpuState payload).serialize
| .sendMemoryPages _ pages regionId _ _ =>
    ∃ payloads,
      List.Forall₂ (IsPayload regionId) pages payloads ∧
        bytes = payloads.flatMap frame
| .sendManifest manifest =>
    ∃ payload,
      SerdeJson.toVec manifest = .ok payload ∧
        bytes =
          (Message.new .memoryManifest payload).serialize
| .sendTransferComplete _ =>
    bytes = (Message.new .transferComplete []).serialize

end SenderCall

namespace QSSPSender

variable [BuildProfile]
variable {sender sender' : QSSPSender C}

/-
  A call that succeeds has sent what it was for on a stream
  of its own.
-/
theorem perform_ok
    {call : SenderCall}
    (hOk : perform call sender = (.ok (), sender')) :
    ∃ stream,
      sender.streamOf = some stream ∧
        call.Carries (sent sender'.connection stream) ∧
        OwnStream stream sender.connection
          sender'.connection := by
  cases call with
  | sendCpuState cpuState =>
      rcases sendMessage_ok hOk with
        ⟨stream, payload, hStream, hPayload, hSent, hOwn⟩
      exact ⟨stream, hStream, ⟨payload, hPayload, hSent⟩, hOwn⟩
  | sendMemoryPages now pages regionId baseOffset isHot =>
      rcases ownStream_of_sendMemoryPages hOk with
        ⟨stream, opened, hOpen, hOwn⟩
      rcases sendMemoryPages_ok hOpen hOk with
        ⟨payloads, hPayloads, hSent, _⟩
      refine ⟨stream, ?_, ⟨payloads, hPayloads, hSent⟩, hOwn⟩
      unfold streamOf
      rw [hOpen]
  | sendManifest manifest =>
      rcases sendMessage_ok hOk with
        ⟨stream, payload, hStream, hPayload, hSent, hOwn⟩
      exact ⟨stream, hStream, ⟨payload, hPayload, hSent⟩, hOwn⟩
  | sendTransferComplete now =>
      rcases Exec.of_bind_ok hOk with
        ⟨_, afterMessage, hMessage, hStats⟩
      cases hStats
      rcases sendMessage_ok hMessage with
        ⟨stream, payload, hStream, hPayload, hSent, hOwn⟩
      cases hPayload
      exact ⟨stream, hStream, hSent, hOwn⟩

/- A later call leaves what an open stream was sent. -/
theorem performAll_keeps
    {calls : List SenderCall}
    (hOk : performAll calls sender = (.ok (), sender'))
    {other : Nat}
    (hOpen : isOpen sender.connection other) :
    isOpen sender'.connection other ∧
      sent sender'.connection other =
        sent sender.connection other := by
  induction calls generalizing sender with
  | nil =>
      cases hOk
      exact ⟨hOpen, rfl⟩
  | cons call rest ih =>
      rcases Exec.of_bind_ok hOk with
        ⟨_, after, hCall, hRest⟩
      rcases perform_ok hCall with
        ⟨stream, _, _, hOwn⟩
      rcases hOwn.apart other hOpen with ⟨hAfter, hSame⟩
      have hOther : other ≠ stream := by
        rintro rfl
        exact hOwn.fresh hOpen
      rcases ih hRest hAfter with ⟨hStill, hLater⟩
      exact ⟨hStill, hLater.trans (hSame hOther)⟩

/-
  After calls that all succeed there is one stream for each,
  no two of them the same, that carries what the call sent.
-/
theorem performAll_ok
    {calls : List SenderCall}
    (hOk : performAll calls sender = (.ok (), sender')) :
    (streamsOf calls sender).Nodup ∧
      (∀ stream ∈ streamsOf calls sender,
        ¬ isOpen sender.connection stream) ∧
      List.Forall₂
        (fun call stream =>
          call.Carries (sent sender'.connection stream))
        calls (streamsOf calls sender) := by
  induction calls generalizing sender with
  | nil =>
      refine ⟨List.nodup_nil, ?_, List.Forall₂.nil⟩
      intro stream hStream
      cases hStream
  | cons call rest ih =>
      rcases Exec.of_bind_ok hOk with
        ⟨_, after, hCall, hRest⟩
      rcases perform_ok hCall with
        ⟨stream, hStream, hCarries, hOwn⟩
      rcases ih hRest with ⟨hNodup, hFresh, hOthers⟩
      have hAfter : (perform call sender).2 = after := by
        rw [hCall]
      have hStreams :
          streamsOf (call :: rest) sender =
            stream :: streamsOf rest after := by
        rw [streamsOf, hStream, hAfter]
        rfl
      rcases performAll_keeps hRest hOwn.stays with
        ⟨_, hSame⟩
      rw [hStreams]
      refine ⟨List.nodup_cons.mpr ⟨?_, hNodup⟩, ?_, ?_⟩
      · intro hAgain
        exact hFresh stream hAgain hOwn.stays
      · intro other hOther
        rcases List.mem_cons.mp hOther with rfl | hLater
        · exact hOwn.fresh
        · intro hOpen
          exact
            hFresh other hLater
              (hOwn.apart other hOpen).1
      · refine List.Forall₂.cons ?_ hOthers
        rw [hSame]
        exact hCarries

end QSSPSender

end Sending

end IsaWorkspace

------------------------------------------------------------
-- What Is Received
------------------------------------------------------------

namespace IsaWorkspace

/- A message is at least a header. -/
theorem Message.serialize_append_ne_nil
    (message : Message)
    (rest : Bytes) :
    message.serialize ++ rest ≠ [] := by
  intro hNil
  have hLength := congrArg List.length hNil
  unfold serialize at hLength
  rw [List.length_append, List.length_append,
    MessageHeader.serialize_length, List.length_nil]
    at hLength
  omega

section Receiving

open QSSPSender (frame IsPayload)

variable [SerdeJson CPUState] [SerdeJson MemoryPageMessage]
variable [SerdeJson MemoryManifest]

/- What is sent as JSON is read back. -/
structure MessagesRoundTrip : Prop where
  cpuState :
    ∀ (state : CPUState) (payload : Bytes),
      SerdeJson.toVec state = .ok payload →
        SerdeJson.fromSlice payload = .ok state
  pages : PagesRoundTrip
  manifest :
    ∀ (manifest : MemoryManifest) (payload : Bytes),
      SerdeJson.toVec manifest = .ok payload →
        SerdeJson.fromSlice payload = .ok manifest

namespace SenderCall

/- Every payload of the call fits its length field. -/
def Fits : SenderCall → Prop
| .sendCpuState cpuState =>
    ∀ payload,
      SerdeJson.toVec cpuState = .ok payload →
        payload.length < 2 ^ 32
| .sendMemoryPages _ pages regionId _ _ =>
    ∀ page ∈ pages, ∀ payload,
      IsPayload regionId page payload →
        payload.length < 2 ^ 32
| .sendManifest manifest =>
    ∀ payload,
      SerdeJson.toVec manifest = .ok payload →
        payload.length < 2 ^ 32
| .sendTransferComplete _ => True

/- The pages that a call is for. -/
def pages : SenderCall → List MemoryPage
| .sendMemoryPages _ pages _ _ _ => pages
| _ => []

/- The first of its pages, as the size field has it. -/
def firstPage
    (call : SenderCall) : List MemoryPage :=
  (call.pages.take 1).map fun page =>
    { page with originalSize := page.originalSize % 2 ^ 32 }

def cpuState? : SenderCall → Option CPUState
| .sendCpuState cpuState => some cpuState
| _ => none

def manifest? : SenderCall → Option MemoryManifest
| .sendManifest manifest => some manifest
| _ => none

end SenderCall

/-
  What a receiver has after the streams of some calls, in
  the order in which they were handled: the first page of
  each call, and the last CPU state and manifest.
-/
structure Received
    (calls : List SenderCall)
    (before after : QSSPReceiver) : Prop where
  memoryPages :
    after.memoryPages =
      before.memoryPages ++ calls.flatMap SenderCall.firstPage
  cpuState :
    after.cpuState =
      (calls.filterMap SenderCall.cpuState?).getLast?.or
        before.cpuState
  manifest :
    after.manifest =
      (calls.filterMap SenderCall.manifest?).getLast?.or
        before.manifest

namespace Received

variable {before middle after : QSSPReceiver}
variable {earlier later : List SenderCall}

omit [SerdeJson CPUState] [SerdeJson MemoryPageMessage]
  [SerdeJson MemoryManifest] in
theorem refl
    (receiver : QSSPReceiver) :
    Received [] receiver receiver where
  memoryPages := (List.append_nil _).symm
  cpuState := rfl
  manifest := rfl

omit [SerdeJson CPUState] [SerdeJson MemoryPageMessage]
  [SerdeJson MemoryManifest] in
theorem append
    (hFirst : Received earlier before middle)
    (hSecond : Received later middle after) :
    Received (earlier ++ later) before after where
  memoryPages := by
    rw [hSecond.memoryPages, hFirst.memoryPages,
      List.flatMap_append, List.append_assoc]
  cpuState := by
    rw [hSecond.cpuState, hFirst.cpuState,
      List.filterMap_append, List.getLast?_append,
      Option.or_assoc]
  manifest := by
    rw [hSecond.manifest, hFirst.manifest,
      List.filterMap_append, List.getLast?_append,
      Option.or_assoc]

end Received

/-
  The stream of a call as its task gets it: all of its
  bytes, and the whole of a header with the first read.
-/
structure ArrivesFor
    (call : SenderCall)
    (recv : RecvStream) : Prop where
  carries : call.Carries recv.bytes
  header :
    recv.bytes ≠ [] → 10 ≤ (recv.chunks.headD []).length

namespace QSSPReceiver

variable [BuildProfile]
variable {now : Instant} {recv : RecvStream}
variable {receiver : QSSPReceiver} {call : SenderCall}

/- A message at the head of a stream is the one handled. -/
theorem handleStream_serialize
    {messageType : MessageType}
    {payload rest : Bytes}
    (hFits : payload.length < 2 ^ 32)
    (hBytes :
      recv.bytes =
        (Message.new messageType payload).serialize ++ rest)
    (hHeader : 10 ≤ (recv.chunks.headD []).length) :
    handleStream now recv receiver =
      handleMessage now (Message.new messageType payload)
        receiver := by
  rcases Message.readFromStream_serialize hFits hBytes hHeader
    with ⟨recv', hRead, _⟩
  unfold handleStream
  rw [hRead, Exec.bind_of_ok (Exec.ofOutcome_apply _ _)]

/- An empty stream is an error. -/
theorem handleStream_nil
    (hNone : recv.bytes = []) :
    (handleStream now recv receiver).2 = receiver := by
  have hShort : (recv.chunks.headD []).length < 10 := by
    cases hChunks : recv.chunks with
    | nil => decide
    | cons chunk others =>
        unfold RecvStream.bytes at hNone
        rw [hChunks, List.flatten_cons,
          List.append_eq_nil_iff] at hNone
        rw [List.headD_cons, hNone.1]
        decide
  rcases Message.readFromStream_of_short hShort with
    ⟨error, hError⟩
  rw [handleStream_of_err hError]

/- What a task leaves of the stream of a call. -/
theorem received_handleStream
    (hRoundTrip : MessagesRoundTrip)
    (hFits : call.Fits)
    (hArrives : ArrivesFor call recv) :
    Received [call] receiver
      (handleStream now recv receiver).2 := by
  cases call with
  | sendCpuState cpuState =>
      rcases hArrives.carries with ⟨payload, hJson, hBytes⟩
      rw [← List.append_nil (Message.serialize _)] at hBytes
      have hHeader :=
        hArrives.header
          (hBytes ▸ Message.serialize_append_ne_nil _ _)
      rw [handleStream_serialize (hFits payload hJson) hBytes
        hHeader]
      have hDecodes := hRoundTrip.cpuState _ _ hJson
      change
        Received _ receiver
          ((decode "CPU state" payload >>= _) receiver).2
      rw [Exec.bind_of_ok (decode_of_ok hDecodes receiver)]
      exact ⟨(List.append_nil _).symm, rfl, rfl⟩
  | sendManifest manifest =>
      rcases hArrives.carries with ⟨payload, hJson, hBytes⟩
      rw [← List.append_nil (Message.serialize _)] at hBytes
      have hHeader :=
        hArrives.header
          (hBytes ▸ Message.serialize_append_ne_nil _ _)
      rw [handleStream_serialize (hFits payload hJson) hBytes
        hHeader]
      have hDecodes := hRoundTrip.manifest _ _ hJson
      change
        Received _ receiver
          ((decode "Manifest" payload >>= _) receiver).2
      rw [Exec.bind_of_ok (decode_of_ok hDecodes receiver)]
      exact ⟨(List.append_nil _).symm, rfl, rfl⟩
  | sendTransferComplete completed =>
      have hBytes :
          recv.bytes =
            (Message.new .transferComplete []).serialize ++
              [] :=
        hArrives.carries.trans (List.append_nil _).symm
      have hHeader :=
        hArrives.header
          (hBytes ▸ Message.serialize_append_ne_nil _ _)
      rw [handleStream_serialize (by decide) hBytes hHeader]
      exact ⟨(List.append_nil _).symm, rfl, rfl⟩
  | sendMemoryPages sending pages regionId baseOffset isHot =>
      rcases hArrives.carries with
        ⟨payloads, hPayloads, hBytes⟩
      cases hPayloads with
      | nil =>
          rw [handleStream_nil hBytes]
          exact ⟨(List.append_nil _).symm, rfl, rfl⟩
      | @cons page payload others otherPayloads hPayload
          hOthers =>
          rw [List.flatMap_cons] at hBytes
          have hHeader :=
            hArrives.header
              (hBytes ▸ Message.serialize_append_ne_nil _ _)
          rw [handleStream_serialize
            (hFits page List.mem_cons_self payload hPayload)
            hBytes hHeader]
          rcases hPayload with ⟨pageOffset, hJson⟩
          have hDecodes :
              SerdeJson.fromSlice
                  (Message.new .memoryPage payload).payload =
                .ok (MemoryPageMessage.fromPage page regionId
                  pageOffset) :=
            hRoundTrip.pages _ _ hJson
          rw [handleMessage_page rfl hDecodes,
            MemoryPageMessage.toPage_fromPage]
          exact ⟨rfl, rfl, rfl⟩

end QSSPReceiver

------------------------------------------------------------
-- Sessions
------------------------------------------------------------

/-
  A task that the receiver has spawned for a stream: the
  call that the stream belongs to, and when it is handled.
-/
structure StreamTask where
  call : SenderCall
  stream : Nat
  now : Instant
  recv : RecvStream

variable [BuildProfile]

/- The task runs. -/
def QSSPReceiver.receive
    (receiver : QSSPReceiver)
    (task : StreamTask) : QSSPReceiver :=
  (handleStream task.now task.recv receiver).2

/- Tasks run one after the other. -/
theorem received_run
    (hRoundTrip : MessagesRoundTrip)
    (receiver : QSSPReceiver)
    {handled : List StreamTask}
    (hFits : ∀ task ∈ handled, task.call.Fits)
    (hArrives :
      ∀ task ∈ handled, ArrivesFor task.call task.recv) :
    Received (handled.map StreamTask.call) receiver
      (Runs.run QSSPReceiver.receive receiver handled) := by
  induction handled generalizing receiver with
  | nil => exact Received.refl receiver
  | cons task rest ih =>
      have hTask :
          Received [task.call] receiver
            (receiver.receive task) :=
        QSSPReceiver.received_handleStream hRoundTrip
          (hFits task List.mem_cons_self)
          (hArrives task List.mem_cons_self)
      have hRest :=
        ih (receiver.receive task)
          (fun other hOther =>
            hFits other (List.mem_cons_of_mem _ hOther))
          (fun other hOther =>
            hArrives other (List.mem_cons_of_mem _ hOther))
      exact hTask.append hRest

open LawfulUniStreams (sent)
open QSSPSender (performAll streamsOf)

variable {C : Type} [SeparateUniStreams C]
variable {sender sender' : QSSPSender C}
variable {calls : List SenderCall}
variable {handled : List StreamTask}

/-
  Tasks for different streams of a session, each of which
  gets the bytes that were sent on its stream.
-/
structure TasksOf
    (calls : List SenderCall)
    (sender sender' : QSSPSender C)
    (handled : List StreamTask) : Prop where
  apart : (handled.map StreamTask.stream).Nodup
  opened :
    ∀ task ∈ handled,
      (task.call, task.stream) ∈
        calls.zip (streamsOf calls sender)
  intact :
    ∀ task ∈ handled,
      task.recv.bytes = sent sender'.connection task.stream
  header :
    ∀ task ∈ handled,
      task.recv.bytes ≠ [] →
        10 ≤ (task.recv.chunks.headD []).length

namespace TasksOf

theorem call_mem
    (hTasks : TasksOf calls sender sender' handled) :
    ∀ task ∈ handled, task.call ∈ calls := by
  intro task hTask
  exact (List.of_mem_zip (hTasks.opened task hTask)).1

/- A task gets what its call has sent. -/
theorem arrivesFor
    (hTasks : TasksOf calls sender sender' handled)
    (hOk : performAll calls sender = (.ok (), sender')) :
    ∀ task ∈ handled, ArrivesFor task.call task.recv := by
  intro task hTask
  have hCarries :=
    List.forall₂_zip (QSSPSender.performAll_ok hOk).2.2
      (hTasks.opened task hTask)
  rw [← hTasks.intact task hTask] at hCarries
  exact ⟨hCarries, hTasks.header task hTask⟩

/- No call is handled more often than it was made. -/
theorem subperm
    (hTasks : TasksOf calls sender sender' handled)
    (hOk : performAll calls sender = (.ok (), sender')) :
    (handled.map StreamTask.call).Subperm calls := by
  have hApart :
      (handled.map fun task =>
        (task.call, task.stream)).Nodup := by
    apply List.Nodup.of_map Prod.snd
    rw [List.map_map]
    exact hTasks.apart
  have hOpened :
      (handled.map fun task =>
          (task.call, task.stream)) ⊆
        calls.zip (streamsOf calls sender) := by
    intro pair hPair
    rcases List.mem_map.mp hPair with ⟨task, hTask, rfl⟩
    exact hTasks.opened task hTask
  rcases List.subperm_of_subset hApart hOpened with
    ⟨pairs, hPerm, hSublist⟩
  have hLength :=
    (QSSPSender.performAll_ok hOk).2.2.length_eq
  have hCalls := hSublist.map Prod.fst
  rw [List.map_fst_zip hLength.le] at hCalls
  refine ⟨pairs.map Prod.fst, ?_, hCalls⟩
  have hHandled := hPerm.map Prod.fst
  rw [List.map_map] at hHandled
  exact hHandled

end TasksOf

/-
  At any moment of a session whose calls all succeed, and in
  whatever order the tasks of the receiver have run so far,
  the receiver has got the first page of each call that was
  handled, in the order of the tasks, and the CPU state and
  the manifest handled last; no call is handled twice.
-/
theorem received_of_session
    (hRoundTrip : MessagesRoundTrip)
    (calls : List SenderCall)
    (hFits : ∀ call ∈ calls, call.Fits)
    (sender sender' : QSSPSender C)
    (hOk : performAll calls sender = (.ok (), sender'))
    (receiver : QSSPReceiver)
    (handled : List StreamTask)
    (hTasks : TasksOf calls sender sender' handled) :
    Received (handled.map StreamTask.call) receiver
        (Runs.run QSSPReceiver.receive receiver handled) ∧
      (handled.map StreamTask.call).Subperm calls := by
  constructor
  · apply received_run hRoundTrip receiver
    · intro task hTask
      exact hFits task.call (hTasks.call_mem task hTask)
    · exact hTasks.arrivesFor hOk
  · exact hTasks.subperm hOk

end Receiving

end IsaWorkspace

------------------------------------------------------------
-- A Sample Session
------------------------------------------------------------

namespace IsaWorkspace

/- Two calls that send pages, handled the last one first. -/
namespace TransferSample

scoped instance : SeparateUniStreams Outbox where
  isOpen outbox stream := stream < outbox.streams.length
  fresh_of_open := by
    intro outbox outbox' stream hOpen
    cases hOpen
    rw [List.length_append]
    exact ⟨Nat.lt_irrefl _, Nat.lt_succ_self _⟩
  apart_of_open := by
    intro outbox outbox' stream other hOpen hOther
    cases hOpen
    constructor
    · rw [List.length_append]
      exact Nat.lt_succ_of_lt hOther
    · change (_ ++ [[]])[other]?.getD [] = _
      rw [List.getElem?_append_left hOther]
      rfl
  apart_of_write := by
    intro outbox outbox' stream other data hWrite hOther
    unfold UniStreams.writeAll LawfulUniStreams.toUniStreams
      instLawfulUniStreamsOutbox instUniStreamsOutbox
      at hWrite
    dsimp only at hWrite
    cases hStream : outbox.streams[stream]? with
    | none =>
        rw [hStream] at hWrite
        cases hWrite
    | some written =>
        rw [hStream] at hWrite
        cases hWrite
        constructor
        · rw [List.length_set]
          exact hOther
        · intro hNe
          change (List.set _ _ _)[other]?.getD [] = _
          rw [List.getElem?_set_ne hNe.symm]
          rfl
  apart_of_finish := by
    intro outbox outbox' stream other hFinish hOther
    cases hFinish
    exact ⟨hOther, rfl⟩

def bothPages : SenderCall :=
  .sendMemoryPages 0 [firstPage, secondPage] "ram" 0 true

def onePage : SenderCall :=
  .sendMemoryPages 0 [secondPage] "ram" 1 false

def calls : List SenderCall :=
  [bothPages, onePage, .sendTransferComplete 9]

def afterCalls : QSSPSender Outbox :=
  (QSSPSender.performAll calls sender).2

/- All that was sent on a stream, in one chunk. -/
def arrived
    (stream : Nat) : RecvStream :=
  ⟨[LawfulUniStreams.sent afterCalls.connection stream],
    none⟩

def handled : List StreamTask :=
  [⟨onePage, 1, 5, arrived 1⟩, ⟨bothPages, 0, 7, arrived 0⟩]

theorem streamsOf_calls :
    QSSPSender.streamsOf calls sender = [0, 1, 2] := by
  decide +kernel

theorem messagesRoundTrip : MessagesRoundTrip where
  cpuState := by
    intro state payload hJson
    cases hJson
  pages := roundTrip
  manifest := by
    intro manifest payload hJson
    cases hJson

theorem fits_calls :
    ∀ call ∈ calls, call.Fits := by
  intro call hCall
  rcases List.mem_cons.mp hCall with rfl | hOthers
  · exact fun page _ => sizes "ram" page
  · rcases List.mem_cons.mp hOthers with rfl | hLast
    · exact fun page _ => sizes "ram" page
    · cases List.mem_singleton.mp hLast
      trivial

theorem tasksOf_handled :
    TasksOf calls sender afterCalls handled where
  apart := by decide
  opened := by
    intro task hTask
    rw [streamsOf_calls]
    rcases List.mem_cons.mp hTask with rfl | hLast
    · exact List.mem_cons_of_mem _ List.mem_cons_self
    · cases List.mem_singleton.mp hLast
      exact List.mem_cons_self
  intact := by
    intro task hTask
    rcases List.mem_cons.mp hTask with rfl | hLast
    · exact List.append_nil _
    · cases List.mem_singleton.mp hLast
      exact List.append_nil _
  header := by
    intro task hTask _
    rcases List.mem_cons.mp hTask with rfl | hLast
    · decide +kernel
    · cases List.mem_singleton.mp hLast
      decide +kernel

end TransferSample

open TransferSample

theorem received_of_session_sample :
    Received [onePage, bothPages] QSSPReceiver.new
        (Runs.run QSSPReceiver.receive QSSPReceiver.new
          handled) ∧
      ([onePage, bothPages] : List SenderCall).Subperm
        calls := by
  have hOk :
      QSSPSender.performAll calls sender =
        (.ok (), afterCalls) := by
    apply Prod.ext
    · decide +kernel
    · rfl
  exact
    received_of_session messagesRoundTrip calls fits_calls
      sender afterCalls hOk QSSPReceiver.new handled
      tasksOf_handled

end IsaWorkspace
