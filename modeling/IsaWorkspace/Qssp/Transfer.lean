import IsaWorkspace.Qssp.Messages

/-
  Sending and receiving memory pages.

  A sender opens one stream for a list of pages and writes a
  message for each.  A receiver handles each stream it is
  offered by reading one message from it.  Streams are
  reached through the calls of `UniStreams`, each of which
  may fail.

  Main declarations:
    * `TransferStats`
    * `UniStreams`, `LawfulUniStreams`
    * `QSSPSender`, `QSSPSender.sendMemoryPages`
    * `QSSPReceiver`, `QSSPReceiver.handleStream`
    * `QSSPSender.sendMemoryPages_ok`
    * `QSSPReceiver.handleStream_memoryPages`
-/

------------------------------------------------------------
-- Statistics
------------------------------------------------------------

namespace IsaWorkspace

/- A reading of the monotonic clock, in nanoseconds. -/
abbrev Instant : Type :=
  Nat

/- Transfer statistics. -/
structure TransferStats where
  totalBytes : UInt64
  totalPages : UInt64
  hotPages : UInt64
  warmPages : UInt64
  coldPages : UInt64
  startTime : Option Instant
  endTime : Option Instant
deriving DecidableEq

namespace TransferStats

/- Nothing has been transferred. -/
def empty : TransferStats :=
  ⟨0, 0, 0, 0, 0, none, none⟩

variable [BuildProfile]

/- Add to one of the counters. -/
def increase
    (get : TransferStats → UInt64)
    (set : TransferStats → UInt64 → TransferStats)
    (amount : UInt64) :
    Exec TransferStats QSSPError Unit := do
  let stats ← Exec.read
  let sum ← Exec.orPanic (checkedAdd (get stats) amount)
  Exec.update fun stats => set stats sum

def countBytes
    (amount : Nat) : Exec TransferStats QSSPError Unit :=
  increase totalBytes
    (fun stats sum => { stats with totalBytes := sum })
    (UInt64.ofNat amount)

def countPage : Exec TransferStats QSSPError Unit :=
  increase totalPages
    (fun stats sum => { stats with totalPages := sum }) 1

def countHotPage : Exec TransferStats QSSPError Unit :=
  increase hotPages
    (fun stats sum => { stats with hotPages := sum }) 1

def countWarmPage : Exec TransferStats QSSPError Unit :=
  increase warmPages
    (fun stats sum => { stats with warmPages := sum }) 1

end TransferStats

------------------------------------------------------------
-- Sending
------------------------------------------------------------

/-
  The calls on a connection's streams for sending.  A stream
  is named by its number.
-/
class UniStreams (C : Type) where
  openUni : Exec C String Nat
  writeAll : Nat → Bytes → Exec C String Unit
  finish : Nat → Exec C String Unit

/-
  A stream has been sent what was written to it since it was
  opened.
-/
class LawfulUniStreams (C : Type) extends UniStreams C where
  sent : C → Nat → Bytes
  sent_of_open :
    ∀ {connection connection' : C} {stream : Nat},
      openUni connection = (.ok stream, connection') →
        sent connection' stream = []
  sent_of_write :
    ∀ {connection connection' : C} {stream : Nat}
      {data : Bytes},
      writeAll stream data connection =
          (.ok (), connection') →
        sent connection' stream =
          sent connection stream ++ data
  sent_of_finish :
    ∀ {connection connection' : C} {stream : Nat},
      finish stream connection = (.ok (), connection') →
        sent connection' stream = sent connection stream

/- QSSP sender - streams state to a receiver. -/
structure QSSPSender (C : Type) where
  connection : C
  stats : TransferStats

namespace QSSPSender

variable {C : Type}

/- Create a new sender from an established connection. -/
def new
    (connection : C) : QSSPSender C :=
  ⟨connection, TransferStats.empty⟩

/- A call on the connection, its errors renamed. -/
def onConnection
    {α : Type}
    (wrap : String → QSSPError)
    (call : Exec C String α) :
    Exec (QSSPSender C) QSSPError α :=
  Exec.onPart connection
    (fun sender connection =>
      { sender with connection := connection })
    (Exec.mapErr wrap call)

def onStats
    (call : Exec TransferStats QSSPError Unit) :
    Exec (QSSPSender C) QSSPError Unit :=
  Exec.onPart stats
    (fun sender stats => { sender with stats := stats })
    call

variable [UniStreams C] [BuildProfile]
variable [SerdeJson MemoryPageMessage]

/- Write one page and count it. -/
def sendPage
    (stream : Nat)
    (regionId : String)
    (pageOffset : UInt64)
    (isHot : Bool)
    (page : MemoryPage) :
    Exec (QSSPSender C) QSSPError Unit := do
  let payload ←
    Exec.ofExcept
      (fun message => .serializationError ("Page: " ++ message))
      (SerdeJson.toVec
        (MemoryPageMessage.fromPage page regionId pageOffset))
  onConnection .ioError
    (UniStreams.writeAll stream
      (Message.new .memoryPage payload).serialize)
  onStats do
    TransferStats.countBytes page.data.length
    TransferStats.countPage
    if isHot then
      TransferStats.countHotPage
    else
      TransferStats.countWarmPage

/- Write the pages from an index on. -/
def sendPagesFrom
    (stream : Nat)
    (regionId : String)
    (baseOffset : UInt64)
    (isHot : Bool) :
    Nat → List MemoryPage →
      Exec (QSSPSender C) QSSPError Unit
| _, [] => pure ()
| index, page :: rest => do
    let pageOffset ←
      Exec.orPanic (checkedAdd baseOffset (UInt64.ofNat index))
    sendPage stream regionId pageOffset isHot page
    sendPagesFrom stream regionId baseOffset isHot
      (index + 1) rest

/- Send memory pages on stream 2 (HOT) or 3 (WARM). -/
def sendMemoryPages
    (now : Instant)
    (pages : List MemoryPage)
    (regionId : String)
    (baseOffset : UInt64)
    (isHot : Bool) :
    Exec (QSSPSender C) QSSPError Unit := do
  let stream ←
    onConnection .connectionError UniStreams.openUni
  onStats
    (Exec.update fun stats =>
      { stats with
        startTime := some (stats.startTime.getD now) })
  sendPagesFrom stream regionId baseOffset isHot 0 pages
  onConnection .ioError (UniStreams.finish stream)

end QSSPSender

------------------------------------------------------------
-- Receiving
------------------------------------------------------------

/- Memory manifest for describing regions. -/
structure MemoryManifest where
  regions : List MemoryRegion
deriving DecidableEq

/- QSSP receiver - receives state from a sender. -/
structure QSSPReceiver where
  cpuState : Option CPUState
  memoryPages : List MemoryPage
  manifest : Option MemoryManifest
  stats : TransferStats

namespace QSSPReceiver

/- A receiver that has received nothing. -/
def new : QSSPReceiver :=
  ⟨none, [], none, TransferStats.empty⟩

def onStats
    (call : Exec TransferStats QSSPError Unit) :
    Exec QSSPReceiver QSSPError Unit :=
  Exec.onPart stats
    (fun receiver stats => { receiver with stats := stats })
    call

/- Decode a payload, or report what it should have been. -/
def decode
    {α : Type}
    [SerdeJson α]
    (what : String)
    (payload : Bytes) : Exec QSSPReceiver QSSPError α :=
  Exec.ofExcept
    (fun message =>
      .deserializationError (what ++ ": " ++ message))
    (SerdeJson.fromSlice payload)

variable [BuildProfile]
variable [SerdeJson CPUState] [SerdeJson MemoryPageMessage]
variable [SerdeJson MemoryManifest]

/- Handle a message, once it is read. -/
def handleMessage
    (now : Instant)
    (message : Message) : Exec QSSPReceiver QSSPError Unit :=
  match message.header.messageType with
  | .cpuState => do
      let state : CPUState ←
        decode "CPU state" message.payload
      Exec.update fun receiver =>
        { receiver with cpuState := some state }
  | .memoryPage => do
      let pageMessage : MemoryPageMessage ←
        decode "Page" message.payload
      Exec.update fun receiver =>
        { receiver with
          memoryPages :=
            receiver.memoryPages ++ [pageMessage.toPage] }
      onStats do
        TransferStats.countBytes message.payload.length
        TransferStats.countPage
  | .memoryManifest => do
      let manifest : MemoryManifest ←
        decode "Manifest" message.payload
      Exec.update fun receiver =>
        { receiver with manifest := some manifest }
  | .transferComplete =>
      onStats
        (Exec.update fun stats =>
          { stats with endTime := some now })
  | _ => pure ()

/- Handle a single stream. -/
def handleStream
    (now : Instant)
    (recv : RecvStream) :
    Exec QSSPReceiver QSSPError Unit := do
  let message ←
    Exec.ofOutcome (Message.readFromStream recv).1
  handleMessage now message

end QSSPReceiver

end IsaWorkspace

------------------------------------------------------------
-- What Is Counted
------------------------------------------------------------

namespace IsaWorkspace

section Counting

variable [BuildProfile]

namespace TransferStats

/- A counter that overflows panics, or the sum is stored. -/
theorem increase_eq
    (get : TransferStats → UInt64)
    (set : TransferStats → UInt64 → TransferStats)
    (amount : UInt64)
    (stats : TransferStats) :
    increase get set amount stats =
      match checkedAdd (get stats) amount with
      | none => (.panicked, stats)
      | some sum => (.ok (), set stats sum) := by
  unfold increase
  rw [Exec.read_bind_apply]
  cases checkedAdd (get stats) amount with
  | none => rfl
  | some sum => rfl

theorem of_increase_ok
    {get : TransferStats → UInt64}
    {set : TransferStats → UInt64 → TransferStats}
    {amount : UInt64}
    {stats stats' : TransferStats}
    (hOk :
      increase get set amount stats = (.ok (), stats')) :
    stats' = set stats (get stats + amount) := by
  rw [increase_eq] at hOk
  cases hSum : checkedAdd (get stats) amount with
  | none =>
      rw [hSum] at hOk
      cases hOk
  | some sum =>
      rw [hSum] at hOk
      cases hOk
      rw [eq_add_of_checkedAdd hSum]

/- What a page adds to the number of pages sent. -/
theorem totalPages_of_countSent
    {amount : Nat}
    {isHot : Bool}
    {stats stats' : TransferStats}
    (hOk :
      (do
        countBytes amount
        countPage
        if isHot then
          countHotPage
        else
          countWarmPage :
        Exec TransferStats QSSPError Unit) stats =
          (.ok (), stats')) :
    stats'.totalPages = stats.totalPages + 1 := by
  rcases Exec.of_bind_ok hOk with ⟨_, first, hBytes, hRest⟩
  rcases Exec.of_bind_ok hRest with ⟨_, second, hPage, hLast⟩
  have hFirst := of_increase_ok hBytes
  have hSecond := of_increase_ok hPage
  have hSame : stats'.totalPages = second.totalPages := by
    cases isHot with
    | true =>
        have hThird := of_increase_ok hLast
        rw [hThird]
    | false =>
        have hThird := of_increase_ok hLast
        rw [hThird]
  rw [hSame, hSecond, hFirst]

/-
  What a page adds to the number of pages received: nothing,
  if a counter has overflowed before.
-/
theorem totalPages_of_countReceived
    (amount : Nat)
    (stats : TransferStats) :
    ((do
        countBytes amount
        countPage :
        Exec TransferStats QSSPError Unit)
      stats).2.totalPages =
      if (checkedAdd stats.totalBytes
            (UInt64.ofNat amount)).isSome ∧
          (checkedAdd stats.totalPages 1).isSome then
        stats.totalPages + 1
      else
        stats.totalPages := by
  have hBytes := increase_eq totalBytes
    (fun stats sum => { stats with totalBytes := sum })
    (UInt64.ofNat amount) stats
  cases hFirst :
      checkedAdd stats.totalBytes (UInt64.ofNat amount) with
  | none =>
      rw [hFirst] at hBytes
      have hPanics :
          countBytes amount stats = (.panicked, stats) :=
        hBytes
      rw [Exec.bind_of_panicked hPanics]
      simp
  | some bytes =>
      rw [hFirst] at hBytes
      have hCounted :
          countBytes amount stats =
            (.ok (), { stats with totalBytes := bytes }) :=
        hBytes
      rw [Exec.bind_of_ok hCounted]
      unfold countPage
      rw [increase_eq]
      dsimp only
      cases hSecond : checkedAdd stats.totalPages 1 with
      | none => simp
      | some pages =>
          rw [eq_add_of_checkedAdd hSecond]
          simp

end TransferStats

end Counting

------------------------------------------------------------
-- What Is Sent
------------------------------------------------------------

section Sending

open LawfulUniStreams (sent)

variable {C : Type} [LawfulUniStreams C] [BuildProfile]
variable [SerdeJson MemoryPageMessage]
variable {sender sender' : QSSPSender C}

namespace QSSPSender

/- The JSON of a page as part of a region, at some offset. -/
def IsPayload
    (regionId : String)
    (page : MemoryPage)
    (payload : Bytes) : Prop :=
  ∃ pageOffset,
    SerdeJson.toVec
        (MemoryPageMessage.fromPage page regionId
          pageOffset) =
      .ok payload

/- The bytes that carry a page. -/
def frame
    (payload : Bytes) : Bytes :=
  (Message.new .memoryPage payload).serialize

/- A call on the connection leaves the statistics alone. -/
omit [LawfulUniStreams C] [BuildProfile]
  [SerdeJson MemoryPageMessage] in
theorem of_onConnection_ok
    {α : Type}
    {wrap : String → QSSPError}
    {call : Exec C String α}
    {value : α}
    (hOk :
      onConnection wrap call sender = (.ok value, sender')) :
    call sender.connection =
        (.ok value, sender'.connection) ∧
      sender'.stats = sender.stats := by
  rcases Exec.of_onPart_ok hOk with
    ⟨connection, hCall, rfl⟩
  exact ⟨Exec.of_mapErr_ok hCall, rfl⟩

/- A page that is sent is one frame, and one page counted. -/
theorem sendPage_ok
    {stream : Nat}
    {regionId : String}
    {pageOffset : UInt64}
    {isHot : Bool}
    {page : MemoryPage}
    (hOk :
      sendPage stream regionId pageOffset isHot page sender =
        (.ok (), sender')) :
    ∃ payload,
      IsPayload regionId page payload ∧
        sent sender'.connection stream =
          sent sender.connection stream ++ frame payload ∧
        sender'.stats.totalPages =
          sender.stats.totalPages + 1 := by
  rcases Exec.of_bind_ok hOk with
    ⟨payload, encoded, hEncode, hRest⟩
  rcases Exec.of_ofExcept_ok hEncode with ⟨hJson, rfl⟩
  rcases Exec.of_bind_ok hRest with
    ⟨_, written, hWrite, hCount⟩
  rcases of_onConnection_ok hWrite with
    ⟨hWritten, hStats⟩
  rcases Exec.of_onPart_ok hCount with
    ⟨stats, hCounted, rfl⟩
  refine ⟨payload, ⟨pageOffset, hJson⟩, ?_, ?_⟩
  · exact LawfulUniStreams.sent_of_write hWritten
  · rw [← hStats]
    exact TransferStats.totalPages_of_countSent hCounted

/- Pages that are sent are their frames, all of them counted. -/
theorem sendPagesFrom_ok
    {stream : Nat}
    {regionId : String}
    {baseOffset : UInt64}
    {isHot : Bool}
    {index : Nat}
    {pages : List MemoryPage}
    (hOk :
      sendPagesFrom stream regionId baseOffset isHot index
          pages sender =
        (.ok (), sender')) :
    ∃ payloads,
      List.Forall₂ (IsPayload regionId) pages payloads ∧
        sent sender'.connection stream =
          sent sender.connection stream ++
            payloads.flatMap frame ∧
        sender'.stats.totalPages =
          sender.stats.totalPages +
            UInt64.ofNat pages.length := by
  induction pages generalizing sender index with
  | nil =>
      cases hOk
      refine ⟨[], List.Forall₂.nil, ?_, ?_⟩
      · rw [List.flatMap_nil, List.append_nil]
      · exact (UInt64.add_zero _).symm
  | cons page rest ih =>
      rcases Exec.of_bind_ok hOk with
        ⟨pageOffset, placed, hOffset, hSend⟩
      rcases Exec.of_orPanic_ok hOffset with ⟨_, rfl⟩
      rcases Exec.of_bind_ok hSend with
        ⟨_, afterPage, hPage, hRest⟩
      rcases sendPage_ok hPage with
        ⟨payload, hPayload, hSent, hCounted⟩
      rcases ih hRest with
        ⟨payloads, hPayloads, hSentRest, hCountedRest⟩
      refine
        ⟨payload :: payloads,
          List.Forall₂.cons hPayload hPayloads, ?_, ?_⟩
      · rw [hSentRest, hSent, List.flatMap_cons,
          List.append_assoc]
      · rw [hCountedRest, hCounted, List.length_cons,
          UInt64.ofNat_add, UInt64.add_assoc,
          UInt64.add_comm 1]
        rfl

/-
  After a successful call, the stream that it has opened has
  been sent the frames of the pages.
-/
theorem sendMemoryPages_ok
    {now : Instant}
    {pages : List MemoryPage}
    {regionId : String}
    {baseOffset : UInt64}
    {isHot : Bool}
    {stream : Nat}
    {opened : C}
    (hOpen :
      UniStreams.openUni sender.connection =
        (.ok stream, opened))
    (hOk :
      sendMemoryPages now pages regionId baseOffset isHot
          sender =
        (.ok (), sender')) :
    ∃ payloads,
      List.Forall₂ (IsPayload regionId) pages payloads ∧
        sent sender'.connection stream =
          payloads.flatMap frame ∧
        sender'.stats.totalPages =
          sender.stats.totalPages +
            UInt64.ofNat pages.length := by
  rcases Exec.of_bind_ok hOk with
    ⟨opening, withStream, hOpening, hStart⟩
  rcases of_onConnection_ok hOpening with
    ⟨hOpened, hStats⟩
  rw [hOpen] at hOpened
  cases hOpened
  have hFresh :
      sent withStream.connection stream = [] :=
    LawfulUniStreams.sent_of_open hOpen
  rcases Exec.of_bind_ok hStart with
    ⟨_, started, hStarted, hPages⟩
  cases hStarted
  rcases Exec.of_bind_ok hPages with
    ⟨_, afterPages, hSending, hFinish⟩
  rcases of_onConnection_ok hFinish with
    ⟨hFinished, hFinalStats⟩
  rcases sendPagesFrom_ok hSending with
    ⟨payloads, hPayloads, hSent, hCounted⟩
  refine ⟨payloads, hPayloads, ?_, ?_⟩
  · rw [LawfulUniStreams.sent_of_finish hFinished, hSent]
    change sent withStream.connection stream ++ _ = _
    rw [hFresh, List.nil_append]
  · rw [hFinalStats, hCounted, ← hStats]
    rfl

end QSSPSender

end Sending

------------------------------------------------------------
-- What Is Received
------------------------------------------------------------

section Receiving

namespace QSSPReceiver

theorem decode_of_ok
    {α : Type}
    [SerdeJson α]
    {what : String}
    {payload : Bytes}
    {value : α}
    (hDecodes : SerdeJson.fromSlice payload = .ok value)
    (receiver : QSSPReceiver) :
    decode what payload receiver = (.ok value, receiver) := by
  unfold decode
  rw [hDecodes]
  rfl

theorem decode_of_error
    {α : Type}
    [SerdeJson α]
    {what message : String}
    {payload : Bytes}
    (hDecodes :
      (SerdeJson.fromSlice payload : Except String α) =
        .error message)
    (receiver : QSSPReceiver) :
    (decode what payload : Exec QSSPReceiver QSSPError α)
        receiver =
      (.err (.deserializationError
        (what ++ ": " ++ message)), receiver) := by
  unfold decode
  rw [hDecodes]
  rfl

/- Decoding is not receiving. -/
theorem decode_state
    {α : Type}
    [SerdeJson α]
    (what : String)
    (payload : Bytes)
    (receiver : QSSPReceiver) :
    ((decode what payload : Exec QSSPReceiver QSSPError α)
      receiver).2 = receiver := by
  cases hDecodes :
      (SerdeJson.fromSlice payload : Except String α) with
  | ok value => rw [decode_of_ok hDecodes]
  | error message => rw [decode_of_error hDecodes]

variable [BuildProfile]
variable [SerdeJson CPUState] [SerdeJson MemoryPageMessage]
variable [SerdeJson MemoryManifest]

/- A message that cannot be read changes nothing. -/
theorem handleStream_of_err
    {now : Instant}
    {recv : RecvStream}
    {error : QSSPError}
    (hRead :
      (Message.readFromStream recv).1 = .err error)
    (receiver : QSSPReceiver) :
    handleStream now recv receiver =
      (.err error, receiver) := by
  unfold handleStream
  rw [hRead,
    Exec.bind_of_err (Exec.ofOutcome_apply _ _)]

/- A page that decodes is kept, and then counted. -/
theorem handleMessage_page
    {now : Instant}
    {message : Message}
    (hType : message.header.messageType = .memoryPage)
    {pageMessage : MemoryPageMessage}
    (hDecodes :
      SerdeJson.fromSlice message.payload = .ok pageMessage)
    (receiver : QSSPReceiver) :
    (handleMessage now message receiver).2 =
      { receiver with
        memoryPages :=
          receiver.memoryPages ++ [pageMessage.toPage]
        stats :=
          ((do
              TransferStats.countBytes message.payload.length
              TransferStats.countPage :
              Exec TransferStats QSSPError Unit)
            receiver.stats).2 } := by
  unfold handleMessage
  rw [hType]
  dsimp only
  rw [Exec.bind_of_ok (decode_of_ok hDecodes receiver)]
  rfl

/- A page that does not decode changes nothing. -/
theorem handleMessage_undecoded
    (now : Instant)
    {message : Message}
    (hType : message.header.messageType = .memoryPage)
    {text : String}
    (hDecodes :
      (SerdeJson.fromSlice message.payload :
          Except String MemoryPageMessage) =
        .error text)
    (receiver : QSSPReceiver) :
    (handleMessage now message receiver).2 = receiver := by
  unfold handleMessage
  rw [hType]
  dsimp only
  rw [Exec.bind_of_err (decode_of_error hDecodes receiver)]

/- Messages of another type leave the pages alone. -/
theorem handleMessage_other
    (now : Instant)
    {message : Message}
    (hType : message.header.messageType ≠ .memoryPage)
    (receiver : QSSPReceiver) :
    (handleMessage now message receiver).2.memoryPages =
      receiver.memoryPages := by
  unfold handleMessage
  cases hMessage : message.header.messageType with
  | memoryPage => exact absurd hMessage hType
  | cpuState =>
      refine Exec.bind_state
        (fun after : QSSPReceiver =>
          after.memoryPages = receiver.memoryPages)
        ?_ ?_
      · rw [decode_state]
      · intro _ after hSame
        exact hSame
  | memoryManifest =>
      refine Exec.bind_state
        (fun after : QSSPReceiver =>
          after.memoryPages = receiver.memoryPages)
        ?_ ?_
      · rw [decode_state]
      · intro _ after hSame
        exact hSame
  | _ => rfl

/- At most one page is added by a message. -/
theorem handleMessage_memoryPages
    (now : Instant)
    (message : Message)
    (receiver : QSSPReceiver) :
    ∃ received : Option MemoryPage,
      (handleMessage now message receiver).2.memoryPages =
        receiver.memoryPages ++ received.toList := by
  by_cases hType : message.header.messageType = .memoryPage
  · cases hDecodes :
        (SerdeJson.fromSlice message.payload :
          Except String MemoryPageMessage) with
    | ok pageMessage =>
        refine ⟨some pageMessage.toPage, ?_⟩
        rw [handleMessage_page hType hDecodes]
        rfl
    | error text =>
        refine ⟨none, ?_⟩
        rw [handleMessage_undecoded now hType hDecodes]
        exact (List.append_nil _).symm
  · refine ⟨none, ?_⟩
    rw [handleMessage_other now hType]
    exact (List.append_nil _).symm

/- At most one page is added, whatever the stream holds. -/
theorem handleStream_memoryPages
    (now : Instant)
    (recv : RecvStream)
    (receiver : QSSPReceiver) :
    ∃ received : Option MemoryPage,
      (handleStream now recv receiver).2.memoryPages =
        receiver.memoryPages ++ received.toList := by
  cases hRead : (Message.readFromStream recv).1 with
  | ok message =>
      unfold handleStream
      rw [hRead, Exec.bind_of_ok (Exec.ofOutcome_apply _ _)]
      exact handleMessage_memoryPages now message receiver
  | err error =>
      rw [handleStream_of_err hRead]
      exact ⟨none, (List.append_nil _).symm⟩
  | panicked =>
      unfold handleStream
      rw [hRead,
        Exec.bind_of_panicked (Exec.ofOutcome_apply _ _)]
      exact ⟨none, (List.append_nil _).symm⟩

end QSSPReceiver

end Receiving

end IsaWorkspace
