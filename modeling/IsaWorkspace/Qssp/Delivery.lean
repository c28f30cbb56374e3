import IsaWorkspace.Qssp.Transfer

/-
  Delivering the pages of one call.

  The pages of a call arrive as they were exactly when there
  are none, or there is one, whose size fits its field, and
  the receiver reads its header at once and can count it.

  Main declarations:
    * `Delivered`, `ArrivesAlone`
    * `delivered_page_iff`
    * `delivered_iff`
-/

------------------------------------------------------------
-- The Property
------------------------------------------------------------

namespace IsaWorkspace

/-
  The receiver has the pages after those it had, and has
  counted as many as the sender.
-/
def Delivered
    {C : Type}
    (pages : List MemoryPage)
    (sender sender' : QSSPSender C)
    (receiver receiver' : QSSPReceiver) : Prop :=
  receiver'.memoryPages = receiver.memoryPages ++ pages ∧
    receiver'.stats.totalPages - receiver.stats.totalPages =
      sender'.stats.totalPages - sender.stats.totalPages

instance
    {C : Type}
    (pages : List MemoryPage)
    (sender sender' : QSSPSender C)
    (receiver receiver' : QSSPReceiver) :
    Decidable
      (Delivered pages sender sender' receiver
        receiver') := by
  unfold Delivered
  infer_instance

/-
  The size of the page fits its field, the first read brings
  the whole header, and no counter of a build that checks
  overflow has reached its end.
-/
structure ArrivesAlone
    [BuildProfile]
    (page : MemoryPage)
    (recv : RecvStream)
    (receiver : QSSPReceiver) : Prop where
  size : page.originalSize < 2 ^ 32
  header : 10 ≤ (recv.chunks.headD []).length
  bytes :
    (checkedAdd receiver.stats.totalBytes
      (UInt64.ofNat (recv.bytes.length - 10))).isSome = true
  pages :
    (checkedAdd receiver.stats.totalPages 1).isSome = true

------------------------------------------------------------
-- One Page
------------------------------------------------------------

/- A page keeps its size exactly when it fits the field. -/
theorem cutSize_eq_iff
    {page : MemoryPage} :
    ({ page with
      originalSize := page.originalSize % 2 ^ 32 } =
        page) ↔
      page.originalSize < 2 ^ 32 := by
  constructor
  · intro hSame
    have hSize := congrArg MemoryPage.originalSize hSame
    dsimp only at hSize
    omega
  · intro hSize
    rw [Nat.mod_eq_of_lt hSize]

/- A counter that grew by one has been counted up. -/
theorem grown_iff
    {counted : Prop} [Decidable counted]
    {count : UInt64} :
    (if counted then count + 1 else count) - count = 1 ↔
      counted := by
  by_cases hCounted : counted
  · rw [if_pos hCounted, UInt64.add_comm,
      UInt64.add_sub_cancel]
    exact iff_of_true rfl hCounted
  · rw [if_neg hCounted, UInt64.sub_self]
    exact iff_of_false (by decide) hCounted

section Delivery

open LawfulUniStreams (sent)
open QSSPSender (frame IsPayload)

variable {C : Type} [LawfulUniStreams C] [BuildProfile]
variable [SerdeJson CPUState] [SerdeJson MemoryPageMessage]
variable [SerdeJson MemoryManifest]

/- JSON of a page message is read back as the message. -/
def PagesRoundTrip : Prop :=
  ∀ (message : MemoryPageMessage) (payload : Bytes),
    SerdeJson.toVec message = .ok payload →
      SerdeJson.fromSlice payload = .ok message

variable {sender sender' : QSSPSender C}
variable {receiver : QSSPReceiver} {recv : RecvStream}
variable {page : MemoryPage} {regionId : String}
variable {payload : Bytes} {now : Instant}

/-
  The frame of a page, read in one piece with its header,
  leaves the page as its size field has it.
-/
theorem handleStream_frame
    (hRoundTrip : PagesRoundTrip)
    (hPayload : IsPayload regionId page payload)
    (hFits : payload.length < 2 ^ 32)
    (hBytes : recv.bytes = frame payload)
    (hHeader : 10 ≤ (recv.chunks.headD []).length) :
    (QSSPReceiver.handleStream now recv receiver).2 =
      { receiver with
        memoryPages :=
          receiver.memoryPages ++
            [{ page with
              originalSize := page.originalSize % 2 ^ 32 }]
        stats :=
          ((do
              TransferStats.countBytes payload.length
              TransferStats.countPage :
              Exec TransferStats QSSPError Unit)
            receiver.stats).2 } := by
  rcases hPayload with ⟨pageOffset, hJson⟩
  have hWhole :
      recv.bytes =
        (Message.new .memoryPage payload).serialize ++ [] := by
    rw [List.append_nil]
    exact hBytes
  rcases Message.readFromStream_serialize hFits hWhole hHeader
    with ⟨recv', hRead, _⟩
  have hOutcome :
      (Message.readFromStream recv).1 =
        .ok (Message.new .memoryPage payload) := by
    rw [hRead]
  unfold QSSPReceiver.handleStream
  rw [hOutcome, Exec.bind_of_ok (Exec.ofOutcome_apply _ _)]
  have hDecodes :
      SerdeJson.fromSlice
          (Message.new .memoryPage payload).payload =
        .ok (MemoryPageMessage.fromPage page regionId
          pageOffset) :=
    hRoundTrip _ _ hJson
  rw [QSSPReceiver.handleMessage_page rfl hDecodes,
    MemoryPageMessage.toPage_fromPage]
  rfl

/- A single page arrives exactly when nothing is in the way. -/
omit [LawfulUniStreams C] in
theorem delivered_page_iff
    (hRoundTrip : PagesRoundTrip)
    (hPayload : IsPayload regionId page payload)
    (hFits : payload.length < 2 ^ 32)
    (hBytes : recv.bytes = frame payload)
    (hCounted :
      sender'.stats.totalPages =
        sender.stats.totalPages + 1) :
    Delivered [page] sender sender' receiver
        (QSSPReceiver.handleStream now recv receiver).2 ↔
      ArrivesAlone page recv receiver := by
  have hLength : recv.bytes.length - 10 = payload.length := by
    rw [hBytes]
    unfold frame Message.serialize
    rw [List.length_append, MessageHeader.serialize_length]
    exact Nat.add_sub_cancel_left 10 payload.length
  have hSent :
      sender'.stats.totalPages - sender.stats.totalPages =
        1 := by
    rw [hCounted, UInt64.add_comm, UInt64.add_sub_cancel]
  unfold Delivered
  rw [hSent]
  by_cases hHeader : 10 ≤ (recv.chunks.headD []).length
  · rw [handleStream_frame hRoundTrip hPayload hFits hBytes
      hHeader]
    dsimp only
    rw [TransferStats.totalPages_of_countReceived, grown_iff,
      List.append_right_inj, List.singleton_inj,
      cutSize_eq_iff, ← hLength]
    constructor
    · rintro ⟨hSize, hTotalBytes, hTotalPages⟩
      exact ⟨hSize, hHeader, hTotalBytes, hTotalPages⟩
    · intro hArrives
      exact ⟨hArrives.size, hArrives.bytes, hArrives.pages⟩
  · have hShort : (recv.chunks.headD []).length < 10 :=
      Nat.lt_of_not_le hHeader
    rcases Message.readFromStream_of_short hShort with
      ⟨error, hError⟩
    rw [QSSPReceiver.handleStream_of_err hError]
    dsimp only
    apply iff_of_false
    · rintro ⟨hPages, _⟩
      have hCount := congrArg List.length hPages
      rw [List.length_append, List.length_singleton]
        at hCount
      omega
    · intro hArrives
      exact hHeader hArrives.header

/-
  The pages of a successful call arrive, over a stream that
  delivers what was sent, exactly when there are none, or a
  single one that nothing is in the way of.
-/
theorem delivered_iff
    (hRoundTrip : PagesRoundTrip)
    (sending receiving : Instant)
    (pages : List MemoryPage)
    (regionId : String)
    (baseOffset : UInt64)
    (isHot : Bool)
    (sender sender' : QSSPSender C)
    (hSizes :
      ∀ page ∈ pages, ∀ payload,
        IsPayload regionId page payload →
          payload.length < 2 ^ 32)
    (stream : Nat)
    (opened : C)
    (hOpen :
      UniStreams.openUni sender.connection =
        (.ok stream, opened))
    (hSend :
      QSSPSender.sendMemoryPages sending pages regionId
          baseOffset isHot sender =
        (.ok (), sender'))
    (recv : RecvStream)
    (hIntact : recv.bytes = sent sender'.connection stream)
    (receiver : QSSPReceiver) :
    Delivered pages sender sender' receiver
        (QSSPReceiver.handleStream receiving recv
          receiver).2 ↔
      pages = [] ∨
        ∃ page, pages = [page] ∧
          ArrivesAlone page recv receiver := by
  rcases QSSPSender.sendMemoryPages_ok hOpen hSend with
    ⟨payloads, hPayloads, hSent, hCounted⟩
  rw [hSent] at hIntact
  cases hPayloads with
  | nil =>
      have hShort : (recv.chunks.headD []).length < 10 := by
        cases hChunks : recv.chunks with
        | nil => decide
        | cons chunk others =>
            unfold RecvStream.bytes at hIntact
            rw [hChunks, List.flatten_cons,
              List.flatMap_nil, List.append_eq_nil_iff]
              at hIntact
            rw [List.headD_cons, hIntact.1]
            decide
      rcases Message.readFromStream_of_short hShort with
        ⟨error, hError⟩
      rw [QSSPReceiver.handleStream_of_err hError]
      apply iff_of_true _ (Or.inl rfl)
      refine ⟨(List.append_nil _).symm, ?_⟩
      have hNone :
          sender'.stats.totalPages =
            sender.stats.totalPages :=
        hCounted.trans (UInt64.add_zero _)
      rw [hNone, UInt64.sub_self, UInt64.sub_self]
  | cons hPayload hOthers =>
      cases hOthers with
      | nil =>
          have hFits :=
            hSizes _ List.mem_cons_self _ hPayload
          rw [List.flatMap_singleton] at hIntact
          rw [delivered_page_iff hRoundTrip hPayload hFits
            hIntact hCounted]
          constructor
          · intro hArrives
            exact Or.inr ⟨_, rfl, hArrives⟩
          · rintro (hNil | ⟨page, hPage, hArrives⟩)
            · cases hNil
            · cases hPage
              exact hArrives
      | cons _ _ =>
          rcases QSSPReceiver.handleStream_memoryPages
              receiving recv receiver with
            ⟨received, hReceived⟩
          apply iff_of_false
          · rintro ⟨hPages, _⟩
            rw [hReceived, List.append_right_inj] at hPages
            have hCount := congrArg List.length hPages
            cases received with
            | none => cases hCount
            | some page =>
                rw [List.length_cons, List.length_cons]
                  at hCount
                simp at hCount
          · rintro (hNil | ⟨page, hPage, _⟩)
            · cases hNil
            · cases hPage

end Delivery

end IsaWorkspace

------------------------------------------------------------
-- Sample Transfers
------------------------------------------------------------

namespace IsaWorkspace

/- Two small pages over a connection that never fails. -/
namespace TransferSample

open QSSPSender (sendMemoryPages)

scoped instance : BuildProfile :=
  ⟨true⟩

/- What was written to each stream of a connection. -/
structure Outbox where
  streams : List Bytes
deriving DecidableEq

scoped instance : UniStreams Outbox where
  openUni outbox :=
    (.ok outbox.streams.length, ⟨outbox.streams ++ [[]]⟩)
  writeAll stream data outbox :=
    match outbox.streams[stream]? with
    | none => (.err "unknown stream", outbox)
    | some written =>
        (.ok (),
          ⟨outbox.streams.set stream (written ++ data)⟩)
  finish _ outbox := (.ok (), outbox)

scoped instance : LawfulUniStreams Outbox where
  sent outbox stream := outbox.streams[stream]?.getD []
  sent_of_open := by
    intro outbox outbox' stream hOpen
    cases hOpen
    rw [List.getElem?_concat_length]
    rfl
  sent_of_write := by
    intro outbox outbox' stream data hWrite
    unfold UniStreams.writeAll instUniStreamsOutbox at hWrite
    dsimp only at hWrite
    cases hStream : outbox.streams[stream]? with
    | none =>
        rw [hStream] at hWrite
        cases hWrite
    | some written =>
        rw [hStream] at hWrite
        cases hWrite
        have hRange : stream < outbox.streams.length :=
          (List.getElem?_eq_some_iff.mp hStream).1
        rw [List.getElem?_set_self hRange]
        rfl
  sent_of_finish := by
    intro outbox outbox' stream hFinish
    cases hFinish
    rfl

def firstPage : MemoryPage where
  pageHash :=
    "9f64a747e1b97f131fabb6b447296c9b6f0201e79fb3c5356e6c77e89b6a806a"
  data := [1, 2, 3, 4]
  compression := .none
  originalSize := 4

def secondPage : MemoryPage where
  pageHash :=
    "55e5509f8052998294266ee5b50cb592938191fb5d67f73cac2e60b0276b1bdd"
  data := [5, 6, 7, 8]
  compression := .none
  originalSize := 4

/- The pages as parts of a region, one after the other. -/
def firstMessage : MemoryPageMessage :=
  .fromPage firstPage "ram" 0

def secondMessage : MemoryPageMessage :=
  .fromPage secondPage "ram" 1

/- The JSON text of a message without compression. -/
def text
    (message : MemoryPageMessage)
    (data : String) : String :=
  "\x7b\"region_id\":\"" ++ message.regionId ++
    "\",\"page_offset\":" ++
    message.pageOffset.toNat.repr ++
    ",\"page_hash\":\"" ++ message.pageHash ++
    "\",\"compression\":0,\"original_size\":4,\"data\":" ++
    data ++ "\x7d"

def firstText : String :=
  text firstMessage "[1,2,3,4]"

def secondText : String :=
  text secondMessage "[5,6,7,8]"

scoped instance : SerdeJson MemoryPageMessage where
  toVec message :=
    if message = firstMessage then
      .ok (asBytes firstText)
    else if message = secondMessage then
      .ok (asBytes secondText)
    else
      .error "not a sample page"
  fromSlice data :=
    if data = asBytes firstText then
      .ok firstMessage
    else if data = asBytes secondText then
      .ok secondMessage
    else
      .error "not a sample page"

scoped instance : SerdeJson CPUState :=
  ⟨fun _ => .error "not in the sample",
    fun _ => .error "not in the sample"⟩

scoped instance : SerdeJson MemoryManifest :=
  ⟨fun _ => .error "not in the sample",
    fun _ => .error "not in the sample"⟩

theorem secondText_ne :
    asBytes secondText ≠ asBytes firstText := by
  decide +kernel

/- What is encoded is one of the two texts. -/
theorem toVec_cases
    {message : MemoryPageMessage}
    {payload : Bytes}
    (hJson : SerdeJson.toVec message = .ok payload) :
    (message = firstMessage ∧ payload = asBytes firstText) ∨
      (message = secondMessage ∧
        payload = asBytes secondText) := by
  change (if message = firstMessage then _ else _) = _ at hJson
  split at hJson
  · next hFirst =>
      cases hJson
      exact Or.inl ⟨hFirst, rfl⟩
  · split at hJson
    · next hSecond =>
        cases hJson
        exact Or.inr ⟨hSecond, rfl⟩
    · cases hJson

theorem roundTrip : PagesRoundTrip := by
  intro message payload hJson
  rcases toVec_cases hJson with ⟨rfl, rfl⟩ | ⟨rfl, rfl⟩
  · exact if_pos rfl
  · exact (if_neg secondText_ne).trans (if_pos rfl)

theorem sizes
    (regionId : String)
    (page : MemoryPage)
    (payload : Bytes)
    (hPayload : QSSPSender.IsPayload regionId page payload) :
    payload.length < 2 ^ 32 := by
  rcases hPayload with ⟨pageOffset, hJson⟩
  rcases toVec_cases hJson with ⟨_, rfl⟩ | ⟨_, rfl⟩
  · decide +kernel
  · decide +kernel

def sender : QSSPSender Outbox :=
  QSSPSender.new ⟨[]⟩

/- The sender after a call that sends some pages. -/
def sentPages
    (pages : List MemoryPage) : QSSPSender Outbox :=
  (sendMemoryPages 0 pages "ram" 0 true sender).2

/- What was sent, all of it in one chunk. -/
def delivery
    (pages : List MemoryPage) : RecvStream :=
  ⟨[LawfulUniStreams.sent (sentPages pages).connection 0],
    none⟩

end TransferSample

open TransferSample

/- One page arrives. -/
theorem delivered_sample :
    Delivered [firstPage] sender (sentPages [firstPage])
      QSSPReceiver.new
      (QSSPReceiver.handleStream 0 (delivery [firstPage])
        QSSPReceiver.new).2 := by
  have hSend :
      QSSPSender.sendMemoryPages 0 [firstPage] "ram" 0 true
          sender =
        (.ok (), sentPages [firstPage]) := by
    apply Prod.ext
    · decide +kernel
    · rfl
  have hIntact :
      (delivery [firstPage]).bytes =
        LawfulUniStreams.sent
          (sentPages [firstPage]).connection 0 :=
    List.append_nil _
  have hArrives :
      ArrivesAlone firstPage (delivery [firstPage])
        QSSPReceiver.new := by
    refine ⟨by decide, ?_, ?_, ?_⟩
    · decide +kernel
    · decide +kernel
    · decide +kernel
  exact
    (delivered_iff roundTrip 0 0 [firstPage] "ram" 0 true
      sender (sentPages [firstPage])
      (fun page _ => sizes "ram" page) 0 ⟨[[]]⟩ rfl hSend
      (delivery [firstPage]) hIntact QSSPReceiver.new).mpr
        (Or.inr ⟨firstPage, rfl, hArrives⟩)

/- Of two pages on one stream the second is never read. -/
theorem delivered_first_only :
    PagesRoundTrip ∧
      (QSSPSender.sendMemoryPages 0 [firstPage, secondPage]
        "ram" 0 true sender).1 = .ok () ∧
      ¬ Delivered [firstPage, secondPage] sender
        (sentPages [firstPage, secondPage])
        QSSPReceiver.new
        (QSSPReceiver.handleStream 0
          (delivery [firstPage, secondPage])
          QSSPReceiver.new).2 := by
  refine ⟨roundTrip, ?_, ?_⟩
  · decide +kernel
  · decide +kernel

end IsaWorkspace
