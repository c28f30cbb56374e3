import IsaWorkspace.Qssp.Messages

/-
  Reading messages one after another.

  The payload of a message is read until it is complete, but
  its header is read once.  Whatever the chunks the messages
  arrive in, all of them are read back exactly if no chunk
  ends within a header.

  Main declarations:
    * `Message.readMessages`, `Message.AllRead`
    * `Message.HeadersWhole`
    * `Message.leaves_of_readFromStream`
    * `Message.allRead_iff`
-/

------------------------------------------------------------
-- What Reads Leave
------------------------------------------------------------

namespace IsaWorkspace

namespace RecvStream

variable {recv recv' : RecvStream}

/- A read that fills the buffer takes so many bytes. -/
theorem leaves_of_readBuf
    {capacity : Nat}
    {buf : Bytes}
    (hNonempty : ∀ chunk ∈ recv.chunks, chunk ≠ [])
    (hLong : capacity ≤ buf.length)
    (hBuf : readBuf capacity recv = (.ok buf, recv')) :
    Chunks.Leaves recv.chunks capacity recv'.chunks := by
  unfold readBuf at hBuf
  rcases Exec.of_bind_ok hBuf with
    ⟨piece, middle, hRead, hPure⟩
  cases hPure
  cases hTaken : Chunks.read capacity recv.chunks with
  | none =>
      cases hFailure : recv.failure with
      | none =>
          rw [read_of_end hTaken hFailure] at hRead
          cases hRead
          have hZero : capacity = 0 :=
            Nat.le_zero.mp hLong
          subst hZero
          exact Chunks.Leaves.zero hNonempty
      | some message =>
          rw [read_of_failure hTaken hFailure] at hRead
          cases hRead
  | some next =>
      rcases next with ⟨taken, rest⟩
      rw [read_of_some hTaken] at hRead
      cases hRead
      have hLength : taken.length = capacity :=
        Nat.le_antisymm (Chunks.read_length_le hTaken) hLong
      rw [← hLength]
      exact Chunks.leaves_read hNonempty hTaken

/- A payload that was read has taken so many bytes. -/
theorem leaves_of_readPayload
    {length : Nat}
    {payload : Bytes}
    (hNonempty : ∀ chunk ∈ recv.chunks, chunk ≠ [])
    (hPayload :
      readPayload length recv = (.ok payload, recv')) :
    Chunks.Leaves recv.chunks length recv'.chunks := by
  rcases hRead : Chunks.readAll recv.chunks length with
    ⟨taken, rest⟩
  cases taken with
  | none =>
      rw [readPayload_of_none hRead] at hPayload
      cases hPayload
  | some items =>
      rw [readPayload_of_some hRead] at hPayload
      cases hPayload
      exact Chunks.leaves_readAll hNonempty hRead

end RecvStream

end IsaWorkspace

------------------------------------------------------------
-- The Property
------------------------------------------------------------

namespace IsaWorkspace

namespace Message

/- Read so many messages, up to the first error. -/
def readMessages :
    Nat → Exec RecvStream QSSPError (List Message)
| 0 => pure []
| count + 1 => do
    let message ← readFromStream
    let others ← readMessages count
    pure (message :: others)

/- The bytes of messages in a row. -/
def serializeAll
    (messages : List Message) : Bytes :=
  messages.flatMap serialize

/- Exactly these messages are read, and nothing is left. -/
def AllRead
    (messages : List Message)
    (recv : RecvStream) : Prop :=
  ∃ recv',
    readMessages messages.length recv =
        (.ok messages, recv') ∧
      recv'.bytes = []

/- The payload's length fits its field, which holds it. -/
structure WellFormed
    (message : Message) : Prop where
  fits : message.payload.length < 2 ^ 32
  made :
    message = new message.header.messageType message.payload

/-
  No chunk ends within a header: each end is not after the
  start of the header, or not before the ten bytes of it.
-/
def HeadersWhole
    (messages : List Message)
    (chunks : List Bytes) : Prop :=
  ∀ earlier message later,
    messages = earlier ++ message :: later →
      ∀ position, Chunks.IsBoundary chunks position →
        position ≤ (serializeAll earlier).length ∨
          (serializeAll earlier).length + 10 ≤ position

------------------------------------------------------------
-- What One Message Leaves
------------------------------------------------------------

variable {recv recv' : RecvStream} {message : Message}

/-
  A message that was read has taken its header and its
  payload, and the ends of the chunks after it stay.
-/
theorem leaves_of_readFromStream
    (hNonempty : ∀ chunk ∈ recv.chunks, chunk ≠ [])
    (hRead : readFromStream recv = (.ok message, recv')) :
    Chunks.Leaves recv.chunks
      (10 + message.header.length.toNat) recv'.chunks := by
  unfold readFromStream at hRead
  rcases Exec.of_bind_ok hRead with
    ⟨buf, middle, hBuf, hRest⟩
  rcases Exec.of_bind_ok hRest with
    ⟨found, same, hFound, hLast⟩
  rw [Exec.ofOutcome_apply, Prod.mk.injEq] at hFound
  rcases hFound with ⟨hDecoded, rfl⟩
  cases found with
  | none => cases hLast
  | some header =>
      have hLong : 10 ≤ buf.length := by
        by_contra hShort
        rw [MessageHeader.deserialize_of_short
          (Nat.lt_of_not_le hShort)] at hDecoded
        cases hDecoded
      have hHeader :
          Chunks.Leaves recv.chunks 10 middle.chunks :=
        RecvStream.leaves_of_readBuf hNonempty hLong hBuf
      rcases Exec.of_bind_ok hLast with
        ⟨payload, last, hPayload, hMessage⟩
      cases hMessage
      exact
        hHeader.trans
          (RecvStream.leaves_of_readPayload hHeader.nonempty
            hPayload)

/- The bytes of a well-formed message. -/
theorem WellFormed.serialize_length
    (hWellFormed : message.WellFormed) :
    message.serialize.length =
      10 + message.header.length.toNat := by
  have hLength :
      message.header.length.toNat =
        message.payload.length := by
    rw [hWellFormed.made]
    exact UInt32.toNat_ofNat_of_lt' hWellFormed.fits
  rw [serialize, List.length_append,
    MessageHeader.serialize_length, hLength]

------------------------------------------------------------
-- When All Messages Are Read
------------------------------------------------------------

/- The first header is whole if the first chunk holds it. -/
theorem firstHeader_iff
    {chunks : List Bytes}
    (hNonempty : ∀ chunk ∈ chunks, chunk ≠ [])
    (hStream : chunks ≠ []) :
    (∀ position, Chunks.IsBoundary chunks position →
        position ≤ 0 ∨ 10 ≤ position) ↔
      10 ≤ (chunks.headD []).length := by
  cases chunks with
  | nil => exact absurd rfl hStream
  | cons chunk others =>
      change _ ↔ 10 ≤ chunk.length
      have hChunk : 0 < chunk.length :=
        List.length_pos_iff.mpr
          (hNonempty chunk List.mem_cons_self)
      constructor
      · intro hWhole
        have hEnd :
            Chunks.IsBoundary (chunk :: others)
              chunk.length :=
          Chunks.isBoundary_cons.mpr
            (Or.inr ⟨0, ⟨[], List.nil_prefix, rfl⟩, rfl⟩)
        have hPosition := hWhole chunk.length hEnd
        omega
      · intro hLong position hBoundary
        rcases Chunks.isBoundary_cons.mp hBoundary with
          hStart | ⟨later, _, hPosition⟩
        · omega
        · omega

/- If all headers are whole, the first one is. -/
theorem HeadersWhole.first
    {others : List Message}
    {chunks : List Bytes}
    (hWhole : HeadersWhole (message :: others) chunks) :
    ∀ position, Chunks.IsBoundary chunks position →
      position ≤ 0 ∨ 10 ≤ position := by
  intro position hBoundary
  have hFirst := hWhole [] message others rfl position
  have hEmpty : (serializeAll []).length = 0 := rfl
  rw [hEmpty, Nat.zero_add] at hFirst
  exact hFirst hBoundary

/-
  The headers are whole if the first one is, and the others
  are in what the first message leaves.
-/
theorem headersWhole_cons
    {others : List Message}
    {chunks left : List Bytes}
    (hLeaves :
      Chunks.Leaves chunks message.serialize.length left) :
    HeadersWhole (message :: others) chunks ↔
      (∀ position, Chunks.IsBoundary chunks position →
          position ≤ 0 ∨ 10 ≤ position) ∧
        HeadersWhole others left := by
  have hLength :
      ∀ earlier : List Message,
        (serializeAll (message :: earlier)).length =
          message.serialize.length +
            (serializeAll earlier).length := by
    intro earlier
    exact List.length_append
  constructor
  · intro hWhole
    refine ⟨hWhole.first, ?_⟩
    intro earlier other later hEq position hBoundary
    rcases (hLeaves.boundary position).mp hBoundary with
      hStart | hLater
    · omega
    · have hOther :=
        hWhole (message :: earlier) other later
          (congrArg (message :: ·) hEq) _ hLater
      rw [hLength] at hOther
      omega
  · rintro ⟨hFirst, hOthers⟩ earlier other later hEq
    intro position hBoundary
    cases earlier with
    | nil =>
        have hEmpty : (serializeAll []).length = 0 := rfl
        rw [hEmpty, Nat.zero_add]
        exact hFirst position hBoundary
    | cons first earlier =>
        rcases List.cons.inj hEq with ⟨rfl, hRest⟩
        rw [hLength]
        rcases Nat.lt_or_ge position
            message.serialize.length with
          hBefore | hAfter
        · omega
        · have hSame :
              Chunks.IsBoundary chunks
                (message.serialize.length +
                  (position - message.serialize.length)) :=
            by
              rw [Nat.add_sub_cancel' hAfter]
              exact hBoundary
          have hLater :=
            hOthers earlier other later hRest
              (position - message.serialize.length)
              ((hLeaves.boundary _).mpr (Or.inr hSame))
          omega

/- Once the first message is read, the others are to be. -/
theorem allRead_cons
    {others : List Message}
    (hRead : readFromStream recv = (.ok message, recv')) :
    AllRead (message :: others) recv ↔
      AllRead others recv' := by
  have hStep :
      readMessages (message :: others).length recv =
        (do
          let rest ← readMessages others.length
          pure (message :: rest) :
            Exec RecvStream QSSPError (List Message))
          recv' :=
    Exec.bind_of_ok hRead
  constructor
  · rintro ⟨last, hAll, hEnd⟩
    rw [hStep] at hAll
    rcases Exec.of_bind_ok hAll with
      ⟨rest, middle, hRest, hPure⟩
    cases hPure
    exact ⟨last, hRest, hEnd⟩
  · rintro ⟨last, hRest, hEnd⟩
    refine ⟨last, ?_, hEnd⟩
    rw [hStep, Exec.bind_of_ok hRest]
    rfl

/- Where the first message is not read, not all are. -/
theorem not_allRead_of_err
    {others : List Message}
    {error : QSSPError}
    (hRead : (readFromStream recv).1 = .err error) :
    ¬ AllRead (message :: others) recv := by
  rintro ⟨last, hAll, _⟩
  rcases hFirst : readFromStream recv with ⟨outcome, middle⟩
  rw [hFirst] at hRead
  change outcome = .err error at hRead
  subst hRead
  have hStep :
      readMessages (message :: others).length recv =
        (.err error, middle) :=
    Exec.bind_of_err hFirst
  rw [hStep] at hAll
  cases hAll

/-
  Let well-formed messages arrive one after another, in any
  chunks.  Reading again and again returns exactly these
  messages if and only if no chunk ends within a header.
-/
theorem allRead_iff
    (messages : List Message)
    (hWellFormed :
      ∀ message ∈ messages, message.WellFormed)
    (recv : RecvStream)
    (hNonempty : ∀ chunk ∈ recv.chunks, chunk ≠ [])
    (hBytes : recv.bytes = serializeAll messages) :
    AllRead messages recv ↔
      HeadersWhole messages recv.chunks := by
  induction messages generalizing recv with
  | nil =>
      constructor
      · intro _ earlier message later hEq
        exact absurd hEq.symm (by simp)
      · intro _
        exact ⟨recv, rfl, hBytes⟩
  | cons message others ih =>
      have hMessage :=
        hWellFormed message List.mem_cons_self
      have hOthers :
          ∀ other ∈ others, other.WellFormed :=
        fun other hOther =>
          hWellFormed other (List.mem_cons_of_mem _ hOther)
      have hSplit :
          recv.bytes =
            message.serialize ++ serializeAll others :=
        hBytes
      have hStream : recv.chunks ≠ [] := by
        intro hNil
        unfold RecvStream.bytes at hSplit
        rw [hNil] at hSplit
        have hLength := congrArg List.length hSplit
        rw [List.length_append,
          hMessage.serialize_length] at hLength
        change 0 = _ at hLength
        omega
      by_cases hHeader : 10 ≤ (recv.chunks.headD []).length
      · have hSame := hSplit
        rw [hMessage.made] at hSame
        rcases readFromStream_serialize hMessage.fits hSame
            hHeader with
          ⟨recv', hRead, hRest, _⟩
        rw [← hMessage.made] at hRead
        have hLeaves :=
          leaves_of_readFromStream hNonempty hRead
        rw [← hMessage.serialize_length] at hLeaves
        rw [allRead_cons hRead, headersWhole_cons hLeaves,
          firstHeader_iff hNonempty hStream,
          ih hOthers recv' hLeaves.nonempty hRest]
        exact (and_iff_right hHeader).symm
      · rcases readFromStream_of_short
            (Nat.lt_of_not_le hHeader) with
          ⟨error, hRead⟩
        apply iff_of_false (not_allRead_of_err hRead)
        intro hWhole
        exact
          hHeader
            ((firstHeader_iff hNonempty hStream).mp
              hWhole.first)

------------------------------------------------------------
-- Sample Streams
------------------------------------------------------------

def keepAlive : Message :=
  new .keepAlive []

def eventLog : Message :=
  new .eventLog [1, 2, 3]

/- Two messages in three chunks, both headers whole. -/
def wholeStream : RecvStream where
  chunks :=
    [keepAlive.serialize ++ eventLog.header.serialize ++ [1],
      [2], [3]]
  failure := none

/- The second header is whole from its first byte on. -/
theorem allRead_sample :
    HeadersWhole [keepAlive, eventLog]
      wholeStream.chunks :=
  (allRead_iff [keepAlive, eventLog]
    (by
      intro message hMessage
      rcases List.mem_pair.mp hMessage with rfl | rfl
      · exact ⟨by decide, rfl⟩
      · exact ⟨by decide, rfl⟩)
    wholeStream (by decide) (by decide)).mp
      ⟨⟨[], none⟩, by decide +kernel, rfl⟩

/- One message whose header arrives in two chunks. -/
def splitStream : RecvStream where
  chunks :=
    [keepAlive.serialize.take 4, keepAlive.serialize.drop 4]
  failure := none

/- The message is not read, although all of it arrives. -/
theorem allRead_split :
    keepAlive.WellFormed ∧
      (∀ chunk ∈ splitStream.chunks, chunk ≠ []) ∧
      splitStream.bytes = serializeAll [keepAlive] ∧
      ¬ AllRead [keepAlive] splitStream := by
  refine ⟨⟨by decide, rfl⟩, by decide, by decide, ?_⟩
  rintro ⟨recv', hRead, _⟩
  have hFails :
      (readMessages 1 splitStream).1 =
        .err .incompleteHeader := by
    decide +kernel
  change readMessages 1 splitStream = _ at hRead
  rw [hRead] at hFails
  cases hFails

end Message

end IsaWorkspace
