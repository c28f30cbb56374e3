import IsaWorkspace.Externals
import IsaWorkspace.Foundations.Chunks
import IsaWorkspace.Foundations.Exec
import IsaWorkspace.Memory.Page
import IsaWorkspace.Model

/-
  Messages of the state streaming protocol.

  A message is a header of ten bytes and a payload, whose
  length is a field of the header.  A receiving stream hands
  its bytes out in chunks of its own choice; the header is
  taken from a single read, the payload from as many as it
  needs.

  Main declarations:
    * `MessageType`, `MessageHeader`, `Message`
    * `MessageHeader.serialize`, `MessageHeader.deserialize`
    * `RecvStream`, `Message.readFromStream`
    * `MemoryPageMessage`
    * `MessageHeader.deserialize_serialize`
    * `Message.readFromStream_serialize`
-/

------------------------------------------------------------
-- Errors and Message Types
------------------------------------------------------------

namespace IsaWorkspace

inductive QSSPError where
  | ioError (message : String)
  | quicError (message : String)
  | connectionError (message : String)
  | serializationError (message : String)
  | deserializationError (message : String)
  | invalidMagic (magic : UInt32)
  | unsupportedVersion (version : UInt8)
  | invalidMessageType (value : UInt8)
  | incompleteHeader
  | incompletePayload
  | noIncomingConnection
  | handshakeFailed (message : String)
  | timeout (message : String)
deriving DecidableEq

/- The protocol's name in ASCII. -/
def qsspMagic : UInt32 :=
  0x51535350

def qsspVersion : UInt8 :=
  1

/- Message types. -/
inductive MessageType where
  | handshakeRequest
  | handshakeResponse
  | cpuState
  | memoryPage
  | memoryManifest
  | eventLog
  | pageRequest
  | pageNotFound
  | transferComplete
  | transferError
  | keepAlive
deriving DecidableEq

namespace MessageType

/- The number of a variant. -/
def toByte : MessageType → UInt8
| handshakeRequest => 0
| handshakeResponse => 1
| cpuState => 2
| memoryPage => 3
| memoryManifest => 4
| eventLog => 5
| pageRequest => 6
| pageNotFound => 7
| transferComplete => 8
| transferError => 9
| keepAlive => 10

def tryFrom
    (value : UInt8) : Outcome QSSPError MessageType :=
  match value with
  | 0 => .ok handshakeRequest
  | 1 => .ok handshakeResponse
  | 2 => .ok cpuState
  | 3 => .ok memoryPage
  | 4 => .ok memoryManifest
  | 5 => .ok eventLog
  | 6 => .ok pageRequest
  | 7 => .ok pageNotFound
  | 8 => .ok transferComplete
  | 9 => .ok transferError
  | 10 => .ok keepAlive
  | _ => .err (.invalidMessageType value)

/- Each variant is read back from its number. -/
@[simp] theorem tryFrom_toByte
    (messageType : MessageType) :
    tryFrom messageType.toByte = .ok messageType := by
  cases messageType <;> rfl

end MessageType

------------------------------------------------------------
-- Headers
------------------------------------------------------------

/- QSSP message header. -/
structure MessageHeader where
  magic : UInt32
  version : UInt8
  messageType : MessageType
  length : UInt32
deriving DecidableEq

/- Take four bytes as a number, high byte first. -/
def getU32 : Exec Bytes QSSPError UInt32 :=
  fun buf =>
    if buf.length < 4 then
      (.panicked, buf)
    else
      (.ok (UInt32.ofNat (beValue (buf.take 4))), buf.drop 4)

/- Take one byte. -/
def getU8 : Exec Bytes QSSPError UInt8 :=
  fun buf =>
    match buf with
    | [] => (.panicked, buf)
    | byte :: rest => (.ok byte, rest)

namespace MessageHeader

def new
    (messageType : MessageType)
    (length : UInt32) : MessageHeader where
  magic := qsspMagic
  version := qsspVersion
  messageType := messageType
  length := length

/- Serialize header to bytes. -/
def serialize
    (header : MessageHeader) : Bytes :=
  beBytes 4 header.magic.toNat ++
    [header.version] ++
    [header.messageType.toByte] ++
    beBytes 4 header.length.toNat

/- Deserialize header from bytes. -/
def deserialize :
    Exec Bytes QSSPError (Option MessageHeader) := do
  let buf ← Exec.read
  if buf.length < 10 then
    pure none
  else do
    let magic ← getU32
    if magic ≠ qsspMagic then
      Exec.fail (.invalidMagic magic)
    else do
      let version ← getU8
      if version ≠ qsspVersion then
        Exec.fail (.unsupportedVersion version)
      else do
        let byte ← getU8
        let messageType ←
          Exec.ofOutcome (MessageType.tryFrom byte)
        let length ← getU32
        pure
          (some
            { magic := magic
              version := version
              messageType := messageType
              length := length })

end MessageHeader

------------------------------------------------------------
-- Messages
------------------------------------------------------------

/- QSSP message with payload. -/
structure Message where
  header : MessageHeader
  payload : Bytes
deriving DecidableEq

namespace Message

/- The length is cut to the four bytes of its field. -/
def new
    (messageType : MessageType)
    (payload : Bytes) : Message where
  header :=
    MessageHeader.new messageType
      (UInt32.ofNat payload.length)
  payload := payload

/- Serialize complete message. -/
def serialize
    (message : Message) : Bytes :=
  message.header.serialize ++ message.payload

end Message

/-
  A receiving stream: the chunks to come, and how it fails
  after them, if it does.
-/
structure RecvStream where
  chunks : List Bytes
  failure : Option String
deriving DecidableEq

namespace RecvStream

/- The bytes to come. -/
def bytes
    (recv : RecvStream) : Bytes :=
  recv.chunks.flatten

/- Read once; there is nothing at the end of the stream. -/
def read
    (capacity : Nat) :
    Exec RecvStream QSSPError (Option Bytes) :=
  fun recv =>
    match Chunks.read capacity recv.chunks with
    | some (piece, rest) =>
        (.ok (some piece), { recv with chunks := rest })
    | none =>
        match recv.failure with
        | none => (.ok none, recv)
        | some message => (.err (.ioError message), recv)

/- Read once into a buffer that is empty. -/
def readBuf
    (capacity : Nat) : Exec RecvStream QSSPError Bytes := do
  let piece ← read capacity
  pure (piece.getD [])

/- What a stream reports that ends within a payload. -/
def endError
    (recv : RecvStream) : QSSPError :=
  match recv.failure with
  | none => .incompletePayload
  | some message => .ioError message

/- Read until the payload is complete. -/
def readPayload
    (length : Nat) : Exec RecvStream QSSPError Bytes :=
  fun recv =>
    match Chunks.readAll recv.chunks length with
    | (some payload, rest) =>
        (.ok payload, { recv with chunks := rest })
    | (none, rest) =>
        (.err recv.endError, { recv with chunks := rest })

end RecvStream

/- Deserialize message from stream. -/
def Message.readFromStream :
    Exec RecvStream QSSPError Message := do
  let headerBuf ← RecvStream.readBuf 10
  let found ←
    Exec.ofOutcome (MessageHeader.deserialize headerBuf).1
  match found with
  | none => Exec.fail .incompleteHeader
  | some header => do
      let payload ← RecvStream.readPayload header.length.toNat
      pure ⟨header, payload⟩

------------------------------------------------------------
-- Memory Pages
------------------------------------------------------------

/- Memory page message payload. -/
structure MemoryPageMessage where
  regionId : String
  pageOffset : UInt64
  pageHash : String
  compression : UInt8
  originalSize : UInt32
  data : Bytes
deriving DecidableEq

/- The number of a variant. -/
def CompressionAlgorithm.toByte :
    CompressionAlgorithm → UInt8
| none => 0
| lz4 => 1
| zstd => 2

namespace MemoryPageMessage

/- The size is cut to the four bytes of its field. -/
def fromPage
    (page : MemoryPage)
    (regionId : String)
    (pageOffset : UInt64) : MemoryPageMessage where
  regionId := regionId
  pageOffset := pageOffset
  pageHash := page.pageHash
  compression := page.compression.toByte
  originalSize := UInt32.ofNat page.originalSize
  data := page.data

def toPage
    (message : MemoryPageMessage) : MemoryPage where
  pageHash := message.pageHash
  data := message.data
  compression :=
    match message.compression with
    | 0 => .none
    | 1 => .lz4
    | 2 => .zstd
    | _ => .none
  originalSize := message.originalSize.toNat

/- A page comes back as it was, with its size cut. -/
theorem toPage_fromPage
    (page : MemoryPage)
    (regionId : String)
    (pageOffset : UInt64) :
    (fromPage page regionId pageOffset).toPage =
      { page with
        originalSize := page.originalSize % 2 ^ 32 } := by
  rcases page with ⟨pageHash, data, compression, size⟩
  cases compression <;> rfl

end MemoryPageMessage

end IsaWorkspace

------------------------------------------------------------
-- Reading What Was Written
------------------------------------------------------------

namespace IsaWorkspace

namespace RecvStream

variable {recv : RecvStream} {capacity length : Nat}
variable {piece payload : Bytes} {rest : List Bytes}

theorem read_of_some
    (hRead :
      Chunks.read capacity recv.chunks =
        some (piece, rest)) :
    read capacity recv =
      (.ok (some piece), { recv with chunks := rest }) := by
  unfold read
  rw [hRead]

theorem read_of_end
    (hRead : Chunks.read capacity recv.chunks = none)
    (hFailure : recv.failure = none) :
    read capacity recv = (.ok none, recv) := by
  unfold read
  rw [hRead, hFailure]

theorem read_of_failure
    {message : String}
    (hRead : Chunks.read capacity recv.chunks = none)
    (hFailure : recv.failure = some message) :
    read capacity recv =
      (.err (.ioError message), recv) := by
  unfold read
  rw [hRead, hFailure]

/- A read into an empty buffer takes of the first chunk. -/
theorem readBuf_cons
    (capacity : Nat)
    (chunk : Bytes)
    (others : List Bytes)
    (failure : Option String) :
    ∃ left,
      readBuf capacity ⟨chunk :: others, failure⟩ =
          (.ok (chunk.take capacity), ⟨left, failure⟩) ∧
        left.flatten =
          chunk.drop capacity ++ others.flatten := by
  rcases Chunks.read_cons capacity chunk others with
    ⟨left, hRead, hLeft⟩
  refine ⟨left, ?_, hLeft⟩
  unfold readBuf
  rw [Exec.bind_of_ok (read_of_some hRead)]
  rfl

theorem readPayload_of_some
    (hRead :
      Chunks.readAll recv.chunks length =
        (some payload, rest)) :
    readPayload length recv =
      (.ok payload, { recv with chunks := rest }) := by
  unfold readPayload
  rw [hRead]

theorem readPayload_of_none
    (hRead :
      Chunks.readAll recv.chunks length = (none, rest)) :
    readPayload length recv =
      (.err recv.endError,
        { recv with chunks := rest }) := by
  unfold readPayload
  rw [hRead]

/-
  While bytes are missing, the payload is what the next read
  brings and the rest of it: the loop, one turn at a time.
-/
theorem readPayload_eq
    (hLength : 0 < length)
    (recv : RecvStream) :
    readPayload length recv =
      (do
        let piece ← read length
        match piece with
        | none => Exec.fail .incompletePayload
        | some piece => do
            let others ← readPayload (length - piece.length)
            pure (piece ++ others) :
        Exec RecvStream QSSPError Bytes) recv := by
  have hAll := Chunks.readAll_eq recv.chunks hLength
  cases hNext : Chunks.read length recv.chunks with
  | none =>
      rw [hNext] at hAll
      rw [readPayload_of_none hAll]
      rcases Option.eq_none_or_eq_some recv.failure with
        hFailure | ⟨message, hFailure⟩
      · have hError :
            recv.endError = .incompletePayload := by
          unfold endError
          rw [hFailure]
        rw [hError,
          Exec.bind_of_ok (read_of_end hNext hFailure)]
        rfl
      · have hError : recv.endError = .ioError message := by
          unfold endError
          rw [hFailure]
        rw [hError,
          Exec.bind_of_err (read_of_failure hNext hFailure)]
  | some next =>
      rcases next with ⟨piece, rest⟩
      rw [hNext] at hAll
      dsimp only at hAll
      rw [Exec.bind_of_ok (read_of_some hNext)]
      dsimp only
      rcases hOthers :
          Chunks.readAll rest (length - piece.length) with
        ⟨others, left⟩
      rw [hOthers] at hAll
      cases others with
      | some payload =>
          rw [readPayload_of_some hAll,
            Exec.bind_of_ok (readPayload_of_some hOthers)]
          rfl
      | none =>
          rw [readPayload_of_none hAll,
            Exec.bind_of_err (readPayload_of_none hOthers)]
          rfl

end RecvStream

/- A number is read back from its four bytes. -/
theorem getU32_append
    (value : UInt32)
    (rest : Bytes) :
    getU32 (beBytes 4 value.toNat ++ rest) =
      (.ok value, rest) := by
  have hLength : (beBytes 4 value.toNat).length = 4 :=
    beBytes_length 4 value.toNat
  have hEnough :
      ¬ (beBytes 4 value.toNat ++ rest).length < 4 := by
    rw [List.length_append]
    omega
  unfold getU32
  rw [if_neg hEnough, List.take_left' hLength,
    List.drop_left' hLength, ofNat_beBytes32]

theorem getU8_cons
    (byte : UInt8)
    (rest : Bytes) :
    getU8 (byte :: rest) = (.ok byte, rest) :=
  rfl

@[simp] theorem MessageHeader.serialize_length
    (header : MessageHeader) :
    header.serialize.length = 10 := by
  unfold serialize
  simp

/- A new header is read back from its ten bytes. -/
theorem MessageHeader.deserialize_serialize
    (messageType : MessageType)
    (length : UInt32)
    (rest : Bytes) :
    deserialize ((new messageType length).serialize ++ rest) =
      (.ok (some (new messageType length)), rest) := by
  have hEnough :
      ¬ ((new messageType length).serialize ++
        rest).length < 10 := by
    rw [List.length_append, serialize_length]
    omega
  have hBytes :
      (new messageType length).serialize ++ rest =
        beBytes 4 qsspMagic.toNat ++
          (qsspVersion :: messageType.toByte ::
            (beBytes 4 length.toNat ++ rest)) := by
    unfold serialize new
    simp
  unfold deserialize
  rw [Exec.read_bind_apply, if_neg hEnough, hBytes,
    Exec.bind_of_ok (getU32_append qsspMagic _),
    if_neg (not_not.mpr rfl),
    Exec.bind_of_ok (getU8_cons qsspVersion _),
    if_neg (not_not.mpr rfl),
    Exec.bind_of_ok (getU8_cons messageType.toByte _),
    MessageType.tryFrom_toByte,
    Exec.bind_of_ok (Exec.ofOutcome_apply _ _),
    Exec.bind_of_ok (getU32_append length _)]
  rfl

/- Less than ten bytes are no header. -/
theorem MessageHeader.deserialize_of_short
    {buf : Bytes}
    (hShort : buf.length < 10) :
    deserialize buf = (.ok none, buf) := by
  unfold deserialize
  rw [Exec.read_bind_apply, if_pos hShort]
  rfl

/-
  A message at the head of the stream is read back, if its
  length fits the field and its first read brings all of the
  header; the bytes after it stay in the stream.
-/
theorem Message.readFromStream_serialize
    {messageType : MessageType}
    {payload rest : Bytes}
    (hFits : payload.length < 2 ^ 32)
    {recv : RecvStream}
    (hBytes :
      recv.bytes =
        (new messageType payload).serialize ++ rest)
    (hHeader : 10 ≤ (recv.chunks.headD []).length) :
    ∃ recv',
      readFromStream recv =
          (.ok (new messageType payload), recv') ∧
        recv'.bytes = rest ∧
        recv'.failure = recv.failure := by
  rcases recv with ⟨chunks, failure⟩
  unfold RecvStream.bytes at hBytes
  dsimp only at hBytes hHeader
  cases chunks with
  | nil => exact absurd hHeader (by decide)
  | cons chunk others =>
      let header :=
        MessageHeader.new messageType
          (UInt32.ofNat payload.length)
      change 10 ≤ chunk.length at hHeader
      have hLength : header.serialize.length = 10 :=
        header.serialize_length
      have hSplit :
          chunk.take 10 ++ (chunk.drop 10 ++ others.flatten) =
            header.serialize ++ (payload ++ rest) := by
        rw [← List.append_assoc, List.take_append_drop,
          ← List.append_assoc]
        exact hBytes
      have hTaken : (chunk.take 10).length = 10 :=
        List.length_take_of_le hHeader
      rcases List.append_inj hSplit
          (hTaken.trans hLength.symm) with
        ⟨hFirst, hRest⟩
      rcases RecvStream.readBuf_cons 10 chunk others failure
        with ⟨left, hBuf, hLeft⟩
      rw [hFirst] at hBuf
      rw [hRest] at hLeft
      have hFound :
          (MessageHeader.deserialize header.serialize).1 =
            .ok (some header) := by
        have hDecoded :=
          MessageHeader.deserialize_serialize messageType
            (UInt32.ofNat payload.length) []
        rw [List.append_nil] at hDecoded
        rw [hDecoded]
      have hValue : header.length.toNat = payload.length :=
        UInt32.toNat_ofNat_of_lt' hFits
      have hEnough : payload.length ≤ left.flatten.length := by
        rw [hLeft, List.length_append]
        omega
      rcases Chunks.readAll_spec left hEnough with
        ⟨last, hPayload, hLast⟩
      rw [hLeft, List.take_left] at hPayload
      rw [hLeft, List.drop_left] at hLast
      refine ⟨⟨last, failure⟩, ?_, hLast, rfl⟩
      unfold readFromStream
      rw [Exec.bind_of_ok hBuf, hFound,
        Exec.bind_of_ok (Exec.ofOutcome_apply _ _)]
      dsimp only
      rw [hValue, Exec.bind_of_ok
        (RecvStream.readPayload_of_some hPayload)]
      rfl

/- A first read that falls short of the header is an error. -/
theorem Message.readFromStream_of_short
    {recv : RecvStream}
    (hShort : (recv.chunks.headD []).length < 10) :
    ∃ error, (readFromStream recv).1 = .err error := by
  have hIncomplete :
      ∀ {buf : Bytes} {recv' : RecvStream},
        RecvStream.readBuf 10 recv = (.ok buf, recv') →
        buf.length < 10 →
          (readFromStream recv).1 =
            .err .incompleteHeader := by
    intro buf recv' hBuf hLength
    unfold readFromStream
    rw [Exec.bind_of_ok hBuf,
      MessageHeader.deserialize_of_short hLength,
      Exec.bind_of_ok (Exec.ofOutcome_apply _ _)]
    rfl
  cases hChunks : recv.chunks with
  | nil =>
      have hRead : Chunks.read 10 recv.chunks = none := by
        rw [hChunks]
        rfl
      cases hFailure : recv.failure with
      | none =>
          have hBuf :
              RecvStream.readBuf 10 recv = (.ok [], recv) := by
            unfold RecvStream.readBuf
            rw [Exec.bind_of_ok
              (RecvStream.read_of_end hRead hFailure)]
            rfl
          exact ⟨_, hIncomplete hBuf (by decide)⟩
      | some message =>
          refine ⟨.ioError message, ?_⟩
          have hBuf :
              RecvStream.readBuf 10 recv =
                (.err (.ioError message), recv) := by
            unfold RecvStream.readBuf
            rw [Exec.bind_of_err
              (RecvStream.read_of_failure hRead hFailure)]
          unfold readFromStream
          rw [Exec.bind_of_err hBuf]
  | cons chunk others =>
      rcases RecvStream.readBuf_cons 10 chunk others
          recv.failure with
        ⟨left, hBuf, _⟩
      rw [← hChunks] at hBuf
      rw [hChunks] at hShort
      have hLength : (chunk.take 10).length < 10 := by
        change chunk.length < 10 at hShort
        rw [List.length_take]
        omega
      exact ⟨_, hIncomplete hBuf hLength⟩

end IsaWorkspace
