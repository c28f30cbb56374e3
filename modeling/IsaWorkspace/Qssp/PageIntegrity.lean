import IsaWorkspace.Foundations.Runs
import IsaWorkspace.Qssp.Transfer

/-
  Page hashes on the receiving side.

  Whatever the peers send, the receiver keeps a page as soon
  as its message decodes.  All pages kept have the hash of
  their data, and corrupt messages are rejected, exactly if
  no stream carries a corrupt message.

  Main declarations:
    * `MemoryPageMessage.Corrupt`
    * `QSSPReceiver.carriedPage`
    * `QSSPReceiver.Honest`, `QSSPReceiver.RejectsCorrupt`
    * `QSSPReceiver.pageIntegrity_iff`
-/

------------------------------------------------------------
-- The Property
------------------------------------------------------------

namespace IsaWorkspace

/- A page message that should not be accepted. -/
def MemoryPageMessage.Corrupt
    [Sha256]
    (pageMessage : MemoryPageMessage) : Prop :=
  pageMessage.pageHash ≠ sha256Hex pageMessage.data ∨
    pageMessage.compression ∉ [0, 1, 2]

namespace QSSPReceiver

/- The page message a stream carries, if it decodes. -/
def carriedPage
    [SerdeJson MemoryPageMessage]
    (recv : RecvStream) : Option MemoryPageMessage :=
  match (Message.readFromStream recv).1 with
  | .ok message =>
      if message.header.messageType = .memoryPage then
        (SerdeJson.fromSlice message.payload).toOption
      else
        none
  | _ => none

/- Every page has the hash of its data. -/
def Honest
    [Sha256]
    (receiver : QSSPReceiver) : Prop :=
  ∀ page ∈ receiver.memoryPages,
    page.pageHash = sha256Hex page.data

/- A stream, and the instant at which it is handled. -/
abbrev IncomingStream : Type :=
  Instant × RecvStream

section Property

variable [Sha256] [BuildProfile]
variable [SerdeJson CPUState] [SerdeJson MemoryPageMessage]
variable [SerdeJson MemoryManifest]

/- Handle one stream after the others. -/
def step
    (receiver : QSSPReceiver)
    (stream : IncomingStream) : QSSPReceiver :=
  (handleStream stream.1 stream.2 receiver).2

/-
  A corrupt page message is answered with an error, and the
  pages and the statistics stay as they are.
-/
def RejectsCorrupt
    (receiver : QSSPReceiver)
    (stream : IncomingStream) : Prop :=
  ∀ pageMessage, carriedPage stream.2 = some pageMessage →
    pageMessage.Corrupt →
      (∃ error,
          (handleStream stream.1 stream.2 receiver).1 =
            .err error) ∧
        (receiver.step stream).memoryPages =
          receiver.memoryPages ∧
        (receiver.step stream).stats = receiver.stats

/- No page message that a stream carries is corrupt. -/
def CarriesNoCorrupt
    (stream : IncomingStream) : Prop :=
  ∀ pageMessage, carriedPage stream.2 = some pageMessage →
    ¬ pageMessage.Corrupt

------------------------------------------------------------
-- What a Stream Adds
------------------------------------------------------------

variable {receiver : QSSPReceiver}
variable {stream : IncomingStream}

/- Handling a stream is handling the message it holds. -/
omit [Sha256] in
theorem step_of_message
    {message : Message}
    (hRead :
      (Message.readFromStream stream.2).1 = .ok message) :
    receiver.step stream =
      (handleMessage stream.1 message receiver).2 := by
  unfold step handleStream
  rw [hRead, Exec.bind_of_ok (Exec.ofOutcome_apply _ _)]

/- What a stream carries is in a message it holds. -/
omit [Sha256] [BuildProfile] [SerdeJson CPUState]
  [SerdeJson MemoryManifest] in
theorem of_carriedPage
    {pageMessage : MemoryPageMessage}
    (hCarried : carriedPage stream.2 = some pageMessage) :
    ∃ message,
      (Message.readFromStream stream.2).1 = .ok message ∧
        message.header.messageType = .memoryPage ∧
        SerdeJson.fromSlice message.payload =
          .ok pageMessage := by
  unfold carriedPage at hCarried
  cases hRead : (Message.readFromStream stream.2).1 with
  | err error =>
      rw [hRead] at hCarried
      cases hCarried
  | panicked =>
      rw [hRead] at hCarried
      cases hCarried
  | ok message =>
      rw [hRead] at hCarried
      dsimp only at hCarried
      by_cases hType :
          message.header.messageType = .memoryPage
      · rw [if_pos hType] at hCarried
        refine ⟨message, rfl, hType, ?_⟩
        cases hDecodes :
            (SerdeJson.fromSlice message.payload :
              Except String MemoryPageMessage) with
        | ok found =>
            rw [hDecodes] at hCarried
            cases hCarried
            rfl
        | error text =>
            rw [hDecodes] at hCarried
            cases hCarried
      · rw [if_neg hType] at hCarried
        cases hCarried

/- A page message that decodes is kept as it is. -/
omit [Sha256] in
theorem memoryPages_of_carriedPage
    {pageMessage : MemoryPageMessage}
    (hCarried : carriedPage stream.2 = some pageMessage) :
    (receiver.step stream).memoryPages =
      receiver.memoryPages ++ [pageMessage.toPage] := by
  rcases of_carriedPage hCarried with
    ⟨message, hRead, hType, hDecodes⟩
  rw [step_of_message hRead,
    handleMessage_page hType hDecodes]

/- A stream without one adds no page. -/
omit [Sha256] in
theorem memoryPages_of_none
    (hCarried : carriedPage stream.2 = none) :
    (receiver.step stream).memoryPages =
      receiver.memoryPages := by
  cases hRead : (Message.readFromStream stream.2).1 with
  | err error =>
      unfold step
      rw [handleStream_of_err hRead]
  | panicked =>
      unfold step handleStream
      rw [hRead,
        Exec.bind_of_panicked (Exec.ofOutcome_apply _ _)]
  | ok message =>
      rw [step_of_message hRead]
      by_cases hType :
          message.header.messageType = .memoryPage
      · unfold carriedPage at hCarried
        rw [hRead] at hCarried
        dsimp only at hCarried
        rw [if_pos hType] at hCarried
        cases hDecodes :
            (SerdeJson.fromSlice message.payload :
              Except String MemoryPageMessage) with
        | ok found =>
            rw [hDecodes] at hCarried
            cases hCarried
        | error text =>
            exact
              congrArg memoryPages
                (handleMessage_undecoded stream.1 hType
                  hDecodes receiver)
      · exact handleMessage_other stream.1 hType receiver

------------------------------------------------------------
-- When Pages Are Honest
------------------------------------------------------------

/- A stream without a corrupt message adds no such page. -/
theorem honest_step
    (receiver : QSSPReceiver)
    (stream : IncomingStream)
    (hHonest : receiver.Honest)
    (hStream : CarriesNoCorrupt stream) :
    (receiver.step stream).Honest := by
  intro page hPage
  cases hCarried : carriedPage stream.2 with
  | none =>
      rw [memoryPages_of_none hCarried] at hPage
      exact hHonest page hPage
  | some pageMessage =>
      rw [memoryPages_of_carriedPage hCarried,
        List.mem_append, List.mem_singleton] at hPage
      rcases hPage with hOld | rfl
      · exact hHonest page hOld
      · by_contra hHash
        exact
          hStream pageMessage hCarried (Or.inl hHash)

/- A corrupt message is never rejected. -/
theorem rejectsCorrupt_iff
    (receiver : QSSPReceiver)
    (stream : IncomingStream) :
    receiver.RejectsCorrupt stream ↔
      CarriesNoCorrupt stream := by
  constructor
  · intro hRejects pageMessage hCarried hCorrupt
    rcases hRejects pageMessage hCarried hCorrupt with
      ⟨_, hPages, _⟩
    rw [memoryPages_of_carriedPage hCarried] at hPages
    have hLength := congrArg List.length hPages
    rw [List.length_append, List.length_singleton]
      at hLength
    omega
  · intro hNone pageMessage hCarried hCorrupt
    exact absurd hCorrupt (hNone pageMessage hCarried)

/-
  Whatever streams a new receiver handles, one after another:
  all its pages are honest at all times and all corrupt
  messages are rejected exactly if no stream carries one.
-/
theorem pageIntegrity_iff
    (streams : List IncomingStream) :
    (Runs.Throughout step Honest new streams ∧
        Runs.AlongRun step RejectsCorrupt new streams) ↔
      ∀ stream ∈ streams, CarriesNoCorrupt stream := by
  constructor
  · rintro ⟨_, hRejects⟩
    exact
      Runs.forall_mem_of_alongRun
        (fun receiver stream =>
          (rejectsCorrupt_iff receiver stream).mp)
        hRejects
  · intro hNone
    have hAlong :
        Runs.AlongRun step
          (fun _ stream => CarriesNoCorrupt stream) new
          streams :=
      Runs.alongRun_of_forall_mem
        fun stream hStream _ => hNone stream hStream
    constructor
    · exact
        Runs.throughout_of_alongRun honest_step
          (fun _ hPage => nomatch hPage) hAlong
    · apply Runs.alongRun_of_forall_mem
      intro stream hStream receiver
      exact
        (rejectsCorrupt_iff receiver stream).mpr
          (hNone stream hStream)

end Property

------------------------------------------------------------
-- Sample Streams
------------------------------------------------------------

/- A page whose hash is not that of its data. -/
namespace CorruptSample

scoped instance : BuildProfile :=
  ⟨true⟩

scoped instance : Sha256 where
  digest data :=
    digestOf <|
      if data = [1, 2, 3, 4] then
        0x9f64a747e1b97f131fabb6b447296c9b6f0201e79fb3c5356e6c77e89b6a806a
      else
        0xe3b0c44298fc1c149afbf4c8996fb92427ae41e4649b934ca495991b7852b855

def pageMessage : MemoryPageMessage where
  regionId := "ram"
  pageOffset := 0
  pageHash := "abc123"
  compression := 7
  originalSize := 4
  data := [1, 2, 3, 4]

def payload : Bytes :=
  asBytes
    ("\x7b\"region_id\":\"ram\",\"page_offset\":0," ++
      "\"page_hash\":\"abc123\",\"compression\":7," ++
      "\"original_size\":4,\"data\":[1,2,3,4]\x7d")

scoped instance : SerdeJson MemoryPageMessage where
  toVec _ := .ok payload
  fromSlice data :=
    if data = payload then
      .ok pageMessage
    else
      .error "expected value at line 1 column 1"

scoped instance : SerdeJson CPUState :=
  ⟨fun _ => .error "not in the sample",
    fun _ => .error "not in the sample"⟩

scoped instance : SerdeJson MemoryManifest :=
  ⟨fun _ => .error "not in the sample",
    fun _ => .error "not in the sample"⟩

def stream : IncomingStream :=
  (0, ⟨[(Message.new .memoryPage payload).serialize], none⟩)

end CorruptSample

open CorruptSample

/- The page is kept, counted, and nothing is reported. -/
theorem pageIntegrity_corrupt :
    (handleStream stream.1 stream.2 new).1 = .ok () ∧
      ¬ (Runs.Throughout step Honest new [stream] ∧
        Runs.AlongRun step RejectsCorrupt new [stream]) := by
  refine ⟨by decide +kernel, ?_⟩
  rintro ⟨hHonest, _⟩
  have hPage :
      pageMessage.toPage ∈ (new.step stream).memoryPages := by
    decide +kernel
  have hLast := hHonest.last
  rw [Runs.run_cons, Runs.run_nil] at hLast
  have hHash := hLast pageMessage.toPage hPage
  revert hHash
  decide +kernel

end QSSPReceiver

end IsaWorkspace
