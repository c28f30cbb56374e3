import IsaWorkspace.Qssp.Messages

/-
  The length field of a message.

  A new message has the length of its payload cut to 32 bits
  in its header, and a reader takes as many bytes as the
  field says.  A longer payload is read back short, and what
  is missing stays in the stream as if it were the next
  message.

  Main declarations:
    * `RecvStream.whole`
    * `Message.ReadsBack`
    * `Message.length_of_readFromStream`
    * `Message.readsBack_iff`
-/

------------------------------------------------------------
-- The Property
------------------------------------------------------------

namespace IsaWorkspace

/- A stream whose reads return whatever is asked for. -/
def RecvStream.whole
    (bytes : Bytes) : RecvStream where
  chunks := [bytes]
  failure := none

namespace Message

/-
  A message that was sent is read back with its type and all
  of its payload, and the stream is left at its end.
-/
def ReadsBack
    (messageType : MessageType)
    (payload : Bytes) : Prop :=
  ∀ rest, ∃ message recv,
    readFromStream
        (.whole ((new messageType payload).serialize ++ rest)) =
      (.ok message, recv) ∧
      message.header.messageType = messageType ∧
      message.payload = payload ∧
      recv.bytes = rest

------------------------------------------------------------
-- How Much Is Read
------------------------------------------------------------

/- The payload is as long as the header of it says. -/
theorem length_of_readFromStream
    {recv recv' : RecvStream}
    {message : Message}
    (hRead : readFromStream recv = (.ok message, recv')) :
    message.payload.length =
      message.header.length.toNat := by
  unfold readFromStream at hRead
  rcases Exec.of_bind_ok hRead with
    ⟨headerBuf, afterBuf, _, hRead⟩
  rcases Exec.of_bind_ok hRead with
    ⟨found, afterHeader, _, hRead⟩
  cases found with
  | none => cases hRead
  | some header =>
      rcases Exec.of_bind_ok hRead with
        ⟨payload, afterPayload, hPayload, hMessage⟩
      cases hMessage
      unfold RecvStream.readPayload at hPayload
      split at hPayload
      · rename_i items rest hAll
        cases hPayload
        exact Chunks.length_of_readAll hAll
      · cases hPayload

/- No payload beyond the field is read back. -/
theorem fits_of_readsBack
    {messageType : MessageType}
    {payload : Bytes}
    (hBack : ReadsBack messageType payload) :
    payload.length < 2 ^ 32 := by
  rcases hBack [] with
    ⟨message, recv, hRead, _, hPayload, _⟩
  have hLength := length_of_readFromStream hRead
  rw [hPayload] at hLength
  rw [hLength]
  exact message.header.length.toNat_lt

theorem readsBack_iff
    (messageType : MessageType)
    (payload : Bytes) :
    ReadsBack messageType payload ↔
      payload.length < 2 ^ 32 := by
  constructor
  · exact fits_of_readsBack
  · intro hFits rest
    have hBytes :
        (RecvStream.whole
            ((new messageType payload).serialize ++
              rest)).bytes =
          (new messageType payload).serialize ++ rest := by
      unfold RecvStream.whole RecvStream.bytes
      simp
    have hHeader :
        10 ≤
          ((RecvStream.whole
              ((new messageType payload).serialize ++
                rest)).chunks.headD []).length := by
      change
        10 ≤
          ((new messageType payload).header.serialize ++
              payload ++ rest).length
      rw [List.length_append, List.length_append,
        MessageHeader.serialize_length]
      omega
    rcases readFromStream_serialize hFits hBytes hHeader with
      ⟨recv, hRead, hRest, _⟩
    exact ⟨_, recv, hRead, rfl, rfl, hRest⟩

/- The shortest payload whose length is cut to zero. -/
theorem readsBack_cut :
    ¬ ReadsBack .memoryPage
      (List.replicate (2 ^ 32) 0) := by
  intro hBack
  have hFits := fits_of_readsBack hBack
  rw [List.length_replicate] at hFits
  exact Nat.lt_irrefl _ hFits

end Message

end IsaWorkspace
