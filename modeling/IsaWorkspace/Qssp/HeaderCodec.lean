import IsaWorkspace.Qssp.Messages

/-
  Headers and their ten bytes.

  Each step of the decoder takes bytes off the buffer that
  are the encoding of what it returns, so that a buffer from
  which a header was taken began with that header.

  Main declarations:
    * `MessageType.eq_of_tryFrom`
    * `eq_append_of_getU32`, `eq_cons_of_getU8`
    * `MessageHeader.eq_append_of_deserialize`
    * `MessageHeader.IsCodec`, `MessageHeader.isCodec`
-/

------------------------------------------------------------
-- What the Decoder Takes
------------------------------------------------------------

namespace IsaWorkspace

/- A number that is accepted is that of the variant. -/
theorem MessageType.eq_of_tryFrom
    {value : UInt8}
    {messageType : MessageType}
    (hOk : tryFrom value = .ok messageType) :
    value = messageType.toByte := by
  unfold tryFrom at hOk
  split at hOk <;> cases hOk <;> rfl

variable {buf rest : Bytes}

/- A word that was taken stood in front, high byte first. -/
theorem eq_append_of_getU32
    {value : UInt32}
    (hGet : getU32 buf = (.ok value, rest)) :
    buf = beBytes 4 value.toNat ++ rest := by
  unfold getU32 at hGet
  by_cases hShort : buf.length < 4
  · rw [if_pos hShort] at hGet
    cases hGet
  · rw [if_neg hShort] at hGet
    cases hGet
    have hLength : (buf.take 4).length = 4 :=
      List.length_take_of_le (Nat.le_of_not_lt hShort)
    rw [beBytes_ofNat32 hLength, List.take_append_drop]

/- A byte that was taken stood in front. -/
theorem eq_cons_of_getU8
    {byte : UInt8}
    (hGet : getU8 buf = (.ok byte, rest)) :
    buf = byte :: rest := by
  unfold getU8 at hGet
  cases buf with
  | nil => cases hGet
  | cons first others =>
      cases hGet
      rfl

namespace MessageHeader

/- A header that was taken stood in front. -/
theorem eq_append_of_deserialize
    {header : MessageHeader}
    (hOk : deserialize buf = (.ok (some header), rest)) :
    buf = header.serialize ++ rest := by
  unfold deserialize at hOk
  rw [Exec.read_bind_apply] at hOk
  by_cases hShort : buf.length < 10
  · rw [if_pos hShort] at hOk
    cases hOk
  · rw [if_neg hShort] at hOk
    rcases Exec.of_bind_ok hOk with
      ⟨magic, afterMagic, hMagic, hOk⟩
    by_cases hName : magic ≠ qsspMagic
    · rw [if_pos hName] at hOk
      cases hOk
    · rw [if_neg hName] at hOk
      rcases Exec.of_bind_ok hOk with
        ⟨version, afterVersion, hVersion, hOk⟩
      by_cases hOther : version ≠ qsspVersion
      · rw [if_pos hOther] at hOk
        cases hOk
      · rw [if_neg hOther] at hOk
        rcases Exec.of_bind_ok hOk with
          ⟨byte, afterByte, hByte, hOk⟩
        rcases Exec.of_bind_ok hOk with
          ⟨messageType, afterType, hType, hOk⟩
        rcases Exec.of_bind_ok hOk with
          ⟨length, afterLength, hLength, hOk⟩
        rw [Exec.ofOutcome_apply] at hType
        cases hOk
        rw [eq_append_of_getU32 hMagic,
          eq_cons_of_getU8 hVersion, eq_cons_of_getU8 hByte]
        rcases Prod.mk.inj hType with ⟨hTry, hSame⟩
        rw [MessageType.eq_of_tryFrom hTry, hSame,
          eq_append_of_getU32 hLength]
        unfold serialize
        simp

------------------------------------------------------------
-- The Codec
------------------------------------------------------------

/-
  A new header is read back, with what stands behind it; a
  buffer begins with the header that is taken from it; and
  less than a header is left as it is.
-/
structure IsCodec : Prop where
  reads :
    ∀ messageType length rest,
      deserialize
          ((new messageType length).serialize ++ rest) =
        (.ok (some (new messageType length)), rest)
  begins :
    ∀ buf header rest,
      deserialize buf = (.ok (some header), rest) →
        buf = header.serialize ++ rest
  short :
    ∀ buf : Bytes, buf.length < 10 →
      deserialize buf = (.ok none, buf)

theorem isCodec : IsCodec where
  reads := deserialize_serialize
  begins := fun _ _ _ hOk => eq_append_of_deserialize hOk
  short := fun _ hShort => deserialize_of_short hShort

end MessageHeader

end IsaWorkspace
