import IsaWorkspace.Audit.Integrity
import IsaWorkspace.Foundations.PrefixCode
import Mathlib.Data.Set.Function

/-
  Which changes of an audit entry its hash shows.

  The fields that are hashed are joined without separators,
  and the metadata is not among them.  A digest that is
  injective on what is hashed therefore fixes the id, the
  timestamp and the event, but of the actor, the resource
  and the previous hash only the joined text.

  Main declarations:
    * `hashInput`, `HashesFaithfully`
    * `SameFields`, `Shows`
    * `calculateHash_eq_iff`
    * `tampering_iff`
-/

------------------------------------------------------------
-- Hashed Bytes
------------------------------------------------------------

namespace IsaWorkspace

section Hashing

variable [SerdeJson AuditEvent] [Rfc3339]

/- The bytes of a timestamp that are hashed. -/
def timestampText
    (timestamp : DateTime) : Bytes :=
  asBytes (Rfc3339.toRfc3339 timestamp)

/- The bytes of an event that are hashed. -/
def eventText
    (event : AuditEvent) : Bytes :=
  (SerdeJson.toVec event).toOption.getD []

/- The bytes hashed for an entry. -/
def hashInput
    (entry : AuditEntry) : Bytes :=
  toBeBytes entry.id ++
    timestampText entry.timestamp ++
    eventText entry.event ++
    asBytes entry.actor ++
    asBytes entry.resource ++
    asBytes entry.previousHash

variable [Sha256]

theorem calculateHash_eq
    (entry : AuditEntry) :
    calculateHash entry = sha256Hex (hashInput entry) := rfl

/-
  What is assumed of the entries compared.  The digest is
  injective on the bytes hashed for them.  Neither the text
  of a timestamp nor the JSON object of an event begins that
  of another one; in particular it determines the event.
-/
structure HashesFaithfully
    (compared : Set AuditEntry) : Prop where
  digest :
    Set.InjOn Sha256.digest (hashInput '' compared)
  timestamps :
    PrefixFreeOn timestampText
      (AuditEntry.timestamp '' compared)
  events :
    PrefixFreeOn eventText (AuditEntry.event '' compared)

end Hashing

/- All fields that an entry's hash should protect agree. -/
structure SameFields
    (first second : AuditEntry) : Prop where
  id : first.id = second.id
  timestamp : first.timestamp = second.timestamp
  event : first.event = second.event
  actor : first.actor = second.actor
  resource : first.resource = second.resource
  metadata : first.metadata = second.metadata
  previousHash : first.previousHash = second.previousHash

/- The texts that are joined in the hashed bytes. -/
def joinedText
    (entry : AuditEntry) : String :=
  entry.actor ++ entry.resource ++ entry.previousHash

/- The entries differ in something that is hashed. -/
def HashedApart
    (first second : AuditEntry) : Prop :=
  first.id ≠ second.id ∨
    first.timestamp ≠ second.timestamp ∨
      first.event ≠ second.event ∨
        joinedText first ≠ joinedText second

/-
  A replacement shows: it changes the id, the timestamp, the
  event, the previous hash, or the actor and the resource
  read as one text.
-/
def Shows
    (entry replaced : AuditEntry) : Prop :=
  replaced.id ≠ entry.id ∨
    replaced.timestamp ≠ entry.timestamp ∨
      replaced.event ≠ entry.event ∨
        replaced.previousHash ≠ entry.previousHash ∨
          replaced.actor ++ replaced.resource ≠
            entry.actor ++ entry.resource

------------------------------------------------------------
-- Equal Hashes
------------------------------------------------------------

section Equality

variable [SerdeJson AuditEvent] [Rfc3339]
variable {compared : Set AuditEntry}
variable {first second : AuditEntry}

/- The joined texts are the end of the hashed bytes. -/
theorem hashInput_eq
    (entry : AuditEntry) :
    hashInput entry =
      toBeBytes entry.id ++
        (timestampText entry.timestamp ++
          (eventText entry.event ++
            asBytes (joinedText entry))) := by
  simp only [hashInput, joinedText, asBytes_append,
    List.append_assoc]

variable [Sha256]

/- The digest's text is injective where the digest is. -/
theorem HashesFaithfully.hashInput_inj
    (hCompared : HashesFaithfully compared)
    (hFirst : first ∈ compared)
    (hSecond : second ∈ compared)
    (hHash : calculateHash first = calculateHash second) :
    hashInput first = hashInput second := by
  rw [calculateHash_eq, calculateHash_eq] at hHash
  exact
    eq_of_sha256Hex hCompared.digest
      (Set.mem_image_of_mem _ hFirst)
      (Set.mem_image_of_mem _ hSecond) hHash

/-
  Two entries have one hash exactly when they do not differ
  in anything hashed.  The fields are told apart from the
  front: the id has a fixed length, the timestamp and the
  event end by themselves, and what is left is the joined
  text.
-/
theorem calculateHash_eq_iff
    (hCompared : HashesFaithfully compared)
    (hFirst : first ∈ compared)
    (hSecond : second ∈ compared) :
    calculateHash first = calculateHash second ↔
      ¬ HashedApart first second := by
  unfold HashedApart
  simp only [not_or, not_not]
  constructor
  · intro hHash
    have hInput :=
      hCompared.hashInput_inj hFirst hSecond hHash
    rw [hashInput_eq, hashInput_eq] at hInput
    have hIds :
        PrefixFreeOn toBeBytes Set.univ :=
      prefixFreeOn_of_length toBeBytes_length
        toBeBytes_injective
    rcases hIds.append_inj trivial trivial hInput with
      ⟨hId, hInput⟩
    rcases hCompared.timestamps.append_inj
        (Set.mem_image_of_mem _ hFirst)
        (Set.mem_image_of_mem _ hSecond) hInput with
      ⟨hTimestamp, hInput⟩
    rcases hCompared.events.append_inj
        (Set.mem_image_of_mem _ hFirst)
        (Set.mem_image_of_mem _ hSecond) hInput with
      ⟨hEvent, hInput⟩
    exact
      ⟨hId, hTimestamp, hEvent, asBytes_injective hInput⟩
  · rintro ⟨hId, hTimestamp, hEvent, hJoined⟩
    rw [calculateHash_eq, calculateHash_eq, hashInput_eq,
      hashInput_eq, hId, hTimestamp, hEvent, hJoined]

end Equality

------------------------------------------------------------
-- Replaced Entries
------------------------------------------------------------

section Replacement

variable {F : Type}

/- Put another entry in the place of a buffered one. -/
def AuditLogger.replaceEntry
    (logger : AuditLogger F)
    (index : Nat)
    (replaced : AuditEntry) : AuditLogger F :=
  { logger with
    entries := logger.entries.set index replaced }

/- With the previous hash kept, so is what precedes it. -/
theorem joinedText_eq_iff
    {first second : AuditEntry}
    (hPrevious :
      first.previousHash = second.previousHash) :
    joinedText first = joinedText second ↔
      first.actor ++ first.resource =
        second.actor ++ second.resource := by
  unfold joinedText
  rw [hPrevious]
  constructor
  · intro hEq
    have hBytes := congrArg asBytes hEq
    rw [asBytes_append _ second.previousHash,
      asBytes_append _ second.previousHash] at hBytes
    exact
      asBytes_injective (List.append_cancel_right hBytes)
  · intro hEq
    rw [hEq]

variable [Sha256] [SerdeJson AuditEvent] [Rfc3339]

/-
  A buffer that verified still does after a replacement
  exactly when the new entry keeps the previous hash and has
  the hash of the old one.
-/
theorem AuditLogger.verifyIntegrity_replaceEntry
    {logger : AuditLogger F}
    {index : Nat}
    {entry replaced : AuditEntry}
    (hAccepted : logger.verifyIntegrity = .ok true)
    (hEntry : logger.entries[index]? = some entry)
    (hStored : replaced.entryHash = entry.entryHash) :
    (logger.replaceEntry index replaced).verifyIntegrity =
        .ok true ↔
      replaced.previousHash = entry.previousHash ∧
        calculateHash replaced = calculateHash entry := by
  unfold AuditLogger.verifyIntegrity at hAccepted ⊢
  rw [Outcome.ok.injEq, verifyEntries_eq] at hAccepted ⊢
  exact
    HashLinks.verifyFrom_set_iff hAccepted hEntry hStored

/-
  Equal hashes make two entries equal in all their fields
  exactly when the entries differ in something hashed or not
  at all.  A buffer that verified rejects a replacement of
  one of its entries exactly when the replacement shows.
-/
theorem tampering_iff
    (compared : Set AuditEntry)
    (hCompared : HashesFaithfully compared) :
    (∀ first ∈ compared, ∀ second ∈ compared,
      (calculateHash first = calculateHash second →
          SameFields first second) ↔
        HashedApart first second ∨
          SameFields first second) ∧
      ∀ (logger : AuditLogger F) (index : Nat),
        ∀ entry ∈ compared, ∀ replaced ∈ compared,
          logger.verifyIntegrity = .ok true →
          logger.entries[index]? = some entry →
          replaced.entryHash = entry.entryHash →
            ((logger.replaceEntry index
                replaced).verifyIntegrity = .ok false ↔
              Shows entry replaced) := by
  constructor
  · intro first hFirst second hSecond
    rw [calculateHash_eq_iff hCompared hFirst hSecond]
    tauto
  · intro logger index entry hEntry replaced hReplaced
      hAccepted hAt hStored
    have hVerdict :
        (logger.replaceEntry index
            replaced).verifyIntegrity = .ok false ↔
          ¬ (logger.replaceEntry index
              replaced).verifyIntegrity = .ok true := by
      unfold AuditLogger.verifyIntegrity
      rw [Outcome.ok.injEq, Outcome.ok.injEq,
        Bool.not_eq_true]
    rw [hVerdict,
      AuditLogger.verifyIntegrity_replaceEntry hAccepted
        hAt hStored,
      calculateHash_eq_iff hCompared hReplaced hEntry]
    by_cases hPrevious :
        replaced.previousHash = entry.previousHash
    · unfold HashedApart Shows
      rw [ne_eq (joinedText replaced),
        joinedText_eq_iff hPrevious]
      tauto
    · unfold Shows
      tauto

end Replacement

end IsaWorkspace

------------------------------------------------------------
-- Sample Replacements
------------------------------------------------------------

namespace IsaWorkspace

namespace AuditSample

/- The entry of the first deletion. -/
def deleted : AuditEntry where
  id := 1
  timestamp := DateTime.unixEpoch
  event := .stateDeleted
  actor := "user-123"
  resource := "state-456"
  previousHash := ""
  entryHash := sha256Hex (hashed 1 "")
  metadata := none

/- The same under the id and link of the second deletion. -/
def renumbered : AuditEntry :=
  { deleted with
    id := 2
    previousHash := sha256Hex (hashed 1 "") }

/- The end of the actor moved into the resource. -/
def reattributed : AuditEntry :=
  { deleted with
    actor := "user-12"
    resource := "3state-456" }

/- Metadata that was not logged. -/
def annotated : AuditEntry :=
  { deleted with metadata := some (.string "approved") }

/- A logger that has made the first deletion. -/
def afterDeletion : AuditLogger Unit :=
  { fresh 2 with
    entries := [deleted]
    entryId := 1
    lastHash := deleted.entryHash }

end AuditSample

open AuditSample

/-
  Deletions by different names or numbers have the timestamp
  and the event in common; then only the digest matters.
-/
theorem AuditSample.hashesFaithfully
    {compared : Set AuditEntry}
    (hTimestamps :
      ∀ entry ∈ compared,
        entry.timestamp = deleted.timestamp)
    (hEvents :
      ∀ entry ∈ compared, entry.event = deleted.event)
    (hDigest :
      Set.InjOn Sha256.digest (hashInput '' compared)) :
    HashesFaithfully compared := by
  refine ⟨hDigest, ?_, ?_⟩
  · apply prefixFreeOn_of_forall_eq
    rintro _ ⟨entry, hEntry, rfl⟩
    exact hTimestamps entry hEntry
  · apply prefixFreeOn_of_forall_eq
    rintro _ ⟨entry, hEntry, rfl⟩
    exact hEvents entry hEntry

/- A new id and previous hash are noticed. -/
theorem tampering_sample :
    (afterDeletion.replaceEntry 0
      renumbered).verifyIntegrity = .ok false := by
  have hDigests :
      Sha256.digest (hashInput deleted) ≠
        Sha256.digest (hashInput renumbered) := by
    decide +kernel
  have hFaithful :
      HashesFaithfully {deleted, renumbered} := by
    apply AuditSample.hashesFaithfully
    · rintro entry (rfl | rfl) <;> rfl
    · rintro entry (rfl | rfl) <;> rfl
    · rw [Set.image_pair]
      rintro bytes (rfl | rfl) other (rfl | rfl) hEq
      · rfl
      · exact absurd hEq hDigests
      · exact absurd hEq.symm hDigests
      · rfl
  exact
    ((tampering_iff _ hFaithful).2 afterDeletion 0
      deleted (Or.inl rfl) renumbered (Or.inr rfl)
      (by decide +kernel) rfl rfl).mpr
        (Or.inl (by decide))

/-
  A character moved from the actor to the resource leaves
  the hash alone, and so does new metadata; the buffer still
  verifies.
-/
theorem tampering_unnoticed :
    HashesFaithfully {deleted, reattributed, annotated} ∧
      afterDeletion.verifyIntegrity = .ok true ∧
      (calculateHash reattributed =
          calculateHash deleted ∧
        reattributed.actor ≠ deleted.actor ∧
        (afterDeletion.replaceEntry 0
          reattributed).verifyIntegrity = .ok true) ∧
      calculateHash annotated = calculateHash deleted ∧
        annotated.metadata ≠ deleted.metadata ∧
        (afterDeletion.replaceEntry 0
          annotated).verifyIntegrity = .ok true := by
  have hMoved :
      hashInput reattributed = hashInput deleted := by
    decide +kernel
  refine ⟨?_, by decide +kernel, ⟨?_, by decide, ?_⟩, ?_⟩
  · apply AuditSample.hashesFaithfully
    · rintro entry (rfl | rfl | rfl) <;> rfl
    · rintro entry (rfl | rfl | rfl) <;> rfl
    · rintro _ ⟨entry, hEntry, rfl⟩ _ ⟨other, hOther, rfl⟩ _
      have hSame :
          ∀ entry ∈
              ({deleted, reattributed, annotated} :
                Set AuditEntry),
            hashInput entry = hashInput deleted := by
        rintro entry (rfl | rfl | rfl)
        · rfl
        · exact hMoved
        · rfl
      rw [hSame entry hEntry, hSame other hOther]
  · rw [calculateHash_eq, calculateHash_eq, hMoved]
  · decide +kernel
  · refine ⟨rfl, ?_, by decide +kernel⟩
    intro hMetadata
    cases hMetadata

end IsaWorkspace
