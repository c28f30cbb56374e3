import IsaWorkspace.Audit.Logger

/-
  What each operation of the audit logger computes.

  A `LogRequest` holds the arguments of a call of `log`.
  Logging pushes one entry, made of the request, the next id
  and the last hash.

  Main declarations:
    * `LogRequest`, `LogRequest.entry`
    * `AuditLogger.push`
    * `AuditLogger.log_eq`
    * `AuditLogger.trim_of_length_le`
    * `AuditLogger.of_new_ok`
-/

------------------------------------------------------------
-- Requests
------------------------------------------------------------

namespace IsaWorkspace

/- The arguments of a call of `log`, and its time. -/
structure LogRequest where
  now : DateTime
  event : AuditEvent
  actor : String
  resource : String
  metadata : Option JsonValue

section Entries

variable [Sha256] [SerdeJson AuditEvent] [Rfc3339]

/- The entry made of a request, with its hash. -/
def LogRequest.entry
    (request : LogRequest)
    (id : UInt64)
    (previousHash : String) : AuditEntry :=
  let unhashed : AuditEntry :=
    { id := id
      timestamp := request.now
      event := request.event
      actor := request.actor
      resource := request.resource
      previousHash := previousHash
      entryHash := ""
      metadata := request.metadata }
  { unhashed with entryHash := calculateHash unhashed }

@[simp] theorem LogRequest.entry_id
    (request : LogRequest)
    (id : UInt64)
    (previousHash : String) :
    (request.entry id previousHash).id = id := rfl

@[simp] theorem LogRequest.entry_previousHash
    (request : LogRequest)
    (id : UInt64)
    (previousHash : String) :
    (request.entry id previousHash).previousHash =
      previousHash := rfl

/- The hash leaves out the place it is stored in. -/
theorem LogRequest.calculateHash_entry
    (request : LogRequest)
    (id : UInt64)
    (previousHash : String) :
    calculateHash (request.entry id previousHash) =
      (request.entry id previousHash).entryHash := rfl

/- No entry has the empty hash. -/
theorem LogRequest.entryHash_ne_empty
    (request : LogRequest)
    (id : UInt64)
    (previousHash : String) :
    (request.entry id previousHash).entryHash ≠ "" := by
  rw [← request.calculateHash_entry id previousHash]
  exact sha256Hex_ne_empty _

end Entries

------------------------------------------------------------
-- Logging
------------------------------------------------------------

namespace AuditLogger

variable {F : Type}

/- Make an entry the last one, and trim the buffer. -/
def push
    (logger : AuditLogger F)
    (entry : AuditEntry) : AuditLogger F :=
  { logger with
    entryId := entry.id
    lastHash := entry.entryHash
    entries :=
      trim logger.config.maxMemoryEntries
        (logger.entries ++ [entry]) }

/- Logging pushes the entry of the request. -/
theorem log_eq
    [Sha256] [SerdeJson AuditEvent] [Rfc3339]
    [BuildProfile]
    (request : LogRequest)
    (logger : AuditLogger F) :
    log request.now request.event request.actor
        request.resource request.metadata logger =
      match checkedAdd logger.entryId 1 with
      | none => (.panicked, logger)
      | some id =>
          (.ok id,
            logger.push
              (request.entry id logger.lastHash)) := by
  unfold log
  rw [Exec.read_bind_apply]
  cases checkedAdd logger.entryId 1 with
  | none => rfl
  | some id => rfl

/- A list within the limit is not trimmed. -/
theorem trim_of_length_le
    {limit : Nat}
    {entries : List AuditEntry}
    (hLimit : entries.length ≤ limit) :
    trim limit entries = entries := by
  cases entries with
  | nil => rfl
  | cons entry rest =>
      unfold trim
      rw [if_neg (Nat.not_lt.mpr hLimit)]

/- What is left after trimming is within the limit. -/
theorem length_trim_le
    (limit : Nat)
    (entries : List AuditEntry) :
    (trim limit entries).length ≤ limit := by
  induction entries with
  | nil => exact Nat.zero_le limit
  | cons entry rest ih =>
      unfold trim
      split
      · exact ih
      · next hLimit => exact Nat.not_lt.mp hLimit

/- With room for one more, an entry is just appended. -/
theorem push_entries_of_lt
    {logger : AuditLogger F}
    {entry : AuditEntry}
    (hRoom :
      logger.entries.length <
        logger.config.maxMemoryEntries) :
    (logger.push entry).entries =
      logger.entries ++ [entry] := by
  unfold push
  apply trim_of_length_le
  rw [List.length_append]
  exact hRoom

------------------------------------------------------------
-- Opening
------------------------------------------------------------

/- A new logger has logged nothing. -/
theorem of_new_ok
    [LogFiles F] [SerdeJson AuditEntry]
    {config : AuditConfig}
    {files files' : F}
    {logger : AuditLogger F}
    (hNew : new config files = (.ok logger, files')) :
    ∃ lastHash,
      openLogFile config.logFile files =
          (.ok lastHash, files') ∧
        logger =
          { config := config
            entries := []
            entryId := 0
            lastHash := lastHash
            logFile := config.logFile
            files := files' } := by
  unfold new at hNew
  rcases Exec.of_bind_ok hNew with
    ⟨lastHash, opened, hOpen, hRest⟩
  rw [Exec.read_bind_apply] at hRest
  cases hRest
  exact ⟨lastHash, hOpen, rfl⟩

end AuditLogger

end IsaWorkspace
