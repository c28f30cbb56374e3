import IsaWorkspace.Externals
import IsaWorkspace.Foundations.Exec
import IsaWorkspace.Model

/-
  The audit logger.

  A logger buffers entries, each with the hash of the entry
  before it.  `log` appends an entry and drops entries from
  the front of the buffer beyond the configured number.
  `flush` moves the buffer to the log file, where there is
  one.  The log file is reached through the calls of
  `LogFiles`, each of which may fail.

  Main declarations:
    * `AuditEvent`, `AuditEntry`, `AuditConfig`
    * `LogFiles`, `AuditLogger`
    * `AuditLogger.new`, `AuditLogger.log`
    * `AuditLogger.flush`, `AuditLogger.flushTask`
    * `calculateHash`, `AuditLogger.verifyIntegrity`
-/

------------------------------------------------------------
-- Entries
------------------------------------------------------------

namespace IsaWorkspace

/- Audit event types. -/
inductive AuditEvent where
  | stateCreated (label : String)
  | stateResumed (mode : String)
  | stateForked (fromState : String)
  | stateDeleted
  | stateShared
      (withUser : String)
      (permissions : List String)
  | accessGranted
      (user : String)
      (permissions : List String)
  | accessRevoked (user : String)
  | accessDenied (reason : String)
  | login (method : String) (success : Bool)
  | logout
  | tokenRefreshed
  | keyRotated (oldVersion newVersion : UInt32)
  | encryptionEnabled
  | encryptionDisabled
  | configChanged (setting oldValue newValue : String)
  | backupCreated (location : String)
  | backupRestored (location : String)
  | error (code message : String)
deriving DecidableEq, Repr

/- Audit log entry. -/
structure AuditEntry where
  id : UInt64
  timestamp : DateTime
  event : AuditEvent
  actor : String
  resource : String
  previousHash : String
  entryHash : String
  metadata : Option JsonValue

/- Audit log configuration. -/
structure AuditConfig where
  maxMemoryEntries : Nat
  logFile : Option String
deriving DecidableEq, Repr

inductive AuditError where
  | ioError (message : String)
  | serializationError (message : String)
  | integrityCheckFailed
deriving DecidableEq, Repr

/-
  The file calls the logger makes.  A log file is opened for
  appending, and named by its path.
-/
class LogFiles (F : Type) where
  openAppend : String → Exec F String Unit
  readToString : String → Exec F String String
  writeAll : String → Bytes → Exec F String Unit
  flush : String → Exec F String Unit

/- Audit logger. -/
structure AuditLogger (F : Type) where
  config : AuditConfig
  entries : List AuditEntry
  entryId : UInt64
  lastHash : String
  logFile : Option String
  files : F

end IsaWorkspace

------------------------------------------------------------
-- Opening a Logger
------------------------------------------------------------

namespace IsaWorkspace

namespace AuditLogger

/-
  The lines of a text.  A line ends with a line feed, or a
  carriage return and a line feed, or the text.
-/
def lines : List Char → List (List Char)
| [] => []
| '\r' :: '\n' :: rest => [] :: lines rest
| '\n' :: rest => [] :: lines rest
| char :: rest =>
    match lines rest with
    | [] => [[char]]
    | line :: others => (char :: line) :: others

variable {F : Type} [LogFiles F]
variable [SerdeJson AuditEntry]

/- Load the last hash from an existing log file. -/
def loadLastHash
    (path : String) : Exec F AuditError String := do
  let content ←
    Exec.mapErr AuditError.ioError
      (LogFiles.readToString path)
  match (lines content.toList).getLast? with
  | none => pure ""
  | some line =>
      match (SerdeJson.fromSlice
          (asBytes (String.ofList line)) :
            Except String AuditEntry) with
      | .ok entry => pure entry.entryHash
      | .error _ => pure ""

/- Open the log file, if one is configured. -/
def openLogFile :
    Option String → Exec F AuditError String
| none => pure ""
| some path => do
    Exec.mapErr AuditError.ioError
      (LogFiles.openAppend path)
    loadLastHash path

/- Create a new audit logger. -/
def new
    (config : AuditConfig) :
    Exec F AuditError (AuditLogger F) := do
  let lastHash ← openLogFile config.logFile
  let files ← Exec.read
  pure
    { config := config
      entries := []
      entryId := 0
      lastHash := lastHash
      logFile := config.logFile
      files := files }

end AuditLogger

end IsaWorkspace

------------------------------------------------------------
-- Logging
------------------------------------------------------------

namespace IsaWorkspace

/- Calculate the hash of an entry. -/
def calculateHash
    [Sha256] [SerdeJson AuditEvent] [Rfc3339]
    (entry : AuditEntry) : String :=
  sha256Hex
    (toBeBytes entry.id ++
      asBytes (Rfc3339.toRfc3339 entry.timestamp) ++
      (SerdeJson.toVec entry.event).toOption.getD [] ++
      asBytes entry.actor ++
      asBytes entry.resource ++
      asBytes entry.previousHash)

namespace AuditLogger

variable {F : Type}

/- Drop entries from the front beyond a number. -/
def trim
    (limit : Nat) :
    List AuditEntry → List AuditEntry
| [] => []
| entry :: rest =>
    if limit < (entry :: rest).length then
      trim limit rest
    else
      entry :: rest

/- Log an audit event. -/
def log
    [Sha256] [SerdeJson AuditEvent] [Rfc3339]
    [BuildProfile]
    (now : DateTime)
    (event : AuditEvent)
    (actor resource : String)
    (metadata : Option JsonValue) :
    Exec (AuditLogger F) AuditError UInt64 := do
  let logger ← Exec.read
  let id ← Exec.orPanic (checkedAdd logger.entryId 1)
  let unhashed : AuditEntry :=
    { id := id
      timestamp := now
      event := event
      actor := actor
      resource := resource
      previousHash := logger.lastHash
      entryHash := ""
      metadata := metadata }
  let entry :=
    { unhashed with entryHash := calculateHash unhashed }
  Exec.update fun logger =>
    { logger with
      entryId := id
      lastHash := entry.entryHash
      entries :=
        trim logger.config.maxMemoryEntries
          (logger.entries ++ [entry]) }
  pure id

------------------------------------------------------------
-- Flushing
------------------------------------------------------------

variable [LogFiles F] [SerdeJson AuditEntry]

/- Write one entry as a line of the log file. -/
def writeEntry
    (path : String)
    (entry : AuditEntry) : Exec F AuditError Unit := do
  let json ←
    Exec.ofExcept AuditError.serializationError
      (SerdeJson.toVec entry)
  Exec.mapErr AuditError.ioError
    (LogFiles.writeAll path json)
  Exec.mapErr AuditError.ioError
    (LogFiles.writeAll path (asBytes "\n"))

/-
  Write the buffered entries front to back.  An entry leaves
  the buffer before it is written; the buffer that is left
  comes with the files.
-/
def drain
    (path : String) :
    List AuditEntry →
      F → Outcome AuditError Unit × List AuditEntry × F
| [], files => (.ok (), [], files)
| entry :: rest, files =>
    match writeEntry path entry files with
    | (.ok _, files') => drain path rest files'
    | (.err error, files') => (.err error, rest, files')
    | (.panicked, files') => (.panicked, rest, files')

/- Empty the buffer into the log file. -/
def drainEntries
    (path : String) :
    Exec (AuditLogger F) AuditError Unit :=
  fun logger =>
    let result := drain path logger.entries logger.files
    (result.1,
      { logger with
        entries := result.2.1
        files := result.2.2 })

/- Flush all entries to disk immediately. -/
def flush : Exec (AuditLogger F) AuditError Unit := do
  let logger ← Exec.read
  match logger.logFile with
  | none => pure ()
  | some path => do
      drainEntries path
      Exec.onPart AuditLogger.files
        (fun logger files => { logger with files := files })
        (Exec.mapErr AuditError.ioError
          (LogFiles.flush path))

------------------------------------------------------------
-- The Background Flush Task
------------------------------------------------------------

/-
  Write one entry as the background task does: an entry
  without JSON text is passed over, and so are the errors of
  the two writes.
-/
def writeEntryAnyway
    (path : String)
    (entry : AuditEntry) : Exec F AuditError Unit :=
  match SerdeJson.toVec entry with
  | .error _ => pure ()
  | .ok json => do
      Exec.ignoreErr
        (Exec.mapErr AuditError.ioError
          (LogFiles.writeAll path json))
      Exec.ignoreErr
        (Exec.mapErr AuditError.ioError
          (LogFiles.writeAll path (asBytes "\n")))

/-
  Pop the buffered entries front to back, and do something
  with each until that fails.
-/
def drainWith
    (write : AuditEntry → Exec F AuditError Unit) :
    List AuditEntry →
      F → Outcome AuditError Unit × List AuditEntry × F
| [], files => (.ok (), [], files)
| entry :: rest, files =>
    match write entry files with
    | (.ok _, files') => drainWith write rest files'
    | (.err error, files') => (.err error, rest, files')
    | (.panicked, files') => (.panicked, rest, files')

/- Empty the buffer into the log file, come what may. -/
def drainEntriesAnyway
    (path : String) :
    Exec (AuditLogger F) AuditError Unit :=
  fun logger =>
    let result :=
      drainWith (writeEntryAnyway path) logger.entries
        logger.files
    (result.1,
      { logger with
        entries := result.2.1
        files := result.2.2 })

/- One turn of the background flush task. -/
def flushTask : Exec (AuditLogger F) AuditError Unit := do
  let logger ← Exec.read
  match logger.logFile with
  | none => pure ()
  | some path => do
      drainEntriesAnyway path
      Exec.ignoreErr
        (Exec.onPart AuditLogger.files
          (fun logger files => { logger with files := files })
          (Exec.mapErr AuditError.ioError
            (LogFiles.flush path)))

end AuditLogger

end IsaWorkspace

------------------------------------------------------------
-- Verifying
------------------------------------------------------------

namespace IsaWorkspace

namespace AuditLogger

variable {F : Type}
variable [Sha256] [SerdeJson AuditEvent] [Rfc3339]

/- Check entries against the hash expected of the first. -/
def verifyEntries :
    String → List AuditEntry → Bool
| _, [] => true
| expectedHash, entry :: rest =>
    if entry.previousHash ≠ expectedHash then
      false
    else if calculateHash entry ≠ entry.entryHash then
      false
    else
      verifyEntries entry.entryHash rest

/- Verify log integrity. -/
def verifyIntegrity
    (logger : AuditLogger F) : Outcome AuditError Bool :=
  .ok (verifyEntries "" logger.entries)

end AuditLogger

end IsaWorkspace
