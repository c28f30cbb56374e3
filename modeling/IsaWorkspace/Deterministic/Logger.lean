import IsaWorkspace.Externals
import IsaWorkspace.Foundations.Exec
import IsaWorkspace.Foundations.HashMap
import IsaWorkspace.Model

/-
  The recorder of non-deterministic events.

  A logger numbers the events it records and keeps them as
  entries.  Of what it is told about an event, an entry
  keeps the `DeterministicEvent` and, for some kinds of
  event, a few more values as metadata.  The numbers come
  from a counter apart from the entries.

  Main declarations:
    * `SyscallEvent`, `NetworkIoEvent`, `RecordedEvent`
    * `EventMetadata`, `LogEntry`
    * `DeterministicLogger`, `DeterministicLogger.record`
    * `DeterministicLogger.getEventLog`
    * `DeterministicLogger.serialize`, `deserialize`
    * `DeterministicLogger.record_eq`
-/

------------------------------------------------------------
-- Recorded Events
------------------------------------------------------------

namespace IsaWorkspace

/- Syscall event details. -/
structure SyscallEvent where
  syscallNumber : UInt64
  syscallName : String
  arguments : Vector UInt64 6
  returnValue : Int64
  errorCode : Option Int32
deriving DecidableEq

/- Signal event details. -/
structure SignalEvent where
  signalNumber : Int32
  signalName : String
  sourcePid : Option UInt32
  siginfo : Option JsonValue

/- Thread scheduling event details. -/
structure ThreadScheduleEvent where
  threadId : UInt64
  cpuCore : UInt32
  timesliceUs : UInt64
  preempted : Bool
  reason : String
deriving DecidableEq

inductive IoDirection where
  | read
  | write
deriving DecidableEq

/- Network I/O event details. -/
structure NetworkIoEvent where
  connectionId : String
  direction : IoDirection
  bytesTransferred : UInt64
  payloadHash : Option String
deriving DecidableEq

inductive RandomSource where
  | rdRand
  | rdSeed
  | devUrandom
  | getRandom
deriving DecidableEq

/- Randomness seed event details. -/
structure RandomnessSeedEvent where
  source : RandomSource
  seed : UInt64
  bytesRead : UInt64
deriving DecidableEq

/- The names of the variants, as they are printed. -/
def IoDirection.debug : IoDirection → String
| read => "Read"
| write => "Write"

def RandomSource.debug : RandomSource → String
| rdRand => "RdRand"
| rdSeed => "RdSeed"
| devUrandom => "DevUrandom"
| getRandom => "GetRandom"

/- What the tracer captures of a system call. -/
structure SyscallInfo where
  name : String
deriving DecidableEq

------------------------------------------------------------
-- Log Entries
------------------------------------------------------------

/- Event metadata for additional context. -/
structure EventMetadata where
  threadId : UInt64
  cpuCore : Option UInt32
  instructionPointer : Option UInt64
  extra : HashMap String JsonValue

/- A single deterministic log entry. -/
structure LogEntry where
  sequence : UInt64
  timestamp : Option DateTime
  event : DeterministicEvent
  metadata : Option EventMetadata

namespace LogEntry

def new
    (now : DateTime)
    (sequence : UInt64)
    (event : DeterministicEvent) : LogEntry where
  sequence := sequence
  timestamp := some now
  event := event
  metadata := none

def withMetadata
    (entry : LogEntry)
    (metadata : EventMetadata) : LogEntry :=
  { entry with metadata := some metadata }

end LogEntry

/- Execution log configuration. -/
structure DeterministicLogConfig where
  maxEntries : Nat
  strictReplay : Bool
  includeTimestamps : Bool
deriving DecidableEq

inductive LoggerError where
  | serializationError (message : String)
  | deserializationError (message : String)
  | bufferFull
  | ioError (message : String)
deriving DecidableEq

/- Deterministic log recorder. -/
structure DeterministicLogger where
  config : DeterministicLogConfig
  entries : List LogEntry
  sequence : UInt64
  recording : Bool

end IsaWorkspace

------------------------------------------------------------
-- Recording
------------------------------------------------------------

namespace IsaWorkspace

namespace DeterministicLogger

/- Create a new deterministic logger. -/
def new
    (config : DeterministicLogConfig) :
    DeterministicLogger where
  config := config
  entries := []
  sequence := 0
  recording := true

/- Enable recording. -/
def enableRecording
    (logger : DeterministicLogger) : DeterministicLogger :=
  { logger with recording := true }

/- Disable recording. -/
def disableRecording
    (logger : DeterministicLogger) : DeterministicLogger :=
  { logger with recording := false }

/- The next sequence number, under its lock. -/
def takeSequence
    [BuildProfile] :
    Exec DeterministicLogger LoggerError UInt64 := do
  let logger ← Exec.read
  let sequence ← Exec.orPanic (checkedAdd logger.sequence 1)
  Exec.update fun logger =>
    { logger with sequence := sequence }
  pure sequence

/- An entry at the end, under the lock of the entries. -/
def push
    (entry : LogEntry)
    (logger : DeterministicLogger) : DeterministicLogger :=
  { logger with entries := logger.entries ++ [entry] }

/-
  What the calls below have in common.  A logger that is not
  recording returns zero.
-/
def logEvent
    [BuildProfile]
    (entry : UInt64 → LogEntry) :
    Exec DeterministicLogger LoggerError UInt64 := do
  let logger ← Exec.read
  if logger.recording then
    let sequence ← takeSequence
    Exec.update (push (entry sequence))
    pure sequence
  else
    pure 0

variable [BuildProfile]

/- Log a syscall event from the tracer. -/
def logSyscallEvent
    (now : DateTime)
    (syscall : SyscallInfo) :
    Exec DeterministicLogger LoggerError UInt64 :=
  logEvent fun sequence =>
    LogEntry.new now sequence (.syscall syscall.name)

/- Log a syscall event. -/
def logSyscall
    (now : DateTime)
    (syscall : SyscallEvent) :
    Exec DeterministicLogger LoggerError UInt64 :=
  logEvent fun sequence =>
    (LogEntry.new now sequence
      (.syscall syscall.syscallName)).withMetadata
        { threadId := 0
          cpuCore := none
          instructionPointer := none
          extra := ∅ }

/- Log a signal event. -/
def logSignal
    (now : DateTime)
    (signal : SignalEvent) :
    Exec DeterministicLogger LoggerError UInt64 :=
  logEvent fun sequence =>
    LogEntry.new now sequence (.signal signal.signalName)

/- Log a thread scheduling event. -/
def logThreadSchedule
    (now : DateTime)
    (schedule : ThreadScheduleEvent) :
    Exec DeterministicLogger LoggerError UInt64 :=
  logEvent fun sequence =>
    (LogEntry.new now sequence
      (.threadSchedule schedule.threadId)).withMetadata
        { threadId := schedule.threadId
          cpuCore := some schedule.cpuCore
          instructionPointer := none
          extra := ∅ }

/- The metadata of a network I/O event. -/
def networkIoExtra
    (io : NetworkIoEvent) : HashMap String JsonValue :=
  let map :=
    ((∅ : HashMap String JsonValue).insert "direction"
      (.string io.direction.debug)).insert
        "bytes_transferred" (.posInt io.bytesTransferred)
  match io.payloadHash with
  | some hash => map.insert "payload_hash" (.string hash)
  | none => map

/- Log a network I/O event. -/
def logNetworkIo
    (now : DateTime)
    (io : NetworkIoEvent) :
    Exec DeterministicLogger LoggerError UInt64 :=
  logEvent fun sequence =>
    (LogEntry.new now sequence
      (.networkIoBoundary io.connectionId)).withMetadata
        { threadId := 0
          cpuCore := none
          instructionPointer := none
          extra := networkIoExtra io }

/- Log a randomness seed event. -/
def logRandomness
    (now : DateTime)
    (seed : RandomnessSeedEvent) :
    Exec DeterministicLogger LoggerError UInt64 :=
  logEvent fun sequence =>
    (LogEntry.new now sequence
      (.randomnessSeed seed.seed)).withMetadata
        { threadId := 0
          cpuCore := none
          instructionPointer := none
          extra :=
            ((∅ : HashMap String JsonValue).insert "source"
              (.string seed.source.debug)).insert
                "bytes_read" (.posInt seed.bytesRead) }

------------------------------------------------------------
-- The Log
------------------------------------------------------------

omit [BuildProfile]

/- Get the current event log. -/
def getEventLog
    (logger : DeterministicLogger) : EventLog :=
  ⟨logger.entries.map LogEntry.event⟩

/- Clear all log entries. -/
def clear
    (logger : DeterministicLogger) : DeterministicLogger :=
  { logger with
    entries := []
    sequence := 0 }

variable [SerdeJson (List LogEntry)]

/- Serialize log to bytes. -/
def serialize :
    Exec DeterministicLogger LoggerError Bytes := do
  let logger ← Exec.read
  Exec.ofExcept
    (fun message =>
      .serializationError ("Failed to serialize: " ++ message))
    (SerdeJson.toVec logger.entries)

/- Deserialize log from bytes. -/
def deserialize
    (data : Bytes) :
    Exec DeterministicLogger LoggerError Unit := do
  let entries : List LogEntry ←
    Exec.ofExcept
      (fun message =>
        .deserializationError
          ("Failed to deserialize: " ++ message))
      (SerdeJson.fromSlice data)
  Exec.update fun logger =>
    { logger with entries := entries }

end DeterministicLogger

end IsaWorkspace

------------------------------------------------------------
-- One Call for Every Kind of Event
------------------------------------------------------------

namespace IsaWorkspace

/- An event, as it is told to the logger. -/
inductive RecordedEvent where
  | syscall (event : SyscallEvent)
  | signal (event : SignalEvent)
  | threadSchedule (event : ThreadScheduleEvent)
  | networkIo (event : NetworkIoEvent)
  | randomness (event : RandomnessSeedEvent)

namespace RecordedEvent

/- The event that goes to the log. -/
def toEvent : RecordedEvent → DeterministicEvent
| syscall event => .syscall event.syscallName
| signal event => .signal event.signalName
| threadSchedule event => .threadSchedule event.threadId
| networkIo event => .networkIoBoundary event.connectionId
| randomness event => .randomnessSeed event.seed

/- What the log keeps of the event besides. -/
def metadata : RecordedEvent → Option EventMetadata
| syscall _ => some ⟨0, none, none, ∅⟩
| signal _ => none
| threadSchedule event =>
    some ⟨event.threadId, some event.cpuCore, none, ∅⟩
| networkIo event =>
    some
      ⟨0, none, none,
        DeterministicLogger.networkIoExtra event⟩
| randomness event =>
    some
      ⟨0, none, none,
        ((∅ : HashMap String JsonValue).insert "source"
          (.string event.source.debug)).insert
            "bytes_read" (.posInt event.bytesRead)⟩

end RecordedEvent

/- The arguments of a call, and the time when it is made. -/
structure RecordRequest where
  now : DateTime
  recorded : RecordedEvent

/- The entry of a call under its sequence number. -/
def RecordRequest.entry
    (request : RecordRequest)
    (sequence : UInt64) : LogEntry where
  sequence := sequence
  timestamp := some request.now
  event := request.recorded.toEvent
  metadata := request.recorded.metadata

namespace DeterministicLogger

variable [BuildProfile]

/- The call for a kind of event. -/
def record
    (request : RecordRequest) :
    Exec DeterministicLogger LoggerError UInt64 :=
  match request.recorded with
  | .syscall event => logSyscall request.now event
  | .signal event => logSignal request.now event
  | .threadSchedule event =>
      logThreadSchedule request.now event
  | .networkIo event => logNetworkIo request.now event
  | .randomness event => logRandomness request.now event

/- The calls differ in the entry they push. -/
theorem record_eq
    (request : RecordRequest) :
    record request = logEvent request.entry := by
  rcases request with ⟨now, recorded⟩
  cases recorded with
  | syscall event => rfl
  | signal event => rfl
  | threadSchedule event => rfl
  | networkIo event => rfl
  | randomness event => rfl

/- Without a number there is a panic, else a new counter. -/
theorem takeSequence_eq
    (logger : DeterministicLogger) :
    takeSequence logger =
      match checkedAdd logger.sequence 1 with
      | none => (.panicked, logger)
      | some sequence =>
          (.ok sequence,
            { logger with sequence := sequence }) := by
  unfold takeSequence
  rw [Exec.read_bind_apply]
  cases checkedAdd logger.sequence 1 with
  | none => rfl
  | some sequence => rfl

/- A recording logger pushes the entry under its number. -/
theorem logEvent_eq
    (entry : UInt64 → LogEntry)
    {logger : DeterministicLogger}
    (hRecording : logger.recording = true) :
    logEvent entry logger =
      match checkedAdd logger.sequence 1 with
      | none => (.panicked, logger)
      | some sequence =>
          (.ok sequence,
            push (entry sequence)
              { logger with sequence := sequence }) := by
  unfold logEvent
  rw [Exec.read_bind_apply, if_pos hRecording]
  have hTake := takeSequence_eq logger
  cases hSum : checkedAdd logger.sequence 1 with
  | none =>
      rw [hSum] at hTake
      exact Exec.bind_of_panicked hTake
  | some sequence =>
      rw [hSum] at hTake
      rw [Exec.bind_of_ok hTake, Exec.update_bind_apply]
      rfl

/- A logger that is not recording is left alone. -/
theorem logEvent_of_paused
    (entry : UInt64 → LogEntry)
    {logger : DeterministicLogger}
    (hPaused : logger.recording = false) :
    logEvent entry logger = (.ok 0, logger) := by
  unfold logEvent
  rw [Exec.read_bind_apply, hPaused]
  rfl

end DeterministicLogger

end IsaWorkspace
