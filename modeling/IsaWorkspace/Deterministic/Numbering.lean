import IsaWorkspace.Deterministic.Ordering

/-
  Sequence numbers over whole histories of loggers.

  Loggers are opened, record, are cleared, and exchange
  their logs as bytes.  Loading a log replaces the entries
  and leaves the counter where it was.  The numbers stay
  unique and increasing exactly when no logger records with
  its counter behind its log.

  Main declarations:
    * `LoggerFleet`, `FleetOp`, `LoggerFleet.step`
    * `UniqueNumbers`, `KeepsNumbers`
    * `increasing_logEvent_iff`
    * `Sound`, `sound_step`
    * `uniqueNumbers_iff`
-/

------------------------------------------------------------
-- Loggers and Their Calls
------------------------------------------------------------

namespace IsaWorkspace

/- Some loggers, and the bytes that they have returned. -/
structure LoggerFleet where
  loggers : List DeterministicLogger
  serialized : List Bytes

/-
  A call on the logger at a position.  What is loaded is at
  a position of the returned bytes.
-/
inductive FleetOp where
  | new (config : DeterministicLogConfig)
  | record (logger : Nat) (request : RecordRequest)
  | logSyscallEvent
      (logger : Nat)
      (now : DateTime)
      (syscall : SyscallInfo)
  | enableRecording (logger : Nat)
  | disableRecording (logger : Nat)
  | clear (logger : Nat)
  | serialize (logger : Nat)
  | deserialize (logger source : Nat)

namespace LoggerFleet

variable [BuildProfile] [SerdeJson (List LogEntry)]

/- Change the logger at a position, if there is one. -/
omit [BuildProfile] [SerdeJson (List LogEntry)] in
def modify
    (fleet : LoggerFleet)
    (logger : Nat)
    (change : DeterministicLogger → DeterministicLogger) :
    LoggerFleet :=
  { fleet with
    loggers := fleet.loggers.modify logger change }

/- Keep the bytes that a call has returned. -/
omit [BuildProfile] [SerdeJson (List LogEntry)] in
def store
    (fleet : LoggerFleet) :
    Outcome LoggerError Bytes → LoggerFleet
| .ok data =>
    { fleet with serialized := fleet.serialized ++ [data] }
| _ => fleet

/- One call. -/
def step
    (fleet : LoggerFleet) : FleetOp → LoggerFleet
| .new config =>
    { fleet with
      loggers :=
        fleet.loggers ++ [DeterministicLogger.new config] }
| .record logger request =>
    fleet.modify logger fun logger =>
      (DeterministicLogger.record request logger).2
| .logSyscallEvent logger now syscall =>
    fleet.modify logger fun logger =>
      (DeterministicLogger.logSyscallEvent now syscall
        logger).2
| .enableRecording logger =>
    fleet.modify logger DeterministicLogger.enableRecording
| .disableRecording logger =>
    fleet.modify logger DeterministicLogger.disableRecording
| .clear logger =>
    fleet.modify logger DeterministicLogger.clear
| .serialize logger =>
    match fleet.loggers[logger]? with
    | none => fleet
    | some logger =>
        fleet.store (DeterministicLogger.serialize logger).1
| .deserialize logger source =>
    match fleet.serialized[source]? with
    | none => fleet
    | some data =>
        fleet.modify logger fun logger =>
          (DeterministicLogger.deserialize data logger).2

end LoggerFleet

------------------------------------------------------------
-- The Property
------------------------------------------------------------

/-
  No two entries of a log have the same number, and the
  numbers increase along it.
-/
def UniqueNumbers
    (fleet : LoggerFleet) : Prop :=
  ∀ logger ∈ fleet.loggers,
    (logger.entries.map LogEntry.sequence).Nodup ∧
      Increasing logger.entries

instance
    (fleet : LoggerFleet) :
    Decidable (UniqueNumbers fleet) := by
  unfold UniqueNumbers
  infer_instance

/- Numbers that increase are distinct. -/
theorem uniqueNumbers_iff_increasing
    {fleet : LoggerFleet} :
    UniqueNumbers fleet ↔
      ∀ logger ∈ fleet.loggers,
        Increasing logger.entries := by
  unfold UniqueNumbers
  apply forall₂_congr
  intro logger _
  refine ⟨And.right, fun hIncreasing => ⟨?_, hIncreasing⟩⟩
  apply List.pairwise_map.mpr
  apply hIncreasing.imp
  intro earlier later hLess hSame
  rw [hSame] at hLess
  exact UInt64.lt_irrefl _ hLess

/- A call records only where the counter is not behind. -/
def RecordsAhead
    [BuildProfile]
    (fleet : LoggerFleet) : FleetOp → Prop
| .record logger _ | .logSyscallEvent logger _ _ =>
    ∀ recorder ∈ fleet.loggers[logger]?,
      CounterAhead recorder
| _ => True

instance
    [BuildProfile]
    (fleet : LoggerFleet)
    (op : FleetOp) :
    Decidable (RecordsAhead fleet op) := by
  cases op <;> unfold RecordsAhead <;> infer_instance

/- What is read back from JSON has the numbers it had. -/
def KeepsNumbers
    [SerdeJson (List LogEntry)] : Prop :=
  ∀ (entries loaded : List LogEntry) (json : Bytes),
    SerdeJson.toVec entries = .ok json →
      SerdeJson.fromSlice json = .ok loaded →
        loaded.map LogEntry.sequence =
          entries.map LogEntry.sequence

------------------------------------------------------------
-- Recording, Storing and Loading
------------------------------------------------------------

section Histories

/- Entries with the same numbers are in the same order. -/
theorem increasing_congr
    {entries other : List LogEntry}
    (hNumbers :
      entries.map LogEntry.sequence =
        other.map LogEntry.sequence)
    (hIncreasing : Increasing other) :
    Increasing entries := by
  unfold Increasing at hIncreasing ⊢
  rw [← List.pairwise_map] at hIncreasing ⊢
  rw [hNumbers]
  exact hIncreasing

/-
  What holds of all loggers holds after a change of one
  exactly when it holds of the changed one.
-/
theorem forall_mem_modify_iff
    {P : DeterministicLogger → Prop}
    {loggers : List DeterministicLogger}
    (hAll : ∀ logger ∈ loggers, P logger)
    (position : Nat)
    (change : DeterministicLogger → DeterministicLogger) :
    (∀ logger ∈ loggers.modify position change,
        P logger) ↔
      ∀ logger ∈ loggers[position]?, P (change logger) := by
  constructor
  · intro hNext logger hLogger
    apply hNext
    apply List.mem_iff_getElem?.mpr
    refine ⟨position, ?_⟩
    rw [List.getElem?_modify_eq,
      Option.mem_def.mp hLogger]
    rfl
  · intro hChanged logger hLogger
    rcases List.mem_iff_getElem?.mp hLogger with
      ⟨other, hOther⟩
    rw [List.getElem?_modify] at hOther
    rcases Option.map_eq_some_iff.mp hOther with
      ⟨before, hBefore, rfl⟩
    by_cases hSame : position = other
    · rw [if_pos hSame]
      rw [← hSame] at hBefore
      exact hChanged before hBefore
    · rw [if_neg hSame]
      exact hAll before (List.mem_of_getElem? hBefore)

variable [BuildProfile]

/-
  An increasing log increases after a call exactly when the
  counter was not behind it.
-/
theorem increasing_logEvent_iff
    {entry : UInt64 → LogEntry}
    (hNumber : ∀ sequence,
      (entry sequence).sequence = sequence)
    {logger : DeterministicLogger}
    (hIncreasing : Increasing logger.entries) :
    Increasing
        (DeterministicLogger.logEvent entry
          logger).2.entries ↔
      CounterAhead logger := by
  cases hRecording : logger.recording with
  | false =>
      rw [DeterministicLogger.logEvent_of_paused _ hRecording]
      refine ⟨?_, fun _ => hIncreasing⟩
      intro _ hOther
      rw [hRecording] at hOther
      cases hOther
  | true =>
      have hAhead :
          CounterAhead logger ↔
            ∀ sequence ∈ checkedAdd logger.sequence 1,
              ∀ entry ∈ logger.entries,
                entry.sequence < sequence :=
        forall_prop_of_true hRecording
      rw [DeterministicLogger.logEvent_eq _ hRecording,
        hAhead]
      cases checkedAdd logger.sequence 1 with
      | none =>
          refine ⟨?_, fun _ => hIncreasing⟩
          rintro _ _ ⟨⟩
      | some sequence =>
          have hPush :
              Increasing (logger.entries ++ [entry sequence]) ↔
                ∀ earlier ∈ logger.entries,
                  earlier.sequence < sequence := by
            rw [increasing_concat_iff, hNumber]
            exact and_iff_right hIncreasing
          refine ⟨?_, fun hAhead => hPush.mpr (hAhead _ rfl)⟩
          rintro hNext _ ⟨⟩
          exact hPush.mp hNext

variable [SerdeJson (List LogEntry)]

/-
  The log after loading is the one there was, or has the
  numbers of the one that was stored.
-/
omit [BuildProfile] in
theorem deserialize_entries
    (hKeeps : KeepsNumbers)
    {entries : List LogEntry}
    {data : Bytes}
    (hStored : SerdeJson.toVec entries = .ok data)
    (logger : DeterministicLogger) :
    (DeterministicLogger.deserialize data logger).2 =
        logger ∨
      (DeterministicLogger.deserialize data
          logger).2.entries.map LogEntry.sequence =
        entries.map LogEntry.sequence := by
  unfold DeterministicLogger.deserialize
  cases hLoaded :
      (SerdeJson.fromSlice data :
        Except String (List LogEntry)) with
  | error message => exact Or.inl rfl
  | ok loaded =>
      exact Or.inr (hKeeps entries loaded data hStored hLoaded)

/- What is returned is the JSON of the log. -/
omit [BuildProfile] in
theorem serialize_ok
    {logger : DeterministicLogger}
    {data : Bytes}
    (hSerialize :
      (DeterministicLogger.serialize logger).1 =
        .ok data) :
    SerdeJson.toVec logger.entries = .ok data := by
  unfold DeterministicLogger.serialize at hSerialize
  rw [Exec.read_bind_apply] at hSerialize
  cases hJson : SerdeJson.toVec logger.entries with
  | error message =>
      rw [hJson] at hSerialize
      cases hSerialize
  | ok json =>
      rw [hJson] at hSerialize
      cases hSerialize
      rfl

------------------------------------------------------------
-- The Invariant
------------------------------------------------------------

/- The logs increase, and so do the ones that were stored. -/
omit [BuildProfile] in
structure Sound
    (fleet : LoggerFleet) : Prop where
  loggers :
    ∀ logger ∈ fleet.loggers, Increasing logger.entries
  serialized :
    ∀ data ∈ fleet.serialized,
      ∃ entries,
        SerdeJson.toVec entries = .ok data ∧
          Increasing entries

variable {fleet : LoggerFleet}

/- A change of one logger has to keep its log increasing. -/
omit [BuildProfile] in
theorem Sound.modify
    (hSound : Sound fleet)
    {position : Nat}
    {change : DeterministicLogger → DeterministicLogger}
    (hChange :
      ∀ logger ∈ fleet.loggers[position]?,
        Increasing (change logger).entries) :
    Sound (fleet.modify position change) := by
  refine ⟨?_, hSound.serialized⟩
  exact
    (forall_mem_modify_iff hSound.loggers position
      change).mpr hChange

/- The logger at a position has an increasing log. -/
omit [BuildProfile] in
theorem Sound.at
    (hSound : Sound fleet)
    {position : Nat}
    {logger : DeterministicLogger}
    (hLogger : logger ∈ fleet.loggers[position]?) :
    Increasing logger.entries :=
  hSound.loggers logger (List.mem_of_getElem? hLogger)

/-
  A call that logs keeps the invariant exactly when the
  counter of its logger is not behind.
-/
theorem sound_logEvent_iff
    (hSound : Sound fleet)
    {entry : UInt64 → LogEntry}
    (hNumber : ∀ sequence,
      (entry sequence).sequence = sequence)
    (position : Nat) :
    Sound
        (fleet.modify position fun logger =>
          (DeterministicLogger.logEvent entry logger).2) ↔
      ∀ recorder ∈ fleet.loggers[position]?,
        CounterAhead recorder := by
  have hEach :
      (∀ logger ∈ fleet.loggers[position]?,
        Increasing
          (DeterministicLogger.logEvent entry
            logger).2.entries) ↔
        ∀ recorder ∈ fleet.loggers[position]?,
          CounterAhead recorder := by
    apply forall₂_congr
    intro logger hLogger
    exact
      increasing_logEvent_iff hNumber (hSound.at hLogger)
  rw [← hEach]
  constructor
  · intro hNext
    exact
      (forall_mem_modify_iff hSound.loggers position
        _).mp hNext.loggers
  · intro hChanged
    exact hSound.modify hChanged

/- Recording is logging the entry of the request. -/
theorem LoggerFleet.step_record
    (position : Nat)
    (request : RecordRequest) :
    fleet.step (.record position request) =
      fleet.modify position fun logger =>
        (DeterministicLogger.logEvent request.entry
          logger).2 := by
  unfold step
  simp only [DeterministicLogger.record_eq]

/- Calls that record ahead keep the invariant. -/
theorem sound_step
    (hKeeps : KeepsNumbers)
    (hSound : Sound fleet)
    {op : FleetOp}
    (hOp : RecordsAhead fleet op) :
    Sound (fleet.step op) := by
  cases op with
  | new config =>
      refine ⟨?_, hSound.serialized⟩
      intro logger hLogger
      rcases List.mem_append.mp hLogger with hOld | hNew
      · exact hSound.loggers logger hOld
      · rw [List.mem_singleton.mp hNew]
        exact List.Pairwise.nil
  | record position request =>
      rw [LoggerFleet.step_record]
      exact
        (sound_logEvent_iff hSound (fun _ => rfl)
          position).mpr hOp
  | logSyscallEvent position now syscall =>
      exact
        (sound_logEvent_iff hSound (fun _ => rfl)
          position).mpr hOp
  | enableRecording position =>
      apply hSound.modify
      intro logger hLogger
      have hEntries : Increasing logger.entries :=
        hSound.at hLogger
      exact hEntries
  | disableRecording position =>
      apply hSound.modify
      intro logger hLogger
      have hEntries : Increasing logger.entries :=
        hSound.at hLogger
      exact hEntries
  | clear position =>
      apply hSound.modify
      exact fun _ _ => List.Pairwise.nil
  | serialize position =>
      dsimp only [LoggerFleet.step]
      cases hLogger : fleet.loggers[position]? with
      | none => exact hSound
      | some logger =>
          dsimp only
          cases hSerialize :
              (DeterministicLogger.serialize logger).1 with
          | err error => exact hSound
          | panicked => exact hSound
          | ok data =>
              refine ⟨hSound.loggers, ?_⟩
              intro other hOther
              rcases List.mem_append.mp hOther with
                hOld | hNew
              · exact hSound.serialized other hOld
              · rw [List.mem_singleton.mp hNew]
                exact
                  ⟨logger.entries, serialize_ok hSerialize,
                    hSound.at hLogger⟩
  | deserialize position source =>
      dsimp only [LoggerFleet.step]
      cases hData : fleet.serialized[source]? with
      | none => exact hSound
      | some data =>
          dsimp only
          rcases hSound.serialized data
              (List.mem_of_getElem? hData) with
            ⟨entries, hStored, hIncreasing⟩
          apply hSound.modify
          intro logger hLogger
          rcases deserialize_entries hKeeps hStored logger
            with hSame | hNumbers
          · rw [hSame]
            exact hSound.at hLogger
          · exact increasing_congr hNumbers hIncreasing

/- A step to increasing logs has recorded ahead. -/
theorem recordsAhead_of_step
    (hSound : Sound fleet)
    {op : FleetOp}
    (hNext : UniqueNumbers (fleet.step op)) :
    RecordsAhead fleet op := by
  rw [uniqueNumbers_iff_increasing] at hNext
  cases op with
  | record position request =>
      rw [LoggerFleet.step_record] at hNext
      exact
        (sound_logEvent_iff hSound (fun _ => rfl)
          position).mp ⟨hNext, hSound.serialized⟩
  | logSyscallEvent position now syscall =>
      exact
        (sound_logEvent_iff hSound (fun _ => rfl)
          position).mp ⟨hNext, hSound.serialized⟩
  | new config => trivial
  | enableRecording position => trivial
  | disableRecording position => trivial
  | clear position => trivial
  | serialize position => trivial
  | deserialize position source => trivial

/-
  In any history that starts without loggers, the numbers of
  every log stay unique and increasing exactly when every
  call that records finds its counter not behind the log.
-/
theorem uniqueNumbers_iff
    (hKeeps : KeepsNumbers)
    (ops : List FleetOp) :
    Runs.Throughout LoggerFleet.step UniqueNumbers ⟨[], []⟩
        ops ↔
      Runs.AlongRun LoggerFleet.step RecordsAhead ⟨[], []⟩
        ops := by
  have hStart : Sound ⟨[], []⟩ := by
    constructor
    · simp
    · simp
  have hStronger :
      ∀ fleet, Sound fleet → UniqueNumbers fleet :=
    fun _ hSound =>
      uniqueNumbers_iff_increasing.mpr hSound.loggers
  have hNeeds :
      ∀ (fleet : LoggerFleet) op, Sound fleet →
        UniqueNumbers (fleet.step op) →
          RecordsAhead fleet op :=
    fun _ _ hSound hNext => recordsAhead_of_step hSound hNext
  have hSteps :
      ∀ (fleet : LoggerFleet) op, Sound fleet →
        RecordsAhead fleet op → Sound (fleet.step op) :=
    fun _ _ hSound hOp => sound_step hKeeps hSound hOp
  exact
    Runs.throughout_iff_alongRun_of_stronger hStronger hNeeds
      hSteps hStart

end Histories

end IsaWorkspace

------------------------------------------------------------
-- Sample Histories
------------------------------------------------------------

namespace IsaWorkspace

/- Two loggers, of which one loads the log of the other. -/
namespace FleetSample

scoped instance : BuildProfile :=
  RecordSample.instBuildProfile

open RecordSample (config)

/- The interrupt of the logger's own tests. -/
def interrupt : RecordRequest where
  now := DateTime.unixEpoch
  recorded := .signal ⟨2, "SIGINT", none, none⟩

/- The JSON text of a log with this entry alone. -/
def text : String :=
  "[\x7b\"sequence\":1," ++
    "\"timestamp\":\"1970-01-01T00:00:00Z\"," ++
    "\"event\":\x7b\"type\":\"signal\"," ++
    "\"signal\":\"SIGINT\"\x7d,\"metadata\":null\x7d]"

def isFirst
    (entry : LogEntry) : Bool :=
  entry.sequence = 1 &&
    entry.timestamp = some DateTime.unixEpoch &&
    entry.event = .signal "SIGINT" &&
    entry.metadata.isNone

scoped instance : SerdeJson (List LogEntry) where
  toVec entries :=
    match entries with
    | [entry] =>
        if isFirst entry then
          .ok (asBytes text)
        else
          .error "not the sample log"
    | _ => .error "not the sample log"
  fromSlice data :=
    if data = asBytes text then
      .ok [interrupt.entry 1]
    else
      .error "not the sample log"

theorem keepsNumbers : KeepsNumbers := by
  intro entries loaded json hStored hLoaded
  have hFirst : entries.map LogEntry.sequence = [1] := by
    match entries with
    | [entry] =>
        by_cases hEntry : isFirst entry = true
        · unfold isFirst at hEntry
          simp only [Bool.and_eq_true, decide_eq_true_iff]
            at hEntry
          rw [List.map_singleton, hEntry.1.1.1]
        · change
            (if isFirst entry then _ else _) = _ at hStored
          rw [if_neg hEntry] at hStored
          cases hStored
    | [] => cases hStored
    | _ :: _ :: _ => cases hStored
  rw [hFirst]
  change (if json = asBytes text then _ else _) = _ at hLoaded
  split at hLoaded
  · cases hLoaded
    rfl
  · cases hLoaded

/- A log is stored, loaded by another logger, and cleared. -/
def exchange : List FleetOp :=
  [.new config, .record 0 interrupt, .serialize 0,
    .record 0 interrupt, .new config, .deserialize 1 0,
    .clear 1, .record 1 interrupt]

/- A log is loaded by another logger, which goes on with it. -/
def resumption : List FleetOp :=
  [.new config, .record 0 interrupt, .serialize 0,
    .new config, .deserialize 1 0, .record 1 interrupt]

end FleetSample

open FleetSample

/- A cleared logger starts over. -/
theorem uniqueNumbers_sample :
    Runs.Throughout LoggerFleet.step UniqueNumbers ⟨[], []⟩
      exchange :=
  (uniqueNumbers_iff keepsNumbers exchange).mpr
    (by decide +kernel)

/- A logger that goes on with a loaded log counts from one. -/
theorem uniqueNumbers_repeated :
    KeepsNumbers ∧
      ¬ Runs.Throughout LoggerFleet.step UniqueNumbers
        ⟨[], []⟩ resumption := by
  refine ⟨keepsNumbers, ?_⟩
  decide +kernel

end IsaWorkspace
