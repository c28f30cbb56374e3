import IsaWorkspace.Audit.Integrity
import IsaWorkspace.Foundations.Interleaving

/-
  Calls of `log` in interleaving.

  A call of `log` reads the last hash, and then, under the
  lock of the entry id, takes the next id, makes the entry
  and pushes it.  Ids are in order in every schedule.  The
  entries are one chain exactly when every call pushes while
  the last hash still is the one it has read.

  Main declarations:
    * `LogPhase`, `LogPhase.step`
    * `log_steps`
    * `Chained`, `AppendsToRead`
    * `LogUnderway`, `logUnderway_step`
    * `concurrentLog_iff`
-/

------------------------------------------------------------
-- Logging in Two Steps
------------------------------------------------------------

namespace IsaWorkspace

/- What a call of `log` has yet to do. -/
inductive LogPhase where
  | readLastHash (request : LogRequest)
  | append (request : LogRequest) (previousHash : String)
  | finished (outcome : Outcome AuditError UInt64)

namespace LogPhase

/- The hash a call has read and not used yet. -/
def readHash : LogPhase → Option String
| append _ previousHash => some previousHash
| _ => none

/- The call has yet to push its entry. -/
def isUnderway : LogPhase → Bool
| finished _ => false
| _ => true

end LogPhase

section Steps

variable {F : Type}

/- What is buffered after a push was there, or is new. -/
theorem AuditLogger.mem_push
    {logger : AuditLogger F}
    {entry pushed : AuditEntry}
    (hEntry : entry ∈ (logger.push pushed).entries) :
    entry ∈ logger.entries ∨ entry = pushed := by
  have hSuffix := trim_suffix _ _ |>.subset hEntry
  rcases List.mem_append.mp hSuffix with hOld | hNew
  · exact Or.inl hOld
  · exact Or.inr (List.mem_singleton.mp hNew)

variable [Sha256] [SerdeJson AuditEvent] [Rfc3339]
variable [BuildProfile]

/- Log an event, once the last hash has been read. -/
def AuditLogger.append
    (request : LogRequest)
    (previousHash : String) :
    Exec (AuditLogger F) AuditError UInt64 := do
  let logger ← Exec.read
  let id ← Exec.orPanic (checkedAdd logger.entryId 1)
  Exec.update fun logger =>
    logger.push (request.entry id previousHash)
  pure id

/- Without an id there is a panic, else a push. -/
theorem AuditLogger.append_eq
    (request : LogRequest)
    (previousHash : String)
    (logger : AuditLogger F) :
    append request previousHash logger =
      match checkedAdd logger.entryId 1 with
      | none => (.panicked, logger)
      | some id =>
          (.ok id,
            logger.push
              (request.entry id previousHash)) := by
  unfold append
  rw [Exec.read_bind_apply]
  cases checkedAdd logger.entryId 1 with
  | none => rfl
  | some id => rfl

/- One atomic step of a call. -/
def LogPhase.step
    (phase : LogPhase)
    (logger : AuditLogger F) :
    LogPhase × AuditLogger F :=
  match phase with
  | readLastHash request =>
      (append request logger.lastHash, logger)
  | append request previousHash =>
      (finished
        (AuditLogger.append request previousHash logger).1,
        (AuditLogger.append request previousHash logger).2)
  | finished outcome => (finished outcome, logger)

/- A logger and the calls of `log` on it. -/
abbrev ConcurrentLog (F : Type) : Type :=
  Interleaved (AuditLogger F) LogPhase

/- The steps of a call, with nothing between, are `log`. -/
theorem AuditLogger.log_steps
    (request : LogRequest)
    (logger : AuditLogger F) :
    Runs.run (Interleaved.step LogPhase.step)
        ⟨logger, [.readLastHash request]⟩ [0, 0] =
      ⟨(log request.now request.event request.actor
          request.resource request.metadata logger).2,
        [.finished
          (log request.now request.event request.actor
            request.resource request.metadata
            logger).1]⟩ := by
  have hAppend :
      AuditLogger.append request logger.lastHash logger =
        log request.now request.event request.actor
          request.resource request.metadata logger := by
    cases hSum : checkedAdd logger.entryId 1 with
    | none => simp only [log_eq, append_eq, hSum]
    | some id => simp only [log_eq, append_eq, hSum]
  rw [← hAppend]
  rfl

------------------------------------------------------------
-- The Buffer
------------------------------------------------------------

/-
  The buffered entries have the ids from one on, and are one
  chain that starts at the empty hash.
-/
def Chained
    (logger : AuditLogger F) : Prop :=
  logger.entries.map (fun entry => entry.id.toNat) =
      List.range' 1 logger.entries.length ∧
    logger.verifyIntegrity = .ok true

omit [BuildProfile] in
instance
    (logger : AuditLogger F) :
    Decidable (Chained logger) := by
  unfold Chained
  infer_instance

/-
  A call whose entry the next step pushes has read what is
  the last hash now.
-/
def AppendsToRead
    (system : ConcurrentLog F)
    (position : Nat) : Prop :=
  ∀ phase ∈ system.calls[position]?,
    ∀ previousHash ∈ phase.readHash,
      previousHash = system.shared.lastHash

instance
    (system : ConcurrentLog F)
    (position : Nat) :
    Decidable (AppendsToRead system position) := by
  unfold AppendsToRead
  infer_instance

end Steps

end IsaWorkspace

------------------------------------------------------------
-- The Invariant
------------------------------------------------------------

namespace IsaWorkspace

section Schedules

variable {F : Type}
variable [Sha256] [SerdeJson AuditEvent] [Rfc3339]

/-
  The buffer holds one entry for each call that has pushed,
  in the order of their ids, and has room for the others.
-/
structure LogUnderway
    (startHash : String)
    (limit : Nat)
    (system : ConcurrentLog F) : Prop where
  config :
    system.shared.config.maxMemoryEntries = limit
  room :
    system.shared.entries.length +
      system.calls.countP LogPhase.isUnderway ≤ limit
  counted :
    system.shared.entryId.toNat =
      system.shared.entries.length
  ids :
    system.shared.entries.map (fun entry => entry.id.toNat) =
      List.range' 1 system.shared.entries.length
  lastHash :
    system.shared.lastHash =
      auditLinks.tip startHash system.shared.entries

/-
  A logger opened in the middle of a chain: no hash it hands
  out is the empty one.
-/
structure MidChain
    (system : ConcurrentLog F) : Prop where
  lastHash : system.shared.lastHash ≠ ""
  readHash :
    ∀ phase ∈ system.calls,
      ∀ previousHash ∈ phase.readHash, previousHash ≠ ""
  entries :
    ∀ entry ∈ system.shared.entries,
      entry.previousHash ≠ ""

variable [BuildProfile]
variable {startHash : String} {limit : Nat}
variable {system : ConcurrentLog F}

/- With room left, pushing appends an entry under its id. -/
theorem AuditLogger.append_spec
    {logger : AuditLogger F}
    (hRoom :
      logger.entries.length <
        logger.config.maxMemoryEntries)
    (hMemory : logger.config.maxMemoryEntries < 2 ^ 64)
    (hCounted :
      logger.entryId.toNat = logger.entries.length)
    (request : LogRequest)
    (previousHash : String) :
    ∃ id, id.toNat = logger.entries.length + 1 ∧
      append request previousHash logger =
        (.ok id,
          { logger with
            entryId := id
            lastHash :=
              (request.entry id previousHash).entryHash
            entries :=
              logger.entries ++
                [request.entry id previousHash] }) := by
  have hRange :
      logger.entryId.toNat + (1 : UInt64).toNat < 2 ^ 64 := by
    rw [hCounted]
    change _ + 1 < _
    omega
  rcases checkedAdd_of_lt hRange with ⟨id, hId, hValue⟩
  have hPush :
      (logger.push (request.entry id previousHash)).entries =
        logger.entries ++
          [request.entry id previousHash] :=
    push_entries_of_lt hRoom
  refine ⟨id, ?_, ?_⟩
  · rw [hValue, hCounted]
    rfl
  · rw [append_eq, hId, ← hPush]
    rfl

/-
  Each step keeps the invariant.  It either leaves the
  buffer alone, and then used no hash it had read, or
  appends the entry of a call.
-/
theorem logUnderway_step
    (hUnderway : LogUnderway startHash limit system)
    (hMemory : limit < 2 ^ 64)
    (position : Nat) :
    let next := Interleaved.step LogPhase.step system position
    LogUnderway startHash limit next ∧
      ((next.shared.entries = system.shared.entries ∧
          ∀ phase ∈ system.calls[position]?,
            phase.readHash = none) ∨
        ∃ request previousHash id,
          system.calls[position]? =
              some (.append request previousHash) ∧
            next.shared.entries =
              system.shared.entries ++
                [LogRequest.entry request id
                  previousHash]) := by
  intro next
  rcases Interleaved.step_cases LogPhase.step system
      position with
    ⟨hCall, hStep⟩ |
    ⟨before, phase, after, hCall, hCalls, hStep⟩
  · have hNext : next = system := hStep
    rw [hNext, hCall]
    exact ⟨hUnderway, Or.inl ⟨rfl, by simp⟩⟩
  · have hRoom := hUnderway.room
    rw [hCalls, List.countP_append, List.countP_cons]
      at hRoom
    have hNext :
        next =
          ⟨(phase.step system.shared).2,
            before ++ (phase.step system.shared).1 ::
              after⟩ := hStep
    have hQuiet :
        ∀ {next : LogPhase},
          next.isUnderway = phase.isUnderway →
            LogUnderway startHash limit
              (⟨system.shared, before ++ next :: after⟩ :
                ConcurrentLog F) := by
      intro next hSame
      refine ⟨hUnderway.config, ?_, hUnderway.counted,
        hUnderway.ids, hUnderway.lastHash⟩
      dsimp only
      rw [List.countP_append, List.countP_cons, hSame]
      exact hRoom
    rw [hCall, hNext]
    cases phase with
    | finished outcome =>
        refine ⟨hQuiet rfl, Or.inl ⟨rfl, ?_⟩⟩
        rintro _ ⟨⟩
        rfl
    | readLastHash request =>
        refine ⟨hQuiet rfl, Or.inl ⟨rfl, ?_⟩⟩
        rintro _ ⟨⟩
        rfl
    | append request previousHash =>
        have hFree :
            system.shared.entries.length <
              system.shared.config.maxMemoryEntries := by
          rw [hUnderway.config]
          simp only [LogPhase.isUnderway, if_true] at hRoom
          omega
        rcases AuditLogger.append_spec hFree
            (by rw [hUnderway.config]; exact hMemory)
            hUnderway.counted request previousHash with
          ⟨id, hId, hAppend⟩
        dsimp only [LogPhase.step]
        rw [hAppend]
        dsimp only
        refine ⟨⟨hUnderway.config, ?_, ?_, ?_, ?_⟩,
          Or.inr ⟨request, previousHash, id, rfl, rfl⟩⟩
        · dsimp only
          rw [List.length_append, List.length_singleton,
            List.countP_append, List.countP_cons]
          simp only [LogPhase.isUnderway, if_true,
            Bool.false_eq_true, if_false] at hRoom ⊢
          omega
        · dsimp only
          rw [hId, List.length_append,
            List.length_singleton]
        · dsimp only
          rw [List.map_append, hUnderway.ids,
            List.length_append, List.length_singleton,
            List.range'_concat, List.map_singleton,
            LogRequest.entry_id, hId]
          congr 2
          omega
        · dsimp only
          rw [HashLinks.tip_concat]
          rfl

/- With the ids in order, only the links are in question. -/
omit [BuildProfile] in
theorem LogUnderway.chained_iff
    (hUnderway : LogUnderway startHash limit system) :
    Chained system.shared ↔
      auditLinks.verifyFrom "" system.shared.entries =
        true := by
  unfold Chained AuditLogger.verifyIntegrity
  rw [AuditLogger.verifyEntries_eq, Outcome.ok.injEq]
  exact and_iff_right hUnderway.ids

/- An empty buffer is a chain. -/
omit [BuildProfile] in
theorem LogUnderway.chained_of_nil
    (hUnderway : LogUnderway startHash limit system)
    (hNil : system.shared.entries = []) :
    Chained system.shared := by
  rw [hUnderway.chained_iff, hNil]
  rfl

/-
  A step of a logger opened without a last hash keeps the
  chain exactly when a call that pushes has read what is the
  last hash.
-/
theorem chained_step_iff
    (hUnderway : LogUnderway "" limit system)
    (hMemory : limit < 2 ^ 64)
    (position : Nat) :
    Chained
        (Interleaved.step LogPhase.step system
          position).shared ↔
      Chained system.shared ∧
        AppendsToRead system position := by
  rcases logUnderway_step hUnderway hMemory position with
    ⟨hNext, hSame | ⟨request, previousHash, id, hCall, hEntries⟩⟩
  · have hReads : AppendsToRead system position := by
      intro phase hPhase previousHash hRead
      rw [hSame.2 phase hPhase] at hRead
      cases hRead
    rw [hNext.chained_iff, hUnderway.chained_iff, hSame.1]
    exact (and_iff_left hReads).symm
  · have hReads :
        AppendsToRead system position ↔
          previousHash = system.shared.lastHash := by
      unfold AppendsToRead
      rw [hCall]
      constructor
      · intro hAll
        exact hAll _ rfl previousHash rfl
      · rintro hLast _ ⟨⟩ _ ⟨⟩
        exact hLast
    rw [hNext.chained_iff, hUnderway.chained_iff, hReads,
      hEntries, HashLinks.verifyFrom_concat_iff,
      hUnderway.lastHash]
    have hStored :
        auditLinks.calculated
            (LogRequest.entry request id previousHash) =
          auditLinks.stored
            (LogRequest.entry request id previousHash) :=
      LogRequest.calculateHash_entry request id previousHash
    rw [and_iff_left hStored]
    rfl

/- A step hands out no empty hash in the middle of a chain. -/
theorem midChain_step
    (hMid : MidChain system)
    (position : Nat) :
    MidChain
      (Interleaved.step LogPhase.step system position) := by
  rcases Interleaved.step_cases LogPhase.step system
      position with
    ⟨_, hStep⟩ | ⟨before, phase, after, _, hCalls, hStep⟩
  · rw [hStep]
    exact hMid
  · have hRead := hMid.readHash
    rw [hCalls, List.forall_mem_append, List.forall_mem_cons]
      at hRead
    rcases hRead with ⟨hBefore, hOwn, hAfter⟩
    have hNext :
        ∀ {logger : AuditLogger F} {next : LogPhase},
          logger.lastHash ≠ "" →
          (∀ previousHash ∈ next.readHash,
            previousHash ≠ "") →
          (∀ entry ∈ logger.entries,
            entry.previousHash ≠ "") →
            MidChain
              (⟨logger, before ++ next :: after⟩ :
                ConcurrentLog F) := by
      intro logger next hLast hRead hEntries
      refine ⟨hLast, ?_, hEntries⟩
      rw [List.forall_mem_append, List.forall_mem_cons]
      exact ⟨hBefore, hRead, hAfter⟩
    rw [hStep]
    cases phase with
    | finished outcome =>
        exact hNext hMid.lastHash hOwn hMid.entries
    | readLastHash request =>
        apply hNext hMid.lastHash _ hMid.entries
        rintro _ ⟨⟩
        exact hMid.lastHash
    | append request previousHash =>
        dsimp only [LogPhase.step]
        rw [AuditLogger.append_eq]
        cases checkedAdd system.shared.entryId 1 with
        | none =>
            apply hNext hMid.lastHash _ hMid.entries
            rintro _ ⟨⟩
        | some id =>
            apply hNext
            · exact request.entryHash_ne_empty id _
            · rintro _ ⟨⟩
            · intro entry hEntry
              rcases AuditLogger.mem_push hEntry with
                hOld | rfl
              · exact hMid.entries entry hOld
              · exact hOwn previousHash rfl

/- A chain that starts at the empty hash is not its middle. -/
omit [BuildProfile] in
theorem MidChain.chained_iff
    (hMid : MidChain system) :
    Chained system.shared ↔ system.shared.entries = [] := by
  unfold Chained AuditLogger.verifyIntegrity
  rw [AuditLogger.verifyEntries_eq, Outcome.ok.injEq]
  cases hBuffer : system.shared.entries with
  | nil => simp
  | cons entry rest =>
      have hMem : entry ∈ system.shared.entries := by
        rw [hBuffer]
        exact List.mem_cons_self
      have hLinked : auditLinks.previous entry ≠ "" :=
        hMid.entries entry hMem
      rw [HashLinks.verifyFrom_cons_iff]
      simp [hLinked]

section Opened

variable [LogFiles F] [SerdeJson AuditEntry]
variable {config : AuditConfig} {files files' : F}
variable {logger : AuditLogger F}
variable {requests : List LogRequest}

/- The calls of a new logger that has room for all of them. -/
omit [BuildProfile] in
theorem logUnderway_of_new
    (hNew :
      AuditLogger.new config files = (.ok logger, files'))
    (hUntrimmed :
      requests.length ≤ config.maxMemoryEntries) :
    LogUnderway logger.lastHash config.maxMemoryEntries
      ⟨logger, requests.map LogPhase.readLastHash⟩ := by
  rcases AuditLogger.of_new_ok hNew with
    ⟨lastHash, _, hLogger⟩
  have hRoom :
      (requests.map LogPhase.readLastHash).countP
          LogPhase.isUnderway ≤
        requests.length := by
    rw [← List.length_map LogPhase.readLastHash]
    exact List.countP_le_length
  rw [hLogger]
  refine ⟨rfl, ?_, rfl, rfl, rfl⟩
  dsimp only
  rw [List.length_nil, Nat.zero_add]
  exact Nat.le_trans hRoom hUntrimmed

/- Where the file has a last hash, it is the one handed out. -/
omit [Sha256] [SerdeJson AuditEvent] [Rfc3339]
  [BuildProfile] in
theorem midChain_of_new
    (hNew :
      AuditLogger.new config files = (.ok logger, files'))
    (hMiddle : logger.lastHash ≠ "") :
    MidChain
      (⟨logger, requests.map LogPhase.readLastHash⟩ :
        ConcurrentLog F) := by
  refine ⟨hMiddle, ?_, ?_⟩
  · intro phase hPhase previousHash hRead
    rcases List.mem_map.mp hPhase with ⟨request, _, rfl⟩
    cases hRead
  · rcases AuditLogger.of_new_ok hNew with
      ⟨lastHash, _, hLogger⟩
    rw [hLogger]
    intro entry hEntry
    cases hEntry

end Opened

/-
  After any schedule of calls of a new logger that does not
  trim, the buffer is one chain with ids in order exactly
  when it is empty, or when the logger was opened without a
  last hash and every call pushed while the last hash still
  was what it had read.
-/
theorem concurrentLog_iff
    [LogFiles F] [SerdeJson AuditEntry]
    (config : AuditConfig)
    (files files' : F)
    (logger : AuditLogger F)
    (hNew :
      AuditLogger.new config files = (.ok logger, files'))
    (hMemory : config.maxMemoryEntries < 2 ^ 64)
    (requests : List LogRequest)
    (hUntrimmed :
      requests.length ≤ config.maxMemoryEntries)
    (schedule : List Nat) :
    let start : ConcurrentLog F :=
      ⟨logger, requests.map LogPhase.readLastHash⟩
    let final :=
      Runs.run (Interleaved.step LogPhase.step) start
        schedule
    Chained final.shared ↔
      final.shared.entries = [] ∨
        (logger.lastHash = "" ∧
          Runs.AlongRun (Interleaved.step LogPhase.step)
            AppendsToRead start schedule) := by
  intro start final
  have hUnderway :
      LogUnderway logger.lastHash config.maxMemoryEntries
        start :=
    logUnderway_of_new hNew hUntrimmed
  by_cases hEmpty : logger.lastHash = ""
  · rw [hEmpty] at hUnderway
    let chained : ConcurrentLog F → Prop :=
      fun system => Chained system.shared
    have hKeeps :
        ∀ (system : ConcurrentLog F) position,
          LogUnderway "" config.maxMemoryEntries system →
            LogUnderway "" config.maxMemoryEntries
              (Interleaved.step LogPhase.step system
                position) :=
      fun _ position hUnderway =>
        (logUnderway_step hUnderway hMemory position).1
    have hStep :
        ∀ (system : ConcurrentLog F) position,
          LogUnderway "" config.maxMemoryEntries system →
            (chained
                (Interleaved.step LogPhase.step system
                  position) ↔
              chained system ∧
                AppendsToRead system position) :=
      fun _ position hUnderway =>
        chained_step_iff hUnderway hMemory position
    have hFirst : chained start :=
      hUnderway.chained_of_nil
        (AuditLogger.entries_of_new hNew)
    have hRun :
        Chained final.shared ↔
          Runs.AlongRun (Interleaved.step LogPhase.step)
            AppendsToRead start schedule :=
      Runs.run_iff_alongRun_of_invariant hKeeps hStep
        schedule hUnderway hFirst
    have hFinal :
        LogUnderway "" config.maxMemoryEntries final :=
      Runs.run_of_invariant hKeeps schedule hUnderway
    constructor
    · intro hChained
      exact Or.inr ⟨hEmpty, hRun.mp hChained⟩
    · rintro (hNil | ⟨_, hAlong⟩)
      · exact hFinal.chained_of_nil hNil
      · exact hRun.mpr hAlong
  · have hKeeps :
        ∀ (system : ConcurrentLog F) position,
          MidChain system →
            MidChain
              (Interleaved.step LogPhase.step system
                position) :=
      fun _ position hMid => midChain_step hMid position
    have hMid : MidChain final :=
      Runs.run_of_invariant hKeeps schedule
        (midChain_of_new hNew hEmpty)
    rw [hMid.chained_iff]
    constructor
    · exact Or.inl
    · rintro (hNil | ⟨hLast, _⟩)
      · exact hNil
      · exact absurd hLast hEmpty

end Schedules

end IsaWorkspace

------------------------------------------------------------
-- Sample Schedules
------------------------------------------------------------

namespace IsaWorkspace

/-
  The deletions of `AuditSample` as two calls at once.  The
  second entry is hashed with or without the hash of the
  first one.
-/
namespace ConcurrentSample

open AuditSample (hashed fresh)

scoped instance : Rfc3339 := AuditSample.instRfc3339

scoped instance : SerdeJson AuditEvent :=
  AuditSample.instSerdeJsonAuditEvent

scoped instance : SerdeJson AuditEntry :=
  AuditSample.instSerdeJsonAuditEntry

scoped instance : LogFiles Unit :=
  AuditSample.instLogFilesUnit

scoped instance : BuildProfile :=
  AuditSample.instBuildProfile

scoped instance : Sha256 where
  digest data :=
    digestOf <|
      if data = hashed 1 "" then
        0xcf60a1b25eae97ef9ea96815691d478b970f5f92ff13b94758997e2119d09f83
      else if data = hashed 2 "" then
        0xfe63657d120305426fad456d4433459ce677f4843a8123f8c0cfebf6d04e9fb6
      else
        0x1b6767f5da967aceaedca6dee345d23f11e171319a45a2409cc9abf869f1ccbd

def deletion : LogRequest where
  now := DateTime.unixEpoch
  event := .stateDeleted
  actor := "user-123"
  resource := "state-456"
  metadata := none

/- Two calls on a new logger with a buffer for two. -/
def start : ConcurrentLog Unit :=
  ⟨fresh 2, [deletion, deletion].map LogPhase.readLastHash⟩

end ConcurrentSample

open ConcurrentSample

/- One call after the other. -/
theorem concurrentLog_sample :
    Chained
      (Runs.run (Interleaved.step LogPhase.step) start
        [0, 0, 1, 1]).shared :=
  (concurrentLog_iff ⟨2, none⟩ () () (AuditSample.fresh 2)
    rfl (by decide) [deletion, deletion] (by decide)
    [0, 0, 1, 1]).mpr
      (Or.inr ⟨rfl, by decide +kernel⟩)

/-
  Both calls read the last hash before either writes it, and
  the second entry does not refer to the first.
-/
theorem concurrentLog_forked :
    AuditLogger.new ⟨2, none⟩ () =
        (.ok (AuditSample.fresh 2), ()) ∧
      ¬ Chained
        (Runs.run (Interleaved.step LogPhase.step) start
          [0, 1, 0, 1]).shared := by
  refine ⟨rfl, ?_⟩
  decide +kernel

end IsaWorkspace
