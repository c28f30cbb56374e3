import IsaWorkspace.Audit.Equations
import IsaWorkspace.Foundations.HashChain
import IsaWorkspace.Foundations.Runs

/-
  When an unaltered audit buffer verifies.

  All entries a logger ever made are one hash chain.  The
  buffer is what is left of it after its front was trimmed
  or flushed, and verifying starts at the empty hash.  Hence
  an unaltered buffer verifies exactly when it is empty, or
  when it still is the whole chain and that chain started at
  the empty hash.

  Main declarations:
    * `auditLinks`
    * `AuditOp`, `AuditTrail`
    * `WholeChain`
    * `wholeChain_run`
    * `verifyIntegrity_iff`
-/

------------------------------------------------------------
-- The Chain of Entries
------------------------------------------------------------

namespace IsaWorkspace

section Links

variable [Sha256] [SerdeJson AuditEvent] [Rfc3339]

/- The hashes that link audit entries. -/
def auditLinks : HashLinks AuditEntry String where
  previous := AuditEntry.previousHash
  stored := AuditEntry.entryHash
  calculated := calculateHash

/- The logger's check is that of a hash chain. -/
theorem AuditLogger.verifyEntries_eq
    (expectedHash : String)
    (entries : List AuditEntry) :
    verifyEntries expectedHash entries =
      auditLinks.verifyFrom expectedHash entries := by
  induction entries generalizing expectedHash with
  | nil => rfl
  | cons entry rest ih =>
      rw [Bool.eq_iff_iff, HashLinks.verifyFrom_cons_iff]
      change
        _ ↔ entry.previousHash = expectedHash ∧
          calculateHash entry = entry.entryHash ∧ _
      unfold verifyEntries
      by_cases hPrevious :
          entry.previousHash = expectedHash
      · by_cases hStored :
            calculateHash entry = entry.entryHash
        · simp only [hPrevious, hStored, ne_eq,
            not_true_eq_false, if_false, true_and]
          rw [ih]
          rfl
        · simp [hPrevious, hStored]
      · simp [hPrevious]

end Links

end IsaWorkspace

------------------------------------------------------------
-- Runs of a Logger
------------------------------------------------------------

namespace IsaWorkspace

/- The calls that change an audit logger. -/
inductive AuditOp where
  | log
      (now : DateTime)
      (event : AuditEvent)
      (actor resource : String)
      (metadata : Option JsonValue)
  | flush

/- A logger and the number of entries it has logged. -/
structure AuditTrail (F : Type) where
  logger : AuditLogger F
  logged : Nat

namespace AuditTrail

variable {F : Type} [LogFiles F]
variable [Sha256] [Rfc3339] [BuildProfile]
variable [SerdeJson AuditEvent] [SerdeJson AuditEntry]

/- Perform a call, and count an entry that was logged. -/
def step
    (trail : AuditTrail F)
    (op : AuditOp) : AuditTrail F :=
  match op with
  | .log now event actor resource metadata =>
      match AuditLogger.log now event actor resource metadata
          trail.logger with
      | (.ok _, logger) => ⟨logger, trail.logged + 1⟩
      | (_, logger) => ⟨logger, trail.logged⟩
  | .flush =>
      ⟨(AuditLogger.flush trail.logger).2, trail.logged⟩

end AuditTrail

namespace AuditLogger

variable {F : Type}

/- Trimming drops entries from the front. -/
theorem trim_suffix
    (limit : Nat)
    (entries : List AuditEntry) :
    trim limit entries <:+ entries := by
  induction entries with
  | nil => exact List.suffix_refl []
  | cons entry rest ih =>
      unfold trim
      split
      · exact ih.trans (List.suffix_cons entry rest)
      · exact List.suffix_refl _

/- Draining drops entries from the front. -/
theorem drain_suffix
    [LogFiles F] [SerdeJson AuditEntry]
    (path : String)
    (entries : List AuditEntry)
    (files : F) :
    (drain path entries files).2.1 <:+ entries := by
  induction entries generalizing files with
  | nil => exact List.suffix_refl []
  | cons entry rest ih =>
      have hRest := List.suffix_cons entry rest
      unfold drain
      rcases writeEntry path entry files with
        ⟨outcome, files'⟩
      cases outcome with
      | ok _ => exact (ih files').trans hRest
      | err error => exact hRest
      | panicked => exact hRest

/-
  Flushing drops entries from the front of the buffer, and
  leaves the end of the chain alone.
-/
theorem flush_entries
    [LogFiles F] [SerdeJson AuditEntry]
    (logger : AuditLogger F) :
    (flush logger).2.entries <:+ logger.entries ∧
      (flush logger).2.lastHash = logger.lastHash := by
  unfold flush
  rw [Exec.read_bind_apply]
  cases logger.logFile with
  | none => exact ⟨List.suffix_refl _, rfl⟩
  | some path =>
      refine Exec.bind_state
        (fun drained : AuditLogger F =>
          drained.entries <:+ logger.entries ∧
            drained.lastHash = logger.lastHash)
        ?_ ?_
      · exact
          ⟨drain_suffix path logger.entries logger.files,
            rfl⟩
      · intro _ drained hDrained
        exact hDrained

/-
  Logging either panics on the entry id, or appends an entry
  with the last hash, its own hash, and that hash as the new
  last one.
-/
theorem log_cases
    [Sha256] [SerdeJson AuditEvent] [Rfc3339]
    [BuildProfile]
    (now : DateTime)
    (event : AuditEvent)
    (actor resource : String)
    (metadata : Option JsonValue)
    (logger : AuditLogger F) :
    log now event actor resource metadata logger =
        (.panicked, logger) ∨
      ∃ id entry logger',
        log now event actor resource metadata logger =
            (.ok id, logger') ∧
          entry.previousHash = logger.lastHash ∧
          calculateHash entry = entry.entryHash ∧
          logger'.lastHash = entry.entryHash ∧
          logger'.entries =
            trim logger.config.maxMemoryEntries
              (logger.entries ++ [entry]) := by
  have hLog :=
    log_eq ⟨now, event, actor, resource, metadata⟩ logger
  dsimp only at hLog
  rw [hLog]
  cases checkedAdd logger.entryId 1 with
  | none => exact Or.inl rfl
  | some id =>
      right
      exact ⟨id, _, _, rfl, rfl, rfl, rfl, rfl⟩

end AuditLogger

end IsaWorkspace

------------------------------------------------------------
-- The Invariant
------------------------------------------------------------

namespace IsaWorkspace

section Trail

variable {F : Type}
variable [Sha256] [SerdeJson AuditEvent] [Rfc3339]

/-
  The buffer is the rear of a verified chain of all entries
  logged, which ends in the last hash.
-/
structure WholeChain
    (startHash : String)
    (dropped : List AuditEntry)
    (trail : AuditTrail F) : Prop where
  verified :
    auditLinks.verifyFrom startHash
      (dropped ++ trail.logger.entries) = true
  lastHash :
    trail.logger.lastHash =
      auditLinks.tip startHash
        (dropped ++ trail.logger.entries)
  logged :
    trail.logged =
      (dropped ++ trail.logger.entries).length

variable {startHash : String}
variable {dropped : List AuditEntry}
variable {trail : AuditTrail F}

/- Dropping the front of the buffer keeps the chain whole. -/
theorem WholeChain.dropFront
    (hWhole : WholeChain startHash dropped trail)
    {logger : AuditLogger F}
    (hEntries : logger.entries <:+ trail.logger.entries)
    (hLast : logger.lastHash = trail.logger.lastHash) :
    ∃ dropped',
      WholeChain startHash dropped'
        ⟨logger, trail.logged⟩ := by
  rcases hEntries with ⟨front, hFront⟩
  have hSame :
      (dropped ++ front) ++ logger.entries =
        dropped ++ trail.logger.entries := by
    rw [List.append_assoc, hFront]
  refine ⟨dropped ++ front, ?_, ?_, ?_⟩
  · rw [hSame]
    exact hWhole.verified
  · rw [hSame, hLast]
    exact hWhole.lastHash
  · rw [hSame]
    exact hWhole.logged

/- Appending a linked entry keeps the chain whole. -/
theorem WholeChain.append
    (hWhole : WholeChain startHash dropped trail)
    {entry : AuditEntry}
    (hPrevious :
      entry.previousHash = trail.logger.lastHash)
    (hStored : calculateHash entry = entry.entryHash) :
    WholeChain startHash dropped
      ⟨{ trail.logger with
          lastHash := entry.entryHash
          entries := trail.logger.entries ++ [entry] },
        trail.logged + 1⟩ := by
  constructor
  · dsimp only
    rw [← List.append_assoc]
    apply HashLinks.verifyFrom_concat hWhole.verified
    · exact hPrevious.trans hWhole.lastHash
    · exact hStored
  · dsimp only
    rw [← List.append_assoc, HashLinks.tip_concat]
    rfl
  · dsimp only
    rw [← List.append_assoc, List.length_append,
      ← hWhole.logged]
    rfl

variable [LogFiles F] [SerdeJson AuditEntry]
variable [BuildProfile]

/- Every call keeps the chain whole. -/
theorem wholeChain_step
    (hWhole : WholeChain startHash dropped trail)
    (op : AuditOp) :
    ∃ dropped',
      WholeChain startHash dropped' (trail.step op) := by
  cases op with
  | flush =>
      rcases AuditLogger.flush_entries trail.logger with
        ⟨hEntries, hLast⟩
      exact hWhole.dropFront hEntries hLast
  | log now event actor resource metadata =>
      unfold AuditTrail.step
      dsimp only
      rcases AuditLogger.log_cases now event actor resource
          metadata trail.logger with
        hPanic |
        ⟨id, entry, logger, hLog, hPrevious, hStored,
          hLast, hEntries⟩
      · rw [hPanic]
        exact ⟨dropped, hWhole⟩
      · rw [hLog]
        apply (hWhole.append hPrevious hStored).dropFront
        · rw [hEntries]
          exact AuditLogger.trim_suffix _ _
        · exact hLast

/- Every run keeps the chain whole. -/
theorem wholeChain_run
    (hWhole : WholeChain startHash dropped trail)
    (ops : List AuditOp) :
    ∃ dropped',
      WholeChain startHash dropped'
        (Runs.run AuditTrail.step trail ops) := by
  induction ops generalizing dropped trail with
  | nil => exact ⟨dropped, hWhole⟩
  | cons op rest ih =>
      rcases wholeChain_step hWhole op with
        ⟨dropped', hStep⟩
      exact ih hStep

/-
  The buffer verifies exactly when it is empty or is still
  the whole chain, started at the empty hash.
-/
omit [LogFiles F] [SerdeJson AuditEntry] [BuildProfile] in
theorem WholeChain.verifies_iff
    (hWhole : WholeChain startHash dropped trail) :
    trail.logger.verifyIntegrity = .ok true ↔
      trail.logger.entries = [] ∨
        (startHash = "" ∧
          trail.logger.entries.length = trail.logged) := by
  have hDropped :=
    ((HashLinks.verifyFrom_append dropped
      trail.logger.entries).mp hWhole.verified).1
  have hNever :
      ∀ entry, auditLinks.calculated entry ≠ "" :=
    fun entry => sha256Hex_ne_empty _
  have hNil :
      dropped = [] ↔
        trail.logger.entries.length = trail.logged := by
    rw [hWhole.logged, List.length_append,
      ← List.length_eq_zero_iff]
    omega
  unfold AuditLogger.verifyIntegrity
  rw [AuditLogger.verifyEntries_eq, Outcome.ok.injEq,
    HashLinks.verifyFrom_suffix_iff hWhole.verified,
    HashLinks.tip_eq_iff hDropped hNever, hNil]
  constructor
  · rintro (hEmpty | ⟨hKept, hStart⟩)
    · exact Or.inl hEmpty
    · exact Or.inr ⟨hStart, hKept⟩
  · rintro (hEmpty | ⟨hStart, hKept⟩)
    · exact Or.inl hEmpty
    · exact Or.inr ⟨hKept, hStart⟩

end Trail

------------------------------------------------------------
-- Verification
------------------------------------------------------------

variable {F : Type} [LogFiles F]
variable [Sha256] [Rfc3339] [BuildProfile]
variable [SerdeJson AuditEvent] [SerdeJson AuditEntry]

/- A new logger has an empty buffer. -/
omit [Sha256] [Rfc3339] [BuildProfile]
  [SerdeJson AuditEvent] in
theorem AuditLogger.entries_of_new
    {config : AuditConfig}
    {files files' : F}
    {logger : AuditLogger F}
    (hNew : new config files = (.ok logger, files')) :
    logger.entries = [] := by
  rcases of_new_ok hNew with ⟨_, _, rfl⟩
  rfl

/-
  After any run of a new logger, the buffer verifies exactly
  when it is empty, or when it holds every entry logged and
  the logger was opened without a last hash.
-/
theorem verifyIntegrity_iff
    (config : AuditConfig)
    (files files' : F)
    (logger : AuditLogger F)
    (hNew :
      AuditLogger.new config files = (.ok logger, files'))
    (ops : List AuditOp) :
    let trail := Runs.run AuditTrail.step ⟨logger, 0⟩ ops
    trail.logger.verifyIntegrity = .ok true ↔
      trail.logger.entries = [] ∨
        (logger.lastHash = "" ∧
          trail.logger.entries.length = trail.logged) := by
  have hEntries := AuditLogger.entries_of_new hNew
  have hStart :
      WholeChain logger.lastHash []
        (⟨logger, 0⟩ : AuditTrail F) := by
    constructor <;> simp [hEntries]
  rcases wholeChain_run hStart ops with ⟨dropped, hWhole⟩
  exact hWhole.verifies_iff

end IsaWorkspace

------------------------------------------------------------
-- Sample Runs
------------------------------------------------------------

namespace IsaWorkspace

/-
  Two deletions by one user at the epoch, with the digests
  of their entries.  No log file is configured, so that file
  calls and the JSON text of entries play no part.
-/
namespace AuditSample

def deletion : AuditOp :=
  .log DateTime.unixEpoch .stateDeleted "user-123"
    "state-456" none

scoped instance : Rfc3339 where
  toRfc3339 _ := "1970-01-01T00:00:00+00:00"

scoped instance : SerdeJson AuditEvent where
  toVec _ := .ok (asBytes "\x7b\"type\":\"state_deleted\"\x7d")
  fromSlice _ := .ok .stateDeleted

scoped instance : SerdeJson AuditEntry where
  toVec _ := .error "no entry is written"
  fromSlice _ := .error "EOF while parsing a value"

scoped instance : LogFiles Unit where
  openAppend _ := pure ()
  readToString _ := pure ""
  writeAll _ _ := pure ()
  flush _ := pure ()

/- The bytes hashed for a deletion. -/
def hashed
    (id : UInt64)
    (previousHash : String) : Bytes :=
  toBeBytes id ++
    asBytes
      ("1970-01-01T00:00:00+00:00" ++
        "\x7b\"type\":\"state_deleted\"\x7d" ++
        "user-123state-456" ++ previousHash)

scoped instance : Sha256 where
  digest data :=
    digestOf <|
      if data = hashed 1 "" then
        0xcf60a1b25eae97ef9ea96815691d478b970f5f92ff13b94758997e2119d09f83
      else
        0x1b6767f5da967aceaedca6dee345d23f11e171319a45a2409cc9abf869f1ccbd

/- A release build. -/
scoped instance : BuildProfile where
  overflowChecks := false

/- A new logger that keeps some number of entries. -/
def fresh
    (maxMemoryEntries : Nat) : AuditLogger Unit where
  config := ⟨maxMemoryEntries, none⟩
  entries := []
  entryId := 0
  lastHash := ""
  logFile := none
  files := ()

end AuditSample

open AuditSample

/- Two entries in a buffer for two. -/
theorem verifyIntegrity_sample :
    (Runs.run AuditTrail.step ⟨fresh 2, 0⟩
      [deletion, deletion]).logger.verifyIntegrity =
        .ok true :=
  (verifyIntegrity_iff ⟨2, none⟩ () () (fresh 2) rfl
    [deletion, deletion]).mpr
      (Or.inr ⟨rfl, by decide +kernel⟩)

/- Two entries in a buffer for one raise a false alarm. -/
theorem verifyIntegrity_false_alarm :
    AuditLogger.new ⟨1, none⟩ () = (.ok (fresh 1), ()) ∧
      (Runs.run AuditTrail.step ⟨fresh 1, 0⟩
        [deletion, deletion]).logger.verifyIntegrity =
          .ok false := by
  refine ⟨rfl, ?_⟩
  decide +kernel

end IsaWorkspace
