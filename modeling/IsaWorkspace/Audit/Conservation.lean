import IsaWorkspace.Audit.Integrity

/-
  Where logged entries go.

  An entry leaves the buffer when the buffer is trimmed, or
  when it is popped to be written to the log file.  What the
  file holds, followed by the buffer, is all that was logged
  as long as nothing is trimmed, every popped entry has JSON
  text, and both of its writes succeed.

  Main declarations:
    * `LawfulLogFiles`, `entryLine`
    * `AllWritten`, `WritesLines`, `FallsShort`
    * `drainWith_written`, `drainWith_popped`
    * `AuditLedger`, `LedgerOp`
    * `Conserved`, `LosesNothing`
    * `conserved_iff`
-/

------------------------------------------------------------
-- Log Files
------------------------------------------------------------

namespace IsaWorkspace

/-
  Log files whose content can be told.  Opening creates an
  empty file at most.  A write that succeeds appends all its
  bytes, and one that fails appends none.
-/
class LawfulLogFiles (F : Type) extends LogFiles F where
  contents : F → String → Bytes
  contents_of_open :
    ∀ (path : String) (files : F),
      contents (openAppend path files).2 path =
        contents files path
  contents_of_read :
    ∀ (path : String) (files : F),
      contents (readToString path files).2 path =
        contents files path
  read_of_ok :
    ∀ {path text : String} {files files' : F},
      readToString path files = (.ok text, files') →
        asBytes text = contents files path
  contents_of_write_ok :
    ∀ {path : String} {data : Bytes} {files : F},
      (writeAll path data files).1 = .ok () →
        contents (writeAll path data files).2 path =
          contents files path ++ data
  contents_of_write_failed :
    ∀ {path : String} {data : Bytes} {files : F},
      (writeAll path data files).1 ≠ .ok () →
        contents (writeAll path data files).2 path =
          contents files path
  contents_of_flush :
    ∀ (path : String) (files : F),
      contents (flush path files).2 path =
        contents files path

theorem newline_length :
    (asBytes "\n").length = 1 := by
  decide

section Lines

variable [SerdeJson AuditEntry]

/- The line that is written for an entry. -/
def entryLine
    (entry : AuditEntry) : Bytes :=
  (SerdeJson.toVec entry).toOption.getD [] ++ asBytes "\n"

theorem entryLine_eq
    {entry : AuditEntry}
    {json : Bytes}
    (hJson : SerdeJson.toVec entry = .ok json) :
    entryLine entry = json ++ asBytes "\n" := by
  unfold entryLine
  rw [hJson]
  rfl

/- Every line has at least its line feed. -/
theorem entryLine_length_pos
    (entry : AuditEntry) :
    0 < (entryLine entry).length := by
  unfold entryLine
  rw [List.length_append, newline_length]
  omega

variable {F : Type} [LogFiles F]

/- The files after the two writes of an entry. -/
def afterEntry
    (path : String)
    (entry : AuditEntry)
    (files : F) : F :=
  match SerdeJson.toVec entry with
  | .error _ => files
  | .ok json =>
      (LogFiles.writeAll path (asBytes "\n")
        (LogFiles.writeAll path json files).2).2

/- An entry has JSON text, and both its writes succeed. -/
def EntryWritten
    (path : String)
    (entry : AuditEntry)
    (files : F) : Prop :=
  match SerdeJson.toVec entry with
  | .error _ => False
  | .ok json =>
      (LogFiles.writeAll path json files).1 = .ok () ∧
        (LogFiles.writeAll path (asBytes "\n")
          (LogFiles.writeAll path json files).2).1 = .ok ()

instance
    (path : String)
    (entry : AuditEntry)
    (files : F) :
    Decidable (EntryWritten path entry files) := by
  unfold EntryWritten
  split <;> infer_instance

/- All entries have JSON text, and no write of them fails. -/
def AllWritten
    (path : String) : List AuditEntry → F → Prop
| [], _ => True
| entry :: rest, files =>
    EntryWritten path entry files ∧
      AllWritten path rest (afterEntry path entry files)

instance decidableAllWritten
    (path : String) :
    (entries : List AuditEntry) → (files : F) →
      Decidable (AllWritten path entries files)
| [], _ => inferInstanceAs (Decidable True)
| entry :: rest, files =>
    have :=
      decidableAllWritten path rest
        (afterEntry path entry files)
    inferInstanceAs
      (Decidable
        (EntryWritten path entry files ∧
          AllWritten path rest
            (afterEntry path entry files)))

/- The two writes of an entry that is written. -/
theorem EntryWritten.writes
    {path : String}
    {entry : AuditEntry}
    {files : F}
    (hWritten : EntryWritten path entry files) :
    ∃ json files₁,
      SerdeJson.toVec entry = .ok json ∧
        LogFiles.writeAll path json files =
          (.ok (), files₁) ∧
        LogFiles.writeAll path (asBytes "\n") files₁ =
          (.ok (), afterEntry path entry files) := by
  unfold EntryWritten at hWritten
  unfold afterEntry
  cases hText : SerdeJson.toVec entry with
  | error message =>
      rw [hText] at hWritten
      exact hWritten.elim
  | ok json =>
      rw [hText] at hWritten
      dsimp only at hWritten ⊢
      rcases hWritten with ⟨hFirst, hSecond⟩
      exact
        ⟨json, _, rfl, Prod.ext hFirst rfl,
          Prod.ext hSecond rfl⟩

/- An entry with JSON text whose writes succeed. -/
theorem EntryWritten.of_writes
    {path : String}
    {entry : AuditEntry}
    {json : Bytes}
    {files files₁ files₂ : F}
    (hJson : SerdeJson.toVec entry = .ok json)
    (hFirst :
      LogFiles.writeAll path json files = (.ok (), files₁))
    (hSecond :
      LogFiles.writeAll path (asBytes "\n") files₁ =
        (.ok (), files₂)) :
    EntryWritten path entry files := by
  unfold EntryWritten
  rw [hJson]
  dsimp only
  rw [hFirst, hSecond]
  exact ⟨rfl, rfl⟩

end Lines

------------------------------------------------------------
-- Writing an Entry
------------------------------------------------------------

section Writing

variable {F : Type} [LawfulLogFiles F]
variable {path : String} {files : F}

open LawfulLogFiles (contents)

/- A write appends what it is given at most. -/
theorem contents_writeAll_le
    (data : Bytes) :
    (contents (LogFiles.writeAll path data files).2
        path).length ≤
      (contents files path).length + data.length := by
  by_cases hOk :
      (LogFiles.writeAll path data files).1 = .ok ()
  · rw [LawfulLogFiles.contents_of_write_ok hOk]
    exact Nat.le_of_eq List.length_append
  · rw [LawfulLogFiles.contents_of_write_failed hOk]
    omega

variable [SerdeJson AuditEntry]
variable {entry : AuditEntry}

/- An entry that is written adds its line. -/
theorem contents_afterEntry
    (hWritten : EntryWritten path entry files) :
    contents (afterEntry path entry files) path =
      contents files path ++ entryLine entry := by
  rcases hWritten.writes with
    ⟨json, files₁, hText, hFirst, hSecond⟩
  have hAdded :=
    LawfulLogFiles.contents_of_write_ok
      (congrArg Prod.fst hFirst)
  have hFeed :=
    LawfulLogFiles.contents_of_write_ok
      (congrArg Prod.fst hSecond)
  rw [hFirst] at hAdded
  rw [hSecond] at hFeed
  dsimp only at hAdded hFeed
  rw [hFeed, hAdded, entryLine_eq hText, List.append_assoc]

/- A way to write entries: it makes the two writes of one. -/
def WritesLines
    (path : String)
    (write : AuditEntry → Exec F AuditError Unit) : Prop :=
  ∀ entry files, EntryWritten path entry files →
    write entry files = (.ok (), afterEntry path entry files)

/- When an entry is not written, less than a line is added. -/
def FallsShort
    (path : String)
    (write : AuditEntry → Exec F AuditError Unit) : Prop :=
  ∀ entry files, ¬ EntryWritten path entry files →
    (contents (write entry files).2 path).length <
      (contents files path).length +
        (entryLine entry).length

/-
  An entry whose text is taken but whose line feed is not
  adds less than its line, and so does one whose text is not
  taken, unless the text is empty.
-/
theorem contents_of_not_written
    {json : Bytes}
    (hText : SerdeJson.toVec entry = .ok json)
    (hLost : ¬ EntryWritten path entry files) :
    let files₁ := (LogFiles.writeAll path json files).2
    let files₂ :=
      (LogFiles.writeAll path (asBytes "\n") files₁).2
    ((LogFiles.writeAll path json files).1 ≠ .ok () →
      (contents files₁ path).length <
        (contents files path).length +
          (entryLine entry).length) ∧
      (json ≠ [] ∨
          (LogFiles.writeAll path json files).1 = .ok () →
        (contents files₂ path).length <
          (contents files path).length +
            (entryLine entry).length) := by
  intro files₁ files₂
  have hLine :
      (entryLine entry).length = json.length + 1 := by
    rw [entryLine_eq hText, List.length_append,
      newline_length]
  unfold EntryWritten at hLost
  rw [hText] at hLost
  rw [hLine]
  constructor
  · intro hFirst
    have hSame :
        contents files₁ path = contents files path :=
      LawfulLogFiles.contents_of_write_failed hFirst
    rw [hSame]
    omega
  · intro hCase
    by_cases hFirst :
        (LogFiles.writeAll path json files).1 = .ok ()
    · have hText :
          contents files₁ path =
            contents files path ++ json :=
        LawfulLogFiles.contents_of_write_ok hFirst
      have hSecond :
          (LogFiles.writeAll path (asBytes "\n")
            files₁).1 ≠ .ok () :=
        fun hOk => hLost ⟨hFirst, hOk⟩
      have hFeed :
          contents files₂ path = contents files₁ path :=
        LawfulLogFiles.contents_of_write_failed hSecond
      rw [hFeed, hText, List.length_append]
      omega
    · have hNonempty : json ≠ [] :=
        hCase.resolve_right hFirst
      have hPositive := List.length_pos_of_ne_nil hNonempty
      have hSame :
          contents files₁ path = contents files path :=
        LawfulLogFiles.contents_of_write_failed hFirst
      have hFeed :
          (contents files₂ path).length ≤
            (contents files₁ path).length +
              (asBytes "\n").length :=
        contents_writeAll_le _
      rw [hSame, newline_length] at hFeed
      omega

/- Flushing makes both writes of an entry. -/
theorem writeEntry_writesLines
    (path : String) :
    WritesLines path
      (AuditLogger.writeEntry path :
        AuditEntry → Exec F AuditError Unit) := by
  intro entry files hWritten
  rcases hWritten.writes with
    ⟨json, files₁, hText, hFirst, hSecond⟩
  unfold AuditLogger.writeEntry
  rw [hText, Exec.ofExcept_ok, Exec.pure_bind_apply,
    Exec.bind_of_ok (Exec.mapErr_of_ok hFirst),
    Exec.mapErr_of_ok hSecond]

/- Flushing stops where a write of an entry fails. -/
theorem writeEntry_fallsShort
    (path : String) :
    FallsShort path
      (AuditLogger.writeEntry path :
        AuditEntry → Exec F AuditError Unit) := by
  intro entry files hLost
  unfold AuditLogger.writeEntry
  cases hText : SerdeJson.toVec entry with
  | error message =>
      have hPositive := entryLine_length_pos entry
      change (contents files path).length < _
      omega
  | ok json =>
      have hLess := contents_of_not_written hText hLost
      rw [Exec.ofExcept_ok, Exec.pure_bind_apply]
      rcases hFirst : LogFiles.writeAll path json files with
        ⟨outcome, files₁⟩
      rw [hFirst] at hLess
      dsimp only at hLess
      cases outcome with
      | err error =>
          rw [Exec.bind_of_err
            (Exec.mapErr_of_err hFirst)]
          exact hLess.1 nofun
      | panicked =>
          rw [Exec.bind_of_panicked
            (Exec.mapErr_of_panicked hFirst)]
          exact hLess.1 nofun
      | ok _ =>
          rw [Exec.bind_of_ok
            (Exec.mapErr_of_ok hFirst)]
          have hState :
              (Exec.mapErr AuditError.ioError
                  (LogFiles.writeAll path (asBytes "\n"))
                  files₁).2 =
                (LogFiles.writeAll path (asBytes "\n")
                  files₁).2 :=
            Exec.mapErr_state _ _ _
          rw [hState]
          exact hLess.2 (Or.inr rfl)

/- So does the background task. -/
theorem writeEntryAnyway_writesLines
    (path : String) :
    WritesLines path
      (AuditLogger.writeEntryAnyway path :
        AuditEntry → Exec F AuditError Unit) := by
  intro entry files hWritten
  rcases hWritten.writes with
    ⟨json, files₁, hText, hFirst, hSecond⟩
  unfold AuditLogger.writeEntryAnyway
  rw [hText]
  dsimp only
  rw [Exec.bind_of_ok
      (Exec.ignoreErr_of_ok (Exec.mapErr_of_ok hFirst)),
    Exec.ignoreErr_of_ok (Exec.mapErr_of_ok hSecond)]

/- The background task goes on where a write fails. -/
theorem writeEntryAnyway_fallsShort
    (hJson :
      ∀ (entry : AuditEntry) (json : Bytes),
        SerdeJson.toVec entry = .ok json → json ≠ [])
    (path : String) :
    FallsShort path
      (AuditLogger.writeEntryAnyway path :
        AuditEntry → Exec F AuditError Unit) := by
  intro entry files hLost
  unfold AuditLogger.writeEntryAnyway
  cases hText : SerdeJson.toVec entry with
  | error message =>
      have hPositive := entryLine_length_pos entry
      change (contents files path).length < _
      omega
  | ok json =>
      have hLess := contents_of_not_written hText hLost
      have hNonempty := hJson entry json hText
      dsimp only
      rcases hFirst : LogFiles.writeAll path json files with
        ⟨outcome, files₁⟩
      rw [hFirst] at hLess
      dsimp only at hLess
      have hState :
          (Exec.ignoreErr
              (Exec.mapErr AuditError.ioError
                (LogFiles.writeAll path (asBytes "\n")))
              files₁).2 =
            (LogFiles.writeAll path (asBytes "\n")
              files₁).2 := by
        rw [Exec.ignoreErr_state, Exec.mapErr_state]
      cases outcome with
      | panicked =>
          rw [Exec.bind_of_panicked
            (Exec.ignoreErr_of_panicked
              (Exec.mapErr_of_panicked hFirst))]
          exact hLess.1 nofun
      | err error =>
          rw [Exec.bind_of_ok
            (Exec.ignoreErr_of_err
              (Exec.mapErr_of_err hFirst)), hState]
          exact hLess.2 (Or.inl hNonempty)
      | ok _ =>
          rw [Exec.bind_of_ok
            (Exec.ignoreErr_of_ok
              (Exec.mapErr_of_ok hFirst)), hState]
          exact hLess.2 (Or.inl hNonempty)

------------------------------------------------------------
-- Emptying the Buffer
------------------------------------------------------------

variable {write : AuditEntry → Exec F AuditError Unit}
variable {entries : List AuditEntry}

open AuditLogger (drainWith)

/- Whatever the outcome, the files are those of the call. -/
omit [LawfulLogFiles F] [SerdeJson AuditEntry] in
theorem drainWith_cons
    (write : AuditEntry → Exec F AuditError Unit)
    (entry : AuditEntry)
    (rest : List AuditEntry)
    (files : F) :
    let result := drainWith write (entry :: rest) files
    let files' := (write entry files).2
    (∃ value, (write entry files).1 = .ok value ∧
        result = drainWith write rest files') ∨
      ((∀ value, (write entry files).1 ≠ .ok value) ∧
        result.2 = (rest, files')) := by
  dsimp only
  rw [drainWith]
  rcases write entry files with ⟨outcome, files'⟩
  cases outcome with
  | ok value => exact Or.inl ⟨value, rfl, rfl⟩
  | err error => exact Or.inr ⟨nofun, rfl⟩
  | panicked => exact Or.inr ⟨nofun, rfl⟩

/- When nothing fails, all the lines are added. -/
theorem drainWith_written
    (hLines : WritesLines path write)
    (hAll : AllWritten path entries files) :
    (drainWith write entries files).2.1 = [] ∧
      contents (drainWith write entries files).2.2 path =
        contents files path ++
          entries.flatMap entryLine := by
  induction entries generalizing files with
  | nil => simp [drainWith]
  | cons entry rest ih =>
      rcases hAll with ⟨hEntry, hRest⟩
      have hWrite := hLines entry files hEntry
      have hDrain :
          drainWith write (entry :: rest) files =
            drainWith write rest
              (afterEntry path entry files) := by
        rw [drainWith, hWrite]
      rcases ih hRest with ⟨hEmpty, hAdded⟩
      rw [hDrain, List.flatMap_cons, ← List.append_assoc,
        ← contents_afterEntry hEntry]
      exact ⟨hEmpty, hAdded⟩

/-
  Some entries are popped, and no more than their lines is
  added; less, when anything fails.
-/
theorem drainWith_popped
    (hLines : WritesLines path write)
    (hShort : FallsShort path write)
    (entries : List AuditEntry)
    (files : F) :
    ∃ popped,
      entries =
          popped ++ (drainWith write entries files).2.1 ∧
        (contents (drainWith write entries files).2.2
            path).length ≤
          (contents files path).length +
            (popped.flatMap entryLine).length ∧
        (¬ AllWritten path entries files →
          (contents (drainWith write entries files).2.2
              path).length <
            (contents files path).length +
              (popped.flatMap entryLine).length) := by
  induction entries generalizing files with
  | nil =>
      refine ⟨[], rfl, Nat.le_refl _, ?_⟩
      intro hFailed
      exact absurd trivial hFailed
  | cons entry rest ih =>
      by_cases hEntry : EntryWritten path entry files
      · have hWrite := hLines entry files hEntry
        have hDrain :
            drainWith write (entry :: rest) files =
              drainWith write rest
                (afterEntry path entry files) := by
          rw [drainWith, hWrite]
        rcases ih (afterEntry path entry files) with
          ⟨popped, hRest, hLe, hLt⟩
        have hLength :
            (contents (afterEntry path entry files)
                path).length =
              (contents files path).length +
                (entryLine entry).length := by
          rw [contents_afterEntry hEntry,
            List.length_append]
        rw [hLength] at hLe hLt
        rw [hDrain]
        refine ⟨entry :: popped, ?_, ?_, ?_⟩
        · rw [List.cons_append, ← hRest]
        · rw [List.flatMap_cons, List.length_append]
          omega
        · intro hFailed
          have hFailedRest :=
            hLt (fun hAll => hFailed ⟨hEntry, hAll⟩)
          rw [List.flatMap_cons, List.length_append]
          omega
      · have hLost := hShort entry files hEntry
        rcases drainWith_cons write entry rest files with
          ⟨value, _, hDrain⟩ | ⟨_, hDrain⟩
        · rcases ih (write entry files).2 with
            ⟨popped, hRest, hLe, _⟩
          rw [hDrain]
          refine ⟨entry :: popped, ?_, ?_, ?_⟩
          · rw [List.cons_append, ← hRest]
          · rw [List.flatMap_cons, List.length_append]
            omega
          · intro _
            rw [List.flatMap_cons, List.length_append]
            omega
        · rw [hDrain]
          dsimp only
          refine ⟨[entry], rfl, ?_, ?_⟩
          · rw [List.flatMap_singleton]
            omega
          · intro _
            rw [List.flatMap_singleton]
            exact hLost

/- Flushing drains by writing entries one after another. -/
omit [LawfulLogFiles F] in
theorem AuditLogger.drain_eq
    [LogFiles F]
    (path : String)
    (entries : List AuditEntry)
    (files : F) :
    drain path entries files =
      drainWith (writeEntry path) entries files := by
  induction entries generalizing files with
  | nil => rfl
  | cons entry rest ih =>
      unfold drain drainWith
      rcases writeEntry path entry files with
        ⟨outcome, files'⟩
      cases outcome with
      | ok _ => exact ih files'
      | err error => rfl
      | panicked => rfl

/-
  A logger after its buffer was drained, with files that
  may since have been flushed.
-/
structure DrainedBy
    (path : String)
    (write : AuditEntry → Exec F AuditError Unit)
    (logger drained : AuditLogger F) : Prop where
  config : drained.config = logger.config
  entryId : drained.entryId = logger.entryId
  lastHash : drained.lastHash = logger.lastHash
  logFile : drained.logFile = logger.logFile
  entries :
    drained.entries =
      (drainWith write logger.entries logger.files).2.1
  contents :
    contents drained.files path =
      contents
        (drainWith write logger.entries logger.files).2.2
        path

/- The drained buffer and files, put back. -/
omit [SerdeJson AuditEntry] in
theorem DrainedBy.of_result
    (path : String)
    (write : AuditEntry → Exec F AuditError Unit)
    (logger : AuditLogger F) :
    DrainedBy path write logger
      { logger with
        entries :=
          (drainWith write logger.entries logger.files).2.1
        files :=
          (drainWith write logger.entries
            logger.files).2.2 } :=
  ⟨rfl, rfl, rfl, rfl, rfl, rfl⟩

/- Flushing the file afterwards changes no content. -/
omit [SerdeJson AuditEntry] in
theorem DrainedBy.flushed
    {logger drained : AuditLogger F}
    (hDrained : DrainedBy path write logger drained) :
    DrainedBy path write logger
      { drained with
        files :=
          (Exec.mapErr AuditError.ioError
            (LogFiles.flush path) drained.files).2 } := by
  refine
    ⟨hDrained.config, hDrained.entryId, hDrained.lastHash,
      hDrained.logFile, hDrained.entries, ?_⟩
  dsimp only
  rw [Exec.mapErr_state, LawfulLogFiles.contents_of_flush]
  exact hDrained.contents

/- Flushing drains the buffer into the log file. -/
theorem AuditLogger.flush_drained
    {logger : AuditLogger F}
    (hFile : logger.logFile = some path) :
    DrainedBy path (writeEntry path) logger
      (flush logger).2 := by
  unfold flush
  rw [Exec.read_bind_apply, hFile]
  apply Exec.bind_state
    (DrainedBy path (writeEntry path) logger)
  · unfold drainEntries
    rw [drain_eq]
    exact DrainedBy.of_result path (writeEntry path) logger
  · intro _ drained hDrained
    rw [Exec.onPart_apply]
    exact hDrained.flushed

/- So does a turn of the background task. -/
theorem AuditLogger.flushTask_drained
    {logger : AuditLogger F}
    (hFile : logger.logFile = some path) :
    DrainedBy path (writeEntryAnyway path) logger
      (flushTask logger).2 := by
  unfold flushTask
  rw [Exec.read_bind_apply, hFile]
  apply Exec.bind_state
    (DrainedBy path (writeEntryAnyway path) logger)
  · exact
      DrainedBy.of_result path (writeEntryAnyway path) logger
  · intro _ drained hDrained
    rw [Exec.ignoreErr_state, Exec.onPart_apply]
    exact hDrained.flushed

end Writing

end IsaWorkspace

------------------------------------------------------------
-- The Ledger
------------------------------------------------------------

namespace IsaWorkspace

/- The calls and turns that move entries. -/
inductive LedgerOp where
  | log (request : LogRequest)
  | flush
  | flushTask

/- A logger and the entries `log` has returned `Ok` for. -/
structure AuditLedger (F : Type) where
  logger : AuditLogger F
  logged : List AuditEntry

section Ledger

variable {F : Type} [LawfulLogFiles F]
variable [Sha256] [SerdeJson AuditEvent] [Rfc3339]
variable [SerdeJson AuditEntry] [BuildProfile]

namespace AuditLedger

/- Perform a call, and keep account of what was logged. -/
def step
    (ledger : AuditLedger F)
    (op : LedgerOp) : AuditLedger F :=
  match op with
  | .log request =>
      match AuditLogger.log request.now request.event
          request.actor request.resource request.metadata
          ledger.logger with
      | (.ok id, logger) =>
          { logger := logger
            logged :=
              ledger.logged ++
                [request.entry id ledger.logger.lastHash] }
      | (_, logger) => ⟨logger, ledger.logged⟩
  | .flush =>
      ⟨(AuditLogger.flush ledger.logger).2, ledger.logged⟩
  | .flushTask =>
      ⟨(AuditLogger.flushTask ledger.logger).2,
        ledger.logged⟩

end AuditLedger

open LawfulLogFiles (contents)

/-
  The lines added to the log file and the buffer are, in
  turn, the entries logged; and these have rising ids.
-/
structure Conserved
    (before : Bytes)
    (path : String)
    (ledger : AuditLedger F) : Prop where
  kept :
    ∃ written,
      contents ledger.logger.files path =
          before ++ written.flatMap entryLine ∧
        written ++ ledger.logger.entries = ledger.logged
  ordered :
    ledger.logged.Pairwise fun earlier later =>
      earlier.id < later.id

/-
  A call of `log` finds a new id and room in the buffer, and
  a flush finds JSON text for every entry and a file that
  takes it.
-/
def LosesNothing
    (ledger : AuditLedger F) : LedgerOp → Prop
| .log _ =>
    ∀ id ∈ checkedAdd ledger.logger.entryId 1,
      ledger.logger.entryId < id ∧
        ledger.logger.entries.length <
          ledger.logger.config.maxMemoryEntries
| _ =>
    ∀ path ∈ ledger.logger.logFile,
      AllWritten path ledger.logger.entries
        ledger.logger.files

instance
    (ledger : AuditLedger F)
    (op : LedgerOp) :
    Decidable (LosesNothing ledger op) :=
  match op with
  | .log _ => decidableForallWord _
  | .flush | .flushTask => Option.decidableForallMem _

/-
  The log file is open, and the counter is the id of the
  last entry logged.
-/
structure LedgerInvariant
    (path : String)
    (ledger : AuditLedger F) : Prop where
  logFile : ledger.logger.logFile = some path
  counter :
    ledger.logger.entryId =
      (ledger.logged.getLast?.map AuditEntry.id).getD 0

variable {before : Bytes} {path : String}
variable {ledger : AuditLedger F}

/- What a call of `log` does to the ledger. -/
theorem AuditLedger.step_log
    (ledger : AuditLedger F)
    (request : LogRequest) :
    ledger.step (.log request) =
      match checkedAdd ledger.logger.entryId 1 with
      | none => ledger
      | some id =>
          { logger :=
              ledger.logger.push
                (request.entry id ledger.logger.lastHash)
            logged :=
              ledger.logged ++
                [request.entry id
                  ledger.logger.lastHash] } := by
  unfold step
  dsimp only
  rw [AuditLogger.log_eq]
  cases checkedAdd ledger.logger.entryId 1 with
  | none => rfl
  | some id => rfl

/- Every call keeps the file open and the counter right. -/
theorem ledgerInvariant_step
    (hInvariant : LedgerInvariant path ledger)
    (op : LedgerOp) :
    LedgerInvariant path (ledger.step op) := by
  cases op with
  | log request =>
      rw [AuditLedger.step_log]
      cases checkedAdd ledger.logger.entryId 1 with
      | none => exact hInvariant
      | some id =>
          refine ⟨hInvariant.logFile, ?_⟩
          dsimp only
          rw [List.getLast?_concat]
          rfl
  | flush =>
      have hDrained :=
        AuditLogger.flush_drained hInvariant.logFile
      exact
        ⟨hDrained.logFile.trans hInvariant.logFile,
          hDrained.entryId.trans hInvariant.counter⟩
  | flushTask =>
      have hDrained :=
        AuditLogger.flushTask_drained hInvariant.logFile
      exact
        ⟨hDrained.logFile.trans hInvariant.logFile,
          hDrained.entryId.trans hInvariant.counter⟩

/-
  Draining keeps account exactly when every entry is
  written: otherwise the lines added are shorter than those
  of the entries that left the buffer.
-/
omit [Sha256] [SerdeJson AuditEvent] [Rfc3339]
  [BuildProfile] in
theorem conserved_drained_iff
    {write : AuditEntry → Exec F AuditError Unit}
    (hLines : WritesLines path write)
    (hShort : FallsShort path write)
    {drained : AuditLogger F}
    (hDrained :
      DrainedBy path write ledger.logger drained)
    (hConserved : Conserved before path ledger) :
    Conserved before path ⟨drained, ledger.logged⟩ ↔
      AllWritten path ledger.logger.entries
        ledger.logger.files := by
  rcases hConserved with ⟨⟨written, hFile, hKept⟩, hOrdered⟩
  constructor
  · rintro ⟨⟨written', hFile', hKept'⟩, _⟩
    by_contra hFailed
    rcases drainWith_popped hLines hShort ledger.logger.entries
        ledger.logger.files with
      ⟨popped, hPopped, _, hLess⟩
    have hLess := hLess hFailed
    dsimp only at hFile' hKept'
    have hSame : written' = written ++ popped := by
      apply List.append_cancel_right
      rw [List.append_assoc, ← hPopped, hKept, ← hKept',
        hDrained.entries]
    rw [← hDrained.contents, hFile', hFile, hSame,
      List.flatMap_append] at hLess
    simp only [List.length_append] at hLess
    omega
  · intro hAll
    rcases drainWith_written hLines hAll with
      ⟨hEmpty, hAdded⟩
    refine ⟨⟨ledger.logged, ?_, ?_⟩, hOrdered⟩
    · dsimp only
      rw [hDrained.contents, hAdded, hFile, ← hKept,
        List.flatMap_append, List.append_assoc]
    · dsimp only
      rw [hDrained.entries, hEmpty, List.append_nil]

/- With the counter in order, a new id is the greatest. -/
omit [LawfulLogFiles F] [Sha256] [SerdeJson AuditEvent]
  [Rfc3339] [SerdeJson AuditEntry] in
theorem ordered_concat_iff
    (hInvariant : LedgerInvariant path ledger)
    (hOrdered :
      ledger.logged.Pairwise fun earlier later =>
        earlier.id < later.id)
    {entry : AuditEntry}
    (hId :
      checkedAdd ledger.logger.entryId 1 = some entry.id) :
    ((ledger.logged ++ [entry]).Pairwise
        fun earlier later => earlier.id < later.id) ↔
      ledger.logger.entryId < entry.id := by
  have hCounter := hInvariant.counter
  rw [List.pairwise_append]
  cases hLast : ledger.logged.getLast? with
  | none =>
      have hEmpty : ledger.logged = [] :=
        List.getLast?_eq_none_iff.mp hLast
      rw [hLast] at hCounter
      have hZero : ledger.logger.entryId = 0 := hCounter
      rw [hZero] at hId ⊢
      have hOne : entry.id = 1 := by
        have hSum :
            checkedAdd (0 : UInt64) 1 = some 1 := rfl
        rw [hSum] at hId
        exact (Option.some.inj hId).symm
      rw [hOne, hEmpty]
      simp
  | some last =>
      rw [hLast] at hCounter
      have hLastId : ledger.logger.entryId = last.id :=
        hCounter
      have hMem : last ∈ ledger.logged :=
        List.mem_of_getLast? hLast
      rw [hLastId]
      constructor
      · rintro ⟨_, _, hBelow⟩
        exact hBelow last hMem entry (List.mem_singleton_self _)
      · intro hBelow
        refine ⟨hOrdered, List.pairwise_singleton _ _, ?_⟩
        intro earlier hEarlier later hLater
        rw [List.mem_singleton.mp hLater]
        have hSplit :
            ledger.logged.dropLast ++ [last] =
              ledger.logged :=
          List.dropLast_append_getLast? last hLast
        rw [← hSplit] at hEarlier hOrdered
        rcases List.mem_append.mp hEarlier with
          hFront | hIsLast
        · have hBefore :=
            (List.pairwise_append.mp hOrdered).2.2 earlier
              hFront last (List.mem_singleton_self _)
          exact UInt64.lt_trans hBefore hBelow
        · rw [List.mem_singleton.mp hIsLast]
          exact hBelow

/-
  Logging keeps account of all entries exactly when there is
  room: otherwise an entry leaves the buffer and no line is
  added.
-/
omit [Sha256] [SerdeJson AuditEvent] [Rfc3339]
  [BuildProfile] in
theorem kept_push_iff
    {entry : AuditEntry}
    {written : List AuditEntry}
    (hFile :
      contents ledger.logger.files path =
        before ++ written.flatMap entryLine)
    (hKept :
      written ++ ledger.logger.entries = ledger.logged) :
    (∃ written',
      contents (ledger.logger.push entry).files path =
          before ++ written'.flatMap entryLine ∧
        written' ++ (ledger.logger.push entry).entries =
          ledger.logged ++ [entry]) ↔
      ledger.logger.entries.length <
        ledger.logger.config.maxMemoryEntries := by
  constructor
  · rintro ⟨written', hFile', hKept'⟩
    by_contra hFull
    have hLeft :
        (ledger.logger.push entry).entries.length ≤
          ledger.logger.config.maxMemoryEntries :=
      AuditLogger.length_trim_le _ _
    have hLengths := congrArg List.length hKept'
    rw [← hKept] at hLengths
    simp only [List.length_append, List.length_singleton]
      at hLengths
    have hLonger : written.length < written'.length := by
      omega
    have hBegins :
        written <+: ledger.logged ++ [entry] := by
      rw [← hKept, List.append_assoc]
      exact List.prefix_append _ _
    have hBegins' :
        written' <+: ledger.logged ++ [entry] := by
      rw [← hKept']
      exact List.prefix_append _ _
    rcases List.prefix_of_prefix_length_le hBegins hBegins'
        (Nat.le_of_lt hLonger) with
      ⟨extra, rfl⟩
    have hSame :
        contents (ledger.logger.push entry).files path =
          contents ledger.logger.files path := rfl
    rw [hSame, hFile, List.flatMap_append] at hFile'
    have hBytes := congrArg List.length hFile'
    cases extra with
    | nil =>
        rw [List.append_nil] at hLonger
        exact absurd hLonger (Nat.lt_irrefl _)
    | cons first rest =>
        have hPositive := entryLine_length_pos first
        rw [List.flatMap_cons] at hBytes
        simp only [List.length_append] at hBytes
        omega
  · intro hRoom
    refine ⟨written, hFile, ?_⟩
    rw [AuditLogger.push_entries_of_lt hRoom, ← hKept,
      List.append_assoc]

/- A call keeps account exactly when it loses nothing. -/
theorem conserved_step_iff
    (hJson :
      ∀ (entry : AuditEntry) (json : Bytes),
        SerdeJson.toVec entry = .ok json → json ≠ [])
    (hInvariant : LedgerInvariant path ledger)
    (hConserved : Conserved before path ledger)
    (op : LedgerOp) :
    Conserved before path (ledger.step op) ↔
      LosesNothing ledger op := by
  have hPath :
      (∀ path' ∈ ledger.logger.logFile,
        AllWritten path' ledger.logger.entries
          ledger.logger.files) ↔
        AllWritten path ledger.logger.entries
          ledger.logger.files := by
    rw [hInvariant.logFile]
    simp
  cases op with
  | flush =>
      unfold LosesNothing
      rw [hPath]
      exact
        conserved_drained_iff (writeEntry_writesLines path)
          (writeEntry_fallsShort path)
          (AuditLogger.flush_drained hInvariant.logFile)
          hConserved
  | flushTask =>
      unfold LosesNothing
      rw [hPath]
      exact
        conserved_drained_iff
          (writeEntryAnyway_writesLines path)
          (writeEntryAnyway_fallsShort hJson path)
          (AuditLogger.flushTask_drained hInvariant.logFile)
          hConserved
  | log request =>
      unfold LosesNothing
      rw [AuditLedger.step_log]
      cases hId : checkedAdd ledger.logger.entryId 1 with
      | none =>
          constructor
          · rintro _ _ ⟨⟩
          · intro _
            exact hConserved
      | some id =>
          rcases hConserved with
            ⟨⟨written, hFile, hKept⟩, hOrdered⟩
          constructor
          · rintro ⟨hKept', hOrdered'⟩ _ ⟨⟩
            exact
              ⟨(ordered_concat_iff hInvariant hOrdered
                  hId).mp hOrdered',
                (kept_push_iff hFile hKept).mp hKept'⟩
          · intro hAll
            rcases hAll id rfl with ⟨hBelow, hFree⟩
            exact
              ⟨(kept_push_iff hFile hKept).mpr hFree,
                (ordered_concat_iff hInvariant hOrdered
                  hId).mpr hBelow⟩

/- A run keeps account exactly when no call loses anything. -/
theorem conserved_run_iff
    (hJson :
      ∀ (entry : AuditEntry) (json : Bytes),
        SerdeJson.toVec entry = .ok json → json ≠ [])
    (hInvariant : LedgerInvariant path ledger)
    (hConserved : Conserved before path ledger)
    (ops : List LedgerOp) :
    Runs.Throughout AuditLedger.step
        (Conserved before path) ledger ops ↔
      Runs.AlongRun AuditLedger.step LosesNothing ledger
        ops := by
  have hKeeps :
      ∀ (ledger : AuditLedger F) op,
        LedgerInvariant path ledger →
          LedgerInvariant path (ledger.step op) :=
    fun _ op hInvariant => ledgerInvariant_step hInvariant op
  have hStep :
      ∀ (ledger : AuditLedger F) op,
        LedgerInvariant path ledger →
        Conserved before path ledger →
          (Conserved before path (ledger.step op) ↔
            LosesNothing ledger op) :=
    fun _ op hInvariant hConserved =>
      conserved_step_iff hJson hInvariant hConserved op
  exact
    Runs.throughout_iff_alongRun_of_invariant hKeeps hStep
      hInvariant hConserved

/- A new logger has an open file and nothing to account for. -/
omit [Sha256] [SerdeJson AuditEvent] [Rfc3339]
  [BuildProfile] in
theorem ledger_of_new
    {config : AuditConfig}
    {files files' : F}
    {logger : AuditLogger F}
    (hPath : config.logFile = some path)
    (hNew :
      AuditLogger.new config files = (.ok logger, files')) :
    LedgerInvariant path (⟨logger, []⟩ : AuditLedger F) ∧
      Conserved (contents files' path) path
        (⟨logger, []⟩ : AuditLedger F) := by
  rcases AuditLogger.of_new_ok hNew with
    ⟨lastHash, _, hLogger⟩
  rw [hLogger]
  refine ⟨⟨hPath, rfl⟩, ⟨⟨[], ?_, rfl⟩, List.Pairwise.nil⟩⟩
  rw [List.flatMap_nil, List.append_nil]

/-
  Throughout a run of a new logger with a log file, the lines
  added to the file and the buffer are all entries logged, in
  the order of their ids, exactly when no call of the run
  loses anything.
-/
theorem conserved_iff
    (hJson :
      ∀ (entry : AuditEntry) (json : Bytes),
        SerdeJson.toVec entry = .ok json → json ≠ [])
    (config : AuditConfig)
    (path : String)
    (hPath : config.logFile = some path)
    (files files' : F)
    (logger : AuditLogger F)
    (hNew :
      AuditLogger.new config files = (.ok logger, files'))
    (ops : List LedgerOp) :
    Runs.Throughout AuditLedger.step
        (Conserved (contents files' path) path)
        ⟨logger, []⟩ ops ↔
      Runs.AlongRun AuditLedger.step LosesNothing
        ⟨logger, []⟩ ops := by
  rcases ledger_of_new hPath hNew with
    ⟨hInvariant, hConserved⟩
  exact conserved_run_iff hJson hInvariant hConserved ops

end Ledger

end IsaWorkspace

------------------------------------------------------------
-- Sample Ledgers
------------------------------------------------------------

namespace IsaWorkspace

/-
  The deletions of `ConcurrentSample` in a log file whose
  writes fail by a script.
-/
namespace LedgerSample

open AuditSample (hashed)

scoped instance : Rfc3339 := AuditSample.instRfc3339

scoped instance : SerdeJson AuditEvent :=
  AuditSample.instSerdeJsonAuditEvent

scoped instance : Sha256 := AuditSample.instSha256

scoped instance : BuildProfile :=
  AuditSample.instBuildProfile

/- The JSON text of a deletion. -/
def text
    (entry : AuditEntry) : String :=
  "\x7b\"id\":" ++ toString entry.id.toNat ++
    ",\"timestamp\":\"1970-01-01T00:00:00Z\"" ++
    ",\"event\":\x7b\"type\":\"state_deleted\"\x7d" ++
    ",\"actor\":\"user-123\"" ++
    ",\"resource\":\"state-456\"" ++
    ",\"previous_hash\":\"" ++ entry.previousHash ++
    "\",\"entry_hash\":\"" ++ entry.entryHash ++
    "\",\"metadata\":null\x7d"

scoped instance : SerdeJson AuditEntry where
  toVec entry := .ok (asBytes (text entry))
  fromSlice _ := .error "no entry is read"

/- One file, and which of the next writes to it fail. -/
structure FlakyFile where
  content : Bytes
  failures : List Bool
deriving DecidableEq

scoped instance : LogFiles FlakyFile where
  openAppend _ file := (.ok (), file)
  readToString _ file :=
    match String.fromUTF8? ⟨file.content.toArray⟩ with
    | some text => (.ok text, file)
    | none =>
        (.err "stream did not contain valid UTF-8", file)
  writeAll _ data file :=
    match file.failures with
    | true :: rest =>
        (.err "no space left on device",
          ⟨file.content, rest⟩)
    | _ => (.ok (), ⟨file.content ++ data, file.failures.tail⟩)
  flush _ file := (.ok (), file)

scoped instance : LawfulLogFiles FlakyFile where
  contents file _ := file.content
  contents_of_open _ _ := rfl
  contents_of_read _ file := by
    unfold LogFiles.readToString instLogFilesFlakyFile
    dsimp only
    split <;> rfl
  read_of_ok := by
    intro path text file file' hRead
    unfold LogFiles.readToString instLogFilesFlakyFile
      at hRead
    dsimp only at hRead
    unfold String.fromUTF8? at hRead
    split at hRead
    · next hText =>
        split at hText
        · cases hText
          cases hRead
          rfl
        · cases hText
    · cases hRead
  contents_of_write_ok := by
    intro path data file hWrite
    unfold LogFiles.writeAll instLogFilesFlakyFile
      at hWrite ⊢
    dsimp only at hWrite ⊢
    split at hWrite
    · cases hWrite
    · rfl
  contents_of_write_failed := by
    intro path data file hWrite
    unfold LogFiles.writeAll instLogFilesFlakyFile
      at hWrite ⊢
    dsimp only at hWrite ⊢
    split at hWrite
    · rfl
    · exact absurd rfl hWrite
  contents_of_flush _ _ := rfl

def deletion : LogRequest where
  now := DateTime.unixEpoch
  event := .stateDeleted
  actor := "user-123"
  resource := "state-456"
  metadata := none

/- A buffer of some size over an empty file. -/
def config
    (maxMemoryEntries : Nat) : AuditConfig :=
  ⟨maxMemoryEntries, some "audit.log"⟩

/- A new logger, and which of its writes fail. -/
def opened
    (maxMemoryEntries : Nat)
    (failures : List Bool) : AuditLogger FlakyFile where
  config := config maxMemoryEntries
  entries := []
  entryId := 0
  lastHash := ""
  logFile := some "audit.log"
  files := ⟨[], failures⟩

theorem toVec_ne_nil
    (entry : AuditEntry)
    (json : Bytes)
    (hJson : SerdeJson.toVec entry = .ok json) :
    json ≠ [] := by
  cases hJson
  rintro hEmpty
  have hLength := congrArg List.length hEmpty
  unfold text at hLength
  simp only [asBytes_append, List.length_append] at hLength
  have hBrace : (asBytes "\x7b\"id\":").length = 6 := by
    decide
  rw [hBrace] at hLength
  simp at hLength

theorem opens
    (maxMemoryEntries : Nat)
    (failures : List Bool) :
    AuditLogger.new (config maxMemoryEntries)
        (⟨[], failures⟩ : FlakyFile) =
      (.ok (opened maxMemoryEntries failures),
        ⟨[], failures⟩) := by
  rfl

end LedgerSample

open LedgerSample

/- Two entries, flushed by the task and by a call. -/
theorem conserved_sample :
    Runs.Throughout AuditLedger.step
      (Conserved [] "audit.log") ⟨opened 2 [], []⟩
      [.log deletion, .flushTask, .log deletion, .flush] :=
  (conserved_iff toVec_ne_nil (config 2) "audit.log" rfl
    ⟨[], []⟩ ⟨[], []⟩ (opened 2 []) (opens 2 [])
    [.log deletion, .flushTask, .log deletion, .flush]).mpr
      (by decide +kernel)

/-
  An entry is lost when a full buffer is trimmed, when the
  write of a flush fails, and when one of the background
  task does.
-/
theorem conserved_lossy :
    (∀ maxMemoryEntries failures,
      AuditLogger.new (config maxMemoryEntries)
          (⟨[], failures⟩ : FlakyFile) =
        (.ok (opened maxMemoryEntries failures),
          ⟨[], failures⟩)) ∧
      ¬ Runs.Throughout AuditLedger.step
        (Conserved [] "audit.log") ⟨opened 1 [], []⟩
        [.log deletion, .log deletion] ∧
      ¬ Runs.Throughout AuditLedger.step
        (Conserved [] "audit.log") ⟨opened 2 [true], []⟩
        [.log deletion, .flush] ∧
      ¬ Runs.Throughout AuditLedger.step
        (Conserved [] "audit.log")
        ⟨opened 2 [false, true], []⟩
        [.log deletion, .flushTask] := by
  have hDecides :
      ∀ maxMemoryEntries failures ops,
        ¬ Runs.AlongRun AuditLedger.step LosesNothing
          ⟨opened maxMemoryEntries failures, []⟩ ops →
        ¬ Runs.Throughout AuditLedger.step
          (Conserved [] "audit.log")
          ⟨opened maxMemoryEntries failures, []⟩ ops := by
    intro maxMemoryEntries failures ops hLoses hConserved
    have hNew := opens maxMemoryEntries failures
    rcases ledger_of_new rfl hNew with ⟨hInvariant, hStart⟩
    exact
      hLoses
        ((conserved_run_iff toVec_ne_nil hInvariant hStart
          ops).mp hConserved)
  refine ⟨opens, ?_, ?_, ?_⟩
  · apply hDecides
    decide +kernel
  · apply hDecides
    decide +kernel
  · apply hDecides
    decide +kernel

end IsaWorkspace
