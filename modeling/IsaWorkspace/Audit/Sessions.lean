import IsaWorkspace.Audit.Conservation

/-
  The audit file over consecutive sessions.

  A session opens a logger on the log file, logs and flushes,
  and ends with a flush.  A new logger goes on from the hash
  of the last line.  As long as no buffer is trimmed and no
  write fails, the lines of the file are one hash chain.

  Main declarations:
    * `AuditLogger.lines_flatMap`
    * `OneLine`, `LineRoundTrips`, `LogRequest.RoundTrips`
    * `AuditSession`, `AuditSession.run`
    * `OneChain`, `Unimpeded`
    * `FileChain`, `fileChain_step`
    * `loadLastHash_spec`
    * `sessions_oneChain`
-/

------------------------------------------------------------
-- Lines
------------------------------------------------------------

namespace IsaWorkspace

/- Neither a line feed nor a carriage return. -/
def OneLine
    (text : List Char) : Prop :=
  '\n' ∉ text ∧ '\r' ∉ text

instance
    (text : List Char) :
    Decidable (OneLine text) := by
  unfold OneLine
  infer_instance

/- Two pieces of a line make a line. -/
theorem OneLine.append
    {text other : List Char}
    (hText : OneLine text)
    (hOther : OneLine other) :
    OneLine (text ++ other) := by
  unfold OneLine
  rw [List.mem_append, List.mem_append, not_or, not_or]
  exact
    ⟨⟨hText.1, hOther.1⟩, ⟨hText.2, hOther.2⟩⟩

namespace AuditLogger

/- A text up to a line feed is the first line. -/
theorem lines_append_newline
    {text : List Char}
    (hText : OneLine text)
    (rest : List Char) :
    lines (text ++ '\n' :: rest) = text :: lines rest := by
  induction text with
  | nil => simp [lines]
  | cons char text ih =>
      rcases hText with ⟨hFeed, hReturn⟩
      rw [List.mem_cons, not_or] at hFeed hReturn
      have hRest := ih ⟨hFeed.2, hReturn.2⟩
      rw [List.cons_append, lines, hRest]
      · intro _ hIsReturn
        exact absurd hIsReturn.symm hReturn.1
      · intro hIsFeed
        exact absurd hIsFeed.symm hFeed.1

/- The lines of terminated lines are these lines. -/
theorem lines_flatMap
    {texts : List (List Char)}
    (hTexts : ∀ text ∈ texts, OneLine text) :
    lines (texts.flatMap fun text => text ++ ['\n']) =
      texts := by
  induction texts with
  | nil => rfl
  | cons text rest ih =>
      have hText := hTexts text List.mem_cons_self
      have hRest :
          ∀ other ∈ rest, OneLine other :=
        fun other hOther =>
          hTexts other (List.mem_cons_of_mem text hOther)
      rw [List.flatMap_cons, List.append_assoc,
        List.singleton_append, lines_append_newline hText,
        ih hRest]

end AuditLogger

------------------------------------------------------------
-- Lines of Entries
------------------------------------------------------------

section Entries

variable [SerdeJson AuditEntry]

/-
  The JSON text of an entry is one line that decodes to the
  entry.
-/
def LineRoundTrips
    (entry : AuditEntry) : Prop :=
  ∀ json : Bytes,
    SerdeJson.toVec entry = .ok json →
      (∃ text, OneLine text ∧
        json = asBytes (String.ofList text)) ∧
        SerdeJson.fromSlice json = .ok entry

/- What a line decodes to. -/
def decodeLine
    (line : List Char) : Except String AuditEntry :=
  SerdeJson.fromSlice (asBytes (String.ofList line))

/-
  Entries that have JSON text make up a text whose lines
  decode to them.
-/
theorem exists_text
    {entries : List AuditEntry}
    (hLines : ∀ entry ∈ entries, LineRoundTrips entry)
    (hEntries :
      ∀ entry ∈ entries,
        ∃ json, SerdeJson.toVec entry = .ok json) :
    ∃ text : List Char,
      entries.flatMap entryLine =
          asBytes (String.ofList text) ∧
        (AuditLogger.lines text).map decodeLine =
          entries.map .ok := by
  have hTexts :
      ∃ texts : List (List Char),
        (∀ text ∈ texts, OneLine text) ∧
          entries.flatMap entryLine =
            asBytes
              (String.ofList
                (texts.flatMap fun text =>
                  text ++ ['\n'])) ∧
          texts.map decodeLine = entries.map .ok := by
    induction entries with
    | nil => exact ⟨[], by simp, rfl, rfl⟩
    | cons entry rest ih =>
        rcases hEntries entry List.mem_cons_self with
          ⟨json, hJson⟩
        rcases hLines entry List.mem_cons_self json hJson with
          ⟨⟨text, hOneLine, rfl⟩, hDecodes⟩
        rcases
            ih
              (fun other hOther =>
                hLines other
                  (List.mem_cons_of_mem entry hOther))
              fun other hOther =>
                hEntries other
                  (List.mem_cons_of_mem entry hOther) with
          ⟨texts, hAll, hBytes, hDecoded⟩
        refine ⟨text :: texts, ?_, ?_, ?_⟩
        · intro other hOther
          rcases List.mem_cons.mp hOther with rfl | hOld
          · exact hOneLine
          · exact hAll other hOld
        · rw [List.flatMap_cons, List.flatMap_cons, hBytes,
            entryLine_eq hJson, String.ofList_append,
            String.ofList_append, asBytes_append,
            asBytes_append]
        · rw [List.map_cons, List.map_cons, hDecoded]
          exact congrArg (· :: _) hDecodes
  rcases hTexts with ⟨texts, hAll, hBytes, hDecoded⟩
  refine ⟨_, hBytes, ?_⟩
  rw [AuditLogger.lines_flatMap hAll]
  exact hDecoded

end Entries

end IsaWorkspace

------------------------------------------------------------
-- Sessions
------------------------------------------------------------

namespace IsaWorkspace

/- A logger's configuration, and its calls up to the last. -/
structure AuditSession where
  config : AuditConfig
  ops : List LedgerOp

/- The calls of a session; the last one is a flush. -/
def AuditSession.calls
    (session : AuditSession) : List LedgerOp :=
  session.ops ++ [.flush]

section Sessions

variable {F : Type} [LawfulLogFiles F]
variable [Sha256] [SerdeJson AuditEvent] [Rfc3339]
variable [SerdeJson AuditEntry] [BuildProfile]

omit [BuildProfile] in
/- The entries that a request makes round-trip as lines. -/
def LogRequest.RoundTrips
    (request : LogRequest) : Prop :=
  ∀ id previousHash,
    LineRoundTrips (request.entry id previousHash)

/-
  The files after a session.  Where no logger could be
  opened, no call is made.
-/
def AuditSession.run
    (files : F)
    (session : AuditSession) : F :=
  match AuditLogger.new session.config files with
  | (.ok logger, _) =>
      (Runs.run AuditLedger.step ⟨logger, []⟩
        session.calls).logger.files
  | (_, files') => files'

/-
  A call of `log` finds room for the entry it makes, and a
  flush finds JSON text for every entry and a file that
  takes it.
-/
def Unimpeded
    (ledger : AuditLedger F) : LedgerOp → Prop
| .log _ =>
    ∀ _ ∈ checkedAdd ledger.logger.entryId 1,
      ledger.logger.entries.length <
        ledger.logger.config.maxMemoryEntries
| _ =>
    ∀ path ∈ ledger.logger.logFile,
      AllWritten path ledger.logger.entries
        ledger.logger.files

instance
    (ledger : AuditLedger F)
    (op : LedgerOp) :
    Decidable (Unimpeded ledger op) :=
  match op with
  | .log _ => decidableForallWord _
  | .flush | .flushTask => Option.decidableForallMem _

/- No call of a session is impeded. -/
def SessionUnimpeded
    (files : F)
    (session : AuditSession) : Prop :=
  match AuditLogger.new session.config files with
  | (.ok logger, _) =>
      Runs.AlongRun AuditLedger.step Unimpeded
        ⟨logger, []⟩ session.calls
  | _ => True

instance
    (files : F)
    (session : AuditSession) :
    Decidable (SessionUnimpeded files session) := by
  unfold SessionUnimpeded
  split <;> infer_instance

/- The hash of the entry before the one at a position. -/
omit [LawfulLogFiles F] [BuildProfile] in
def hashBefore
    (entries : List AuditEntry) : Nat → String
| 0 => ""
| index + 1 =>
    (entries[index]?.map AuditEntry.entryHash).getD ""

/- A session with a logger is what its calls do. -/
theorem sessionUnimpeded_of_new
    {files files' : F}
    {session : AuditSession}
    {logger : AuditLogger F}
    (hNew :
      AuditLogger.new session.config files =
        (.ok logger, files'))
    (hCalls :
      Runs.AlongRun AuditLedger.step Unimpeded
        ⟨logger, []⟩ session.calls) :
    SessionUnimpeded files session := by
  unfold SessionUnimpeded
  rw [hNew]
  exact hCalls

/-
  Every line decodes to an entry with its own hash and the
  hash of the entry on the line before, the empty one on the
  first line.
-/
def OneChain
    (lines : List (List Char)) : Prop :=
  ∃ entries : List AuditEntry,
    lines.map decodeLine = entries.map .ok ∧
      ∀ index entry, entries[index]? = some entry →
        entry.previousHash = hashBefore entries index ∧
          entry.entryHash = calculateHash entry

------------------------------------------------------------
-- The Chain in the File
------------------------------------------------------------

open LawfulLogFiles (contents)

/-
  The entries in the file and in the buffer are one chain
  from the empty hash, which ends in the last hash.
-/
structure FileChain
    (path : String)
    (written : List AuditEntry)
    (logger : AuditLogger F) : Prop where
  logFile : logger.logFile = some path
  contents :
    contents logger.files path =
      written.flatMap entryLine
  texts :
    ∀ entry ∈ written,
      ∃ json, SerdeJson.toVec entry = .ok json
  roundTrips :
    ∀ entry ∈ written ++ logger.entries,
      LineRoundTrips entry
  verified :
    auditLinks.verifyFrom ""
      (written ++ logger.entries) = true
  lastHash :
    logger.lastHash =
      auditLinks.tip "" (written ++ logger.entries)

/-
  The file holds the lines of some entries, which are one
  chain from the empty hash.
-/
structure StoredChain
    (path : String)
    (files : F)
    (written : List AuditEntry) : Prop where
  contents :
    contents files path = written.flatMap entryLine
  texts :
    ∀ entry ∈ written,
      ∃ json, SerdeJson.toVec entry = .ok json
  roundTrips : ∀ entry ∈ written, LineRoundTrips entry
  verified : auditLinks.verifyFrom "" written = true

variable {path : String} {written : List AuditEntry}
variable {logger : AuditLogger F} {ledger : AuditLedger F}

/- What is written has JSON text. -/
omit [LawfulLogFiles F] [Sha256] [SerdeJson AuditEvent]
  [Rfc3339] [BuildProfile] in
theorem AllWritten.texts
    [LogFiles F]
    {entries : List AuditEntry}
    {files : F}
    (hAll : AllWritten path entries files) :
    ∀ entry ∈ entries,
      ∃ json, SerdeJson.toVec entry = .ok json := by
  induction entries generalizing files with
  | nil => simp
  | cons first rest ih =>
      intro entry hEntry
      rcases List.mem_cons.mp hEntry with rfl | hRest
      · rcases hAll.1.writes with ⟨json, _, hJson, _⟩
        exact ⟨json, hJson⟩
      · exact ih hAll.2 entry hRest

/- A flush that is not impeded moves the chain to the file. -/
omit [BuildProfile] in
theorem FileChain.drained
    (hChain : FileChain path written logger)
    {write : AuditEntry → Exec F AuditError Unit}
    (hLines : WritesLines path write)
    (hAll : AllWritten path logger.entries logger.files)
    {drained : AuditLogger F}
    (hDrained : DrainedBy path write logger drained) :
    drained.entries = [] ∧
      FileChain path (written ++ logger.entries)
        drained := by
  rcases drainWith_written hLines hAll with
    ⟨hEmpty, hAdded⟩
  have hEntries : drained.entries = [] :=
    hDrained.entries.trans hEmpty
  refine ⟨hEntries, ?_, ?_, ?_, ?_, ?_, ?_⟩
  · exact hDrained.logFile.trans hChain.logFile
  · rw [hDrained.contents, hAdded, hChain.contents,
      List.flatMap_append]
  · intro entry hEntry
    rcases List.mem_append.mp hEntry with hOld | hNew
    · exact hChain.texts entry hOld
    · exact hAll.texts entry hNew
  · rw [hEntries, List.append_nil]
    exact hChain.roundTrips
  · rw [hEntries, List.append_nil]
    exact hChain.verified
  · rw [hEntries, List.append_nil, hDrained.lastHash]
    exact hChain.lastHash

/- An entry that finds room is linked to the chain. -/
omit [BuildProfile] in
theorem FileChain.pushed
    (hChain : FileChain path written logger)
    (hRoom :
      logger.entries.length <
        logger.config.maxMemoryEntries)
    {request : LogRequest}
    (hLines : request.RoundTrips)
    (id : UInt64) :
    FileChain path written
      (logger.push (request.entry id logger.lastHash)) := by
  refine
    ⟨hChain.logFile, hChain.contents, hChain.texts, ?_, ?_,
      ?_⟩
  · rw [AuditLogger.push_entries_of_lt hRoom,
      ← List.append_assoc]
    intro entry hEntry
    rcases List.mem_append.mp hEntry with hOld | hNew
    · exact hChain.roundTrips entry hOld
    · obtain rfl := List.mem_singleton.mp hNew
      exact hLines id logger.lastHash
  · rw [AuditLogger.push_entries_of_lt hRoom,
      ← List.append_assoc]
    apply HashLinks.verifyFrom_concat hChain.verified
    · exact hChain.lastHash
    · exact request.calculateHash_entry id logger.lastHash
  · rw [AuditLogger.push_entries_of_lt hRoom,
      ← List.append_assoc, HashLinks.tip_concat]
    rfl

/- A call that is not impeded keeps the chain. -/
theorem fileChain_step
    (hChain : FileChain path written ledger.logger)
    {op : LedgerOp}
    (hLines :
      ∀ request, op = .log request → request.RoundTrips)
    (hOp : Unimpeded ledger op) :
    ∃ written',
      FileChain path written' (ledger.step op).logger := by
  cases op with
  | log request =>
      rw [AuditLedger.step_log]
      cases hId : checkedAdd ledger.logger.entryId 1 with
      | none => exact ⟨written, hChain⟩
      | some id =>
          have hRoom := hOp id hId
          exact
            ⟨written,
              hChain.pushed hRoom (hLines request rfl) id⟩
  | flush =>
      exact
        ⟨_, (hChain.drained (writeEntry_writesLines path)
          (hOp path hChain.logFile)
          (AuditLogger.flush_drained hChain.logFile)).2⟩
  | flushTask =>
      exact
        ⟨_, (hChain.drained
          (writeEntryAnyway_writesLines path)
          (hOp path hChain.logFile)
          (AuditLogger.flushTask_drained
            hChain.logFile)).2⟩

/- Calls that are not impeded keep the chain. -/
theorem fileChain_run
    (hChain : FileChain path written ledger.logger)
    {ops : List LedgerOp}
    (hLines :
      ∀ request, .log request ∈ ops → request.RoundTrips)
    (hOps :
      Runs.AlongRun AuditLedger.step Unimpeded ledger ops) :
    ∃ written',
      FileChain path written'
        (Runs.run AuditLedger.step ledger ops).logger := by
  induction ops generalizing ledger written with
  | nil => exact ⟨written, hChain⟩
  | cons op rest ih =>
      have hOp :
          ∀ request, op = .log request →
            request.RoundTrips := by
        rintro request rfl
        exact hLines request List.mem_cons_self
      rcases fileChain_step hChain hOp hOps.1 with
        ⟨written', hNext⟩
      exact
        ih hNext
          (fun request hRequest =>
            hLines request (List.mem_cons_of_mem op hRequest))
          hOps.2

------------------------------------------------------------
-- Opening and Closing
------------------------------------------------------------

/- The last hash of a chain is stored in its last entry. -/
omit [SerdeJson AuditEntry] [BuildProfile] in
theorem tip_eq_getLast?
    (entries : List AuditEntry) :
    auditLinks.tip "" entries =
      (entries.getLast?.map AuditEntry.entryHash).getD
        "" := by
  induction entries using List.reverseRecOn with
  | nil => rfl
  | append_singleton earlier entry _ =>
      rw [HashLinks.tip_concat, List.getLast?_concat]
      rfl

/- Loading the last hash changes no content. -/
omit [Sha256] [SerdeJson AuditEvent] [Rfc3339]
  [BuildProfile] in
theorem contents_of_loadLastHash
    (path : String)
    (files : F) :
    contents (AuditLogger.loadLastHash path files).2 path =
      contents files path := by
  unfold AuditLogger.loadLastHash
  refine Exec.bind_state
    (fun after => contents after path = contents files path)
    ?_ ?_
  · rw [Exec.mapErr_state]
    exact LawfulLogFiles.contents_of_read path files
  · intro content after hSame
    cases (AuditLogger.lines content.toList).getLast? with
    | none => exact hSame
    | some line =>
        dsimp only
        cases (SerdeJson.fromSlice
            (asBytes (String.ofList line)) :
              Except String AuditEntry) with
        | ok entry => exact hSame
        | error message => exact hSame

/- Opening the log file changes no content. -/
omit [Sha256] [SerdeJson AuditEvent] [Rfc3339]
  [BuildProfile] in
theorem contents_of_openLogFile
    (path : String)
    (files : F) :
    contents
        (AuditLogger.openLogFile (some path) files).2 path =
      contents files path := by
  unfold AuditLogger.openLogFile
  refine Exec.bind_state
    (fun after => contents after path = contents files path)
    ?_ ?_
  · rw [Exec.mapErr_state]
    exact LawfulLogFiles.contents_of_open path files
  · intro _ opened hSame
    rw [contents_of_loadLastHash]
    exact hSame

/- A new logger leaves the content of its file alone. -/
omit [Sha256] [SerdeJson AuditEvent] [Rfc3339]
  [BuildProfile] in
theorem contents_of_new
    {config : AuditConfig}
    (hPath : config.logFile = some path)
    (files : F) :
    contents (AuditLogger.new config files).2 path =
      contents files path := by
  unfold AuditLogger.new
  rw [hPath]
  refine Exec.bind_state
    (fun after => contents after path = contents files path)
    ?_ ?_
  · exact contents_of_openLogFile path files
  · intro _ after hSame
    exact hSame

/- From a file of entries the last hash is read back. -/
omit [BuildProfile] in
theorem loadLastHash_spec
    (hLines : ∀ entry ∈ written, LineRoundTrips entry)
    {files files' : F}
    (hContents :
      contents files path = written.flatMap entryLine)
    (hTexts :
      ∀ entry ∈ written,
        ∃ json, SerdeJson.toVec entry = .ok json)
    {lastHash : String}
    (hLoad :
      AuditLogger.loadLastHash path files =
        (.ok lastHash, files')) :
    lastHash = auditLinks.tip "" written := by
  unfold AuditLogger.loadLastHash at hLoad
  rcases Exec.of_bind_ok hLoad with
    ⟨content, afterRead, hRead, hRest⟩
  have hRead := Exec.of_mapErr_ok hRead
  rcases exists_text hLines hTexts with
    ⟨text, hBytes, hDecoded⟩
  have hContent : content = String.ofList text := by
    apply asBytes_injective
    rw [LawfulLogFiles.read_of_ok hRead, hContents, hBytes]
  have hLast :
      (AuditLogger.lines text).getLast?.map decodeLine =
        written.getLast?.map .ok := by
    rw [← List.getLast?_map, hDecoded, List.getLast?_map]
  rw [hContent, String.toList_ofList] at hRest
  rw [tip_eq_getLast?]
  cases hLine : (AuditLogger.lines text).getLast? with
  | none =>
      rw [hLine] at hRest hLast
      cases hEntry : written.getLast? with
      | none =>
          cases hRest
          rfl
      | some entry =>
          rw [hEntry] at hLast
          cases hLast
  | some line =>
      rw [hLine] at hRest hLast
      cases hEntry : written.getLast? with
      | none =>
          rw [hEntry] at hLast
          cases hLast
      | some entry =>
          rw [hEntry] at hLast
          have hDecodes : decodeLine line = .ok entry :=
            Option.some.inj hLast
          unfold decodeLine at hDecodes
          dsimp only at hRest
          rw [hDecodes] at hRest
          cases hRest
          rfl

/- The last hash is read from a last line that decodes. -/
omit [LawfulLogFiles F] [Sha256] [SerdeJson AuditEvent]
  [Rfc3339] [BuildProfile] in
theorem loadLastHash_of_line
    [LogFiles F]
    {files files' : F}
    {content : String}
    (hRead :
      LogFiles.readToString path files =
        (.ok content, files'))
    {line : List Char}
    (hLine :
      (AuditLogger.lines content.toList).getLast? =
        some line)
    {entry : AuditEntry}
    (hDecodes : decodeLine line = .ok entry) :
    AuditLogger.loadLastHash path files =
      (.ok entry.entryHash, files') := by
  unfold decodeLine at hDecodes
  unfold AuditLogger.loadLastHash
  rw [Exec.bind_of_ok (Exec.mapErr_of_ok hRead), hLine]
  dsimp only
  rw [hDecodes]
  rfl

/- A new logger goes on with the chain in the file. -/
omit [BuildProfile] in
theorem fileChain_of_new
    {config : AuditConfig}
    (hPath : config.logFile = some path)
    {files files' : F}
    (hStored : StoredChain path files written)
    (hNew :
      AuditLogger.new config files = (.ok logger, files')) :
    FileChain path written logger := by
  have hSame := contents_of_new hPath files
  rw [hNew] at hSame
  rcases AuditLogger.of_new_ok hNew with
    ⟨lastHash, hOpen, rfl⟩
  rw [hPath] at hOpen
  unfold AuditLogger.openLogFile at hOpen
  rcases Exec.of_bind_ok hOpen with
    ⟨_, opened, hOpened, hLoad⟩
  have hOpened := Exec.of_mapErr_ok hOpened
  have hKept : contents opened path = contents files path := by
    have hAfter :=
      LawfulLogFiles.contents_of_open path files
    rw [hOpened] at hAfter
    exact hAfter
  have hLast :=
    loadLastHash_spec hStored.roundTrips
      (hKept.trans hStored.contents) hStored.texts hLoad
  refine
    ⟨hPath, hSame.trans hStored.contents, hStored.texts,
      ?_, ?_, ?_⟩
  · rw [List.append_nil]
    exact hStored.roundTrips
  · rw [List.append_nil]
    exact hStored.verified
  · rw [List.append_nil]
    exact hLast

/-
  After a session that was not impeded, the file again holds
  a chain: the final flush leaves nothing in the buffer.
-/
theorem storedChain_session
    {session : AuditSession}
    (hLines :
      ∀ request, .log request ∈ session.ops →
        request.RoundTrips)
    (hPath : session.config.logFile = some path)
    {files : F}
    (hStored : StoredChain path files written)
    (hSession : SessionUnimpeded files session) :
    ∃ written',
      StoredChain path (session.run files) written' := by
  have hSame := contents_of_new hPath files
  unfold SessionUnimpeded at hSession
  unfold AuditSession.run
  rcases hNew : AuditLogger.new session.config files with
    ⟨outcome, files'⟩
  rw [hNew] at hSame hSession
  cases outcome with
  | err error =>
      exact
        ⟨written, hSame.trans hStored.contents,
          hStored.texts, hStored.roundTrips,
          hStored.verified⟩
  | panicked =>
      exact
        ⟨written, hSame.trans hStored.contents,
          hStored.texts, hStored.roundTrips,
          hStored.verified⟩
  | ok logger =>
      have hChain :
          FileChain path written
            (⟨logger, []⟩ : AuditLedger F).logger :=
        fileChain_of_new hPath hStored hNew
      dsimp only at hSession ⊢
      unfold AuditSession.calls at hSession ⊢
      rw [Runs.alongRun_append] at hSession
      rcases hSession with ⟨hOps, hFlush, _⟩
      rcases fileChain_run hChain hLines hOps with
        ⟨written', hBefore⟩
      rcases hBefore.drained (writeEntry_writesLines path)
          (hFlush path hBefore.logFile)
          (AuditLogger.flush_drained hBefore.logFile) with
        ⟨hEmpty, hAfter⟩
      rw [Runs.run_concat]
      have hVerified := hAfter.verified
      have hRoundTrips := hAfter.roundTrips
      rw [hEmpty, List.append_nil] at hVerified hRoundTrips
      exact
        ⟨_, hAfter.contents, hAfter.texts, hRoundTrips,
          hVerified⟩

/- A verified chain gives each entry its previous hash. -/
omit [SerdeJson AuditEntry] [BuildProfile] in
theorem linked_of_verified
    {entries : List AuditEntry}
    (hVerified : auditLinks.verifyFrom "" entries = true)
    {index : Nat}
    {entry : AuditEntry}
    (hEntry : entries[index]? = some entry) :
    entry.previousHash = hashBefore entries index ∧
      entry.entryHash = calculateHash entry := by
  have hMem : entry ∈ entries := List.mem_of_getElem? hEntry
  refine
    ⟨?_, (HashLinks.stored_of_verified hVerified hMem).symm⟩
  cases index with
  | zero =>
      cases entries with
      | nil => cases hEntry
      | cons first rest =>
          cases hEntry
          exact (HashLinks.verifyFrom_cons_iff.mp
            hVerified).1
  | succ index =>
      have hRange : index + 1 < entries.length :=
        (List.getElem?_eq_some_iff.mp hEntry).1
      have hEarlier :
          entries[index]? = some entries[index] :=
        List.getElem?_eq_getElem (by omega)
      unfold hashBefore
      dsimp only
      rw [hEarlier]
      exact
        HashLinks.linked_of_verified hVerified hEarlier
          hEntry

/-
  After any sessions on one log file that were not impeded,
  and whose entries read back from the lines they make, each
  line of the file decodes to an entry with its own hash,
  linked to the entry on the line before.
-/
theorem sessions_oneChain
    (path : String)
    (sessions : List AuditSession)
    (hLines :
      ∀ session ∈ sessions, ∀ request,
        .log request ∈ session.ops → request.RoundTrips)
    (hPath :
      ∀ session ∈ sessions,
        session.config.logFile = some path)
    (files : F)
    (hFresh : contents files path = [])
    (hSessions :
      Runs.AlongRun AuditSession.run SessionUnimpeded files
        sessions) :
    ∃ text : String,
      contents (Runs.run AuditSession.run files sessions)
          path = asBytes text ∧
        OneChain (AuditLogger.lines text.toList) := by
  have hStored :
      ∀ written,
        StoredChain path files written →
          ∃ written',
            StoredChain path
              (Runs.run AuditSession.run files sessions)
              written' := by
    clear hFresh
    induction sessions generalizing files with
    | nil => exact fun written hStored => ⟨written, hStored⟩
    | cons session rest ih =>
        intro written hStored
        rcases storedChain_session
            (hLines session List.mem_cons_self)
            (hPath session List.mem_cons_self) hStored
            hSessions.1 with
          ⟨written', hNext⟩
        exact
          ih
            (fun other hOther =>
              hLines other (List.mem_cons_of_mem _ hOther))
            (fun other hOther =>
              hPath other (List.mem_cons_of_mem _ hOther))
            _ hSessions.2 written' hNext
  have hEmpty : StoredChain path files [] :=
    ⟨hFresh, by simp, by simp, rfl⟩
  rcases hStored [] hEmpty with ⟨written, hFinal⟩
  rcases exists_text hFinal.roundTrips hFinal.texts with
    ⟨text, hBytes, hDecoded⟩
  refine ⟨String.ofList text, hFinal.contents.trans hBytes, ?_⟩
  rw [String.toList_ofList]
  exact
    ⟨written, hDecoded,
      fun _ _ hEntry =>
        linked_of_verified hFinal.verified hEntry⟩

end Sessions

end IsaWorkspace

------------------------------------------------------------
-- Sample Sessions
------------------------------------------------------------

namespace IsaWorkspace

/-
  One deletion in each of two sessions, with a session that
  logs nothing between them.
-/
namespace SessionSample

open AuditSample (hashed)
open LedgerSample (FlakyFile deletion text config)

scoped instance : Rfc3339 := AuditSample.instRfc3339

scoped instance : SerdeJson AuditEvent :=
  AuditSample.instSerdeJsonAuditEvent

scoped instance : BuildProfile :=
  AuditSample.instBuildProfile

scoped instance : LawfulLogFiles FlakyFile :=
  LedgerSample.instLawfulLogFilesFlakyFile

scoped instance : Sha256 where
  digest data :=
    digestOf <|
      if data = hashed 1 "" then
        0xcf60a1b25eae97ef9ea96815691d478b970f5f92ff13b94758997e2119d09f83
      else
        0xe832607d03604cb7e2c3c367e8880019b0123bea3b8151974492ddccfe29a5a5

/- The entry of the first session. -/
def first : AuditEntry where
  id := 1
  timestamp := DateTime.unixEpoch
  event := .stateDeleted
  actor := "user-123"
  resource := "state-456"
  previousHash := ""
  entryHash :=
    "cf60a1b25eae97ef9ea96815691d478b970f5f92ff13b94758997e2119d09f83"
  metadata := none

/- The entry of the last session; ids start over. -/
def second : AuditEntry :=
  { first with
    previousHash := first.entryHash
    entryHash :=
      "e832607d03604cb7e2c3c367e8880019b0123bea3b8151974492ddccfe29a5a5" }

/- The entries agree and have no metadata. -/
def alike
    (entry other : AuditEntry) : Bool :=
  entry.id = other.id && entry.timestamp = other.timestamp &&
    entry.event = other.event &&
    entry.actor = other.actor &&
    entry.resource = other.resource &&
    entry.previousHash = other.previousHash &&
    entry.entryHash = other.entryHash &&
    entry.metadata.isNone && other.metadata.isNone

theorem eq_of_alike
    {entry other : AuditEntry}
    (hAlike : alike entry other = true) :
    entry = other := by
  unfold alike at hAlike
  simp only [Bool.and_eq_true, decide_eq_true_iff,
    Option.isNone_iff_eq_none, and_assoc] at hAlike
  rcases hAlike with
    ⟨hId, hTime, hEvent, hActor, hResource, hPrevious,
      hHash, hNone, hNone'⟩
  cases entry
  cases other
  rw [AuditEntry.mk.injEq]
  exact
    ⟨hId, hTime, hEvent, hActor, hResource, hPrevious,
      hHash, hNone.trans hNone'.symm⟩

def toVec
    (entry : AuditEntry) : Except String Bytes :=
  if alike entry first then
    .ok (asBytes (text first))
  else if alike entry second then
    .ok (asBytes (text second))
  else
    .error "not a sample entry"

def fromSlice
    (data : Bytes) : Except String AuditEntry :=
  if data = asBytes (text first) then
    .ok first
  else if data = asBytes (text second) then
    .ok second
  else
    .error "not a sample entry"

scoped instance : SerdeJson AuditEntry :=
  ⟨toVec, fromSlice⟩

/- The second text is longer by a previous hash. -/
theorem text_second_ne :
    asBytes (text second) ≠ asBytes (text first) := by
  intro hBytes
  have hText := asBytes_injective hBytes
  have hLength := congrArg String.length hText
  unfold text at hLength
  simp only [String.length_append] at hLength
  have hId : second.id = first.id := rfl
  have hPrevious : first.previousHash.length = 0 := rfl
  have hPrevious' : second.previousHash.length = 64 := by
    decide
  have hHash : first.entryHash.length = 64 := by
    decide
  have hHash' : second.entryHash.length = 64 := by
    decide
  rw [hId] at hLength
  omega

/- The text of an entry is one line where its hashes are. -/
theorem text_oneLine
    {entry : AuditEntry}
    (hId : entry.id = 1)
    (hPrevious : OneLine entry.previousHash.toList)
    (hHash : OneLine entry.entryHash.toList) :
    OneLine (text entry).toList := by
  unfold text
  rw [hId]
  simp only [String.toList_append]
  repeat' apply OneLine.append
  all_goals
    first
    | exact hPrevious
    | exact hHash
    | decide

theorem decodes_first :
    SerdeJson.fromSlice (asBytes (text first)) =
      .ok first := by
  change fromSlice _ = _
  unfold fromSlice
  rw [if_pos rfl]

theorem decodes_second :
    SerdeJson.fromSlice (asBytes (text second)) =
      .ok second := by
  change fromSlice _ = _
  unfold fromSlice
  rw [if_neg text_second_ne, if_pos rfl]

theorem oneLine_first : OneLine (text first).toList := by
  apply text_oneLine rfl
  · decide
  · decide

theorem lineRoundTrips
    (entry : AuditEntry) : LineRoundTrips entry := by
  have hSecond : OneLine (text second).toList := by
    apply text_oneLine rfl
    · decide
    · decide
  intro json hJson
  change toVec entry = .ok json at hJson
  unfold toVec at hJson
  split at hJson
  · next hAlike =>
      cases hJson
      rw [eq_of_alike hAlike]
      refine ⟨⟨_, oneLine_first, ?_⟩, decodes_first⟩
      rw [String.ofList_toList]
  · split at hJson
    · next hAlike =>
        cases hJson
        rw [eq_of_alike hAlike]
        refine ⟨⟨_, hSecond, ?_⟩, decodes_second⟩
        rw [String.ofList_toList]
    · cases hJson

/- The entries that the two sessions make. -/
theorem entry_first :
    deletion.entry 1 "" = first :=
  eq_of_alike (by decide +kernel)

theorem entry_second :
    deletion.entry 1 first.entryHash = second :=
  eq_of_alike (by decide +kernel)

/- A logger opened on a file, with a last hash. -/
def reopened
    (content : Bytes)
    (lastHash : String) : AuditLogger FlakyFile where
  config := config 2
  entries := []
  entryId := 0
  lastHash := lastHash
  logFile := some "audit.log"
  files := ⟨content, []⟩

/- The logger after it has made one entry. -/
def holding
    (content : Bytes)
    (entry : AuditEntry) : AuditLogger FlakyFile :=
  { reopened content entry.entryHash with
    entries := [entry]
    entryId := 1 }

theorem step_logging
    {content : Bytes}
    {lastHash : String}
    {entry : AuditEntry}
    (hEntry : deletion.entry 1 lastHash = entry) :
    AuditLedger.step ⟨reopened content lastHash, []⟩
        (.log deletion) =
      ⟨holding content entry, [entry]⟩ := by
  have hId :
      checkedAdd (reopened content lastHash).entryId 1 =
        some 1 := rfl
  rw [AuditLedger.step_log, hId, ← hEntry]
  rfl

/- Flushing it adds the line of the entry. -/
theorem flush_holding
    {content : Bytes}
    {entry : AuditEntry}
    {json : Bytes}
    (hJson : SerdeJson.toVec entry = .ok json) :
    (AuditLogger.flush (holding content entry)).2.files =
      ⟨content ++ entryLine entry, []⟩ := by
  have hWrite :
      AuditLogger.writeEntry "audit.log" entry
          (⟨content, []⟩ : FlakyFile) =
        (.ok (), ⟨content ++ entryLine entry, []⟩) := by
    unfold AuditLogger.writeEntry
    rw [hJson, entryLine_eq hJson, ← List.append_assoc]
    rfl
  have hDrain :
      AuditLogger.drain "audit.log" [entry]
          (⟨content, []⟩ : FlakyFile) =
        (.ok (), [], ⟨content ++ entryLine entry, []⟩) := by
    rw [AuditLogger.drain, hWrite]
    rfl
  have hDrained :
      AuditLogger.drainEntries "audit.log"
          (holding content entry) =
        (.ok (),
          { holding content entry with
            entries := []
            files := ⟨content ++ entryLine entry, []⟩ }) := by
    unfold AuditLogger.drainEntries
    have hResult :
        AuditLogger.drain "audit.log"
            (holding content entry).entries
            (holding content entry).files =
          (.ok (), [], ⟨content ++ entryLine entry, []⟩) :=
      hDrain
    rw [hResult]
  have hFile :
      (holding content entry).logFile = some "audit.log" :=
    rfl
  unfold AuditLogger.flush
  rw [Exec.read_bind_apply, hFile]
  dsimp only
  rw [Exec.bind_of_ok hDrained]
  rfl

/- A session of one deletion is not impeded. -/
theorem logging_unimpeded
    {content : Bytes}
    {lastHash : String}
    {entry : AuditEntry}
    {json : Bytes}
    (hEntry : deletion.entry 1 lastHash = entry)
    (hJson : SerdeJson.toVec entry = .ok json) :
    Runs.AlongRun AuditLedger.step Unimpeded
      ⟨reopened content lastHash, []⟩
      [.log deletion, .flush] := by
  rw [Runs.AlongRun, Runs.AlongRun, step_logging hEntry]
  refine ⟨?_, ?_, trivial⟩
  · intro id _
    exact Nat.zero_lt_succ 1
  · rintro path ⟨⟩
    exact ⟨.of_writes hJson rfl rfl, trivial⟩

theorem toVec_first :
    SerdeJson.toVec first = .ok (asBytes (text first)) := by
  have hFirst : alike first first = true := by
    decide
  change toVec first = _
  unfold toVec
  rw [if_pos hFirst]

theorem toVec_second :
    SerdeJson.toVec second =
      .ok (asBytes (text second)) := by
  have hFirst : ¬ alike second first = true := by
    decide
  have hSecond : alike second second = true := by
    decide
  change toVec second = _
  unfold toVec
  rw [if_neg hFirst, if_pos hSecond]

/- A file that holds a text reads as this text. -/
theorem reads_text
    (value : String) :
    LogFiles.readToString "audit.log"
        (⟨asBytes value, []⟩ : FlakyFile) =
      (.ok value, ⟨asBytes value, []⟩) := by
  have hText :
      String.fromUTF8? ⟨(asBytes value).toArray⟩ =
        some value := by
    have hArray :
        (⟨(asBytes value).toArray⟩ : ByteArray) =
          value.toByteArray := by
      unfold asBytes
      rw [Array.toArray_toList]
      rfl
    rw [hArray]
    unfold String.fromUTF8?
    rw [dif_pos value.isValidUTF8]
    rfl
  simp only [LogFiles.readToString, hText]

/- The file after the first session. -/
def stored : FlakyFile :=
  ⟨entryLine first, []⟩

theorem opens_empty :
    AuditLogger.new (config 2) (⟨[], []⟩ : FlakyFile) =
      (.ok (reopened [] ""), ⟨[], []⟩) := by
  rfl

theorem entryLine_first :
    entryLine first = asBytes (text first ++ "\n") := by
  rw [entryLine_eq toVec_first, asBytes_append]

theorem stored_eq :
    stored = ⟨asBytes (text first ++ "\n"), []⟩ :=
  congrArg (FlakyFile.mk · []) entryLine_first

theorem reads_stored :
    LogFiles.readToString "audit.log" stored =
      (.ok (text first ++ "\n"), stored) := by
  rw [stored_eq]
  exact reads_text _

theorem lines_stored :
    AuditLogger.lines (text first ++ "\n").toList =
      [(text first).toList] := by
  rw [String.toList_append]
  exact AuditLogger.lines_append_newline oneLine_first []

theorem loads_stored :
    AuditLogger.loadLastHash "audit.log" stored =
      (.ok first.entryHash, stored) := by
  have hLine :
      (AuditLogger.lines (text first ++ "\n").toList).getLast? =
        some (text first).toList := by
    rw [lines_stored, List.getLast?_singleton]
  have hDecodes :
      decodeLine (text first).toList = .ok first := by
    unfold decodeLine
    rw [String.ofList_toList]
    exact decodes_first
  exact loadLastHash_of_line reads_stored hLine hDecodes

/- The second session goes on from the first entry's hash. -/
theorem opens_stored :
    AuditLogger.new (config 2) stored =
      (.ok (reopened (entryLine first) first.entryHash),
        stored) := by
  have hAppend :
      Exec.mapErr AuditError.ioError
          (LogFiles.openAppend "audit.log") stored =
        (.ok (), stored) := rfl
  have hOpen :
      AuditLogger.openLogFile (config 2).logFile stored =
        (.ok first.entryHash, stored) := by
    change
      AuditLogger.openLogFile (some "audit.log") stored = _
    unfold AuditLogger.openLogFile
    dsimp only
    rw [Exec.bind_of_ok hAppend, loads_stored]
  unfold AuditLogger.new
  rw [Exec.bind_of_ok hOpen, Exec.read_bind_apply]
  rfl

def logging : AuditSession :=
  ⟨config 2, [.log deletion]⟩

/- A session that logs nothing. -/
def idle : AuditSession :=
  ⟨config 2, []⟩

/- Flushing a logger that holds nothing changes no file. -/
theorem flush_reopened
    (content : Bytes)
    (lastHash : String) :
    (AuditLogger.flush (reopened content lastHash)).2.files =
      ⟨content, []⟩ := by
  rfl

/- A session that only flushes is not impeded. -/
theorem idle_of_opens
    {content : Bytes}
    {lastHash : String}
    (hOpens :
      AuditLogger.new (config 2) (⟨content, []⟩ : FlakyFile) =
        (.ok (reopened content lastHash), ⟨content, []⟩)) :
    SessionUnimpeded (⟨content, []⟩ : FlakyFile) idle := by
  apply sessionUnimpeded_of_new hOpens
  refine ⟨?_, trivial⟩
  rintro path ⟨⟩
  exact trivial

/- It leaves the file as it is. -/
theorem run_idle
    {content : Bytes}
    {lastHash : String}
    (hOpens :
      AuditLogger.new (config 2) (⟨content, []⟩ : FlakyFile) =
        (.ok (reopened content lastHash), ⟨content, []⟩)) :
    AuditSession.run (⟨content, []⟩ : FlakyFile) idle =
      ⟨content, []⟩ := by
  unfold AuditSession.run idle
  rw [hOpens]
  exact flush_reopened content lastHash

/- Where the log opens, the session is not impeded. -/
theorem logging_of_opens
    {content : Bytes}
    {lastHash : String}
    {entry : AuditEntry}
    {json : Bytes}
    (hOpens :
      AuditLogger.new (config 2) (⟨content, []⟩ : FlakyFile) =
        (.ok (reopened content lastHash), ⟨content, []⟩))
    (hEntry : deletion.entry 1 lastHash = entry)
    (hJson : SerdeJson.toVec entry = .ok json) :
    SessionUnimpeded (⟨content, []⟩ : FlakyFile)
      logging := by
  apply sessionUnimpeded_of_new hOpens
  exact logging_unimpeded hEntry hJson

theorem run_logging :
    AuditSession.run (⟨[], []⟩ : FlakyFile) logging =
      stored := by
  unfold AuditSession.run logging
  rw [opens_empty]
  dsimp only
  change
    (Runs.run AuditLedger.step ⟨reopened [] "", []⟩
      [.log deletion, .flush]).logger.files = stored
  rw [Runs.run_cons, step_logging entry_first]
  exact flush_holding toVec_first

/- A deletion, nothing, and another deletion. -/
theorem logging_twice
    {content : Bytes}
    {lastHash : String}
    {entry : AuditEntry}
    {json : Bytes}
    (hRun :
      AuditSession.run (⟨[], []⟩ : FlakyFile) logging =
        ⟨content, []⟩)
    (hOpens :
      AuditLogger.new (config 2) (⟨content, []⟩ : FlakyFile) =
        (.ok (reopened content lastHash), ⟨content, []⟩))
    (hEntry : deletion.entry 1 lastHash = entry)
    (hJson : SerdeJson.toVec entry = .ok json) :
    Runs.AlongRun AuditSession.run SessionUnimpeded
      (⟨[], []⟩ : FlakyFile) [logging, idle, logging] := by
  rw [Runs.AlongRun, Runs.AlongRun, Runs.AlongRun, hRun,
    run_idle hOpens]
  exact
    ⟨logging_of_opens opens_empty entry_first toVec_first,
      idle_of_opens hOpens,
      logging_of_opens hOpens hEntry hJson, trivial⟩

end SessionSample

open SessionSample

/- Three sessions, the lines of which are one chain. -/
theorem sessions_sample :
    ∃ text : String,
      LawfulLogFiles.contents
          (Runs.run AuditSession.run
            (⟨[], []⟩ : LedgerSample.FlakyFile)
            [logging, idle, logging])
          "audit.log" = asBytes text ∧
        OneChain (AuditLogger.lines text.toList) := by
  have hUnimpeded :=
    logging_twice run_logging opens_stored entry_second
      toVec_second
  have hFresh :
      LawfulLogFiles.contents
        (⟨[], []⟩ : LedgerSample.FlakyFile) "audit.log" =
          [] := rfl
  have hPath :
      ∀ session ∈ [logging, idle, logging],
        session.config.logFile = some "audit.log" := by
    decide
  exact
    sessions_oneChain "audit.log" [logging, idle, logging]
      (fun _ _ _ _ _ _ => lineRoundTrips _) hPath _ hFresh
      hUnimpeded

end IsaWorkspace
