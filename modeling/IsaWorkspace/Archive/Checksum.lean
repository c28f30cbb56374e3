import IsaWorkspace.Archive.StateArchive
import IsaWorkspace.StateStore.Steps

/-
  What the checksum of an archive says.

  An export hashes its document before the checksum and the
  size are put into it, and an import hashes the document
  with both.  The two texts are never the same, so that
  every import reports a mismatch, whether the archive was
  changed or not.

  Main declarations:
    * `StateArchive.ReportsMismatch`
    * `StateArchive.MeaningfulChecksum`
    * `StateArchive.RoundTrips`
    * `StateArchive.importState_exportState`
    * `StateArchive.reportsMismatch_of_changed`
    * `StateArchive.not_meaningfulChecksum`
-/

------------------------------------------------------------
-- Meaningful Checksums
------------------------------------------------------------

namespace IsaWorkspace

namespace StateArchive

variable [Sha256] [SerdeJson ExportedState] [ArchiveCodecs]
variable {archive : StateArchive} {state : State}
variable {options : ExportOptions}
variable {exportedAt importedAt : DateTime}

/- The import warns about the checksum. -/
def ReportsMismatch
    (result : ImportResult) : Prop :=
  ∃ expected calculated,
    checksumMismatch expected calculated ∈ result.warnings

/-
  An archive comes back without a warning, and one whose
  document was changed while its checksum was kept comes
  with one.
-/
structure MeaningfulChecksum
    (archive : StateArchive)
    (state : State)
    (options : ExportOptions)
    (exportedAt importedAt : DateTime) : Prop where
  roundTrip :
    ∃ archived result,
      archive.exportState state options exportedAt =
          .ok archived ∧
        archive.importState archived options importedAt =
          .ok result ∧
        result.stateId = state.stateId ∧
        ¬ ReportsMismatch result
  reportsChanges :
    ∀ (archived decompressed : Bytes)
        (exported : ExportedState),
      archive.exportState state options exportedAt =
          .ok archived →
        decompress options.compression archived =
          .ok decompressed →
        SerdeJson.fromSlice decompressed = .ok exported →
        ∀ (archived' decompressed' : Bytes)
            (changed : ExportedState),
          decompress options.compression archived' =
              .ok decompressed' →
            SerdeJson.fromSlice decompressed' = .ok changed →
            changed.checksum = exported.checksum →
            changed ≠ exported →
            ∃ result,
              archive.importState archived' options
                  importedAt =
                  .ok result ∧
                ReportsMismatch result

/-
  The two documents of an export come back from their JSON
  texts, and the second text from its compression.
-/
structure RoundTrips
    (archive : StateArchive)
    (state : State)
    (options : ExportOptions)
    (exportedAt : DateTime)
    (originalData data archived : Bytes) : Prop where
  package :
    SerdeJson.toVec
        (archive.package state options exportedAt) =
      .ok originalData
  packageBack :
    SerdeJson.fromSlice originalData =
      .ok (archive.package state options exportedAt)
  sealed :
    SerdeJson.toVec
        (sealPackage
          (archive.package state options exportedAt)
          originalData) =
      .ok data
  sealedBack :
    SerdeJson.fromSlice data =
      .ok
        (sealPackage
          (archive.package state options exportedAt)
          originalData)
  compressed :
    compress options.compression data = .ok archived
  decompressed :
    decompress options.compression archived = .ok data

------------------------------------------------------------
-- Exports and Imports
------------------------------------------------------------

variable {originalData data archived : Bytes}

/- What an export returns, by its two texts. -/
theorem exportState_eq
    (hRound :
      RoundTrips archive state options exportedAt
        originalData data archived) :
    archive.exportState state options exportedAt =
      .ok archived := by
  unfold exportState serialize
  dsimp only
  rw [hRound.package]
  change
    ((SerdeJson.toVec (sealPackage _ originalData)).mapError
        _ >>= fun data =>
      compress options.compression data) = _
  rw [hRound.sealed]
  exact hRound.compressed

/- What an import returns, by the document that it reads. -/
theorem importState_eq
    (archive : StateArchive)
    (importedAt : DateTime)
    {decompressed : Bytes}
    {exported : ExportedState}
    (hDecompressed :
      decompress options.compression archived =
        .ok decompressed)
    (hParsed :
      SerdeJson.fromSlice decompressed = .ok exported) :
    ∃ result,
      archive.importState archived options importedAt =
          .ok result ∧
        result.stateId = exported.state.stateId ∧
        result.validationErrors =
          validateState exported.state ∧
        result.warnings =
          (if sha256Hex decompressed ≠ exported.checksum then
              [checksumMismatch exported.checksum
                (sha256Hex decompressed)]
            else []) ++
          (if exported.version ≠ 1 then
              ["Unknown export version: " ++
                toString exported.version.toNat]
            else []) := by
  unfold importState deserialize
  rw [hDecompressed]
  change
    ∃ result,
      ((SerdeJson.fromSlice decompressed).mapError _ >>=
          fun exported => _) = _ ∧ _
  rw [hParsed]
  exact ⟨_, rfl, rfl, rfl, rfl⟩

/-
  A document with the checksum of an export is reported,
  unless its own text is the one that was hashed there.
-/
theorem reportsMismatch_of_ne
    (archive : StateArchive)
    (importedAt : DateTime)
    {decompressed : Bytes}
    {exported : ExportedState}
    (hDecompressed :
      decompress options.compression archived =
        .ok decompressed)
    (hParsed :
      SerdeJson.fromSlice decompressed = .ok exported)
    (hChecksum : exported.checksum = sha256Hex originalData)
    (hOther : decompressed ≠ originalData)
    (hInjective :
      Set.InjOn Sha256.digest
        {originalData, decompressed}) :
    ∃ result,
      archive.importState archived options importedAt =
          .ok result ∧
        result.stateId = exported.state.stateId ∧
        ReportsMismatch result := by
  obtain ⟨result, hImport, hState, _, hWarnings⟩ :=
    importState_eq archive importedAt hDecompressed hParsed
  refine
    ⟨result, hImport, hState, exported.checksum,
      sha256Hex decompressed, ?_⟩
  have hDiffers :
      sha256Hex decompressed ≠ exported.checksum := by
    rw [hChecksum]
    intro hSame
    exact
      hOther
        (eq_of_sha256Hex hInjective (Or.inr rfl) (Or.inl rfl)
          hSame)
  rw [hWarnings, if_pos hDiffers]
  exact List.mem_append_left _ List.mem_cons_self

/- The text that is hashed has no checksum in it. -/
theorem ne_originalData
    (hRound :
      RoundTrips archive state options exportedAt
        originalData data archived)
    {decompressed : Bytes}
    {exported : ExportedState}
    (hParsed :
      SerdeJson.fromSlice decompressed = .ok exported)
    (hChecksum :
      exported.checksum = sha256Hex originalData) :
    decompressed ≠ originalData := by
  rintro rfl
  rw [hRound.packageBack] at hParsed
  cases hParsed
  exact sha256Hex_ne_empty decompressed hChecksum.symm

/-
  An archive that comes back unchanged is the right state,
  and is reported.
-/
theorem importState_exportState
    (hRound :
      RoundTrips archive state options exportedAt
        originalData data archived)
    (hInjective :
      Set.InjOn Sha256.digest {originalData, data})
    (importedAt : DateTime) :
    ∃ result,
      archive.importState archived options importedAt =
          .ok result ∧
        result.stateId = state.stateId ∧
        ReportsMismatch result :=
  reportsMismatch_of_ne archive importedAt
    hRound.decompressed hRound.sealedBack rfl
    (ne_originalData hRound hRound.sealedBack rfl) hInjective

/- A changed document with the old checksum is reported. -/
theorem reportsMismatch_of_changed
    (hRound :
      RoundTrips archive state options exportedAt
        originalData data archived)
    {archived' decompressed : Bytes}
    {changed : ExportedState}
    (hDecompressed :
      decompress options.compression archived' =
        .ok decompressed)
    (hParsed :
      SerdeJson.fromSlice decompressed = .ok changed)
    (hChecksum : changed.checksum = sha256Hex originalData)
    (hInjective :
      Set.InjOn Sha256.digest {originalData, decompressed})
    (importedAt : DateTime) :
    ∃ result,
      archive.importState archived' options importedAt =
          .ok result ∧
        result.stateId = changed.state.stateId ∧
        ReportsMismatch result :=
  reportsMismatch_of_ne archive importedAt hDecompressed
    hParsed hChecksum
    (ne_originalData hRound hParsed hChecksum) hInjective

/- No archive comes back without a warning. -/
theorem not_meaningfulChecksum
    (hRound :
      RoundTrips archive state options exportedAt
        originalData data archived)
    (hInjective :
      Set.InjOn Sha256.digest {originalData, data})
    (importedAt : DateTime) :
    ¬ MeaningfulChecksum archive state options exportedAt
      importedAt := by
  intro hMeaningful
  obtain ⟨archived', result, hExport, hImport, _, hSilent⟩ :=
    hMeaningful.roundTrip
  rw [exportState_eq hRound] at hExport
  cases hExport
  obtain ⟨reported, hReported, _, hMismatch⟩ :=
    importState_exportState hRound hInjective importedAt
  rw [hReported] at hImport
  cases hImport
  exact hSilent hMismatch

end StateArchive

------------------------------------------------------------
-- A Sample Archive
------------------------------------------------------------

/-
  An uncompressed archive of a sample state, with the JSON
  texts of its two documents and their digests; no other
  documents and no other digests occur.
-/
namespace ArchiveSample

open StateArchive

def options : ExportOptions :=
  { ExportOptions.default with compression := .none }

def exported : ExportedState :=
  StateArchive.new.package Sample.first options Sample.epoch

def documentText
    (size checksum : String) : Bytes :=
  asBytes "\x7b\"version\":1," ++
    asBytes "\"exported_at\":\"1970-01-01T00:00:00Z\"," ++
    asBytes "\"state\":" ++ Sample.firstJson ++
    asBytes (",\"metadata\":\x7b" ++
      "\"export_version\":\"1.0\"," ++
      "\"isa_version\":\"0.1.0\"," ++
      "\"compression\":\"None\",\"format\":\"Json\"," ++
      "\"original_size\":" ++ size ++
      ",\"compressed_size\":null\x7d," ++
      "\"checksum\":\"" ++ checksum ++ "\"\x7d")

def originalText : Bytes :=
  documentText "0" ""

def originalDigest : String :=
  "21fc101ad812465ae2afaccfea9f4e73" ++
    "ea5b14daffc2cc33e974ba0345ccec8a"

def sealedText : Bytes :=
  documentText "629" originalDigest

scoped instance : Sha256 where
  digest data :=
    digestOf <|
      if data = originalText then
        0x21fc101ad812465ae2afaccfea9f4e73ea5b14daffc2cc33e974ba0345ccec8a
      else
        0x71f1c527787aff9c9978ae8881aeb09b0051f1a61d55d3547ab8c87c327b1009

scoped instance : SerdeJson ExportedState where
  toVec exported :=
    .ok
      (documentText (toString exported.metadata.originalSize)
        exported.checksum)
  fromSlice data :=
    if data = originalText then
      .ok exported
    else if data = sealedText then
      .ok (sealPackage exported originalText)
    else
      .error "expected value at line 1 column 1"

/- The compression libraries are not called. -/
scoped instance : ArchiveCodecs where
  gzipWrite _ := .error "not called"
  gzipFinish _ := .error "not called"
  gzipDecode _ := .error "not called"
  zstdEncode _ := .error "not called"
  zstdDecode _ := .error "not called"

end ArchiveSample

namespace StateArchive

open ArchiveSample

/- The checksum that the sample is exported with. -/
theorem checksum_sample :
    sha256Hex originalText = originalDigest := by
  decide +kernel

theorem sealedText_ne :
    sealedText ≠ originalText := by
  decide +kernel

theorem length_originalText :
    toString originalText.length = "629" := by
  decide +kernel

theorem roundTrips_sample :
    RoundTrips StateArchive.new Sample.first options
      Sample.epoch originalText sealedText sealedText where
  package := rfl
  packageBack := if_pos rfl
  sealed := by
    change
      Except.ok
          (documentText (toString originalText.length)
            (sha256Hex originalText)) =
        _
    rw [length_originalText, checksum_sample]
    rfl
  sealedBack := (if_neg sealedText_ne).trans (if_pos rfl)
  compressed := rfl
  decompressed := rfl

theorem not_meaningfulChecksum_sample :
    ¬ MeaningfulChecksum StateArchive.new Sample.first options
      Sample.epoch Sample.epoch := by
  refine
    not_meaningfulChecksum roundTrips_sample ?_ Sample.epoch
  have hDigests :
      Sha256.digest originalText ≠
        Sha256.digest sealedText := by
    decide +kernel
  rintro first (rfl | rfl) second (rfl | rfl) hSame
  · rfl
  · exact absurd hSame hDigests
  · exact absurd hSame.symm hDigests
  · rfl

/- An archive is imported ten minutes after its export. -/
theorem meaningfulChecksum_tenMinutesLater :
    ¬ MeaningfulChecksum StateArchive.new Sample.first options
      Sample.epoch Sample.tenMinutesLater := by
  intro hMeaningful
  obtain ⟨archived, result, hExport, hImport, _, hSilent⟩ :=
    hMeaningful.roundTrip
  rw [exportState_eq roundTrips_sample] at hExport
  cases hExport
  obtain ⟨imported, hImported, _, _, hWarnings⟩ :=
    importState_eq StateArchive.new Sample.tenMinutesLater
      roundTrips_sample.decompressed
      roundTrips_sample.sealedBack
  rw [hImported] at hImport
  cases hImport
  have hDiffers :
      sha256Hex sealedText ≠
        (sealPackage exported originalText).checksum := by
    decide +kernel
  change
    result.warnings =
      (if sha256Hex sealedText ≠
            (sealPackage exported originalText).checksum then
          _
        else _) ++ _
    at hWarnings
  rw [if_pos hDiffers] at hWarnings
  apply hSilent
  refine
    ⟨sha256Hex originalText, sha256Hex sealedText, ?_⟩
  rw [hWarnings]
  exact List.mem_append_left _ List.mem_cons_self

end StateArchive

end IsaWorkspace
