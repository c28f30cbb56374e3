import IsaWorkspace.Model

/-
  Export and import of states.

  An exported state is a JSON document with a checksum, and
  compressed if that is asked for.  The binary format is the
  JSON one under another name.  The gzip and zstd libraries
  are parameters.

  Main declarations:
    * `ExportFormat`, `ExportOptions`
    * `ExportedState`, `ImportResult`, `ArchiveError`
    * `ArchiveCodecs`
    * `StateArchive.exportState`
    * `StateArchive.importState`
-/

------------------------------------------------------------
-- Records
------------------------------------------------------------

namespace IsaWorkspace

/- Export format. -/
inductive ExportFormat where
  | json
  | binary
deriving DecidableEq

namespace ExportFormat

/- The format as it is printed. -/
def debug : ExportFormat → String
| json => "Json"
| binary => "Binary"

/- The format as it is named in errors. -/
def name : ExportFormat → String
| json => "JSON"
| binary => "Binary"

end ExportFormat

namespace StateArchive

/- Compression algorithm. -/
inductive CompressionAlgorithm where
  | none
  | gzip
  | zstd
deriving DecidableEq

namespace CompressionAlgorithm

/- The algorithm as it is printed. -/
def debug : CompressionAlgorithm → String
| none => "None"
| gzip => "Gzip"
| zstd => "Zstd"

end CompressionAlgorithm

end StateArchive

/- Export options. -/
structure ExportOptions where
  format : ExportFormat
  compression : StateArchive.CompressionAlgorithm
  includeMetadata : Bool
  includeHistory : Bool
  password : Option String
deriving DecidableEq

def ExportOptions.default : ExportOptions where
  format := .json
  compression := .gzip
  includeMetadata := true
  includeHistory := true
  password := none

/- Export metadata. -/
structure ExportMetadata where
  exportVersion : String
  isaVersion : String
  compression : String
  format : String
  originalSize : Nat
  compressedSize : Option Nat
deriving DecidableEq

/- Exported state package. -/
structure ExportedState where
  version : UInt32
  exportedAt : DateTime
  state : State
  metadata : ExportMetadata
  checksum : String

/- Import result. -/
structure ImportResult where
  stateId : StateId
  importedAt : DateTime
  validationErrors : List String
  warnings : List String
deriving DecidableEq

/- Archive errors. -/
inductive ArchiveError where
  | serializationError (message : String)
  | deserializationError (message : String)
  | compressionError (message : String)
  | decompressionError (message : String)
deriving DecidableEq

/-
  The compression libraries.  Writing to a gzip encoder and
  finishing it can fail, and so can the other calls.
-/
class ArchiveCodecs where
  gzipWrite : Bytes → Except String Unit
  gzipFinish : Bytes → Except String Bytes
  gzipDecode : Bytes → Except String Bytes
  zstdEncode : Bytes → Except String Bytes
  zstdDecode : Bytes → Except String Bytes

/- State exporter and importer. -/
structure StateArchive where
  exportVersion : String
  isaVersion : String
deriving DecidableEq

end IsaWorkspace

------------------------------------------------------------
-- Documents
------------------------------------------------------------

namespace IsaWorkspace

namespace StateArchive

/- Create a new state archive manager. -/
def new : StateArchive where
  exportVersion := "1.0"
  isaVersion := "0.1.0"

/- The package before its size and checksum are known. -/
def package
    (archive : StateArchive)
    (state : State)
    (options : ExportOptions)
    (exportedAt : DateTime) : ExportedState where
  version := 1
  exportedAt := exportedAt
  state := state
  metadata :=
    { exportVersion := archive.exportVersion
      isaVersion := archive.isaVersion
      compression := options.compression.debug
      format := options.format.debug
      originalSize := 0
      compressedSize := none }
  checksum := ""

/- The package with the size and checksum of given bytes. -/
def sealPackage
    [Sha256]
    (exported : ExportedState)
    (originalData : Bytes) : ExportedState :=
  { exported with
    metadata :=
      { exported.metadata with
        originalSize := originalData.length }
    checksum := sha256Hex originalData }

/- The JSON text of a package, in either format. -/
def serialize
    [SerdeJson ExportedState]
    (format : ExportFormat)
    (exported : ExportedState) :
    Except ArchiveError Bytes :=
  (SerdeJson.toVec exported).mapError fun error =>
    .serializationError
      (format.name ++ " export failed: " ++ error)

def deserialize
    [SerdeJson ExportedState]
    (format : ExportFormat)
    (data : Bytes) :
    Except ArchiveError ExportedState :=
  (SerdeJson.fromSlice data).mapError fun error =>
    .deserializationError
      (format.name ++ " import failed: " ++ error)

/- Compress if requested. -/
def compress
    [ArchiveCodecs]
    (algorithm : CompressionAlgorithm)
    (data : Bytes) : Except ArchiveError Bytes :=
  match algorithm with
  | .none => .ok data
  | .gzip => do
      (ArchiveCodecs.gzipWrite data).mapError fun error =>
        .compressionError
          ("Gzip compression failed: " ++ error)
      (ArchiveCodecs.gzipFinish data).mapError fun error =>
        .compressionError ("Gzip finish failed: " ++ error)
  | .zstd =>
      (ArchiveCodecs.zstdEncode data).mapError fun error =>
        .compressionError
          ("Zstd compression failed: " ++ error)

/- Decompress if needed. -/
def decompress
    [ArchiveCodecs]
    (algorithm : CompressionAlgorithm)
    (data : Bytes) : Except ArchiveError Bytes :=
  match algorithm with
  | .none => .ok data
  | .gzip =>
      (ArchiveCodecs.gzipDecode data).mapError fun error =>
        .decompressionError
          ("Gzip decompression failed: " ++ error)
  | .zstd =>
      (ArchiveCodecs.zstdDecode data).mapError fun error =>
        .decompressionError
          ("Zstd decompression failed: " ++ error)

------------------------------------------------------------
-- Export and Import
------------------------------------------------------------

/- Export a state to bytes. -/
def exportState
    [Sha256] [SerdeJson ExportedState] [ArchiveCodecs]
    (archive : StateArchive)
    (state : State)
    (options : ExportOptions)
    (exportedAt : DateTime) : Except ArchiveError Bytes := do
  let exported := archive.package state options exportedAt
  let originalData ← serialize options.format exported
  -- Serialize again, with the checksum of the first text.
  let data ←
    serialize options.format
      (sealPackage exported originalData)
  compress options.compression data

/- Validate a state. -/
def validateState
    (state : State) : List String :=
  (if state.stateId.id = "" then ["State ID is empty"]
    else []) ++
  (if state.vmConfig.vcpus = 0 then
      ["VCPUs cannot be zero"]
    else []) ++
  (if state.vmConfig.memoryMb = 0 then
      ["Memory cannot be zero"]
    else []) ++
  (state.memoryManifest.zipIdx.flatMap fun (region, i) =>
    if region.size = 0 then
      ["Memory region " ++ toString i ++ " has zero size"]
    else []) ++
  (if state.metadata.label = "" then
      ["State label is empty"]
    else [])

/- The warning about a checksum. -/
def checksumMismatch
    (expected calculated : String) : String :=
  "Checksum mismatch: expected " ++ expected ++ ", got " ++
    calculated

/- Import a state from bytes. -/
def importState
    [Sha256] [SerdeJson ExportedState] [ArchiveCodecs]
    (_archive : StateArchive)
    (data : Bytes)
    (options : ExportOptions)
    (importedAt : DateTime) :
    Except ArchiveError ImportResult := do
  let decompressed ← decompress options.compression data
  let exported ← deserialize options.format decompressed
  let calculatedChecksum := sha256Hex decompressed
  return {
    stateId := exported.state.stateId
    importedAt := importedAt
    validationErrors := validateState exported.state
    warnings :=
      (if calculatedChecksum ≠ exported.checksum then
          [checksumMismatch exported.checksum
            calculatedChecksum]
        else []) ++
      (if exported.version ≠ 1 then
          ["Unknown export version: " ++
            toString exported.version.toNat]
        else []) }

end StateArchive

end IsaWorkspace
