import IsaWorkspace.Externals
import IsaWorkspace.Foundations.Exec
import IsaWorkspace.Foundations.HashMap
import IsaWorkspace.Foundations.SinglePrecision
import IsaWorkspace.Memory.Page
import Mathlib.Data.Finset.Basic

/-
  Dirty pages and their snapshots.

  A tracker knows which pages of a region are dirty and how
  often each was accessed.  A snapshot compresses the dirty
  pages of a memory image, by an algorithm that goes with
  their temperature, and caches them under the hash of what
  came out.

  The averages of the classification are single-precision
  numbers, which are rational numbers here, rounded as the
  format rounds.

  Main declarations:
    * `Compressors`, `CompressionAlgorithm.compress`
    * `DirtyPageTracker`
    * `DirtyPageTracker.classifyTemperature`
    * `MemorySnapshotManager`
    * `MemorySnapshotManager.snapshotDirty`
-/

------------------------------------------------------------
-- Compression
------------------------------------------------------------

namespace IsaWorkspace

/- Memory management errors. -/
inductive MemoryError where
  | compressionError (message : String)
  | decompressionError (message : String)
  | ioError (message : String)
  | userfaultfdError (message : String)
  | notFound (message : String)
  | invalidPage (message : String)
deriving DecidableEq

/- The LZ4 and Zstandard libraries. -/
class Compressors where
  lz4Compress : Bytes → Except String Bytes
  lz4Decompress : Bytes → Except String Bytes
  zstdEncode : Bytes → Except String Bytes
  zstdDecode : Bytes → Except String Bytes

namespace CompressionAlgorithm

variable [Compressors]

/- Compress data using the specified algorithm. -/
def compress
    (algorithm : CompressionAlgorithm)
    (data : Bytes) : Except MemoryError Bytes :=
  match algorithm with
  | none => .ok data
  | lz4 =>
      (Compressors.lz4Compress data).mapError fun error =>
        .compressionError ("LZ4 failed: " ++ error)
  | zstd =>
      (Compressors.zstdEncode data).mapError fun error =>
        .compressionError ("Zstd failed: " ++ error)

/- Decompress data using the specified algorithm. -/
def decompress
    (algorithm : CompressionAlgorithm)
    (data : Bytes) : Except MemoryError Bytes :=
  match algorithm with
  | none => .ok data
  | lz4 =>
      (Compressors.lz4Decompress data).mapError fun error =>
        .decompressionError ("LZ4 failed: " ++ error)
  | zstd =>
      (Compressors.zstdDecode data).mapError fun error =>
        .decompressionError ("Zstd failed: " ++ error)

end CompressionAlgorithm

/- Page size (4KB standard). -/
def pageSize : Nat := 4096

end IsaWorkspace

------------------------------------------------------------
-- Dirty Pages
------------------------------------------------------------

namespace IsaWorkspace

/- Temperature classification result. -/
structure MemoryTemperatureMap where
  hotPages : Finset Nat
  warmPages : Finset Nat
  coldPages : Finset Nat
deriving DecidableEq

/- Tracks dirty pages in a running VM. -/
structure DirtyPageTracker where
  baseAddr : UInt64
  totalSize : Nat
  dirtyBitmap : List Bool
  accessCounts : List UInt32
deriving DecidableEq

namespace DirtyPageTracker

def new
    (baseAddr : UInt64)
    (totalSize : Nat) : DirtyPageTracker where
  baseAddr := baseAddr
  totalSize := totalSize
  dirtyBitmap :=
    List.replicate (totalSize / pageSize) false
  accessCounts := List.replicate (totalSize / pageSize) 0

/- Mark a page as dirty. -/
def markDirty
    (tracker : DirtyPageTracker)
    (pageOffset : Nat) : DirtyPageTracker :=
  if pageOffset < tracker.dirtyBitmap.length then
    { tracker with
      dirtyBitmap :=
        tracker.dirtyBitmap.set pageOffset true }
  else
    tracker

/- One more access, but never more than there is room for. -/
def saturatingSucc
    (count : UInt32) : UInt32 :=
  if count.toNat < 2 ^ 32 - 1 then count + 1 else count

/- Record a page access. -/
def recordAccess
    (tracker : DirtyPageTracker)
    (pageOffset : Nat) : DirtyPageTracker :=
  match tracker.accessCounts[pageOffset]? with
  | some count =>
      { tracker with
        accessCounts :=
          tracker.accessCounts.set pageOffset
            (saturatingSucc count) }
  | none => tracker

/- Get all dirty page offsets. -/
def getDirtyPages
    (tracker : DirtyPageTracker) : List Nat :=
  (tracker.dirtyBitmap.zipIdx.filter (·.1)).map (·.2)

/- Clear the dirty bitmap after a snapshot. -/
def clearDirty
    (tracker : DirtyPageTracker) : DirtyPageTracker :=
  { tracker with
    dirtyBitmap := tracker.dirtyBitmap.map fun _ => false }

/- The sum of all counts; `none` is a panic. -/
def sumAccesses
    [BuildProfile] :
    UInt32 → List UInt32 → Option UInt32
| total, [] => some total
| total, count :: rest =>
    if total.toNat + count.toNat < 2 ^ 32 ∨
        BuildProfile.overflowChecks = false then
      sumAccesses (total + count) rest
    else
      none

/- The pages whose number of accesses meets a condition. -/
def pagesWhere
    (tracker : DirtyPageTracker)
    (condition : UInt32 → Bool) : Finset Nat :=
  ((tracker.accessCounts.zipIdx.filter fun entry =>
      condition entry.1).map (·.2)).toFinset

/- Classify pages by temperature, based on their accesses. -/
def classifyTemperature
    [BuildProfile]
    (tracker : DirtyPageTracker) :
    Option MemoryTemperatureMap :=
  (sumAccesses 0 tracker.accessCounts).map fun total =>
    let numPages := tracker.dirtyBitmap.length
    let avgAccess : Rat :=
      if 0 < numPages then
        roundSingle
          (roundSingle total.toNat / roundSingle numPages)
      else
        0
    let hotThreshold := castU32 (roundSingle (avgAccess * 2))
    let warmThreshold :=
      castU32 (roundSingle (avgAccess * (1 / 2)))
    let isHot : UInt32 → Bool := fun count =>
      hotThreshold ≤ count ∧ 0 < count
    let isWarm : UInt32 → Bool := fun count =>
      !isHot count && warmThreshold ≤ count
    { hotPages := tracker.pagesWhere isHot
      warmPages := tracker.pagesWhere isWarm
      coldPages :=
        tracker.pagesWhere fun count =>
          !isHot count && !isWarm count }

end DirtyPageTracker

end IsaWorkspace

------------------------------------------------------------
-- Snapshots
------------------------------------------------------------

namespace IsaWorkspace

/- Memory snapshot manager for a single VM. -/
structure MemorySnapshotManager where
  regions : HashMap String DirtyPageTracker
  pageCache : HashMap String MemoryPage
  hotCompression : CompressionAlgorithm
  warmCompression : CompressionAlgorithm
  coldCompression : CompressionAlgorithm

/- The bytes of one page of a memory image. -/
def pageSlice
    (memoryData : Bytes)
    (pageOffset : Nat) : Bytes :=
  (memoryData.drop (pageOffset * pageSize)).take pageSize

namespace MemorySnapshotManager

def new : MemorySnapshotManager where
  regions := ∅
  pageCache := ∅
  hotCompression := .lz4
  warmCompression := .lz4
  coldCompression := .zstd

/- Register a memory region for tracking. -/
def registerRegion
    (manager : MemorySnapshotManager)
    (regionId : String)
    (baseAddr : UInt64)
    (size : Nat) : MemorySnapshotManager :=
  { manager with
    regions :=
      manager.regions.insert regionId
        (DirtyPageTracker.new baseAddr size) }

/- Change the tracker of a region, if there is one. -/
def onRegion
    (manager : MemorySnapshotManager)
    (regionId : String)
    (change : DirtyPageTracker → DirtyPageTracker) :
    MemorySnapshotManager :=
  match manager.regions.lookup regionId with
  | some tracker =>
      { manager with
        regions :=
          manager.regions.insert regionId (change tracker) }
  | none => manager

/- Mark a page as dirty in the specified region. -/
def markPageDirty
    (manager : MemorySnapshotManager)
    (regionId : String)
    (pageOffset : Nat) : MemorySnapshotManager :=
  manager.onRegion regionId (·.markDirty pageOffset)

/- Record a page access for temperature tracking. -/
def recordPageAccess
    (manager : MemorySnapshotManager)
    (regionId : String)
    (pageOffset : Nat) : MemorySnapshotManager :=
  manager.onRegion regionId (·.recordAccess pageOffset)

/- The algorithm that goes with a page's temperature. -/
def compressionFor
    (manager : MemorySnapshotManager)
    (temperatureMap : MemoryTemperatureMap)
    (pageOffset : Nat) : CompressionAlgorithm :=
  if pageOffset ∈ temperatureMap.hotPages then
    manager.hotCompression
  else if pageOffset ∈ temperatureMap.warmPages then
    manager.warmCompression
  else
    manager.coldCompression

/- Get a page from the cache by its hash. -/
def getPage
    (manager : MemorySnapshotManager)
    (pageHash : String) : Option MemoryPage :=
  manager.pageCache.lookup pageHash

variable [Sha256] [Compressors]

/- The page that compressed data makes. -/
def pageOf
    (compression : CompressionAlgorithm)
    (compressedData : Bytes) : MemoryPage where
  pageHash := sha256Hex compressedData
  data := compressedData
  compression := compression
  originalSize := pageSize

/- Cache a page under its hash. -/
def cachePage
    (page : MemoryPage) :
    Exec MemorySnapshotManager MemoryError Unit :=
  Exec.update fun manager =>
    { manager with
      pageCache :=
        manager.pageCache.insert page.pageHash page }

/- Compress and cache pages, up to the first error. -/
def snapshotPages
    (temperatureMap : MemoryTemperatureMap)
    (memoryData : Bytes) :
    List Nat →
      Exec MemorySnapshotManager MemoryError
        (List MemoryPage)
| [] => pure []
| pageOffset :: rest =>
    -- a page beyond the end of the image is passed over
    if memoryData.length <
        pageOffset * pageSize + pageSize then
      snapshotPages temperatureMap memoryData rest
    else do
      let manager ← Exec.read
      let compression :=
        manager.compressionFor temperatureMap pageOffset
      match
        compression.compress
          (pageSlice memoryData pageOffset) with
      | .error error => Exec.fail error
      | .ok compressedData => do
          let page := pageOf compression compressedData
          cachePage page
          let others ←
            snapshotPages temperatureMap memoryData rest
          pure (page :: others)

variable [BuildProfile]

/- Create a snapshot of dirty pages only. -/
def snapshotDirty
    (regionId : String)
    (memoryData : Bytes) :
    Exec MemorySnapshotManager MemoryError
      (List MemoryPage) := do
  let manager ← Exec.read
  match manager.regions.lookup regionId with
  | none =>
      Exec.fail
        (.notFound ("Region " ++ regionId ++ " not found"))
  | some tracker => do
      let temperatureMap ←
        Exec.orPanic tracker.classifyTemperature
      let pages ←
        snapshotPages temperatureMap memoryData
          tracker.getDirtyPages
      Exec.update fun manager =>
        { manager with
          regions :=
            manager.regions.insert regionId
              tracker.clearDirty }
      pure pages

end MemorySnapshotManager

end IsaWorkspace
