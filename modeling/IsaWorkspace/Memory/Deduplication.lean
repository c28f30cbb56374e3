import IsaWorkspace.Memory.Reached

/-
  Digests of equal pages.

  A page is hashed as it was compressed, and cold pages are
  compressed by another algorithm than all others.  Equal
  pages of which just one is cold have different digests,
  unless the outputs of both algorithms collide.

  Main declarations:
    * `MemorySnapshotManager.IsCold`
    * `MemorySnapshotManager.SameDigest`
    * `MemorySnapshotManager.compressed_of_cold`
    * `MemorySnapshotManager.pageHash_eq_iff`
-/

------------------------------------------------------------
-- Cold Pages
------------------------------------------------------------

namespace IsaWorkspace

namespace MemorySnapshotManager

/- A page of a region is classified cold. -/
def IsCold
    [BuildProfile]
    (manager : MemorySnapshotManager)
    (regionId : String)
    (pageOffset : Nat) : Prop :=
  ∃ tracker temperatureMap,
    manager.regions.lookup regionId = some tracker ∧
      tracker.classifyTemperature = some temperatureMap ∧
        temperatureMap.temperatureOf pageOffset = .cold

/- LZ4 and Zstandard make data of one digest of a page. -/
def SameDigest
    [Sha256] [Compressors]
    (bytes : Bytes) : Prop :=
  ∃ packed shrunk,
    Compressors.lz4Compress bytes = .ok packed ∧
      Compressors.zstdEncode bytes = .ok shrunk ∧
        Sha256.digest packed = Sha256.digest shrunk

section Algorithms

variable {manager : MemorySnapshotManager}
variable {temperatureMap : MemoryTemperatureMap}
variable {memoryData : Bytes} {pageOffset : Nat}
variable {page : MemoryPage}

/- Zstandard is for cold pages, LZ4 for all others. -/
theorem DefaultCompression.compressionFor_eq
    (hDefault : DefaultCompression manager)
    (temperatureMap : MemoryTemperatureMap)
    (pageOffset : Nat) :
    manager.compressionFor temperatureMap pageOffset =
      if temperatureMap.temperatureOf pageOffset = .cold then
        .zstd
      else
        .lz4 := by
  unfold compressionFor MemoryTemperatureMap.temperatureOf
  rw [hDefault.hot, hDefault.warm, hDefault.cold]
  split
  · rfl
  · split
    · rfl
    · rfl

variable [Sha256] [Compressors]

theorem compressed_of_cold
    (hDefault : DefaultCompression manager)
    (hMade :
      MadeBy manager temperatureMap memoryData pageOffset
        page)
    (hCold :
      temperatureMap.temperatureOf pageOffset = .cold) :
    Compressors.zstdEncode (pageSlice memoryData pageOffset) =
      .ok page.data := by
  have hAlgorithm := hMade.algorithm
  have hCompressed := hMade.compressed
  rw [hDefault.compressionFor_eq, if_pos hCold] at hAlgorithm
  rw [hAlgorithm] at hCompressed
  exact of_mapError_ok hCompressed

theorem compressed_of_not_cold
    (hDefault : DefaultCompression manager)
    (hMade :
      MadeBy manager temperatureMap memoryData pageOffset
        page)
    (hCold :
      temperatureMap.temperatureOf pageOffset ≠ .cold) :
    Compressors.lz4Compress
        (pageSlice memoryData pageOffset) =
      .ok page.data := by
  have hAlgorithm := hMade.algorithm
  have hCompressed := hMade.compressed
  rw [hDefault.compressionFor_eq, if_neg hCold] at hAlgorithm
  rw [hAlgorithm] at hCompressed
  exact of_mapError_ok hCompressed

end Algorithms

------------------------------------------------------------
-- Digests
------------------------------------------------------------

section Digests

variable [Sha256] [Compressors]

/- A page as its algorithm makes it of some bytes. -/
structure Hashed
    (bytes : Bytes)
    (cold : Prop)
    (page : MemoryPage) : Prop where
  hash : page.pageHash = sha256Hex page.data
  shrunk :
    cold → Compressors.zstdEncode bytes = .ok page.data
  packed :
    ¬ cold → Compressors.lz4Compress bytes = .ok page.data

variable {bytes : Bytes}

/- Text digests are equal when digests are. -/
omit [Compressors] in
theorem sha256Hex_eq_iff
    (data other : Bytes) :
    sha256Hex data = sha256Hex other ↔
      Sha256.digest data = Sha256.digest other := by
  unfold sha256Hex
  rw [hexEncode_injective.eq_iff, Vector.toList_inj]

/- A page that is cold, and one of its bytes that is not. -/
theorem Hashed.eq_iff_sameDigest
    {cold warm : Prop}
    {one other : MemoryPage}
    (hOne : Hashed bytes cold one)
    (hOther : Hashed bytes warm other)
    (hCold : cold)
    (hWarm : ¬ warm) :
    one.pageHash = other.pageHash ↔ SameDigest bytes := by
  have hShrunk := hOne.shrunk hCold
  have hPacked := hOther.packed hWarm
  rw [hOne.hash, hOther.hash, sha256Hex_eq_iff]
  constructor
  · intro hSame
    exact ⟨_, _, hPacked, hShrunk, hSame.symm⟩
  · rintro ⟨packed, shrunk, hFast, hSmall, hSame⟩
    rw [hPacked] at hFast
    rw [hShrunk] at hSmall
    cases hFast
    cases hSmall
    exact hSame.symm

/- Pages of the same bytes have one digest, or not. -/
theorem Hashed.eq_iff
    {cold warm : Prop}
    {one other : MemoryPage}
    (hOne : Hashed bytes cold one)
    (hOther : Hashed bytes warm other) :
    one.pageHash = other.pageHash ↔
      (cold ↔ warm) ∨ SameDigest bytes := by
  by_cases hCold : cold
  · by_cases hWarm : warm
    · have hData :=
        (hOne.shrunk hCold).symm.trans (hOther.shrunk hWarm)
      refine
        iff_of_true ?_ (Or.inl (iff_of_true hCold hWarm))
      rw [hOne.hash, hOther.hash, Except.ok.inj hData]
    · rw [hOne.eq_iff_sameDigest hOther hCold hWarm]
      exact
        (or_iff_right fun hBoth =>
          hWarm (hBoth.mp hCold)).symm
  · by_cases hWarm : warm
    · rw [eq_comm,
        hOther.eq_iff_sameDigest hOne hWarm hCold]
      exact
        (or_iff_right fun hBoth =>
          hCold (hBoth.mpr hWarm)).symm
    · have hData :=
        (hOne.packed hCold).symm.trans (hOther.packed hWarm)
      refine
        iff_of_true ?_ (Or.inl (iff_of_false hCold hWarm))
      rw [hOne.hash, hOther.hash, Except.ok.inj hData]

variable [BuildProfile]

/- A page that a snapshot returned. -/
theorem hashed_of_mem_returnedPages
    {manager : MemorySnapshotManager}
    (hDefault : DefaultCompression manager)
    {regionId : String}
    {memoryData : Bytes}
    {entry : Nat × MemoryPage}
    (hEntry :
      entry ∈ manager.returnedPages regionId memoryData) :
    Hashed (pageSlice memoryData entry.1)
      (manager.IsCold regionId entry.1) entry.2 := by
  rcases madeBy_of_mem_returnedPages hEntry with
    ⟨tracker, temperatureMap, hLookup, hMap, _, hMade⟩
  have hIsCold :
      manager.IsCold regionId entry.1 ↔
        temperatureMap.temperatureOf entry.1 = .cold := by
    constructor
    · rintro ⟨found, map, hFound, hThere, hCold⟩
      rw [hLookup] at hFound
      cases hFound
      rw [hMap] at hThere
      cases hThere
      exact hCold
    · intro hCold
      exact ⟨tracker, temperatureMap, hLookup, hMap, hCold⟩
  constructor
  · exact hMade.hash
  · intro hCold
    exact compressed_of_cold hDefault hMade (hIsCold.mp hCold)
  · intro hCold
    exact
      compressed_of_not_cold hDefault hMade
        (mt hIsCold.mpr hCold)

/-
  Pages with the same bytes, returned by any snapshots after
  any calls, have one hash exactly when both are cold or
  neither is, up to collisions between the two algorithms.
-/
theorem pageHash_eq_iff
    (ops otherOps : List SnapshotOp)
    {regionId otherId : String}
    {memoryData otherData : Bytes}
    {entry other : Nat × MemoryPage}
    (hEntry :
      entry ∈
        (reached ops).returnedPages regionId memoryData)
    (hOther :
      other ∈
        (reached otherOps).returnedPages otherId otherData)
    (hEqual :
      pageSlice memoryData entry.1 =
        pageSlice otherData other.1) :
    entry.2.pageHash = other.2.pageHash ↔
      ((reached ops).IsCold regionId entry.1 ↔
          (reached otherOps).IsCold otherId other.1) ∨
        SameDigest (pageSlice memoryData entry.1) := by
  have hOne :=
    hashed_of_mem_returnedPages
      (wellKept_reached ops).default hEntry
  have hTwo :=
    hashed_of_mem_returnedPages
      (wellKept_reached otherOps).default hOther
  rw [← hEqual] at hTwo
  exact hOne.eq_iff hTwo

end Digests

end MemorySnapshotManager

end IsaWorkspace

------------------------------------------------------------
-- A Sample Run
------------------------------------------------------------

namespace IsaWorkspace

namespace DeduplicationSample

open MemorySnapshotManager
open SnapshotSample
  (image page packed image_fits pageSlice_image)

/- What Zstandard makes of a page of the image. -/
def shrunk : Bytes :=
  [0x28, 0xB5, 0x2F, 0xFD, 0x00, 0x58, 0x4D, 0x00, 0x00,
    0x10, 0xAB, 0xAB, 0x01, 0x00, 0xFB, 0xF7, 0x01, 0x16]

scoped instance : BuildProfile :=
  ⟨true⟩

scoped instance : Sha256 where
  digest data :=
    digestOf <|
      if data = packed then
        0x1f7d4127b42d5ef275177bb1856b56ada5ee8cf321c26129954eb6a54dfaf7fb
      else if data = shrunk then
        0x5d9200f5ab778fd4b9bf03b8c255d7ac19bffe615595fb63a23aedfe63710817
      else
        0xe3b0c44298fc1c149afbf4c8996fb92427ae41e4649b934ca495991b7852b855

scoped instance : Compressors where
  lz4Compress data :=
    if data = page then
      .ok packed
    else
      .error "not in the sample"
  lz4Decompress data :=
    if data = packed then
      .ok page
    else
      .error "not in the sample"
  zstdEncode data :=
    if data = page then
      .ok shrunk
    else
      .error "not in the sample"
  zstdDecode data :=
    if data = shrunk then
      .ok page
    else
      .error "not in the sample"

/- Two equal pages are dirty, and just one is accessed. -/
def equalPages : List SnapshotOp :=
  .registerRegion "test" 0x1000 8192 ::
    List.replicate 4 (.recordPageAccess "test" 0) ++
      [.markPageDirty "test" 0, .markPageDirty "test" 1]

def tracker : DirtyPageTracker :=
  ⟨0x1000, 8192, [true, true], [4, 0]⟩

theorem lookup_tracker :
    (reached equalPages).regions.lookup "test" =
      some tracker := by
  decide +kernel

theorem classifyTemperature_tracker :
    tracker.classifyTemperature = some ⟨{0}, ∅, {1}⟩ := by
  decide +kernel

theorem compress_lz4 :
    CompressionAlgorithm.lz4.compress page = .ok packed := by
  have hPacked : Compressors.lz4Compress page = .ok packed :=
    if_pos rfl
  unfold CompressionAlgorithm.compress
  rw [hPacked]
  rfl

theorem compress_zstd :
    CompressionAlgorithm.zstd.compress page = .ok shrunk := by
  have hShrunk : Compressors.zstdEncode page = .ok shrunk :=
    if_pos rfl
  unfold CompressionAlgorithm.compress
  rw [hShrunk]
  rfl

/- One page is made by each algorithm. -/
theorem makePages_equalPages :
    (reached equalPages).makePages ⟨{0}, ∅, {1}⟩ (image 2)
        tracker.getDirtyPages =
      ([pageOf .lz4 packed, pageOf .zstd shrunk], none) := by
  have hDirty : tracker.getDirtyPages = [0, 1] := by
    decide +kernel
  have hDefault := (wellKept_reached equalPages).default
  have hHot :
      (reached equalPages).compressionFor ⟨{0}, ∅, {1}⟩ 0 =
        .lz4 := by
    rw [hDefault.compressionFor_eq]
    rfl
  have hCold :
      (reached equalPages).compressionFor ⟨{0}, ∅, {1}⟩ 1 =
        .zstd := by
    rw [hDefault.compressionFor_eq]
    rfl
  have hFirst :
      ((reached equalPages).compressionFor ⟨{0}, ∅, {1}⟩
          0).compress (pageSlice (image 2) 0) =
        .ok packed := by
    rw [hHot, pageSlice_image Nat.two_pos, compress_lz4]
  have hSecond :
      ((reached equalPages).compressionFor ⟨{0}, ∅, {1}⟩
          1).compress (pageSlice (image 2) 1) =
        .ok shrunk := by
    rw [hCold, pageSlice_image Nat.one_lt_two, compress_zstd]
  rw [hDirty, makePages_cons (image_fits Nat.two_pos) hFirst,
    makePages_cons (image_fits Nat.one_lt_two) hSecond, hHot,
    hCold]
  rfl

/- Both are returned. -/
theorem returnedPages_equalPages :
    (reached equalPages).returnedPages "test" (image 2) =
      [(0, pageOf .lz4 packed), (1, pageOf .zstd shrunk)] := by
  have hDirty : tracker.getDirtyPages = [0, 1] := by
    decide +kernel
  have hWithin :
      [0, 1].filter
          (fun page => decide (PageFits (image 2) page)) =
        [0, 1] := by
    apply List.filter_eq_self.mpr
    intro page hPage
    apply decide_eq_true
    rcases List.mem_cons.mp hPage with rfl | hSecond
    · exact image_fits Nat.two_pos
    · rw [List.mem_singleton.mp hSecond]
      exact image_fits Nat.one_lt_two
  have hOk :=
    congrArg Prod.fst
      (snapshotDirty_of_made lookup_tracker
        classifyTemperature_tracker makePages_equalPages)
  rw [returnedPages_ok hOk,
    dirtyWithin_of_lookup lookup_tracker, hDirty, hWithin]
  rfl

theorem mem_returnedPages_equalPages :
    (0, pageOf .lz4 packed) ∈
        (reached equalPages).returnedPages "test"
          (image 2) ∧
      (1, pageOf .zstd shrunk) ∈
        (reached equalPages).returnedPages "test"
          (image 2) := by
  rw [returnedPages_equalPages]
  exact
    ⟨List.mem_cons_self,
      List.mem_cons_of_mem _ List.mem_cons_self⟩

theorem pageSlice_equal :
    pageSlice (image 2) 0 = pageSlice (image 2) 1 :=
  (pageSlice_image Nat.two_pos).trans
    (pageSlice_image Nat.one_lt_two).symm

end DeduplicationSample

open DeduplicationSample
open SnapshotSample (image packed)

namespace MemorySnapshotManager

/- What decides about the two pages. -/
theorem pageHash_equalPages :
    (pageOf .lz4 packed).pageHash =
        (pageOf .zstd shrunk).pageHash ↔
      ((reached equalPages).IsCold "test" 0 ↔
          (reached equalPages).IsCold "test" 1) ∨
        SameDigest (pageSlice (image 2) 0) :=
  pageHash_eq_iff equalPages equalPages
    mem_returnedPages_equalPages.1
    mem_returnedPages_equalPages.2 pageSlice_equal

/- They are equal, and have different hashes. -/
theorem pageHash_apart :
    (0, pageOf .lz4 packed) ∈
        (reached equalPages).returnedPages "test"
          (image 2) ∧
      (1, pageOf .zstd shrunk) ∈
          (reached equalPages).returnedPages "test"
            (image 2) ∧
        pageSlice (image 2) 0 = pageSlice (image 2) 1 ∧
          (pageOf .lz4 packed).pageHash ≠
            (pageOf .zstd shrunk).pageHash := by
  refine
    ⟨mem_returnedPages_equalPages.1,
      mem_returnedPages_equalPages.2, pageSlice_equal, ?_⟩
  decide +kernel

end MemorySnapshotManager

end IsaWorkspace
