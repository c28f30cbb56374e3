import IsaWorkspace.Memory.Snapshot

/-
  What a snapshot makes of the dirty pages.

  The loop over the dirty pages makes a page for each that
  lies within the image, up to the first that cannot be
  compressed, and caches them all.

  Main declarations:
    * `DirtyPageTracker.mem_getDirtyPages`
    * `LawfulCompressors`, `IsPageOf`
    * `MemorySnapshotManager.makePages`, `snapshotPages_eq`
    * `MemorySnapshotManager.snapshotDirty_cases`
    * `MemorySnapshotManager.snapshotDirty_spec`
    * `MemorySnapshotManager.snapshotDirty_forall₂`
-/

------------------------------------------------------------
-- Dirty Pages in Order
------------------------------------------------------------

namespace IsaWorkspace

/- The pages that are dirty, by the bitmap. -/
theorem DirtyPageTracker.mem_getDirtyPages
    {tracker : DirtyPageTracker}
    {pageOffset : Nat} :
    pageOffset ∈ tracker.getDirtyPages ↔
      tracker.dirtyBitmap[pageOffset]? = some true := by
  unfold getDirtyPages
  constructor
  · intro hPage
    rcases List.mem_map.mp hPage with
      ⟨⟨dirty, index⟩, hEntry, rfl⟩
    rcases List.mem_filter.mp hEntry with ⟨hIndex, hDirty⟩
    have hTrue : dirty = true := hDirty
    subst hTrue
    exact List.mem_zipIdx_iff_getElem?.mp hIndex
  · intro hDirty
    apply List.mem_map.mpr
    refine ⟨(true, pageOffset), ?_, rfl⟩
    apply List.mem_filter.mpr
    exact ⟨List.mem_zipIdx_iff_getElem?.mpr hDirty, rfl⟩

/- Dirty pages are listed in increasing order. -/
theorem DirtyPageTracker.getDirtyPages_pairwise
    (tracker : DirtyPageTracker) :
    tracker.getDirtyPages.Pairwise (· < ·) := by
  have hSublist :
      tracker.getDirtyPages.Sublist
        (tracker.dirtyBitmap.zipIdx.map (·.2)) :=
    List.filter_sublist.map _
  have hIndices :
      tracker.dirtyBitmap.zipIdx.map (·.2) =
        List.range tracker.dirtyBitmap.length := by
    rw [List.zipIdx_map_snd, List.range_eq_range']
  rw [hIndices] at hSublist
  exact List.pairwise_lt_range.sublist hSublist

------------------------------------------------------------
-- What a Snapshot Makes
------------------------------------------------------------

/- A page lies within the memory image. -/
def PageFits
    (memoryData : Bytes)
    (pageOffset : Nat) : Prop :=
  pageOffset * pageSize + pageSize ≤ memoryData.length

instance
    (memoryData : Bytes) :
    DecidablePred (PageFits memoryData) :=
  fun _ => Nat.decLe _ _

/- The bytes of a page that fits are a whole page. -/
theorem pageSlice_length
    {memoryData : Bytes}
    {pageOffset : Nat}
    (hFits : PageFits memoryData pageOffset) :
    (pageSlice memoryData pageOffset).length = pageSize := by
  unfold PageFits at hFits
  unfold pageSlice
  rw [List.length_take, List.length_drop]
  omega

namespace MemorySnapshotManager

variable [Sha256] [Compressors]

/- The pages that are made up to the first error, and it. -/
def makePages
    (manager : MemorySnapshotManager)
    (temperatureMap : MemoryTemperatureMap)
    (memoryData : Bytes) :
    List Nat → List MemoryPage × Option MemoryError
| [] => ([], none)
| pageOffset :: rest =>
    if PageFits memoryData pageOffset then
      let compression :=
        manager.compressionFor temperatureMap pageOffset
      match
        compression.compress
          (pageSlice memoryData pageOffset) with
      | .error error => ([], some error)
      | .ok compressedData =>
          let others :=
            makePages manager temperatureMap memoryData rest
          (pageOf compression compressedData :: others.1,
            others.2)
    else
      makePages manager temperatureMap memoryData rest

/- A page that fits and can be compressed is made. -/
theorem makePages_cons
    {manager : MemorySnapshotManager}
    {temperatureMap : MemoryTemperatureMap}
    {memoryData : Bytes}
    {pageOffset : Nat}
    (hFits : PageFits memoryData pageOffset)
    {output : Bytes}
    (hCompress :
      (manager.compressionFor temperatureMap
          pageOffset).compress
          (pageSlice memoryData pageOffset) =
        .ok output)
    (rest : List Nat) :
    makePages manager temperatureMap memoryData
        (pageOffset :: rest) =
      (pageOf
            (manager.compressionFor temperatureMap
              pageOffset)
            output ::
          (makePages manager temperatureMap memoryData
            rest).1,
        (makePages manager temperatureMap memoryData
          rest).2) := by
  rw [makePages, if_pos hFits]
  simp only [hCompress]

/- Cache pages one after another. -/
def cacheAll
    (cache : HashMap String MemoryPage)
    (pages : List MemoryPage) :
    HashMap String MemoryPage :=
  pages.foldl
    (fun cache page => cache.insert page.pageHash page) cache

/- Pages are made as the manager's algorithms say. -/
theorem makePages_cache
    (manager : MemorySnapshotManager)
    (cache : HashMap String MemoryPage)
    (temperatureMap : MemoryTemperatureMap)
    (memoryData : Bytes)
    (pageOffsets : List Nat) :
    makePages { manager with pageCache := cache }
        temperatureMap memoryData pageOffsets =
      makePages manager temperatureMap memoryData
        pageOffsets := by
  induction pageOffsets with
  | nil => rfl
  | cons pageOffset rest ih =>
      unfold makePages
      rw [ih]
      rfl

/- How a loop ends that makes these pages. -/
def outcomeOf
    (made : List MemoryPage × Option MemoryError) :
    Outcome MemoryError (List MemoryPage) :=
  match made.2 with
  | none => .ok made.1
  | some error => .err error

/- The loop makes these pages and caches all of them. -/
theorem snapshotPages_eq
    (manager : MemorySnapshotManager)
    (temperatureMap : MemoryTemperatureMap)
    (memoryData : Bytes)
    (pageOffsets : List Nat) :
    snapshotPages temperatureMap memoryData pageOffsets
        manager =
      (outcomeOf
          (makePages manager temperatureMap memoryData
            pageOffsets),
        { manager with
          pageCache :=
            cacheAll manager.pageCache
              (makePages manager temperatureMap memoryData
                pageOffsets).1 }) := by
  induction pageOffsets generalizing manager with
  | nil => rfl
  | cons pageOffset rest ih =>
      unfold snapshotPages makePages
      by_cases hFits : PageFits memoryData pageOffset
      · have hInside :
            ¬ memoryData.length <
              pageOffset * pageSize + pageSize :=
          Nat.not_lt_of_le hFits
        rw [if_neg hInside, if_pos hFits,
          Exec.read_bind_apply]
        dsimp only
        cases hCompress :
            (manager.compressionFor temperatureMap
              pageOffset).compress
                (pageSlice memoryData pageOffset) with
        | error error => rfl
        | ok compressedData =>
            let page :=
              pageOf
                (manager.compressionFor temperatureMap
                  pageOffset)
                compressedData
            have hRest :=
              ih
                { manager with
                  pageCache :=
                    manager.pageCache.insert page.pageHash
                      page }
            rw [makePages_cache] at hRest
            have hCached :
                cachePage page manager =
                  (.ok (),
                    { manager with
                      pageCache :=
                        manager.pageCache.insert
                          page.pageHash page }) := rfl
            dsimp only
            rw [Exec.bind_of_ok hCached]
            rcases hMade :
                makePages manager temperatureMap memoryData
                  rest with
              ⟨others, failure⟩
            rw [hMade] at hRest
            cases failure with
            | none =>
                rw [Exec.bind_of_ok hRest]
                rfl
            | some error =>
                rw [Exec.bind_of_err hRest]
                rfl
      · have hBeyond :
            memoryData.length <
              pageOffset * pageSize + pageSize :=
          Nat.lt_of_not_le hFits
        rw [if_pos hBeyond, if_neg hFits]
        exact ih manager

end MemorySnapshotManager

------------------------------------------------------------
-- Pages and Their Bytes
------------------------------------------------------------

/-
  What is relied on of the libraries: each decompresses what
  it has compressed, and their outputs for pages differ.
-/
structure LawfulCompressors
    [Compressors] : Prop where
  lz4 :
    ∀ data output,
      Compressors.lz4Compress data = .ok output →
        Compressors.lz4Decompress output = .ok data
  zstd :
    ∀ data output,
      Compressors.zstdEncode data = .ok output →
        Compressors.zstdDecode output = .ok data
  apart :
    ∀ page other : Bytes,
      page.length = pageSize → other.length = pageSize →
        ∀ output,
          Compressors.lz4Compress page = .ok output →
            Compressors.zstdEncode other ≠ .ok output

section Pages

variable [Compressors]

/- Renaming errors keeps what was returned. -/
omit [Compressors] in
theorem of_mapError_ok
    {ε ε' α : Type}
    {wrap : ε → ε'}
    {result : Except ε α}
    {value : α}
    (hOk : result.mapError wrap = .ok value) :
    result = .ok value := by
  cases result with
  | ok found =>
      cases hOk
      rfl
  | error error => cases hOk

/- Every algorithm decompresses what it has compressed. -/
theorem CompressionAlgorithm.decompress_of_compress
    (hLawful : LawfulCompressors)
    {algorithm : CompressionAlgorithm}
    {data output : Bytes}
    (hCompress : algorithm.compress data = .ok output) :
    algorithm.decompress output = .ok data := by
  cases algorithm with
  | none =>
      cases hCompress
      rfl
  | lz4 =>
      unfold decompress
      rw [hLawful.lz4 data output (of_mapError_ok hCompress)]
      rfl
  | zstd =>
      unfold decompress
      rw [hLawful.zstd data output
        (of_mapError_ok hCompress)]
      rfl

variable [Sha256]

/- A page made of the bytes of a page. -/
structure IsPageOf
    (bytes : Bytes)
    (page : MemoryPage) : Prop where
  whole : bytes.length = pageSize
  algorithm : page.compression ≠ .none
  compressed :
    page.compression.compress bytes = .ok page.data
  hash : page.pageHash = sha256Hex page.data

/- Its content is the bytes it was made of. -/
theorem IsPageOf.decompress
    (hLawful : LawfulCompressors)
    {bytes : Bytes}
    {page : MemoryPage}
    (hPage : IsPageOf bytes page) :
    page.compression.decompress page.data = .ok bytes := by
  exact
    CompressionAlgorithm.decompress_of_compress hLawful
      hPage.compressed

/- Compressed bytes tell which algorithm made them. -/
theorem IsPageOf.compression_eq
    (hLawful : LawfulCompressors)
    {bytes other : Bytes}
    {page found : MemoryPage}
    (hPage : IsPageOf bytes page)
    (hFound : IsPageOf other found)
    (hData : page.data = found.data) :
    page.compression = found.compression := by
  have hOne := hPage.compressed
  have hTwo := hFound.compressed
  have hOneNot := hPage.algorithm
  have hTwoNot := hFound.algorithm
  rw [← hData] at hTwo
  cases hFirst : page.compression with
  | none => exact absurd hFirst hOneNot
  | lz4 =>
      cases hSecond : found.compression with
      | none => exact absurd hSecond hTwoNot
      | lz4 => rfl
      | zstd =>
          rw [hFirst] at hOne
          rw [hSecond] at hTwo
          exact
            absurd (of_mapError_ok hTwo)
              (hLawful.apart bytes other hPage.whole
                hFound.whole _ (of_mapError_ok hOne))
  | zstd =>
      cases hSecond : found.compression with
      | none => exact absurd hSecond hTwoNot
      | zstd => rfl
      | lz4 =>
          rw [hFirst] at hOne
          rw [hSecond] at hTwo
          exact
            absurd (of_mapError_ok hOne)
              (hLawful.apart other bytes hFound.whole
                hPage.whole _ (of_mapError_ok hTwo))

end Pages

------------------------------------------------------------
-- Pages Made and Cached
------------------------------------------------------------

namespace MemorySnapshotManager

variable [Sha256] [Compressors]

/- The algorithms of a new manager, which never change. -/
structure DefaultCompression
    (manager : MemorySnapshotManager) : Prop where
  hot : manager.hotCompression = .lz4
  warm : manager.warmCompression = .lz4
  cold : manager.coldCompression = .zstd

omit [Sha256] [Compressors] in
theorem DefaultCompression.compressionFor_ne
    {manager : MemorySnapshotManager}
    (hDefault : DefaultCompression manager)
    (temperatureMap : MemoryTemperatureMap)
    (pageOffset : Nat) :
    manager.compressionFor temperatureMap pageOffset ≠
      .none := by
  unfold compressionFor
  rw [hDefault.hot, hDefault.warm, hDefault.cold]
  split
  · decide
  · split
    · decide
    · decide

/- Every page made is a page of the image. -/
theorem makePages_isPageOf
    {manager : MemorySnapshotManager}
    (hDefault : DefaultCompression manager)
    (temperatureMap : MemoryTemperatureMap)
    (memoryData : Bytes)
    (pageOffsets : List Nat) :
    ∀ page ∈
        (makePages manager temperatureMap memoryData
          pageOffsets).1,
      ∃ bytes, IsPageOf bytes page := by
  induction pageOffsets with
  | nil =>
      intro page hPage
      cases hPage
  | cons pageOffset rest ih =>
      unfold makePages
      by_cases hFits : PageFits memoryData pageOffset
      · rw [if_pos hFits]
        dsimp only
        cases hCompress :
            (manager.compressionFor temperatureMap
              pageOffset).compress
                (pageSlice memoryData pageOffset) with
        | error error =>
            intro page hPage
            cases hPage
        | ok compressedData =>
            intro page hPage
            rcases List.mem_cons.mp hPage with rfl | hRest
            · exact
                ⟨pageSlice memoryData pageOffset,
                  pageSlice_length hFits,
                  hDefault.compressionFor_ne _ _,
                  hCompress, rfl⟩
            · exact ih page hRest
      · rw [if_neg hFits]
        exact ih

/- What the manager makes of a page of the image. -/
structure MadeBy
    (manager : MemorySnapshotManager)
    (temperatureMap : MemoryTemperatureMap)
    (memoryData : Bytes)
    (pageOffset : Nat)
    (page : MemoryPage) : Prop where
  fits : PageFits memoryData pageOffset
  algorithm :
    page.compression =
      manager.compressionFor temperatureMap pageOffset
  compressed :
    page.compression.compress
        (pageSlice memoryData pageOffset) =
      .ok page.data
  hash : page.pageHash = sha256Hex page.data

/-
  Without an error there is one page for each offset that
  lies within the image, in the same order.
-/
theorem makePages_forall₂
    (manager : MemorySnapshotManager)
    (temperatureMap : MemoryTemperatureMap)
    (memoryData : Bytes)
    {pageOffsets : List Nat}
    {pages : List MemoryPage}
    (hMade :
      makePages manager temperatureMap memoryData
          pageOffsets =
        (pages, none)) :
    List.Forall₂
      (MadeBy manager temperatureMap memoryData)
      (pageOffsets.filter (PageFits memoryData)) pages := by
  induction pageOffsets generalizing pages with
  | nil =>
      cases hMade
      exact List.Forall₂.nil
  | cons pageOffset rest ih =>
      unfold makePages at hMade
      by_cases hFits : PageFits memoryData pageOffset
      · rw [if_pos hFits] at hMade
        dsimp only at hMade
        rw [List.filter_cons_of_pos (by simpa using hFits)]
        cases hCompress :
            (manager.compressionFor temperatureMap
              pageOffset).compress
                (pageSlice memoryData pageOffset) with
        | error error =>
            rw [hCompress] at hMade
            cases hMade
        | ok compressedData =>
            rw [hCompress] at hMade
            rcases hOthers :
                makePages manager temperatureMap memoryData
                  rest with
              ⟨others, failure⟩
            rw [hOthers] at hMade
            cases hMade
            exact
              List.Forall₂.cons
                ⟨hFits, rfl, hCompress, rfl⟩
                (ih hOthers)
      · rw [if_neg hFits] at hMade
        rw [List.filter_cons_of_neg (by simpa using hFits)]
        exact ih hMade

/- With the default algorithms it is a page of the image. -/
theorem MadeBy.isPageOf
    {manager : MemorySnapshotManager}
    (hDefault : DefaultCompression manager)
    {temperatureMap : MemoryTemperatureMap}
    {memoryData : Bytes}
    {pageOffset : Nat}
    {page : MemoryPage}
    (hMade :
      MadeBy manager temperatureMap memoryData pageOffset
        page) :
    IsPageOf (pageSlice memoryData pageOffset) page where
  whole := pageSlice_length hMade.fits
  algorithm := by
    rw [hMade.algorithm]
    exact hDefault.compressionFor_ne _ _
  compressed := hMade.compressed
  hash := hMade.hash

omit [Sha256] [Compressors] in
/-
  After pages were cached, there is a page under every hash
  that had one, the old one or a new one of that hash.
-/
theorem lookup_cacheAll
    (cache : HashMap String MemoryPage)
    (pages : List MemoryPage)
    (pageHash : String) :
    (∃ page ∈ pages, page.pageHash = pageHash ∧
        (cacheAll cache pages).lookup pageHash =
          some page) ∨
      ((∀ page ∈ pages, page.pageHash ≠ pageHash) ∧
        (cacheAll cache pages).lookup pageHash =
          cache.lookup pageHash) := by
  induction pages generalizing cache with
  | nil =>
      right
      refine ⟨?_, rfl⟩
      intro page hPage
      cases hPage
  | cons first rest ih =>
      have hStep :
          cacheAll cache (first :: rest) =
            cacheAll (cache.insert first.pageHash first)
              rest := rfl
      rw [hStep]
      rcases ih (cache.insert first.pageHash first) with
        ⟨page, hPage, hHash, hLookup⟩ | ⟨hOthers, hLookup⟩
      · exact
          Or.inl
            ⟨page, List.mem_cons_of_mem _ hPage, hHash,
              hLookup⟩
      · rw [hLookup, HashMap.lookup_insert_eq_ite]
        by_cases hSame : pageHash = first.pageHash
        · left
          exact
            ⟨first, List.mem_cons_self, hSame.symm,
              if_pos hSame⟩
        · right
          rw [if_neg hSame]
          refine ⟨?_, rfl⟩
          intro page hPage
          rcases List.mem_cons.mp hPage with rfl | hRest
          · exact fun hEq => hSame hEq.symm
          · exact hOthers page hRest

end MemorySnapshotManager

------------------------------------------------------------
-- Snapshots
------------------------------------------------------------

section Snapshots

variable [Sha256] [Compressors] [BuildProfile]

namespace MemorySnapshotManager

/- The dirty pages of a region within the image. -/
def dirtyWithin
    (manager : MemorySnapshotManager)
    (regionId : String)
    (memoryData : Bytes) : List Nat :=
  match manager.regions.lookup regionId with
  | some tracker =>
      tracker.getDirtyPages.filter (PageFits memoryData)
  | none => []

/- The pages that a snapshot hashes. -/
def hashedBy
    (manager : MemorySnapshotManager)
    (regionId : String)
    (memoryData : Bytes) : List MemoryPage :=
  match manager.regions.lookup regionId with
  | none => []
  | some tracker =>
      match tracker.classifyTemperature with
      | none => []
      | some temperatureMap =>
          (makePages manager temperatureMap memoryData
            tracker.getDirtyPages).1

section Hashed

variable {manager : MemorySnapshotManager}
variable {regionId : String} {memoryData : Bytes}
variable {tracker : DirtyPageTracker}

theorem hashedBy_of_unregistered
    (hLookup : manager.regions.lookup regionId = none) :
    manager.hashedBy regionId memoryData = [] := by
  unfold hashedBy
  simp only [hLookup]

theorem hashedBy_of_panic
    (hLookup :
      manager.regions.lookup regionId = some tracker)
    (hMap : tracker.classifyTemperature = none) :
    manager.hashedBy regionId memoryData = [] := by
  unfold hashedBy
  simp only [hLookup, hMap]

theorem hashedBy_of_map
    (hLookup :
      manager.regions.lookup regionId = some tracker)
    {temperatureMap : MemoryTemperatureMap}
    (hMap :
      tracker.classifyTemperature = some temperatureMap) :
    manager.hashedBy regionId memoryData =
      (makePages manager temperatureMap memoryData
        tracker.getDirtyPages).1 := by
  unfold hashedBy
  simp only [hLookup, hMap]

end Hashed

/- A snapshot whose pages could all be made. -/
theorem snapshotDirty_of_made
    {manager : MemorySnapshotManager}
    {regionId : String}
    {memoryData : Bytes}
    {tracker : DirtyPageTracker}
    {temperatureMap : MemoryTemperatureMap}
    {pages : List MemoryPage}
    (hLookup :
      manager.regions.lookup regionId = some tracker)
    (hMap :
      tracker.classifyTemperature = some temperatureMap)
    (hMade :
      makePages manager temperatureMap memoryData
          tracker.getDirtyPages =
        (pages, none)) :
    snapshotDirty regionId memoryData manager =
      (.ok pages,
        { manager with
          regions :=
            manager.regions.insert regionId
              tracker.clearDirty
          pageCache :=
            cacheAll manager.pageCache pages }) := by
  have hPages :=
    snapshotPages_eq manager temperatureMap memoryData
      tracker.getDirtyPages
  rw [hMade] at hPages
  unfold snapshotDirty
  rw [Exec.read_bind_apply]
  simp only [hLookup]
  rw [hMap, Exec.orPanic_some, Exec.pure_bind_apply,
    Exec.bind_of_ok hPages]
  rfl

/-
  A snapshot either makes a page of each dirty page within
  the image and clears the bitmap, or returns no pages and
  changes no tracker.  It caches the pages that it hashes.
-/
theorem snapshotDirty_cases
    (regionId : String)
    (memoryData : Bytes)
    (manager : MemorySnapshotManager) :
    (∃ tracker temperatureMap pages,
        manager.regions.lookup regionId = some tracker ∧
          tracker.classifyTemperature =
            some temperatureMap ∧
          makePages manager temperatureMap memoryData
              tracker.getDirtyPages =
            (pages, none) ∧
          snapshotDirty regionId memoryData manager =
            (.ok pages,
              { manager with
                regions :=
                  manager.regions.insert regionId
                    tracker.clearDirty
                pageCache :=
                  cacheAll manager.pageCache pages })) ∨
      ((∀ pages,
          (snapshotDirty regionId memoryData manager).1 ≠
            .ok pages) ∧
        (snapshotDirty regionId memoryData manager).2 =
          { manager with
            pageCache :=
              cacheAll manager.pageCache
                (manager.hashedBy regionId memoryData) }) := by
  cases hLookup : manager.regions.lookup regionId with
  | none =>
      right
      unfold snapshotDirty
      rw [Exec.read_bind_apply]
      simp only [hLookup]
      rw [hashedBy_of_unregistered hLookup]
      exact ⟨nofun, rfl⟩
  | some tracker =>
      cases hMap : tracker.classifyTemperature with
      | none =>
          right
          unfold snapshotDirty
          rw [Exec.read_bind_apply]
          simp only [hLookup]
          rw [hashedBy_of_panic hLookup hMap, hMap]
          exact ⟨nofun, rfl⟩
      | some temperatureMap =>
          rcases hMade :
              makePages manager temperatureMap memoryData
                tracker.getDirtyPages with
            ⟨made, failure⟩
          cases failure with
          | none =>
              left
              exact
                ⟨tracker, temperatureMap, made, rfl, hMap,
                  hMade,
                  snapshotDirty_of_made hLookup hMap hMade⟩
          | some error =>
              right
              have hPages :=
                snapshotPages_eq manager temperatureMap
                  memoryData tracker.getDirtyPages
              rw [hMade] at hPages
              unfold snapshotDirty
              rw [Exec.read_bind_apply]
              simp only [hLookup]
              rw [hashedBy_of_map hLookup hMap, hMap,
                Exec.orPanic_some, Exec.pure_bind_apply,
                Exec.bind_of_err hPages, hMade]
              exact ⟨nofun, rfl⟩

/-
  A snapshot caches the pages that it hashes and changes no
  algorithm; the pages it returns are all of these.
-/
theorem snapshotDirty_spec
    (regionId : String)
    (memoryData : Bytes)
    (manager : MemorySnapshotManager) :
    (∃ regions,
        (snapshotDirty regionId memoryData manager).2 =
          { manager with
            regions := regions
            pageCache :=
              cacheAll manager.pageCache
                (manager.hashedBy regionId memoryData) }) ∧
      ∀ pages,
        (snapshotDirty regionId memoryData manager).1 =
            .ok pages →
          pages = manager.hashedBy regionId memoryData ∧
            ∃ tracker temperatureMap,
              manager.regions.lookup regionId =
                  some tracker ∧
                makePages manager temperatureMap memoryData
                    tracker.getDirtyPages =
                  (pages, none) := by
  rcases snapshotDirty_cases regionId memoryData manager with
    ⟨tracker, temperatureMap, made, hLookup, hMap, hMade,
      hResult⟩ | ⟨hFailed, hAfter⟩
  · rw [hResult, hashedBy_of_map hLookup hMap, hMade]
    refine ⟨⟨_, rfl⟩, ?_⟩
    intro pages hOk
    cases hOk
    exact ⟨rfl, tracker, temperatureMap, hLookup, hMade⟩
  · refine ⟨⟨manager.regions, hAfter⟩, ?_⟩
    intro pages hOk
    exact absurd hOk (hFailed pages)

/- Every page that a snapshot hashes is one of the image. -/
theorem hashedBy_isPageOf
    {manager : MemorySnapshotManager}
    (hDefault : DefaultCompression manager)
    (regionId : String)
    (memoryData : Bytes) :
    ∀ page ∈ manager.hashedBy regionId memoryData,
      ∃ bytes, IsPageOf bytes page := by
  intro page hPage
  cases hLookup : manager.regions.lookup regionId with
  | none =>
      rw [hashedBy_of_unregistered hLookup] at hPage
      cases hPage
  | some tracker =>
      cases hMap : tracker.classifyTemperature with
      | none =>
          rw [hashedBy_of_panic hLookup hMap] at hPage
          cases hPage
      | some temperatureMap =>
          rw [hashedBy_of_map hLookup hMap] at hPage
          exact
            makePages_isPageOf hDefault temperatureMap
              memoryData _ page hPage

/- The pages returned are those of the dirty offsets. -/
theorem snapshotDirty_forall₂
    {manager : MemorySnapshotManager}
    (hDefault : DefaultCompression manager)
    {regionId : String}
    {memoryData : Bytes}
    {pages : List MemoryPage}
    (hOk :
      (snapshotDirty regionId memoryData manager).1 =
        .ok pages) :
    List.Forall₂
      (fun pageOffset page =>
        IsPageOf (pageSlice memoryData pageOffset) page)
      (manager.dirtyWithin regionId memoryData) pages := by
  rcases (snapshotDirty_spec regionId memoryData
      manager).2 pages hOk with
    ⟨_, tracker, temperatureMap, hLookup, hMade⟩
  unfold dirtyWithin
  simp only [hLookup]
  exact
    (makePages_forall₂ manager temperatureMap memoryData
      hMade).imp fun _ _ hPage => hPage.isPageOf hDefault

end MemorySnapshotManager

end Snapshots

------------------------------------------------------------
-- A Sample Image
------------------------------------------------------------

namespace SnapshotSample

/- Pages of equal bytes, and what LZ4 makes of one of them. -/
def image
    (count : Nat) : Bytes :=
  List.replicate (count * pageSize) 0xAB

def page : Bytes :=
  image 1

def packed : Bytes :=
  [0x00, 0x10, 0x00, 0x00, 0x1F, 0xAB, 0x01, 0x00] ++
    List.replicate 15 0xFF ++ [0xF6, 0x50] ++
    List.replicate 5 0xAB

scoped instance : BuildProfile :=
  ⟨true⟩

scoped instance : Sha256 where
  digest data :=
    digestOf <|
      if data = packed then
        0x1f7d4127b42d5ef275177bb1856b56ada5ee8cf321c26129954eb6a54dfaf7fb
      else
        0xe3b0c44298fc1c149afbf4c8996fb92427ae41e4649b934ca495991b7852b855

scoped instance : Compressors where
  lz4Compress data :=
    if data = page then
      .ok packed
    else
      .error "not in the sample"
  lz4Decompress data :=
    if data = packed then
      .ok page
    else
      .error "not in the sample"
  zstdEncode _ := .error "not in the sample"
  zstdDecode _ := .error "not in the sample"

theorem lawfulCompressors : LawfulCompressors where
  lz4 := by
    intro data output hCompress
    change (if data = page then _ else _) = _ at hCompress
    by_cases hData : data = page
    · rw [if_pos hData] at hCompress
      cases hCompress
      change (if packed = packed then _ else _) = _
      rw [if_pos rfl, hData]
    · rw [if_neg hData] at hCompress
      cases hCompress
  zstd := by
    intro data output hEncode
    cases hEncode
  apart := by
    intro one other _ _ output _ hEncode
    cases hEncode

/- Only one page can be made. -/
theorem data_eq_packed
    {bytes : Bytes}
    {made : MemoryPage}
    (hPage : IsPageOf bytes made) :
    made.data = packed := by
  have hNotNone := hPage.algorithm
  have hCompress := hPage.compressed
  cases hAlgorithm : made.compression with
  | none => exact absurd hAlgorithm hNotNone
  | lz4 =>
      rw [hAlgorithm] at hCompress
      have hOk := of_mapError_ok hCompress
      change (if bytes = page then _ else _) = _ at hOk
      by_cases hBytes : bytes = page
      · rw [if_pos hBytes] at hOk
        exact (Except.ok.inj hOk).symm
      · rw [if_neg hBytes] at hOk
        cases hOk
  | zstd =>
      rw [hAlgorithm] at hCompress
      cases hCompress

theorem image_length
    (count : Nat) :
    (image count).length = count * pageSize :=
  List.length_replicate

theorem image_fits
    {count pageOffset : Nat}
    (hInside : pageOffset < count) :
    PageFits (image count) pageOffset := by
  unfold PageFits
  rw [image_length, ← Nat.succ_mul]
  exact Nat.mul_le_mul_right pageSize hInside

theorem pageSlice_image
    {count pageOffset : Nat}
    (hInside : pageOffset < count) :
    pageSlice (image count) pageOffset = page := by
  have hFits := image_fits hInside
  unfold PageFits at hFits
  rw [image_length] at hFits
  unfold pageSlice page image
  rw [List.drop_replicate, List.take_replicate]
  congr 1
  omega

theorem compress_page :
    CompressionAlgorithm.lz4.compress page = .ok packed := by
  unfold CompressionAlgorithm.compress
  change Except.mapError _ (if page = page then _ else _) = _
  rw [if_pos rfl]
  rfl

/- Each page is made with LZ4 where that is the algorithm. -/
theorem makePages_image
    {manager : MemorySnapshotManager}
    {temperatureMap : MemoryTemperatureMap}
    {count : Nat}
    {pageOffsets : List Nat}
    (hInside : ∀ pageOffset ∈ pageOffsets,
      pageOffset < count)
    (hCompression : ∀ pageOffset ∈ pageOffsets,
      manager.compressionFor temperatureMap pageOffset =
        .lz4) :
    manager.makePages temperatureMap (image count)
        pageOffsets =
      (pageOffsets.map fun _ =>
          MemorySnapshotManager.pageOf .lz4 packed,
        none) := by
  induction pageOffsets with
  | nil => rfl
  | cons pageOffset rest ih =>
      have hFirst := hInside pageOffset List.mem_cons_self
      have hAlgorithm :=
        hCompression pageOffset List.mem_cons_self
      have hCompress :
          (manager.compressionFor temperatureMap
              pageOffset).compress
              (pageSlice (image count) pageOffset) =
            .ok packed := by
        rw [hAlgorithm, pageSlice_image hFirst, compress_page]
      have hRest :=
        ih
          (fun other hOther =>
            hInside other (List.mem_cons_of_mem _ hOther))
          (fun other hOther =>
            hCompression other
              (List.mem_cons_of_mem _ hOther))
      rw [MemorySnapshotManager.makePages_cons
        (image_fits hFirst) hCompress, hAlgorithm, hRest]
      rfl

/- A snapshot of warm pages of the image. -/
theorem snapshotDirty_image
    {manager : MemorySnapshotManager}
    {regionId : String}
    {tracker : DirtyPageTracker}
    {temperatureMap : MemoryTemperatureMap}
    {count : Nat}
    (hLookup :
      manager.regions.lookup regionId = some tracker)
    (hMap :
      tracker.classifyTemperature = some temperatureMap)
    (hInside : ∀ pageOffset ∈ tracker.getDirtyPages,
      pageOffset < count)
    (hCompression : ∀ pageOffset ∈ tracker.getDirtyPages,
      manager.compressionFor temperatureMap pageOffset =
        .lz4) :
    (MemorySnapshotManager.snapshotDirty regionId
        (image count) manager).1 =
      .ok
        (tracker.getDirtyPages.map fun _ =>
          MemorySnapshotManager.pageOf .lz4 packed) := by
  rw [MemorySnapshotManager.snapshotDirty_of_made hLookup
    hMap (makePages_image hInside hCompression)]

end SnapshotSample

end IsaWorkspace
