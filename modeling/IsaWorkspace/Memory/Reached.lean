import IsaWorkspace.Memory.Fidelity
import IsaWorkspace.Memory.Temperature

/-
  Managers that calls lead to.

  A call replaces the tracker of one region by a new one, or
  changes it in one way; a snapshot that fails changes no
  tracker.  What every such change of a tracker keeps, holds
  of all trackers of a manager after any calls.

  Main declarations:
    * `MemorySnapshotManager.apply`, `reached`
    * `MemorySnapshotManager.lookup_onRegion`
    * `MemorySnapshotManager.lookup_snapshotDirty_ok`
    * `MemorySnapshotManager.forall_tracker_apply`
    * `DirtyPageTracker.Sized`
    * `MemorySnapshotManager.WellKept`, `wellKept_reached`
    * `MemorySnapshotManager.returnedPages`
    * `MemorySnapshotManager.snapshotDirty_ok_iff`
-/

------------------------------------------------------------
-- Calls
------------------------------------------------------------

namespace IsaWorkspace

namespace MemorySnapshotManager

variable {manager : MemorySnapshotManager}
variable {regionId : String} {memoryData : Bytes}

/- A call on a region changes the tracker of no other. -/
theorem lookup_onRegion
    (manager : MemorySnapshotManager)
    (regionId other : String)
    (change : DirtyPageTracker → DirtyPageTracker) :
    (manager.onRegion regionId change).regions.lookup other =
      if other = regionId then
        (manager.regions.lookup regionId).map change
      else
        manager.regions.lookup other := by
  unfold onRegion
  cases hLookup : manager.regions.lookup regionId with
  | none =>
      by_cases hOther : other = regionId
      · rw [if_pos hOther, hOther]
        exact hLookup
      · rw [if_neg hOther]
  | some tracker =>
      dsimp only
      rw [HashMap.lookup_insert_eq_ite]
      rfl

variable [Sha256] [Compressors] [BuildProfile]

/- The manager after a call, whatever that returns. -/
def apply
    (manager : MemorySnapshotManager) :
    SnapshotOp → MemorySnapshotManager
| .registerRegion regionId baseAddr size =>
    manager.registerRegion regionId baseAddr size
| .markPageDirty regionId pageOffset =>
    manager.markPageDirty regionId pageOffset
| .recordPageAccess regionId pageOffset =>
    manager.recordPageAccess regionId pageOffset
| .snapshotDirty regionId memoryData =>
    (snapshotDirty regionId memoryData manager).2

/- A new manager after some calls. -/
def reached
    (ops : List SnapshotOp) : MemorySnapshotManager :=
  Runs.run apply new ops

theorem reached_concat
    (ops : List SnapshotOp)
    (op : SnapshotOp) :
    reached (ops ++ [op]) = (reached ops).apply op :=
  Runs.run_concat new ops op

/- A snapshot that succeeds clears one bitmap. -/
theorem lookup_snapshotDirty_ok
    {pages : List MemoryPage}
    (hOk :
      (snapshotDirty regionId memoryData manager).1 =
        .ok pages)
    (other : String) :
    (snapshotDirty regionId memoryData
        manager).2.regions.lookup other =
      if other = regionId then
        (manager.regions.lookup regionId).map
          DirtyPageTracker.clearDirty
      else
        manager.regions.lookup other := by
  rcases snapshotDirty_cases regionId memoryData manager with
    ⟨tracker, _, _, hLookup, _, _, hResult⟩ | ⟨hFailed, _⟩
  · rw [hResult, hLookup]
    exact HashMap.lookup_insert_eq_ite _ _ _ _
  · exact absurd hOk (hFailed pages)

theorem lookup_apply_snapshotDirty
    {tracker : DirtyPageTracker}
    (hLookup :
      manager.regions.lookup regionId = some tracker)
    {pages : List MemoryPage}
    (hOk :
      (snapshotDirty regionId memoryData manager).1 =
        .ok pages) :
    (manager.apply
        (.snapshotDirty regionId memoryData)).regions.lookup
        regionId =
      some tracker.clearDirty := by
  unfold apply
  rw [lookup_snapshotDirty_ok hOk, if_pos rfl, hLookup]
  rfl

/- A snapshot that fails changes no tracker. -/
theorem regions_snapshotDirty_failed
    (hFailed :
      ∀ pages,
        (snapshotDirty regionId memoryData manager).1 ≠
          .ok pages) :
    (snapshotDirty regionId memoryData manager).2.regions =
      manager.regions := by
  rcases snapshotDirty_cases regionId memoryData manager with
    ⟨_, _, pages, _, _, _, hResult⟩ | ⟨_, hAfter⟩
  · refine absurd ?_ (hFailed pages)
    rw [hResult]
  · rw [hAfter]

------------------------------------------------------------
-- Trackers after Calls
------------------------------------------------------------

/- What is kept on one region is kept on all. -/
omit [Sha256] [Compressors] [BuildProfile] in
theorem forall_tracker_onRegion
    {P : DirtyPageTracker → Prop}
    {change : DirtyPageTracker → DirtyPageTracker}
    (hChange : ∀ tracker, P tracker → P (change tracker))
    (hAll :
      ∀ other tracker,
        manager.regions.lookup other = some tracker →
          P tracker) :
    ∀ other tracker,
      (manager.onRegion regionId change).regions.lookup
          other =
          some tracker →
        P tracker := by
  intro other tracker hLookup
  rw [lookup_onRegion] at hLookup
  split at hLookup
  · rcases Option.map_eq_some_iff.mp hLookup with
      ⟨earlier, hEarlier, rfl⟩
    exact hChange earlier (hAll regionId earlier hEarlier)
  · exact hAll other tracker hLookup

/- What every change keeps, a call keeps of all trackers. -/
theorem forall_tracker_apply
    {P : DirtyPageTracker → Prop}
    (hNew :
      ∀ baseAddr totalSize,
        P (DirtyPageTracker.new baseAddr totalSize))
    (hMark :
      ∀ tracker pageOffset,
        P tracker → P (tracker.markDirty pageOffset))
    (hAccess :
      ∀ tracker pageOffset,
        P tracker → P (tracker.recordAccess pageOffset))
    (hClear : ∀ tracker, P tracker → P tracker.clearDirty)
    (manager : MemorySnapshotManager)
    (op : SnapshotOp)
    (hAll :
      ∀ other tracker,
        manager.regions.lookup other = some tracker →
          P tracker) :
    ∀ other tracker,
      (manager.apply op).regions.lookup other =
          some tracker →
        P tracker := by
  cases op with
  | registerRegion regionId baseAddr size =>
      intro other tracker hLookup
      have hInsert :
          (if other = regionId then
              some (DirtyPageTracker.new baseAddr size)
            else
              manager.regions.lookup other) =
            some tracker :=
        (HashMap.lookup_insert_eq_ite _ _ _ _).symm.trans
          hLookup
      split at hInsert
      · cases hInsert
        exact hNew baseAddr size
      · exact hAll other tracker hInsert
  | markPageDirty regionId pageOffset =>
      exact
        forall_tracker_onRegion
          (fun tracker => hMark tracker pageOffset) hAll
  | recordPageAccess regionId pageOffset =>
      exact
        forall_tracker_onRegion
          (fun tracker => hAccess tracker pageOffset) hAll
  | snapshotDirty regionId memoryData =>
      intro other tracker hLookup
      change
        (snapshotDirty regionId memoryData
            manager).2.regions.lookup other = some tracker
          at hLookup
      rcases snapshotDirty_cases regionId memoryData
          manager with
        ⟨_, _, pages, _, _, _, hResult⟩ | ⟨hFailed, _⟩
      · have hOk :
            (snapshotDirty regionId memoryData manager).1 =
              .ok pages := by
          rw [hResult]
        rw [lookup_snapshotDirty_ok hOk] at hLookup
        split at hLookup
        · rcases Option.map_eq_some_iff.mp hLookup with
            ⟨earlier, hEarlier, rfl⟩
          exact
            hClear earlier (hAll regionId earlier hEarlier)
        · exact hAll other tracker hLookup
      · rw [regions_snapshotDirty_failed hFailed] at hLookup
        exact hAll other tracker hLookup

end MemorySnapshotManager

------------------------------------------------------------
-- Sizes
------------------------------------------------------------

namespace DirtyPageTracker

/- A bit and a counter for each whole page of the region. -/
structure Sized
    (tracker : DirtyPageTracker) : Prop where
  bitmap :
    tracker.dirtyBitmap.length = tracker.totalSize / pageSize
  counts :
    tracker.accessCounts.length = tracker.totalSize / pageSize

variable {tracker : DirtyPageTracker}

theorem sized_new
    (baseAddr : UInt64)
    (totalSize : Nat) :
    (new baseAddr totalSize).Sized where
  bitmap := List.length_replicate
  counts := List.length_replicate

theorem Sized.markDirty
    (hSized : tracker.Sized)
    (pageOffset : Nat) :
    (tracker.markDirty pageOffset).Sized := by
  unfold DirtyPageTracker.markDirty
  split
  · exact
      ⟨List.length_set.trans hSized.bitmap, hSized.counts⟩
  · exact hSized

theorem Sized.recordAccess
    (hSized : tracker.Sized)
    (pageOffset : Nat) :
    (tracker.recordAccess pageOffset).Sized := by
  unfold DirtyPageTracker.recordAccess
  split
  · exact
      ⟨hSized.bitmap, List.length_set.trans hSized.counts⟩
  · exact hSized

theorem Sized.clearDirty
    (hSized : tracker.Sized) :
    tracker.clearDirty.Sized where
  bitmap := (List.length_map _).trans hSized.bitmap
  counts := hSized.counts

end DirtyPageTracker

------------------------------------------------------------
-- What All Calls Keep
------------------------------------------------------------

namespace MemorySnapshotManager

variable [Sha256] [Compressors]

/-
  The algorithms are those of a new manager, trackers are as
  long as their regions, and pages are cached under digests.
-/
structure WellKept
    (manager : MemorySnapshotManager) : Prop where
  default : DefaultCompression manager
  sized :
    ∀ regionId tracker,
      manager.regions.lookup regionId = some tracker →
        tracker.Sized
  cached :
    ∀ pageHash page,
      manager.pageCache.lookup pageHash = some page →
        ∃ data, pageHash = sha256Hex data

omit [Compressors] in
theorem wellKept_new :
    WellKept new where
  default := ⟨rfl, rfl, rfl⟩
  sized := by
    intro regionId tracker hLookup
    cases hLookup
  cached := by
    intro pageHash page hLookup
    cases hLookup

variable [BuildProfile]

/- A call changes trackers, and caches pages it hashes. -/
theorem apply_frame
    {manager : MemorySnapshotManager}
    (hDefault : DefaultCompression manager)
    (op : SnapshotOp) :
    ∃ regions pages,
      manager.apply op =
          { manager with
            regions := regions
            pageCache := cacheAll manager.pageCache pages } ∧
        ∀ page ∈ pages, ∃ data,
          page.pageHash = sha256Hex data := by
  cases op with
  | registerRegion regionId baseAddr size =>
      exact ⟨_, [], rfl, fun _ hPage => nomatch hPage⟩
  | markPageDirty regionId pageOffset =>
      rcases SnapshotHistory.onRegion_eq manager regionId
          (·.markDirty pageOffset) with
        ⟨regions, hManager⟩
      exact
        ⟨regions, [], hManager, fun _ hPage => nomatch hPage⟩
  | recordPageAccess regionId pageOffset =>
      rcases SnapshotHistory.onRegion_eq manager regionId
          (·.recordAccess pageOffset) with
        ⟨regions, hManager⟩
      exact
        ⟨regions, [], hManager, fun _ hPage => nomatch hPage⟩
  | snapshotDirty regionId memoryData =>
      rcases (snapshotDirty_spec regionId memoryData
          manager).1 with
        ⟨regions, hManager⟩
      refine ⟨regions, _, hManager, ?_⟩
      intro page hPage
      rcases hashedBy_isPageOf hDefault regionId memoryData
          page hPage with
        ⟨_, hPageOf⟩
      exact ⟨page.data, hPageOf.hash⟩

/- Every call keeps trackers as long as their regions. -/
theorem sized_apply
    (manager : MemorySnapshotManager)
    (op : SnapshotOp)
    (hSized :
      ∀ regionId tracker,
        manager.regions.lookup regionId = some tracker →
          tracker.Sized) :
    ∀ regionId tracker,
      (manager.apply op).regions.lookup regionId =
          some tracker →
        tracker.Sized :=
  forall_tracker_apply DirtyPageTracker.sized_new
    (fun _ pageOffset hSized => hSized.markDirty pageOffset)
    (fun _ pageOffset hSized =>
      hSized.recordAccess pageOffset)
    (fun _ hSized => hSized.clearDirty)
    manager op hSized

/- Every call keeps a manager well. -/
theorem WellKept.apply
    {manager : MemorySnapshotManager}
    (hKept : manager.WellKept)
    (op : SnapshotOp) :
    (manager.apply op).WellKept := by
  have hSized := sized_apply manager op hKept.sized
  rcases apply_frame hKept.default op with
    ⟨regions, pages, hAfter, hHashes⟩
  rw [hAfter] at hSized ⊢
  refine
    ⟨⟨hKept.default.hot, hKept.default.warm,
      hKept.default.cold⟩, hSized, ?_⟩
  intro pageHash page hLookup
  rcases lookup_cacheAll manager.pageCache pages pageHash with
    ⟨found, hFound, hHash, _⟩ | ⟨_, hEarlier⟩
  · rw [← hHash]
    exact hHashes found hFound
  · exact hKept.cached pageHash page (hEarlier ▸ hLookup)

/- A manager that calls lead to is well kept. -/
theorem wellKept_reached
    (ops : List SnapshotOp) :
    (reached ops).WellKept := by
  have hStep :
      ∀ (manager : MemorySnapshotManager) op,
        manager.WellKept → (manager.apply op).WellKept :=
    fun _ op hKept => hKept.apply op
  exact Runs.run_of_invariant hStep ops wellKept_new

------------------------------------------------------------
-- What a Snapshot Returns
------------------------------------------------------------

/- Each offset whose page is returned, with that page. -/
def returnedPages
    (manager : MemorySnapshotManager)
    (regionId : String)
    (memoryData : Bytes) : List (Nat × MemoryPage) :=
  match (snapshotDirty regionId memoryData manager).1 with
  | .ok pages =>
      (manager.dirtyWithin regionId memoryData).zip pages
  | _ => []

variable {manager : MemorySnapshotManager}
variable {regionId : String} {memoryData : Bytes}

theorem returnedPages_failed
    (hFailed :
      ∀ pages,
        (snapshotDirty regionId memoryData manager).1 ≠
          .ok pages) :
    manager.returnedPages regionId memoryData = [] := by
  unfold returnedPages
  split
  · next pages hOk => exact absurd hOk (hFailed pages)
  · rfl

theorem returnedPages_ok
    {pages : List MemoryPage}
    (hOk :
      (snapshotDirty regionId memoryData manager).1 =
        .ok pages) :
    manager.returnedPages regionId memoryData =
      (manager.dirtyWithin regionId memoryData).zip
        pages := by
  unfold returnedPages
  rw [hOk]

omit [Sha256] [Compressors] [BuildProfile] in
theorem dirtyWithin_of_lookup
    {tracker : DirtyPageTracker}
    (hLookup :
      manager.regions.lookup regionId = some tracker) :
    manager.dirtyWithin regionId memoryData =
      tracker.getDirtyPages.filter (PageFits memoryData) := by
  unfold dirtyWithin
  rw [hLookup]

/- Each page returned is made of the bytes at its offset. -/
theorem madeBy_of_mem_returnedPages
    {entry : Nat × MemoryPage}
    (hEntry :
      entry ∈ manager.returnedPages regionId memoryData) :
    ∃ tracker temperatureMap,
      manager.regions.lookup regionId = some tracker ∧
        tracker.classifyTemperature =
            some temperatureMap ∧
          entry.1 ∈ tracker.getDirtyPages ∧
            MadeBy manager temperatureMap memoryData entry.1
              entry.2 := by
  rcases snapshotDirty_cases regionId memoryData manager with
    ⟨tracker, temperatureMap, pages, hLookup, hMap, hMade,
      hResult⟩ | ⟨hFailed, _⟩
  · have hOk :
        (snapshotDirty regionId memoryData manager).1 =
          .ok pages := by
      rw [hResult]
    rw [returnedPages_ok hOk, dirtyWithin_of_lookup hLookup]
      at hEntry
    refine ⟨tracker, temperatureMap, hLookup, hMap, ?_, ?_⟩
    · exact
        List.mem_of_mem_filter (List.of_mem_zip hEntry).1
    · exact
        List.forall₂_zip
          (makePages_forall₂ manager temperatureMap
            memoryData hMade)
          hEntry
  · rw [returnedPages_failed hFailed] at hEntry
    cases hEntry

/- A snapshot that succeeds returns all pages that fit. -/
theorem map_fst_returnedPages
    {pages : List MemoryPage}
    (hOk :
      (snapshotDirty regionId memoryData manager).1 =
        .ok pages) :
    (manager.returnedPages regionId memoryData).map (·.1) =
      manager.dirtyWithin regionId memoryData := by
  rcases (snapshotDirty_spec regionId memoryData
      manager).2 pages hOk with
    ⟨_, tracker, temperatureMap, hLookup, hMade⟩
  have hLength :=
    (makePages_forall₂ manager temperatureMap memoryData
      hMade).length_eq
  rw [returnedPages_ok hOk, dirtyWithin_of_lookup hLookup]
  exact List.map_fst_zip (Nat.le_of_eq hLength)

omit [BuildProfile] in
/- The loop ends without an error if no page has one. -/
theorem makePages_none_iff
    (manager : MemorySnapshotManager)
    (temperatureMap : MemoryTemperatureMap)
    (memoryData : Bytes)
    (pageOffsets : List Nat) :
    (∃ pages,
        makePages manager temperatureMap memoryData
            pageOffsets =
          (pages, none)) ↔
      ∀ pageOffset ∈ pageOffsets,
        PageFits memoryData pageOffset →
          ∃ output,
            (manager.compressionFor temperatureMap
                pageOffset).compress
                (pageSlice memoryData pageOffset) =
              .ok output := by
  induction pageOffsets with
  | nil =>
      exact
        iff_of_true ⟨[], rfl⟩ fun _ hPage => nomatch hPage
  | cons pageOffset rest ih =>
      unfold makePages
      rw [List.forall_mem_cons, ← ih]
      by_cases hFits : PageFits memoryData pageOffset
      · rw [if_pos hFits]
        dsimp only
        cases hCompress :
            (manager.compressionFor temperatureMap
              pageOffset).compress
                (pageSlice memoryData pageOffset) with
        | error error =>
            refine iff_of_false ?_ ?_
            · rintro ⟨pages, hMade⟩
              cases hMade
            · rintro ⟨hFirst, _⟩
              rcases hFirst hFits with ⟨output, hOutput⟩
              cases hOutput
        | ok output =>
            constructor
            · rintro ⟨pages, hMade⟩
              have hNone :
                  (makePages manager temperatureMap memoryData
                    rest).2 =
                    none :=
                (Prod.mk.inj hMade).2
              exact
                ⟨fun _ => ⟨output, rfl⟩, _,
                  Prod.ext rfl hNone⟩
            · rintro ⟨_, others, hOthers⟩
              rw [hOthers]
              exact ⟨_, rfl⟩
      · rw [if_neg hFits]
        exact
          (and_iff_right fun hInside =>
            absurd hInside hFits).symm

/-
  A snapshot succeeds when its region can be classified and
  every dirty page within the image can be compressed.
-/
theorem snapshotDirty_ok_iff
    {tracker : DirtyPageTracker}
    (hLookup :
      manager.regions.lookup regionId = some tracker) :
    (∃ pages,
        (snapshotDirty regionId memoryData manager).1 =
          .ok pages) ↔
      ∃ temperatureMap,
        tracker.classifyTemperature =
            some temperatureMap ∧
          ∀ pageOffset ∈ tracker.getDirtyPages,
            PageFits memoryData pageOffset →
              ∃ output,
                (manager.compressionFor temperatureMap
                    pageOffset).compress
                    (pageSlice memoryData pageOffset) =
                  .ok output := by
  constructor
  · rintro ⟨pages, hOk⟩
    rcases snapshotDirty_cases regionId memoryData
        manager with
      ⟨_, temperatureMap, made, hThere, hMap, hMade, _⟩ |
        ⟨hFailed, _⟩
    · rw [hLookup] at hThere
      cases hThere
      exact
        ⟨temperatureMap, hMap,
          (makePages_none_iff _ _ _ _).mp ⟨made, hMade⟩⟩
    · exact absurd hOk (hFailed pages)
  · rintro ⟨temperatureMap, hMap, hAll⟩
    rcases (makePages_none_iff _ _ _ _).mpr hAll with
      ⟨pages, hMade⟩
    exact
      ⟨pages,
        congrArg Prod.fst
          (snapshotDirty_of_made hLookup hMap hMade)⟩

------------------------------------------------------------
-- Accesses
------------------------------------------------------------

/- A region after some accesses and nothing else. -/
theorem lookup_reached_accesses
    (regionId : String)
    (baseAddr : UInt64)
    (size : Nat)
    (accesses : List Nat) :
    (reached
        (.registerRegion regionId baseAddr size ::
          accesses.map
            (.recordPageAccess regionId))).regions.lookup
        regionId =
      some
        (DirtyPageTracker.accessed baseAddr size accesses) := by
  have hStart :
      (new.registerRegion regionId baseAddr
          size).regions.lookup regionId =
        some (DirtyPageTracker.new baseAddr size) :=
    Finmap.lookup_insert _
  unfold reached DirtyPageTracker.accessed
  rw [Runs.run_cons]
  change
    (Runs.run apply (new.registerRegion regionId baseAddr size)
      _).regions.lookup regionId = _
  generalize
    new.registerRegion regionId baseAddr size = manager
    at hStart ⊢
  generalize
    DirtyPageTracker.new baseAddr size = tracker
    at hStart ⊢
  induction accesses generalizing manager tracker with
  | nil => exact hStart
  | cons pageOffset rest ih =>
      rw [List.map_cons, Runs.run_cons, Runs.run_cons]
      apply ih
      change
        (manager.onRegion regionId _).regions.lookup
          regionId = _
      rw [lookup_onRegion, if_pos rfl, hStart]
      rfl

end MemorySnapshotManager

end IsaWorkspace
