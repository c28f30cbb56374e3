import IsaWorkspace.Memory.Reached

/-
  Pages that a snapshot loses.

  A page that was marked is owed until a snapshot of its
  region returns it.  Marks of the incomplete last page are
  not taken, and a snapshot clears the whole bitmap, also
  where it passed over a page beyond the end of the image.

  Main declarations:
    * `DirtyHistory`, `DirtyHistory.step`
    * `DirtyHistory.NoneLost`, `DirtyHistory.InDomain`
    * `DirtyHistory.KeepsPages`
    * `DirtyHistory.noneLost_step_iff`
    * `DirtyHistory.noneLost_iff`
-/

------------------------------------------------------------
-- Changes of the Bitmap
------------------------------------------------------------

namespace IsaWorkspace

namespace DirtyPageTracker

variable {tracker : DirtyPageTracker} {pageOffset : Nat}

theorem getDirtyPages_new
    (baseAddr : UInt64)
    (totalSize : Nat) :
    (new baseAddr totalSize).getDirtyPages = [] := by
  apply List.eq_nil_iff_forall_not_mem.mpr
  intro pageOffset hPage
  have hBit :
      (List.replicate (totalSize / pageSize)
          false)[pageOffset]? =
        some true :=
    mem_getDirtyPages.mp hPage
  rw [List.getElem?_replicate] at hBit
  split at hBit
  · cases hBit
  · cases hBit

theorem getDirtyPages_clearDirty
    (tracker : DirtyPageTracker) :
    tracker.clearDirty.getDirtyPages = [] := by
  apply List.eq_nil_iff_forall_not_mem.mpr
  intro pageOffset hPage
  have hBit := mem_getDirtyPages.mp hPage
  unfold clearDirty at hBit
  rw [List.getElem?_map] at hBit
  rcases Option.map_eq_some_iff.mp hBit with ⟨_, _, hTrue⟩
  cases hTrue

theorem getDirtyPages_recordAccess
    (tracker : DirtyPageTracker)
    (accessed : Nat) :
    (tracker.recordAccess accessed).getDirtyPages =
      tracker.getDirtyPages := by
  unfold recordAccess
  split
  · rfl
  · rfl

/- Only pages that have a bit can be marked. -/
theorem mem_getDirtyPages_markDirty
    {marked : Nat} :
    pageOffset ∈ (tracker.markDirty marked).getDirtyPages ↔
      pageOffset ∈ tracker.getDirtyPages ∨
        pageOffset = marked ∧
          marked < tracker.dirtyBitmap.length := by
  rw [mem_getDirtyPages, mem_getDirtyPages]
  unfold markDirty
  by_cases hInside : marked < tracker.dirtyBitmap.length
  · rw [if_pos hInside, List.getElem?_set]
    by_cases hSame : marked = pageOffset
    · rw [if_pos hSame, if_pos hInside]
      exact iff_of_true rfl (Or.inr ⟨hSame.symm, hInside⟩)
    · rw [if_neg hSame]
      constructor
      · exact Or.inl
      · rintro (hDirty | ⟨hOther, _⟩)
        · exact hDirty
        · exact absurd hOther.symm hSame
  · rw [if_neg hInside]
    constructor
    · exact Or.inl
    · rintro (hDirty | ⟨_, hBit⟩)
      · exact hDirty
      · exact absurd hBit hInside

end DirtyPageTracker

------------------------------------------------------------
-- Pages Owed
------------------------------------------------------------

/- A manager, and the pages marked and not returned since. -/
structure DirtyHistory where
  manager : MemorySnapshotManager
  pending : List (String × Nat)

/- The pages of a region that are marked dirty. -/
def MemorySnapshotManager.dirtyPages
    (manager : MemorySnapshotManager)
    (regionId : String) : List Nat :=
  match manager.regions.lookup regionId with
  | some tracker => tracker.getDirtyPages
  | none => []

namespace DirtyHistory

open MemorySnapshotManager

/- A new manager, which owes nothing. -/
def new : DirtyHistory :=
  ⟨MemorySnapshotManager.new, []⟩

/- Every page owed is still marked dirty. -/
def NoneLost
    (history : DirtyHistory) : Prop :=
  ∀ entry ∈ history.pending,
    entry.2 ∈ history.manager.dirtyPages entry.1

/-
  Each region is registered once, and marks are of pages
  that overlap the registered bytes.
-/
def InDomain
    (history : DirtyHistory) : SnapshotOp → Prop
| .registerRegion regionId _ _ =>
    history.manager.regions.lookup regionId = none
| .markPageDirty regionId pageOffset =>
    ∃ tracker,
      history.manager.regions.lookup regionId =
          some tracker ∧
        pageOffset * pageSize < tracker.totalSize
| .recordPageAccess _ _ => True
| .snapshotDirty _ _ => True

variable [Sha256] [Compressors] [BuildProfile]

/- What is owed after a call. -/
def pendingAfter
    (history : DirtyHistory) :
    SnapshotOp → List (String × Nat)
| .markPageDirty regionId pageOffset =>
    (regionId, pageOffset) :: history.pending
| .snapshotDirty regionId memoryData =>
    history.pending.filter fun entry =>
      ¬ (entry.1 = regionId ∧
        entry.2 ∈
          (history.manager.returnedPages regionId
            memoryData).map (·.1))
| .registerRegion _ _ _ => history.pending
| .recordPageAccess _ _ => history.pending

/- Make a call and take note of what is owed. -/
def step
    (history : DirtyHistory)
    (op : SnapshotOp) : DirtyHistory where
  manager := history.manager.apply op
  pending := history.pendingAfter op

/-
  The snapshot of a region fails: its classification panics,
  or a dirty page within the image cannot be compressed.
-/
def SnapshotFails
    (manager : MemorySnapshotManager)
    (tracker : DirtyPageTracker)
    (memoryData : Bytes) : Prop :=
  match tracker.classifyTemperature with
  | none => True
  | some temperatureMap =>
      ∃ pageOffset ∈ tracker.getDirtyPages,
        PageFits memoryData pageOffset ∧
          ∃ error,
            (manager.compressionFor temperatureMap
                pageOffset).compress
                (pageSlice memoryData pageOffset) =
              .error error

/-
  A mark is of a whole page of the region, and an image has
  all its dirty pages unless the snapshot fails.
-/
def KeepsPages
    (history : DirtyHistory) : SnapshotOp → Prop
| .markPageDirty regionId pageOffset =>
    ∀ tracker,
      history.manager.regions.lookup regionId =
          some tracker →
        (pageOffset + 1) * pageSize ≤ tracker.totalSize
| .snapshotDirty regionId memoryData =>
    ∀ tracker,
      history.manager.regions.lookup regionId =
          some tracker →
        (∀ pageOffset ∈ tracker.getDirtyPages,
            PageFits memoryData pageOffset) ∨
          SnapshotFails history.manager tracker memoryData
| .registerRegion _ _ _ => True
| .recordPageAccess _ _ => True

/- Trackers are sized, and pages are dirty only if owed. -/
structure Tracked
    (history : DirtyHistory) : Prop where
  sized :
    ∀ regionId tracker,
      history.manager.regions.lookup regionId =
          some tracker →
        tracker.Sized
  marked :
    ∀ regionId,
      ∀ pageOffset ∈ history.manager.dirtyPages regionId,
        (regionId, pageOffset) ∈ history.pending

end DirtyHistory

------------------------------------------------------------
-- Dirty Pages after a Call
------------------------------------------------------------

namespace MemorySnapshotManager

variable {manager : MemorySnapshotManager}
variable {regionId : String} {memoryData : Bytes}
variable {tracker : DirtyPageTracker}

theorem dirtyPages_of_lookup
    (hLookup :
      manager.regions.lookup regionId = some tracker) :
    manager.dirtyPages regionId = tracker.getDirtyPages := by
  unfold dirtyPages
  rw [hLookup]

theorem dirtyPages_of_unregistered
    (hLookup : manager.regions.lookup regionId = none) :
    manager.dirtyPages regionId = [] := by
  unfold dirtyPages
  rw [hLookup]

/- No page of a region just registered is dirty. -/
theorem dirtyPages_registerRegion
    (manager : MemorySnapshotManager)
    (regionId other : String)
    (baseAddr : UInt64)
    (size : Nat) :
    (manager.registerRegion regionId baseAddr
        size).dirtyPages other =
      if other = regionId then []
      else manager.dirtyPages other := by
  unfold dirtyPages registerRegion
  dsimp only
  rw [HashMap.lookup_insert_eq_ite]
  by_cases hOther : other = regionId
  · rw [if_pos hOther, if_pos hOther]
    exact DirtyPageTracker.getDirtyPages_new baseAddr size
  · rw [if_neg hOther, if_neg hOther]

/- A mark makes its page dirty if the page has a bit. -/
theorem mem_dirtyPages_markPageDirty
    (hLookup :
      manager.regions.lookup regionId = some tracker)
    {other : String}
    {marked pageOffset : Nat} :
    pageOffset ∈
        (manager.markPageDirty regionId marked).dirtyPages
          other ↔
      pageOffset ∈ manager.dirtyPages other ∨
        other = regionId ∧ pageOffset = marked ∧
          marked < tracker.dirtyBitmap.length := by
  unfold markPageDirty dirtyPages
  rw [lookup_onRegion]
  by_cases hOther : other = regionId
  · subst hOther
    rw [if_pos rfl, hLookup]
    simp only [Option.map_some, true_and]
    exact DirtyPageTracker.mem_getDirtyPages_markDirty
  · rw [if_neg hOther]
    exact
      (or_iff_left fun hSame => hOther hSame.1).symm

/- Accesses make no page dirty, or clean. -/
theorem dirtyPages_recordPageAccess
    (manager : MemorySnapshotManager)
    (regionId other : String)
    (accessed : Nat) :
    (manager.recordPageAccess regionId accessed).dirtyPages
        other =
      manager.dirtyPages other := by
  unfold recordPageAccess dirtyPages
  rw [lookup_onRegion]
  by_cases hOther : other = regionId
  · rw [if_pos hOther, hOther]
    cases manager.regions.lookup regionId with
    | none => rfl
    | some tracker =>
        exact tracker.getDirtyPages_recordAccess accessed
  · rw [if_neg hOther]

variable [Sha256] [Compressors] [BuildProfile]

/- A snapshot that succeeds leaves no page dirty. -/
theorem dirtyPages_snapshotDirty_ok
    {pages : List MemoryPage}
    (hOk :
      (snapshotDirty regionId memoryData manager).1 =
        .ok pages)
    (other : String) :
    (snapshotDirty regionId memoryData
        manager).2.dirtyPages other =
      if other = regionId then []
      else manager.dirtyPages other := by
  unfold dirtyPages
  rw [lookup_snapshotDirty_ok hOk]
  by_cases hOther : other = regionId
  · rw [if_pos hOther, if_pos hOther]
    cases manager.regions.lookup regionId with
    | none => rfl
    | some tracker => exact tracker.getDirtyPages_clearDirty
  · rw [if_neg hOther, if_neg hOther]

/- A snapshot that fails leaves all dirty pages dirty. -/
theorem dirtyPages_snapshotDirty_failed
    (hFailed :
      ∀ pages,
        (snapshotDirty regionId memoryData manager).1 ≠
          .ok pages)
    (other : String) :
    (snapshotDirty regionId memoryData
        manager).2.dirtyPages other =
      manager.dirtyPages other := by
  unfold dirtyPages
  rw [regions_snapshotDirty_failed hFailed]

end MemorySnapshotManager

------------------------------------------------------------
-- Single Calls
------------------------------------------------------------

namespace DirtyHistory

open MemorySnapshotManager

variable [Sha256] [Compressors] [BuildProfile]
variable {history : DirtyHistory}
variable {regionId : String} {memoryData : Bytes}

/- A snapshot fails where it is said to. -/
theorem snapshotFails_iff
    {manager : MemorySnapshotManager}
    {tracker : DirtyPageTracker}
    (hLookup :
      manager.regions.lookup regionId = some tracker) :
    SnapshotFails manager tracker memoryData ↔
      ∀ pages,
        (snapshotDirty regionId memoryData manager).1 ≠
          .ok pages := by
  have hOkIff :=
    @snapshotDirty_ok_iff _ _ _ _ _ memoryData _ hLookup
  rw [← not_exists, hOkIff]
  unfold SnapshotFails
  cases tracker.classifyTemperature with
  | none =>
      refine iff_of_true trivial ?_
      rintro ⟨_, hMap, _⟩
      cases hMap
  | some temperatureMap =>
      constructor
      · rintro ⟨pageOffset, hPage, hFits, error, hError⟩
          ⟨_, hMap, hAll⟩
        cases hMap
        rcases hAll pageOffset hPage hFits with
          ⟨output, hOutput⟩
        rw [hError] at hOutput
        cases hOutput
      · intro hNot
        by_contra hNone
        refine hNot ⟨temperatureMap, rfl, ?_⟩
        intro pageOffset hPage hFits
        cases hCompress :
            (manager.compressionFor temperatureMap
              pageOffset).compress
                (pageSlice memoryData pageOffset) with
        | ok output => exact ⟨output, rfl⟩
        | error error =>
            exact
              absurd
                ⟨pageOffset, hPage, hFits, error, hCompress⟩
                hNone

/- What a call owes or makes dirty is owed. -/
theorem tracked_step
    (op : SnapshotOp)
    (hTracked : history.Tracked)
    (hDomain : history.InDomain op) :
    (history.step op).Tracked := by
  refine
    ⟨sized_apply history.manager op hTracked.sized, ?_⟩
  intro other pageOffset hPage
  cases op with
  | registerRegion regionId baseAddr size =>
      change
        pageOffset ∈
          (history.manager.registerRegion regionId baseAddr
            size).dirtyPages other at hPage
      rw [dirtyPages_registerRegion] at hPage
      split at hPage
      · cases hPage
      · exact hTracked.marked other pageOffset hPage
  | markPageDirty regionId marked =>
      rcases hDomain with ⟨tracker, hLookup, _⟩
      rcases (mem_dirtyPages_markPageDirty hLookup).mp
          hPage with
        hDirty | ⟨rfl, rfl, _⟩
      · exact
          List.mem_cons_of_mem _
            (hTracked.marked other pageOffset hDirty)
      · exact List.mem_cons_self
  | recordPageAccess regionId accessed =>
      change
        pageOffset ∈
          (history.manager.recordPageAccess regionId
            accessed).dirtyPages other at hPage
      rw [dirtyPages_recordPageAccess] at hPage
      exact hTracked.marked other pageOffset hPage
  | snapshotDirty regionId memoryData =>
      change
        pageOffset ∈
          (snapshotDirty regionId memoryData
            history.manager).2.dirtyPages other at hPage
      by_cases hOk :
          ∃ pages,
            (snapshotDirty regionId memoryData
                history.manager).1 =
              .ok pages
      · rcases hOk with ⟨pages, hOk⟩
        rw [dirtyPages_snapshotDirty_ok hOk] at hPage
        split at hPage
        · cases hPage
        · next hOther =>
            apply List.mem_filter.mpr
            refine
              ⟨hTracked.marked other pageOffset hPage, ?_⟩
            exact
              decide_eq_true fun hSame => hOther hSame.1
      · have hFailed := not_exists.mp hOk
        rw [dirtyPages_snapshotDirty_failed hFailed] at hPage
        apply List.mem_filter.mpr
        refine ⟨hTracked.marked other pageOffset hPage, ?_⟩
        rw [returnedPages_failed hFailed]
        exact decide_eq_true fun hSame => nomatch hSame.2

/- A region just registered owes nothing. -/
theorem noneLost_registerRegion
    (hLost : history.NoneLost)
    {baseAddr : UInt64}
    {size : Nat}
    (hDomain :
      history.InDomain
        (.registerRegion regionId baseAddr size)) :
    (history.step
      (.registerRegion regionId baseAddr size)).NoneLost := by
  intro entry hEntry
  have hDirty := hLost entry hEntry
  have hOther : entry.1 ≠ regionId := by
    intro hSame
    rw [hSame, dirtyPages_of_unregistered hDomain] at hDirty
    cases hDirty
  change
    entry.2 ∈
      (history.manager.registerRegion regionId baseAddr
        size).dirtyPages entry.1
  rw [dirtyPages_registerRegion, if_neg hOther]
  exact hDirty

/- A mark is taken of whole pages only. -/
theorem noneLost_markPageDirty_iff
    (hTracked : history.Tracked)
    (hLost : history.NoneLost)
    {pageOffset : Nat}
    (hDomain :
      history.InDomain (.markPageDirty regionId pageOffset)) :
    (history.step
        (.markPageDirty regionId pageOffset)).NoneLost ↔
      history.KeepsPages
        (.markPageDirty regionId pageOffset) := by
  rcases hDomain with ⟨tracker, hLookup, _⟩
  have hBit :
      pageOffset < tracker.dirtyBitmap.length ↔
        (pageOffset + 1) * pageSize ≤ tracker.totalSize := by
    rw [(hTracked.sized regionId tracker hLookup).bitmap,
      ← Nat.succ_le_iff, Nat.le_div_iff_mul_le (by decide)]
  constructor
  · intro hAfter found hFound
    rw [hLookup] at hFound
    cases hFound
    apply hBit.mp
    have hOwed :=
      hAfter (regionId, pageOffset) List.mem_cons_self
    rcases (mem_dirtyPages_markPageDirty hLookup).mp
        hOwed with
      hDirty | ⟨_, _, hInside⟩
    · rw [dirtyPages_of_lookup hLookup,
        DirtyPageTracker.mem_getDirtyPages] at hDirty
      exact (List.getElem?_eq_some_iff.mp hDirty).1
    · exact hInside
  · intro hKeeps entry hEntry
    apply (mem_dirtyPages_markPageDirty hLookup).mpr
    rcases List.mem_cons.mp hEntry with rfl | hEarlier
    · exact
        Or.inr
          ⟨rfl, rfl, hBit.mpr (hKeeps tracker hLookup)⟩
    · exact Or.inl (hLost entry hEarlier)

/- A snapshot that fails loses nothing. -/
theorem noneLost_snapshotDirty_failed
    (hLost : history.NoneLost)
    (hFailed :
      ∀ pages,
        (snapshotDirty regionId memoryData
            history.manager).1 ≠
          .ok pages) :
    (history.step
      (.snapshotDirty regionId memoryData)).NoneLost := by
  intro entry hEntry
  rcases List.mem_filter.mp hEntry with ⟨hEarlier, _⟩
  change
    entry.2 ∈
      (snapshotDirty regionId memoryData
        history.manager).2.dirtyPages entry.1
  rw [dirtyPages_snapshotDirty_failed hFailed]
  exact hLost entry hEarlier

section Succeeded

variable {tracker : DirtyPageTracker}
variable {pages : List MemoryPage}
variable
  (hLookup :
    history.manager.regions.lookup regionId = some tracker)
variable
  (hOk :
    (snapshotDirty regionId memoryData history.manager).1 =
      .ok pages)
include hLookup hOk

/- A snapshot returns the dirty pages within its image. -/
theorem mem_pending_snapshotDirty_iff
    {entry : String × Nat} :
    entry ∈
        (history.step
          (.snapshotDirty regionId memoryData)).pending ↔
      entry ∈ history.pending ∧
        ¬ (entry.1 = regionId ∧
          entry.2 ∈ tracker.getDirtyPages ∧
            PageFits memoryData entry.2) := by
  have hOffsets := map_fst_returnedPages hOk
  rw [dirtyWithin_of_lookup hLookup] at hOffsets
  change entry ∈ List.filter _ _ ↔ _
  rw [List.mem_filter, decide_eq_true_iff, hOffsets,
    List.mem_filter, decide_eq_true_iff]

/- A snapshot that succeeds has to have all dirty pages. -/
theorem noneLost_snapshotDirty_ok_iff
    (hTracked : history.Tracked)
    (hLost : history.NoneLost) :
    (history.step
        (.snapshotDirty regionId memoryData)).NoneLost ↔
      ∀ pageOffset ∈ tracker.getDirtyPages,
        PageFits memoryData pageOffset := by
  have hDirtyAfter :
      ∀ other,
        (history.step
              (.snapshotDirty regionId
                memoryData)).manager.dirtyPages
            other =
          if other = regionId then []
          else history.manager.dirtyPages other :=
    dirtyPages_snapshotDirty_ok hOk
  constructor
  · intro hAfter pageOffset hPage
    by_contra hBeyond
    -- it stays owed, but nothing is dirty any more
    have hMarked :
        (regionId, pageOffset) ∈ history.pending := by
      apply hTracked.marked regionId pageOffset
      rw [dirtyPages_of_lookup hLookup]
      exact hPage
    have hOwed :=
      (mem_pending_snapshotDirty_iff hLookup hOk).mpr
        ⟨hMarked, fun hReturned => hBeyond hReturned.2.2⟩
    have hDirty := hAfter _ hOwed
    rw [hDirtyAfter, if_pos rfl] at hDirty
    cases hDirty
  · intro hFit entry hEntry
    rcases
        (mem_pending_snapshotDirty_iff hLookup hOk).mp hEntry
      with ⟨hEarlier, hNotReturned⟩
    have hDirty := hLost entry hEarlier
    rw [hDirtyAfter]
    split
    · next hSame =>
        rw [hSame, dirtyPages_of_lookup hLookup] at hDirty
        exact
          absurd ⟨hSame, hDirty, hFit entry.2 hDirty⟩
            hNotReturned
    · exact hDirty

end Succeeded

/- A snapshot has all dirty pages, or it fails. -/
theorem noneLost_snapshotDirty_iff
    (hTracked : history.Tracked)
    (hLost : history.NoneLost) :
    (history.step
        (.snapshotDirty regionId memoryData)).NoneLost ↔
      history.KeepsPages
        (.snapshotDirty regionId memoryData) := by
  by_cases hOk :
      ∃ pages,
        (snapshotDirty regionId memoryData
            history.manager).1 =
          .ok pages
  · rcases hOk with ⟨pages, hOk⟩
    rcases snapshotDirty_spec regionId memoryData
        history.manager with
      ⟨_, hReturned⟩
    rcases hReturned pages hOk with
      ⟨_, tracker, _, hLookup, _⟩
    rw [noneLost_snapshotDirty_ok_iff hLookup hOk hTracked
      hLost]
    constructor
    · intro hFit found hFound
      rw [hLookup] at hFound
      cases hFound
      exact Or.inl hFit
    · intro hKeeps
      rcases hKeeps tracker hLookup with hFit | hFails
      · exact hFit
      · exact
          absurd hOk
            ((snapshotFails_iff hLookup).mp hFails pages)
  · have hFailed := not_exists.mp hOk
    refine
      iff_of_true
        (noneLost_snapshotDirty_failed hLost hFailed) ?_
    intro tracker hLookup
    exact Or.inr ((snapshotFails_iff hLookup).mpr hFailed)

/- The condition decides whether a call loses a page. -/
theorem noneLost_step_iff
    (op : SnapshotOp)
    (hTracked : history.Tracked)
    (hDomain : history.InDomain op)
    (hLost : history.NoneLost) :
    (history.step op).NoneLost ↔ history.KeepsPages op := by
  cases op with
  | registerRegion regionId baseAddr size =>
      exact
        iff_of_true (noneLost_registerRegion hLost hDomain)
          trivial
  | markPageDirty regionId pageOffset =>
      exact noneLost_markPageDirty_iff hTracked hLost hDomain
  | recordPageAccess regionId accessed =>
      refine iff_of_true ?_ trivial
      intro entry hEntry
      change
        entry.2 ∈
          (history.manager.recordPageAccess regionId
            accessed).dirtyPages entry.1
      rw [dirtyPages_recordPageAccess]
      exact hLost entry hEntry
  | snapshotDirty regionId memoryData =>
      exact noneLost_snapshotDirty_iff hTracked hLost

------------------------------------------------------------
-- Runs
------------------------------------------------------------

/-
  Where each region is registered once and marks are of
  pages of their regions, no dirty page is lost exactly when
  marks are of whole pages and every snapshot that succeeds
  was given an image with all dirty pages.
-/
theorem noneLost_iff
    (ops : List SnapshotOp)
    (hDomain : Runs.AlongRun step InDomain new ops) :
    Runs.Throughout step NoneLost new ops ↔
      Runs.AlongRun step KeepsPages new ops := by
  have hTracked : new.Tracked := by
    constructor
    · intro regionId tracker hLookup
      cases hLookup
    · intro regionId pageOffset hPage
      cases hPage
  have hLost : new.NoneLost := by
    intro entry hEntry
    cases hEntry
  exact
    Runs.throughout_iff_alongRun_of_given
      (fun _ op hTracked hDomain =>
        tracked_step op hTracked hDomain)
      (fun _ op hTracked hDomain hLost =>
        noneLost_step_iff op hTracked hDomain hLost)
      hTracked hLost hDomain

end DirtyHistory

end IsaWorkspace

------------------------------------------------------------
-- Sample Runs
------------------------------------------------------------

namespace IsaWorkspace

open SnapshotSample MemorySnapshotManager

namespace DirtyHistory

/- A page that the image has. -/
def caught : List SnapshotOp :=
  [.registerRegion "test" 0x1000 4096,
    .markPageDirty "test" 0,
    .snapshotDirty "test" (image 1)]

/- A page beyond the end of the image. -/
def skipped : List SnapshotOp :=
  [.registerRegion "test" 0x1000 4096,
    .markPageDirty "test" 0,
    .snapshotDirty "test" []]

/- The incomplete last page of a region. -/
def unmarked : List SnapshotOp :=
  [.registerRegion "test" 0x1000 6000,
    .markPageDirty "test" 1]

theorem noneLost_caught :
    Runs.Throughout step NoneLost new caught := by
  apply (noneLost_iff caught ?_).mpr
  · refine ⟨trivial, ?_, ?_, trivial⟩
    · intro tracker hLookup
      cases hLookup
      decide
    · intro found hLookup
      have hFound : some tracker = some found :=
        lookup_tracker.symm.trans hLookup
      cases hFound
      left
      intro pageOffset hPage
      have hFirst : pageOffset = 0 :=
        List.mem_singleton.mp hPage
      rw [hFirst]
      exact image_fits Nat.one_pos
  · refine ⟨rfl, ⟨_, rfl, ?_⟩, trivial, trivial⟩
    decide

theorem snapshotDirty_skipped :
    (snapshotDirty "test" [] dirty).1 = .ok [] := by
  have hResult :=
    @snapshotDirty_of_made _ _ _ dirty "test" [] tracker _ _
      lookup_tracker classifyTemperature_tracker rfl
  rw [hResult]

/- Both pages are owed and not dirty any more. -/
theorem noneLost_skipped :
    (Runs.AlongRun step InDomain new skipped ∧
        ¬ Runs.Throughout step NoneLost new skipped) ∧
      (Runs.AlongRun step InDomain new unmarked ∧
        ¬ Runs.Throughout step NoneLost new unmarked) := by
  refine ⟨⟨?_, ?_⟩, ?_, ?_⟩
  · refine ⟨rfl, ⟨_, rfl, ?_⟩, trivial, trivial⟩
    decide
  · intro hRun
    have hLast := hRun.last ("test", 0)
    have hOwed :
        ("test", 0) ∈
          (Runs.run step new skipped).pending := by
      apply List.mem_filter.mpr
      refine ⟨List.mem_cons_self, ?_⟩
      apply decide_eq_true
      rintro ⟨_, hReturned⟩
      change
        0 ∈
          (dirty.returnedPages "test" []).map (·.1)
        at hReturned
      rw [map_fst_returnedPages snapshotDirty_skipped]
        at hReturned
      cases hReturned
    have hDirty :
        0 ∈
          (snapshotDirty "test" [] dirty).2.dirtyPages
            "test" :=
      hLast hOwed
    rw [dirtyPages_snapshotDirty_ok snapshotDirty_skipped,
      if_pos rfl] at hDirty
    cases hDirty
  · refine ⟨rfl, ⟨_, rfl, ?_⟩, trivial⟩
    decide
  · intro hRun
    have hDirty :=
      hRun.last ("test", 1) List.mem_cons_self
    have hNone :
        ((MemorySnapshotManager.new.registerRegion "test"
              0x1000 6000).markPageDirty "test" 1).dirtyPages
            "test" =
          [] := by
      decide +kernel
    change
      1 ∈
        ((MemorySnapshotManager.new.registerRegion "test"
              0x1000 6000).markPageDirty "test" 1).dirtyPages
            "test" at hDirty
    rw [hNone] at hDirty
    cases hDirty

end DirtyHistory

end IsaWorkspace
