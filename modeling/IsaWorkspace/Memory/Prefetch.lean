import IsaWorkspace.Foundations.KeyedList
import IsaWorkspace.Memory.Reached
import Mathlib.Data.Finset.Sort

/-
  Prefetching hot pages.

  Snapshots cache pages under their digests, and the index
  that prefetching looks into has digests as its keys.  What
  is looked for is the name of a region and an offset with a
  dash between them, which no digest has.

  Main declarations:
    * `DirtyPageTracker.pageAddress`
    * `MemorySnapshotManager.buildReverseIndex`
    * `MemorySnapshotManager.prefetchHotPages`
    * `MemorySnapshotManager.prefetchHotPages_eq_nil`
    * `PrefetchHistory.FindsHot`
    * `PrefetchHistory.findsHot_iff`
-/

------------------------------------------------------------
-- Prefetching
------------------------------------------------------------

namespace IsaWorkspace

/- An order in which the pages of a set are visited. -/
structure PageOrder where
  visit : Finset Nat → List Nat
  nodup : ∀ pages, (visit pages).Nodup
  mem_iff : ∀ pages page, page ∈ visit pages ↔ page ∈ pages

/- Get a page's address from its offset; `none` is a panic. -/
def DirtyPageTracker.pageAddress
    [BuildProfile]
    (tracker : DirtyPageTracker)
    (pageOffset : Nat) : Option UInt64 := do
  let offset ←
    checkedMul (UInt64.ofNat pageOffset)
      (UInt64.ofNat pageSize)
  checkedAdd tracker.baseAddr offset

namespace MemorySnapshotManager

/- Build the reverse index from the cache entries. -/
def buildReverseIndex
    {cache : HashMap String MemoryPage}
    (cacheOrder : HashMap.Iteration cache) :
    HashMap String String :=
  cacheOrder.entries.foldl
    (fun index entry => index.insert entry.1 entry.1) ∅

/- The name a page of a region is looked up by. -/
def cacheKey
    (regionId : String)
    (pageOffset : Nat) : String :=
  regionId ++ "-" ++ toString pageOffset

variable [BuildProfile]

/- The pages found at some offsets; `none` is a panic. -/
def findPages
    (manager : MemorySnapshotManager)
    (regionId : String)
    (tracker : DirtyPageTracker)
    (reverseIndex : HashMap String String) :
    List Nat → Option (List MemoryPage)
| [] => some []
| pageOffset :: rest => do
    -- the address is computed, but not used
    let _ ← tracker.pageAddress pageOffset
    let others ←
      findPages manager regionId tracker reverseIndex rest
    match reverseIndex.lookup (cacheKey regionId pageOffset)
    with
    | some pageHash =>
        match manager.pageCache.lookup pageHash with
        | some page => some (page :: others)
        | none => some others
    | none => some others

/- Prefetch hot pages for fast resume. -/
def prefetchHotPages
    (manager : MemorySnapshotManager)
    (hotOrder : PageOrder)
    (cacheOrder : HashMap.Iteration manager.pageCache)
    (regionId : String) :
    Outcome MemoryError (List MemoryPage) :=
  match manager.regions.lookup regionId with
  | none =>
      .err (.notFound ("Region " ++ regionId ++ " not found"))
  | some tracker =>
      match tracker.classifyTemperature with
      | none => .panicked
      | some temperatureMap =>
          match
            manager.findPages regionId tracker
              (buildReverseIndex cacheOrder)
              (hotOrder.visit temperatureMap.hotPages) with
          | none => .panicked
          | some pages => .ok pages

------------------------------------------------------------
-- What the Index Holds
------------------------------------------------------------

/- The index has the keys of the cache, and no others. -/
omit [BuildProfile] in
theorem lookup_buildReverseIndex
    {cache : HashMap String MemoryPage}
    (cacheOrder : HashMap.Iteration cache)
    {key pageHash : String}
    (hLookup :
      (buildReverseIndex cacheOrder).lookup key =
        some pageHash) :
    ∃ page, cache.lookup key = some page := by
  have hFold :
      ∀ (entries : List (String × MemoryPage))
        (index : HashMap String String),
        (entries.foldl
            (fun index entry => index.insert entry.1 entry.1)
            index).lookup key = some pageHash →
          index.lookup key = some pageHash ∨
            ∃ page, (key, page) ∈ entries := by
    intro entries
    induction entries with
    | nil => exact fun _ hIndex => Or.inl hIndex
    | cons entry rest ih =>
        intro index hIndex
        rcases ih (index.insert entry.1 entry.1) hIndex with
          hInsert | ⟨page, hPage⟩
        · rw [HashMap.lookup_insert_eq_ite] at hInsert
          split at hInsert
          · next hKey =>
              refine Or.inr ⟨entry.2, ?_⟩
              rw [hKey]
              exact List.mem_cons_self
          · exact Or.inl hInsert
        · exact
            Or.inr ⟨page, List.mem_cons_of_mem _ hPage⟩
  rcases hFold cacheOrder.entries ∅ hLookup with
    hEmpty | ⟨page, hPage⟩
  · cases hEmpty
  · exact ⟨page, (cacheOrder.mem_iff key page).mp hPage⟩

/- No digest is the name of a page of a region. -/
omit [BuildProfile] in
theorem cacheKey_ne_sha256Hex
    [Sha256]
    (regionId : String)
    (pageOffset : Nat)
    (data : Bytes) :
    cacheKey regionId pageOffset ≠ sha256Hex data := by
  intro hSame
  have hDash :
      '-' ∈ (cacheKey regionId pageOffset).toList := by
    unfold cacheKey
    rw [String.toList_append, String.toList_append]
    exact
      List.mem_append_left _
        (List.mem_append_right _ List.mem_cons_self)
  rw [hSame] at hDash
  exact dash_not_mem_hexEncode _ hDash

variable [Sha256]

/- No page of a region is found by its name. -/
omit [BuildProfile] in
theorem lookup_cacheKey_eq_none
    {manager : MemorySnapshotManager}
    (hKept : manager.WellKept)
    (cacheOrder : HashMap.Iteration manager.pageCache)
    (regionId : String)
    (pageOffset : Nat) :
    (buildReverseIndex cacheOrder).lookup
        (cacheKey regionId pageOffset) =
      none := by
  cases hIndex :
      (buildReverseIndex cacheOrder).lookup
        (cacheKey regionId pageOffset) with
  | none => rfl
  | some pageHash =>
      rcases lookup_buildReverseIndex cacheOrder hIndex with
        ⟨page, hCached⟩
      rcases hKept.cached _ page hCached with ⟨data, hKey⟩
      exact
        absurd hKey
          (cacheKey_ne_sha256Hex regionId pageOffset data)

/- Prefetching returns no page, whatever is hot or cached. -/
theorem prefetchHotPages_eq_nil
    {manager : MemorySnapshotManager}
    (hKept : manager.WellKept)
    {hotOrder : PageOrder}
    {cacheOrder : HashMap.Iteration manager.pageCache}
    {regionId : String}
    {pages : List MemoryPage}
    (hOk :
      manager.prefetchHotPages hotOrder cacheOrder regionId =
        .ok pages) :
    pages = [] := by
  have hFind :
      ∀ tracker pageOffsets found,
        manager.findPages regionId tracker
              (buildReverseIndex cacheOrder) pageOffsets =
            some found →
          found = [] := by
    intro tracker pageOffsets
    induction pageOffsets with
    | nil =>
        intro found hFound
        exact (Option.some.inj hFound).symm
    | cons pageOffset rest ih =>
        intro found hFound
        unfold findPages at hFound
        rw [lookup_cacheKey_eq_none hKept] at hFound
        rcases Option.bind_eq_some_iff.mp hFound with
          ⟨_, _, hRest⟩
        rcases Option.bind_eq_some_iff.mp hRest with
          ⟨others, hOthers, hSame⟩
        rw [← Option.some.inj hSame]
        exact ih others hOthers
  unfold prefetchHotPages at hOk
  split at hOk
  · cases hOk
  · split at hOk
    · cases hOk
    · split at hOk
      · cases hOk
      · next hFound =>
          cases hOk
          exact hFind _ _ _ hFound

end MemorySnapshotManager

------------------------------------------------------------
-- Pages Returned Last
------------------------------------------------------------

/- A manager, and the page last returned for each offset. -/
structure PrefetchHistory where
  manager : MemorySnapshotManager
  lastReturned : HashMap (String × Nat) MemoryPage

namespace PrefetchHistory

open MemorySnapshotManager

/- A new manager, which has returned nothing. -/
def new : PrefetchHistory :=
  ⟨MemorySnapshotManager.new, ∅⟩

/- A page of a region is classified hot. -/
def IsHot
    [BuildProfile]
    (manager : MemorySnapshotManager)
    (regionId : String)
    (pageOffset : Nat) : Prop :=
  ∃ tracker temperatureMap,
    manager.regions.lookup regionId = some tracker ∧
      tracker.classifyTemperature = some temperatureMap ∧
        pageOffset ∈ temperatureMap.hotPages

variable [Sha256] [Compressors] [BuildProfile]

/- What was returned last after a call. -/
def lastReturnedAfter
    (history : PrefetchHistory) :
    SnapshotOp → HashMap (String × Nat) MemoryPage
| .snapshotDirty regionId memoryData =>
    (history.manager.returnedPages regionId
        memoryData).foldl
      (fun last entry =>
        last.insert (regionId, entry.1) entry.2)
      history.lastReturned
| .registerRegion _ _ _ => history.lastReturned
| .markPageDirty _ _ => history.lastReturned
| .recordPageAccess _ _ => history.lastReturned

/- Make a call and take note of what it returns. -/
def step
    (history : PrefetchHistory)
    (op : SnapshotOp) : PrefetchHistory where
  manager := history.manager.apply op
  lastReturned := history.lastReturnedAfter op

/-
  Prefetching a region returns, for each of its pages that
  is hot and was ever returned, the one returned last.
-/
def FindsHot
    (history : PrefetchHistory)
    (hotOrder : PageOrder)
    (cacheOrder :
      HashMap.Iteration history.manager.pageCache)
    (regionId : String) : Prop :=
  ∀ pageOffset page,
    IsHot history.manager regionId pageOffset →
      history.lastReturned.lookup (regionId, pageOffset) =
          some page →
        ∃ pages,
          history.manager.prefetchHotPages hotOrder
                cacheOrder regionId =
              .ok pages ∧
            page ∈ pages

theorem lastReturned_step
    (history : PrefetchHistory)
    (regionId : String)
    (memoryData : Bytes) :
    (history.step
        (.snapshotDirty regionId memoryData)).lastReturned =
      (history.manager.returnedPages regionId
          memoryData).foldl
        (fun last entry =>
          last.insert (regionId, entry.1) entry.2)
        history.lastReturned :=
  rfl

/- The manager of a history is one that calls lead to. -/
theorem manager_run
    (ops : List SnapshotOp) :
    (Runs.run step new ops).manager = reached ops := by
  induction ops using List.reverseRecOn with
  | nil => rfl
  | append_singleton earlier op ih =>
      rw [Runs.run_concat, reached_concat, ← ih]
      rfl

theorem wellKept_run
    (ops : List SnapshotOp) :
    (Runs.run step new ops).manager.WellKept := by
  rw [manager_run]
  exact wellKept_reached ops

omit [Compressors] in
/- Prefetching misses every hot page that was returned. -/
theorem not_findsHot
    {history : PrefetchHistory}
    (hKept : history.manager.WellKept)
    {hotOrder : PageOrder}
    {cacheOrder :
      HashMap.Iteration history.manager.pageCache}
    {regionId : String}
    {pageOffset : Nat}
    {page : MemoryPage}
    (hHot : IsHot history.manager regionId pageOffset)
    (hReturned :
      history.lastReturned.lookup (regionId, pageOffset) =
        some page) :
    ¬ history.FindsHot hotOrder cacheOrder regionId := by
  intro hFinds
  rcases hFinds pageOffset page hHot hReturned with
    ⟨pages, hOk, hPage⟩
  rw [prefetchHotPages_eq_nil hKept hOk] at hPage
  cases hPage

/-
  After any calls, prefetching a region finds what it should
  exactly when there is nothing to be found: no page of the
  region that is hot now was ever returned by a snapshot.
-/
theorem findsHot_iff
    (ops : List SnapshotOp)
    (hotOrder : PageOrder)
    (cacheOrder :
      HashMap.Iteration
        (Runs.run step new ops).manager.pageCache)
    (regionId : String) :
    (Runs.run step new ops).FindsHot hotOrder cacheOrder
        regionId ↔
      ∀ pageOffset,
        IsHot (Runs.run step new ops).manager regionId
            pageOffset →
          (Runs.run step new ops).lastReturned.lookup
              (regionId, pageOffset) =
            none := by
  constructor
  · intro hFinds pageOffset hHot
    cases hReturned :
        (Runs.run step new ops).lastReturned.lookup
          (regionId, pageOffset) with
    | none => rfl
    | some page =>
        exact
          absurd hFinds
            (not_findsHot (wellKept_run ops) hHot hReturned)
  · intro hNone pageOffset page hHot hReturned
    rw [hNone pageOffset hHot] at hReturned
    cases hReturned

end PrefetchHistory

end IsaWorkspace

------------------------------------------------------------
-- A Sample Run
------------------------------------------------------------

namespace IsaWorkspace

open SnapshotSample MemorySnapshotManager

namespace PrefetchHistory

/- A page that is accessed and marked. -/
def accessedAndMarked : List SnapshotOp :=
  [.registerRegion "test" 0x1000 8192,
    .recordPageAccess "test" 0,
    .markPageDirty "test" 0]

/- It is returned as well. -/
def returnedHot : List SnapshotOp :=
  accessedAndMarked ++ [.snapshotDirty "test" (image 2)]

/- The pages of a set in increasing order. -/
def increasing : PageOrder where
  visit pages := pages.sort (· ≤ ·)
  nodup _ := Finset.sort_nodup _ (· ≤ ·)
  mem_iff _ _ := Finset.mem_sort (· ≤ ·)

def hotTracker : DirtyPageTracker :=
  ⟨0x1000, 8192, [true, false], [1, 0]⟩

theorem classifyTemperature_hotTracker :
    hotTracker.classifyTemperature =
      some ⟨{0}, {1}, ∅⟩ := by
  decide +kernel

theorem lookup_hotTracker :
    (reached accessedAndMarked).regions.lookup "test" =
      some hotTracker := by
  decide +kernel

theorem snapshotDirty_hotTracker :
    (snapshotDirty "test" (image 2)
        (reached accessedAndMarked)).1 =
      .ok [pageOf .lz4 packed] :=
  snapshotDirty_image lookup_hotTracker
    classifyTemperature_hotTracker (by decide)
    (by decide +kernel)

theorem returnedPages_hotTracker :
    (reached accessedAndMarked).returnedPages "test"
        (image 2) =
      [(0, pageOf .lz4 packed)] := by
  have hDirty : hotTracker.getDirtyPages = [0] := by
    decide +kernel
  have hWithin :
      [0].filter (fun page => decide (PageFits (image 2) page)) =
        [0] := by
    apply List.filter_eq_self.mpr
    intro page hPage
    rw [List.mem_singleton.mp hPage]
    exact decide_eq_true (image_fits Nat.two_pos)
  rw [returnedPages_ok snapshotDirty_hotTracker,
    dirtyWithin_of_lookup lookup_hotTracker, hDirty, hWithin]
  rfl

/- The page is hot and was returned, and is not found. -/
theorem findsHot_returnedHot :
    ∃ cacheOrder,
      ¬ (Runs.run step new returnedHot).FindsHot increasing
        cacheOrder "test" := by
  rcases HashMap.Iteration.nonempty
      (Runs.run step new returnedHot).manager.pageCache with
    ⟨cacheOrder⟩
  refine
    ⟨cacheOrder,
      @not_findsHot _ _ _ (wellKept_run _) _ _ _ 0
        (pageOf .lz4 packed) ?_ ?_⟩
  · refine
      ⟨hotTracker.clearDirty, ⟨{0}, {1}, ∅⟩, ?_,
        by decide +kernel, by decide⟩
    rw [manager_run]
    unfold returnedHot
    rw [reached_concat]
    exact
      lookup_apply_snapshotDirty lookup_hotTracker
        snapshotDirty_hotTracker
  · unfold returnedHot
    rw [Runs.run_concat, lastReturned_step, manager_run,
      returnedPages_hotTracker]
    exact Finmap.lookup_insert _

end PrefetchHistory

end IsaWorkspace
