import IsaWorkspace.Foundations.Runs
import IsaWorkspace.Memory.Equations

/-
  Snapshots against the memory they were taken of.

  Snapshots share one cache, in which a later page replaces
  an earlier one of the same hash.  The hash is of the
  compressed bytes, and these determine the algorithm: what
  is found under the hash of a page decompresses to the same
  bytes, whatever was cached since.

  Main declarations:
    * `SnapshotOp`, `SnapshotHistory`
    * `SnapshotHistory.Exact`, `SnapshotHistory.Faithful`
    * `SnapshotHistory.Kept`, `SnapshotHistory.kept_step`
    * `SnapshotHistory.snapshotFidelity`
-/

------------------------------------------------------------
-- Histories
------------------------------------------------------------

namespace IsaWorkspace

/- The calls on a snapshot manager. -/
inductive SnapshotOp where
  | registerRegion
      (regionId : String)
      (baseAddr : UInt64)
      (size : Nat)
  | markPageDirty (regionId : String) (pageOffset : Nat)
  | recordPageAccess (regionId : String) (pageOffset : Nat)
  | snapshotDirty (regionId : String) (memoryData : Bytes)

/-
  A manager, the pages that were hashed so far, and the pages
  that were returned, each with the bytes of the image that
  it was to be made of.
-/
structure SnapshotHistory where
  manager : MemorySnapshotManager
  hashed : List MemoryPage
  returned : List (Bytes × MemoryPage)

section Histories

variable [Sha256] [Compressors] [BuildProfile]

namespace SnapshotHistory

open MemorySnapshotManager

/- A new manager. -/
def new : SnapshotHistory :=
  ⟨MemorySnapshotManager.new, [], []⟩

/- The pages returned, each with what it is to hold. -/
def returnedBy
    (manager : MemorySnapshotManager)
    (regionId : String)
    (memoryData : Bytes) :
    Outcome MemoryError (List MemoryPage) →
      List (Bytes × MemoryPage)
| .ok pages =>
    ((manager.dirtyWithin regionId memoryData).map
      (pageSlice memoryData)).zip pages
| _ => []

/- Make a call and take note of its pages. -/
def step
    (history : SnapshotHistory) :
    SnapshotOp → SnapshotHistory
| .registerRegion regionId baseAddr size =>
    { history with
      manager :=
        history.manager.registerRegion regionId baseAddr
          size }
| .markPageDirty regionId pageOffset =>
    { history with
      manager :=
        history.manager.markPageDirty regionId pageOffset }
| .recordPageAccess regionId pageOffset =>
    { history with
      manager :=
        history.manager.recordPageAccess regionId
          pageOffset }
| .snapshotDirty regionId memoryData =>
    let result :=
      snapshotDirty regionId memoryData history.manager
    { manager := result.2
      hashed :=
        history.hashed ++
          history.manager.hashedBy regionId memoryData
      returned :=
        history.returned ++
          returnedBy history.manager regionId memoryData
            result.1 }

/-
  The pages a snapshot returns are those of the dirty pages
  within the image, in increasing order, and each holds the
  bytes of the image.
-/
def Exact
    (history : SnapshotHistory) : SnapshotOp → Prop
| .snapshotDirty regionId memoryData =>
    ∀ pages,
      (snapshotDirty regionId memoryData
          history.manager).1 =
          .ok pages →
        (history.manager.dirtyWithin regionId
            memoryData).Pairwise (· < ·) ∧
          List.Forall₂
            (fun pageOffset page =>
              page.compression.decompress page.data =
                .ok (pageSlice memoryData pageOffset))
            (history.manager.dirtyWithin regionId
              memoryData)
            pages
| _ => True

/- Under the hash of a returned page are its bytes. -/
def Faithful
    (history : SnapshotHistory) : Prop :=
  ∀ entry ∈ history.returned,
    ∃ found,
      history.manager.getPage entry.2.pageHash =
          some found ∧
        found.compression.decompress found.data =
          .ok entry.1

/-
  Hashed pages are pages of some image, and for each there
  is one in the cache that has its hash; returned pages were
  hashed, and are made of the bytes noted.
-/
structure Kept
    (history : SnapshotHistory) : Prop where
  default : DefaultCompression history.manager
  made :
    ∀ page ∈ history.hashed, ∃ bytes, IsPageOf bytes page
  cached :
    ∀ page ∈ history.hashed,
      ∃ found ∈ history.hashed,
        history.manager.pageCache.lookup page.pageHash =
            some found ∧
          found.pageHash = page.pageHash
  returned :
    ∀ entry ∈ history.returned,
      entry.2 ∈ history.hashed ∧ IsPageOf entry.1 entry.2

omit [BuildProfile] in
theorem kept_new : Kept new where
  default := ⟨rfl, rfl, rfl⟩
  made := by
    intro page hPage
    cases hPage
  cached := by
    intro page hPage
    cases hPage
  returned := by
    intro entry hEntry
    cases hEntry

/- A change of the trackers keeps it. -/
omit [BuildProfile] in
theorem Kept.withRegions
    {history : SnapshotHistory}
    (hKept : history.Kept)
    (regions : HashMap String DirtyPageTracker) :
    Kept
      { history with
        manager :=
          { history.manager with regions := regions } } where
  default := ⟨hKept.default.hot, hKept.default.warm,
    hKept.default.cold⟩
  made := hKept.made
  cached := hKept.cached
  returned := hKept.returned

omit [Sha256] [Compressors] [BuildProfile] in
/- Only the trackers change with a call on a region. -/
theorem onRegion_eq
    (manager : MemorySnapshotManager)
    (regionId : String)
    (change : DirtyPageTracker → DirtyPageTracker) :
    ∃ regions,
      manager.onRegion regionId change =
        { manager with regions := regions } := by
  unfold onRegion
  cases manager.regions.lookup regionId with
  | none => exact ⟨manager.regions, rfl⟩
  | some tracker => exact ⟨_, rfl⟩

/- What a snapshot returns is among what it hashes. -/
theorem of_mem_returnedBy
    {manager : MemorySnapshotManager}
    (hDefault : DefaultCompression manager)
    {regionId : String}
    {memoryData : Bytes}
    {entry : Bytes × MemoryPage}
    (hEntry :
      entry ∈
        returnedBy manager regionId memoryData
          (snapshotDirty regionId memoryData manager).1) :
    entry.2 ∈ manager.hashedBy regionId memoryData ∧
      IsPageOf entry.1 entry.2 := by
  cases hOutcome :
      (snapshotDirty regionId memoryData manager).1 with
  | err error =>
      rw [hOutcome] at hEntry
      cases hEntry
  | panicked =>
      rw [hOutcome] at hEntry
      cases hEntry
  | ok pages =>
      rw [hOutcome] at hEntry
      change entry ∈ List.zip _ pages at hEntry
      rcases (snapshotDirty_spec regionId memoryData
          manager).2 pages hOutcome with
        ⟨hPages, _⟩
      have hEach :=
        List.forall₂_map_left_iff.mpr
          (snapshotDirty_forall₂ hDefault hOutcome)
      constructor
      · rw [← hPages]
        exact (List.of_mem_zip hEntry).2
      · exact List.forall₂_zip hEach hEntry

/- A snapshot keeps it. -/
theorem Kept.snapshot
    {history : SnapshotHistory}
    (hKept : history.Kept)
    (regionId : String)
    (memoryData : Bytes) :
    (history.step
      (.snapshotDirty regionId memoryData)).Kept := by
  have hNew :=
    hashedBy_isPageOf hKept.default regionId memoryData
  rcases (snapshotDirty_spec regionId memoryData
      history.manager).1 with
    ⟨regions, hManager⟩
  have hStep :
      history.step (.snapshotDirty regionId memoryData) =
        { manager :=
            { history.manager with
              regions := regions
              pageCache :=
                cacheAll history.manager.pageCache
                  (history.manager.hashedBy regionId
                    memoryData) }
          hashed :=
            history.hashed ++
              history.manager.hashedBy regionId memoryData
          returned :=
            history.returned ++
              returnedBy history.manager regionId memoryData
                (snapshotDirty regionId memoryData
                  history.manager).1 } := by
    rw [← hManager]
    rfl
  rw [hStep]
  constructor
  · exact
      ⟨hKept.default.hot, hKept.default.warm,
        hKept.default.cold⟩
  · intro page hPage
    rcases List.mem_append.mp hPage with hOld | hHashed
    · exact hKept.made page hOld
    · exact hNew page hHashed
  · intro page hPage
    dsimp only at hPage ⊢
    rcases lookup_cacheAll history.manager.pageCache
        (history.manager.hashedBy regionId memoryData)
        page.pageHash with
      ⟨found, hFound, hHash, hLookup⟩ | ⟨hOthers, hLookup⟩
    · exact
        ⟨found, List.mem_append_right _ hFound, hLookup,
          hHash⟩
    · rcases List.mem_append.mp hPage with hOld | hHashed
      · rcases hKept.cached page hOld with
          ⟨found, hFound, hThere, hHash⟩
        exact
          ⟨found, List.mem_append_left _ hFound,
            hLookup.trans hThere, hHash⟩
      · exact absurd rfl (hOthers page hHashed)
  · intro entry hEntry
    rcases List.mem_append.mp hEntry with hOld | hReturned
    · rcases hKept.returned entry hOld with
        ⟨hHashed, hPage⟩
      exact ⟨List.mem_append_left _ hHashed, hPage⟩
    · rcases of_mem_returnedBy hKept.default hReturned with
        ⟨hHashed, hPage⟩
      exact ⟨List.mem_append_right _ hHashed, hPage⟩

/- Every call keeps it. -/
theorem kept_step
    (history : SnapshotHistory)
    (op : SnapshotOp)
    (hKept : history.Kept) :
    (history.step op).Kept := by
  cases op with
  | registerRegion regionId baseAddr size =>
      exact hKept.withRegions _
  | markPageDirty regionId pageOffset =>
      rcases onRegion_eq history.manager regionId
          (·.markDirty pageOffset) with
        ⟨regions, hManager⟩
      change Kept { history with manager := _ }
      unfold markPageDirty
      rw [hManager]
      exact hKept.withRegions regions
  | recordPageAccess regionId pageOffset =>
      rcases onRegion_eq history.manager regionId
          (·.recordAccess pageOffset) with
        ⟨regions, hManager⟩
      change Kept { history with manager := _ }
      unfold recordPageAccess
      rw [hManager]
      exact hKept.withRegions regions
  | snapshotDirty regionId memoryData =>
      exact hKept.snapshot regionId memoryData

------------------------------------------------------------
-- Fidelity
------------------------------------------------------------

/- Hashed pages stay hashed. -/
theorem hashed_subset
    (history : SnapshotHistory)
    (ops : List SnapshotOp) :
    history.hashed ⊆ (Runs.run step history ops).hashed := by
  induction ops generalizing history with
  | nil => exact List.Subset.refl _
  | cons op rest ih =>
      refine List.Subset.trans ?_ (ih (history.step op))
      cases op with
      | snapshotDirty regionId memoryData =>
          exact List.subset_append_left _ _
      | registerRegion regionId baseAddr size =>
          exact List.Subset.refl _
      | markPageDirty regionId pageOffset =>
          exact List.Subset.refl _
      | recordPageAccess regionId pageOffset =>
          exact List.Subset.refl _

/- The data that was hashed. -/
def hashedData
    (history : SnapshotHistory) : Set Bytes :=
  { data | ∃ page ∈ history.hashed, page.data = data }

/-
  Two pages under one hash have the same data, so they were
  made by the same algorithm and hold the same bytes.
-/
omit [BuildProfile] in
theorem Kept.faithful
    {history : SnapshotHistory}
    (hKept : history.Kept)
    (hLawful : LawfulCompressors)
    (hInjective :
      Set.InjOn Sha256.digest history.hashedData) :
    history.Faithful := by
  intro entry hEntry
  rcases hKept.returned entry hEntry with
    ⟨hHashed, hPage⟩
  rcases hKept.cached entry.2 hHashed with
    ⟨found, hFound, hLookup, hHash⟩
  rcases hKept.made found hFound with ⟨bytes, hFoundPage⟩
  refine ⟨found, hLookup, ?_⟩
  have hData : found.data = entry.2.data := by
    rw [hFoundPage.hash, hPage.hash] at hHash
    exact
      eq_of_sha256Hex hInjective ⟨found, hFound, rfl⟩
        ⟨entry.2, hHashed, rfl⟩ hHash
  rw [hFoundPage.compression_eq hLawful hPage hData, hData]
  exact hPage.decompress hLawful

/- Every snapshot is exact. -/
theorem Kept.exact
    {history : SnapshotHistory}
    (hKept : history.Kept)
    (hLawful : LawfulCompressors)
    (op : SnapshotOp) :
    history.Exact op := by
  cases op with
  | snapshotDirty regionId memoryData =>
      intro pages hOk
      constructor
      · unfold dirtyWithin
        cases history.manager.regions.lookup regionId with
        | none => exact List.Pairwise.nil
        | some tracker =>
            exact tracker.getDirtyPages_pairwise.filter _
      · exact
          (snapshotDirty_forall₂ hKept.default hOk).imp
            fun _ _ hPage => hPage.decompress hLawful
  | registerRegion regionId baseAddr size => trivial
  | markPageDirty regionId pageOffset => trivial
  | recordPageAccess regionId pageOffset => trivial

/-
  In every run of a new manager each snapshot returns the
  dirty pages in order, with the bytes of its image, and at
  any later moment there is a page with these bytes under
  the hash of each page returned.
-/
theorem snapshotFidelity
    (hLawful : LawfulCompressors)
    (ops : List SnapshotOp)
    (hInjective :
      Set.InjOn Sha256.digest
        (Runs.run step new ops).hashedData) :
    Runs.AlongRun step Exact new ops ∧
      Runs.Throughout step Faithful new ops := by
  constructor
  · have hAny :
        Runs.AlongRun step (fun _ _ => True) new ops :=
      Runs.alongRun_of_forall_mem fun _ _ _ => trivial
    exact
      Runs.alongRun_of_invariant
        (fun history op hKept _ =>
          kept_step history op hKept)
        (fun _ op hKept _ => hKept.exact hLawful op)
        kept_new hAny
  · apply Runs.throughout_iff_prefix.mpr
    rintro earlier ⟨later, rfl⟩
    have hKept : (Runs.run step new earlier).Kept :=
      Runs.run_of_invariant kept_step earlier kept_new
    apply hKept.faithful hLawful
    refine hInjective.mono ?_
    rintro data ⟨page, hPage, rfl⟩
    refine ⟨page, ?_, rfl⟩
    rw [Runs.run_append]
    exact hashed_subset _ later hPage

end SnapshotHistory

end Histories

------------------------------------------------------------
-- A Sample Run
------------------------------------------------------------

namespace SnapshotSample

def dirty : MemorySnapshotManager :=
  (MemorySnapshotManager.new.registerRegion "test" 0x1000
    4096).markPageDirty "test" 0

def ops : List SnapshotOp :=
  [.registerRegion "test" 0x1000 4096,
    .markPageDirty "test" 0,
    .snapshotDirty "test" (image 1),
    .recordPageAccess "test" 0]

def tracker : DirtyPageTracker :=
  ⟨0x1000, 4096, [true], [0]⟩

theorem lookup_tracker :
    dirty.regions.lookup "test" = some tracker := by
  decide +kernel

theorem classifyTemperature_tracker :
    tracker.classifyTemperature = some ⟨∅, {0}, ∅⟩ := by
  decide +kernel

end SnapshotSample

open SnapshotSample

/- The page is returned, and found whole under its hash. -/
theorem SnapshotHistory.snapshotFidelity_sample :
    (MemorySnapshotManager.snapshotDirty "test" (image 1)
          dirty).1 =
        .ok [MemorySnapshotManager.pageOf .lz4 packed] ∧
      Runs.AlongRun step Exact new ops ∧
      Runs.Throughout step Faithful new ops := by
  refine
    ⟨snapshotDirty_image lookup_tracker
      classifyTemperature_tracker (by decide)
      (by decide +kernel), ?_⟩
  apply snapshotFidelity lawfulCompressors
  have hKept : (Runs.run step new ops).Kept :=
    Runs.run_of_invariant kept_step ops kept_new
  rintro one ⟨onePage, hOne, rfl⟩ other
    ⟨otherPage, hOther, rfl⟩ _
  rcases hKept.made onePage hOne with ⟨_, hOnePage⟩
  rcases hKept.made otherPage hOther with ⟨_, hOtherPage⟩
  exact
    (data_eq_packed hOnePage).trans
      (data_eq_packed hOtherPage).symm

end IsaWorkspace
