import IsaWorkspace.Foundations.Loops
import IsaWorkspace.Memory.Snapshot
import IsaWorkspace.Model
import Mathlib.Algebra.Order.Floor.Div
import Mathlib.Order.CompletePartialOrder
import Mathlib.Order.Interval.Set.Disjoint

/-
  The index from page addresses to page keys.

  Two loops, over the regions and over the pages of each,
  write into one map.  Where the pages of different regions
  do not overlap, no page overwrites another, and the map
  has one entry for each page.

  Main declarations:
    * `MemorySnapshotManager.buildPageOffsetIndex`
    * `MemoryRegion.pageRange`, `MemoryRegion.FitsWords`
    * `MemoryRegion.pageEntries`
    * `nodup_pageEntries`, `buildPageOffsetIndex_eq`
    * `buildPageOffsetIndex_exact`
-/

------------------------------------------------------------
-- The Loops
------------------------------------------------------------

namespace IsaWorkspace

namespace MemorySnapshotManager

variable [BuildProfile]

/- Enter one page of a region; `none` is a panic. -/
def indexPage
    (region : MemoryRegion)
    (pageSize : UInt64)
    (index : HashMap UInt64 String)
    (pageNum : Nat) :
    Option (HashMap UInt64 String) := do
  let offset ← checkedMul (UInt64.ofNat pageNum) pageSize
  let pageAddr ← checkedAdd region.baseAddr offset
  let key := region.regionId ++ "-" ++ toString pageNum
  pure (index.insert pageAddr key)

/- Enter all pages of a region, the last one as a whole. -/
def indexRegion
    (pageSize : UInt64)
    (index : HashMap UInt64 String)
    (region : MemoryRegion) :
    Option (HashMap UInt64 String) := do
  let sum ← checkedAdd region.size pageSize
  let rounded ← checkedSub sum 1
  let numPages ←
    if pageSize = 0 then none else some (rounded / pageSize)
  (List.range numPages.toNat).foldlM
    (indexPage region pageSize) index

/- Build page offset index for page lookup by address. -/
def buildPageOffsetIndex
    (regions : List MemoryRegion)
    (pageSize : UInt64) : Option (HashMap UInt64 String) :=
  regions.foldlM (indexRegion pageSize) ∅

end MemorySnapshotManager

------------------------------------------------------------
-- The Pages of a Region
------------------------------------------------------------

namespace MemoryRegion

/- The number of pages, the last one possibly in part. -/
def pageCount
    (region : MemoryRegion)
    (pageSize : UInt64) : Nat :=
  region.size.toNat ⌈/⌉ pageSize.toNat

/- The addresses of a region, filled up to whole pages. -/
def pageRange
    (region : MemoryRegion)
    (pageSize : UInt64) : Set Nat :=
  Set.Ico region.baseAddr.toNat
    (region.baseAddr.toNat +
      region.pageCount pageSize * pageSize.toNat)

/- No sum that the loops compute leaves the words. -/
structure FitsWords
    (region : MemoryRegion)
    (pageSize : UInt64) : Prop where
  size : region.size.toNat + pageSize.toNat < 2 ^ 64
  address :
    ∀ pageNum < region.pageCount pageSize,
      region.baseAddr.toNat + pageNum * pageSize.toNat <
        2 ^ 64

/- The address of a page. -/
def pageAddr
    (region : MemoryRegion)
    (pageSize : UInt64)
    (pageNum : Nat) : UInt64 :=
  UInt64.ofNat
    (region.baseAddr.toNat + pageNum * pageSize.toNat)

/- The key of a page. -/
def pageKey
    (region : MemoryRegion)
    (pageNum : Nat) : String :=
  region.regionId ++ "-" ++ toString pageNum

/- What is entered for a region. -/
def pageEntries
    (region : MemoryRegion)
    (pageSize : UInt64) : List (UInt64 × String) :=
  (List.range (region.pageCount pageSize)).map fun pageNum =>
    (region.pageAddr pageSize pageNum,
      region.pageKey pageNum)

variable {region other : MemoryRegion}
variable {pageSize : UInt64} {pageNum : Nat}

theorem toNat_pageAddr
    (hFits : region.FitsWords pageSize)
    (hPage : pageNum < region.pageCount pageSize) :
    (region.pageAddr pageSize pageNum).toNat =
      region.baseAddr.toNat + pageNum * pageSize.toNat := by
  exact UInt64.toNat_ofNat_of_lt' (hFits.address _ hPage)

theorem mem_pageEntries_iff
    {entry : UInt64 × String} :
    entry ∈ region.pageEntries pageSize ↔
      ∃ pageNum < region.pageCount pageSize,
        entry =
          (region.pageAddr pageSize pageNum,
            region.pageKey pageNum) := by
  unfold pageEntries
  rw [List.mem_map]
  constructor
  · rintro ⟨pageNum, hPage, rfl⟩
    exact ⟨pageNum, List.mem_range.mp hPage, rfl⟩
  · rintro ⟨pageNum, hPage, rfl⟩
    exact ⟨pageNum, List.mem_range.mpr hPage, rfl⟩

/- An entry is for an address in the range of its pages. -/
theorem mem_pageRange_of_mem_pageEntries
    (hPageSize : 1 ≤ pageSize.toNat)
    (hFits : region.FitsWords pageSize)
    {entry : UInt64 × String}
    (hEntry : entry ∈ region.pageEntries pageSize) :
    entry.1.toNat ∈ region.pageRange pageSize := by
  obtain ⟨pageNum, hPage, rfl⟩ :=
    mem_pageEntries_iff.mp hEntry
  have hOffset :
      pageNum * pageSize.toNat <
        region.pageCount pageSize * pageSize.toNat :=
    Nat.mul_lt_mul_of_pos_right hPage hPageSize
  unfold pageRange
  rw [Set.mem_Ico, toNat_pageAddr hFits hPage]
  omega

/- The pages of one region have different addresses. -/
theorem nodup_pageEntries
    (hPageSize : 1 ≤ pageSize.toNat)
    (hFits : region.FitsWords pageSize) :
    ((region.pageEntries pageSize).map Prod.fst).Nodup := by
  unfold pageEntries
  rw [List.map_map]
  apply List.Nodup.map_on _ List.nodup_range
  intro one hOne two hTwo hAddr
  have hEq := congrArg UInt64.toNat hAddr
  rw [Function.comp_apply, Function.comp_apply,
    toNat_pageAddr hFits (List.mem_range.mp hOne),
    toNat_pageAddr hFits (List.mem_range.mp hTwo)] at hEq
  exact Nat.eq_of_mul_eq_mul_right hPageSize
    (Nat.add_left_cancel hEq)

/- Two regions whose pages do not overlap share no address. -/
theorem disjoint_pageEntries
    (hPageSize : 1 ≤ pageSize.toNat)
    (hFits : region.FitsWords pageSize)
    (hOther : other.FitsWords pageSize)
    (hDisjoint :
      Disjoint (region.pageRange pageSize)
        (other.pageRange pageSize)) :
    List.Disjoint
      ((region.pageEntries pageSize).map Prod.fst)
      ((other.pageEntries pageSize).map Prod.fst) := by
  intro addr hLeft hRight
  obtain ⟨left, hLeftEntry, rfl⟩ := List.mem_map.mp hLeft
  obtain ⟨right, hRightEntry, hAddr⟩ :=
    List.mem_map.mp hRight
  have hInLeft :=
    mem_pageRange_of_mem_pageEntries hPageSize hFits
      hLeftEntry
  have hInRight :=
    mem_pageRange_of_mem_pageEntries hPageSize hOther
      hRightEntry
  rw [hAddr] at hInRight
  exact Set.disjoint_left.mp hDisjoint hInLeft hInRight

/-
  The entries of regions whose pages do not overlap have
  different addresses.
-/
theorem nodup_flatMap_pageEntries
    {regions : List MemoryRegion}
    (hPageSize : 1 ≤ pageSize.toNat)
    (hFits :
      ∀ region ∈ regions, region.FitsWords pageSize)
    (hDisjoint :
      regions.Pairwise fun region other =>
        Disjoint (region.pageRange pageSize)
          (other.pageRange pageSize)) :
    ((regions.flatMap fun region =>
        region.pageEntries pageSize).map Prod.fst).Nodup := by
  rw [List.map_flatMap, List.nodup_flatMap]
  constructor
  · intro region hRegion
    exact nodup_pageEntries hPageSize (hFits region hRegion)
  · apply hDisjoint.imp_of_mem
    intro region other hRegion hOther hApart
    exact disjoint_pageEntries hPageSize
      (hFits region hRegion) (hFits other hOther) hApart

end MemoryRegion

end IsaWorkspace

------------------------------------------------------------
-- What the Loops Enter
------------------------------------------------------------

namespace IsaWorkspace

namespace MemorySnapshotManager

open MemoryRegion

variable [BuildProfile]
variable {region : MemoryRegion} {pageSize : UInt64}
variable {pageNum : Nat} {regions : List MemoryRegion}

/- A page is entered under its address. -/
theorem indexPage_eq
    (hPageSize : 1 ≤ pageSize.toNat)
    (hFits : region.FitsWords pageSize)
    (hPage : pageNum < region.pageCount pageSize)
    (index : HashMap UInt64 String) :
    indexPage region pageSize index pageNum =
      some
        (index.insert (region.pageAddr pageSize pageNum)
          (region.pageKey pageNum)) := by
  have hAddr := hFits.address pageNum hPage
  have hPageNum :
      (UInt64.ofNat pageNum).toNat = pageNum := by
    apply UInt64.toNat_ofNat_of_lt'
    have hLe := Nat.le_mul_of_pos_right pageNum hPageSize
    exact (hLe.trans (Nat.le_add_left _ _)).trans_lt hAddr
  obtain ⟨offset, hOffset, hOffsetNat⟩ :
      ∃ offset,
        checkedMul (UInt64.ofNat pageNum) pageSize =
            some offset ∧
          offset.toNat = pageNum * pageSize.toNat := by
    have hRange :
        (UInt64.ofNat pageNum).toNat * pageSize.toNat <
          2 ^ 64 := by
      rw [hPageNum]
      exact (Nat.le_add_left _ _).trans_lt hAddr
    refine
      ⟨_, checkedMul_eq_some (Or.inr hRange), ?_⟩
    rw [UInt64.toNat_mul, Nat.mod_eq_of_lt hRange, hPageNum]
  have hSum :
      region.baseAddr.toNat + offset.toNat < 2 ^ 64 := by
    rw [hOffsetNat]
    exact hAddr
  have hPageAddr :
      region.baseAddr + offset =
        region.pageAddr pageSize pageNum := by
    apply UInt64.toNat_inj.mp
    rw [UInt64.toNat_add, Nat.mod_eq_of_lt hSum, hOffsetNat,
      toNat_pageAddr hFits hPage]
  unfold indexPage
  rw [hOffset, Option.bind_eq_bind, Option.bind_some,
    checkedAdd_eq_some (Or.inr hSum), hPageAddr]
  rfl

/- The rounded quotient is the number of pages. -/
theorem indexRegion_eq
    (hPageSize : 1 ≤ pageSize.toNat)
    (hFits : region.FitsWords pageSize)
    (index : HashMap UInt64 String) :
    indexRegion pageSize index region =
      some
        (HashMap.insertAll (region.pageEntries pageSize)
          index) := by
  obtain ⟨sum, hSum, hSumNat⟩ := checkedAdd_of_lt hFits.size
  have hOne : (1 : UInt64) ≤ sum := by
    rw [UInt64.le_iff_toNat_le, hSumNat]
    exact hPageSize.trans (Nat.le_add_left _ _)
  have hNotZero : pageSize ≠ 0 := by
    rintro rfl
    exact absurd hPageSize (by decide)
  have hNumPages :
      ((sum - 1) / pageSize).toNat =
        region.pageCount pageSize := by
    rw [UInt64.toNat_div, UInt64.toNat_sub_of_le _ _ hOne,
      hSumNat]
    rfl
  unfold indexRegion
  rw [hSum, Option.bind_eq_bind, Option.bind_some,
    checkedSub_eq_some (Or.inr hOne), Option.bind_some,
    if_neg hNotZero, Option.bind_some]
  dsimp only
  rw [hNumPages]
  unfold HashMap.insertAll pageEntries
  rw [List.foldl_map]
  exact Loop.foldlM_eq_some
    (fun pageNum hPage index =>
      indexPage_eq hPageSize hFits
        (List.mem_range.mp hPage) index)
    index

theorem buildPageOffsetIndex_eq
    (hPageSize : 1 ≤ pageSize.toNat)
    (hFits :
      ∀ region ∈ regions, region.FitsWords pageSize) :
    buildPageOffsetIndex regions pageSize =
      some
        (HashMap.insertAll
          (regions.flatMap fun region =>
            region.pageEntries pageSize)
          ∅) := by
  unfold buildPageOffsetIndex HashMap.insertAll
  rw [Loop.foldlM_eq_some
    (fun region hRegion index =>
      indexRegion_eq hPageSize (hFits region hRegion) index),
    List.foldl_flatMap]
  rfl

/-
  Where the pages of different regions do not overlap and
  no sum overflows, each page of each region is found under
  its address, and nothing else is.  The base addresses need
  not be aligned for it.
-/
theorem buildPageOffsetIndex_exact
    (regions : List MemoryRegion)
    (pageSize : UInt64)
    (hPageSize : 1 ≤ pageSize.toNat)
    (hFits :
      ∀ region ∈ regions, region.FitsWords pageSize)
    (hDisjoint :
      regions.Pairwise fun region other =>
        Disjoint (region.pageRange pageSize)
          (other.pageRange pageSize)) :
    ∃ index,
      buildPageOffsetIndex regions pageSize = some index ∧
        ∀ addr key,
          index.lookup addr = some key ↔
            ∃ region ∈ regions, ∃ pageNum : Nat,
              pageNum <
                  region.size.toNat ⌈/⌉ pageSize.toNat ∧
                addr.toNat =
                  region.baseAddr.toNat +
                    pageNum * pageSize.toNat ∧
                key =
                  region.regionId ++ "-" ++
                    toString pageNum := by
  refine ⟨_, buildPageOffsetIndex_eq hPageSize hFits, ?_⟩
  intro addr key
  rw [HashMap.lookup_insertAll_iff
    (nodup_flatMap_pageEntries hPageSize hFits hDisjoint),
    List.mem_flatMap]
  constructor
  · rintro ⟨region, hRegion, hEntry⟩
    obtain ⟨pageNum, hPage, hPair⟩ :=
      mem_pageEntries_iff.mp hEntry
    obtain ⟨rfl, rfl⟩ := Prod.mk.inj hPair
    exact
      ⟨region, hRegion, pageNum, hPage,
        toNat_pageAddr (hFits region hRegion) hPage, rfl⟩
  · rintro ⟨region, hRegion, pageNum, hPage, hAddr, rfl⟩
    have hPageAddr :
        addr = region.pageAddr pageSize pageNum := by
      apply UInt64.toNat_inj.mp
      rw [hAddr, toNat_pageAddr (hFits region hRegion) hPage]
    exact
      ⟨region, hRegion,
        mem_pageEntries_iff.mpr
          ⟨pageNum, hPage, Prod.ext hPageAddr rfl⟩⟩

end MemorySnapshotManager

end IsaWorkspace

namespace IsaWorkspace

namespace MemorySnapshotManager

open MemoryRegion

/- A region for samples. -/
def sampleRegion
    (regionId : String)
    (baseAddr size : UInt64) : MemoryRegion where
  regionId := regionId
  baseAddr := baseAddr
  size := size
  flags := { read := true, write := true, execute := false }
  temperature := .hot

/- The second page of the heap is there only in part. -/
theorem buildPageOffsetIndex_exact_sample :
    ∃ index,
      @buildPageOffsetIndex ⟨true⟩
            [sampleRegion "heap" 0 5000,
              sampleRegion "stack" 8192 1] 4096 =
          some index ∧
        index.lookup 4096 = some "heap-1" := by
  have hFits :
      ∀ region ∈
          [sampleRegion "heap" 0 5000,
            sampleRegion "stack" 8192 1],
        region.FitsWords 4096 := by
    intro region hRegion
    rcases List.mem_pair.mp hRegion with rfl | rfl
    · exact ⟨by decide, by decide⟩
    · exact ⟨by decide, by decide⟩
  have hDisjoint :
      [sampleRegion "heap" 0 5000,
          sampleRegion "stack" 8192 1].Pairwise
        fun region other =>
          Disjoint (region.pageRange 4096)
            (other.pageRange 4096) := by
    apply List.pairwise_pair.mpr
    exact Set.Ico_disjoint_Ico.mpr (by decide)
  obtain ⟨index, hIndex, hLookup⟩ :=
    @buildPageOffsetIndex_exact ⟨true⟩ _ 4096 (by decide)
      hFits hDisjoint
  refine ⟨index, hIndex, (hLookup 4096 "heap-1").mpr ?_⟩
  exact
    ⟨sampleRegion "heap" 0 5000, List.mem_cons_self, 1,
      by decide, by decide, by decide⟩

end MemorySnapshotManager

end IsaWorkspace
