import IsaWorkspace.Foundations.Runs
import IsaWorkspace.Memory.Snapshot
import IsaWorkspace.Model

/-
  The classification of pages by temperature.

  Each access counter stops at the greatest half word, but
  their sum is taken in a half word as well.  The thresholds
  sort the pages into three sets, each page into one.

  Main declarations:
    * `MemoryTemperatureMap.pagesAt`, `temperatureOf`
    * `DirtyPageTracker.totalAccesses`
    * `DirtyPageTracker.classifyTemperature_eq_none_iff`
    * `DirtyPageTracker.existsUnique_temperature`
    * `DirtyPageTracker.accessed`
    * `DirtyPageTracker.ClassifiesExactly`
    * `DirtyPageTracker.classifiesExactly_iff`
-/

------------------------------------------------------------
-- Sums of Counters
------------------------------------------------------------

namespace IsaWorkspace

namespace DirtyPageTracker

/- The sum of the counters as a number. -/
def totalAccesses
    (tracker : DirtyPageTracker) : Nat :=
  (tracker.accessCounts.map UInt32.toNat).sum

variable [BuildProfile]

/- The sum panics only in a checking build, out of range. -/
theorem sumAccesses_eq_none_iff
    (total : UInt32)
    (counts : List UInt32) :
    sumAccesses total counts = none ↔
      BuildProfile.overflowChecks = true ∧
        2 ^ 32 ≤
          total.toNat + (counts.map UInt32.toNat).sum := by
  induction counts generalizing total with
  | nil =>
      have hTotal := total.toNat_lt
      refine iff_of_false nofun ?_
      rintro ⟨_, hBeyond⟩
      rw [List.map_nil, List.sum_nil] at hBeyond
      omega
  | cons count rest ih =>
      rw [List.map_cons, List.sum_cons]
      unfold sumAccesses
      by_cases hRange : total.toNat + count.toNat < 2 ^ 32
      · rw [if_pos (Or.inl hRange), ih, UInt32.toNat_add,
          Nat.mod_eq_of_lt hRange, Nat.add_assoc]
      · cases hChecks : BuildProfile.overflowChecks with
        | false =>
            rw [if_pos (Or.inr rfl), ih, hChecks]
            exact iff_of_false (fun h => by cases h.1)
              fun h => by cases h.1
        | true =>
            rw [if_neg]
            · refine iff_of_true rfl ⟨rfl, ?_⟩
              omega
            · rintro (hInside | hFalse)
              · exact hRange hInside
              · cases hFalse

/- A sum that is returned is right up to the word. -/
theorem toNat_of_sumAccesses
    {total sum : UInt32}
    {counts : List UInt32}
    (hSum : sumAccesses total counts = some sum) :
    sum.toNat =
      (total.toNat + (counts.map UInt32.toNat).sum) %
        2 ^ 32 := by
  induction counts generalizing total with
  | nil =>
      cases hSum
      rw [List.map_nil, List.sum_nil, Nat.add_zero]
      exact (Nat.mod_eq_of_lt (UInt32.toNat_lt _)).symm
  | cons count rest ih =>
      unfold sumAccesses at hSum
      split at hSum
      · rw [ih hSum, List.map_cons, List.sum_cons,
          UInt32.toNat_add, Nat.mod_add_mod, Nat.add_assoc]
      · cases hSum

/- The sum is exact as long as it is in range. -/
theorem sumAccesses_exact_iff
    (tracker : DirtyPageTracker) :
    (∃ sum,
        sumAccesses 0 tracker.accessCounts = some sum ∧
          sum.toNat = tracker.totalAccesses) ↔
      tracker.totalAccesses < 2 ^ 32 := by
  constructor
  · rintro ⟨sum, _, hExact⟩
    rw [← hExact]
    exact sum.toNat_lt
  · intro hRange
    cases hSum : sumAccesses 0 tracker.accessCounts with
    | none =>
        have hBeyond :=
          ((sumAccesses_eq_none_iff _ _).mp hSum).2
        unfold totalAccesses at hRange
        simp only [UInt32.toNat_zero] at hBeyond
        omega
    | some sum =>
        have hMod := toNat_of_sumAccesses hSum
        refine ⟨sum, rfl, ?_⟩
        rw [hMod, UInt32.toNat_zero, Nat.zero_add]
        exact Nat.mod_eq_of_lt hRange

/- A region is not classified only where its sum panics. -/
theorem classifyTemperature_eq_none_iff
    (tracker : DirtyPageTracker) :
    tracker.classifyTemperature = none ↔
      BuildProfile.overflowChecks = true ∧
        2 ^ 32 ≤ tracker.totalAccesses := by
  unfold classifyTemperature
  rw [Option.map_eq_none_iff, sumAccesses_eq_none_iff,
    UInt32.toNat_zero, Nat.zero_add]
  rfl

end DirtyPageTracker

end IsaWorkspace

------------------------------------------------------------
-- Sets of Pages
------------------------------------------------------------

namespace IsaWorkspace

namespace MemoryTemperatureMap

/- The pages of a temperature. -/
def pagesAt
    (map : MemoryTemperatureMap) :
    MemoryTemperature → Finset Nat
| .hot => map.hotPages
| .warm => map.warmPages
| .cold => map.coldPages

/- The temperature of a page; other pages count as cold. -/
def temperatureOf
    (map : MemoryTemperatureMap)
    (pageOffset : Nat) : MemoryTemperature :=
  if pageOffset ∈ map.hotPages then
    .hot
  else if pageOffset ∈ map.warmPages then
    .warm
  else
    .cold

end MemoryTemperatureMap

namespace DirtyPageTracker

variable {tracker : DirtyPageTracker} {pageOffset : Nat}

theorem mem_pagesWhere
    {condition : UInt32 → Bool} :
    pageOffset ∈ tracker.pagesWhere condition ↔
      ∃ count,
        tracker.accessCounts[pageOffset]? = some count ∧
          condition count = true := by
  unfold pagesWhere
  rw [List.mem_toFinset, List.mem_map]
  constructor
  · rintro ⟨⟨count, index⟩, hEntry, rfl⟩
    rcases List.mem_filter.mp hEntry with ⟨hIndex, hMeets⟩
    exact
      ⟨count, List.mem_zipIdx_iff_getElem?.mp hIndex, hMeets⟩
  · rintro ⟨count, hIndex, hMeets⟩
    refine ⟨(count, pageOffset), ?_, rfl⟩
    exact
      List.mem_filter.mpr
        ⟨List.mem_zipIdx_iff_getElem?.mpr hIndex, hMeets⟩

/- Pages sorted by two conditions, the first one first. -/
theorem mem_pagesAt_sorted_iff
    (isHot isWarm : UInt32 → Bool)
    (hPage : pageOffset < tracker.accessCounts.length)
    (temperature : MemoryTemperature) :
    let map : MemoryTemperatureMap :=
      { hotPages := tracker.pagesWhere isHot
        warmPages :=
          tracker.pagesWhere fun count =>
            !isHot count && isWarm count
        coldPages :=
          tracker.pagesWhere fun count =>
            !isHot count &&
              !(!isHot count && isWarm count) }
    pageOffset ∈ map.pagesAt temperature ↔
      temperature = map.temperatureOf pageOffset := by
  have hIndex :
      tracker.accessCounts[pageOffset]? =
        some tracker.accessCounts[pageOffset] :=
    List.getElem?_eq_getElem hPage
  have hMem :
      ∀ condition,
        pageOffset ∈ tracker.pagesWhere condition ↔
          condition tracker.accessCounts[pageOffset] =
            true := by
    intro condition
    rw [mem_pagesWhere, hIndex]
    simp
  intro map
  unfold MemoryTemperatureMap.temperatureOf
  simp only [map, hMem]
  cases hHot : isHot tracker.accessCounts[pageOffset] with
  | true =>
      cases temperature <;>
        simp [MemoryTemperatureMap.pagesAt, hMem, hHot]
  | false =>
      cases hWarm :
          isWarm tracker.accessCounts[pageOffset] with
      | true =>
          cases temperature <;>
            simp [MemoryTemperatureMap.pagesAt, hMem, hHot,
              hWarm]
      | false =>
          cases temperature <;>
            simp [MemoryTemperatureMap.pagesAt, hMem, hHot,
              hWarm]

variable [BuildProfile] {map : MemoryTemperatureMap}

/- A classified page is in the set of its temperature. -/
theorem mem_pagesAt_iff
    (hMap : tracker.classifyTemperature = some map)
    (hPage : pageOffset < tracker.accessCounts.length)
    (temperature : MemoryTemperature) :
    pageOffset ∈ map.pagesAt temperature ↔
      temperature = map.temperatureOf pageOffset := by
  unfold classifyTemperature at hMap
  rcases Option.map_eq_some_iff.mp hMap with
    ⟨total, _, rfl⟩
  exact mem_pagesAt_sorted_iff _ _ hPage temperature

/- Every page has exactly one temperature. -/
theorem existsUnique_temperature
    (hMap : tracker.classifyTemperature = some map)
    (hPage : pageOffset < tracker.accessCounts.length) :
    ∃! temperature, pageOffset ∈ map.pagesAt temperature := by
  refine ⟨map.temperatureOf pageOffset, ?_, ?_⟩
  · exact (mem_pagesAt_iff hMap hPage _).mpr rfl
  · intro temperature hTemperature
    exact
      (mem_pagesAt_iff hMap hPage temperature).mp
        hTemperature

end DirtyPageTracker

end IsaWorkspace

------------------------------------------------------------
-- Histories of Accesses
------------------------------------------------------------

namespace IsaWorkspace

namespace DirtyPageTracker

/- A new tracker after some accesses. -/
def accessed
    (baseAddr : UInt64)
    (totalSize : Nat)
    (accesses : List Nat) : DirtyPageTracker :=
  Runs.run recordAccess (new baseAddr totalSize) accesses

/- Accesses leave the region where it is. -/
theorem accessed_region
    (baseAddr : UInt64)
    (totalSize : Nat)
    (accesses : List Nat) :
    (accessed baseAddr totalSize accesses).baseAddr =
        baseAddr ∧
      (accessed baseAddr totalSize accesses).totalSize =
        totalSize := by
  have hStep :
      ∀ (tracker : DirtyPageTracker) pageOffset,
        tracker.baseAddr = baseAddr ∧
            tracker.totalSize = totalSize →
          (tracker.recordAccess pageOffset).baseAddr =
              baseAddr ∧
            (tracker.recordAccess pageOffset).totalSize =
              totalSize := by
    intro tracker pageOffset hRegion
    unfold recordAccess
    split
    · exact hRegion
    · exact hRegion
  exact Runs.run_of_invariant hStep accesses ⟨rfl, rfl⟩

theorem toNat_saturatingSucc
    (count : UInt32) :
    (saturatingSucc count).toNat =
      min (count.toNat + 1) (2 ^ 32 - 1) := by
  have hCount := count.toNat_lt
  unfold saturatingSucc
  split
  · next hRoom =>
      rw [UInt32.toNat_add, UInt32.toNat_one,
        Nat.mod_eq_of_lt (by omega)]
      omega
  · omega

/- An access changes at most the counter of its page. -/
theorem getElem?_recordAccess
    (tracker : DirtyPageTracker)
    (accessed pageOffset : Nat) :
    (tracker.recordAccess accessed).accessCounts[pageOffset]? =
      (tracker.accessCounts[pageOffset]?).map fun count =>
        if accessed = pageOffset then saturatingSucc count
        else count := by
  unfold recordAccess
  cases hCount : tracker.accessCounts[accessed]? with
  | none =>
      by_cases hSame : accessed = pageOffset
      · rw [← hSame, hCount]
        rfl
      · simp [hSame]
  | some count =>
      dsimp only
      rw [List.getElem?_set]
      by_cases hSame : accessed = pageOffset
      · subst hSame
        have hInside :
            accessed < tracker.accessCounts.length :=
          (List.getElem?_eq_some_iff.mp hCount).1
        rw [if_pos rfl, if_pos hInside, hCount]
        simp
      · simp [hSame]

/- Each counter stops at the greatest half word. -/
theorem accessCounts_accessed
    (baseAddr : UInt64)
    (totalSize : Nat)
    (accesses : List Nat) :
    (accessed baseAddr totalSize accesses).accessCounts.map
        UInt32.toNat =
      (List.range (totalSize / pageSize)).map fun pageOffset =>
        min (accesses.count pageOffset) (2 ^ 32 - 1) := by
  induction accesses using List.reverseRecOn with
  | nil => simp [accessed, new]
  | append_singleton earlier page ih =>
      unfold accessed at ih ⊢
      rw [Runs.run_concat]
      apply List.ext_getElem?
      intro index
      have hEarlier :=
        congrArg (fun counts => counts[index]?) ih
      simp only [List.getElem?_map] at hEarlier
      rw [List.getElem?_map, getElem?_recordAccess,
        List.getElem?_map, Option.map_map]
      generalize
        (Runs.run recordAccess (new baseAddr totalSize)
          earlier).accessCounts[index]? = found at hEarlier ⊢
      cases hRange :
          (List.range (totalSize / pageSize))[index]? with
      | none =>
          rw [hRange] at hEarlier
          rw [Option.map_eq_none_iff.mp hEarlier]
          rfl
      | some pageOffset =>
          rw [hRange] at hEarlier
          rcases Option.map_eq_some_iff.mp hEarlier with
            ⟨count, rfl, hCount⟩
          rcases List.getElem?_eq_some_iff.mp hRange with
            ⟨_, hIndex⟩
          rw [List.getElem_range] at hIndex
          subst hIndex
          have hEqual :
              count.toNat =
                min (earlier.count index) (2 ^ 32 - 1) :=
            hCount
          refine congrArg some ?_
          simp only [Function.comp_apply]
          rw [List.count_append, List.count_singleton]
          by_cases hSame : page = index
          · simp only [hSame, if_true, toNat_saturatingSucc,
              beq_self_eq_true]
            omega
          · simp only [hSame, if_false, beq_iff_eq]
            exact hEqual

/- The sum of all counters after some accesses. -/
theorem totalAccesses_accessed
    (baseAddr : UInt64)
    (totalSize : Nat)
    (accesses : List Nat) :
    (accessed baseAddr totalSize accesses).totalAccesses =
      ((List.range (totalSize / pageSize)).map fun pageOffset =>
        min (accesses.count pageOffset) (2 ^ 32 - 1)).sum := by
  unfold totalAccesses
  rw [accessCounts_accessed]

------------------------------------------------------------
-- Exact Classifications
------------------------------------------------------------

variable [BuildProfile]

/-
  The sum of the counters is taken without leaving the range
  of its word, and every page has exactly one temperature.
-/
structure ClassifiesExactly
    (tracker : DirtyPageTracker) : Prop where
  sum :
    ∃ total,
      sumAccesses 0 tracker.accessCounts = some total ∧
        total.toNat = tracker.totalAccesses
  pages :
    ∃ map,
      tracker.classifyTemperature = some map ∧
        ∀ pageOffset < tracker.accessCounts.length,
          ∃! temperature,
            pageOffset ∈ map.pagesAt temperature

theorem classifiesExactly_iff_total
    (tracker : DirtyPageTracker) :
    tracker.ClassifiesExactly ↔
      tracker.totalAccesses < 2 ^ 32 := by
  constructor
  · intro hExact
    exact (sumAccesses_exact_iff tracker).mp hExact.sum
  · intro hRange
    refine ⟨(sumAccesses_exact_iff tracker).mpr hRange, ?_⟩
    cases hMap : tracker.classifyTemperature with
    | none =>
        have hBeyond :=
          ((classifyTemperature_eq_none_iff tracker).mp
            hMap).2
        omega
    | some map =>
        exact
          ⟨map, rfl, fun _ hPage =>
            existsUnique_temperature hMap hPage⟩

/-
  After any accesses a region is classified exactly when its
  counters, each of them stopped at the greatest half word,
  add up to a half word.
-/
theorem classifiesExactly_iff
    (baseAddr : UInt64)
    (totalSize : Nat)
    (accesses : List Nat) :
    (accessed baseAddr totalSize accesses).ClassifiesExactly ↔
      ((List.range (totalSize / pageSize)).map fun pageOffset =>
        min (accesses.count pageOffset) (2 ^ 32 - 1)).sum <
        2 ^ 32 := by
  rw [classifiesExactly_iff_total, totalAccesses_accessed]

end DirtyPageTracker

end IsaWorkspace

namespace IsaWorkspace

namespace DirtyPageTracker

/- The greatest half word and one more. -/
theorem totalAccesses_beyond :
    2 ^ 32 ≤
      (accessed 0x1000 8192
        (List.replicate (2 ^ 32 - 1) 0 ++
          [1])).totalAccesses := by
  rw [totalAccesses_accessed]
  have hFirst :
      (List.replicate (2 ^ 32 - 1) 0 ++ [1]).count 0 =
        2 ^ 32 - 1 := by
    rw [List.count_append, List.count_replicate_self]
    rfl
  have hSecond :
      (List.replicate (2 ^ 32 - 1) 0 ++ [1]).count 1 = 1 := by
    rw [List.count_append, List.count_replicate]
    rfl
  have hPages : List.range (8192 / pageSize) = [0, 1] := rfl
  rw [hPages, List.map_cons, List.map_cons, hFirst, hSecond]
  decide

theorem classifiesExactly_beyond :
    ¬ @ClassifiesExactly ⟨true⟩
      (accessed 0x1000 8192
        (List.replicate (2 ^ 32 - 1) 0 ++ [1])) := by
  rw [@classifiesExactly_iff_total ⟨true⟩]
  exact Nat.not_lt_of_le totalAccesses_beyond

end DirtyPageTracker

end IsaWorkspace
