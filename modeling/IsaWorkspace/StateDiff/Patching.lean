import IsaWorkspace.StateDiff.RoundTrip

/-
  Patching a manifest with any delta.

  A delta that was received may name a region in several of
  its lists, and more than once.  What patches leave under an
  id depends on the lists of the delta at that id alone, and
  patching once more changes nothing that is read.

  Main declarations:
    * `StateDelta.Names`
    * `StatePatcher.PatchesStably`
    * `StatePatcher.find_patched`
    * `StatePatcher.patchesStably`
-/

------------------------------------------------------------
-- The Property
------------------------------------------------------------

namespace IsaWorkspace

open MemoryRegion (regionId)

/- An id is that of a region in some list of the delta. -/
def StateDelta.Names
    (delta : StateDelta)
    (id : String) : Prop :=
  ∃ region,
    (region ∈ delta.removedRegions ∨
      region ∈ delta.addedRegions ∨
      region ∈ delta.modifiedRegions) ∧
    region.regionId = id

namespace StatePatcher

/-
  Patches keep ids unique and spare the regions they do not
  name, and the same patches change no more than the order.
-/
structure PatchesStably
    (manifest : List MemoryRegion)
    (delta : StateDelta) : Prop where
  unique :
    KeyedList.Unique regionId
      (applyMemoryPatches manifest delta)
  spares :
    ∀ region : MemoryRegion,
      ¬ delta.Names region.regionId →
        (region ∈ applyMemoryPatches manifest delta ↔
          region ∈ manifest)
  settles :
    (applyMemoryPatches
        (applyMemoryPatches manifest delta) delta).Perm
      (applyMemoryPatches manifest delta)

------------------------------------------------------------
-- What Patches Leave Under an Id
------------------------------------------------------------

variable {delta : StateDelta} {id : String}

/-
  A region that was not removed or else the first one added,
  replaced by the last one modified.
-/
theorem find_patched
    (manifest : List MemoryRegion)
    (delta : StateDelta)
    (id : String) :
    KeyedList.find regionId id
        (applyMemoryPatches manifest delta) =
      ((if KeyedList.find regionId id
            delta.removedRegions = none then
          KeyedList.find regionId id manifest
        else
          none).or
        (KeyedList.find regionId id
          delta.addedRegions)).map fun region =>
        (KeyedList.find regionId id
          delta.modifiedRegions.reverse).getD region := by
  unfold applyMemoryPatches
  rw [KeyedList.find_replaceAll_reverse,
    KeyedList.find_pushAll, KeyedList.find_without]

/- Nothing is found in the delta of what it does not name. -/
theorem find_of_not_names
    (hNot : ¬ delta.Names id) :
    KeyedList.find regionId id
        delta.removedRegions = none ∧
      KeyedList.find regionId id
        delta.addedRegions = none ∧
      KeyedList.find regionId id
        delta.modifiedRegions.reverse = none := by
  refine ⟨?_, ?_, ?_⟩
  · apply KeyedList.find_eq_none_iff.mpr
    intro region hRegion hId
    exact hNot ⟨region, Or.inl hRegion, hId⟩
  · apply KeyedList.find_eq_none_iff.mpr
    intro region hRegion hId
    exact hNot ⟨region, Or.inr (Or.inl hRegion), hId⟩
  · apply KeyedList.find_eq_none_iff.mpr
    intro region hRegion hId
    have hModified := List.mem_reverse.mp hRegion
    exact hNot ⟨region, Or.inr (Or.inr hModified), hId⟩

theorem find_patched_of_not_names
    (manifest : List MemoryRegion)
    (hNot : ¬ delta.Names id) :
    KeyedList.find regionId id
        (applyMemoryPatches manifest delta) =
      KeyedList.find regionId id manifest := by
  rcases find_of_not_names hNot with
    ⟨hRemoved, hAdded, hModified⟩
  rw [find_patched, if_pos hRemoved, hAdded, hModified,
    Option.or_none]
  exact Option.map_id'

/- The same patches find what they have left themselves. -/
theorem find_patched_twice
    (manifest : List MemoryRegion)
    (delta : StateDelta)
    (id : String) :
    KeyedList.find regionId id
        (applyMemoryPatches
          (applyMemoryPatches manifest delta) delta) =
      KeyedList.find regionId id
        (applyMemoryPatches manifest delta) := by
  rw [find_patched (applyMemoryPatches manifest delta),
    find_patched manifest]
  by_cases hRemoved :
      KeyedList.find regionId id delta.removedRegions = none
  · -- what is there stays, with its last replacement
    rw [if_pos hRemoved, if_pos hRemoved]
    cases KeyedList.find regionId id manifest with
    | some old =>
        cases KeyedList.find regionId id
            delta.modifiedRegions.reverse with
        | none => rfl
        | some last => rfl
    | none =>
        cases KeyedList.find regionId id
            delta.addedRegions with
        | none => rfl
        | some added =>
            cases KeyedList.find regionId id
                delta.modifiedRegions.reverse with
            | none => rfl
            | some last => rfl
  · -- it is removed, and added, both times
    rw [if_neg hRemoved, if_neg hRemoved]

------------------------------------------------------------
-- Patching Is Stable
------------------------------------------------------------

theorem patchesStably
    (state : State)
    (hUnique : state.UniqueRegions)
    (delta : StateDelta) :
    PatchesStably state.memoryManifest delta where
  unique := unique_applyMemoryPatches hUnique delta
  spares := by
    intro region hNot
    have hPatched := unique_applyMemoryPatches hUnique delta
    rw [KeyedList.mem_iff_find hPatched,
      KeyedList.mem_iff_find hUnique,
      find_patched_of_not_names _ hNot]
  settles := by
    have hPatched := unique_applyMemoryPatches hUnique delta
    have hTwice := unique_applyMemoryPatches hPatched delta
    apply (KeyedList.perm_iff_find hTwice hPatched).mpr
    exact find_patched_twice state.memoryManifest delta

------------------------------------------------------------
-- A Sample Delta
------------------------------------------------------------

/- A delta with one region in all of its lists. -/
def DeltaSample.overlapping : StateDelta :=
  { StateDelta.new ⟨"s1"⟩ ⟨"s2"⟩ with
    removedRegions := [DeltaSample.ram .hot]
    addedRegions :=
      [DeltaSample.ram .cold, DeltaSample.ram .hot]
    modifiedRegions :=
      [DeltaSample.ram .hot, DeltaSample.ram .cold] }

theorem patchesStably_overlapping :
    DeltaSample.hot.UniqueRegions ∧
      PatchesStably DeltaSample.hot.memoryManifest
        DeltaSample.overlapping :=
  ⟨DeltaSample.uniqueRegions (by decide),
    patchesStably DeltaSample.hot
      (DeltaSample.uniqueRegions (by decide))
      DeltaSample.overlapping⟩

end StatePatcher

end IsaWorkspace
