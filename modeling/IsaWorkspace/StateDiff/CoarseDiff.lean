import IsaWorkspace.StateDiff.RoundTrip

/-
  Round trips of a differ that compares no pages.

  Such a differ takes all common regions from the target, in
  the order in which it visits those of the source, so that
  every patched manifest has the regions of the target.

  Main declarations:
    * `StateDiffer.coarseModified_eq`
    * `StatePatcher.find_coarsePatches`
    * `StatePatcher.CoarselyRecreates`
    * `StatePatcher.coarseRoundTrip`
-/

------------------------------------------------------------
-- The Property
------------------------------------------------------------

namespace IsaWorkspace

open MemoryRegion (regionId)

section Deltas

variable [Sha256] [SerdeJson CPUState]
variable [SerdeJson FDDescriptor]
variable [SerdeJson SocketDescriptor]
variable {fromState toState : State}

namespace StatePatcher

/-
  A delta gives the source the manifest of the target, its
  regions in any order, and no state of another id.
-/
structure CoarselyRecreates
    (fromState toState : State)
    (delta : StateDelta)
    (toCpu : Option CPUState) : Prop where
  manifest :
    ∃ result,
      applyDelta fromState delta toCpu = .ok result ∧
        result.memoryManifest.Perm toState.memoryManifest
  mismatch :
    ∀ other : State, other.stateId ≠ fromState.stateId →
      applyDelta other delta toCpu =
        .error
          (.stateMismatch other.stateId.id
            fromState.stateId.id)

end StatePatcher

------------------------------------------------------------
-- What a Coarse Delta Says of a Region
------------------------------------------------------------

namespace StateDiffer

variable {differ : StateDiffer}

/- All common regions are modified. -/
theorem coarseModified_eq
    (hCoarse : differ.pageLevelDiff = false)
    (fromOrder : RegionOrder fromState)
    (toOrder : RegionOrder toState) :
    (differ.computeDelta fromState toState fromOrder
        toOrder).modifiedRegions =
      KeyedList.renewed fromOrder
        toState.memoryManifest := by
  unfold computeDelta compareMemoryRegions
  rw [hCoarse]
  rfl

end StateDiffer

------------------------------------------------------------
-- What Coarse Patches Leave
------------------------------------------------------------

namespace StatePatcher

open StateDiffer

variable {differ : StateDiffer}

/- Patched, each id has the region of the target. -/
theorem find_coarsePatches
    (hFrom : fromState.UniqueRegions)
    (hTo : toState.UniqueRegions)
    (hCoarse : differ.pageLevelDiff = false)
    (fromOrder : RegionOrder fromState)
    (toOrder : RegionOrder toState)
    (id : String) :
    KeyedList.find regionId id
        (applyMemoryPatches fromState.memoryManifest
          (differ.computeDelta fromState toState fromOrder
            toOrder)) =
      toState.region id := by
  have hModified :
      KeyedList.Unique regionId
        (differ.computeDelta fromState toState fromOrder
          toOrder).modifiedRegions := by
    rw [coarseModified_eq hCoarse]
    exact KeyedList.unique_renewed hTo fromOrder
  have hSource :
      KeyedList.find regionId id fromState.memoryManifest =
        fromState.region id := rfl
  have hTarget :
      KeyedList.find regionId id toState.memoryManifest =
        toState.region id := rfl
  unfold applyMemoryPatches
  rw [KeyedList.find_replaceAll _ hModified,
    KeyedList.find_pushAll, KeyedList.find_without,
    find_addedRegions differ hFrom hTo,
    find_removedRegions differ hFrom hTo,
    coarseModified_eq hCoarse,
    KeyedList.find_renewed hFrom hTo, hSource, hTarget]
  cases toState.region id with
  | none =>
      cases fromState.region id with
      | none => rfl
      | some source => simp
  | some target =>
      cases fromState.region id with
      | none => simp
      | some source => simp

/- A delta is not applied to a state of another id. -/
omit [Sha256] [SerdeJson CPUState]
  [SerdeJson FDDescriptor] [SerdeJson SocketDescriptor] in
theorem applyDelta_of_ne
    {other : State}
    {delta : StateDelta}
    (hOther : other.stateId ≠ delta.fromState)
    (toCpu : Option CPUState) :
    applyDelta other delta toCpu =
      .error
        (.stateMismatch other.stateId.id
          delta.fromState.id) := by
  unfold applyDelta
  rw [if_neg (Ne.symm hOther)]

------------------------------------------------------------
-- Coarse Round Trips
------------------------------------------------------------

theorem coarseRoundTrip
    (differ : StateDiffer)
    (hCoarse : differ.pageLevelDiff = false)
    (hFrom : fromState.UniqueRegions)
    (hTo : toState.UniqueRegions)
    (fromOrder : RegionOrder fromState)
    (toOrder : RegionOrder toState)
    (toCpu : Option CPUState) :
    CoarselyRecreates fromState toState
      (differ.computeDelta fromState toState fromOrder
        toOrder)
      toCpu := by
  let delta :=
    differ.computeDelta fromState toState fromOrder toOrder
  have hSource :
      delta.fromState = fromState.stateId := by
    change
      (differ.compareMemoryRegions _ fromState toState
        fromOrder toOrder).fromState = fromState.stateId
    unfold compareMemoryRegions
    rw [hCoarse]
    rfl
  constructor
  · have hPatched :
        KeyedList.Unique regionId
          (applyMemoryPatches fromState.memoryManifest
            delta) :=
      unique_applyMemoryPatches hFrom delta
    refine ⟨_, if_pos hSource, ?_⟩
    apply (KeyedList.perm_iff_find hPatched hTo).mpr
    exact
      find_coarsePatches hFrom hTo hCoarse fromOrder toOrder
  · intro other hOther
    rw [← hSource] at hOther
    rw [applyDelta_of_ne hOther, hSource]

end StatePatcher

end Deltas

open DeltaSample in
/- A region that only cooled down is patched, too. -/
theorem StatePatcher.coarseRoundTrip_cooled :
    CoarselyRecreates hot cold
      ((StateDiffer.new.withPageDiff false).computeDelta hot
        cold (order hot (by decide))
        (order cold (by decide)))
      none :=
  coarseRoundTrip (StateDiffer.new.withPageDiff false) rfl
    (uniqueRegions (by decide)) (uniqueRegions (by decide))
    (order hot (by decide)) (order cold (by decide)) none

end IsaWorkspace
