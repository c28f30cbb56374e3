import IsaWorkspace.StateDiff.RoundTrip

/-
  One merged delta against deltas applied in a row.

  Applied one after another, the deltas of a chain leave the
  ids of its last state, with the regions as they were in the
  last state that refreshed them.  The merged delta lists no
  regions at all, so it leaves those of the first state.

  Main declarations:
    * `StateChain`, `StatePatcher.applyEach`
    * `lastRefreshed`
    * `StatePatcher.StandsFor`
    * `StatePatcher.mergesAs_iff`
-/

------------------------------------------------------------
-- Chains
------------------------------------------------------------

namespace IsaWorkspace

open MemoryRegion (regionId)
open StateDiffer

/- States, each with the delta that leads to it. -/
abbrev StateChain : Type :=
  List (State × StateDelta)

/- The last state of a chain from some state. -/
def StateChain.last
    (start : State) :
    StateChain → State
| [] => start
| (next, _) :: rest => last next rest

/-
  The last state of a chain that has a region which was new,
  moved or resized, or else the base it is given.
-/
def lastRefreshed
    (base : State) :
    State → StateChain → State
| _, [] => base
| current, (next, _) :: rest =>
    lastRefreshed
      (if Refreshes current next then next else base) next
      rest

/- All states of a chain. -/
def StateChain.states
    (start : State)
    (chain : StateChain) : Set State :=
  { state |
    state = start ∨ ∃ delta, (state, delta) ∈ chain }

section Merging

variable [Sha256] [SerdeJson CPUState]
variable [SerdeJson FDDescriptor]
variable [SerdeJson SocketDescriptor]

/- Every delta was computed between its state and the next. -/
def StateChain.Computed
    (start : State) :
    StateChain → Prop
| [] => True
| (next, delta) :: rest =>
    (∃ fromOrder toOrder,
        StateDiffer.new.computeDelta start next fromOrder
          toOrder =
          delta) ∧
      Computed next rest

namespace StatePatcher

/- Apply deltas in a row, each with its CPU state. -/
def applyEach
    (start : State) :
    StateChain → Except PatchError State
| [] => .ok start
| (next, delta) :: rest =>
    match applyDelta start delta (some next.cpuState) with
    | .ok patched => applyEach patched rest
    | .error error => .error error

variable [BuildProfile]

/-
  The merged delta gives the same as the deltas in a row, the
  regions in any order.
-/
def MergesAs
    (start : State)
    (chain : StateChain) : Prop :=
  ∃ merged one each,
    mergeDeltas (chain.map (·.2)) = .ok (some merged) ∧
      applyDelta start merged
          (some (chain.last start).cpuState) =
        .ok one ∧
      applyEach start chain = .ok each ∧
      one.stateId = each.stateId ∧
      one.cpuState = each.cpuState ∧
      one.memoryManifest.Perm each.memoryManifest

/-
  The regions of the first state are those that the last
  refreshed state has under the ids of the last state.
-/
def Unmoved
    (start : State)
    (chain : StateChain) : Prop :=
  ∀ region,
    region ∈ start.memoryManifest ↔
      region ∈
          (lastRefreshed start start chain).memoryManifest ∧
        ∃ other ∈ (chain.last start).memoryManifest,
          other.regionId = region.regionId

------------------------------------------------------------
-- The Merged Delta
------------------------------------------------------------

/- The pages of a computed delta are empty. -/
omit [BuildProfile] in
theorem deltaSize_computeDelta
    {fromState toState : State}
    (fromOrder : RegionOrder fromState)
    (toOrder : RegionOrder toState) :
    (StateDiffer.new.computeDelta fromState toState
        fromOrder toOrder).deltaSize =
      0 := by
  have hPages :
      (StateDiffer.new.computeDelta fromState toState
          fromOrder toOrder).addedPages =
        (buildPageHashMap toState).retain
          fun hash _ => hash ∉ buildPageHashMap fromState :=
    Finmap.union_empty
  have hWeight :
      (StateDiffer.new.computeDelta fromState toState
          fromOrder toOrder).addedPages.weight
        List.length =
        0 := by
    rw [hPages]
    apply HashMap.weight_eq_zero
    intro hash data hLookup
    rw [HashMap.lookup_retain,
      lookup_buildPageHashMap] at hLookup
    by_cases hHashed :
        ∃ region ∈ toState.memoryManifest,
          regionHash region = hash
    · rw [if_pos hHashed] at hLookup
      rw [← Option.some.inj hLookup.1]
      rfl
    · rw [if_neg hHashed] at hLookup
      cases hLookup.1
  exact congrArg UInt64.ofNat hWeight

/- Merging deltas adds their flags, and no regions. -/
omit [Sha256] [SerdeJson CPUState]
  [SerdeJson FDDescriptor] [SerdeJson SocketDescriptor] in
theorem foldlM_mergeDelta
    {deltas : List StateDelta}
    (hSizes : ∀ delta ∈ deltas, delta.deltaSize = 0)
    {merged : StateDelta}
    (hSize : merged.deltaSize = 0) :
    ∃ result,
      deltas.foldlM mergeDelta merged = some result ∧
        result.fromState = merged.fromState ∧
        result.toState = merged.toState ∧
        result.addedRegions = merged.addedRegions ∧
        result.removedRegions = merged.removedRegions ∧
        result.modifiedRegions = merged.modifiedRegions ∧
        result.cpuChanged =
          (merged.cpuChanged ||
            deltas.any (·.cpuChanged)) := by
  induction deltas generalizing merged with
  | nil =>
      exact
        ⟨merged, rfl, rfl, rfl, rfl, rfl, rfl,
          (Bool.or_false _).symm⟩
  | cons delta rest ih =>
      have hFirst : delta.deltaSize = 0 :=
        hSizes delta List.mem_cons_self
      have hSum :
          checkedAdd merged.deltaSize delta.deltaSize =
            some 0 := by
        rw [hSize, hFirst]
        rfl
      let next : StateDelta :=
        { merged with
          addedPages := delta.addedPages ∪ merged.addedPages
          removedPages :=
            merged.removedPages ∪ delta.removedPages
          cpuChanged := merged.cpuChanged || delta.cpuChanged
          fdChanged := merged.fdChanged || delta.fdChanged
          socketChanged :=
            merged.socketChanged || delta.socketChanged
          deltaSize := 0 }
      have hNext : mergeDelta merged delta = some next := by
        unfold mergeDelta
        rw [hSum]
        rfl
      have hNextSize : next.deltaSize = 0 := rfl
      rcases ih
          (fun other hOther =>
            hSizes other (List.mem_cons_of_mem _ hOther))
          hNextSize with
        ⟨result, hFold, hFrom, hTo, hAdded, hRemoved,
          hModified, hCpu⟩
      refine
        ⟨result, ?_, hFrom, hTo, hAdded, hRemoved,
          hModified, ?_⟩
      · rw [List.foldlM_cons, hNext]
        exact hFold
      · rw [hCpu, List.any_cons, ← Bool.or_assoc]

/- The last delta of a chain leads to its last state. -/
omit [BuildProfile] in
theorem toState_getLastD
    {start : State}
    {chain : StateChain}
    (hComputed : chain.Computed start)
    {delta : StateDelta}
    (hDelta : delta.toState = start.stateId) :
    ((chain.map (·.2)).getLastD delta).toState =
      (chain.last start).stateId := by
  induction chain generalizing start delta with
  | nil => exact hDelta
  | cons entry rest ih =>
      rcases entry with ⟨next, found⟩
      rcases hComputed with
        ⟨⟨fromOrder, toOrder, rfl⟩, hRest⟩
      rw [List.map_cons, List.getLastD_cons]
      exact ih hRest rfl

omit [BuildProfile] in
theorem deltaSize_of_computed
    {start : State}
    {chain : StateChain}
    (hComputed : chain.Computed start) :
    ∀ delta ∈ chain.map (·.2), delta.deltaSize = 0 := by
  induction chain generalizing start with
  | nil =>
      intro delta hDelta
      cases hDelta
  | cons entry rest ih =>
      rcases entry with ⟨next, found⟩
      rcases hComputed with
        ⟨⟨fromOrder, toOrder, rfl⟩, hRest⟩
      intro delta hDelta
      rcases List.mem_cons.mp hDelta with rfl | hLater
      · exact deltaSize_computeDelta fromOrder toOrder
      · exact ih hRest delta hLater

/- The deltas of a chain merge to one that has no regions. -/
theorem mergeDeltas_computed
    {start : State}
    {chain : StateChain}
    (hNonempty : chain ≠ [])
    (hComputed : chain.Computed start) :
    ∃ merged,
      mergeDeltas (chain.map (·.2)) = .ok (some merged) ∧
        merged.fromState = start.stateId ∧
        merged.toState = (chain.last start).stateId ∧
        merged.addedRegions = [] ∧
        merged.removedRegions = [] ∧
        merged.modifiedRegions = [] ∧
        merged.cpuChanged =
          (chain.map (·.2)).any (·.cpuChanged) := by
  cases chain with
  | nil => exact absurd rfl hNonempty
  | cons entry rest =>
      rcases entry with ⟨next, delta⟩
      have hSizes := deltaSize_of_computed hComputed
      have hLast := toState_getLastD hComputed.2 (by
        rcases hComputed.1 with ⟨fromOrder, toOrder, rfl⟩
        rfl : delta.toState = next.stateId)
      have hFirst : delta.fromState = start.stateId := by
        rcases hComputed.1 with ⟨fromOrder, toOrder, rfl⟩
        rfl
      rcases foldlM_mergeDelta hSizes
          (rfl :
            (StateDelta.new delta.fromState
              ((rest.map (·.2)).getLastD
                delta).toState).deltaSize = 0) with
        ⟨merged, hFold, hFrom, hTo, hAdded, hRemoved,
          hModified, hCpu⟩
      refine
        ⟨merged, ?_, hFrom.trans hFirst, hTo.trans hLast,
          hAdded, hRemoved, hModified, ?_⟩
      · rw [List.map_cons]
        unfold mergeDeltas
        rw [List.map_cons] at hFold
        simp only [hFold]
      · rw [hCpu]
        rfl

------------------------------------------------------------
-- Deltas in a Row
------------------------------------------------------------

omit [Sha256] [SerdeJson CPUState]
  [SerdeJson FDDescriptor] [SerdeJson SocketDescriptor]
  [BuildProfile] in
theorem states_subset
    (start next : State)
    (delta : StateDelta)
    (rest : StateChain) :
    rest.states next ⊆
      StateChain.states start ((next, delta) :: rest) := by
  rintro state (rfl | ⟨found, hFound⟩)
  · exact Or.inr ⟨delta, List.mem_cons_self⟩
  · exact Or.inr ⟨found, List.mem_cons_of_mem _ hFound⟩

omit [Sha256] [SerdeJson CPUState]
  [SerdeJson FDDescriptor] [SerdeJson SocketDescriptor]
  [BuildProfile] in
theorem pair_subset
    (start next : State)
    (delta : StateDelta)
    (rest : StateChain) :
    {start, next} ⊆
      StateChain.states start ((next, delta) :: rest) := by
  rintro state (rfl | rfl)
  · exact Or.inl rfl
  · exact Or.inr ⟨delta, List.mem_cons_self⟩

/-
  A state stands for a chain so far: it has the id, the CPU
  and the region ids of the current state, and the regions
  of the base, the last state that refreshed them.
-/
structure StandsFor
    (base current each : State) : Prop where
  id : each.stateId = current.stateId
  cpu : each.cpuState = current.cpuState
  unique : each.UniqueRegions
  regions :
    ∀ id,
      each.region id =
        (current.region id).bind fun _ => base.region id
  ids :
    ∀ id, current.region id ≠ none → base.region id ≠ none

/- A state stands for itself. -/
omit [Sha256] [SerdeJson CPUState]
  [SerdeJson FDDescriptor] [SerdeJson SocketDescriptor]
  [BuildProfile] in
theorem StandsFor.refl
    {start : State}
    (hUnique : start.UniqueRegions) :
    StandsFor start start start where
  id := rfl
  cpu := rfl
  unique := hUnique
  regions := by
    intro id
    cases start.region id with
    | none => rfl
    | some region => rfl
  ids := fun _ hRegion => hRegion

/- It has the regions of the current state, by their ids. -/
omit [Sha256] [SerdeJson CPUState]
  [SerdeJson FDDescriptor] [SerdeJson SocketDescriptor]
  [BuildProfile] in
theorem StandsFor.region_eq_none_iff
    {base current each : State}
    (hStands : StandsFor base current each)
    (id : String) :
    each.region id = none ↔ current.region id = none := by
  rw [hStands.regions id]
  have hIds := hStands.ids id
  cases hCurrent : current.region id with
  | none => exact Iff.rfl
  | some region =>
      rw [hCurrent] at hIds
      have hBase := hIds (Option.some_ne_none region)
      constructor
      · intro hNone
        exact absurd hNone hBase
      · intro hNone
        cases hNone

/- One delta more. -/
omit [BuildProfile] in
theorem StandsFor.step
    {base current next each : State}
    (hStands : StandsFor base current each)
    (hCurrent : current.UniqueRegions)
    (hNext : next.UniqueRegions)
    (hInjective :
      Set.InjOn Sha256.digest
        (hashedData {current, next}))
    (hJson : DistinctJson {current, next})
    (fromOrder : RegionOrder current)
    (toOrder : RegionOrder next) :
    ∃ patched,
      applyDelta each
          (StateDiffer.new.computeDelta current next
            fromOrder toOrder)
          (some next.cpuState) =
        .ok patched ∧
      StandsFor
        (if Refreshes current next then next else base)
        next patched := by
  rcases applyDelta_ok hInjective hJson fromOrder toOrder
      hStands.id hStands.cpu with
    ⟨patched, hOk, hId, hCpu, hManifest⟩
  have hRegions :
      ∀ id,
        patched.region id =
          (next.region id).map fun region =>
            if Refreshes current next then
              region
            else
              (each.region id).getD region := by
    intro id
    unfold State.region
    rw [hManifest]
    exact
      find_applyMemoryPatches hCurrent hNext hInjective
        fromOrder toOrder hStands.region_eq_none_iff id
  refine ⟨patched, hOk, hId, hCpu, ?_, ?_, ?_⟩
  · unfold State.UniqueRegions
    rw [hManifest]
    exact unique_applyMemoryPatches hStands.unique _
  · intro id
    rw [hRegions id]
    by_cases hRefreshes : Refreshes current next
    · simp only [if_pos hRefreshes]
      cases next.region id with
      | none => rfl
      | some region => rfl
    · simp only [if_neg hRefreshes]
      cases hFound : next.region id with
      | none => rfl
      | some region =>
          have hOld : current.region id ≠ none :=
            region_of_not_refreshes hRefreshes
              (hFound ▸ Option.some_ne_none region)
          have hBase := hStands.ids id hOld
          rcases Option.ne_none_iff_exists'.mp hOld with
            ⟨source, hSource⟩
          rcases Option.ne_none_iff_exists'.mp hBase with
            ⟨kept, hKept⟩
          rw [hStands.regions id, hSource]
          change some ((base.region id).getD region) =
            base.region id
          rw [hKept]
          rfl
  · intro id hRegion
    by_cases hRefreshes : Refreshes current next
    · rw [if_pos hRefreshes]
      exact hRegion
    · rw [if_neg hRefreshes]
      exact
        hStands.ids id
          (region_of_not_refreshes hRefreshes hRegion)

/- A whole chain. -/
omit [BuildProfile] in
theorem applyEach_ok
    {base current each : State}
    {chain : StateChain}
    (hStands : StandsFor base current each)
    (hComputed : chain.Computed current)
    (hUnique :
      ∀ state ∈ chain.states current, state.UniqueRegions)
    (hInjective :
      Set.InjOn Sha256.digest
        (hashedData (chain.states current)))
    (hJson : DistinctJson (chain.states current)) :
    ∃ result,
      applyEach each chain = .ok result ∧
        StandsFor (lastRefreshed base current chain)
          (chain.last current) result := by
  induction chain generalizing base current each with
  | nil => exact ⟨each, rfl, hStands⟩
  | cons entry rest ih =>
      rcases entry with ⟨next, delta⟩
      rcases hComputed with
        ⟨⟨fromOrder, toOrder, rfl⟩, hRest⟩
      have hPair := pair_subset current next
        (StateDiffer.new.computeDelta current next fromOrder
          toOrder) rest
      have hLater := states_subset current next
        (StateDiffer.new.computeDelta current next fromOrder
          toOrder) rest
      rcases hStands.step
          (hUnique current (hPair (Or.inl rfl)))
          (hUnique next (hPair (Or.inr rfl)))
          (hInjective.mono (hashedData_mono hPair))
          (hJson.mono hPair) fromOrder toOrder with
        ⟨patched, hOk, hPatched⟩
      rcases ih hPatched hRest
          (fun state hState =>
            hUnique state (hLater hState))
          (hInjective.mono (hashedData_mono hLater))
          (hJson.mono hLater) with
        ⟨result, hResult, hEnd⟩
      refine ⟨result, ?_, hEnd⟩
      unfold applyEach
      rw [hOk]
      exact hResult

/-
  Regions that the whole chain leaves are those of its last
  refreshed state, without the ones removed since.
-/
omit [Sha256] [SerdeJson CPUState]
  [SerdeJson FDDescriptor] [SerdeJson SocketDescriptor]
  [BuildProfile] in
theorem unmoved_iff
    {start : State}
    {chain : StateChain}
    (hUnique :
      ∀ state ∈ chain.states start, state.UniqueRegions)
    (hBase :
      lastRefreshed start start chain ∈
        chain.states start) :
    (∀ id,
        start.region id =
          ((chain.last start).region id).bind fun _ =>
            (lastRefreshed start start chain).region id) ↔
      Unmoved start chain := by
  have hStart := hUnique start (Or.inl rfl)
  have hRefreshed := hUnique _ hBase
  have hSides :
      ∀ id region,
        ((chain.last start).region id).bind (fun _ =>
            (lastRefreshed start start chain).region id) =
            some region ↔
          region.regionId = id ∧
            region ∈
              (lastRefreshed start start
                chain).memoryManifest ∧
            ∃ other ∈ (chain.last start).memoryManifest,
              other.regionId = region.regionId := by
    intro id region
    rw [Option.bind_eq_some_iff]
    constructor
    · rintro ⟨other, hOther, hRegion⟩
      rcases KeyedList.of_find hRegion with ⟨hMem, rfl⟩
      rcases KeyedList.of_find hOther with
        ⟨hOtherMem, hId⟩
      exact ⟨rfl, hMem, other, hOtherMem, hId⟩
    · rintro ⟨rfl, hMem, other, hOtherMem, hId⟩
      have hRegion :
          (lastRefreshed start start chain).region
              region.regionId =
            some region :=
        KeyedList.find_of_mem hRefreshed hMem
      cases hFound :
          (chain.last start).region region.regionId with
      | none =>
          exact
            absurd hId
              (KeyedList.find_eq_none_iff.mp hFound other
                hOtherMem)
      | some found => exact ⟨found, rfl, hRegion⟩
  constructor
  · intro hSame region
    have hRead := hSame region.regionId
    constructor
    · intro hRegion
      have hFound :
          start.region region.regionId = some region :=
        KeyedList.find_of_mem hStart hRegion
      rw [hFound] at hRead
      exact ((hSides _ region).mp hRead.symm).2
    · intro hRegion
      rw [(hSides _ region).mpr ⟨rfl, hRegion⟩] at hRead
      exact (KeyedList.of_find hRead).1
  · intro hUnmoved id
    apply Option.ext
    intro region
    rw [hSides id region]
    unfold State.region
    rw [KeyedList.find_eq_some_iff hStart, hUnmoved region]
    exact and_comm

omit [Sha256] [SerdeJson CPUState]
  [SerdeJson FDDescriptor] [SerdeJson SocketDescriptor]
  [BuildProfile] in
theorem lastRefreshed_mem
    (base current : State)
    (chain : StateChain) :
    lastRefreshed base current chain = base ∨
      lastRefreshed base current chain ∈
        chain.states current := by
  induction chain generalizing base current with
  | nil => exact Or.inl rfl
  | cons entry rest ih =>
      rcases entry with ⟨next, delta⟩
      have hNext := pair_subset current next delta rest
        (Or.inr rfl)
      unfold lastRefreshed
      by_cases hRefreshes : Refreshes current next
      · rw [if_pos hRefreshes]
        rcases ih next next with hSame | hLater
        · rw [hSame]
          exact Or.inr hNext
        · exact
            Or.inr
              (states_subset current next delta rest hLater)
      · rw [if_neg hRefreshes]
        rcases ih base next with hSame | hLater
        · exact Or.inl hSame
        · exact
            Or.inr
              (states_subset current next delta rest hLater)

------------------------------------------------------------
-- Merging
------------------------------------------------------------

/- Without a changed CPU state it is the same throughout. -/
omit [BuildProfile] in
theorem cpuState_of_unchanged
    {start : State}
    {chain : StateChain}
    (hComputed : chain.Computed start)
    (hInjective :
      Set.InjOn Sha256.digest
        (hashedData (chain.states start)))
    (hJson : DistinctJson (chain.states start))
    (hUnchanged :
      (chain.map (·.2)).any (·.cpuChanged) = false) :
    (chain.last start).cpuState = start.cpuState := by
  induction chain generalizing start with
  | nil => rfl
  | cons entry rest ih =>
      rcases entry with ⟨next, delta⟩
      rcases hComputed with
        ⟨⟨fromOrder, toOrder, hDelta⟩, hRest⟩
      have hPair := pair_subset start next delta rest
      have hLater := states_subset start next delta rest
      rw [List.map_cons, List.any_cons,
        Bool.or_eq_false_iff] at hUnchanged
      have hHash :
          hashState start.cpuState =
            hashState next.cpuState := by
        have hFirst := hUnchanged.1
        rw [← hDelta] at hFirst
        exact bne_eq_false_iff_eq.mp hFirst
      have hSame : start.cpuState = next.cpuState :=
        cpuState_eq hInjective hJson (hPair (Or.inl rfl))
          (hPair (Or.inr rfl)) hHash
      rw [hSame]
      exact
        ih hRest (hInjective.mono (hashedData_mono hLater))
          (hJson.mono hLater) hUnchanged.2

/- The merged delta changes the id and the CPU state only. -/
theorem applyDelta_merged
    {start : State}
    {chain : StateChain}
    (hNonempty : chain ≠ [])
    (hComputed : chain.Computed start)
    (hInjective :
      Set.InjOn Sha256.digest
        (hashedData (chain.states start)))
    (hJson : DistinctJson (chain.states start)) :
    ∃ merged,
      mergeDeltas (chain.map (·.2)) = .ok (some merged) ∧
        applyDelta start merged
            (some (chain.last start).cpuState) =
          .ok
            { start with
              stateId := (chain.last start).stateId
              cpuState := (chain.last start).cpuState } := by
  rcases mergeDeltas_computed hNonempty hComputed with
    ⟨merged, hMerged, hFrom, hTo, hAdded, hRemoved,
      hModified, hCpu⟩
  refine ⟨merged, hMerged, ?_⟩
  have hManifest :
      applyMemoryPatches start.memoryManifest merged =
        start.memoryManifest := by
    unfold applyMemoryPatches
    rw [hAdded, hRemoved, hModified]
    exact List.filter_true _
  have hSame :
      (if merged.cpuChanged = true then
          (chain.last start).cpuState
        else
          start.cpuState) =
        (chain.last start).cpuState := by
    split
    · rfl
    · rename_i hUnchanged
      rw [hCpu, Bool.not_eq_true] at hUnchanged
      exact
        (cpuState_of_unchanged hComputed hInjective hJson
          hUnchanged).symm
  unfold applyDelta
  rw [if_pos hFrom, hManifest, hTo, Option.getD_some,
    hSame]

/-
  The merged delta gives the same exactly if the regions of
  the first state are left as they are.
-/
theorem mergesAs_iff
    {start : State}
    {chain : StateChain}
    (hNonempty : chain ≠ [])
    (hComputed : chain.Computed start)
    (hUnique :
      ∀ state ∈ chain.states start, state.UniqueRegions)
    (hInjective :
      Set.InjOn Sha256.digest
        (hashedData (chain.states start)))
    (hJson : DistinctJson (chain.states start)) :
    MergesAs start chain ↔ Unmoved start chain := by
  have hStart := hUnique start (Or.inl rfl)
  rcases applyDelta_merged hNonempty hComputed hInjective
      hJson with
    ⟨merged, hMerged, hOne⟩
  rcases applyEach_ok (StandsFor.refl hStart) hComputed
      hUnique hInjective hJson with
    ⟨each, hEach, hStands⟩
  have hMerges :
      MergesAs start chain ↔
        start.memoryManifest.Perm each.memoryManifest := by
    constructor
    · rintro ⟨other, first, second, hOther, hFirst, hSecond,
        _, _, hPerm⟩
      rw [hMerged] at hOther
      cases hOther
      rw [hOne] at hFirst
      rw [hEach] at hSecond
      cases hFirst
      cases hSecond
      exact hPerm
    · intro hPerm
      exact
        ⟨merged, _, each, hMerged, hOne, hEach,
          hStands.id.symm, hStands.cpu.symm, hPerm⟩
  have hBase :
      lastRefreshed start start chain ∈
        chain.states start := by
    rcases lastRefreshed_mem start start chain with
      hSame | hLater
    · exact Or.inl hSame
    · exact hLater
  rw [hMerges, ← unmoved_iff hUnique hBase,
    KeyedList.perm_iff_find hStart hStands.unique]
  exact forall_congr' fun id => by
    rw [← hStands.regions id]
    rfl

end StatePatcher

end Merging

------------------------------------------------------------
-- Sample Chains
------------------------------------------------------------

namespace DeltaSample

scoped instance : BuildProfile :=
  ⟨true⟩

/- A region that only cools down. -/
def cooling : StateChain :=
  [(cold, delta hot cold (by decide) (by decide))]

/- A region that is added. -/
def adding : StateChain :=
  [(hot, delta empty hot (by decide) (by decide))]

theorem states_cooling :
    cooling.states hot ⊆ {empty, hot, cold} := by
  rintro one (rfl | ⟨_, hOne⟩)
  · exact Or.inr (Or.inl rfl)
  · cases List.mem_singleton.mp hOne
    exact Or.inr (Or.inr rfl)

theorem states_adding :
    adding.states empty ⊆ {empty, hot, cold} := by
  rintro one (rfl | ⟨_, hOne⟩)
  · exact Or.inl rfl
  · cases List.mem_singleton.mp hOne
    exact Or.inr (Or.inl rfl)

theorem uniqueRegions_sample :
    ∀ one ∈ ({empty, hot, cold} : Set State),
      one.UniqueRegions := by
  rintro one (rfl | rfl | rfl)
  · exact uniqueRegions (by decide)
  · exact uniqueRegions (by decide)
  · exact uniqueRegions (by decide)

/- What a merged delta leaves of the empty state. -/
def patchedManifest :
    Outcome PatchError (Option StateDelta) →
      Option (List MemoryRegion)
| .ok (some merged) =>
    ((StatePatcher.applyDelta empty merged
        (some hot.cpuState)).toOption).map
      (·.memoryManifest)
| _ => none

end DeltaSample

open DeltaSample

/- A chain that only cools a region merges to the same. -/
theorem StatePatcher.mergesAs_sample :
    MergesAs hot cooling := by
  have hPlain : Plain (cooling.states hot) := fun one hOne =>
    plain one (states_cooling hOne)
  have hComputed : cooling.Computed hot :=
    ⟨⟨_, _, rfl⟩, trivial⟩
  have hUnmoved : Unmoved hot cooling := by
    have hSame : ¬ Refreshes hot cold := by
      decide
    have hBase : lastRefreshed hot hot cooling = hot := by
      unfold cooling lastRefreshed
      rw [if_neg hSame]
      rfl
    intro region
    rw [hBase]
    constructor
    · intro hRegion
      refine
        ⟨hRegion, ram .cold, List.mem_singleton_self _, ?_⟩
      rw [List.mem_singleton.mp hRegion]
      rfl
    · exact fun hRegion => hRegion.1
  exact
    (mergesAs_iff (List.cons_ne_nil _ _) hComputed
      (fun one hOne =>
        uniqueRegions_sample one (states_cooling hOne))
      (injOn_hashedData hPlain)
      (distinctJson hPlain)).mpr hUnmoved

/- The merged delta loses a region that is added. -/
theorem StatePatcher.mergesAs_added :
    adding.Computed empty ∧
      (∀ one ∈ adding.states empty, one.UniqueRegions) ∧
      Set.InjOn Sha256.digest
        (hashedData (adding.states empty)) ∧
      DistinctJson (adding.states empty) ∧
      ¬ MergesAs empty adding := by
  have hPlain : Plain (adding.states empty) :=
    fun one hOne => plain one (states_adding hOne)
  refine
    ⟨⟨⟨_, _, rfl⟩, trivial⟩,
      fun one hOne =>
        uniqueRegions_sample one (states_adding hOne),
      injOn_hashedData hPlain, distinctJson hPlain, ?_⟩
  rintro ⟨merged, one, each, hMerged, hOne, hEach, _, _,
    hPerm⟩
  have hOneManifest :
      patchedManifest
          (mergeDeltas (adding.map (·.2))) =
        some [] := by
    decide +kernel
  have hEachManifest :
      (applyEach empty adding).toOption.map
          (·.memoryManifest) =
        some [ram .hot] := by
    decide +kernel
  rw [hMerged] at hOneManifest
  change
    ((applyDelta empty merged
        (some hot.cpuState)).toOption).map
      (·.memoryManifest) = _ at hOneManifest
  change applyDelta empty merged (some hot.cpuState) = _
    at hOne
  rw [hOne] at hOneManifest
  rw [hEach] at hEachManifest
  have hNone : one.memoryManifest = [] :=
    Option.some.inj hOneManifest
  have hRam : each.memoryManifest = [ram .hot] :=
    Option.some.inj hEachManifest
  rw [hNone, hRam] at hPerm
  cases List.nil_perm.mp hPerm

end IsaWorkspace
