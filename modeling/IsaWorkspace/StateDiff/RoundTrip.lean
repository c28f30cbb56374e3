import IsaWorkspace.StateDiff.Delta

/-
  Applying a delta to the state it was computed from.

  What a delta says of a region is found by its id.  Added
  and removed regions are told by their ids alone; a common
  region is taken from the target only if some region of the
  target is new, was moved or was resized.

  Main declarations:
    * `State.region`, `Refreshes`
    * `StateDiffer.changed_iff_refreshes`
    * `StatePatcher.find_applyMemoryPatches`
    * `StatePatcher.roundTrip_iff`
-/

------------------------------------------------------------
-- Regions by Id
------------------------------------------------------------

namespace IsaWorkspace

open MemoryRegion (regionId)

/- The region of a state that has an id. -/
def State.region
    (state : State)
    (id : String) : Option MemoryRegion :=
  KeyedList.find regionId id state.memoryManifest

/- No two regions of the state have the same id. -/
def State.UniqueRegions
    (state : State) : Prop :=
  KeyedList.Unique regionId state.memoryManifest

theorem mem_regionMap_iff
    {state : State}
    (hUnique : state.UniqueRegions)
    {id : String} :
    id ∈ regionMap state ↔ state.region id ≠ none := by
  have hLookup :
      (regionMap state).lookup id = state.region id :=
    KeyedList.lookup_index hUnique id
  rw [← hLookup, Ne, Finmap.lookup_eq_none, not_not]

/- Two regions are the same area of memory, by their id. -/
structure SameArea
    (one other : MemoryRegion) : Prop where
  id : one.regionId = other.regionId
  base : one.baseAddr = other.baseAddr
  size : one.size = other.size

instance
    (one other : MemoryRegion) :
    Decidable (SameArea one other) :=
  decidable_of_iff
    (one.regionId = other.regionId ∧
      one.baseAddr = other.baseAddr ∧
      one.size = other.size)
    ⟨fun ⟨hId, hBase, hSize⟩ => ⟨hId, hBase, hSize⟩,
      fun hSame => ⟨hSame.id, hSame.base, hSame.size⟩⟩

/- Some region of the target is new, moved or resized. -/
def Refreshes
    (fromState toState : State) : Prop :=
  ∃ region ∈ toState.memoryManifest,
    ∀ other ∈ fromState.memoryManifest,
      ¬ SameArea other region

instance
    (fromState toState : State) :
    Decidable (Refreshes fromState toState) :=
  inferInstanceAs (Decidable (∃ _ ∈ _, _))

/- Without such a region every id was there before. -/
theorem region_of_not_refreshes
    {fromState toState : State}
    (hSame : ¬ Refreshes fromState toState)
    {id : String}
    (hRegion : toState.region id ≠ none) :
    fromState.region id ≠ none := by
  intro hNone
  rcases Option.ne_none_iff_exists'.mp hRegion with
    ⟨region, hFound⟩
  rcases KeyedList.of_find hFound with ⟨hMem, hId⟩
  apply hSame
  refine ⟨region, hMem, ?_⟩
  intro other hOther hArea
  exact
    KeyedList.find_eq_none_iff.mp hNone other hOther
      (hArea.id.trans hId)

------------------------------------------------------------
-- What Is Hashed
------------------------------------------------------------

section Hashes

variable [SerdeJson CPUState]

/- The JSON of a value, which is hashed; empty on an error. -/
def jsonBytes
    {T : Type}
    [SerdeJson T]
    (item : T) : Bytes :=
  (SerdeJson.toVec item).toOption.getD []

/- What is hashed of the regions and the CPU of states. -/
def hashedData
    (states : Set State) : Set Bytes :=
  { data |
    ∃ state ∈ states,
      (∃ region ∈ state.memoryManifest,
        StateDiffer.regionBytes region = data) ∨
      jsonBytes state.cpuState = data }

/- Different CPU states are written as different JSON. -/
def DistinctJson
    (states : Set State) : Prop :=
  Set.InjOn jsonBytes
    { cpuState |
      ∃ state ∈ states, state.cpuState = cpuState }

theorem hashedData_mono
    {few many : Set State}
    (hSubset : few ⊆ many) :
    hashedData few ⊆ hashedData many := by
  rintro data ⟨state, hState, hData⟩
  exact ⟨state, hSubset hState, hData⟩

theorem DistinctJson.mono
    {few many : Set State}
    (hDistinct : DistinctJson many)
    (hSubset : few ⊆ many) :
    DistinctJson few := by
  refine Set.InjOn.mono ?_ hDistinct
  rintro cpuState ⟨state, hState, hCpu⟩
  exact ⟨state, hSubset hState, hCpu⟩

/- The hashed bytes of a region tell which area it is. -/
omit [SerdeJson CPUState] in
theorem sameArea_of_regionBytes
    {one other : MemoryRegion}
    (hBytes :
      StateDiffer.regionBytes one =
        StateDiffer.regionBytes other) :
    SameArea one other := by
  unfold StateDiffer.regionBytes at hBytes
  have hTail :
      (toBeBytes one.baseAddr ++
          toBeBytes one.size).length =
        (toBeBytes other.baseAddr ++
          toBeBytes other.size).length := by
    simp only [List.length_append, toBeBytes_length]
  rcases List.append_inj' hBytes hTail with
    ⟨hId, hNumbers⟩
  have hBase :
      (toBeBytes one.baseAddr).length =
        (toBeBytes other.baseAddr).length := by
    simp only [toBeBytes_length]
  rcases List.append_inj hNumbers hBase with
    ⟨hBaseAddr, hSize⟩
  exact
    ⟨asBytes_injective hId, toBeBytes_injective hBaseAddr,
      toBeBytes_injective hSize⟩

end Hashes

namespace StateDiffer

variable [Sha256]

/- Its keys are the hashes of the regions; no data is there. -/
theorem lookup_buildPageHashMap
    (state : State)
    (hash : String) :
    (buildPageHashMap state).lookup hash =
      if ∃ region ∈ state.memoryManifest,
          regionHash region = hash then
        some []
      else
        none := by
  have hFold :
      ∀ (regions : List MemoryRegion)
          (pages : HashMap String Bytes),
        (regions.foldl
            (fun pages region =>
              pages.insert (regionHash region) [])
            pages).lookup hash =
          if ∃ region ∈ regions,
              regionHash region = hash then
            some []
          else
            pages.lookup hash := by
    intro regions
    induction regions with
    | nil =>
        intro pages
        simp
    | cons region rest ih =>
        intro pages
        rw [List.foldl_cons, ih,
          HashMap.lookup_insert_eq_ite]
        simp only [List.mem_cons, exists_eq_or_imp]
        by_cases hHash : regionHash region = hash
        · simp [hHash]
        · simp [hHash, Ne.symm hHash]
  unfold buildPageHashMap
  rw [hFold, Finmap.lookup_empty]

theorem mem_buildPageHashMap
    {state : State}
    {hash : String} :
    hash ∈ buildPageHashMap state ↔
      ∃ region ∈ state.memoryManifest,
        regionHash region = hash := by
  rw [← not_iff_not, ← Finmap.lookup_eq_none,
    lookup_buildPageHashMap]
  simp

variable [SerdeJson CPUState]

/- A hash is new if a region is new, moved or resized. -/
theorem changed_iff_refreshes
    {fromState toState : State}
    (hInjective :
      Set.InjOn Sha256.digest
        (hashedData {fromState, toState})) :
    ((buildPageHashMap toState).keys.filter fun hash =>
        hash ∉ buildPageHashMap fromState).Nonempty ↔
      Refreshes fromState toState := by
  have hHashed :
      ∀ state ∈ ({fromState, toState} : Set State),
        ∀ region ∈ state.memoryManifest,
          regionBytes region ∈
            hashedData {fromState, toState} :=
    fun state hState region hRegion =>
      ⟨state, hState, Or.inl ⟨region, hRegion, rfl⟩⟩
  constructor
  · rintro ⟨hash, hHash⟩
    rcases Finset.mem_filter.mp hHash with ⟨hTo, hNew⟩
    rcases mem_buildPageHashMap.mp
        (Finmap.mem_keys.mp hTo) with
      ⟨region, hRegion, rfl⟩
    refine ⟨region, hRegion, ?_⟩
    intro other hOther hSame
    apply hNew
    refine mem_buildPageHashMap.mpr ⟨other, hOther, ?_⟩
    unfold regionHash regionBytes
    rw [hSame.id, hSame.base, hSame.size]
  · rintro ⟨region, hRegion, hNew⟩
    refine ⟨regionHash region, Finset.mem_filter.mpr ?_⟩
    constructor
    · exact
        Finmap.mem_keys.mpr
          (mem_buildPageHashMap.mpr ⟨region, hRegion, rfl⟩)
    · intro hOld
      rcases mem_buildPageHashMap.mp hOld with
        ⟨other, hOther, hHash⟩
      apply hNew other hOther
      apply sameArea_of_regionBytes
      exact
        eq_of_sha256Hex hInjective
          (hHashed fromState (Or.inl rfl) other hOther)
          (hHashed toState (Or.inr rfl) region hRegion)
          hHash

------------------------------------------------------------
-- What a Delta Says of a Region
------------------------------------------------------------

variable [SerdeJson FDDescriptor]
variable [SerdeJson SocketDescriptor]
variable {fromState toState : State}

/- Regions that were visited for their id not being there. -/
omit [Sha256] [SerdeJson CPUState]
  [SerdeJson FDDescriptor] [SerdeJson SocketDescriptor] in
theorem find_visited_absent
    {state other : State}
    (hUnique : state.UniqueRegions)
    (hOther : other.UniqueRegions)
    (order : RegionOrder state)
    (id : String) :
    KeyedList.find regionId id
        (KeyedList.visited order fun regionId =>
          regionId ∉ regionMap other) =
      if other.region id = none then state.region id
      else none := by
  rw [KeyedList.find_visited hUnique]
  refine if_congr ?_ rfl rfl
  rw [decide_eq_true_iff, mem_regionMap_iff hOther, not_not]

theorem find_addedRegions
    (differ : StateDiffer)
    (hFrom : fromState.UniqueRegions)
    (hTo : toState.UniqueRegions)
    (fromOrder : RegionOrder fromState)
    (toOrder : RegionOrder toState)
    (id : String) :
    KeyedList.find regionId id
        (differ.computeDelta fromState toState fromOrder
          toOrder).addedRegions =
      if fromState.region id = none then toState.region id
      else none := by
  unfold computeDelta compareMemoryRegions
  cases differ.pageLevelDiff with
  | false => exact find_visited_absent hTo hFrom toOrder id
  | true => exact find_visited_absent hTo hFrom toOrder id

theorem find_removedRegions
    (differ : StateDiffer)
    (hFrom : fromState.UniqueRegions)
    (hTo : toState.UniqueRegions)
    (fromOrder : RegionOrder fromState)
    (toOrder : RegionOrder toState)
    (id : String) :
    KeyedList.find regionId id
        (differ.computeDelta fromState toState fromOrder
          toOrder).removedRegions =
      if toState.region id = none then fromState.region id
      else none := by
  unfold computeDelta compareMemoryRegions
  cases differ.pageLevelDiff with
  | false => exact find_visited_absent hFrom hTo fromOrder id
  | true => exact find_visited_absent hFrom hTo fromOrder id

/- Common regions are modified all together, or none is. -/
theorem modifiedRegions_eq
    (hInjective :
      Set.InjOn Sha256.digest
        (hashedData {fromState, toState}))
    (fromOrder : RegionOrder fromState)
    (toOrder : RegionOrder toState) :
    (new.computeDelta fromState toState fromOrder
        toOrder).modifiedRegions =
      if Refreshes fromState toState then
        KeyedList.visited toOrder fun regionId =>
          regionId ∈ regionMap fromState
      else
        [] :=
  if_congr (changed_iff_refreshes hInjective) rfl rfl

theorem unique_modifiedRegions
    (hTo : toState.UniqueRegions)
    (hInjective :
      Set.InjOn Sha256.digest
        (hashedData {fromState, toState}))
    (fromOrder : RegionOrder fromState)
    (toOrder : RegionOrder toState) :
    KeyedList.Unique regionId
      (new.computeDelta fromState toState fromOrder
        toOrder).modifiedRegions := by
  rw [modifiedRegions_eq hInjective]
  split
  · exact KeyedList.unique_visited hTo toOrder _
  · exact List.nodup_nil

theorem find_modifiedRegions
    (hFrom : fromState.UniqueRegions)
    (hTo : toState.UniqueRegions)
    (hInjective :
      Set.InjOn Sha256.digest
        (hashedData {fromState, toState}))
    (fromOrder : RegionOrder fromState)
    (toOrder : RegionOrder toState)
    (id : String) :
    KeyedList.find regionId id
        (new.computeDelta fromState toState fromOrder
          toOrder).modifiedRegions =
      if Refreshes fromState toState ∧
          fromState.region id ≠ none then
        toState.region id
      else
        none := by
  rw [modifiedRegions_eq hInjective]
  by_cases hRefreshes : Refreshes fromState toState
  · rw [if_pos hRefreshes, KeyedList.find_visited hTo]
    refine if_congr ?_ rfl rfl
    rw [decide_eq_true_iff, mem_regionMap_iff hFrom]
    exact (and_iff_right hRefreshes).symm
  · rw [if_neg hRefreshes,
      if_neg fun hBoth => hRefreshes hBoth.1]
    rfl

end StateDiffer

------------------------------------------------------------
-- What Patches Leave
------------------------------------------------------------

namespace StatePatcher

open StateDiffer

variable [Sha256] [SerdeJson CPUState]
variable [SerdeJson FDDescriptor]
variable [SerdeJson SocketDescriptor]
variable {fromState toState : State}

/-
  A manifest with the ids of the source is given those of the
  target, and the target's regions if the delta refreshes
  them; otherwise it keeps its own.
-/
theorem find_applyMemoryPatches
    (hFrom : fromState.UniqueRegions)
    (hTo : toState.UniqueRegions)
    (hInjective :
      Set.InjOn Sha256.digest
        (hashedData {fromState, toState}))
    (fromOrder : RegionOrder fromState)
    (toOrder : RegionOrder toState)
    {manifest : List MemoryRegion}
    (hIds :
      ∀ id,
        KeyedList.find regionId id manifest = none ↔
          fromState.region id = none)
    (id : String) :
    KeyedList.find regionId id
        (applyMemoryPatches manifest
          (new.computeDelta fromState toState fromOrder
            toOrder)) =
      (toState.region id).map fun region =>
        if Refreshes fromState toState then
          region
        else
          (KeyedList.find regionId id manifest).getD
            region := by
  unfold applyMemoryPatches
  rw [KeyedList.find_replaceAll _
      (unique_modifiedRegions hTo hInjective fromOrder
        toOrder),
    KeyedList.find_pushAll, KeyedList.find_without,
    find_addedRegions new hFrom hTo,
    find_removedRegions new hFrom hTo,
    find_modifiedRegions hFrom hTo hInjective]
  have hId := hIds id
  cases hTarget : toState.region id with
  | none =>
      cases hSource : fromState.region id with
      | none =>
          have hNone := hId.mpr hSource
          simp [hNone]
      | some source => simp
  | some target =>
      cases hSource : fromState.region id with
      | none =>
          have hNone := hId.mpr hSource
          simp [hNone]
      | some source =>
          cases hKept :
              KeyedList.find regionId id manifest with
          | none =>
              have hNone := hId.mp hKept
              rw [hSource] at hNone
              cases hNone
          | some kept =>
              by_cases hRefreshes :
                  Refreshes fromState toState
              · simp [hRefreshes]
              · simp [hRefreshes]

/- Patches keep ids unique. -/
omit [Sha256] [SerdeJson CPUState]
  [SerdeJson FDDescriptor] [SerdeJson SocketDescriptor] in
theorem unique_applyMemoryPatches
    {manifest : List MemoryRegion}
    (hUnique : KeyedList.Unique regionId manifest)
    (delta : StateDelta) :
    KeyedList.Unique regionId
      (applyMemoryPatches manifest delta) :=
  ((hUnique.without _).pushAll _).replaceAll _

/- CPU states of one hash are the same. -/
omit [SerdeJson FDDescriptor]
  [SerdeJson SocketDescriptor] in
theorem cpuState_eq
    {states : Set State}
    (hInjective :
      Set.InjOn Sha256.digest (hashedData states))
    (hJson : DistinctJson states)
    {one other : State}
    (hOne : one ∈ states)
    (hOther : other ∈ states)
    (hHash :
      hashState one.cpuState = hashState other.cpuState) :
    one.cpuState = other.cpuState := by
  have hBytes :
      jsonBytes one.cpuState = jsonBytes other.cpuState :=
    eq_of_sha256Hex hInjective ⟨one, hOne, Or.inr rfl⟩
      ⟨other, hOther, Or.inr rfl⟩ hHash
  exact hJson ⟨one, hOne, rfl⟩ ⟨other, hOther, rfl⟩ hBytes

/-
  A delta is applied to any state with the id and the CPU
  state of its source, and gives those of its target.
-/
theorem applyDelta_ok
    (hInjective :
      Set.InjOn Sha256.digest
        (hashedData {fromState, toState}))
    (hJson : DistinctJson {fromState, toState})
    (fromOrder : RegionOrder fromState)
    (toOrder : RegionOrder toState)
    {start : State}
    (hId : start.stateId = fromState.stateId)
    (hCpu : start.cpuState = fromState.cpuState) :
    ∃ result,
      applyDelta start
          (new.computeDelta fromState toState fromOrder
            toOrder)
          (some toState.cpuState) =
        .ok result ∧
      result.stateId = toState.stateId ∧
      result.cpuState = toState.cpuState ∧
      result.memoryManifest =
        applyMemoryPatches start.memoryManifest
          (new.computeDelta fromState toState fromOrder
            toOrder) := by
  have hSource :
      (new.computeDelta fromState toState fromOrder
        toOrder).fromState = start.stateId :=
    hId.symm
  unfold applyDelta
  rw [if_pos hSource]
  refine ⟨_, rfl, rfl, ?_, rfl⟩
  change
    (if (hashState fromState.cpuState !=
          hashState toState.cpuState) = true then
        toState.cpuState
      else
        start.cpuState) =
      toState.cpuState
  by_cases hHash :
      hashState fromState.cpuState =
        hashState toState.cpuState
  · have hSame : fromState.cpuState = toState.cpuState :=
      cpuState_eq hInjective hJson (Or.inl rfl)
        (Or.inr rfl) hHash
    rw [hHash, hCpu, hSame]
    exact ite_self _
  · rw [if_pos (bne_iff_ne.mpr hHash)]

------------------------------------------------------------
-- Round Trips
------------------------------------------------------------

/- A state is given back, its regions in any order. -/
def Recreates
    (patched : Except PatchError State)
    (state : State) : Prop :=
  ∃ result,
    patched = .ok result ∧
      result.stateId = state.stateId ∧
      result.cpuState = state.cpuState ∧
      result.memoryManifest.Perm state.memoryManifest

/-
  Some region of the target is new, was moved or resized, or
  every region of the target is one of the source.
-/
def Recreatable
    (fromState toState : State) : Prop :=
  Refreshes fromState toState ∨
    ∀ region ∈ toState.memoryManifest,
      region ∈ fromState.memoryManifest

/- What patches leave of the source is the target. -/
omit [Sha256] [SerdeJson CPUState]
  [SerdeJson FDDescriptor] [SerdeJson SocketDescriptor] in
theorem patched_eq_iff
    (hFrom : fromState.UniqueRegions)
    (hTo : toState.UniqueRegions) :
    (∀ id,
        ((toState.region id).map fun region =>
            if Refreshes fromState toState then
              region
            else
              (fromState.region id).getD region) =
          toState.region id) ↔
      Recreatable fromState toState := by
  unfold Recreatable
  by_cases hRefreshes : Refreshes fromState toState
  · simp [hRefreshes]
  · simp only [hRefreshes, if_false, false_or]
    constructor
    · intro hSame region hRegion
      have hTarget :
          toState.region region.regionId = some region :=
        KeyedList.find_of_mem hTo hRegion
      have hOld :
          fromState.region region.regionId ≠ none :=
        region_of_not_refreshes hRefreshes
          (hTarget ▸ Option.some_ne_none region)
      rcases Option.ne_none_iff_exists'.mp hOld with
        ⟨source, hSource⟩
      have hRead := hSame region.regionId
      rw [hTarget, hSource] at hRead
      have hEq : source = region := Option.some.inj hRead
      rw [← hEq]
      exact (KeyedList.of_find hSource).1
    · intro hAll id
      cases hTarget : toState.region id with
      | none => rfl
      | some region =>
          rcases KeyedList.of_find hTarget with
            ⟨hRegion, rfl⟩
          have hSource :
              fromState.region region.regionId =
                some region :=
            KeyedList.find_of_mem hFrom
              (hAll region hRegion)
          rw [hSource]
          rfl

/- The target is recreated exactly if it can be. -/
theorem roundTrip_iff
    (hFrom : fromState.UniqueRegions)
    (hTo : toState.UniqueRegions)
    (hInjective :
      Set.InjOn Sha256.digest
        (hashedData {fromState, toState}))
    (hJson : DistinctJson {fromState, toState})
    (fromOrder : RegionOrder fromState)
    (toOrder : RegionOrder toState) :
    Recreates
        (applyDelta fromState
          (new.computeDelta fromState toState fromOrder
            toOrder)
          (some toState.cpuState))
        toState ↔
      Recreatable fromState toState := by
  rcases applyDelta_ok hInjective hJson fromOrder toOrder
      rfl rfl with
    ⟨result, hOk, hId, hCpu, hManifest⟩
  have hRecreates :
      Recreates
          (applyDelta fromState
            (new.computeDelta fromState toState fromOrder
              toOrder)
            (some toState.cpuState))
          toState ↔
        result.memoryManifest.Perm
          toState.memoryManifest := by
    constructor
    · rintro ⟨other, hOther, _, _, hPerm⟩
      rw [hOk] at hOther
      cases hOther
      exact hPerm
    · exact fun hPerm => ⟨result, hOk, hId, hCpu, hPerm⟩
  have hUnique :
      KeyedList.Unique regionId result.memoryManifest := by
    rw [hManifest]
    exact unique_applyMemoryPatches hFrom _
  rw [hRecreates, KeyedList.perm_iff_find hUnique hTo,
    hManifest]
  have hFind :=
    find_applyMemoryPatches hFrom hTo hInjective fromOrder
      toOrder (fun _ => Iff.rfl)
  simp only [hFind]
  exact patched_eq_iff hFrom hTo

end StatePatcher

------------------------------------------------------------
-- Sample States
------------------------------------------------------------

/- States with one CPU state and one area of memory. -/
namespace DeltaSample

def ram
    (temperature : MemoryTemperature) : MemoryRegion where
  regionId := "ram"
  baseAddr := 0x1000
  size := 4096
  flags := ⟨true, true, false⟩
  temperature := temperature

def state
    (id : String)
    (manifest : List MemoryRegion) : State :=
  { State.new id 0 ⟨1, 512, "kernel", "rootfs"⟩
      ⟨"test", DateTime.unixEpoch, none⟩ with
    memoryManifest := manifest }

def cpuJson : Bytes :=
  asBytes
    ("\x7b\"arch\":\"x86_64\"," ++
      "\"registers\":\x7b\x7d\x7d")

scoped instance : SerdeJson CPUState where
  toVec cpuState :=
    match cpuState with
    | ⟨"x86_64", .object []⟩ => .ok cpuJson
    | _ => .error "not in the sample"
  fromSlice _ := .error "not in the sample"

scoped instance : SerdeJson FDDescriptor :=
  ⟨fun _ => .error "not in the sample",
    fun _ => .error "not in the sample"⟩

scoped instance : SerdeJson SocketDescriptor :=
  ⟨fun _ => .error "not in the sample",
    fun _ => .error "not in the sample"⟩

scoped instance : Sha256 where
  digest data :=
    digestOf <|
      if data = StateDiffer.regionBytes (ram .hot) then
        0xf1c64b2c1644d7f5ec857c2ee63b82c0e99864168cc3c7676f65be580628add2
      else if data = cpuJson then
        0xfe6f90b4442764fd64a9fb7139df99a5dc2cea5129a6b8104568acda516f9001
      else
        0xe3b0c44298fc1c149afbf4c8996fb92427ae41e4649b934ca495991b7852b855

/- The states of a sample have that CPU state and area. -/
def Plain
    (states : Set State) : Prop :=
  ∀ one ∈ states,
    one.cpuState = ⟨"x86_64", .object []⟩ ∧
      ∀ region ∈ one.memoryManifest,
        StateDiffer.regionBytes region =
          StateDiffer.regionBytes (ram .hot)

/- Only two byte strings are hashed, and their hashes differ. -/
theorem injOn_hashedData
    {states : Set State}
    (hPlain : Plain states) :
    Set.InjOn Sha256.digest (hashedData states) := by
  have hTwo :
      ∀ data ∈ hashedData states,
        data = StateDiffer.regionBytes (ram .hot) ∨
          data = cpuJson := by
    rintro data ⟨one, hOne, hData⟩
    rcases hPlain one hOne with ⟨hCpu, hRegions⟩
    rcases hData with ⟨region, hRegion, rfl⟩ | rfl
    · exact Or.inl (hRegions region hRegion)
    · rw [hCpu]
      exact Or.inr rfl
  have hDiffer :
      Sha256.digest (StateDiffer.regionBytes (ram .hot)) ≠
        Sha256.digest cpuJson := by
    decide +kernel
  intro one hOne other hOther hDigest
  rcases hTwo one hOne with rfl | rfl
  · rcases hTwo other hOther with rfl | rfl
    · rfl
    · exact absurd hDigest hDiffer
  · rcases hTwo other hOther with rfl | rfl
    · exact absurd hDigest.symm hDiffer
    · rfl

theorem distinctJson
    {states : Set State}
    (hPlain : Plain states) :
    DistinctJson states := by
  rintro _ ⟨one, hOne, rfl⟩ _ ⟨other, hOther, rfl⟩ _
  rw [(hPlain one hOne).1, (hPlain other hOther).1]

def empty : State :=
  state "s0" []

def hot : State :=
  state "s1" [ram .hot]

def cold : State :=
  state "s2" [ram .cold]

theorem plain : Plain {empty, hot, cold} := by
  rintro one (rfl | rfl | rfl)
  · exact ⟨rfl, fun _ hRegion => nomatch hRegion⟩
  · refine ⟨rfl, fun region hRegion => ?_⟩
    rw [List.mem_singleton.mp hRegion]
  · refine ⟨rfl, fun region hRegion => ?_⟩
    rw [List.mem_singleton.mp hRegion]
    rfl

theorem uniqueRegions
    {one : State}
    (hShort : one.memoryManifest.length ≤ 1) :
    one.UniqueRegions := by
  unfold State.UniqueRegions KeyedList.Unique
  rcases hManifest : one.memoryManifest with
    _ | ⟨region, _ | ⟨other, rest⟩⟩
  · exact List.nodup_nil
  · exact List.nodup_singleton _
  · rw [hManifest] at hShort
    exact absurd hShort (by simp)

/- The order in which the one region is visited. -/
def order
    (one : State)
    (hShort : one.memoryManifest.length ≤ 1) :
    RegionOrder one :=
  KeyedList.iteration (uniqueRegions hShort)

/- The delta of two samples. -/
def delta
    (fromState toState : State)
    (hFrom : fromState.memoryManifest.length ≤ 1)
    (hTo : toState.memoryManifest.length ≤ 1) :
    StateDelta :=
  StateDiffer.new.computeDelta fromState toState
    (order fromState hFrom) (order toState hTo)

end DeltaSample

open DeltaSample

/- A region that is added is there after the patch. -/
theorem StatePatcher.roundTrip_sample :
    Recreates
      (applyDelta empty
        (delta empty hot (by decide) (by decide))
        (some hot.cpuState))
      hot := by
  have hPlain : Plain {empty, hot} := fun one hOne =>
    plain one (Or.imp_right Or.inl hOne)
  exact
    (roundTrip_iff (uniqueRegions (by decide))
      (uniqueRegions (by decide))
      (injOn_hashedData hPlain) (distinctJson hPlain)
      _ _).mpr
      (Or.inl ⟨ram .hot, List.mem_singleton_self _,
        fun _ hOther => nomatch hOther⟩)

/- A region that only cooled down is patched to be hot. -/
theorem StatePatcher.roundTrip_cooled :
    hot.UniqueRegions ∧
      cold.UniqueRegions ∧
      Set.InjOn Sha256.digest (hashedData {hot, cold}) ∧
      DistinctJson {hot, cold} ∧
      ¬ Recreates
        (applyDelta hot
          (delta hot cold (by decide) (by decide))
          (some cold.cpuState))
        cold := by
  have hPlain : Plain {hot, cold} := fun one hOne =>
    plain one (Or.inr hOne)
  refine
    ⟨uniqueRegions (by decide), uniqueRegions (by decide),
      injOn_hashedData hPlain, distinctJson hPlain, ?_⟩
  rintro ⟨result, hOk, _, _, hPerm⟩
  have hManifest :
      ((applyDelta hot
          (delta hot cold (by decide) (by decide))
          (some cold.cpuState)).toOption.map
        (·.memoryManifest)) =
        some [ram .hot] := by
    decide +kernel
  rw [hOk] at hManifest
  have hResult : result.memoryManifest = [ram .hot] :=
    Option.some.inj hManifest
  rw [hResult] at hPerm
  have hEq : [ram .hot] = [ram .cold] :=
    List.perm_singleton.mp hPerm
  cases hEq

end IsaWorkspace
