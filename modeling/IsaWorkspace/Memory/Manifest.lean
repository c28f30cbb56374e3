import IsaWorkspace.Foundations.Numerals
import IsaWorkspace.Foundations.RunLength
import IsaWorkspace.Memory.Reached

/-
  The manifest of a region.

  The manager walks the pages of a region and carries the
  temperature, the first page and the size of the entry that
  it is in.  What comes out are the stretches of pages of
  one temperature, as addresses.

  Main declarations:
    * `MemorySnapshotManager.createRegionEntry`
    * `MemorySnapshotManager.generateManifest`
    * `DirtyPageTracker.entryOf`, `TilesRegion`
    * `MemorySnapshotManager.generateManifest_eq`
    * `DirtyPageTracker.tilesRegion_stretches`
    * `MemorySnapshotManager.generateManifest_iff`
-/

------------------------------------------------------------
-- Generating a Manifest
------------------------------------------------------------

namespace IsaWorkspace

/- What the walk over the pages carries. -/
structure ManifestWalk where
  manifest : List MemoryRegion
  currentTemp : Option MemoryTemperature
  currentStart : Nat
  currentSize : UInt64
deriving DecidableEq

/- The name of the entry of a region at an address. -/
def regionEntryId
    (regionId : String)
    (baseAddr : UInt64) : String :=
  regionId ++ "-" ++
    String.ofList (Nat.toDigits 16 baseAddr.toNat)

namespace MemorySnapshotManager

variable [BuildProfile]

/- Describe some pages in a row; `none` is a panic. -/
def createRegionEntry
    (manager : MemorySnapshotManager)
    (regionId : String)
    (pageStart : UInt64)
    (size : UInt64)
    (temp : MemoryTemperature) : Option MemoryRegion := do
  let tracker ← manager.regions.lookup regionId
  let offset ← checkedMul pageStart (UInt64.ofNat pageSize)
  let baseAddr ← checkedAdd tracker.baseAddr offset
  some
    { regionId := regionEntryId regionId baseAddr
      baseAddr := baseAddr
      size := size
      flags := ⟨true, true, false⟩
      temperature := temp }

/- Add the entry that the walk is in, if there is one. -/
def flushEntry
    (manager : MemorySnapshotManager)
    (regionId : String)
    (walk : ManifestWalk) : Option (List MemoryRegion) :=
  match walk.currentTemp with
  | some temp =>
      if 0 < walk.currentSize then
        (manager.createRegionEntry regionId
          (UInt64.ofNat walk.currentStart) walk.currentSize
          temp).map fun entry => walk.manifest ++ [entry]
      else
        some walk.manifest
  | none => some walk.manifest

/- Go on to the next page. -/
def walkPage
    (manager : MemorySnapshotManager)
    (regionId : String)
    (temperatureMap : MemoryTemperatureMap)
    (walk : ManifestWalk)
    (pageOffset : Nat) : Option ManifestWalk :=
  let temp := temperatureMap.temperatureOf pageOffset
  if walk.currentTemp = some temp then
    (checkedAdd walk.currentSize (UInt64.ofNat pageSize)).map
      fun size => { walk with currentSize := size }
  else
    (manager.flushEntry regionId walk).map fun manifest =>
      { manifest := manifest
        currentTemp := some temp
        currentStart := pageOffset
        currentSize := UInt64.ofNat pageSize }

/-
  Generate the memory manifest for a region.  An unknown
  region has none; outside, `none` is a panic.
-/
def generateManifest
    (manager : MemorySnapshotManager)
    (regionId : String) :
    Option (Option (List MemoryRegion)) :=
  match manager.regions.lookup regionId with
  | none => some none
  | some tracker => do
      let temperatureMap ← tracker.classifyTemperature
      let walk ←
        (List.range tracker.dirtyBitmap.length).foldlM
          (manager.walkPage regionId temperatureMap)
          ⟨[], none, 0, 0⟩
      -- the last entry
      let manifest ← manager.flushEntry regionId walk
      some (some manifest)

end MemorySnapshotManager

------------------------------------------------------------
-- Stretches as Entries
------------------------------------------------------------

namespace DirtyPageTracker

/- The entry that describes a stretch of pages. -/
def entryOf
    (tracker : DirtyPageTracker)
    (regionId : String)
    (stretch : Stretch MemoryTemperature) : MemoryRegion :=
  let baseAddr :=
    tracker.baseAddr +
      UInt64.ofNat stretch.start * UInt64.ofNat pageSize
  { regionId := regionEntryId regionId baseAddr
    baseAddr := baseAddr
    size := UInt64.ofNat (stretch.length * pageSize)
    flags := ⟨true, true, false⟩
    temperature := stretch.value }

variable {tracker : DirtyPageTracker}
variable {stretch : Stretch MemoryTemperature}

/- A stretch lies below the end of the address space. -/
def Addressable
    (tracker : DirtyPageTracker)
    (stop : Nat) : Prop :=
  tracker.baseAddr.toNat + stop * pageSize < 2 ^ 64

theorem Addressable.mono
    {stop later : Nat}
    (hLater : tracker.Addressable later)
    (hLe : stop ≤ later) :
    tracker.Addressable stop := by
  have hBytes : stop * pageSize ≤ later * pageSize :=
    Nat.mul_le_mul_right _ hLe
  unfold Addressable at hLater ⊢
  omega

theorem Addressable.toNat_offset
    {start : Nat}
    (hStart : tracker.Addressable start) :
    (UInt64.ofNat start).toNat *
        (UInt64.ofNat pageSize).toNat =
      start * pageSize := by
  have hLe : start ≤ start * pageSize :=
    Nat.le_mul_of_pos_right _ (by decide)
  unfold Addressable at hStart
  rw [UInt64.toNat_ofNat', UInt64.toNat_ofNat',
    Nat.mod_eq_of_lt (by omega),
    Nat.mod_eq_of_lt (by decide)]

theorem Addressable.toNat_mul
    {start : Nat}
    (hStart : tracker.Addressable start) :
    (UInt64.ofNat start * UInt64.ofNat pageSize).toNat =
      start * pageSize := by
  rw [UInt64.toNat_mul, hStart.toNat_offset]
  unfold Addressable at hStart
  exact Nat.mod_eq_of_lt (by omega)

theorem toNat_baseAddr_entryOf
    (regionId : String)
    (hStart : tracker.Addressable stretch.start) :
    (tracker.entryOf regionId stretch).baseAddr.toNat =
      tracker.baseAddr.toNat + stretch.start * pageSize := by
  have hOffset := hStart.toNat_mul
  unfold entryOf
  rw [UInt64.toNat_add, hOffset]
  exact Nat.mod_eq_of_lt hStart

theorem toNat_size_entryOf
    (regionId : String)
    (hStop : tracker.Addressable stretch.stop) :
    (tracker.entryOf regionId stretch).size.toNat =
      stretch.length * pageSize := by
  have hLength : tracker.Addressable stretch.length :=
    hStop.mono (Nat.le_add_left _ _)
  unfold Addressable at hLength
  change (UInt64.ofNat _).toNat = _
  rw [UInt64.toNat_ofNat']
  exact Nat.mod_eq_of_lt (by omega)

end DirtyPageTracker

------------------------------------------------------------
-- What the Walk Generates
------------------------------------------------------------

namespace MemorySnapshotManager

variable [BuildProfile]
variable {manager : MemorySnapshotManager}
variable {regionId : String} {tracker : DirtyPageTracker}

/- The walk while it is in a stretch. -/
def walkIn
    (manifest : List MemoryRegion)
    (stretch : Stretch MemoryTemperature) : ManifestWalk where
  manifest := manifest
  currentTemp := some stretch.value
  currentStart := stretch.start
  currentSize := UInt64.ofNat (stretch.length * pageSize)

theorem createRegionEntry_eq
    (hLookup :
      manager.regions.lookup regionId = some tracker)
    {start : Nat}
    (hStart : tracker.Addressable start)
    (size : UInt64)
    (temp : MemoryTemperature) :
    manager.createRegionEntry regionId (UInt64.ofNat start)
        size temp =
      some
        { tracker.entryOf regionId ⟨start, 0, temp⟩ with
          size := size } := by
  have hMul :
      checkedMul (UInt64.ofNat start)
          (UInt64.ofNat pageSize) =
        some
          (UInt64.ofNat start * UInt64.ofNat pageSize) := by
    apply checkedMul_eq_some
    rw [hStart.toNat_offset]
    unfold DirtyPageTracker.Addressable at hStart
    omega
  have hAdd :
      checkedAdd tracker.baseAddr
          (UInt64.ofNat start * UInt64.ofNat pageSize) =
        some
          (tracker.baseAddr +
            UInt64.ofNat start * UInt64.ofNat pageSize) := by
    unfold checkedAdd
    rw [hStart.toNat_mul]
    exact if_pos hStart
  unfold createRegionEntry
  rw [hLookup]
  change (checkedMul _ _).bind _ = _
  rw [hMul]
  change (checkedAdd _ _).bind _ = _
  rw [hAdd]
  rfl

/- The walk leaves the entry of the stretch it is in. -/
theorem flushEntry_walkIn
    (hLookup :
      manager.regions.lookup regionId = some tracker)
    (manifest : List MemoryRegion)
    {stretch : Stretch MemoryTemperature}
    (hPos : 0 < stretch.length)
    (hStop : tracker.Addressable stretch.stop) :
    manager.flushEntry regionId (walkIn manifest stretch) =
      some (manifest ++ [tracker.entryOf regionId stretch]) := by
  have hSize :
      (UInt64.ofNat (stretch.length * pageSize)).toNat =
        stretch.length * pageSize :=
    DirtyPageTracker.toNat_size_entryOf regionId hStop
  have hNonempty :
      0 < UInt64.ofNat (stretch.length * pageSize) := by
    rw [UInt64.lt_iff_toNat_lt, hSize]
    exact Nat.mul_pos hPos (by decide)
  unfold flushEntry walkIn
  dsimp only
  rw [if_pos hNonempty,
    createRegionEntry_eq hLookup
      (hStop.mono (Nat.le_add_right _ _))]
  rfl

/- One page more in the same stretch. -/
theorem walkPage_same
    (manifest : List MemoryRegion)
    {temperatureMap : MemoryTemperatureMap}
    {stretch : Stretch MemoryTemperature}
    (hNext : tracker.Addressable (stretch.stop + 1))
    (hSame :
      temperatureMap.temperatureOf stretch.stop =
        stretch.value) :
    manager.walkPage regionId temperatureMap
        (walkIn manifest stretch) stretch.stop =
      some (walkIn manifest stretch.extend) := by
  have hSize :
      (UInt64.ofNat (stretch.length * pageSize)).toNat =
        stretch.length * pageSize :=
    DirtyPageTracker.toNat_size_entryOf regionId
      (hNext.mono (Nat.le_succ _))
  have hLonger :
      stretch.length * pageSize + pageSize < 2 ^ 64 := by
    have hLength :
        tracker.Addressable (stretch.length + 1) :=
      hNext.mono
        (Nat.succ_le_succ (Nat.le_add_left _ _))
    unfold DirtyPageTracker.Addressable at hLength
    rw [Nat.succ_mul] at hLength
    omega
  have hAdd :
      checkedAdd (UInt64.ofNat (stretch.length * pageSize))
          (UInt64.ofNat pageSize) =
        some
          (UInt64.ofNat
            ((stretch.length + 1) * pageSize)) := by
    unfold checkedAdd
    rw [hSize, Nat.succ_mul, UInt64.ofNat_add]
    exact if_pos hLonger
  unfold walkPage walkIn
  dsimp only
  rw [hSame, if_pos rfl, hAdd]
  rfl

/- A page of another temperature starts a stretch. -/
theorem walkPage_other
    (hLookup :
      manager.regions.lookup regionId = some tracker)
    (manifest : List MemoryRegion)
    {temperatureMap : MemoryTemperatureMap}
    {stretch : Stretch MemoryTemperature}
    (hPos : 0 < stretch.length)
    (hStop : tracker.Addressable stretch.stop)
    (hOther :
      temperatureMap.temperatureOf stretch.stop ≠
        stretch.value) :
    manager.walkPage regionId temperatureMap
        (walkIn manifest stretch) stretch.stop =
      some
        (walkIn
          (manifest ++ [tracker.entryOf regionId stretch])
          (Stretch.single temperatureMap.temperatureOf
            stretch.stop)) := by
  have hTemp :
      (walkIn manifest stretch).currentTemp ≠
        some (temperatureMap.temperatureOf stretch.stop) :=
    fun hEq => hOther (Option.some.inj hEq).symm
  unfold walkPage
  dsimp only
  rw [if_neg hTemp, flushEntry_walkIn hLookup _ hPos hStop]
  unfold walkIn Stretch.single
  rw [Nat.one_mul]
  rfl

/- The rest of the walk leaves the rest of the stretches. -/
theorem walk_eq
    (hLookup :
      manager.regions.lookup regionId = some tracker)
    (temperatureMap : MemoryTemperatureMap)
    (stretch : Stretch MemoryTemperature)
    (remaining : Nat)
    (manifest : List MemoryRegion)
    (hPos : 0 < stretch.length)
    (hStop :
      tracker.Addressable (stretch.stop + remaining)) :
    ((List.range' stretch.stop remaining).foldlM
        (manager.walkPage regionId temperatureMap)
        (walkIn manifest stretch)).bind
        (manager.flushEntry regionId) =
      some
        (manifest ++
          (stretchesFrom temperatureMap.temperatureOf
            stretch remaining).map
              (tracker.entryOf regionId)) := by
  induction remaining generalizing stretch manifest with
  | zero => exact flushEntry_walkIn hLookup manifest hPos hStop
  | succ remaining ih =>
      rw [List.range'_succ, List.foldlM_cons]
      unfold stretchesFrom
      by_cases hSame :
          temperatureMap.temperatureOf stretch.stop =
            stretch.value
      · rw [if_pos hSame,
          walkPage_same manifest
            (hStop.mono (by omega)) hSame]
        apply ih stretch.extend manifest (Nat.succ_pos _)
        exact hStop.mono (by rw [Stretch.stop_extend]; omega)
      · rw [if_neg hSame,
          walkPage_other hLookup manifest hPos
            (hStop.mono (Nat.le_add_right _ _)) hSame]
        have hRest :=
          ih
            (Stretch.single temperatureMap.temperatureOf
              stretch.stop)
            (manifest ++ [tracker.entryOf regionId stretch])
            Nat.one_pos
            (hStop.mono (by rw [Stretch.stop_single]; omega))
        rw [List.append_assoc] at hRest
        exact hRest

/- The manifest has an entry for each stretch of pages. -/
theorem generateManifest_eq
    (hLookup :
      manager.regions.lookup regionId = some tracker)
    (hStop :
      tracker.Addressable tracker.dirtyBitmap.length)
    {temperatureMap : MemoryTemperatureMap}
    (hMap :
      tracker.classifyTemperature = some temperatureMap) :
    manager.generateManifest regionId =
      some
        (some
          ((stretches temperatureMap.temperatureOf
            tracker.dirtyBitmap.length).map
              (tracker.entryOf regionId))) := by
  unfold generateManifest
  rw [hLookup]
  dsimp only
  rw [hMap]
  change
    Option.bind
        (List.foldlM _ _
          (List.range tracker.dirtyBitmap.length))
        (fun walk =>
          Option.bind (manager.flushEntry regionId walk) _) =
      _
  rw [← Option.bind_assoc]
  generalize tracker.dirtyBitmap.length = count at hStop ⊢
  cases count with
  | zero => rfl
  | succ count =>
      have hFirst :
          manager.walkPage regionId temperatureMap
              ⟨[], none, 0, 0⟩ 0 =
            some
              (walkIn []
                (Stretch.single temperatureMap.temperatureOf
                  0)) := by
        unfold walkIn Stretch.single
        rw [Nat.one_mul]
        rfl
      have hWalk :=
        walk_eq hLookup temperatureMap
          (Stretch.single temperatureMap.temperatureOf 0)
          count [] Nat.one_pos
          (hStop.mono (by rw [Stretch.stop_single]; omega))
      rw [Stretch.stop_single] at hWalk
      rw [List.range_eq_range', List.range'_succ,
        List.foldlM_cons, hFirst]
      change
        Option.bind (Option.bind (List.foldlM _ _ _) _) _ = _
      rw [hWalk]
      rfl

end MemorySnapshotManager

------------------------------------------------------------
-- Tilings of a Region
------------------------------------------------------------

/- The address behind the last one of an entry. -/
def MemoryRegion.stop
    (entry : MemoryRegion) : Nat :=
  entry.baseAddr.toNat + entry.size.toNat

namespace DirtyPageTracker

/- The address of a page. -/
def pageStart
    (tracker : DirtyPageTracker)
    (pageOffset : Nat) : Nat :=
  tracker.baseAddr.toNat + pageOffset * pageSize

/-
  The entries of a manifest, in ascending order, are not
  empty, disjoint and without gaps, and have the addresses
  of all whole pages of the region and no others.  Each page
  is in an entry of its temperature, which changes from one
  entry to the next, and no two entries have one name.
-/
structure TilesRegion
    (tracker : DirtyPageTracker)
    (temperatureMap : MemoryTemperatureMap)
    (manifest : List MemoryRegion) : Prop where
  nonempty : ∀ entry ∈ manifest, 0 < entry.size.toNat
  ascending :
    manifest.Pairwise fun one other =>
      one.stop ≤ other.baseAddr.toNat
  contiguous :
    manifest.IsChain fun one next =>
      one.stop = next.baseAddr.toNat
  covers :
    ∀ address,
      (∃ entry ∈ manifest,
          entry.baseAddr.toNat ≤ address ∧
            address < entry.stop) ↔
        tracker.pageStart 0 ≤ address ∧
          address <
            tracker.pageStart (tracker.totalSize / pageSize)
  temperature :
    ∀ pageOffset < tracker.totalSize / pageSize,
      ∃ entry ∈ manifest,
        entry.baseAddr.toNat ≤ tracker.pageStart pageOffset ∧
          tracker.pageStart (pageOffset + 1) ≤ entry.stop ∧
            pageOffset ∈
              temperatureMap.pagesAt entry.temperature
  adjacent :
    manifest.IsChain fun one next =>
      one.temperature ≠ next.temperature
  regionIds : (manifest.map (·.regionId)).Nodup

variable {tracker : DirtyPageTracker}

/- An entry stops where its stretch does. -/
theorem stop_entryOf
    (regionId : String)
    {stretch : Stretch MemoryTemperature}
    (hStop : tracker.Addressable stretch.stop) :
    (tracker.entryOf regionId stretch).stop =
      tracker.pageStart stretch.stop := by
  unfold MemoryRegion.stop pageStart Stretch.stop
  rw [toNat_size_entryOf regionId hStop,
    toNat_baseAddr_entryOf regionId
      (hStop.mono (Nat.le_add_right _ _)),
    Nat.add_mul, Nat.add_assoc]

theorem pageStart_mono
    {pageOffset later : Nat}
    (hLe : pageOffset ≤ later) :
    tracker.pageStart pageOffset ≤ tracker.pageStart later :=
  Nat.add_le_add_left (Nat.mul_le_mul_right _ hLe) _

/- Entries of one name are at one address. -/
theorem regionEntryId_injective
    (regionId : String)
    {one other : UInt64}
    (hName :
      regionEntryId regionId one =
        regionEntryId regionId other) :
    one = other := by
  unfold regionEntryId at hName
  have hList := congrArg String.toList hName
  simp only [String.toList_append, String.toList_ofList]
    at hList
  have hDigits := List.append_cancel_left hList
  have hValue :=
    congrArg (Numeral.value 16) hDigits
  rw [Numeral.value_toDigits (by decide) (by decide),
    Numeral.value_toDigits (by decide) (by decide)] at hValue
  exact UInt64.toNat_inj.mp hValue

section Entries

variable {cut : List (Stretch MemoryTemperature)}
variable {count : Nat}
variable (hTiles : Stretch.Tiles 0 count cut)
variable (hAddressable : tracker.Addressable count)
include hTiles hAddressable

/- An entry starts where its stretch does. -/
theorem baseAddr_of_mem
    (regionId : String)
    {stretch : Stretch MemoryTemperature}
    (hStretch : stretch ∈ cut) :
    (tracker.entryOf regionId stretch).baseAddr.toNat =
      tracker.pageStart stretch.start := by
  have hStop := (hTiles.bounds stretch hStretch).2
  exact
    toNat_baseAddr_entryOf regionId
      (hAddressable.mono
        (Nat.le_trans (Nat.le_add_right _ _) hStop))

theorem stop_of_mem
    (regionId : String)
    {stretch : Stretch MemoryTemperature}
    (hStretch : stretch ∈ cut) :
    (tracker.entryOf regionId stretch).stop =
      tracker.pageStart stretch.stop :=
  stop_entryOf regionId
    (hAddressable.mono (hTiles.bounds stretch hStretch).2)

/- An entry has the addresses of its pages. -/
theorem pageStart_of_mem
    (regionId : String)
    {stretch : Stretch MemoryTemperature}
    (hStretch : stretch ∈ cut)
    {pageOffset : Nat}
    (hStart : stretch.start ≤ pageOffset)
    (hInside : pageOffset < stretch.stop) :
    (tracker.entryOf regionId stretch).baseAddr.toNat ≤
        tracker.pageStart pageOffset ∧
      tracker.pageStart (pageOffset + 1) ≤
        (tracker.entryOf regionId stretch).stop := by
  rw [baseAddr_of_mem hTiles hAddressable regionId hStretch,
    stop_of_mem hTiles hAddressable regionId hStretch]
  exact ⟨pageStart_mono hStart, pageStart_mono hInside⟩

theorem entries_nonempty
    (regionId : String) :
    ∀ entry ∈ cut.map (tracker.entryOf regionId),
      0 < entry.size.toNat := by
  rw [List.forall_mem_map]
  intro stretch hStretch
  rw [toNat_size_entryOf regionId
    (hAddressable.mono (hTiles.bounds stretch hStretch).2)]
  exact Nat.mul_pos (hTiles.pos stretch hStretch) (by decide)

theorem entries_ascending
    (regionId : String) :
    (cut.map (tracker.entryOf regionId)).Pairwise
      fun one other => one.stop ≤ other.baseAddr.toNat := by
  rw [List.pairwise_map]
  refine hTiles.pairwise.imp_of_mem ?_
  intro one other hOne hOther hLe
  rw [stop_of_mem hTiles hAddressable regionId hOne,
    baseAddr_of_mem hTiles hAddressable regionId hOther]
  exact pageStart_mono hLe

theorem entries_contiguous
    (regionId : String) :
    (cut.map (tracker.entryOf regionId)).IsChain
      fun one next => one.stop = next.baseAddr.toNat := by
  rw [List.isChain_map]
  refine hTiles.contiguous.imp_of_mem_imp ?_
  intro one next hOne hNext hEq
  rw [stop_of_mem hTiles hAddressable regionId hOne,
    baseAddr_of_mem hTiles hAddressable regionId hNext, hEq]

omit hTiles hAddressable in
/- An address of the region is on one of its pages. -/
theorem exists_pageStart_le
    {address : Nat}
    (hFirst : tracker.pageStart 0 ≤ address)
    (hLast : address < tracker.pageStart count) :
    ∃ pageOffset < count,
      tracker.pageStart pageOffset ≤ address ∧
        address < tracker.pageStart (pageOffset + 1) := by
  have hInPage :
      tracker.pageStart
            ((address - tracker.baseAddr.toNat) / pageSize) ≤
          address ∧
        address <
          tracker.pageStart
            ((address - tracker.baseAddr.toNat) / pageSize +
              1) := by
    unfold pageStart pageSize at hFirst ⊢
    omega
  refine ⟨_, ?_, hInPage⟩
  by_contra hBeyond
  have hLe :=
    tracker.pageStart_mono (Nat.le_of_not_lt hBeyond)
  omega

theorem entries_cover
    (regionId : String)
    (address : Nat) :
    (∃ entry ∈ cut.map (tracker.entryOf regionId),
        entry.baseAddr.toNat ≤ address ∧
          address < entry.stop) ↔
      tracker.pageStart 0 ≤ address ∧
        address < tracker.pageStart count := by
  constructor
  · rintro ⟨entry, hEntry, hStart, hBefore⟩
    rcases List.mem_map.mp hEntry with
      ⟨stretch, hStretch, rfl⟩
    rw [baseAddr_of_mem hTiles hAddressable regionId
      hStretch] at hStart
    rw [stop_of_mem hTiles hAddressable regionId hStretch]
      at hBefore
    rcases hTiles.bounds stretch hStretch with
      ⟨hFirst, hLast⟩
    exact
      ⟨Nat.le_trans (pageStart_mono hFirst) hStart,
        Nat.lt_of_lt_of_le hBefore (pageStart_mono hLast)⟩
  · rintro ⟨hFirst, hLast⟩
    rcases exists_pageStart_le hFirst hLast with
      ⟨pageOffset, hPage, hBelow, hAbove⟩
    rcases hTiles.covers.mpr
        ⟨Nat.zero_le pageOffset, hPage⟩ with
      ⟨stretch, hStretch, hStart, hInside⟩
    rcases
        pageStart_of_mem hTiles hAddressable regionId hStretch
          hStart hInside
      with ⟨hFrom, hTo⟩
    exact
      ⟨tracker.entryOf regionId stretch,
        List.mem_map_of_mem hStretch,
        Nat.le_trans hFrom hBelow,
        Nat.lt_of_lt_of_le hAbove hTo⟩

theorem entries_regionIds_nodup
    (regionId : String) :
    ((cut.map (tracker.entryOf regionId)).map
      (·.regionId)).Nodup := by
  rw [List.map_map, List.Nodup, List.pairwise_map]
  refine hTiles.pairwise.imp_of_mem ?_
  intro one other hOne hOther hLe hName
  have hBase :
      (tracker.entryOf regionId one).baseAddr =
        (tracker.entryOf regionId other).baseAddr :=
    regionEntryId_injective regionId hName
  have hStart := congrArg UInt64.toNat hBase
  rw [baseAddr_of_mem hTiles hAddressable regionId hOne,
    baseAddr_of_mem hTiles hAddressable regionId hOther]
    at hStart
  have hPos := hTiles.pos one hOne
  unfold pageStart pageSize at hStart
  unfold Stretch.stop at hLe
  omega

end Entries

/- The stretches of the pages tile the region. -/
theorem tilesRegion_stretches
    [BuildProfile]
    (regionId : String)
    (hSized : tracker.Sized)
    {temperatureMap : MemoryTemperatureMap}
    (hMap :
      tracker.classifyTemperature = some temperatureMap)
    (hAddressable :
      tracker.Addressable (tracker.totalSize / pageSize)) :
    tracker.TilesRegion temperatureMap
      ((stretches temperatureMap.temperatureOf
        (tracker.totalSize / pageSize)).map
          (tracker.entryOf regionId)) := by
  have hTiles :=
    stretches_tiles temperatureMap.temperatureOf
      (tracker.totalSize / pageSize)
  constructor
  case nonempty =>
    exact entries_nonempty hTiles hAddressable regionId
  case ascending =>
    exact entries_ascending hTiles hAddressable regionId
  case contiguous =>
    exact entries_contiguous hTiles hAddressable regionId
  case covers =>
    exact entries_cover hTiles hAddressable regionId
  case temperature =>
    intro pageOffset hPage
    rcases hTiles.covers.mpr
        ⟨Nat.zero_le pageOffset, hPage⟩ with
      ⟨stretch, hStretch, hStart, hInside⟩
    rcases
        pageStart_of_mem hTiles hAddressable regionId hStretch
          hStart hInside
      with ⟨hFrom, hTo⟩
    refine
      ⟨tracker.entryOf regionId stretch,
        List.mem_map_of_mem hStretch, hFrom, hTo, ?_⟩
    have hValue :=
      stretches_constant temperatureMap.temperatureOf
        (tracker.totalSize / pageSize) stretch hStretch
        pageOffset hStart hInside
    refine (mem_pagesAt_iff hMap ?_ _).mpr hValue.symm
    rw [hSized.counts]
    exact hPage
  case adjacent =>
    rw [List.isChain_map]
    exact
      stretches_adjacent temperatureMap.temperatureOf
        (tracker.totalSize / pageSize)
  case regionIds =>
    exact
      entries_regionIds_nodup hTiles hAddressable regionId

end DirtyPageTracker

/-
  In every manager that calls lead to, the manifest of a
  region tiles it, except that a build which checks overflow
  panics where the accesses add up to more than a half word.
-/
theorem MemorySnapshotManager.generateManifest_iff
    [Sha256] [Compressors] [BuildProfile]
    (ops : List SnapshotOp)
    {regionId : String}
    {tracker : DirtyPageTracker}
    (hRegistered :
      (reached ops).regions.lookup regionId = some tracker)
    (hAddressable :
      tracker.baseAddr.toNat +
          tracker.totalSize / pageSize * pageSize <
        2 ^ 64) :
    (∃ temperatureMap manifest,
        tracker.classifyTemperature = some temperatureMap ∧
          (reached ops).generateManifest regionId =
              some (some manifest) ∧
            tracker.TilesRegion temperatureMap manifest) ↔
      (BuildProfile.overflowChecks = true →
        tracker.totalAccesses < 2 ^ 32) := by
  have hSized :=
    (wellKept_reached ops).sized regionId tracker hRegistered
  constructor
  · rintro ⟨temperatureMap, _, hMap, _⟩ hChecks
    by_contra hBeyond
    have hNone :=
      tracker.classifyTemperature_eq_none_iff.mpr
        ⟨hChecks, Nat.le_of_not_lt hBeyond⟩
    rw [hNone] at hMap
    cases hMap
  · intro hRange
    cases hMap : tracker.classifyTemperature with
    | none =>
        rcases tracker.classifyTemperature_eq_none_iff.mp
            hMap with
          ⟨hChecks, hBeyond⟩
        exact
          absurd (hRange hChecks) (Nat.not_lt_of_le hBeyond)
    | some temperatureMap =>
        have hManifest :=
          generateManifest_eq hRegistered
            (hSized.bitmap ▸ hAddressable) hMap
        rw [hSized.bitmap] at hManifest
        exact
          ⟨temperatureMap, _, rfl, hManifest,
            DirtyPageTracker.tilesRegion_stretches regionId
              hSized hMap hAddressable⟩

end IsaWorkspace

namespace IsaWorkspace

open SnapshotSample

namespace MemorySnapshotManager

/- A region of two pages, the first of them accessed. -/
theorem generateManifest_sample :
    ∃ temperatureMap manifest,
      DirtyPageTracker.classifyTemperature
            ⟨0x1000, 8192, [false, false], [1, 0]⟩ =
          some temperatureMap ∧
        (reached
              [.registerRegion "test" 0x1000 8192,
                .recordPageAccess "test" 0]).generateManifest
              "test" =
            some (some manifest) ∧
          DirtyPageTracker.TilesRegion
            ⟨0x1000, 8192, [false, false], [1, 0]⟩
            temperatureMap manifest := by
  apply
    (generateManifest_iff
      [.registerRegion "test" 0x1000 8192,
        .recordPageAccess "test" 0]
      (by decide +kernel) (by decide)).mpr
  decide

/- The greatest half word of accesses and one more. -/
theorem generateManifest_beyond :
    ∃ tracker,
      (reached
            (.registerRegion "test" 0x1000 8192 ::
              (List.replicate (2 ^ 32 - 1) 0 ++ [1]).map
                (.recordPageAccess "test"))).regions.lookup
            "test" =
          some tracker ∧
        tracker.baseAddr.toNat +
              tracker.totalSize / pageSize * pageSize <
            2 ^ 64 ∧
          ¬ ∃ temperatureMap manifest,
            tracker.classifyTemperature =
                some temperatureMap ∧
              (reached
                    (.registerRegion "test" 0x1000 8192 ::
                      (List.replicate (2 ^ 32 - 1) 0 ++
                          [1]).map
                        (.recordPageAccess
                          "test"))).generateManifest
                    "test" =
                  some (some manifest) ∧
                tracker.TilesRegion temperatureMap
                  manifest := by
  refine
    ⟨_, lookup_reached_accesses "test" 0x1000 8192 _, ?_, ?_⟩
  · rcases DirtyPageTracker.accessed_region 0x1000 8192
        (List.replicate (2 ^ 32 - 1) 0 ++ [1]) with
      ⟨hBase, hSize⟩
    rw [hBase, hSize]
    decide
  · rintro ⟨temperatureMap, _, hMap, _⟩
    have hNone :=
      DirtyPageTracker.classifyTemperature_eq_none_iff _
        |>.mpr ⟨rfl, DirtyPageTracker.totalAccesses_beyond⟩
    rw [hNone] at hMap
    cases hMap

end MemorySnapshotManager

end IsaWorkspace
