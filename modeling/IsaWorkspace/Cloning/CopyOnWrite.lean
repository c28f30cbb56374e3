import IsaWorkspace.Cloning.Pages
import Mathlib.Data.Set.Prod

/-
  Copy-on-write, as far as it goes.

  A parent and its clones share the parent's pages until one
  of them writes.  The reference count of a page should say
  how many states share it, and no state should see what
  another one has written.  A history keeps, beside the
  cloner, which clones there are, who has written which
  region, and what every state would see if each had its own
  memory.

  Main declarations:
    * `CowOp`, `CowHistory`, `CowHistory.step`
    * `CowHistory.CopiesOnWrite`, `CowHistory.KeepsShares`
    * `CowHistory.Tracks`, `CowHistory.tracks_step`
    * `CowHistory.copiesOnWrite_clone_iff`
    * `CowHistory.copiesOnWrite_modify_iff`
    * `CowHistory.copiesOnWrite_iff`
-/

------------------------------------------------------------
-- Histories
------------------------------------------------------------

namespace IsaWorkspace

/- The calls of one parent and its clones. -/
inductive CowOp where
  | cloneState (call : CloneCall)
  | modifyPage
      (stateId : StateId) (regionId : String)
      (newData : Bytes)

/-
  A cloner, the clones that were made, the regions that
  states have written, and the memory of each state.
-/
structure CowHistory (B : Type) where
  cloner : StateCloner B
  cloneIds : List StateId
  written : List (StateId × String)
  memories : StateId → String → Bytes

namespace CowHistory

variable {B : Type}

def start
    (config : CloneConfig)
    (stateStore : StateStore B) : CowHistory B where
  cloner := StateCloner.new config stateStore
  cloneIds := []
  written := []
  memories := fun _ _ => []

/- The page under the key of a state's region. -/
def page
    (history : CowHistory B)
    (stateId : StateId)
    (regionId : String) : Option RefCountedPage :=
  history.cloner.pages.lookup
    (StateCloner.pageKey stateId regionId)

/-
  What a state sees in a region: its own page if it has one,
  and the parent's page otherwise.
-/
def visible
    (history : CowHistory B)
    (parentId stateId : StateId)
    (regionId : String) : Bytes :=
  ((history.page stateId regionId).map
      RefCountedPage.data).getD
    (((history.page parentId regionId).map
      RefCountedPage.data).getD [])

/- The clones that have not written a region. -/
def sharers
    (history : CowHistory B)
    (regionId : String) : List StateId :=
  history.cloneIds.filter fun cloneId =>
    decide ((cloneId, regionId) ∉ history.written)

/-
  Every counted page of the parent is counted once for the
  parent and once for each clone that shares it, and every
  state sees its own memory.
-/
structure CopiesOnWrite
    (original : State)
    (history : CowHistory B) : Prop where
  counts :
    ∀ region ∈ original.memoryManifest,
      ∀ count ∈
          history.cloner.getPageRefCount original.stateId
            region.regionId,
        count = 1 + (history.sharers region.regionId).length
  isolated :
    ∀ stateId ∈ original.stateId :: history.cloneIds,
      ∀ region ∈ original.memoryManifest,
        history.visible original.stateId stateId
            region.regionId =
          history.memories stateId region.regionId

/- A write is one to the memory of its state. -/
def write
    (memories : StateId → String → Bytes)
    (stateId : StateId)
    (regionId : String)
    (newData : Bytes) : StateId → String → Bytes :=
  fun other region =>
    if other = stateId ∧ region = regionId then newData
    else memories other region

/- A clone starts with the memory of its parent. -/
def inherit
    (memories : StateId → String → Bytes)
    (parentId cloneId : StateId) :
    StateId → String → Bytes :=
  fun other =>
    if other = cloneId then memories parentId
    else memories other

section Steps

variable [Sha256] [SerdeJson State] [StorageBackendTrait B]

/- One call; a failed one makes no clone. -/
def step
    (history : CowHistory B) : CowOp → CowHistory B
| .cloneState call =>
    let cloned := history.cloner.cloneState call
    match cloned.1 with
    | .ok _ =>
        { history with
          cloner := cloned.2
          cloneIds := call.cloneId :: history.cloneIds
          memories :=
            inherit history.memories call.original.stateId
              call.cloneId }
    | _ => { history with cloner := cloned.2 }
| .modifyPage stateId regionId newData =>
    { history with
      cloner :=
        (history.cloner.modifyPage stateId regionId newData).2
      written := (stateId, regionId) :: history.written
      memories :=
        write history.memories stateId regionId newData }

/-
  The calls in question: clones of the one parent that are
  stored under a fresh id, and writes by the parent or one
  of its clones.
-/
def Given
    (original : State)
    (states : Set StateId)
    (regions : Set String)
    (history : CowHistory B) : CowOp → Prop
| .cloneState call =>
    call.original = original ∧ call.cloneId ∈ states ∧
      call.cloneId ∉ original.stateId :: history.cloneIds ∧
      ∃ result,
        (history.cloner.cloneState call).1 = .ok result
| .modifyPage stateId regionId _ =>
    stateId ∈ original.stateId :: history.cloneIds ∧
      regionId ∈ regions

end Steps

/-
  A clone finds a page for every region; the parent writes
  no page that it shares, and a clone no region that it has
  not written before.  Other regions are free.
-/
def KeepsShares
    (original : State)
    (history : CowHistory B) : CowOp → Prop
| .cloneState _ =>
    ∀ region ∈ original.memoryManifest,
      (history.cloner.getPageRefCount original.stateId
        region.regionId).isSome = true
| .modifyPage stateId regionId _ =>
    regionId ∈
        original.memoryManifest.map MemoryRegion.regionId →
      if stateId = original.stateId then
        ∀ count ∈
            history.cloner.getPageRefCount stateId regionId,
          count = 1
      else
        (stateId, regionId) ∈ history.written

/-
  The parent's regions are told apart, and so are the page
  keys of all states and regions in question.
-/
structure Separate
    (original : State)
    (states : Set StateId)
    (regions : Set String) : Prop where
  unique :
    (original.memoryManifest.map MemoryRegion.regionId).Nodup
  parent : original.stateId ∈ states
  manifest :
    ∀ region ∈ original.memoryManifest,
      region.regionId ∈ regions
  keys :
    Set.InjOn
      (fun place : StateId × String =>
        StateCloner.pageKey place.1 place.2)
      (states ×ˢ regions)

/-
  How the history goes with the pages: a clone has a page of
  its own where it has written, and where there is a clone,
  the parent has a page for every region.
-/
structure Tracks
    (original : State)
    (states : Set StateId)
    (regions : Set String)
    (history : CowHistory B) : Prop where
  shared : history.cloner.config.eagerCopy = false
  nodup : (original.stateId :: history.cloneIds).Nodup
  within :
    ∀ stateId ∈ original.stateId :: history.cloneIds,
      stateId ∈ states
  writers :
    ∀ place ∈ history.written,
      place.1 ∈ original.stateId :: history.cloneIds
  owned :
    ∀ stateId ∈ states, stateId ≠ original.stateId →
      ∀ regionId ∈ regions,
        (history.page stateId regionId).isSome = true ↔
          (stateId, regionId) ∈ history.written
  registered :
    history.cloneIds ≠ [] →
      ∀ region ∈ original.memoryManifest,
        (history.page original.stateId
          region.regionId).isSome = true

------------------------------------------------------------
-- Pages After a Step
------------------------------------------------------------

section Lookups

variable {original : State} {states : Set StateId}
variable {regions : Set String} {history : CowHistory B}

theorem getPageRefCount_eq
    (history : CowHistory B)
    (stateId : StateId)
    (regionId : String) :
    history.cloner.getPageRefCount stateId regionId =
      (history.page stateId regionId).map
        RefCountedPage.refCount := rfl

/- The keys of two places are the same for one place only. -/
theorem Separate.eq_of_pageKey
    (hSeparate : Separate original states regions)
    {first second : StateId × String}
    (hFirst : first ∈ states ×ˢ regions)
    (hSecond : second ∈ states ×ˢ regions)
    (hKey :
      StateCloner.pageKey first.1 first.2 =
        StateCloner.pageKey second.1 second.2) :
    first = second :=
  hSeparate.keys hFirst hSecond hKey

variable [Sha256] [SerdeJson State] [StorageBackendTrait B]

/- A write gives its place a page that is counted once. -/
theorem page_modifyPage
    (hSeparate : Separate original states regions)
    {stateId : StateId}
    {regionId : String}
    (hPlace : (stateId, regionId) ∈ states ×ˢ regions)
    (history : CowHistory B)
    (newData : Bytes) :
    ∃ written : RefCountedPage,
      written.refCount = 1 ∧ written.data = newData ∧
        ∀ other region, (other, region) ∈ states ×ˢ regions →
          (history.step
              (.modifyPage stateId regionId newData)).page
              other region =
            if (other, region) = (stateId, regionId) then
              some written
            else
              history.page other region := by
  obtain ⟨written, hCount, hData, hLookup⟩ :=
    StateCloner.lookup_modifyPage stateId regionId newData
      history.cloner
  refine ⟨written, hCount, hData, ?_⟩
  intro other region hOther
  have hKey :=
    hLookup (StateCloner.pageKey other region)
  by_cases hSame : (other, region) = (stateId, regionId)
  · rw [if_pos hSame]
    cases hSame
    rw [if_pos rfl] at hKey
    exact hKey
  · have hKeys :
        StateCloner.pageKey other region ≠
          StateCloner.pageKey stateId regionId := by
      intro hEq
      exact hSame (hSeparate.eq_of_pageKey hOther hPlace hEq)
    rw [if_neg hSame]
    rw [if_neg hKeys] at hKey
    exact hKey

/- What a call does that made a clone. -/
theorem step_cloneState
    {call : CloneCall}
    {result : CloneResult}
    (hOk :
      (history.cloner.cloneState call).1 = .ok result) :
    (history.step (.cloneState call)).cloneIds =
        call.cloneId :: history.cloneIds ∧
      (history.step (.cloneState call)).written =
        history.written ∧
      (history.step (.cloneState call)).memories =
        inherit history.memories call.original.stateId
          call.cloneId ∧
      (history.step (.cloneState call)).cloner.config =
        history.cloner.config ∧
      (history.step (.cloneState call)).cloner.pages =
        history.cloner.registeredPages call := by
  rcases hCloned : history.cloner.cloneState call with
    ⟨outcome, cloner⟩
  rw [hCloned] at hOk
  cases hOk
  obtain ⟨hConfig, hPages⟩ :=
    StateCloner.of_cloneState_ok hCloned
  unfold step
  dsimp only
  rw [hCloned]
  exact ⟨rfl, rfl, rfl, hConfig, hPages⟩

/- A clone registers the pages of its parent. -/
theorem page_cloneState
    (hSeparate : Separate original states regions)
    (hShared : history.cloner.config.eagerCopy = false)
    {call : CloneCall}
    {result : CloneResult}
    (hOriginal : call.original = original)
    (hOk :
      (history.cloner.cloneState call).1 = .ok result)
    {stateId : StateId}
    {regionId : String}
    (hPlace : (stateId, regionId) ∈ states ×ˢ regions) :
    (history.step (.cloneState call)).page stateId regionId =
      if
          stateId = original.stateId ∧
            regionId ∈
              original.memoryManifest.map
                MemoryRegion.regionId then
        some
          (StateCloner.registered regionId
            (history.page stateId regionId))
      else
        history.page stateId regionId := by
  obtain ⟨_, _, _, _, hPages⟩ := step_cloneState hOk
  unfold page
  rw [hPages]
  unfold StateCloner.registeredPages
  rw [hShared, hOriginal, if_neg Bool.false_ne_true]
  split
  · next hParent =>
      obtain ⟨hSame, hRegion⟩ := hParent
      obtain ⟨region, hMember, rfl⟩ :=
        List.mem_map.mp hRegion
      rw [hSame]
      exact
        StateCloner.lookup_registerPages original.stateId
          hSeparate.unique hMember _
  · next hOther =>
      apply StateCloner.lookup_registerPages_of_ne
      intro region hMember hKey
      have hParent :
          (original.stateId, region.regionId) ∈
            states ×ˢ regions :=
        ⟨hSeparate.parent, hSeparate.manifest region hMember⟩
      cases hSeparate.eq_of_pageKey hPlace hParent hKey
      exact hOther ⟨rfl, List.mem_map_of_mem hMember⟩

------------------------------------------------------------
-- The History Tracks the Pages
------------------------------------------------------------

omit [Sha256] [SerdeJson State] [StorageBackendTrait B] in
theorem tracks_start
    (hSeparate : Separate original states regions)
    {config : CloneConfig}
    (hShared : config.eagerCopy = false)
    (stateStore : StateStore B) :
    Tracks original states regions
      (start config stateStore) where
  shared := hShared
  nodup := List.nodup_singleton original.stateId
  within := by
    intro stateId hState
    rw [List.mem_singleton.mp hState]
    exact hSeparate.parent
  writers := nofun
  owned := by
    intro stateId _ _ regionId _
    exact iff_of_false nofun nofun
  registered := fun hNone => absurd rfl hNone

theorem tracks_cloneState
    (hSeparate : Separate original states regions)
    (hTracks : Tracks original states regions history)
    {call : CloneCall}
    {result : CloneResult}
    (hOriginal : call.original = original)
    (hWithin : call.cloneId ∈ states)
    (hFresh :
      call.cloneId ∉ original.stateId :: history.cloneIds)
    (hOk :
      (history.cloner.cloneState call).1 = .ok result) :
    Tracks original states regions
      (history.step (.cloneState call)) := by
  obtain ⟨hIds, hWritten, _, hConfig, _⟩ :=
    step_cloneState hOk
  obtain ⟨hNotParent, hNotClone⟩ :=
    not_or.mp (mt List.mem_cons.mpr hFresh)
  obtain ⟨hParent, hClones⟩ :=
    List.nodup_cons.mp hTracks.nodup
  constructor
  · rw [hConfig]
    exact hTracks.shared
  · rw [hIds]
    refine
      List.nodup_cons.mpr
        ⟨?_, List.nodup_cons.mpr ⟨hNotClone, hClones⟩⟩
    rw [List.mem_cons, not_or]
    exact ⟨Ne.symm hNotParent, hParent⟩
  · rw [hIds]
    intro stateId hState
    rcases List.mem_cons.mp hState with rfl | hClone
    · exact hSeparate.parent
    · rcases List.mem_cons.mp hClone with rfl | hOld
      · exact hWithin
      · exact
          hTracks.within stateId
            (List.mem_cons_of_mem _ hOld)
  · rw [hIds, hWritten]
    intro place hPlace
    rcases List.mem_cons.mp (hTracks.writers place hPlace) with
      hSame | hOld
    · rw [hSame]
      exact List.mem_cons_self
    · exact
        List.mem_cons_of_mem _ (List.mem_cons_of_mem _ hOld)
  · intro stateId hState hOther regionId hRegion
    rw [hWritten,
      page_cloneState hSeparate hTracks.shared hOriginal hOk
        ⟨hState, hRegion⟩,
      if_neg fun hParent => hOther hParent.1]
    exact hTracks.owned stateId hState hOther regionId hRegion
  · intro _ region hRegion
    rw [page_cloneState hSeparate hTracks.shared hOriginal hOk
        ⟨hSeparate.parent, hSeparate.manifest region hRegion⟩,
      if_pos ⟨rfl, List.mem_map_of_mem hRegion⟩]
    rfl

theorem tracks_modifyPage
    (hSeparate : Separate original states regions)
    (hTracks : Tracks original states regions history)
    {stateId : StateId}
    {regionId : String}
    (hWriter : stateId ∈ original.stateId :: history.cloneIds)
    (hRegion : regionId ∈ regions)
    (newData : Bytes) :
    Tracks original states regions
      (history.step
        (.modifyPage stateId regionId newData)) := by
  have hState := hTracks.within stateId hWriter
  obtain ⟨written, _, _, hPage⟩ :=
    page_modifyPage hSeparate ⟨hState, hRegion⟩ history newData
  constructor
  · exact
      (congrArg CloneConfig.eagerCopy
        (StateCloner.modifyPage_config stateId regionId
          newData history.cloner)).trans hTracks.shared
  · exact hTracks.nodup
  · exact hTracks.within
  · intro place hPlace
    rcases List.mem_cons.mp hPlace with rfl | hOld
    · exact hWriter
    · exact hTracks.writers place hOld
  · intro other hOther hNotParent region hOtherRegion
    rw [hPage other region ⟨hOther, hOtherRegion⟩]
    change
      _ ↔ (other, region) ∈ (stateId, regionId) :: _
    rw [List.mem_cons]
    split
    · next hSame => exact iff_of_true rfl (Or.inl hSame)
    · next hSame =>
        rw [or_iff_right hSame]
        exact
          hTracks.owned other hOther hNotParent region
            hOtherRegion
  · intro hClones region hMember
    rw [hPage original.stateId region.regionId
      ⟨hSeparate.parent, hSeparate.manifest region hMember⟩]
    split
    · rfl
    · exact hTracks.registered hClones region hMember

/- The history tracks the pages through every step. -/
theorem tracks_step
    (hSeparate : Separate original states regions)
    (history : CowHistory B)
    (op : CowOp)
    (hTracks : Tracks original states regions history)
    (hGiven : Given original states regions history op) :
    Tracks original states regions (history.step op) := by
  cases op with
  | cloneState call =>
      obtain ⟨hOriginal, hWithin, hFresh, result, hOk⟩ := hGiven
      exact
        tracks_cloneState hSeparate hTracks hOriginal hWithin
          hFresh hOk
  | modifyPage stateId regionId newData =>
      exact
        tracks_modifyPage hSeparate hTracks hGiven.1 hGiven.2
          newData

------------------------------------------------------------
-- Clones
------------------------------------------------------------

omit [Sha256] [SerdeJson State] [StorageBackendTrait B] in
/- A clone that is made has written nothing. -/
theorem Tracks.not_written
    (hTracks : Tracks original states regions history)
    {cloneId : StateId}
    (hFresh : cloneId ∉ original.stateId :: history.cloneIds)
    (regionId : String) :
    (cloneId, regionId) ∉ history.written := by
  intro hWritten
  exact hFresh (hTracks.writers _ hWritten)

/- The new clone shares every region. -/
theorem sharers_cloneState
    (hTracks : Tracks original states regions history)
    {call : CloneCall}
    {result : CloneResult}
    (hFresh :
      call.cloneId ∉ original.stateId :: history.cloneIds)
    (hOk :
      (history.cloner.cloneState call).1 = .ok result)
    (regionId : String) :
    (history.step (.cloneState call)).sharers regionId =
      call.cloneId :: history.sharers regionId := by
  obtain ⟨hIds, hWritten, _⟩ := step_cloneState hOk
  unfold sharers
  rw [hIds, hWritten]
  exact
    List.filter_cons_of_pos
      (decide_eq_true (hTracks.not_written hFresh regionId))

omit [Sha256] [SerdeJson State] [StorageBackendTrait B] in
/- What a state sees before it has written. -/
theorem visible_of_unwritten
    (hTracks : Tracks original states regions history)
    {stateId : StateId}
    {regionId : String}
    (hState : stateId ∈ states)
    (hOther : stateId ≠ original.stateId)
    (hRegion : regionId ∈ regions)
    (hUnwritten : (stateId, regionId) ∉ history.written) :
    history.visible original.stateId stateId regionId =
      history.visible original.stateId original.stateId
        regionId := by
  have hNone : history.page stateId regionId = none := by
    rw [← Option.not_isSome_iff_eq_none,
      hTracks.owned stateId hState hOther regionId hRegion]
    exact hUnwritten
  unfold visible
  rw [hNone, Option.map_none, Option.getD_none]
  cases history.page original.stateId regionId with
  | none => rfl
  | some page => rfl

/- Registering pages shows no state anything new. -/
theorem visible_cloneState
    (hSeparate : Separate original states regions)
    (hTracks : Tracks original states regions history)
    {call : CloneCall}
    {result : CloneResult}
    (hOriginal : call.original = original)
    (hOk :
      (history.cloner.cloneState call).1 = .ok result)
    {stateId : StateId}
    {regionId : String}
    (hState : stateId ∈ states)
    (hRegion : regionId ∈ regions) :
    (history.step (.cloneState call)).visible
        original.stateId stateId regionId =
      history.visible original.stateId stateId regionId := by
  have hRegistered :
      ∀ old : Option RefCountedPage,
        (StateCloner.registered regionId old).data =
          (old.map RefCountedPage.data).getD [] := by
    intro old
    cases old with
    | none => rfl
    | some page => rfl
  unfold visible
  rw [page_cloneState hSeparate hTracks.shared hOriginal hOk
      ⟨hState, hRegion⟩,
    page_cloneState hSeparate hTracks.shared hOriginal hOk
      ⟨hSeparate.parent, hRegion⟩]
  by_cases hMember :
      regionId ∈
        original.memoryManifest.map MemoryRegion.regionId
  · by_cases hSame : stateId = original.stateId
    · subst hSame
      rw [if_pos ⟨rfl, hMember⟩, Option.map_some,
        Option.getD_some, hRegistered]
      cases history.page original.stateId regionId with
      | none => rfl
      | some page => rfl
    · rw [if_neg fun hParent => hSame hParent.1,
        if_pos ⟨rfl, hMember⟩, Option.map_some,
        Option.getD_some, hRegistered]
  · rw [if_neg fun hParent => hMember hParent.2,
      if_neg fun hParent => hMember hParent.2]

/- A clone sees what its parent does. -/
theorem isolated_cloneState
    (hSeparate : Separate original states regions)
    (hTracks : Tracks original states regions history)
    (hCopies : CopiesOnWrite original history)
    {call : CloneCall}
    {result : CloneResult}
    (hOriginal : call.original = original)
    (hWithin : call.cloneId ∈ states)
    (hFresh :
      call.cloneId ∉ original.stateId :: history.cloneIds)
    (hOk :
      (history.cloner.cloneState call).1 = .ok result)
    {stateId : StateId}
    (hState :
      stateId ∈
        original.stateId ::
          (history.step (.cloneState call)).cloneIds)
    {region : MemoryRegion}
    (hRegion : region ∈ original.memoryManifest) :
    (history.step (.cloneState call)).visible
        original.stateId stateId region.regionId =
      (history.step (.cloneState call)).memories stateId
        region.regionId := by
  obtain ⟨hIds, _, hMemories, _, _⟩ := step_cloneState hOk
  have hRegionId := hSeparate.manifest region hRegion
  have hParentSees :=
    hCopies.isolated original.stateId List.mem_cons_self
      region hRegion
  rw [hMemories]
  unfold inherit
  by_cases hClone : stateId = call.cloneId
  · have hOther : call.cloneId ≠ original.stateId := by
      intro hSame
      rw [hSame] at hFresh
      exact hFresh List.mem_cons_self
    rw [hClone, if_pos rfl, hOriginal,
      visible_cloneState hSeparate hTracks hOriginal hOk
        hWithin hRegionId,
      visible_of_unwritten hTracks hWithin hOther hRegionId
        (hTracks.not_written hFresh region.regionId)]
    exact hParentSees
  · have hOld : stateId ∈ original.stateId :: history.cloneIds := by
      rw [hIds] at hState
      rcases List.mem_cons.mp hState with rfl | hRest
      · exact List.mem_cons_self
      · exact
          List.mem_cons_of_mem _
            ((List.mem_cons.mp hRest).resolve_left hClone)
    rw [if_neg hClone,
      visible_cloneState hSeparate hTracks hOriginal hOk
        (hTracks.within stateId hOld) hRegionId]
    exact hCopies.isolated stateId hOld region hRegion

/-
  A clone keeps the counts exactly when it finds a page for
  each region: a first registration counts two states once.
-/
theorem copiesOnWrite_clone_iff
    (hSeparate : Separate original states regions)
    (hTracks : Tracks original states regions history)
    (hCopies : CopiesOnWrite original history)
    {call : CloneCall}
    {result : CloneResult}
    (hOriginal : call.original = original)
    (hWithin : call.cloneId ∈ states)
    (hFresh :
      call.cloneId ∉ original.stateId :: history.cloneIds)
    (hOk :
      (history.cloner.cloneState call).1 = .ok result) :
    CopiesOnWrite original (history.step (.cloneState call)) ↔
      KeepsShares original history (.cloneState call) := by
  have hCount :
      ∀ region ∈ original.memoryManifest,
        (history.step
            (.cloneState call)).cloner.getPageRefCount
            original.stateId region.regionId =
          some
            ((history.cloner.getPageRefCount original.stateId
              region.regionId).getD 0 + 1) := by
    intro region hRegion
    rw [getPageRefCount_eq, getPageRefCount_eq,
      page_cloneState hSeparate hTracks.shared hOriginal hOk
        ⟨hSeparate.parent, hSeparate.manifest region hRegion⟩,
      if_pos ⟨rfl, List.mem_map_of_mem hRegion⟩]
    cases history.page original.stateId region.regionId with
    | none => rfl
    | some page => rfl
  constructor
  · intro hAfter region hRegion
    have hNew := hAfter.counts region hRegion _ (hCount region hRegion)
    rw [sharers_cloneState hTracks hFresh hOk,
      List.length_cons] at hNew
    cases hPage :
        history.cloner.getPageRefCount original.stateId
          region.regionId with
    | some count => rfl
    | none =>
        rw [hPage, Option.getD_none] at hNew
        omega
  · intro hKeeps
    constructor
    · intro region hRegion count hNew
      rw [hCount region hRegion] at hNew
      rw [sharers_cloneState hTracks hFresh hOk,
        List.length_cons]
      obtain ⟨old, hOld⟩ :=
        Option.isSome_iff_exists.mp (hKeeps region hRegion)
      have hBefore := hCopies.counts region hRegion old hOld
      rw [hOld] at hNew
      cases hNew
      rw [Option.getD_some]
      omega
    · intro stateId hState region hRegion
      exact
        isolated_cloneState hSeparate hTracks hCopies hOriginal
          hWithin hFresh hOk hState hRegion

------------------------------------------------------------
-- Writes
------------------------------------------------------------

section Writes

variable {stateId : StateId} {regionId : String}
variable {newData : Bytes}

/- A write that is no clone's first one changes no sharing. -/
theorem sharers_modifyPage
    (history : CowHistory B)
    (newData : Bytes)
    {region : String}
    (hKept :
      ∀ cloneId ∈ history.cloneIds,
        (cloneId, region) = (stateId, regionId) →
          (cloneId, region) ∈ history.written) :
    (history.step
        (.modifyPage stateId regionId newData)).sharers
        region =
      history.sharers region := by
  apply List.filter_congr
  intro cloneId hClone
  apply decide_eq_decide.mpr
  apply not_congr
  change (cloneId, region) ∈ (stateId, regionId) :: _ ↔ _
  rw [List.mem_cons]
  exact or_iff_right_of_imp (hKept cloneId hClone)

/- With its first write, a clone shares the region no more. -/
theorem length_sharers_lt
    (history : CowHistory B)
    (newData : Bytes)
    (hClone : stateId ∈ history.cloneIds)
    (hFirst : (stateId, regionId) ∉ history.written) :
    ((history.step
        (.modifyPage stateId regionId newData)).sharers
        regionId).length <
      (history.sharers regionId).length := by
  have hSharers :
      (history.step
          (.modifyPage stateId regionId newData)).sharers
          regionId =
        (history.sharers regionId).filter fun cloneId =>
          decide (cloneId ≠ stateId) := by
    unfold sharers
    rw [List.filter_filter]
    apply List.filter_congr
    intro cloneId _
    rw [← Bool.decide_and]
    apply decide_eq_decide.mpr
    change
      (cloneId, regionId) ∉ (stateId, regionId) :: _ ↔ _
    rw [List.mem_cons, not_or]
    apply and_congr_left'
    simp
  rw [hSharers, List.length_filter_lt_length_iff_exists]
  refine ⟨stateId, ?_, by simp⟩
  exact List.mem_filter.mpr ⟨hClone, decide_eq_true hFirst⟩

/- What a write leaves to be counted. -/
theorem getPageRefCount_modifyPage
    (hSeparate : Separate original states regions)
    (hPlace : (stateId, regionId) ∈ states ×ˢ regions)
    (history : CowHistory B)
    (newData : Bytes)
    {region : MemoryRegion}
    (hRegion : region ∈ original.memoryManifest) :
    (history.step
        (.modifyPage stateId
          regionId newData)).cloner.getPageRefCount
        original.stateId region.regionId =
      if
          (original.stateId, region.regionId) =
            (stateId, regionId) then
        some 1
      else
        history.cloner.getPageRefCount original.stateId
          region.regionId := by
  obtain ⟨written, hCount, _, hPage⟩ :=
    page_modifyPage hSeparate hPlace history newData
  rw [getPageRefCount_eq,
    hPage original.stateId region.regionId
      ⟨hSeparate.parent, hSeparate.manifest region hRegion⟩]
  split
  · rw [Option.map_some, hCount]
  · rfl

/-
  A write is seen by its state, and by those that share the
  page it goes to.
-/
theorem visible_modifyPage
    (hSeparate : Separate original states regions)
    (hPlace : (stateId, regionId) ∈ states ×ˢ regions)
    (history : CowHistory B)
    (newData : Bytes)
    {other : StateId}
    {region : String}
    (hOther : (other, region) ∈ states ×ˢ regions)
    (hOwn :
      (other, region) ≠ (stateId, regionId) →
        (original.stateId, region) = (stateId, regionId) →
          (history.page other region).isSome = true) :
    (history.step
        (.modifyPage stateId regionId newData)).visible
        original.stateId other region =
      if (other, region) = (stateId, regionId) then newData
      else
        history.visible original.stateId other region := by
  obtain ⟨written, _, hData, hPage⟩ :=
    page_modifyPage hSeparate hPlace history newData
  unfold visible
  rw [hPage other region hOther,
    hPage original.stateId region
      ⟨hSeparate.parent, hOther.2⟩]
  by_cases hSame : (other, region) = (stateId, regionId)
  · rw [if_pos hSame, if_pos hSame, Option.map_some,
      Option.getD_some, hData]
  · rw [if_neg hSame, if_neg hSame]
    by_cases hParent :
        (original.stateId, region) = (stateId, regionId)
    · obtain ⟨own, hPageOwn⟩ :=
        Option.isSome_iff_exists.mp (hOwn hSame hParent)
      rw [hPageOwn]
      rfl
    · rw [if_neg hParent]

/-
  No state sees the writes of another one, as far as the
  parent writes no page that a clone shares.
-/
theorem isolated_modifyPage
    (hSeparate : Separate original states regions)
    (hTracks : Tracks original states regions history)
    (hCopies : CopiesOnWrite original history)
    (hWriter : stateId ∈ original.stateId :: history.cloneIds)
    (hRegionId : regionId ∈ regions)
    (hAlone :
      stateId = original.stateId →
        regionId ∈
            original.memoryManifest.map
              MemoryRegion.regionId →
          history.sharers regionId = [])
    {other : StateId}
    (hOther : other ∈ original.stateId :: history.cloneIds)
    {region : MemoryRegion}
    (hRegion : region ∈ original.memoryManifest) :
    (history.step
        (.modifyPage stateId regionId newData)).visible
        original.stateId other region.regionId =
      (history.step
        (.modifyPage stateId regionId newData)).memories other
        region.regionId := by
  have hState := hTracks.within stateId hWriter
  have hOtherState := hTracks.within other hOther
  have hMember := hSeparate.manifest region hRegion
  have hOwn :
      (other, region.regionId) ≠ (stateId, regionId) →
        (original.stateId, region.regionId) =
            (stateId, regionId) →
          (history.page other region.regionId).isSome =
            true := by
    intro hPlace hParent
    cases hParent
    have hNotParent : other ≠ original.stateId := by
      rintro rfl
      exact hPlace rfl
    have hClone :=
      (List.mem_cons.mp hOther).resolve_left hNotParent
    apply
      (hTracks.owned other hOtherState hNotParent _
        hMember).mpr
    by_contra hUnwritten
    have hShares :
        other ∈ history.sharers region.regionId :=
      List.mem_filter.mpr
        ⟨hClone, decide_eq_true hUnwritten⟩
    rw [hAlone rfl (List.mem_map_of_mem hRegion)] at hShares
    cases hShares
  rw [visible_modifyPage hSeparate ⟨hState, hRegionId⟩ history
    newData ⟨hOtherState, hMember⟩ hOwn]
  change _ = write history.memories stateId regionId _ _ _
  unfold write
  by_cases hSame :
      (other, region.regionId) = (stateId, regionId)
  · rw [if_pos hSame, if_pos (Prod.mk.inj hSame)]
  · rw [if_neg hSame,
      if_neg fun hBoth => hSame (Prod.ext hBoth.1 hBoth.2)]
    exact hCopies.isolated other hOther region hRegion

omit [Sha256] [SerdeJson State] [StorageBackendTrait B] in
/- Where there is a clone, every page is counted. -/
theorem Tracks.exists_count
    (hTracks : Tracks original states regions history)
    {cloneId : StateId}
    (hClone : cloneId ∈ history.cloneIds)
    {region : MemoryRegion}
    (hRegion : region ∈ original.memoryManifest) :
    ∃ count,
      history.cloner.getPageRefCount original.stateId
          region.regionId =
        some count := by
  obtain ⟨found, hFound⟩ :=
    Option.isSome_iff_exists.mp
      (hTracks.registered (List.ne_nil_of_mem hClone) region
        hRegion)
  rw [getPageRefCount_eq, hFound]
  exact ⟨found.refCount, rfl⟩

omit [Sha256] [SerdeJson State] [StorageBackendTrait B] in
/-
  The parent may write exactly the pages that it does not
  share.
-/
theorem keepsShares_parent_iff
    (hTracks : Tracks original states regions history)
    (hCopies : CopiesOnWrite original history)
    (hRegion :
      regionId ∈
        original.memoryManifest.map MemoryRegion.regionId) :
    (∀ count ∈
          history.cloner.getPageRefCount original.stateId
            regionId,
        count = 1) ↔
      history.sharers regionId = [] := by
  obtain ⟨region, hMember, rfl⟩ := List.mem_map.mp hRegion
  constructor
  · intro hUnique
    rw [List.eq_nil_iff_forall_not_mem]
    intro cloneId hShares
    obtain ⟨count, hCount⟩ :=
      hTracks.exists_count (List.mem_filter.mp hShares).1
        hMember
    have hOne := hUnique count hCount
    have hShared :=
      hCopies.counts region hMember count hCount
    have hLength := List.length_pos_of_mem hShares
    omega
  · intro hAlone count hCount
    have hShares := hCopies.counts region hMember count hCount
    rw [hAlone] at hShares
    exact hShares

/- Where all is as it should be after a write, it keeps. -/
theorem keepsShares_of_copiesOnWrite
    (hSeparate : Separate original states regions)
    (hTracks : Tracks original states regions history)
    (hCopies : CopiesOnWrite original history)
    (hWriter : stateId ∈ original.stateId :: history.cloneIds)
    (hRegionId : regionId ∈ regions)
    (hAfter :
      CopiesOnWrite original
        (history.step
          (.modifyPage stateId regionId newData))) :
    KeepsShares original history
      (.modifyPage stateId regionId newData) := by
  have hPlace : (stateId, regionId) ∈ states ×ˢ regions :=
    ⟨hTracks.within stateId hWriter, hRegionId⟩
  have hParentFresh : original.stateId ∉ history.cloneIds :=
    (List.nodup_cons.mp hTracks.nodup).1
  intro hMember
  obtain ⟨region, hRegion, rfl⟩ := List.mem_map.mp hMember
  have hCounts := hAfter.counts region hRegion
  rw [getPageRefCount_modifyPage hSeparate hPlace history
    newData hRegion] at hCounts
  split
  · next hParent =>
      -- The page is counted once, and so not shared.
      subst hParent
      rw [if_pos rfl] at hCounts
      have hOne := hCounts 1 rfl
      rw [sharers_modifyPage history newData] at hOne
      · exact
          (keepsShares_parent_iff hTracks hCopies
            hMember).mpr
            (List.length_eq_zero_iff.mp (by omega))
      · intro cloneId hClone hSame
        cases hSame
        exact absurd hClone hParentFresh
  · next hOther =>
      -- The first write of a clone is not counted.
      by_contra hFirst
      have hClone :=
        (List.mem_cons.mp hWriter).resolve_left hOther
      obtain ⟨count, hCount⟩ :=
        hTracks.exists_count hClone hRegion
      rw [if_neg fun hSame =>
        hOther (Prod.mk.inj hSame).1.symm] at hCounts
      have hNew := hCounts count hCount
      have hOld := hCopies.counts region hRegion count hCount
      have hLess :=
        length_sharers_lt history newData hClone hFirst
      omega

/- A write that keeps the shares keeps the copies. -/
theorem copiesOnWrite_of_keepsShares
    (hSeparate : Separate original states regions)
    (hTracks : Tracks original states regions history)
    (hCopies : CopiesOnWrite original history)
    (hWriter : stateId ∈ original.stateId :: history.cloneIds)
    (hRegionId : regionId ∈ regions)
    (hKeeps :
      KeepsShares original history
        (.modifyPage stateId regionId newData)) :
    CopiesOnWrite original
      (history.step
        (.modifyPage stateId regionId newData)) := by
  have hPlace : (stateId, regionId) ∈ states ×ˢ regions :=
    ⟨hTracks.within stateId hWriter, hRegionId⟩
  have hParentFresh : original.stateId ∉ history.cloneIds :=
    (List.nodup_cons.mp hTracks.nodup).1
  have hAlone :
      stateId = original.stateId →
        regionId ∈
            original.memoryManifest.map
              MemoryRegion.regionId →
          history.sharers regionId = [] := by
    rintro rfl hMember
    have hUnique := hKeeps hMember
    rw [if_pos rfl] at hUnique
    exact
      (keepsShares_parent_iff hTracks hCopies hMember).mp
        hUnique
  constructor
  · intro region hRegion
    have hMember :
        region.regionId ∈
          original.memoryManifest.map
            MemoryRegion.regionId :=
      List.mem_map_of_mem hRegion
    rw [getPageRefCount_modifyPage hSeparate hPlace history
      newData hRegion]
    rw [sharers_modifyPage history newData]
    · split
      · next hSame =>
          cases hSame
          rw [hAlone rfl hMember]
          intro count hCount
          cases hCount
          rfl
      · exact hCopies.counts region hRegion
    · intro cloneId hClone hSame
      cases hSame
      have hOther : stateId ≠ original.stateId := by
        rintro rfl
        exact hParentFresh hClone
      have hWritten := hKeeps hMember
      rw [if_neg hOther] at hWritten
      exact hWritten
  · intro other hOther region hRegion
    exact
      isolated_modifyPage hSeparate hTracks hCopies hWriter
        hRegionId hAlone hOther hRegion

/-
  A write keeps the counts exactly when the parent writes a
  page that it does not share, a clone a region that it has
  written before, or either a region of its own.
-/
theorem copiesOnWrite_modify_iff
    (hSeparate : Separate original states regions)
    (hTracks : Tracks original states regions history)
    (hCopies : CopiesOnWrite original history)
    (hWriter : stateId ∈ original.stateId :: history.cloneIds)
    (hRegionId : regionId ∈ regions) :
    CopiesOnWrite original
        (history.step
          (.modifyPage stateId regionId newData)) ↔
      KeepsShares original history
        (.modifyPage stateId regionId newData) := by
  exact
    ⟨keepsShares_of_copiesOnWrite hSeparate hTracks hCopies
        hWriter hRegionId,
      copiesOnWrite_of_keepsShares hSeparate hTracks hCopies
        hWriter hRegionId⟩

end Writes

/- A step keeps the property exactly under the condition. -/
theorem copiesOnWrite_step_iff
    (hSeparate : Separate original states regions)
    (history : CowHistory B)
    (op : CowOp)
    (hTracks : Tracks original states regions history)
    (hGiven : Given original states regions history op)
    (hCopies : CopiesOnWrite original history) :
    CopiesOnWrite original (history.step op) ↔
      KeepsShares original history op := by
  cases op with
  | cloneState call =>
      obtain ⟨hOriginal, hWithin, hFresh, result, hOk⟩ := hGiven
      exact
        copiesOnWrite_clone_iff hSeparate hTracks hCopies
          hOriginal hWithin hFresh hOk
  | modifyPage stateId regionId newData =>
      exact
        copiesOnWrite_modify_iff hSeparate hTracks hCopies
          hGiven.1 hGiven.2

omit [Sha256] [SerdeJson State] [StorageBackendTrait B] in
theorem copiesOnWrite_start
    (original : State)
    (config : CloneConfig)
    (stateStore : StateStore B) :
    CopiesOnWrite original (start config stateStore) where
  counts := nofun
  isolated := by
    intro stateId _ region _
    rfl

end Lookups

------------------------------------------------------------
-- Runs
------------------------------------------------------------

/-
  In every run of clones of one parent and writes by it or
  them, the counts say how many share and no state sees what
  another wrote, exactly as far as no clone registers a page
  first, no shared page is written by the parent, and no
  shared region by a clone.
-/
theorem copiesOnWrite_iff
    [Sha256] [SerdeJson State] [StorageBackendTrait B]
    {original : State}
    {states : Set StateId}
    {regions : Set String}
    (hSeparate : Separate original states regions)
    {config : CloneConfig}
    (hShared : config.eagerCopy = false)
    (stateStore : StateStore B)
    (ops : List CowOp)
    (hGiven :
      Runs.AlongRun step (Given original states regions)
        (start config stateStore) ops) :
    Runs.Throughout step (CopiesOnWrite original)
        (start config stateStore) ops ↔
      Runs.AlongRun step (KeepsShares original)
        (start config stateStore) ops :=
  Runs.throughout_iff_alongRun_of_given
    (tracks_step hSeparate)
    (copiesOnWrite_step_iff hSeparate)
    (tracks_start hSeparate hShared stateStore)
    (copiesOnWrite_start original config stateStore) hGiven

instance
    (original : State)
    (history : CowHistory B) :
    DecidablePred (KeepsShares original history)
| .cloneState _ => inferInstanceAs (Decidable (∀ _, _))
| .modifyPage _ _ _ => inferInstanceAs (Decidable (_ → _))

open PageSample

/- The places of the sample run have different keys. -/
theorem separate_sample :
    Separate original {original.stateId, call.cloneId}
      {"region-1", "heap"} where
  unique := by decide
  parent := Or.inl rfl
  manifest := by
    intro region hRegion
    rw [List.mem_singleton.mp hRegion]
    exact Or.inl rfl
  keys := by
    rintro ⟨state, region⟩ ⟨hState, hRegion⟩
      ⟨other, area⟩ ⟨hOther, hArea⟩ hKey
    rcases hState with rfl | rfl <;>
      rcases hRegion with rfl | rfl <;>
      rcases hOther with rfl | rfl <;>
      rcases hArea with rfl | rfl <;>
      first
        | rfl
        | exact absurd hKey (by decide)

def sampleStart : CowHistory MemoryBackend :=
  start .default (StateStore.new ⟨2⟩ MemoryBackend.new)

def sampleRun : List CowOp :=
  [.modifyPage original.stateId "region-1" [1],
    .cloneState call, .modifyPage call.cloneId "heap" [2]]

/- A page that exists is shared, and not written again. -/
theorem copiesOnWrite_sample :
    Runs.Throughout step (CopiesOnWrite original) sampleStart
      sampleRun := by
  have hOk :
      (StateCloner.cloneState call
          (step sampleStart
            (.modifyPage original.stateId "region-1"
              [1])).cloner).1 =
        .ok (call.result .default) := by
    decide +kernel
  have hClone :
      call.cloneId ∈
        (step
          (step sampleStart
            (.modifyPage original.stateId "region-1" [1]))
          (.cloneState call)).cloneIds := by
    decide +kernel
  have hGiven :
      Runs.AlongRun step
        (Given original {original.stateId, call.cloneId}
          {"region-1", "heap"})
        sampleStart sampleRun :=
    ⟨⟨List.mem_cons_self, Or.inl rfl⟩,
      ⟨rfl, Or.inr rfl, by decide, _, hOk⟩,
      ⟨List.mem_cons_of_mem _ hClone, Or.inr rfl⟩, trivial⟩
  apply (copiesOnWrite_iff separate_sample rfl _ _ hGiven).mpr
  decide +kernel

/- The first clone of a page is not counted. -/
theorem copiesOnWrite_firstClone :
    ¬ Runs.Throughout step (CopiesOnWrite original) sampleStart
      [.cloneState call] := by
  intro hRun
  have hCount :=
    hRun.last.counts region List.mem_cons_self 1
      (by decide +kernel)
  revert hCount
  decide +kernel

end CowHistory

end IsaWorkspace
