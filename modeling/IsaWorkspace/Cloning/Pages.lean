import IsaWorkspace.Cloning.Limit

/-
  What cloning does to the pages.

  Registering the pages of a parent counts each of them once
  more.  Modifying a page leaves one page that is counted
  once.

  Main declarations:
    * `StateCloner.lookup_registerPages`
    * `StateCloner.weight_registerPages`
    * `StateCloner.lookup_modifyPage`
    * `StateCloner.registeredPages`
    * `StateCloner.cloneState_of_failed`
    * `StateCloner.cloneState_of_stored`
-/

------------------------------------------------------------
-- Registering Pages
------------------------------------------------------------

namespace IsaWorkspace

namespace StateCloner

variable {B : Type}

/- A page counted once more, or a new one. -/
def registered
    (regionId : String) :
    Option RefCountedPage → RefCountedPage
| some page => page.incrementRef
| none => RefCountedPage.new [] regionId

theorem registerPage_eq
    (stateId : StateId)
    (pages : HashMap String RefCountedPage)
    (region : MemoryRegion) :
    registerPage stateId pages region =
      pages.insert (pageKey stateId region.regionId)
        (registered region.regionId
          (pages.lookup
            (pageKey stateId region.regionId))) := by
  unfold registerPage
  dsimp only
  cases pages.lookup (pageKey stateId region.regionId) with
  | none => rfl
  | some page => rfl

/- The keys of one state's pages tell its regions apart. -/
theorem pageKey_injective
    (stateId : StateId) :
    Function.Injective (pageKey stateId) := by
  intro first second hKey
  exact (String.append_right_inj _).mp hKey

/- Registering changes no other pages. -/
theorem lookup_registerPages_of_ne
    (stateId : StateId)
    {key : String}
    (regions : List MemoryRegion)
    (hOther :
      ∀ region ∈ regions,
        key ≠ pageKey stateId region.regionId)
    (pages : HashMap String RefCountedPage) :
    (regions.foldl (registerPage stateId) pages).lookup key =
      pages.lookup key := by
  induction regions generalizing pages with
  | nil => rfl
  | cons region rest ih =>
      obtain ⟨hFirst, hRest⟩ := List.forall_mem_cons.mp hOther
      rw [List.foldl_cons, ih hRest, registerPage_eq,
        HashMap.lookup_insert_eq_ite, if_neg hFirst]

/- Each region's page is registered once. -/
theorem lookup_registerPages
    (stateId : StateId)
    {regions : List MemoryRegion}
    (hUnique :
      (regions.map MemoryRegion.regionId).Nodup)
    {region : MemoryRegion}
    (hRegion : region ∈ regions)
    (pages : HashMap String RefCountedPage) :
    (regions.foldl (registerPage stateId) pages).lookup
        (pageKey stateId region.regionId) =
      some
        (registered region.regionId
          (pages.lookup
            (pageKey stateId region.regionId))) := by
  induction regions generalizing pages with
  | nil => cases hRegion
  | cons first rest ih =>
      obtain ⟨hFirst, hRest⟩ := List.nodup_cons.mp hUnique
      rw [List.foldl_cons]
      rcases List.mem_cons.mp hRegion with rfl | hMember
      · have hOther :
            ∀ other ∈ rest,
              pageKey stateId region.regionId ≠
                pageKey stateId other.regionId := by
          intro other hOther hKey
          apply hFirst
          rw [pageKey_injective stateId hKey]
          exact List.mem_map_of_mem hOther
        rw [lookup_registerPages_of_ne stateId rest hOther,
          registerPage_eq, HashMap.lookup_insert_eq_ite,
          if_pos rfl]
      · have hKey :
            pageKey stateId region.regionId ≠
              pageKey stateId first.regionId := by
          intro hSame
          apply hFirst
          rw [← pageKey_injective stateId hSame]
          exact List.mem_map_of_mem hMember
        rw [ih hRest hMember, registerPage_eq,
          HashMap.lookup_insert_eq_ite, if_neg hKey]

/- Registering a region adds one reference. -/
theorem weight_registerPage
    (stateId : StateId)
    (pages : HashMap String RefCountedPage)
    (region : MemoryRegion) :
    (registerPage stateId pages region).weight
        RefCountedPage.refCount =
      pages.weight RefCountedPage.refCount + 1 := by
  rw [registerPage_eq]
  cases hPage :
      pages.lookup (pageKey stateId region.regionId) with
  | none =>
      rw [HashMap.weight_insert_of_lookup_none _ _ hPage]
      rfl
  | some page =>
      have hBefore := HashMap.insert_lookup hPage
      rw [HashMap.weight_insert]
      conv_rhs => rw [← hBefore, HashMap.weight_insert]
      rfl

theorem weight_registerPages
    (stateId : StateId)
    (regions : List MemoryRegion)
    (pages : HashMap String RefCountedPage) :
    (regions.foldl (registerPage stateId) pages).weight
        RefCountedPage.refCount =
      pages.weight RefCountedPage.refCount +
        regions.length := by
  induction regions generalizing pages with
  | nil => rfl
  | cons region rest ih =>
      rw [List.foldl_cons, ih, weight_registerPage,
        List.length_cons]
      omega

------------------------------------------------------------
-- Modifying Pages
------------------------------------------------------------

/- A page is counted once after it is made unique. -/
theorem refCount_makeUnique
    (page : RefCountedPage) :
    page.makeUnique.refCount = 1 := by
  unfold RefCountedPage.makeUnique RefCountedPage.isUnique
  split
  · next hUnique => exact of_decide_eq_true hUnique
  · rfl

/-
  A modified page has the new data and one reference, and
  no other page changes.
-/
theorem lookup_modifyPage
    (stateId : StateId)
    (regionId : String)
    (newData : Bytes)
    (cloner : StateCloner B) :
    ∃ page : RefCountedPage,
      page.refCount = 1 ∧ page.data = newData ∧
        ∀ key,
          (modifyPage stateId regionId newData
              cloner).2.pages.lookup key =
            if key = pageKey stateId regionId then some page
            else cloner.pages.lookup key := by
  unfold modifyPage
  rw [Exec.update_apply]
  dsimp only
  cases cloner.pages.lookup (pageKey stateId regionId) with
  | none =>
      exact
        ⟨RefCountedPage.new newData regionId, rfl, rfl,
          fun key => HashMap.lookup_insert_eq_ite _ _ key _⟩
  | some page =>
      exact
        ⟨{ page.makeUnique with data := newData },
          refCount_makeUnique page, rfl,
          fun key => HashMap.lookup_insert_eq_ite _ _ key _⟩

/- Modifying a page changes nothing but the pages. -/
theorem modifyPage_config
    (stateId : StateId)
    (regionId : String)
    (newData : Bytes)
    (cloner : StateCloner B) :
    (modifyPage stateId regionId newData cloner).2.config =
      cloner.config := by
  unfold modifyPage
  rw [Exec.update_apply]
  dsimp only
  split <;> rfl

------------------------------------------------------------
-- Cloning
------------------------------------------------------------

section Cloning

/- The pages after those of a parent are registered. -/
def registeredPages
    (call : CloneCall)
    (cloner : StateCloner B) :
    HashMap String RefCountedPage :=
  if cloner.config.eagerCopy then
    cloner.pages
  else
    call.original.memoryManifest.foldl
      (registerPage call.original.stateId) cloner.pages

theorem registerPages_apply
    (call : CloneCall)
    (cloner : StateCloner B) :
    registerPages call cloner =
      (.ok (),
        { cloner with
          pages := cloner.registeredPages call }) := by
  unfold registerPages registeredPages
  rw [Exec.update_apply]
  by_cases hEager : cloner.config.eagerCopy = true
  · rw [if_pos hEager, if_pos hEager]
  · rw [if_neg hEager, if_neg hEager]

variable [Sha256] [SerdeJson State] [StorageBackendTrait B]

/- Storing the clone, on the store before the call. -/
def storing
    (call : CloneCall)
    (cloner : StateCloner B) :
    Outcome StateStoreError StoredState × StateStore B :=
  StateStore.storeState call.storedAt call.enteredAt
    (call.clonedState cloner.config) cloner.stateStore

/- The call on the store, made on the cloner's store. -/
theorem onPart_storing
    {call : CloneCall}
    {cloner : StateCloner B}
    {outcome : Outcome StateStoreError StoredState}
    {stateStore : StateStore B}
    (hStoring : cloner.storing call = (outcome, stateStore)) :
    Exec.onPart StateCloner.stateStore
        (fun cloner stateStore =>
          { cloner with stateStore := stateStore })
        (StateStore.storeState call.storedAt call.enteredAt
          (call.clonedState cloner.config))
        cloner =
      (outcome, { cloner with stateStore := stateStore }) := by
  unfold storing at hStoring
  rw [Exec.onPart_apply, hStoring]

/- A call at the limit changes nothing. -/
theorem cloneState_of_limit
    {call : CloneCall}
    {cloner : StateCloner B}
    (hReached :
      cloner.limitReached call.original.stateId = true) :
    cloneState call cloner =
      (.err (.maxClonesReached cloner.config.maxClones),
        cloner) := by
  unfold cloneState
  apply Exec.bind_of_err
  rw [checkLimit_apply, if_pos hReached]

/- A call below the limit goes on to store the clone. -/
theorem cloneState_of_below
    {call : CloneCall}
    {cloner : StateCloner B}
    (hBelow :
      cloner.limitReached call.original.stateId = false) :
    cloneState call cloner =
      (storeClone call >>= fun _ => trackClone call)
        { cloner with
          pages := cloner.registeredPages call } := by
  have hCheck : checkLimit call cloner = (.ok (), cloner) := by
    rw [checkLimit_apply, hBelow]
    rfl
  unfold cloneState
  rw [Exec.bind_of_ok hCheck,
    Exec.bind_of_ok (registerPages_apply call cloner)]

/-
  When the store reports an error, the pages have already
  been registered.
-/
theorem cloneState_of_failed
    {call : CloneCall}
    {cloner : StateCloner B}
    {error : StateStoreError}
    {stateStore : StateStore B}
    (hBelow :
      cloner.limitReached call.original.stateId = false)
    (hStoring :
      cloner.storing call = (.err error, stateStore)) :
    cloneState call cloner =
      (.err (.storeError error.display),
        { cloner with
          pages := cloner.registeredPages call
          stateStore := stateStore }) := by
  rw [cloneState_of_below hBelow]
  apply Exec.bind_of_err
  unfold storeClone
  rw [Exec.read_bind_apply]
  exact Exec.mapErr_of_err (onPart_storing hStoring)

theorem cloneState_of_panicked
    {call : CloneCall}
    {cloner : StateCloner B}
    {stateStore : StateStore B}
    (hBelow :
      cloner.limitReached call.original.stateId = false)
    (hStoring :
      cloner.storing call = (.panicked, stateStore)) :
    cloneState call cloner =
      (.panicked,
        { cloner with
          pages := cloner.registeredPages call
          stateStore := stateStore }) := by
  rw [cloneState_of_below hBelow]
  apply Exec.bind_of_panicked
  unfold storeClone
  rw [Exec.read_bind_apply]
  exact Exec.mapErr_of_panicked (onPart_storing hStoring)

/- A stored clone is tracked. -/
theorem cloneState_of_stored
    {call : CloneCall}
    {cloner : StateCloner B}
    {stored : StoredState}
    {stateStore : StateStore B}
    (hBelow :
      cloner.limitReached call.original.stateId = false)
    (hStoring :
      cloner.storing call = (.ok stored, stateStore)) :
    cloneState call cloner =
      (.ok (call.result cloner.config),
        { cloner with
          pages := cloner.registeredPages call
          clones :=
            cloner.clones.insert call.original.stateId
              (cloner.getClones call.original.stateId ++
                [call.cloneId])
          stateStore := stateStore }) := by
  have hStored :
      storeClone call
          { cloner with
            pages := cloner.registeredPages call } =
        (.ok stored,
          { cloner with
            pages := cloner.registeredPages call
            stateStore := stateStore }) := by
    unfold storeClone
    rw [Exec.read_bind_apply]
    exact Exec.mapErr_of_ok (onPart_storing hStoring)
  rw [cloneState_of_below hBelow, Exec.bind_of_ok hStored]
  rfl

/- A call that returned registered its parent's pages. -/
theorem of_cloneState_ok
    {call : CloneCall}
    {cloner cloner' : StateCloner B}
    {result : CloneResult}
    (hCloned :
      cloneState call cloner = (.ok result, cloner')) :
    cloner'.config = cloner.config ∧
      cloner'.pages = cloner.registeredPages call := by
  cases hLimit :
      cloner.limitReached call.original.stateId with
  | true =>
      rw [cloneState_of_limit hLimit] at hCloned
      cases hCloned
  | false =>
      rcases hStoring : cloner.storing call with
        ⟨outcome, stateStore⟩
      cases outcome with
      | ok stored =>
          rw [cloneState_of_stored hLimit hStoring]
            at hCloned
          cases hCloned
          exact ⟨rfl, rfl⟩
      | err error =>
          rw [cloneState_of_failed hLimit hStoring]
            at hCloned
          cases hCloned
      | panicked =>
          rw [cloneState_of_panicked hLimit hStoring]
            at hCloned
          cases hCloned

end Cloning

end StateCloner

------------------------------------------------------------
-- A Sample State With a Page
------------------------------------------------------------

/-
  A state with one region and its clone, with the JSON text
  of the clone and its digest; nothing else is hashed.
-/
namespace PageSample

def region : MemoryRegion where
  regionId := "region-1"
  baseAddr := 4096
  size := 4096
  flags := ⟨true, true, false⟩
  temperature := .hot

def original : State :=
  { Sample.state "original" "original" (some 60) with
    memoryManifest := [region] }

def call : CloneCall :=
  { CloneSample.left with original := original }

def stateText
    (state : State) : Bytes :=
  asBytes ("\x7b\"state_id\":\"" ++ state.stateId.id ++
    "\",\"vm_config\":\x7b\"vcpus\":2," ++
    "\"memory_mb\":512," ++
    "\"kernel_image\":\"/tmp/vmlinux.bin\"," ++
    "\"rootfs_image\":\"/tmp/rootfs.ext4\"\x7d," ++
    "\"cpu_state\":\x7b\"arch\":\"x86_64\"," ++
    "\"registers\":\x7b\x7d\x7d," ++
    "\"memory_manifest\":[\x7b\"region_id\":\"region-1\"," ++
    "\"base_addr\":4096,\"size\":4096," ++
    "\"flags\":\x7b\"read\":true,\"write\":true," ++
    "\"execute\":false\x7d," ++
    "\"temperature\":\"HOT\"\x7d],\"fd_table\":[]," ++
    "\"socket_table\":[],\"device_state\":[]," ++
    "\"deterministic_log\":\x7b\"events\":[]\x7d," ++
    "\"ui_state\":\x7b\"stream_id\":\"" ++
    "00000000-0000-0000-0000-000000000000\"\x7d," ++
    "\"metadata\":\x7b\"label\":\"" ++ state.metadata.label ++
    "\",\"created_at\":\"1970-01-01T00:00:00Z\"," ++
    "\"ttl_seconds\":60\x7d\x7d")

scoped instance : SerdeJson State where
  toVec state := .ok (stateText state)
  fromSlice data :=
    if data = stateText (call.clonedState .default) then
      .ok (call.clonedState .default)
    else
      .error "expected value at line 1 column 1"

scoped instance : Sha256 where
  digest _ :=
    digestOf 0xa642c8e57c53bae3c440d924e394ebc3824d0bcb740a615ce0eabb26aaf6b827

end PageSample

end IsaWorkspace
