import IsaWorkspace.Foundations.KeyedList
import IsaWorkspace.Memory.Page
import IsaWorkspace.StateStore.Equations

/-
  What a page fault is answered with.

  A handler looks for the faulting page first in a cache of
  pages and then in the state store, where a page is found
  under the hash of its region and its offset.  The cache has
  no addresses: any page of the right size is taken from it.
  The store is waited for through the runtime of the thread,
  and the thread that handles faults has none.

  Main declarations:
    * `RuntimeContext`
    * `PageFaultHandler.fetchPageFromStore`
    * `PageFaultHandler.answerFault`, `handleFault`
    * `PageFaultHandler.Answered`
    * `PageFaultHandler.Unshadowed`
    * `PageFaultHandler.answered_iff`
-/

------------------------------------------------------------
-- Threads and Their Runtime
------------------------------------------------------------

namespace IsaWorkspace

/-
  What a thread has to do with an asynchronous runtime: it
  has none, it has entered one and may wait for its tasks,
  or it is itself running such a task.
-/
inductive RuntimeContext where
  | none
  | entered
  | task
deriving DecidableEq

namespace RuntimeContext

variable {σ ε : Type}

/- `Handle::current`, which panics without a runtime. -/
def current (context : RuntimeContext) : Exec σ ε Unit :=
  Exec.orPanic (if context = none then .none else some ())

/- `blocking_read`, which panics where a task is running. -/
def blockingRead (context : RuntimeContext) :
    Exec σ ε Unit :=
  Exec.orPanic (if context = task then .none else some ())

/- A thread that is spawned by itself has no runtime. -/
def spawnedThread : RuntimeContext :=
  none

theorem spawnedThread_ne_entered :
    spawnedThread ≠ entered :=
  nofun

end RuntimeContext

end IsaWorkspace

------------------------------------------------------------
-- Looking for a Page
------------------------------------------------------------

namespace IsaWorkspace

/- Pages of a cache, in the order in which it is visited. -/
abbrev CacheOrder
    (pageCache : HashMap String MemoryPage) : Type :=
  HashMap.Iteration pageCache

namespace PageFaultHandler

/- The first cached page with as many bytes as a page has. -/
def cachedPage
    {pageCache : HashMap String MemoryPage}
    (order : CacheOrder pageCache)
    (pageSize : UInt64) : Option Bytes :=
  (order.entries.find? fun entry =>
      decide (entry.2.data.length = pageSize.toNat)).map
    (·.2.data)

/- The address of the page that an address lies on. -/
def pageStart
    (addr pageSize : UInt64) : UInt64 :=
  addr &&& ~~~ (pageSize - 1)

/- The key of the page at an address of a region. -/
def pageKey
    [Sha256]
    (region : MemoryRegion)
    (address : UInt64) : String :=
  sha256Hex
    (asBytes region.regionId ++
      toBeBytes (address - region.baseAddr))

variable [BuildProfile]

/- Whether an address lies in a region; `none` is a panic. -/
def inRegion
    (region : MemoryRegion)
    (address : UInt64) : Option Bool :=
  if region.baseAddr ≤ address then
    (checkedAdd region.baseAddr region.size).map
      fun finish => decide (address < finish)
  else
    some false

variable {B : Type}

/- Look for a page for each region with the address. -/
def searchRegions
    (address : UInt64)
    (look :
      MemoryRegion →
        Exec (StateStore B) StateStoreError
          (Option Bytes)) :
    List MemoryRegion →
      Exec (StateStore B) StateStoreError (Option Bytes)
| [] => pure none
| region :: rest => do
    let inside ← Exec.orPanic (inRegion region address)
    if inside then
      let found ← look region
      match found with
      | some data => pure (some data)
      | none => searchRegions address look rest
    else
      searchRegions address look rest

/- Look in the cache, which is the same for each region. -/
def searchCache
    {pageCache : HashMap String MemoryPage}
    (order : CacheOrder pageCache)
    (pageSize address : UInt64) :
    List MemoryRegion →
      Exec (StateStore B) StateStoreError (Option Bytes) :=
  searchRegions address fun _ =>
    pure (cachedPage order pageSize)

variable [Sha256] [StorageBackendTrait B]

/- Look in the store; an error is no page. -/
def searchStore
    (address : UInt64) :
    List MemoryRegion →
      Exec (StateStore B) StateStoreError (Option Bytes) :=
  searchRegions address fun region =>
    Exec.okOrNone
      (StateStore.getPage (pageKey region address))

/-
  Fetch page data from the cache or the state store.  The
  handle of the runtime comes before both.
-/
def fetchPageFromStore
    (context : RuntimeContext)
    {pageCache : HashMap String MemoryPage}
    (order : CacheOrder pageCache)
    (addr pageSize : UInt64)
    (memoryManifest : Option (List MemoryRegion)) :
    Exec (StateStore B) StateStoreError (Option Bytes) := do
  let mask ← Exec.orPanic (checkedSub pageSize 1)
  let address := addr &&& ~~~ mask
  context.current
  context.blockingRead
  match memoryManifest with
  | some manifest => do
      let cached ←
        searchCache order pageSize address manifest
      match cached with
      | some data => pure (some data)
      | none => searchStore address manifest
  | none => pure (cachedPage order pageSize)

end PageFaultHandler

/- How a fault is resolved. -/
inductive FaultAnswer where
  | copyPage (start : UInt64) (data : Bytes)
  | zerofillPage (start : UInt64)
deriving DecidableEq

/- Copy the data there is, and fill with zeros otherwise. -/
def FaultAnswer.ofData
    (start : UInt64) : Option Bytes → FaultAnswer
| some data => copyPage start data
| none => zerofillPage start

namespace PageFaultHandler

variable {B : Type} [BuildProfile] [Sha256]
variable [StorageBackendTrait B]

/- Resolve a fault with the page that is fetched. -/
def answerFault
    (context : RuntimeContext)
    {pageCache : HashMap String MemoryPage}
    (order : CacheOrder pageCache)
    (addr pageSize : UInt64)
    (memoryManifest : Option (List MemoryRegion)) :
    Exec (StateStore B) StateStoreError FaultAnswer := do
  let data ←
    fetchPageFromStore context order addr pageSize
      memoryManifest
  pure (FaultAnswer.ofData (pageStart addr pageSize) data)

/- What the thread does that `start` spawns. -/
def handleFault
    {pageCache : HashMap String MemoryPage}
    (order : CacheOrder pageCache)
    (addr pageSize : UInt64)
    (memoryManifest : Option (List MemoryRegion)) :
    Exec (StateStore B) StateStoreError FaultAnswer :=
  answerFault RuntimeContext.spawnedThread order addr
    pageSize memoryManifest

end PageFaultHandler

/- The handler that has a cache only, on its own thread. -/
def UserfaultfdHandler.answerFault
    {pageCache : HashMap String MemoryPage}
    (order : CacheOrder pageCache)
    (addr pageSize : UInt64) : FaultAnswer :=
  FaultAnswer.ofData
    (PageFaultHandler.pageStart addr pageSize)
    (PageFaultHandler.cachedPage order pageSize)

------------------------------------------------------------
-- Addresses in Regions
------------------------------------------------------------

/- An address lies in a region. -/
def MemoryRegion.Contains
    (region : MemoryRegion)
    (address : UInt64) : Prop :=
  region.baseAddr.toNat ≤ address.toNat ∧
    address.toNat <
      region.baseAddr.toNat + region.size.toNat

instance
    (region : MemoryRegion)
    (address : UInt64) :
    Decidable (region.Contains address) :=
  inferInstanceAs (Decidable (_ ∧ _))

/- The end of a region is an address of its own. -/
def MemoryRegion.Bounded
    (region : MemoryRegion) : Prop :=
  region.baseAddr.toNat + region.size.toNat < 2 ^ 64

instance
    (region : MemoryRegion) :
    Decidable region.Bounded :=
  Nat.decLt _ _

/- No address lies in two regions of a list. -/
def DisjointRegions
    (regions : List MemoryRegion) : Prop :=
  regions.Pairwise fun one other =>
    ∀ address,
      one.Contains address → ¬ other.Contains address

namespace PageFaultHandler

section Regions

variable [BuildProfile]

theorem inRegion_of_not_contains
    {region : MemoryRegion}
    {address : UInt64}
    (hOutside : ¬ region.Contains address) :
    inRegion region address = some false := by
  unfold inRegion
  by_cases hBase : region.baseAddr ≤ address
  · have hBelow : region.baseAddr.toNat ≤ address.toNat :=
      UInt64.le_iff_toNat_le.mp hBase
    have hBeyond :
        region.baseAddr.toNat + region.size.toNat ≤
          address.toNat := by
      by_contra hInside
      exact hOutside ⟨hBelow, Nat.lt_of_not_le hInside⟩
    have hRange := address.toNat_lt
    rcases checkedAdd_of_lt
        (Nat.lt_of_le_of_lt hBeyond hRange) with
      ⟨finish, hFinish, hValue⟩
    have hPast : ¬ address < finish := by
      intro hLess
      have hLessNat := UInt64.lt_iff_toNat_lt.mp hLess
      omega
    rw [if_pos hBase, hFinish, Option.map_some,
      decide_eq_false hPast]
  · rw [if_neg hBase]

theorem inRegion_of_contains
    {region : MemoryRegion}
    {address : UInt64}
    (hInside : region.Contains address)
    (hBounded : region.Bounded) :
    inRegion region address = some true := by
  have hBase : region.baseAddr ≤ address :=
    UInt64.le_iff_toNat_le.mpr hInside.1
  rcases checkedAdd_of_lt hBounded with
    ⟨finish, hFinish, hValue⟩
  have hBefore : address < finish := by
    apply UInt64.lt_iff_toNat_lt.mpr
    rw [hValue]
    exact hInside.2
  unfold inRegion
  rw [if_pos hBase, hFinish, Option.map_some,
    decide_eq_true hBefore]

/- The end of such a region overflows. -/
theorem inRegion_of_overflow
    {region : MemoryRegion}
    {address : UInt64}
    (hInside : region.Contains address)
    (hOverflow : ¬ region.Bounded) :
    inRegion region address =
      if BuildProfile.overflowChecks = true then none
      else some false := by
  have hBase : region.baseAddr ≤ address :=
    UInt64.le_iff_toNat_le.mpr hInside.1
  unfold MemoryRegion.Bounded at hOverflow
  unfold inRegion checkedAdd
  rw [if_pos hBase, if_neg hOverflow]
  by_cases hChecks : BuildProfile.overflowChecks = true
  · rw [if_pos hChecks, if_pos hChecks]
    rfl
  · have hPast :
        ¬ address < region.baseAddr + region.size := by
      intro hLess
      have hLessNat := UInt64.lt_iff_toNat_lt.mp hLess
      rw [UInt64.toNat_add] at hLessNat
      have hSize := region.size.toNat_lt
      have hLow := hInside.1
      omega
    rw [if_neg hChecks, if_neg hChecks, Option.map_some,
      decide_eq_false hPast]

end Regions

------------------------------------------------------------
-- What the Searches Find
------------------------------------------------------------

section Searches

variable {B : Type} [BuildProfile]
variable
  {look :
    MemoryRegion →
      Exec (StateStore B) StateStoreError (Option Bytes)}
variable {address : UInt64}
variable {before after : List MemoryRegion}

/- Regions without the address are passed over. -/
theorem searchRegions_append
    (hBefore :
      ∀ region ∈ before, ¬ region.Contains address) :
    searchRegions address look (before ++ after) =
      searchRegions address look after := by
  induction before with
  | nil => rfl
  | cons region rest ih =>
      rw [List.cons_append, searchRegions,
        inRegion_of_not_contains
          (hBefore region List.mem_cons_self)]
      exact
        ih fun other hOther =>
          hBefore other (List.mem_cons_of_mem _ hOther)

theorem searchRegions_of_outside
    (hOutside :
      ∀ region ∈ before, ¬ region.Contains address) :
    searchRegions address look before = pure none := by
  rw [← List.append_nil before,
    searchRegions_append hOutside]
  rfl

variable {region : MemoryRegion}

/- What is found is found for the region of the address. -/
theorem searchRegions_of_bounded
    (hInside : region.Contains address)
    (hBounded : region.Bounded)
    (hBefore :
      ∀ other ∈ before, ¬ other.Contains address)
    (hAfter :
      ∀ other ∈ after, ¬ other.Contains address) :
    searchRegions address look
        (before ++ region :: after) =
      look region := by
  rw [searchRegions_append hBefore, searchRegions,
    inRegion_of_contains hInside hBounded,
    searchRegions_of_outside hAfter]
  funext store
  rw [Exec.orPanic_some, Exec.pure_bind_apply, if_pos rfl]
  rcases hFound : look region store with ⟨outcome, store'⟩
  cases outcome with
  | ok found =>
      rw [Exec.bind_of_ok hFound]
      cases found with
      | none => rfl
      | some data => rfl
  | err error => exact Exec.bind_of_err hFound
  | panicked => exact Exec.bind_of_panicked hFound

/- A region whose end overflows panics, or is passed over. -/
theorem searchRegions_of_overflow
    (hInside : region.Contains address)
    (hOverflow : ¬ region.Bounded)
    (hBefore :
      ∀ other ∈ before, ¬ other.Contains address)
    (hAfter :
      ∀ other ∈ after, ¬ other.Contains address) :
    searchRegions address look
        (before ++ region :: after) =
      if BuildProfile.overflowChecks = true then
        Exec.panic
      else
        pure none := by
  rw [searchRegions_append hBefore, searchRegions,
    inRegion_of_overflow hInside hOverflow,
    searchRegions_of_outside hAfter]
  by_cases hChecks : BuildProfile.overflowChecks = true
  · rw [if_pos hChecks, if_pos hChecks]
    rfl
  · rw [if_neg hChecks, if_neg hChecks]
    rfl

omit [BuildProfile] in
/- The region with the address, and those without it. -/
theorem split_of_contains
    {regions : List MemoryRegion}
    (hDisjoint : DisjointRegions regions)
    {region : MemoryRegion}
    (hRegion : region ∈ regions)
    {address : UInt64}
    (hInside : region.Contains address) :
    ∃ before after,
      regions = before ++ region :: after ∧
        (∀ other ∈ before, ¬ other.Contains address) ∧
        ∀ other ∈ after, ¬ other.Contains address := by
  rcases List.append_of_mem hRegion with
    ⟨before, after, rfl⟩
  rcases List.pairwise_append.mp hDisjoint with
    ⟨_, hAfter, hAcross⟩
  refine ⟨before, after, rfl, ?_, ?_⟩
  · intro other hOther hContains
    exact
      hAcross other hOther region List.mem_cons_self address
        hContains hInside
  · intro other hOther
    exact
      (List.pairwise_cons.mp hAfter).1 other hOther address
        hInside

end Searches

------------------------------------------------------------
-- Answers
------------------------------------------------------------

section Answers

variable {B : Type} [BuildProfile] [Sha256]
variable [StorageBackendTrait B]
variable {pageCache : HashMap String MemoryPage}

/- The data that a computation returned. -/
def returned
    {ε α : Type} :
    Outcome ε α → Option α
| .ok value => some value
| _ => none

/- What the store holds for an address of a region. -/
def recorded
    (store : StateStore B)
    (region : MemoryRegion)
    (address : UInt64) : Option Bytes :=
  returned
    (StateStore.getPage (pageKey region address) store).1

/-
  A fault in a region is answered with what is recorded for
  its page, a fault anywhere else with nothing, and no page
  is mapped but a recorded one.
-/
structure Answered
    (context : RuntimeContext)
    (order : CacheOrder pageCache)
    (addr pageSize : UInt64)
    (memoryManifest : Option (List MemoryRegion))
    (store : StateStore B) : Prop where
  inside :
    ∀ region ∈ memoryManifest.getD [],
      region.Contains (pageStart addr pageSize) →
        (fetchPageFromStore context order addr pageSize
            memoryManifest store).1 =
          .ok
            (recorded store region (pageStart addr pageSize))
  outside :
    (∀ region ∈ memoryManifest.getD [],
        ¬ region.Contains (pageStart addr pageSize)) →
      (fetchPageFromStore context order addr pageSize
          memoryManifest store).1 =
        .ok none
  mapped :
    ∀ start data,
      (answerFault context order addr pageSize
          memoryManifest store).1 =
          .ok (.copyPage start data) →
        start = pageStart addr pageSize ∧
          ∃ region ∈ memoryManifest.getD [],
            region.Contains start ∧
              recorded store region start = some data

/-
  No other page of the right size is cached for the address,
  and where its region's end overflows nothing is recorded.
-/
def Unshadowed
    (order : CacheOrder pageCache)
    (addr pageSize : UInt64)
    (memoryManifest : Option (List MemoryRegion))
    (store : StateStore B) : Prop :=
  (memoryManifest = none →
      cachedPage order pageSize = none) ∧
    ∀ region ∈ memoryManifest.getD [],
      region.Contains (pageStart addr pageSize) →
        if region.Bounded then
          (∀ data, cachedPage order pageSize = some data →
            recorded store region
                (pageStart addr pageSize) =
              some data) ∧
          (cachedPage order pageSize = none →
            (StateStore.getPage
                (pageKey region (pageStart addr pageSize))
                store).1 ≠
              .panicked)
        else
          BuildProfile.overflowChecks = false ∧
            recorded store region
                (pageStart addr pageSize) =
              none

variable {order : CacheOrder pageCache}
variable {addr pageSize : UInt64}
variable {store : StateStore B}

/- With a page size there is the mask of a page. -/
theorem fetchPageFromStore_eq
    (hPageSize : ∃ k, pageSize.toNat = 2 ^ k)
    (manifest : List MemoryRegion) :
    (fetchPageFromStore .entered order addr pageSize
          (some manifest) :
        Exec (StateStore B) StateStoreError
          (Option Bytes)) =
      (searchCache order pageSize (pageStart addr pageSize)
          manifest >>= fun cached =>
        match cached with
        | some data => pure (some data)
        | none =>
            searchStore (pageStart addr pageSize)
              manifest) ∧
    (fetchPageFromStore .entered order addr pageSize none :
        Exec (StateStore B) StateStoreError
          (Option Bytes)) =
      pure (cachedPage order pageSize) := by
  have hMask :
      checkedSub pageSize 1 = some (pageSize - 1) := by
    have hPositive : (1 : UInt64) ≤ pageSize := by
      apply UInt64.le_iff_toNat_le.mpr
      rcases hPageSize with ⟨k, hPower⟩
      rw [hPower]
      exact Nat.one_le_two_pow
    exact if_pos hPositive
  unfold fetchPageFromStore
  rw [hMask]
  exact ⟨rfl, rfl⟩

/- Outside of all regions nothing is found. -/
theorem fetch_of_outside
    (hPageSize : ∃ k, pageSize.toNat = 2 ^ k)
    {manifest : List MemoryRegion}
    (hOutside :
      ∀ region ∈ manifest,
        ¬ region.Contains (pageStart addr pageSize)) :
    (fetchPageFromStore .entered order addr pageSize
        (some manifest) store).1 =
      .ok none := by
  rw [(fetchPageFromStore_eq hPageSize manifest).1]
  unfold searchCache searchStore
  rw [searchRegions_of_outside hOutside,
    searchRegions_of_outside hOutside]
  rfl

section Inside

variable {region : MemoryRegion}
variable {before after : List MemoryRegion}

/- A region's fault is answered by the cache, then the store. -/
theorem fetch_of_bounded
    (hPageSize : ∃ k, pageSize.toNat = 2 ^ k)
    (hInside : region.Contains (pageStart addr pageSize))
    (hBounded : region.Bounded)
    (hBefore :
      ∀ other ∈ before,
        ¬ other.Contains (pageStart addr pageSize))
    (hAfter :
      ∀ other ∈ after,
        ¬ other.Contains (pageStart addr pageSize)) :
    (∀ data, cachedPage order pageSize = some data →
        (fetchPageFromStore .entered order addr pageSize
            (some (before ++ region :: after)) store).1 =
          .ok (some data)) ∧
      (cachedPage order pageSize = none →
        (fetchPageFromStore .entered order addr pageSize
            (some (before ++ region :: after)) store).1 =
          (Exec.okOrNone
            (StateStore.getPage
              (pageKey region (pageStart addr pageSize)))
            store :
            Outcome StateStoreError (Option Bytes) ×
              StateStore B).1) := by
  rw [(fetchPageFromStore_eq hPageSize _).1]
  unfold searchCache searchStore
  rw [searchRegions_of_bounded hInside hBounded hBefore
      hAfter,
    searchRegions_of_bounded hInside hBounded hBefore
      hAfter,
    Exec.pure_bind_apply]
  constructor
  · intro data hCached
    rw [hCached]
    rfl
  · intro hCached
    rw [hCached]

theorem fetch_of_overflow
    (hPageSize : ∃ k, pageSize.toNat = 2 ^ k)
    (hInside : region.Contains (pageStart addr pageSize))
    (hOverflow : ¬ region.Bounded)
    (hBefore :
      ∀ other ∈ before,
        ¬ other.Contains (pageStart addr pageSize))
    (hAfter :
      ∀ other ∈ after,
        ¬ other.Contains (pageStart addr pageSize)) :
    (fetchPageFromStore .entered order addr pageSize
        (some (before ++ region :: after)) store).1 =
      if BuildProfile.overflowChecks = true then
        .panicked
      else
        .ok none := by
  rw [(fetchPageFromStore_eq hPageSize _).1]
  unfold searchCache searchStore
  rw [searchRegions_of_overflow hInside hOverflow hBefore
      hAfter,
    searchRegions_of_overflow hInside hOverflow hBefore
      hAfter]
  by_cases hChecks : BuildProfile.overflowChecks = true
  · rw [if_pos hChecks, if_pos hChecks]
    rfl
  · rw [if_neg hChecks, if_neg hChecks]
    rfl

end Inside

/- Any other thread panics, before the store is touched. -/
theorem fetch_of_other
    {context : RuntimeContext}
    (hOther : context ≠ .entered)
    (memoryManifest : Option (List MemoryRegion)) :
    (fetchPageFromStore context order addr pageSize
        memoryManifest store :
        Outcome StateStoreError (Option Bytes) ×
          StateStore B) =
      (.panicked, store) := by
  unfold fetchPageFromStore
  cases checkedSub pageSize 1 with
  | none => rfl
  | some mask =>
      cases context with
      | none => rfl
      | entered => exact absurd rfl hOther
      | task => rfl

/- The handler's own thread answers no fault at all. -/
theorem handleFault_panics
    (memoryManifest : Option (List MemoryRegion)) :
    handleFault order addr pageSize memoryManifest store =
      (.panicked, store) := by
  have hFetch :
      fetchPageFromStore RuntimeContext.spawnedThread order
          addr pageSize memoryManifest store =
        (.panicked, store) :=
    fetch_of_other RuntimeContext.spawnedThread_ne_entered
      memoryManifest
  unfold handleFault answerFault
  exact Exec.bind_of_panicked hFetch

/- A fault that panics is not answered. -/
theorem not_answered_of_other
    {context : RuntimeContext}
    (hOther : context ≠ .entered)
    (memoryManifest : Option (List MemoryRegion)) :
    ¬ Answered context order addr pageSize memoryManifest
      store := by
  intro hAnswered
  have hPanics :=
    congrArg Prod.fst
      (@fetch_of_other B _ _ _ pageCache order addr pageSize
        store context hOther memoryManifest)
  by_cases hSome :
      ∃ region ∈ memoryManifest.getD [],
        region.Contains (pageStart addr pageSize)
  · rcases hSome with ⟨region, hRegion, hContains⟩
    have hInside :=
      hAnswered.inside region hRegion hContains
    rw [hPanics] at hInside
    cases hInside
  · have hOutside :=
      hAnswered.outside fun region hRegion hContains =>
        hSome ⟨region, hRegion, hContains⟩
    rw [hPanics] at hOutside
    cases hOutside

/- What is mapped was fetched. -/
theorem fetched_of_copyPage
    {context : RuntimeContext}
    {memoryManifest : Option (List MemoryRegion)}
    {start : UInt64}
    {data : Bytes}
    (hAnswer :
      (answerFault context order addr pageSize
          memoryManifest store).1 =
        .ok (.copyPage start data)) :
    start = pageStart addr pageSize ∧
      (fetchPageFromStore context order addr pageSize
          memoryManifest store).1 =
        .ok (some data) := by
  rcases hFetch :
      fetchPageFromStore context order addr pageSize
        memoryManifest store with
    ⟨outcome, store'⟩
  unfold answerFault at hAnswer
  cases outcome with
  | ok found =>
      rw [Exec.bind_of_ok hFetch] at hAnswer
      cases found with
      | none => cases hAnswer
      | some fetched =>
          cases hAnswer
          exact ⟨rfl, rfl⟩
  | err error =>
      rw [Exec.bind_of_err hFetch] at hAnswer
      cases hAnswer
  | panicked =>
      rw [Exec.bind_of_panicked hFetch] at hAnswer
      cases hAnswer

/- Fetching the right data is mapping the right data. -/
theorem answered_of_fetch
    {context : RuntimeContext}
    {memoryManifest : Option (List MemoryRegion)}
    (hInside :
      ∀ region ∈ memoryManifest.getD [],
        region.Contains (pageStart addr pageSize) →
          (fetchPageFromStore context order addr pageSize
              memoryManifest store).1 =
            .ok
              (recorded store region
                (pageStart addr pageSize)))
    (hOutside :
      (∀ region ∈ memoryManifest.getD [],
          ¬ region.Contains (pageStart addr pageSize)) →
        (fetchPageFromStore context order addr pageSize
            memoryManifest store).1 =
          .ok none) :
    Answered context order addr pageSize memoryManifest
      store := by
  refine ⟨hInside, hOutside, ?_⟩
  intro start data hAnswer
  rcases fetched_of_copyPage hAnswer with ⟨rfl, hFetched⟩
  refine ⟨rfl, ?_⟩
  by_cases hSome :
      ∃ region ∈ memoryManifest.getD [],
        region.Contains (pageStart addr pageSize)
  · rcases hSome with ⟨region, hRegion, hContains⟩
    refine ⟨region, hRegion, hContains, ?_⟩
    rw [hInside region hRegion hContains] at hFetched
    exact Outcome.ok.inj hFetched
  · have hNowhere :
        ∀ region ∈ memoryManifest.getD [],
          ¬ region.Contains (pageStart addr pageSize) :=
      fun region hRegion hContains =>
        hSome ⟨region, hRegion, hContains⟩
    rw [hOutside hNowhere] at hFetched
    cases hFetched

/- The value of a computation, or none after its error. -/
omit [BuildProfile] [Sha256] [StorageBackendTrait B] in
theorem okOrNone_eq_returned_iff
    {ε ε' σ α : Type}
    {call : Exec σ ε α}
    {state : σ} :
    (Exec.okOrNone call state : Outcome ε' (Option α) × σ).1 =
        .ok (returned (call state).1) ↔
      (call state).1 ≠ .panicked := by
  unfold Exec.okOrNone
  rcases call state with ⟨outcome, state'⟩
  cases outcome with
  | ok value => simp [returned]
  | err error => simp [returned]
  | panicked => simp

/- When a fault in a region is answered with its page. -/
theorem fetch_of_inside_iff
    (hPageSize : ∃ k, pageSize.toNat = 2 ^ k)
    {manifest : List MemoryRegion}
    (hDisjoint : DisjointRegions manifest)
    {region : MemoryRegion}
    (hRegion : region ∈ manifest)
    (hInside : region.Contains (pageStart addr pageSize)) :
    (fetchPageFromStore .entered order addr pageSize
          (some manifest) store).1 =
        .ok
          (recorded store region
            (pageStart addr pageSize)) ↔
      if region.Bounded then
        (∀ data, cachedPage order pageSize = some data →
          recorded store region (pageStart addr pageSize) =
            some data) ∧
        (cachedPage order pageSize = none →
          (StateStore.getPage
              (pageKey region (pageStart addr pageSize))
              store).1 ≠
            .panicked)
      else
        BuildProfile.overflowChecks = false ∧
          recorded store region (pageStart addr pageSize) =
            none := by
  rcases split_of_contains hDisjoint hRegion hInside with
    ⟨before, after, rfl, hBefore, hAfter⟩
  by_cases hBounded : region.Bounded
  · rw [if_pos hBounded]
    rcases @fetch_of_bounded B _ _ _ pageCache order addr
        pageSize store region before after hPageSize hInside
        hBounded hBefore hAfter with
      ⟨hCached, hStored⟩
    cases hPage : cachedPage order pageSize with
    | some data =>
        rw [hCached data hPage]
        constructor
        · intro hEq
          refine ⟨?_, nofun⟩
          intro other hOther
          cases hOther
          exact (Outcome.ok.inj hEq).symm
        · intro hSame
          rw [hSame.1 data rfl]
    | none =>
        rw [hStored hPage]
        refine okOrNone_eq_returned_iff.trans ?_
        constructor
        · exact fun hReturns => ⟨nofun, fun _ => hReturns⟩
        · exact fun hReturns => hReturns.2 rfl
  · rw [if_neg hBounded,
      fetch_of_overflow hPageSize hInside hBounded hBefore
        hAfter]
    by_cases hChecks : BuildProfile.overflowChecks = true
    · rw [if_pos hChecks]
      constructor
      · intro hPanics
        cases hPanics
      · intro hUnchecked
        rw [hChecks] at hUnchecked
        cases hUnchecked.1
    · rw [if_neg hChecks]
      constructor
      · intro hEq
        exact
          ⟨Bool.not_eq_true _ ▸ hChecks,
            (Outcome.ok.inj hEq).symm⟩
      · intro hNothing
        rw [hNothing.2]

/- The same for a thread that has entered a runtime. -/
theorem answered_entered_iff
    (hPageSize : ∃ k, pageSize.toNat = 2 ^ k)
    {memoryManifest : Option (List MemoryRegion)}
    (hDisjoint :
      DisjointRegions (memoryManifest.getD [])) :
    Answered .entered order addr pageSize memoryManifest
        store ↔
      Unshadowed order addr pageSize memoryManifest
        store := by
  cases memoryManifest with
  | none =>
      have hFetch :
          (fetchPageFromStore .entered order addr pageSize
              none store).1 =
            .ok (cachedPage order pageSize) := by
        rw [(fetchPageFromStore_eq hPageSize []).2]
        rfl
      constructor
      · intro hAnswered
        refine ⟨fun _ => ?_, nofun⟩
        have hNone := hAnswered.outside nofun
        rw [hFetch] at hNone
        exact Outcome.ok.inj hNone
      · intro hUnshadowed
        rw [hUnshadowed.1 rfl] at hFetch
        exact answered_of_fetch nofun (fun _ => hFetch)
  | some manifest =>
      constructor
      · intro hAnswered
        refine ⟨nofun, ?_⟩
        intro region hRegion hInside
        exact
          (fetch_of_inside_iff hPageSize hDisjoint hRegion
            hInside).mp
            (hAnswered.inside region hRegion hInside)
      · intro hUnshadowed
        exact
          answered_of_fetch
            (fun region hRegion hInside =>
              (fetch_of_inside_iff hPageSize hDisjoint
                hRegion hInside).mpr
                (hUnshadowed.2 region hRegion hInside))
            (fetch_of_outside hPageSize)

/-
  A fault is answered with the page that is recorded for it
  exactly on a thread that has entered a runtime, and if no
  other page stands in front of it.
-/
theorem answered_iff
    (hPageSize : ∃ k, pageSize.toNat = 2 ^ k)
    (context : RuntimeContext)
    (memoryManifest : Option (List MemoryRegion))
    (hDisjoint : DisjointRegions (memoryManifest.getD []))
    (order : CacheOrder pageCache)
    (addr : UInt64)
    (store : StateStore B) :
    Answered context order addr pageSize memoryManifest
        store ↔
      context = .entered ∧
        Unshadowed order addr pageSize memoryManifest
          store := by
  by_cases hEntered : context = .entered
  · rw [hEntered]
    exact
      (answered_entered_iff hPageSize hDisjoint).trans
        (and_iff_right rfl).symm
  · constructor
    · intro hAnswered
      exact
        absurd hAnswered
          (not_answered_of_other hEntered memoryManifest)
    · intro hBoth
      exact absurd hBoth.1 hEntered

/- Without a manifest both handlers map the same. -/
theorem answerFault_none
    (hPageSize : ∃ k, pageSize.toNat = 2 ^ k) :
    (answerFault .entered order addr pageSize none
        store).1 =
      .ok
        (UserfaultfdHandler.answerFault order addr
          pageSize) := by
  unfold answerFault
  rw [(fetchPageFromStore_eq hPageSize []).2,
    Exec.pure_bind_apply]
  rfl

end Answers

end PageFaultHandler

------------------------------------------------------------
-- Sample Faults
------------------------------------------------------------

/- A region of one page, which is in the store. -/
namespace PageFaultSample

open PageFaultHandler

scoped instance : BuildProfile :=
  ⟨true⟩

scoped instance : Sha256 where
  digest data :=
    digestOf <|
      if data = asBytes "ram" ++ toBeBytes 0 then
        0x718c912f1349032d5de250437451098a675b78fafd5f90cc5d8762ec45707df5
      else
        0xe3b0c44298fc1c149afbf4c8996fb92427ae41e4649b934ca495991b7852b855

def ram : MemoryRegion where
  regionId := "ram"
  baseAddr := 0x1000
  size := 4096
  flags := ⟨true, true, false⟩
  temperature := .hot

def ramPage : Bytes :=
  List.replicate 4096 0x11

def store : StateStore MemoryBackend :=
  StateStore.new ⟨16⟩
    ⟨(∅ : HashMap String Bytes).insert
      (pageKey ram 0x1000) ramPage⟩

theorem getPage_store :
    (StateStore.getPage (pageKey ram 0x1000) store).1 =
      .ok ramPage := by
  have hMiss :
      store.pageCache.lookup (pageKey ram 0x1000) =
        none :=
    Finmap.lookup_empty _
  have hGet :
      StorageBackendTrait.get (pageKey ram 0x1000)
          store.backend =
        (.ok ramPage, store.backend) := by
    have hLookup :
        store.backend.store.lookup (pageKey ram 0x1000) =
          some ramPage :=
      Finmap.lookup_insert _
    change MemoryBackend.get (pageKey ram 0x1000) _ = _
    unfold MemoryBackend.get
    rw [Exec.read_bind_apply]
    simp only [hLookup]
    rfl
  unfold StateStore.getPage
  rw [StateStore.fetchContent_eq, hMiss]
  simp only [hGet]

theorem disjoint_ram : DisjointRegions [ram] :=
  List.pairwise_singleton _ _

/- Nothing is cached. -/
def noOrder : CacheOrder ∅ where
  entries := []
  nodup := List.nodup_nil
  mem_iff := by
    intro hash page
    rw [Finmap.lookup_empty]
    exact ⟨nofun, nofun⟩

/- Another page is cached, under the hash of its data. -/
def otherPage : MemoryPage where
  pageHash :=
    "8166470a6833d390ca63c4171241090ea15de8a28fd47551b01af9602d136934"
  data := List.replicate 4096 0xAB
  compression := .none
  originalSize := 4096

def otherCache : HashMap String MemoryPage :=
  (∅ : HashMap String MemoryPage).insert otherPage.pageHash
    otherPage

def otherOrder : CacheOrder otherCache where
  entries := [(otherPage.pageHash, otherPage)]
  nodup := List.nodup_singleton _
  mem_iff := by
    intro hash page
    unfold otherCache
    rw [HashMap.lookup_insert_eq_ite, List.mem_singleton,
      Prod.mk.injEq]
    by_cases hHash : hash = otherPage.pageHash
    · rw [if_pos hHash]
      simp [hHash, eq_comm]
    · rw [if_neg hHash, Finmap.lookup_empty]
      simp [hHash]

theorem cachedPage_other :
    cachedPage otherOrder 4096 = some otherPage.data := by
  have hLength : otherPage.data.length = 4096 :=
    List.length_replicate
  have hFind :
      otherOrder.entries.find? (fun entry =>
          decide (entry.2.data.length =
            (4096 : UInt64).toNat)) =
        some (otherPage.pageHash, otherPage) :=
    List.find?_cons_of_pos (decide_eq_true hLength)
  unfold cachedPage
  rw [hFind]
  rfl

end PageFaultSample

namespace PageFaultHandler

open PageFaultSample

/- With nothing cached the page comes from the store. -/
theorem answered_sample :
    Answered .entered noOrder 0x1234 4096 (some [ram])
      store := by
  have hUnshadowed :
      Unshadowed noOrder 0x1234 4096 (some [ram]) store := by
    refine ⟨nofun, ?_⟩
    intro region hRegion _
    rcases List.mem_singleton.mp hRegion with rfl
    rw [if_pos (by decide)]
    refine ⟨nofun, fun _ => ?_⟩
    change
      (StateStore.getPage (pageKey ram 0x1000) store).1 ≠ _
    rw [getPage_store]
    nofun
  exact
    (answered_iff ⟨12, by decide⟩ .entered (some [ram])
      disjoint_ram noOrder 0x1234 store).mpr
      ⟨rfl, hUnshadowed⟩

/-
  Another page is mapped, with the right one in the store,
  and on the handler's own thread none at all.
-/
theorem answered_other :
    DisjointRegions [ram] ∧
      (StateStore.getPage (pageKey ram 0x1000) store).1 =
        .ok ramPage ∧
      (fetchPageFromStore .entered otherOrder 0x1234 4096
          (some [ram]) store).1 =
        .ok (some otherPage.data) ∧
      (¬ Answered .entered otherOrder 0x1234 4096
        (some [ram]) store) ∧
      ¬ Answered RuntimeContext.spawnedThread otherOrder
        0x1234 4096 (some [ram]) store := by
  have hInside : ram.Contains (pageStart 0x1234 4096) := by
    decide
  have hFetch :
      (fetchPageFromStore .entered otherOrder 0x1234 4096
          (some [ram]) store).1 =
        .ok (some otherPage.data) :=
    (@fetch_of_bounded MemoryBackend _ _ _ _ otherOrder
      0x1234 4096 store ram [] [] ⟨12, by decide⟩ hInside
      (by decide) nofun nofun).1 _ cachedPage_other
  refine
    ⟨disjoint_ram, getPage_store, hFetch, ?_,
      not_answered_of_other
        RuntimeContext.spawnedThread_ne_entered _⟩
  intro hAnswered
  have hRecorded :=
    hAnswered.inside ram (List.mem_singleton_self _) hInside
  rw [hFetch] at hRecorded
  have hStore :
      recorded store ram (pageStart 0x1234 4096) =
        some ramPage := by
    change
      returned
          (StateStore.getPage (pageKey ram 0x1000)
            store).1 =
        _
    rw [getPage_store]
    rfl
  rw [hStore] at hRecorded
  have hData : otherPage.data = ramPage :=
    Option.some.inj (Outcome.ok.inj hRecorded)
  have hFirst := congrArg List.head? hData
  cases hFirst

end PageFaultHandler

end IsaWorkspace
