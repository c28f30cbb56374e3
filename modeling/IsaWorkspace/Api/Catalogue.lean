import IsaWorkspace.Api.Service
import IsaWorkspace.StateStore.Frames
import IsaWorkspace.StateStore.Sweeping

/-
  The catalogue that the store of the service stands for.

  A catalogue says which state an id names, if any.  Storing
  a state enters it, deleting an id takes it out, and reading
  and collecting leave the catalogue alone: the collector
  asks for a reference count of zero, and every entry that a
  request makes keeps the count of one that it starts with.

  Main declarations:
    * `Catalogue`, `StateStore.catalogue`
    * `StateStore.Catalogued`
    * `StateStore.catalogued_read`
    * `StateStore.catalogued_store`
    * `StateStore.catalogued_delete`
    * `StateStore.gcScan_eq_nil`
-/

------------------------------------------------------------
-- Catalogues
------------------------------------------------------------

namespace IsaWorkspace

/- The state that each id names. -/
abbrev Catalogue : Type :=
  StateId → Option State

namespace Catalogue

/- A state is entered under its id. -/
def keep
    (newState : State)
    (catalogue : Catalogue) : Catalogue :=
  Function.update catalogue newState.stateId (some newState)

/- An id is taken out. -/
def drop
    (stateId : StateId)
    (catalogue : Catalogue) : Catalogue :=
  Function.update catalogue stateId none

theorem keep_apply
    (newState : State)
    (catalogue : Catalogue)
    (stateId : StateId) :
    catalogue.keep newState stateId =
      if stateId = newState.stateId then
        some newState
      else
        catalogue stateId :=
  Function.update_apply catalogue _ _ stateId

theorem drop_apply
    (dropped : StateId)
    (catalogue : Catalogue)
    (stateId : StateId) :
    catalogue.drop dropped stateId =
      if stateId = dropped then none
      else catalogue stateId :=
  Function.update_apply catalogue _ _ stateId

end Catalogue

namespace StateStore

variable [SerdeJson State]

/- The state that can be read under each id. -/
def catalogue
    (store : StateStore MemoryBackend) : Catalogue :=
  fun stateId =>
    match (getState stateId store).1 with
    | .ok state => some state
    | _ => none

variable {store : StateStore MemoryBackend}

theorem catalogue_of_getState
    {store' : StateStore MemoryBackend}
    {stateId stateId' : StateId}
    (hGet :
      (getState stateId' store').1 =
        (getState stateId store).1) :
    store'.catalogue stateId' = store.catalogue stateId := by
  unfold catalogue
  rw [hGet]

theorem catalogue_of_ok
    {stateId : StateId}
    {state : State}
    (hGet : (getState stateId store).1 = .ok state) :
    store.catalogue stateId = some state := by
  unfold catalogue
  rw [hGet]

/- An id that has no entry names no state. -/
theorem catalogue_of_lookup_none
    {stateId : StateId}
    (hLookup : store.index.lookup stateId = none) :
    store.catalogue stateId = none := by
  unfold catalogue
  rw [getState_of_lookup_none hLookup]

/- An entry that no reference has been added to. -/
structure Describes
    (stored : StoredState)
    (state : State) : Prop where
  stateId : stored.stateId = state.stateId
  metadata : stored.metadata = state.metadata
  refCount : stored.refCount = 1
  sizeBytes :
    ∃ bytes,
      SerdeJson.toVec state = .ok bytes ∧
        stored.sizeBytes = bytes.length

variable [Sha256]

/- Every entry describes a state that can be read. -/
structure Catalogued
    (used : Set Bytes)
    (store : StateStore MemoryBackend) : Prop where
  coupled : ∃ history, Coupled used ⟨history, store⟩
  entries :
    ∀ stateId stored,
      store.index.lookup stateId = some stored →
        ∃ state,
          store.catalogue stateId = some state ∧
            state.stateId = stateId ∧
            Describes stored state

variable {used : Set Bytes}

/- An id names a state if and only if it has an entry. -/
theorem Catalogued.isSome_iff
    (hCatalogued : Catalogued used store)
    (stateId : StateId) :
    (store.catalogue stateId).isSome ↔
      stateId ∈ store.index := by
  cases hLookup : store.index.lookup stateId with
  | none =>
      rw [catalogue_of_lookup_none hLookup]
      constructor
      · intro hSome
        cases hSome
      · intro hMem
        exact
          absurd hMem (Finmap.lookup_eq_none.mp hLookup)
  | some stored =>
      rcases hCatalogued.entries stateId stored hLookup with
        ⟨state, hState, _, _⟩
      rw [hState]
      exact
        iff_of_true rfl (Finmap.mem_of_lookup_eq_some hLookup)

/- What an id names carries that id. -/
theorem Catalogued.stateId_of_some
    (hCatalogued : Catalogued used store)
    {stateId : StateId}
    {state : State}
    (hState : store.catalogue stateId = some state) :
    state.stateId = stateId := by
  have hMem :=
    (hCatalogued.isSome_iff stateId).mp
      (Option.isSome_iff_exists.mpr ⟨state, hState⟩)
  rcases Finmap.mem_iff.mp hMem with ⟨stored, hLookup⟩
  rcases hCatalogued.entries stateId stored hLookup with
    ⟨found, hFound, hId, _⟩
  rw [hState] at hFound
  cases hFound
  exact hId

/- Nothing can be read from a new store. -/
omit [Sha256] in
theorem catalogue_new
    (config : StateStoreConfig)
    (stateId : StateId) :
    (StateStore.new config MemoryBackend.new).catalogue
        stateId = none :=
  catalogue_of_lookup_none (Finmap.lookup_empty stateId)

theorem catalogued_new
    (config : StateStoreConfig) :
    Catalogued used
      (StateStore.new config MemoryBackend.new) where
  coupled := ⟨[], coupled_new config rfl⟩
  entries := by
    intro stateId stored hLookup
    cases (Finmap.lookup_empty stateId).symm.trans hLookup

------------------------------------------------------------
-- Reads
------------------------------------------------------------

/- Reading an id answers what the catalogue says. -/
theorem getState_of_catalogued
    (hCatalogued : Catalogued used store)
    (stateId : StateId) :
    (getState stateId store).1 =
      match store.catalogue stateId with
      | some state => .ok state
      | none => .err (stateNotFound stateId) := by
  cases hLookup : store.index.lookup stateId with
  | none =>
      rw [catalogue_of_lookup_none hLookup]
      exact getState_of_lookup_none hLookup
  | some stored =>
      rcases hCatalogued.entries stateId stored hLookup with
        ⟨state, hState, _, _⟩
      rw [hState]
      unfold catalogue at hState
      cases hGet : (getState stateId store).1 with
      | ok found =>
          rw [hGet] at hState
          cases hState
          rfl
      | err error =>
          rw [hGet] at hState
          cases hState
      | panicked =>
          rw [hGet] at hState
          cases hState

omit [Sha256] in
theorem getState_index
    (stateId : StateId)
    (store : StateStore MemoryBackend) :
    (getState stateId store).2.index = store.index := by
  rw [getState_store]
  split
  · rfl
  · simp

variable [BuildProfile]

/- Reading an id leaves the catalogue alone. -/
theorem catalogued_read
    (hHash : Set.InjOn computeHash used)
    (hCatalogued : Catalogued used store)
    (stateId : StateId) :
    Catalogued used (getState stateId store).2 ∧
      (getState stateId store).2.catalogue =
        store.catalogue := by
  rcases hCatalogued.coupled with ⟨history, hCoupled⟩
  have hSame :
      (getState stateId store).2.catalogue =
        store.catalogue := by
    funext other
    exact
      catalogue_of_getState
        (getState_after_read hHash stateId other hCoupled)
  refine
    ⟨⟨⟨_, coupled_read hHash stateId hCoupled⟩, ?_⟩, hSame⟩
  intro other stored hLookup
  rw [hSame]
  apply hCatalogued.entries other stored
  rw [← hLookup, getState_index]

------------------------------------------------------------
-- Writes
------------------------------------------------------------

/- An entry that has just been made describes its state. -/
omit [BuildProfile] in
theorem describes_of_stored
    {now createdAt : DateTime}
    {newState : State}
    {stored : StoredState}
    (hStored :
      (storeState now createdAt newState store).1 =
        .ok stored) :
    Describes stored newState := by
  rw [storeState_eq] at hStored
  cases hJson : SerdeJson.toVec newState with
  | error message =>
      rw [hJson] at hStored
      cases hStored
  | ok bytes =>
      rw [hJson] at hStored
      dsimp only [MemoryBackend.put_apply] at hStored
      cases hExpires :
          expiresAt now newState.metadata.ttlSeconds with
      | none =>
          rw [hExpires] at hStored
          cases hStored
      | some expiration =>
          rw [hExpires] at hStored
          cases hStored
          exact ⟨rfl, rfl, rfl, bytes, hJson, rfl⟩

/-
  Storing a state enters it into the catalogue if it succeeds
  and changes nothing otherwise.
-/
theorem catalogued_store
    (hHash : Set.InjOn computeHash used)
    {now createdAt : DateTime}
    {newState : State}
    (hWithin :
      Within used
        (.state (.storeState now createdAt newState)))
    (hCatalogued : Catalogued used store) :
    let result := storeState now createdAt newState store
    Catalogued used result.2 ∧
      result.2.catalogue =
        match result.1 with
        | .ok _ => store.catalogue.keep newState
        | _ => store.catalogue := by
  intro result
  rcases hCatalogued.coupled with ⟨history, hCoupled⟩
  have hAfter : ∃ later, Coupled used ⟨later, result.2⟩ :=
    ⟨_, coupled_step hHash hWithin hCoupled⟩
  have hEntry :=
    storeState_entry now createdAt newState store
  by_cases hOk : ∃ stored, result.1 = .ok stored
  · rcases hOk with ⟨stored, hStored⟩
    have hResult :
        (storeState now createdAt newState store).1 =
          .ok stored := hStored
    rw [hResult] at hEntry
    have hSame :
        result.2.catalogue =
          store.catalogue.keep newState := by
      funext stateId
      rw [Catalogue.keep_apply]
      by_cases hId : newState.stateId = stateId
      · rw [if_pos hId.symm]
        exact
          catalogue_of_ok
            (getState_after_stored hHash hWithin hCoupled
              hStored hId)
      · rw [if_neg fun hEq => hId hEq.symm]
        exact
          catalogue_of_getState
            (getState_after_other hHash hWithin hCoupled hId)
    rw [hStored]
    refine ⟨⟨hAfter, ?_⟩, hSame⟩
    intro stateId entry hLookup
    rw [hSame, Catalogue.keep_apply]
    rw [hEntry, HashMap.lookup_insert_eq_ite] at hLookup
    by_cases hId : stateId = newState.stateId
    · rw [if_pos hId] at hLookup
      cases hLookup
      rw [if_pos hId]
      exact
        ⟨newState, rfl, hId.symm,
          describes_of_stored hResult⟩
    · rw [if_neg hId] at hLookup ⊢
      exact hCatalogued.entries stateId entry hLookup
  · have hFailed :
        ∀ stored,
          (storeState now createdAt newState store).1 ≠
            .ok stored :=
      fun stored hStored => hOk ⟨stored, hStored⟩
    have hSame :
        result.2.catalogue = store.catalogue := by
      funext stateId
      exact
        catalogue_of_getState
          (getState_after_failed hHash hWithin hCoupled
            hFailed stateId)
    have hIndex : result.2.index = store.index := by
      cases hStored :
          (storeState now createdAt newState store).1 with
      | ok stored => exact absurd hStored (hFailed stored)
      | err error =>
          rw [hStored] at hEntry
          exact hEntry
      | panicked =>
          rw [hStored] at hEntry
          exact hEntry
    refine ⟨⟨hAfter, ?_⟩, ?_⟩
    · intro stateId entry hLookup
      rw [hSame]
      apply hCatalogued.entries stateId entry
      rw [← hLookup, hIndex]
    · cases hStored : result.1 with
      | ok stored => exact absurd hStored (hFailed stored)
      | err error => exact hSame
      | panicked => exact hSame

/- Deleting an id succeeds and takes the id out. -/
theorem catalogued_delete
    (hHash : Set.InjOn computeHash used)
    (hCatalogued : Catalogued used store)
    (stateId : StateId) :
    (deleteState stateId store).1 = .ok () ∧
      Catalogued used (deleteState stateId store).2 ∧
      (deleteState stateId store).2.catalogue =
        store.catalogue.drop stateId := by
  rcases hCatalogued.coupled with ⟨history, hCoupled⟩
  have hWithin :
      Within used (.state (.deleteState stateId)) :=
    ⟨fun _ _ hPuts => hPuts.elim,
      fun _ _ hStores => hStores.elim⟩
  have hAfter := coupled_step hHash hWithin hCoupled
  have hOne :
      ∀ stored,
        store.index.lookup stateId = some stored →
          stored.refCount ≤ 1 := by
    intro stored hLookup
    rcases hCatalogued.entries stateId stored hLookup with
      ⟨_, _, _, hDescribes⟩
    rw [hDescribes.refCount]
    decide
  have hIndex :
      (deleteState stateId store).2.index =
        store.index.erase stateId := by
    rw [deleteState_index]
    cases hLookup : store.index.lookup stateId with
    | none =>
        exact (HashMap.erase_of_lookup_none hLookup).symm
    | some stored =>
        exact if_pos (hOne stored hLookup)
  have hSame :
      (deleteState stateId store).2.catalogue =
        store.catalogue.drop stateId := by
    funext other
    rw [Catalogue.drop_apply]
    by_cases hId : other = stateId
    · rw [if_pos hId]
      apply catalogue_of_lookup_none
      rw [hIndex, hId]
      exact Finmap.lookup_erase stateId store.index
    · rw [if_neg hId]
      have hOp :
          Op.Overwrites (.state (.deleteState stateId))
            stateId := rfl
      have hFrame :=
        frame_of_overwrites_other ⟨history, store⟩ hOp
          (Ne.symm hId)
      exact
        catalogue_of_getState
          (getState_eq_of_frame hHash hCoupled hAfter
            hFrame.1 hFrame.2)
  refine ⟨?_, ⟨⟨_, hAfter⟩, ?_⟩, hSame⟩
  · rw [deleteState_eq]
    cases hLookup : store.index.lookup stateId with
    | none => rfl
    | some stored =>
        dsimp only
        rw [if_pos (hOne stored hLookup)]
        rfl
  · intro other stored hLookup
    rw [hSame, Catalogue.drop_apply]
    have hErased :
        (store.index.erase stateId).lookup other =
          some stored := by
      rw [← hIndex]
      exact hLookup
    rw [HashMap.lookup_erase_eq_ite] at hErased
    by_cases hId : other = stateId
    · rw [if_pos hId] at hErased
      cases hErased
    · rw [if_neg hId] at hErased ⊢
      exact hCatalogued.entries other stored hErased

------------------------------------------------------------
-- The Collector
------------------------------------------------------------

/- No entry is ever collected. -/
omit [BuildProfile] in
theorem gcScan_eq_nil
    (hCatalogued : Catalogued used store)
    (now : DateTime)
    (order : List StateId) :
    gcScan now order store = [] := by
  apply List.eq_nil_iff_forall_not_mem.mpr
  intro stateId hMem
  have hExpired := (List.mem_filter.mp hMem).2
  cases hLookup : store.index.lookup stateId with
  | none =>
      rw [hLookup] at hExpired
      cases hExpired
  | some stored =>
      rw [hLookup] at hExpired
      rcases hCatalogued.entries stateId stored hLookup with
        ⟨_, _, _, hDescribes⟩
      rcases isExpired_iff_expiredAt.mp hExpired with
        ⟨_, _, _, hZero⟩
      rw [hDescribes.refCount] at hZero
      cases hZero

end StateStore

end IsaWorkspace
