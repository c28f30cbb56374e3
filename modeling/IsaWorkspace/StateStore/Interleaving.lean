import IsaWorkspace.StateStore.IndexEffects

/-
  Calls of `storeState` and `deleteState` in interleaving.

  A store of a state takes three atomic steps: the put, the
  insertion into the index, and the offer to the cache.  A
  deletion holds the index throughout and takes one.  A
  `Concurrent` system performs the steps of any number of
  calls in the order a schedule names them.

  No index entry dangles as long as no deletion removes
  content that another entry, or a call on its way to the
  index, refers to.

  Main declarations:
    * `CallPhase`, `Concurrent`
    * `storeState_steps`
    * `NoDangling`, `SparesContent`
    * `contentKept_step`
    * `noDangling_of_sparesContent`
    * `alongRun_of_sparesAwaiting`
-/

------------------------------------------------------------
-- Calls in Steps
------------------------------------------------------------

namespace IsaWorkspace

/- Calls that may run at the same time. -/
inductive Call where
  | storeState (now createdAt : DateTime) (state : State)
  | deleteState (stateId : StateId)

/- What a call has yet to do. -/
inductive CallPhase where
  | storeState (now createdAt : DateTime) (state : State)
  | indexState
      (now createdAt : DateTime)
      (state : State)
      (contentHash : ContentAddress)
      (stateBytes : Bytes)
  | cacheContent
      (contentHash : ContentAddress)
      (stateBytes : Bytes)
  | deleteState (stateId : StateId)
  | finished

namespace CallPhase

/- A call that has not begun. -/
def start : Call → CallPhase
| .storeState now createdAt state =>
    storeState now createdAt state
| .deleteState stateId => deleteState stateId

/- The call has returned. -/
def isFinished : CallPhase → Bool
| finished => true
| _ => false

/- The content a call has put but not entered yet. -/
def awaitsIndex : CallPhase → Option ContentAddress
| indexState _ _ _ contentHash _ => some contentHash
| _ => none

/- The id a call is about to delete. -/
def deletes : CallPhase → Option StateId
| deleteState stateId => some stateId
| _ => none

variable {B : Type} [StorageBackendTrait B]
variable [Sha256] [SerdeJson State]

/- One atomic step of a call. -/
def step
    (phase : CallPhase)
    (store : StateStore B) : CallPhase × StateStore B :=
  match phase with
  | storeState now createdAt state =>
      match StateStore.putState state store with
      | (.ok (contentHash, stateBytes), store') =>
          (indexState now createdAt state contentHash
            stateBytes, store')
      | (_, store') => (finished, store')
  | indexState now createdAt state contentHash stateBytes =>
      match StateStore.indexState now createdAt state
          contentHash stateBytes store with
      | (.ok _, store') =>
          (cacheContent contentHash stateBytes, store')
      | (_, store') => (finished, store')
  | cacheContent contentHash stateBytes =>
      (finished,
        (StateStore.cacheContent contentHash stateBytes
          store).2)
  | deleteState stateId =>
      (finished, (StateStore.deleteState stateId store).2)
  | finished => (finished, store)

end CallPhase

/- A store and the calls in progress on it. -/
structure Concurrent (B : Type) where
  store : StateStore B
  calls : List CallPhase

namespace Concurrent

/- A new store and the calls to be made on it. -/
def new
    {B : Type}
    (config : StateStoreConfig)
    (backend : B)
    (calls : List Call) : Concurrent B where
  store := StateStore.new config backend
  calls := calls.map CallPhase.start

variable {B : Type} [StorageBackendTrait B]
variable [Sha256] [SerdeJson State]

/- The call at a position takes its next step. -/
def step
    (system : Concurrent B)
    (position : Nat) : Concurrent B :=
  match system.calls[position]? with
  | none => system
  | some phase =>
      { store := (phase.step system.store).2
        calls :=
          system.calls.set position
            (phase.step system.store).1 }

end Concurrent

/-
  The steps of a store, with nothing in between, are the
  store as a whole.
-/
theorem StateStore.storeState_steps
    {B : Type} [StorageBackendTrait B]
    [Sha256] [SerdeJson State]
    (now createdAt : DateTime)
    (newState : State)
    (store : StateStore B) :
    Runs.run Concurrent.step
        ⟨store, [.storeState now createdAt newState]⟩
        [0, 0, 0] =
      ⟨(storeState now createdAt newState store).2,
        [.finished]⟩ := by
  have hPutState := putState_eq newState store
  have hStore := storeState_eq now createdAt newState store
  simp only [Runs.run_cons, Runs.run_nil, Concurrent.step,
    List.getElem?_cons_zero, List.set_cons_zero,
    CallPhase.step]
  cases hJson : SerdeJson.toVec newState with
  | error message =>
      simp only [hJson] at hPutState hStore
      simp only [hPutState, hStore]
  | ok bytes =>
      rcases hPut :
          StorageBackendTrait.put (computeHash bytes) bytes
            store.backend with
        ⟨outcome, backend⟩
      simp only [hJson, hPut] at hPutState hStore
      cases outcome with
      | err error => simp only [hPutState, hStore]
      | panicked => simp only [hPutState, hStore]
      | ok _ =>
          simp only [hPutState, hStore]
          rw [indexState_eq]
          cases expiresAt now
              newState.metadata.ttlSeconds with
          | none => rfl
          | some expiration => rfl

end IsaWorkspace

------------------------------------------------------------
-- Kept Content
------------------------------------------------------------

namespace IsaWorkspace

namespace StateStore

/-
  Every index entry, and every call on its way to the index,
  has its content among the stored objects.
-/
structure ContentKept
    (index : HashMap StateId StoredState)
    (calls : List CallPhase)
    (contents : HashMap String Bytes) : Prop where
  entries :
    ∀ stateId stored,
      index.lookup stateId = some stored →
        stored.contentHash ∈ contents
  awaiting :
    ∀ phase ∈ calls, ∀ contentHash,
      phase.awaitsIndex = some contentHash →
        contentHash ∈ contents

variable {index : HashMap StateId StoredState}
variable {calls : List CallPhase}
variable {contents : HashMap String Bytes}

/- Storing an object loses none. -/
theorem ContentKept.put
    (hKept : ContentKept index calls contents)
    (contentHash : ContentAddress)
    (content : Bytes) :
    ContentKept index calls
      (contents.insert contentHash content) := by
  constructor
  · intro stateId stored hLookup
    exact Finmap.mem_insert.mpr
      (Or.inr (hKept.entries stateId stored hLookup))
  · intro phase hPhase other hAwaits
    exact Finmap.mem_insert.mpr
      (Or.inr
        (hKept.awaiting phase hPhase other hAwaits))

/- A call moves on to content that is there. -/
theorem ContentKept.setCall
    (hKept : ContentKept index calls contents)
    (position : Nat)
    {next : CallPhase}
    (hNext :
      ∀ contentHash,
        next.awaitsIndex = some contentHash →
          contentHash ∈ contents) :
    ContentKept index (calls.set position next)
      contents := by
  refine ⟨hKept.entries, ?_⟩
  intro phase hPhase contentHash hAwaits
  rcases List.mem_or_eq_of_mem_set hPhase with
    hOld | rfl
  · exact hKept.awaiting phase hOld contentHash hAwaits
  · exact hNext contentHash hAwaits

/- An entry for content that is there may be written. -/
theorem ContentKept.enter
    (hKept : ContentKept index calls contents)
    (stateId : StateId)
    {stored : StoredState}
    (hContent : stored.contentHash ∈ contents) :
    ContentKept (index.insert stateId stored) calls
      contents := by
  refine ⟨?_, hKept.awaiting⟩
  intro other entry hLookup
  rw [HashMap.lookup_insert_eq_ite] at hLookup
  split at hLookup
  · cases hLookup
    exact hContent
  · exact hKept.entries other entry hLookup

/- Entries may be erased. -/
theorem ContentKept.forget
    (hKept : ContentKept index calls contents)
    (stateId : StateId) :
    ContentKept (index.erase stateId) calls contents := by
  refine ⟨?_, hKept.awaiting⟩
  intro other entry hLookup
  rw [HashMap.lookup_erase_eq_ite] at hLookup
  split at hLookup
  · cases hLookup
  · exact hKept.entries other entry hLookup

/- Content that nothing refers to may be deleted. -/
theorem ContentKept.delete
    (hKept : ContentKept index calls contents)
    {contentHash : ContentAddress}
    (hEntries :
      ∀ stateId stored,
        index.lookup stateId = some stored →
          stored.contentHash ≠ contentHash)
    (hAwaiting :
      ∀ phase ∈ calls,
        phase.awaitsIndex ≠ some contentHash) :
    ContentKept index calls
      (contents.erase contentHash) := by
  constructor
  · intro stateId stored hLookup
    exact Finmap.mem_erase.mpr
      ⟨hEntries stateId stored hLookup,
        hKept.entries stateId stored hLookup⟩
  · intro phase hPhase other hAwaits
    refine Finmap.mem_erase.mpr
      ⟨?_, hKept.awaiting phase hPhase other hAwaits⟩
    rintro rfl
    exact hAwaiting phase hPhase hAwaits

end StateStore

end IsaWorkspace

------------------------------------------------------------
-- Schedules
------------------------------------------------------------

namespace IsaWorkspace

namespace StateStore

variable {B : Type} [LawfulBackend B]

/- The content of every index entry is stored. -/
def NoDangling
    (store : StateStore B) : Prop :=
  ∀ stateId ∈ store.index.keys,
    ∀ stored ∈ store.index.lookup stateId,
      stored.contentHash ∈
        LawfulBackend.contents store.backend

/- Once all calls have returned, no entry dangles. -/
def SettledBacked
    (system : Concurrent B) : Prop :=
  (∀ phase ∈ system.calls, phase.isFinished = true) →
    NoDangling system.store

instance
    (system : Concurrent B) :
    Decidable (SettledBacked system) := by
  unfold SettledBacked NoDangling
  infer_instance

/-
  The next step deletes no content that another entry, or a
  call on its way to the index, refers to.
-/
def SparesContent
    (system : Concurrent B)
    (position : Nat) : Prop :=
  let index := system.store.index
  ∀ phase ∈ system.calls[position]?,
    ∀ stateId ∈ phase.deletes,
      ∀ stored ∈ index.lookup stateId,
        stored.refCount ≤ 1 →
          (∀ other ∈ index.keys, other ≠ stateId →
            ∀ entry ∈ index.lookup other,
              entry.contentHash ≠ stored.contentHash) ∧
            ∀ waiting ∈ system.calls,
              waiting.awaitsIndex ≠ some stored.contentHash

omit [LawfulBackend B] in
instance
    (system : Concurrent B)
    (position : Nat) :
    Decidable (SparesContent system position) := by
  unfold SparesContent
  infer_instance

/- A system whose references all have their content. -/
def SystemKept
    (system : Concurrent B) : Prop :=
  ContentKept system.store.index system.calls
    (LawfulBackend.contents system.store.backend)

variable {system : Concurrent B} {position : Nat}

/- A deletion that spares content in use keeps the rest. -/
theorem contentKept_deleteState
    (hKept : SystemKept system)
    {stateId : StateId}
    (hCall :
      system.calls[position]? =
        some (.deleteState stateId))
    (hSpares : SparesContent system position) :
    ContentKept
      (deleteState stateId system.store).2.index
      system.calls
      (LawfulBackend.contents
        (deleteState stateId system.store).2.backend) := by
  rw [deleteState_eq]
  cases hFound : system.store.index.lookup stateId with
  | none => exact hKept
  | some stored =>
      dsimp only
      by_cases hLast : stored.refCount ≤ 1
      · rw [if_pos hLast]
        have hErased := hKept.forget stateId
        rcases hDelete :
            StorageBackendTrait.delete stored.contentHash
              system.store.backend with
          ⟨outcome, backend⟩
        cases outcome with
        | ok _ =>
            dsimp only
            rw [LawfulBackend.contents_of_delete_ok hDelete]
            rcases hSpares _ hCall stateId rfl stored
                hFound hLast with
              ⟨hEntries, hAwaiting⟩
            apply hErased.delete ?_ hAwaiting
            intro other entry hLookup
            rw [HashMap.lookup_erase_eq_ite] at hLookup
            split at hLookup
            · cases hLookup
            · next hOther =>
                have hKey :
                    other ∈ system.store.index.keys :=
                  Finmap.mem_keys.mpr
                    (Finmap.mem_of_lookup_eq_some hLookup)
                exact hEntries other hKey hOther entry
                  hLookup
        | err error =>
            dsimp only
            rw [LawfulBackend.contents_of_delete_failed
              hDelete (by simp)]
            exact hErased
        | panicked =>
            dsimp only
            rw [LawfulBackend.contents_of_delete_failed
              hDelete (by simp)]
            exact hErased
      · rw [if_neg hLast]
        exact hKept.enter stateId
          (hKept.entries stateId stored hFound)

variable [Sha256] [SerdeJson State]

/- Putting a state keeps all content, and adds its own. -/
theorem contentKept_putState
    (hKept : SystemKept system)
    (newState : State) :
    let result := putState newState system.store
    ContentKept result.2.index system.calls
        (LawfulBackend.contents result.2.backend) ∧
      ∀ contentHash stateBytes,
        result.1 = .ok (contentHash, stateBytes) →
          contentHash ∈
            LawfulBackend.contents result.2.backend := by
  intro result
  have hResult : result =
      putState newState system.store := rfl
  clear_value result
  rw [putState_eq] at hResult
  cases hJson : SerdeJson.toVec newState with
  | error message =>
      simp only [hJson] at hResult
      subst hResult
      exact ⟨hKept, fun _ _ hOk => by cases hOk⟩
  | ok bytes =>
      simp only [hJson] at hResult
      rcases hPut :
          StorageBackendTrait.put (computeHash bytes) bytes
            system.store.backend with
        ⟨outcome, backend⟩
      simp only [hPut] at hResult
      cases outcome with
      | ok _ =>
          subst hResult
          dsimp only
          rw [LawfulBackend.contents_of_put_ok hPut]
          refine ⟨hKept.put _ _, ?_⟩
          intro contentHash stateBytes hOk
          cases hOk
          exact Finmap.mem_insert.mpr (Or.inl rfl)
      | err error =>
          subst hResult
          dsimp only
          rw [LawfulBackend.contents_of_put_failed hPut
            (by simp)]
          exact ⟨hKept, fun _ _ hOk => by cases hOk⟩
      | panicked =>
          subst hResult
          dsimp only
          rw [LawfulBackend.contents_of_put_failed hPut
            (by simp)]
          exact ⟨hKept, fun _ _ hOk => by cases hOk⟩

/- A step that spares content in use keeps all content. -/
theorem contentKept_step
    (hKept : SystemKept system)
    (hSpares : SparesContent system position) :
    SystemKept (system.step position) := by
  unfold Concurrent.step
  cases hCall : system.calls[position]? with
  | none => exact hKept
  | some phase =>
      have hMem : phase ∈ system.calls :=
        List.mem_of_getElem? hCall
      cases phase with
      | storeState now createdAt newState =>
          have hPut := contentKept_putState hKept newState
          unfold SystemKept CallPhase.step
          dsimp only
          rcases hResult : putState newState system.store
            with ⟨outcome, store'⟩
          rw [hResult] at hPut
          rcases hPut with ⟨hAfter, hNew⟩
          cases outcome with
          | ok content =>
              apply hAfter.setCall
              intro contentHash hAwaits
              cases hAwaits
              exact hNew content.1 content.2 rfl
          | err error =>
              exact hAfter.setCall position
                (fun _ hAwaits => by cases hAwaits)
          | panicked =>
              exact hAfter.setCall position
                (fun _ hAwaits => by cases hAwaits)
      | indexState now createdAt newState contentHash
          stateBytes =>
          have hContent :=
            hKept.awaiting _ hMem contentHash rfl
          unfold SystemKept CallPhase.step
          dsimp only
          rw [indexState_eq]
          cases expiresAt now
              newState.metadata.ttlSeconds with
          | none =>
              exact hKept.setCall position
                (fun _ hAwaits => by cases hAwaits)
          | some expiration =>
              apply ContentKept.setCall
              · exact hKept.enter newState.stateId hContent
              · intro other hAwaits
                cases hAwaits
      | cacheContent contentHash stateBytes =>
          unfold SystemKept CallPhase.step
          dsimp only
          rw [cacheContent_apply, cached_index,
            cached_backend]
          exact hKept.setCall position
            (fun _ hAwaits => by cases hAwaits)
      | deleteState stateId =>
          have hAfter :=
            contentKept_deleteState hKept hCall hSpares
          exact hAfter.setCall position
            (fun _ hAwaits => by cases hAwaits)
      | finished =>
          exact hKept.setCall position
            (fun _ hAwaits => by cases hAwaits)

/-
  In every schedule of any calls on a new store whose
  deletions spare the content in use, the entries left when
  all calls have returned have their content.
-/
theorem noDangling_of_sparesContent
    (config : StateStoreConfig)
    (backend : B)
    (calls : List Call)
    (schedule : List Nat)
    (hSpares :
      Runs.AlongRun Concurrent.step SparesContent
        (Concurrent.new config backend calls) schedule) :
    Runs.Throughout Concurrent.step SettledBacked
      (Concurrent.new config backend calls) schedule := by
  have hStart :
      SystemKept
        (Concurrent.new config backend calls) := by
    constructor
    · intro stateId stored hLookup
      simp [Concurrent.new, new] at hLookup
    · intro phase hPhase contentHash hAwaits
      rcases List.mem_map.mp hPhase with ⟨call, _, rfl⟩
      cases call <;> cases hAwaits
  have hStep :
      ∀ (system : Concurrent B) position,
        SystemKept system →
        SparesContent system position →
          SystemKept (system.step position) :=
    fun _ _ hKept hNext => contentKept_step hKept hNext
  have hKept :=
    Runs.throughout_of_alongRun hStep hStart hSpares
  apply hKept.mono
  intro system hSystem _ stateId _ stored hStored
  exact hSystem.entries stateId stored hStored

------------------------------------------------------------
-- Content of Different Ids
------------------------------------------------------------

/-
  Content that belongs to an id: the JSON text of a state
  with that id, which decodes to the state again.
-/
def Owned
    (used : Set Bytes)
    (stateId : StateId)
    (contentHash : ContentAddress) : Prop :=
  ∃ (state : State) (bytes : Bytes),
    state.stateId = stateId ∧
      SerdeJson.fromSlice bytes = .ok state ∧
        bytes ∈ used ∧
          contentHash = computeHash bytes

/- What a call stores belongs to its id. -/
def CallOwned
    (used : Set Bytes) : CallPhase → Prop
| .storeState _ _ newState =>
    ∀ bytes, SerdeJson.toVec newState = .ok bytes →
      SerdeJson.fromSlice bytes = .ok newState ∧
        bytes ∈ used
| .indexState _ _ newState contentHash _ =>
    Owned used newState.stateId contentHash
| _ => True

/- All entries, and all calls, keep to their own content. -/
structure SystemOwned
    (used : Set Bytes)
    (system : Concurrent B) : Prop where
  entries :
    ∀ stateId stored,
      system.store.index.lookup stateId = some stored →
        Owned used stateId stored.contentHash
  calls :
    ∀ phase ∈ system.calls, CallOwned used phase

/-
  The next step deletes no content that a call on its way to
  the index refers to.
-/
def SparesAwaiting
    (system : Concurrent B)
    (position : Nat) : Prop :=
  ∀ phase ∈ system.calls[position]?,
    ∀ stateId ∈ phase.deletes,
      ∀ stored ∈ system.store.index.lookup stateId,
        stored.refCount ≤ 1 →
          ∀ waiting ∈ system.calls,
            waiting.awaitsIndex ≠ some stored.contentHash

variable {used : Set Bytes}

/- Content belongs to one id. -/
omit [LawfulBackend B] in
theorem Owned.id_unique
    (hHash : Set.InjOn computeHash used)
    {stateId other : StateId}
    {contentHash : ContentAddress}
    (hOwned : Owned used stateId contentHash)
    (hOther : Owned used other contentHash) :
    stateId = other := by
  rcases hOwned with
    ⟨state, bytes, rfl, hDecodes, hUsed, rfl⟩
  rcases hOther with
    ⟨state', bytes', rfl, hDecodes', hUsed', hAddress⟩
  have hBytes : bytes = bytes' :=
    hHash hUsed hUsed' hAddress
  rw [hBytes, hDecodes'] at hDecodes
  rw [Except.ok.inj hDecodes]

/- What is put belongs to its id. -/
theorem owned_of_putState
    {newState : State}
    (hCall :
      ∀ bytes, SerdeJson.toVec newState = .ok bytes →
        SerdeJson.fromSlice bytes = .ok newState ∧
          bytes ∈ used)
    {store store' : StateStore B}
    {contentHash : ContentAddress}
    {stateBytes : Bytes}
    (hPut :
      putState newState store =
        (.ok (contentHash, stateBytes), store')) :
    Owned used newState.stateId contentHash := by
  rw [putState_eq] at hPut
  cases hJson : SerdeJson.toVec newState with
  | error message =>
      simp only [hJson] at hPut
      cases hPut
  | ok bytes =>
      rcases hCall bytes hJson with ⟨hDecodes, hUsed⟩
      simp only [hJson] at hPut
      rcases hBackend :
          StorageBackendTrait.put (computeHash bytes) bytes
            store.backend with
        ⟨outcome, backend⟩
      simp only [hBackend] at hPut
      cases outcome with
      | err error => cases hPut
      | panicked => cases hPut
      | ok _ =>
          cases hPut
          exact
            ⟨newState, _, rfl, hDecodes, hUsed, rfl⟩

/- A step of a call keeps to content of its own. -/
theorem callOwned_step
    {store : StateStore B}
    {phase : CallPhase}
    (hEntries :
      ∀ stateId stored,
        store.index.lookup stateId = some stored →
          Owned used stateId stored.contentHash)
    (hPhase : CallOwned used phase) :
    (∀ stateId stored,
      (phase.step store).2.index.lookup stateId =
        some stored →
        Owned used stateId stored.contentHash) ∧
      CallOwned used (phase.step store).1 := by
  cases phase with
  | finished => exact ⟨hEntries, trivial⟩
  | cacheContent contentHash stateBytes =>
      unfold CallPhase.step
      dsimp only
      rw [cacheContent_apply, cached_index]
      exact ⟨hEntries, trivial⟩
  | storeState now createdAt newState =>
      have hIndex := putState_index newState store
      unfold CallPhase.step
      dsimp only
      rcases hPut : putState newState store with
        ⟨outcome, store'⟩
      rw [hPut] at hIndex
      cases outcome with
      | err error =>
          dsimp only
          rw [hIndex]
          exact ⟨hEntries, trivial⟩
      | panicked =>
          dsimp only
          rw [hIndex]
          exact ⟨hEntries, trivial⟩
      | ok content =>
          dsimp only
          rw [hIndex]
          exact ⟨hEntries, owned_of_putState hPhase hPut⟩
  | indexState now createdAt newState contentHash
      stateBytes =>
      unfold CallPhase.step
      dsimp only
      rw [indexState_eq]
      cases expiresAt now newState.metadata.ttlSeconds with
      | none => exact ⟨hEntries, trivial⟩
      | some expiration =>
          refine ⟨?_, trivial⟩
          intro stateId stored hLookup
          dsimp only at hLookup
          rw [HashMap.lookup_insert_eq_ite] at hLookup
          split at hLookup
          · next hSame =>
              cases hLookup
              rw [hSame]
              exact hPhase
          · exact hEntries stateId stored hLookup
  | deleteState target =>
      refine ⟨?_, trivial⟩
      intro stateId stored hLookup
      change
        (deleteState target store).2.index.lookup stateId =
          some stored at hLookup
      rw [deleteState_index] at hLookup
      cases hFound : store.index.lookup target with
      | none =>
          rw [hFound] at hLookup
          exact hEntries stateId stored hLookup
      | some found =>
          rw [hFound] at hLookup
          dsimp only at hLookup
          split at hLookup
          · rw [HashMap.lookup_erase_eq_ite] at hLookup
            split at hLookup
            · cases hLookup
            · exact hEntries stateId stored hLookup
          · rw [HashMap.lookup_insert_eq_ite] at hLookup
            split at hLookup
            · next hSame =>
                cases hLookup
                rw [hSame]
                exact hEntries target found hFound
            · exact hEntries stateId stored hLookup

/- Every step keeps all calls to content of their own. -/
theorem systemOwned_step
    (hOwned : SystemOwned used system)
    (position : Nat) :
    SystemOwned used (system.step position) := by
  unfold Concurrent.step
  cases hCall : system.calls[position]? with
  | none => exact hOwned
  | some phase =>
      have hPhase :=
        hOwned.calls phase (List.mem_of_getElem? hCall)
      rcases callOwned_step hOwned.entries hPhase with
        ⟨hEntries, hNext⟩
      refine ⟨hEntries, ?_⟩
      intro other hOther
      rcases List.mem_or_eq_of_mem_set hOther with
        hOld | rfl
      · exact hOwned.calls other hOld
      · exact hNext

/- Entries of different ids do not share content. -/
omit [LawfulBackend B] in
theorem sparesContent_of_sparesAwaiting
    (hHash : Set.InjOn computeHash used)
    (hOwned : SystemOwned used system)
    (hSpares : SparesAwaiting system position) :
    SparesContent system position := by
  intro phase hPhase stateId hDeletes stored hFound hLast
  refine
    ⟨?_, hSpares phase hPhase stateId hDeletes stored
      hFound hLast⟩
  intro other _ hOther entry hEntry hSame
  have hDeleted := hOwned.entries stateId stored hFound
  have hKept := hOwned.entries other entry hEntry
  rw [hSame] at hKept
  exact hOther (hKept.id_unique hHash hDeleted)

/-
  With a hash that is injective on the bytes stored, and
  JSON that decodes, it is enough that deletions spare the
  content of calls on their way to the index.
-/
theorem alongRun_of_sparesAwaiting
    (config : StateStoreConfig)
    (backend : B)
    (calls : List Call)
    (hHash : Set.InjOn computeHash used)
    (hCalls :
      ∀ call ∈ calls, CallOwned used (CallPhase.start call))
    (schedule : List Nat)
    (hSpares :
      Runs.AlongRun Concurrent.step SparesAwaiting
        (Concurrent.new config backend calls) schedule) :
    Runs.AlongRun Concurrent.step SparesContent
      (Concurrent.new config backend calls) schedule := by
  have hStart :
      SystemOwned used
        (Concurrent.new config backend calls) := by
    constructor
    · intro stateId stored hLookup
      simp [Concurrent.new, new] at hLookup
    · intro phase hPhase
      rcases List.mem_map.mp hPhase with ⟨call, hCall, rfl⟩
      exact hCalls call hCall
  have hStep :
      ∀ (system : Concurrent B) position,
        SystemOwned used system →
        SparesAwaiting system position →
          SystemOwned used (system.step position) :=
    fun _ position hOwned _ =>
      systemOwned_step hOwned position
  have hMeets :
      ∀ (system : Concurrent B) position,
        SystemOwned used system →
        SparesAwaiting system position →
          SparesContent system position :=
    fun _ _ hOwned hNext =>
      sparesContent_of_sparesAwaiting hHash hOwned hNext
  exact Runs.alongRun_of_invariant hStep hMeets hStart
    hSpares

end StateStore

end IsaWorkspace

namespace IsaWorkspace

namespace StateStore

open Sample

/- Two states, one of them also deleted. -/
theorem noDangling_sample :
    Runs.Throughout Concurrent.step SettledBacked
      (Concurrent.new ⟨2⟩ MemoryBackend.new
        [.storeState epoch epoch first,
          .storeState epoch epoch second,
          .deleteState first.stateId])
      [0, 1, 0, 1, 2, 0, 1] := by
  apply noDangling_of_sparesContent
  decide +kernel

/-
  A deletion between the put and the index insertion of the
  same content leaves an entry without content.
-/
theorem not_settledBacked_deletedBetween :
    ¬ Runs.Throughout Concurrent.step SettledBacked
      (Concurrent.new ⟨2⟩ MemoryBackend.new
        [.storeState epoch epoch first,
          .storeState epoch epoch first,
          .deleteState first.stateId])
      [0, 0, 0, 1, 2, 1, 1] := by
  decide +kernel

end StateStore

end IsaWorkspace
