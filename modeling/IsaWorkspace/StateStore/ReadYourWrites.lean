import IsaWorkspace.StateStore.Steps

/-
  A state read back is the state last stored.

  A `Session` pairs a store with the history of operations
  and answers that led to it.  `Coupled` ties the three maps
  of the store to that history: objects sit at their own
  address, and every index entry points to a stored object
  that decodes to the state last stored under its id.

  Main declarations:
    * `Session`, `lastStored`
    * `Backed`, `Coupled`
    * `coupled_step`, `coupled_run`
    * `getState_eq_lastStored`
-/

------------------------------------------------------------
-- Sessions
------------------------------------------------------------

namespace IsaWorkspace

/- A store and the history that led to it. -/
structure Session (B : Type) where
  history : List (Op × Reply)
  store : StateStore B

/- The state an event leaves as the last one stored. -/
def recordStored
    (stateId : StateId)
    (last : Option State) :
    Op × Reply → Option State
| (.state (.storeState _ _ state), .stored (.ok _)) =>
    if state.stateId = stateId then some state else last
| _ => last

/- The state last stored successfully under an id. -/
def lastStored
    (stateId : StateId)
    (history : List (Op × Reply)) : Option State :=
  history.foldl (recordStored stateId) none

/- Storing under another id leaves the last state alone. -/
theorem recordStored_of_ne
    {now createdAt : DateTime}
    {state : State}
    {stateId : StateId}
    (hNe : state.stateId ≠ stateId)
    (last : Option State)
    (reply : Reply) :
    recordStored stateId last
        (.state (.storeState now createdAt state), reply) =
      last := by
  cases reply with
  | stored result =>
      cases result <;> simp [recordStored, hNe]
  | done result => rfl
  | state result => rfl
  | address result => rfl
  | page result => rfl

theorem lastStored_concat
    (stateId : StateId)
    (history : List (Op × Reply))
    (event : Op × Reply) :
    lastStored stateId (history ++ [event]) =
      recordStored stateId (lastStored stateId history)
        event := by
  rw [lastStored, List.foldl_append]
  rfl

namespace Session

variable {B : Type} [StorageBackendTrait B]
variable [Sha256] [SerdeJson State] [BuildProfile]

/- Perform an operation and write its answer down. -/
def step
    (session : Session B)
    (op : Op) : Session B where
  history :=
    session.history ++ [(op, (op.exec session.store).1)]
  store := op.step session.store

/- The session of a new store after some operations. -/
def run
    (config : StateStoreConfig)
    (backend : B)
    (ops : List Op) : Session B :=
  Runs.run step ⟨[], StateStore.new config backend⟩ ops

/- The session does to its store what the run does. -/
theorem run_store
    (config : StateStoreConfig)
    (backend : B)
    (ops : List Op) :
    (run config backend ops).store =
      Runs.run Op.step (StateStore.new config backend)
        ops := by
  induction ops using List.reverseRecOn with
  | nil => rfl
  | append_singleton earlier op ih =>
      rw [run, Runs.run_concat, Runs.run_concat, ← ih]
      rfl

end Session

/- The states an operation asks the store to keep. -/
def Op.Stores
    (op : Op)
    (state : State) : Prop :=
  match op with
  | .state (.storeState _ _ newState) => state = newState
  | _ => False

end IsaWorkspace

------------------------------------------------------------
-- Backed Entries
------------------------------------------------------------

namespace IsaWorkspace

namespace StateStore

variable [Sha256] [SerdeJson State]

/-
  An index entry is backed by a state: the state has the
  entry's id, and the object at the entry's address encodes
  it.
-/
structure Backed
    (used : Set Bytes)
    (contents : HashMap String Bytes)
    (stateId : StateId)
    (stored : StoredState)
    (state : State)
    (bytes : Bytes) : Prop where
  owner : state.stateId = stateId
  encodes : SerdeJson.toVec state = .ok bytes
  decodes : SerdeJson.fromSlice bytes = .ok state
  bytesUsed : bytes ∈ used
  address : stored.contentHash = computeHash bytes
  present : contents.lookup stored.contentHash = some bytes

variable {used : Set Bytes}
variable {contents : HashMap String Bytes}
variable {stateId other : StateId}
variable {stored stored' : StoredState}
variable {state state' : State} {bytes bytes' : Bytes}

/- Only the address of an entry matters. -/
theorem Backed.congr
    (hBacked :
      Backed used contents stateId stored state bytes)
    (hAddress :
      stored'.contentHash = stored.contentHash) :
    Backed used contents stateId stored' state bytes :=
  ⟨hBacked.owner, hBacked.encodes, hBacked.decodes,
    hBacked.bytesUsed, hAddress.trans hBacked.address,
    by rw [hAddress]; exact hBacked.present⟩

/-
  A put at its own address leaves every other entry backed,
  since one address stands for one byte string.
-/
theorem Backed.insert
    (hHash : Set.InjOn computeHash used)
    (hBacked :
      Backed used contents stateId stored state bytes)
    {data : Bytes}
    (hData : data ∈ used) :
    Backed used (contents.insert (computeHash data) data)
      stateId stored state bytes := by
  refine
    ⟨hBacked.owner, hBacked.encodes, hBacked.decodes,
      hBacked.bytesUsed, hBacked.address, ?_⟩
  rw [HashMap.lookup_insert_eq_ite]
  split
  · next hSame =>
      have hBytes : data = bytes := by
        apply hHash hData hBacked.bytesUsed
        rw [← hSame, hBacked.address]
      rw [hBytes]
  · exact hBacked.present

/- Entries at one address belong to one id. -/
theorem Backed.id_eq_of_address_eq
    (hHash : Set.InjOn computeHash used)
    (hBacked :
      Backed used contents stateId stored state bytes)
    (hBacked' :
      Backed used contents other stored' state' bytes')
    (hAddress :
      stored.contentHash = stored'.contentHash) :
    stateId = other := by
  have hBytes : bytes = bytes' := by
    apply hHash hBacked.bytesUsed hBacked'.bytesUsed
    rw [← hBacked.address, hAddress, hBacked'.address]
  have hDecoded :
      (Except.ok state : Except String State) =
        .ok state' := by
    rw [← hBacked.decodes, hBytes, hBacked'.decodes]
  cases hDecoded
  exact hBacked.owner.symm.trans hBacked'.owner

/- Deleting another address leaves an entry backed. -/
theorem Backed.erase
    (hBacked :
      Backed used contents stateId stored state bytes)
    {address : ContentAddress}
    (hOther : stored.contentHash ≠ address) :
    Backed used (contents.erase address) stateId stored
      state bytes := by
  refine
    ⟨hBacked.owner, hBacked.encodes, hBacked.decodes,
      hBacked.bytesUsed, hBacked.address, ?_⟩
  rw [HashMap.lookup_erase_eq_ite, if_neg hOther]
  exact hBacked.present

end StateStore

end IsaWorkspace

------------------------------------------------------------
-- The Coupling Invariant
------------------------------------------------------------

namespace IsaWorkspace

namespace StateStore

variable {B : Type} [LawfulBackend B]
variable [Sha256] [SerdeJson State]

/- An object at its own address among the bytes used. -/
def Addressed
    (used : Set Bytes)
    (key : ContentAddress)
    (data : Bytes) : Prop :=
  key = computeHash data ∧ data ∈ used

/- Every entry is backed by the state last stored. -/
def Indexed
    (used : Set Bytes)
    (history : List (Op × Reply))
    (index : HashMap StateId StoredState)
    (contents : HashMap String Bytes) : Prop :=
  ∀ stateId stored,
    index.lookup stateId = some stored →
      ∃ state bytes,
        lastStored stateId history = some state ∧
          Backed used contents stateId stored state bytes

/- The three maps of a store agree with its history. -/
structure Coupled
    (used : Set Bytes)
    (session : Session B) : Prop where
  objects : Holds (Addressed used) session.store
  entries :
    Indexed used session.history session.store.index
      (LawfulBackend.contents session.store.backend)

/- An operation stays within the bytes used. -/
structure Within
    (used : Set Bytes)
    (op : Op) : Prop where
  puts :
    ∀ key data, op.Puts key data → Addressed used key data
  roundTrip :
    ∀ state bytes, op.Stores state →
      SerdeJson.toVec state = .ok bytes →
        SerdeJson.fromSlice bytes = .ok state

variable {used : Set Bytes}
variable {history : List (Op × Reply)}
variable {index : HashMap StateId StoredState}
variable {contents : HashMap String Bytes}

/- An event that stores nothing keeps the last states. -/
omit [LawfulBackend B] in
theorem Indexed.event
    (hIndexed : Indexed used history index contents)
    {event : Op × Reply}
    (hEvent :
      ∀ stateId last,
        recordStored stateId last event = last) :
    Indexed used (history ++ [event]) index contents := by
  intro stateId stored hLookup
  rcases hIndexed stateId stored hLookup with
    ⟨state, bytes, hLast, hBacked⟩
  refine ⟨state, bytes, ?_, hBacked⟩
  rw [lastStored_concat, hEvent, hLast]

/- A put at its own address keeps every entry backed. -/
omit [LawfulBackend B] in
theorem Indexed.put
    (hHash : Set.InjOn computeHash used)
    (hIndexed : Indexed used history index contents)
    {key : ContentAddress}
    {data : Bytes}
    (hData : Addressed used key data) :
    Indexed used history index
      (contents.insert key data) := by
  rcases hData with ⟨rfl, hUsed⟩
  intro stateId stored hLookup
  rcases hIndexed stateId stored hLookup with
    ⟨state, bytes, hLast, hBacked⟩
  exact ⟨state, bytes, hLast, hBacked.insert hHash hUsed⟩

/- Rewriting an entry at the same address keeps it backed. -/
omit [LawfulBackend B] in
theorem Indexed.rewrite
    (hIndexed : Indexed used history index contents)
    {stateId : StateId}
    {stored stored' : StoredState}
    (hLookup : index.lookup stateId = some stored)
    (hAddress :
      stored'.contentHash = stored.contentHash) :
    Indexed used history (index.insert stateId stored')
      contents := by
  intro other entry hOther
  rw [HashMap.lookup_insert_eq_ite] at hOther
  split at hOther
  · next hSame =>
      cases hOther
      rcases hIndexed stateId stored hLookup with
        ⟨state, bytes, hLast, hBacked⟩
      rw [hSame]
      exact
        ⟨state, bytes, hLast, hBacked.congr hAddress⟩
  · exact hIndexed other entry hOther

/- Counting references keeps every entry backed. -/
theorem Indexed.recounted
    {before after : StateStore B}
    (hIndexed :
      Indexed used history before.index
        (LawfulBackend.contents before.backend))
    (hCount : Recounted before after) :
    Indexed used history after.index
      (LawfulBackend.contents after.backend) := by
  rcases hCount with rfl | ⟨_, _, _, hFound, rfl⟩
  · exact hIndexed
  · exact hIndexed.rewrite hFound rfl

/- Forgetting an entry keeps the others backed. -/
omit [LawfulBackend B] in
theorem Indexed.forget
    (hIndexed : Indexed used history index contents)
    (stateId : StateId) :
    Indexed used history (index.erase stateId)
      contents := by
  intro other entry hOther
  rw [HashMap.lookup_erase_eq_ite] at hOther
  split at hOther
  · cases hOther
  · exact hIndexed other entry hOther

/-
  Deleting the object of a forgotten entry keeps the others
  backed: no other id has content at that address.
-/
omit [LawfulBackend B] in
theorem Indexed.delete
    (hHash : Set.InjOn computeHash used)
    (hIndexed : Indexed used history index contents)
    {stateId : StateId}
    {stored : StoredState}
    (hLookup : index.lookup stateId = some stored) :
    Indexed used history (index.erase stateId)
      (contents.erase stored.contentHash) := by
  intro other entry hOther
  rw [HashMap.lookup_erase_eq_ite] at hOther
  split at hOther
  · cases hOther
  · next hNe =>
      rcases hIndexed stateId stored hLookup with
        ⟨_, _, _, hDeleted⟩
      rcases hIndexed other entry hOther with
        ⟨state, bytes, hLast, hBacked⟩
      refine ⟨state, bytes, hLast, hBacked.erase ?_⟩
      intro hAddress
      exact hNe
        (hBacked.id_eq_of_address_eq hHash hDeleted
          hAddress)

/- A stored state is backed by the object just put. -/
omit [LawfulBackend B] in
theorem Indexed.store
    (hIndexed : Indexed used history index contents)
    {now createdAt : DateTime}
    {state : State}
    {stored : StoredState}
    {bytes : Bytes}
    (hEntry :
      Backed used contents state.stateId stored state
        bytes) :
    Indexed used
      (history ++
        [(.state (.storeState now createdAt state),
          .stored (.ok stored))])
      (index.insert state.stateId stored) contents := by
  intro other entry hOther
  rw [HashMap.lookup_insert_eq_ite] at hOther
  rw [lastStored_concat]
  split at hOther
  · next hSame =>
      cases hOther
      refine ⟨state, bytes, ?_, ?_⟩
      · simp [recordStored, hSame]
      · rw [hSame]
        exact hEntry
  · next hNe =>
      rcases hIndexed other entry hOther with
        ⟨last, lastBytes, hLast, hBacked⟩
      refine ⟨last, lastBytes, ?_, hBacked⟩
      simp [recordStored, Ne.symm hNe, hLast]

/- Storing a state keeps the index tied to the history. -/
private theorem indexed_storeState
    (hHash : Set.InjOn computeHash used)
    (now createdAt : DateTime)
    (newState : State)
    {store : StateStore B}
    (hWithin :
      Within used
        (.state (.storeState now createdAt newState)))
    (hIndexed :
      Indexed used history store.index
        (LawfulBackend.contents store.backend)) :
    let result := storeState now createdAt newState store
    Indexed used
      (history ++
        [(.state (.storeState now createdAt newState),
          .stored result.1)])
      result.2.index
      (LawfulBackend.contents result.2.backend) := by
  intro result
  have hResult : result =
      storeState now createdAt newState store := rfl
  clear_value result
  rw [storeState_eq] at hResult
  cases hJson : SerdeJson.toVec newState with
  | error message =>
      simp only [hJson] at hResult
      subst hResult
      exact hIndexed.event fun _ _ => rfl
  | ok bytes =>
      have hData :
          Addressed used (computeHash bytes) bytes :=
        hWithin.puts _ _ ⟨hJson, rfl⟩
      simp only [hJson] at hResult
      rcases hPut :
          StorageBackendTrait.put (computeHash bytes) bytes
            store.backend with
        ⟨outcome, backend⟩
      simp only [hPut] at hResult
      cases outcome with
      | err error =>
          have hSame :=
            LawfulBackend.contents_of_put_failed hPut
              (by simp)
          subst hResult
          dsimp only
          rw [hSame]
          exact hIndexed.event fun _ _ => rfl
      | panicked =>
          have hSame :=
            LawfulBackend.contents_of_put_failed hPut
              (by simp)
          subst hResult
          dsimp only
          rw [hSame]
          exact hIndexed.event fun _ _ => rfl
      | ok _ =>
          have hAdded :=
            LawfulBackend.contents_of_put_ok hPut
          have hOld := hIndexed.put hHash hData
          cases hExpires :
              expiresAt now
                newState.metadata.ttlSeconds with
          | none =>
              simp only [hExpires] at hResult
              subst hResult
              dsimp only
              rw [hAdded]
              exact hOld.event fun _ _ => rfl
          | some expiration =>
              simp only [hExpires] at hResult
              subst hResult
              simp only [cached_index, cached_backend]
              rw [hAdded]
              apply hOld.store
              exact
                ⟨rfl, hJson,
                  hWithin.roundTrip newState bytes rfl
                    hJson,
                  hData.2, rfl, by simp [newEntry]⟩

/- Deleting a state keeps the index tied to the history. -/
private theorem indexed_deleteState
    (hHash : Set.InjOn computeHash used)
    (stateId : StateId)
    {store : StateStore B}
    (hIndexed :
      Indexed used history store.index
        (LawfulBackend.contents store.backend)) :
    Indexed used history
      (deleteState stateId store).2.index
      (LawfulBackend.contents
        (deleteState stateId store).2.backend) := by
  rw [deleteState_eq]
  cases hLookup : store.index.lookup stateId with
  | none => exact hIndexed
  | some stored =>
      dsimp only
      by_cases hCount : stored.refCount ≤ 1
      · simp only [hCount, if_true]
        rcases hDelete :
            StorageBackendTrait.delete stored.contentHash
              store.backend with
          ⟨outcome, backend⟩
        cases outcome with
        | ok _ =>
            dsimp only
            rw [LawfulBackend.contents_of_delete_ok hDelete]
            exact hIndexed.delete hHash hLookup
        | err error =>
            dsimp only
            rw [LawfulBackend.contents_of_delete_failed
              hDelete (by simp)]
            exact hIndexed.forget stateId
        | panicked =>
            dsimp only
            rw [LawfulBackend.contents_of_delete_failed
              hDelete (by simp)]
            exact hIndexed.forget stateId
      · simp only [hCount, if_false]
        exact hIndexed.rewrite hLookup rfl

variable [BuildProfile]

/- Every operation keeps a store coupled to its history. -/
theorem coupled_step
    (hHash : Set.InjOn computeHash used)
    {session : Session B}
    {op : Op}
    (hWithin : Within used op)
    (hCoupled : Coupled used session) :
    Coupled used (session.step op) := by
  have hObjects : Holds (Addressed used) (op.step session.store) :=
    holds_step op hCoupled.objects fun key data hPuts _ =>
      hWithin.puts key data hPuts
  refine ⟨hObjects, ?_⟩
  have hIndexed := hCoupled.entries
  cases op with
  | state op =>
      cases op with
      | storeState now createdAt newState =>
          exact
            indexed_storeState hHash now createdAt newState
              hWithin hIndexed
      | incrementRef stateId =>
          apply Indexed.event ?_ fun _ _ => rfl
          exact hIndexed.recounted
            (incrementRef_recounted stateId session.store)
      | decrementRef stateId =>
          apply Indexed.event ?_ fun _ _ => rfl
          exact hIndexed.recounted
            (decrementRef_recounted stateId session.store)
      | deleteState stateId =>
          apply Indexed.event ?_ fun _ _ => rfl
          exact indexed_deleteState hHash stateId hIndexed
  | getState stateId =>
      apply Indexed.event ?_ fun _ _ => rfl
      simp only [Session.step, Op.step, Op.exec]
      rw [getState_store]
      split
      · exact hIndexed
      · simpa using hIndexed
  | storePage page =>
      apply Indexed.event ?_ fun _ _ => rfl
      have hData :
          Addressed used page.pageHash page.data :=
        hWithin.puts _ _ ⟨rfl, rfl⟩
      simp only [Session.step, Op.step, Op.exec]
      rw [storePage_eq]
      rcases hPut :
          StorageBackendTrait.put page.pageHash page.data
            session.store.backend with
        ⟨outcome, backend⟩
      cases outcome with
      | ok _ =>
          simp only [cached_index, cached_backend]
          rw [LawfulBackend.contents_of_put_ok hPut]
          exact hIndexed.put hHash hData
      | err error =>
          dsimp only
          rw [LawfulBackend.contents_of_put_failed hPut
            (by simp)]
          exact hIndexed
      | panicked =>
          dsimp only
          rw [LawfulBackend.contents_of_put_failed hPut
            (by simp)]
          exact hIndexed
  | getPage contentHash =>
      apply Indexed.event ?_ fun _ _ => rfl
      simp only [Session.step, Op.step, Op.exec, getPage]
      simpa using hIndexed

omit [BuildProfile] in
/- A new store is coupled to the empty history. -/
theorem coupled_new
    (config : StateStoreConfig)
    {backend : B}
    (hEmpty : LawfulBackend.contents backend = ∅) :
    Coupled used (⟨[], new config backend⟩ : Session B) := by
  refine ⟨holds_new config hEmpty, ?_⟩
  intro stateId stored hLookup
  simp [new] at hLookup

/- Every run from a new store is coupled to its history. -/
theorem coupled_run
    (hHash : Set.InjOn computeHash used)
    (config : StateStoreConfig)
    {backend : B}
    (hEmpty : LawfulBackend.contents backend = ∅)
    {ops : List Op}
    (hWithin : ∀ op ∈ ops, Within used op) :
    Coupled used (Session.run config backend ops) := by
  have hStart : Coupled used ⟨[], new config backend⟩ :=
    coupled_new config hEmpty
  have hAlong :
      Runs.AlongRun Session.step
        (fun _ op => Within used op)
        ⟨[], new config backend⟩ ops :=
    Runs.alongRun_of_forall_mem fun op hOp _ =>
      hWithin op hOp
  have hKeeps :
      ∀ (session : Session B) op, Coupled used session →
        Within used op →
          Coupled used (Session.step session op) :=
    fun _ _ hCoupled hOp => coupled_step hHash hOp hCoupled
  exact
    (Runs.throughout_of_alongRun hKeeps hStart hAlong).last

end StateStore

end IsaWorkspace

------------------------------------------------------------
-- Reading Back
------------------------------------------------------------

namespace IsaWorkspace

variable [Sha256] [SerdeJson State]

/- The bytes a list of operations hands to the backend. -/
def BytesUsed
    (ops : List Op) : Set Bytes :=
  { data | ∃ op ∈ ops, ∃ key, op.Puts key data }

/- JSON of every state stored decodes to that state. -/
def RoundTrips
    (ops : List Op) : Prop :=
  ∀ op ∈ ops, ∀ state bytes, op.Stores state →
    SerdeJson.toVec state = .ok bytes →
      SerdeJson.fromSlice bytes = .ok state

/- Every page stored carries the hash of its data. -/
omit [SerdeJson State] in
def PagesAddressed
    (ops : List Op) : Prop :=
  ∀ page, .storePage page ∈ ops →
    page.pageHash = computeHash page.data

/- Storing or deleting a state of the given id. -/
omit [Sha256] [SerdeJson State] in
def Op.Overwrites
    (op : Op)
    (stateId : StateId) : Prop :=
  match op with
  | .state (.storeState _ _ newState) =>
      newState.stateId = stateId
  | .state (.deleteState deleted) => deleted = stateId
  | _ => False

namespace StateStore

/- The operations of a run stay within the bytes it uses. -/
theorem within_bytesUsed
    {ops : List Op}
    (hJson : RoundTrips ops)
    (hPages : PagesAddressed ops)
    {op : Op}
    (hOp : op ∈ ops) :
    Within (BytesUsed ops) op := by
  refine ⟨?_, hJson op hOp⟩
  intro key data hPuts
  refine ⟨?_, op, hOp, key, hPuts⟩
  cases op with
  | state op =>
      cases op with
      | storeState now createdAt newState => exact hPuts.2
      | incrementRef stateId => exact hPuts.elim
      | decrementRef stateId => exact hPuts.elim
      | deleteState stateId => exact hPuts.elim
  | getState stateId => exact hPuts.elim
  | storePage page =>
      rw [hPuts.1, hPuts.2]
      exact hPages page hOp
  | getPage contentHash => exact hPuts.elim

/- A cached object of an entry is the entry's own content. -/
theorem cached_eq_of_coupled
    {used : Set Bytes}
    (hHash : Set.InjOn computeHash used)
    {B : Type} [LawfulBackend B]
    {session : Session B}
    (hCoupled : Coupled used session)
    {stateId : StateId}
    {stored : StoredState}
    {state : State}
    {bytes content : Bytes}
    (hBacked :
      Backed used
        (LawfulBackend.contents session.store.backend)
        stateId stored state bytes)
    (hContent :
      session.store.pageCache.lookup stored.contentHash =
        some content) :
    content = bytes := by
  have hAddressed :=
    hCoupled.objects.cache _ _ hContent
  apply hHash hAddressed.2 hBacked.bytesUsed
  rw [← hAddressed.1, hBacked.address]

/- An indexed id reads back the state that backs it. -/
theorem getState_of_backed
    {used : Set Bytes}
    (hHash : Set.InjOn computeHash used)
    {session : Session MemoryBackend}
    (hCoupled : Coupled used session)
    {stateId : StateId}
    {stored : StoredState}
    {state : State}
    {bytes : Bytes}
    (hLookup :
      session.store.index.lookup stateId = some stored)
    (hBacked :
      Backed used session.store.backend.store stateId stored
        state bytes) :
    (getState stateId session.store).1 = .ok state := by
  rw [getState_eq, hLookup]
  dsimp only
  rw [fetchContent_eq]
  cases hCache :
      session.store.pageCache.lookup stored.contentHash with
  | some content =>
      have hContent : content = bytes :=
        cached_eq_of_coupled hHash hCoupled hBacked hCache
      dsimp only
      rw [hContent, hBacked.decodes]
  | none =>
      dsimp only
      rw [MemoryBackend.get_apply, hBacked.present]
      dsimp only
      rw [hBacked.decodes]

/-
  An id reads alike in two stores that have the same entry
  and the same last state for it.
-/
theorem getState_eq_of_frame
    {used : Set Bytes}
    (hHash : Set.InjOn computeHash used)
    {before after : Session MemoryBackend}
    (hBefore : Coupled used before)
    (hAfter : Coupled used after)
    {stateId : StateId}
    (hLookup :
      after.store.index.lookup stateId =
        before.store.index.lookup stateId)
    (hLast :
      lastStored stateId after.history =
        lastStored stateId before.history) :
    (getState stateId after.store).1 =
      (getState stateId before.store).1 := by
  cases hEntry : before.store.index.lookup stateId with
  | none =>
      rw [getState_of_lookup_none hEntry,
        getState_of_lookup_none (hLookup.trans hEntry)]
  | some stored =>
      have hEntry' := hLookup.trans hEntry
      rcases hBefore.entries stateId stored hEntry with
        ⟨state, bytes, hState, hBacked⟩
      rcases hAfter.entries stateId stored hEntry' with
        ⟨state', bytes', hState', hBacked'⟩
      have hSame : state' = state := by
        rw [hLast, hState] at hState'
        exact (Option.some.inj hState').symm
      rw [getState_of_backed hHash hBefore hEntry hBacked,
        getState_of_backed hHash hAfter hEntry' hBacked',
        hSame]

variable [BuildProfile]

/-
  An operation on another id leaves the entry and the last
  state of an id alone.
-/
theorem frame_of_overwrites_other
    {B : Type} [StorageBackendTrait B]
    (session : Session B)
    {op : Op}
    {other stateId : StateId}
    (hOp : op.Overwrites other)
    (hNe : other ≠ stateId) :
    (session.step op).store.index.lookup stateId =
        session.store.index.lookup stateId ∧
      lastStored stateId (session.step op).history =
        lastStored stateId session.history := by
  have hNe' : stateId ≠ other := Ne.symm hNe
  cases op with
  | state op =>
      cases op with
      | storeState now createdAt newState =>
          have hId : newState.stateId = other := hOp
          subst hId
          constructor
          · simp only [Session.step, Op.step, Op.exec,
              StateOp.exec]
            rw [storeState_eq]
            split
            · rfl
            · split
              · rfl
              · rfl
              · split
                · rfl
                · simp [hNe']
          · simp only [Session.step, lastStored_concat]
            exact recordStored_of_ne hNe _ _
      | incrementRef _ => exact hOp.elim
      | decrementRef _ => exact hOp.elim
      | deleteState deleted =>
          have hId : deleted = other := hOp
          subst hId
          constructor
          · simp only [Session.step, Op.step, Op.exec,
              StateOp.exec]
            rw [deleteState_eq]
            split
            · rfl
            · split
              · split <;> simp [hNe']
              · simp [hNe']
          · simp only [Session.step, lastStored_concat]
            rfl
  | getState _ => exact hOp.elim
  | storePage _ => exact hOp.elim
  | getPage _ => exact hOp.elim

/-
  Read your writes.  After any run on a new memory-backed
  store, an indexed id reads back the state last stored under
  it and any other id is not found; a cached object of an
  indexed id encodes that state; and storing or deleting one
  id does not change what another id reads.
-/
theorem getState_eq_lastStored
    (config : StateStoreConfig)
    (ops : List Op)
    (hHash : Set.InjOn computeHash (BytesUsed ops))
    (hJson : RoundTrips ops)
    (hPages : PagesAddressed ops) :
    (∀ stateId,
      let session :=
        Session.run config MemoryBackend.new ops
      (stateId ∈ session.store.index →
        ∃ state,
          lastStored stateId session.history =
              some state ∧
            (getState stateId session.store).1 =
              .ok state) ∧
      (stateId ∉ session.store.index →
        (getState stateId session.store).1 =
          .err (stateNotFound stateId))) ∧
    (∀ stateId stored state content,
      let session :=
        Session.run config MemoryBackend.new ops
      session.store.index.lookup stateId = some stored →
      lastStored stateId session.history = some state →
      session.store.pageCache.lookup stored.contentHash =
        some content →
      SerdeJson.toVec state = .ok content) ∧
    (∀ earlier op later other stateId,
      ops = earlier ++ op :: later →
      op.Overwrites other → other ≠ stateId →
      (getState stateId
          (Session.run config MemoryBackend.new
            (earlier ++ [op])).store).1 =
        (getState stateId
          (Session.run config MemoryBackend.new
            earlier).store).1) := by
  have hReach :
      ∀ earlier, (∀ op ∈ earlier, op ∈ ops) →
        Coupled (BytesUsed ops)
          (Session.run config MemoryBackend.new
            earlier) := by
    intro earlier hSubset
    apply coupled_run hHash config rfl
    intro op hOp
    exact within_bytesUsed hJson hPages (hSubset op hOp)
  have hAll := hReach ops fun _ hOp => hOp
  refine ⟨?_, ?_, ?_⟩
  · intro stateId session
    constructor
    · intro hIndexed
      rcases Finmap.mem_iff.mp hIndexed with
        ⟨stored, hLookup⟩
      rcases hAll.entries stateId stored hLookup with
        ⟨state, bytes, hLast, hBacked⟩
      exact
        ⟨state, hLast,
          getState_of_backed hHash hAll hLookup hBacked⟩
    · intro hAbsent
      exact
        getState_of_lookup_none
          (Finmap.lookup_eq_none.mpr hAbsent)
  · intro stateId stored state content session hLookup
      hLast hContent
    rcases hAll.entries stateId stored hLookup with
      ⟨state', bytes, hLast', hBacked⟩
    have hState : state' = state :=
      Option.some.inj (hLast'.symm.trans hLast)
    rw [← hState,
      cached_eq_of_coupled hHash hAll hBacked hContent]
    exact hBacked.encodes
  · intro earlier op later other stateId hSplit hOp hNe
    have hSubset : ∀ op' ∈ earlier ++ [op], op' ∈ ops := by
      intro op' hOp'
      rw [hSplit, List.append_cons]
      exact List.mem_append_left later hOp'
    have hAfter := hReach (earlier ++ [op]) hSubset
    have hBefore :=
      hReach earlier fun op' hOp' =>
        hSubset op' (List.mem_append_left [op] hOp')
    have hStep :
        Session.run config MemoryBackend.new
            (earlier ++ [op]) =
          (Session.run config MemoryBackend.new
            earlier).step op :=
      Runs.run_concat _ _ _
    have hFrame :=
      frame_of_overwrites_other
        (Session.run config MemoryBackend.new earlier)
        hOp hNe
    rw [← hStep] at hFrame
    exact
      getState_eq_of_frame hHash hBefore hAfter hFrame.1
        hFrame.2

end StateStore

end IsaWorkspace

namespace IsaWorkspace

namespace StateStore

open Sample

/- Storing, overwriting, deleting and reading two ids. -/
private def readBackOps : List Op :=
  [.state (.storeState epoch epoch first),
    .state (.storeState epoch epoch second),
    .storePage page,
    .state (.storeState epoch epoch revised),
    .state (.deleteState second.stateId)]

theorem getState_eq_lastStored_sample :
    ∃ state,
      lastStored first.stateId
          (Session.run ⟨2⟩ MemoryBackend.new
            readBackOps).history = some state ∧
        (getState first.stateId
          (Session.run ⟨2⟩ MemoryBackend.new
            readBackOps).store).1 = .ok state := by
  have hUsed :
      BytesUsed readBackOps ⊆
        {firstJson, secondJson, revisedJson, []} := by
    rintro data ⟨op, hOp, key, hPuts⟩
    simp only [readBackOps, List.mem_cons,
      List.not_mem_nil, or_false] at hOp
    rcases hOp with rfl | rfl | rfl | rfl | rfl
    · have hData : firstJson = data :=
        Except.ok.inj (toVec_first.symm.trans hPuts.1)
      simp [← hData]
    · have hData : secondJson = data :=
        Except.ok.inj (toVec_second.symm.trans hPuts.1)
      simp [← hData]
    · have hData : data = [] := hPuts.2
      simp [hData]
    · have hData : revisedJson = data :=
        Except.ok.inj (toVec_revised.symm.trans hPuts.1)
      simp [← hData]
    · exact hPuts.elim
  have hJson : RoundTrips readBackOps := by
    intro op hOp state bytes hStores hBytes
    apply roundTrip ?_ hBytes
    simp only [readBackOps, List.mem_cons,
      List.not_mem_nil, or_false] at hOp
    rcases hOp with rfl | rfl | rfl | rfl | rfl
    · exact Or.inl hStores
    · exact Or.inr (Or.inl hStores)
    · exact hStores.elim
    · exact Or.inr (Or.inr hStores)
    · exact hStores.elim
  have hPages : PagesAddressed readBackOps := by
    intro other hOther
    simp only [readBackOps, List.mem_cons,
      List.not_mem_nil, or_false] at hOther
    simp only [reduceCtorEq, false_or, or_false,
      Op.storePage.injEq] at hOther
    subst hOther
    decide +kernel
  exact
    ((getState_eq_lastStored ⟨2⟩ readBackOps
      (hash_injOn.mono hUsed) hJson hPages).1
      first.stateId).1 (by decide +kernel)

end StateStore

end IsaWorkspace
