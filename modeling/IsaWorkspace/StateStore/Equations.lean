import IsaWorkspace.StateStore.Operations

/-
  What each operation of the state store computes.

  Every equation resolves an operation into the outcomes of
  the calls it depends on: the codec, the backend, and the
  lookups in the index and the cache.  Later proofs rewrite
  with these equations instead of unfolding an operation.

  Main declarations:
    * `fetchContent_eq`
    * `storeState_eq`, `getState_eq`, `deleteState_eq`
    * `incrementRef_eq`, `decrementRef_eq`
    * `Recounted`
    * `storePage_eq`, `gcRemove_eq`
-/

------------------------------------------------------------
-- Cache Attempts
------------------------------------------------------------

namespace IsaWorkspace

namespace StateStore

variable {B : Type}

@[simp] theorem cached_config
    (contentHash : ContentAddress)
    (content : Bytes)
    (store : StateStore B) :
    (store.cached contentHash content).config =
      store.config := by
  unfold cached
  split <;> rfl

@[simp] theorem cached_index
    (contentHash : ContentAddress)
    (content : Bytes)
    (store : StateStore B) :
    (store.cached contentHash content).index =
      store.index := by
  unfold cached
  split <;> rfl

@[simp] theorem cached_backend
    (contentHash : ContentAddress)
    (content : Bytes)
    (store : StateStore B) :
    (store.cached contentHash content).backend =
      store.backend := by
  unfold cached
  split <;> rfl

theorem cached_pageCache
    (contentHash : ContentAddress)
    (content : Bytes)
    (store : StateStore B) :
    (store.cached contentHash content).pageCache =
      if store.pageCache.len <
          store.config.cacheSizeLimit then
        store.pageCache.insert contentHash content
      else
        store.pageCache := by
  unfold cached
  split <;> rfl

/- A cached object is an old one or the one just offered. -/
theorem lookup_cached
    {contentHash key : ContentAddress}
    {content data : Bytes}
    {store : StateStore B}
    (hLookup :
      (store.cached contentHash content).pageCache.lookup
        key = some data) :
    store.pageCache.lookup key = some data ∨
      (key = contentHash ∧ data = content) := by
  rw [cached_pageCache] at hLookup
  split at hLookup
  · rw [HashMap.lookup_insert_eq_ite] at hLookup
    split at hLookup
    · next hKey =>
        exact Or.inr ⟨hKey, (Option.some.inj hLookup).symm⟩
    · exact Or.inl hLookup
  · exact Or.inl hLookup

theorem cacheContent_apply
    (contentHash : ContentAddress)
    (content : Bytes)
    (store : StateStore B) :
    cacheContent contentHash content store =
      (.ok (), store.cached contentHash content) := rfl

theorem onBackend_apply
    {α : Type}
    (call : Exec B StateStoreError α)
    (store : StateStore B) :
    onBackend call store =
      ((call store.backend).1,
        { store with backend := (call store.backend).2 }) :=
  rfl

/- A backend call in terms of its outcome. -/
theorem onBackend_of_eq
    {α : Type}
    {call : Exec B StateStoreError α}
    (store : StateStore B)
    {outcome : Outcome StateStoreError α}
    {backend : B}
    (hCall : call store.backend = (outcome, backend)) :
    onBackend call store =
      (outcome, { store with backend := backend }) := by
  rw [onBackend_apply, hCall]

end StateStore

end IsaWorkspace

------------------------------------------------------------
-- Reading Content
------------------------------------------------------------

namespace IsaWorkspace

namespace StateStore

variable {B : Type} [StorageBackendTrait B]

/- A hit reads the cache; a miss reads the backend. -/
theorem fetchContent_eq
    (contentHash : ContentAddress)
    (store : StateStore B) :
    fetchContent contentHash store =
      match store.pageCache.lookup contentHash with
      | some content => (.ok content, store)
      | none =>
          match StorageBackendTrait.get contentHash
              store.backend with
          | (.ok content, backend) =>
              (.ok content,
                { store with backend := backend }.cached
                  contentHash content)
          | (.err error, backend) =>
              (.err error,
                { store with backend := backend })
          | (.panicked, backend) =>
              (.panicked,
                { store with backend := backend }) := by
  unfold fetchContent
  rw [Exec.read_bind_apply]
  cases hCache : store.pageCache.lookup contentHash with
  | some content => rfl
  | none =>
      rcases hGet :
          StorageBackendTrait.get contentHash
            store.backend with
        ⟨outcome, backend⟩
      have hCall := onBackend_of_eq store hGet
      cases outcome with
      | ok content =>
          exact (Exec.bind_of_ok hCall).trans rfl
      | err error => exact Exec.bind_of_err hCall
      | panicked => exact Exec.bind_of_panicked hCall

@[simp] theorem fetchContent_index
    (contentHash : ContentAddress)
    (store : StateStore B) :
    (fetchContent contentHash store).2.index =
      store.index := by
  rw [fetchContent_eq]
  split
  · rfl
  · split <;> simp

/- Retrieving a state decodes the content it fetches. -/
theorem getState_eq
    [SerdeJson State]
    (stateId : StateId)
    (store : StateStore B) :
    getState stateId store =
      match store.index.lookup stateId with
      | none => (.err (stateNotFound stateId), store)
      | some stored =>
          match fetchContent stored.contentHash store with
          | (.ok content, store') =>
              match SerdeJson.fromSlice content with
              | .ok state => (.ok state, store')
              | .error message =>
                  (.err
                    (.serializationError
                      ("Failed to deserialize: " ++
                        message)),
                    store')
          | (.err error, store') => (.err error, store')
          | (.panicked, store') => (.panicked, store') := by
  unfold getState
  rw [Exec.read_bind_apply]
  cases hIndex : store.index.lookup stateId with
  | none => rfl
  | some stored =>
      dsimp only
      rcases hFetch :
          fetchContent stored.contentHash store with
        ⟨outcome, store'⟩
      cases outcome with
      | ok content =>
          refine (Exec.bind_of_ok hFetch).trans ?_
          dsimp only
          cases
              (SerdeJson.fromSlice content :
                Except String State) <;>
            rfl
      | err error => exact Exec.bind_of_err hFetch
      | panicked => exact Exec.bind_of_panicked hFetch

/- An id outside the index is not found. -/
theorem getState_of_lookup_none
    [SerdeJson State]
    {store : StateStore B}
    {stateId : StateId}
    (hLookup : store.index.lookup stateId = none) :
    (getState stateId store).1 =
      .err (stateNotFound stateId) := by
  rw [getState_eq, hLookup]

/- Retrieving a state changes what fetching changes. -/
theorem getState_store
    [SerdeJson State]
    (stateId : StateId)
    (store : StateStore B) :
    (getState stateId store).2 =
      match store.index.lookup stateId with
      | none => store
      | some stored =>
          (fetchContent stored.contentHash store).2 := by
  rw [getState_eq]
  cases store.index.lookup stateId with
  | none => rfl
  | some stored =>
      rcases hFetch :
          fetchContent stored.contentHash store with
        ⟨outcome, store'⟩
      cases outcome with
      | ok content =>
          simp only [hFetch]
          split <;> rfl
      | err error => simp only [hFetch]
      | panicked => simp only [hFetch]

end StateStore

end IsaWorkspace

------------------------------------------------------------
-- Storing
------------------------------------------------------------

namespace IsaWorkspace

namespace StateStore

variable {B : Type} [StorageBackendTrait B]
variable [Sha256] [SerdeJson State]

/-
  Putting a state fails with the codec or with the backend,
  and otherwise returns its address and bytes.
-/
theorem putState_eq
    (state : State)
    (store : StateStore B) :
    putState state store =
      match SerdeJson.toVec state with
      | .error message =>
          (.err
            (.serializationError
              ("Failed to serialize: " ++ message)),
            store)
      | .ok bytes =>
          match StorageBackendTrait.put (computeHash bytes)
              bytes store.backend with
          | (.ok _, backend) =>
              (.ok (computeHash bytes, bytes),
                { store with backend := backend })
          | (.err error, backend) =>
              (.err error,
                { store with backend := backend })
          | (.panicked, backend) =>
              (.panicked,
                { store with backend := backend }) := by
  unfold putState
  cases hJson : SerdeJson.toVec state with
  | error message => rfl
  | ok bytes =>
      rw [Exec.ofExcept_ok, Exec.pure_bind_apply]
      dsimp only
      rcases hPut :
          StorageBackendTrait.put (computeHash bytes) bytes
            store.backend with
        ⟨outcome, backend⟩
      have hCall := onBackend_of_eq store hPut
      cases outcome with
      | ok _ => exact (Exec.bind_of_ok hCall).trans rfl
      | err error => exact Exec.bind_of_err hCall
      | panicked => exact Exec.bind_of_panicked hCall

/- Indexing a state fails only on its expiration date. -/
omit [StorageBackendTrait B] [Sha256] [SerdeJson State] in
theorem indexState_eq
    (now createdAt : DateTime)
    (state : State)
    (contentHash : ContentAddress)
    (stateBytes : Bytes)
    (store : StateStore B) :
    indexState now createdAt state contentHash stateBytes
        store =
      match expiresAt now state.metadata.ttlSeconds with
      | none => (.panicked, store)
      | some expiration =>
          (.ok
            (newEntry createdAt expiration state contentHash
              stateBytes),
            { store with
              index :=
                store.index.insert state.stateId
                  (newEntry createdAt expiration state
                    contentHash stateBytes) }) := by
  unfold indexState
  cases expiresAt now state.metadata.ttlSeconds <;> rfl

/-
  Storing a state puts its content, then enters it into the
  index, then offers the content to the cache.
-/
theorem storeState_eq
    (now createdAt : DateTime)
    (state : State)
    (store : StateStore B) :
    storeState now createdAt state store =
      match SerdeJson.toVec state with
      | .error message =>
          (.err
            (.serializationError
              ("Failed to serialize: " ++ message)),
            store)
      | .ok bytes =>
          match StorageBackendTrait.put (computeHash bytes)
              bytes store.backend with
          | (.err error, backend) =>
              (.err error,
                { store with backend := backend })
          | (.panicked, backend) =>
              (.panicked,
                { store with backend := backend })
          | (.ok _, backend) =>
              match expiresAt now
                  state.metadata.ttlSeconds with
              | none =>
                  (.panicked,
                    { store with backend := backend })
              | some expiration =>
                  (.ok
                    (newEntry createdAt expiration state
                      (computeHash bytes) bytes),
                    { store with
                      backend := backend
                      index :=
                        store.index.insert state.stateId
                          (newEntry createdAt expiration
                            state (computeHash bytes)
                            bytes) }.cached
                      (computeHash bytes) bytes) := by
  have hPutState := putState_eq state store
  unfold storeState
  cases hJson : SerdeJson.toVec state with
  | error message =>
      simp only [hJson] at hPutState
      exact Exec.bind_of_err hPutState
  | ok bytes =>
      dsimp only
      rcases hPut :
          StorageBackendTrait.put (computeHash bytes) bytes
            store.backend with
        ⟨outcome, backend⟩
      simp only [hJson, hPut] at hPutState
      cases outcome with
      | err error => exact Exec.bind_of_err hPutState
      | panicked => exact Exec.bind_of_panicked hPutState
      | ok _ =>
          refine (Exec.bind_of_ok hPutState).trans ?_
          have hIndexState :=
            indexState_eq now createdAt state
              (computeHash bytes) bytes
              { store with backend := backend }
          cases hExpires :
              expiresAt now state.metadata.ttlSeconds with
          | none =>
              simp only [hExpires] at hIndexState
              exact Exec.bind_of_panicked hIndexState
          | some expiration =>
              simp only [hExpires] at hIndexState
              exact
                (Exec.bind_of_ok hIndexState).trans rfl

/- Storing a page puts it and offers it to the cache. -/
omit [Sha256] [SerdeJson State] in
theorem storePage_eq
    (page : MemoryPage)
    (store : StateStore B) :
    storePage page store =
      match StorageBackendTrait.put page.pageHash page.data
          store.backend with
      | (.ok _, backend) =>
          (.ok page.pageHash,
            { store with backend := backend }.cached
              page.pageHash page.data)
      | (.err error, backend) =>
          (.err error, { store with backend := backend })
      | (.panicked, backend) =>
          (.panicked,
            { store with backend := backend }) := by
  unfold storePage
  rcases hPut :
      StorageBackendTrait.put page.pageHash page.data
        store.backend with
    ⟨outcome, backend⟩
  have hCall := onBackend_of_eq store hPut
  cases outcome with
  | ok _ => exact (Exec.bind_of_ok hCall).trans rfl
  | err error => exact Exec.bind_of_err hCall
  | panicked => exact Exec.bind_of_panicked hCall

end StateStore

end IsaWorkspace

------------------------------------------------------------
-- Deleting and Counting
------------------------------------------------------------

namespace IsaWorkspace

namespace StateStore

variable {B : Type}

/-
  Deleting takes the entry out of the index first.  A last
  reference deletes the content; any other is counted down.
-/
theorem deleteState_eq
    [StorageBackendTrait B]
    (stateId : StateId)
    (store : StateStore B) :
    deleteState stateId store =
      match store.index.lookup stateId with
      | none => (.ok (), store)
      | some stored =>
          if stored.refCount ≤ 1 then
            match StorageBackendTrait.delete
                stored.contentHash store.backend with
            | (.ok _, backend) =>
                (.ok (),
                  { store with
                    index := store.index.erase stateId
                    pageCache :=
                      store.pageCache.erase
                        stored.contentHash
                    backend := backend })
            | (.err error, backend) =>
                (.err error,
                  { store with
                    index := store.index.erase stateId
                    backend := backend })
            | (.panicked, backend) =>
                (.panicked,
                  { store with
                    index := store.index.erase stateId
                    backend := backend })
          else
            (.ok (),
              { store with
                index :=
                  store.index.insert stateId
                    { stored with
                      refCount := stored.refCount - 1 } }) := by
  unfold deleteState
  rw [Exec.read_bind_apply]
  cases hIndex : store.index.lookup stateId with
  | none => rfl
  | some stored =>
      dsimp only
      rw [Exec.update_bind_apply]
      by_cases hCount : stored.refCount ≤ 1
      · simp only [hCount, if_true]
        rcases hDelete :
            StorageBackendTrait.delete stored.contentHash
              store.backend with
          ⟨outcome, backend⟩
        have hCall :=
          onBackend_of_eq
            { store with
              index := store.index.erase stateId }
            hDelete
        cases outcome with
        | ok _ => exact (Exec.bind_of_ok hCall).trans rfl
        | err error => exact Exec.bind_of_err hCall
        | panicked => exact Exec.bind_of_panicked hCall
      · simp only [hCount, if_false, Exec.update_apply,
          HashMap.insert_erase]

/- Incrementing rewrites the entry's count. -/
theorem incrementRef_eq
    [BuildProfile]
    (stateId : StateId)
    (store : StateStore B) :
    incrementRef stateId store =
      match store.index.lookup stateId with
      | none => (.err (stateNotFound stateId), store)
      | some stored =>
          match checkedAdd stored.refCount 1 with
          | none => (.panicked, store)
          | some refCount =>
              (.ok (),
                { store with
                  index :=
                    store.index.insert stateId
                      { stored with
                        refCount := refCount } }) := by
  unfold incrementRef
  rw [Exec.read_bind_apply]
  cases store.index.lookup stateId with
  | none => rfl
  | some stored =>
      dsimp only
      cases checkedAdd stored.refCount 1 <;> rfl

/- Decrementing stops at zero. -/
theorem decrementRef_eq
    (stateId : StateId)
    (store : StateStore B) :
    decrementRef stateId store =
      match store.index.lookup stateId with
      | none => (.err (stateNotFound stateId), store)
      | some stored =>
          if 0 < stored.refCount then
            (.ok (),
              { store with
                index :=
                  store.index.insert stateId
                    { stored with
                      refCount := stored.refCount - 1 } })
          else
            (.ok (), store) := by
  unfold decrementRef
  rw [Exec.read_bind_apply]
  cases store.index.lookup stateId with
  | none => rfl
  | some stored =>
      dsimp only
      split <;> rfl

/-
  A store after an operation that counts references: it is
  the old store, or one entry has a new count.
-/
def Recounted
    (before after : StateStore B) : Prop :=
  after = before ∨
    ∃ stateId stored refCount,
      before.index.lookup stateId = some stored ∧
        after =
          { before with
            index :=
              before.index.insert stateId
                { stored with refCount := refCount } }

/- Incrementing only counts. -/
theorem incrementRef_recounted
    [BuildProfile]
    (stateId : StateId)
    (store : StateStore B) :
    Recounted store (incrementRef stateId store).2 := by
  rw [incrementRef_eq]
  cases hFound : store.index.lookup stateId with
  | none => exact Or.inl rfl
  | some stored =>
      dsimp only
      cases checkedAdd stored.refCount 1 with
      | none => exact Or.inl rfl
      | some refCount =>
          exact Or.inr ⟨_, stored, refCount, hFound, rfl⟩

/- Decrementing only counts. -/
theorem decrementRef_recounted
    (stateId : StateId)
    (store : StateStore B) :
    Recounted store (decrementRef stateId store).2 := by
  rw [decrementRef_eq]
  cases hFound : store.index.lookup stateId with
  | none => exact Or.inl rfl
  | some stored =>
      dsimp only
      split
      · exact Or.inr ⟨_, stored, _, hFound, rfl⟩
      · exact Or.inl rfl

variable {before after : StateStore B}

/- Counting does not change the configuration. -/
theorem Recounted.config_eq
    (hCount : Recounted before after) :
    after.config = before.config := by
  rcases hCount with rfl | ⟨_, _, _, _, rfl⟩ <;> rfl

/- Counting does not touch the page cache. -/
theorem Recounted.pageCache_eq
    (hCount : Recounted before after) :
    after.pageCache = before.pageCache := by
  rcases hCount with rfl | ⟨_, _, _, _, rfl⟩ <;> rfl

/- Counting does not call the backend. -/
theorem Recounted.backend_eq
    (hCount : Recounted before after) :
    after.backend = before.backend := by
  rcases hCount with rfl | ⟨_, _, _, _, rfl⟩ <;> rfl

/- Collecting a state drops its entry and its object. -/
theorem gcRemove_eq
    [StorageBackendTrait B]
    (stateId : StateId)
    (store : StateStore B) :
    (gcRemove stateId store).2 =
      match store.index.lookup stateId with
      | none => store
      | some stored =>
          { store with
            index := store.index.erase stateId
            backend :=
              (StorageBackendTrait.delete stored.contentHash
                store.backend).2 } := by
  unfold gcRemove
  rw [Exec.read_bind_apply]
  cases store.index.lookup stateId with
  | none => rfl
  | some stored =>
      dsimp only
      rw [Exec.update_bind_apply]
      unfold Exec.ignoreErr
      rw [onBackend_apply]
      rcases hDelete :
          StorageBackendTrait.delete stored.contentHash
            store.backend with
        ⟨outcome, backend⟩
      cases outcome <;> rfl

end StateStore

end IsaWorkspace
