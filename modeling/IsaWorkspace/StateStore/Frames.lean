import IsaWorkspace.StateStore.ReadYourWrites

/-
  What one call leaves of what other ids read.

  Reading a state changes nothing that is read.  Storing one
  changes what its own id reads, and only if it succeeds.

  Main declarations:
    * `StateStore.coupled_read`
    * `StateStore.getState_after_read`
    * `StateStore.getState_after_other`
    * `StateStore.getState_after_failed`
    * `StateStore.getState_after_stored`
-/

------------------------------------------------------------
-- Entries
------------------------------------------------------------

namespace IsaWorkspace

namespace StateStore

variable [Sha256] [SerdeJson State]

/- A state is entered only when it has been stored. -/
theorem storeState_entry
    {B : Type} [StorageBackendTrait B]
    (now createdAt : DateTime)
    (newState : State)
    (store : StateStore B) :
    match (storeState now createdAt newState store).1 with
    | .ok stored =>
        (storeState now createdAt newState store).2.index =
          store.index.insert newState.stateId stored
    | _ =>
        (storeState now createdAt newState store).2.index =
          store.index := by
  rw [storeState_eq]
  cases SerdeJson.toVec newState with
  | error message => rfl
  | ok bytes =>
      dsimp only
      rcases
          StorageBackendTrait.put (computeHash bytes) bytes
            store.backend with
        ⟨outcome, backend⟩
      cases outcome with
      | err error => rfl
      | panicked => rfl
      | ok _ =>
          cases expiresAt now
              newState.metadata.ttlSeconds with
          | none => rfl
          | some expiration => exact cached_index _ _ _

------------------------------------------------------------
-- Reads
------------------------------------------------------------

variable [BuildProfile]
variable {used : Set Bytes}
variable {session : Session MemoryBackend}

/- Reading a state keeps the coupling. -/
theorem coupled_read
    (hHash : Set.InjOn computeHash used)
    (stateId : StateId)
    (hCoupled : Coupled used session) :
    Coupled used (session.step (.getState stateId)) := by
  apply coupled_step hHash ?_ hCoupled
  exact
    ⟨fun _ _ hPuts => hPuts.elim,
      fun _ _ hStores => hStores.elim⟩

/- Reading a state changes nothing that is read. -/
theorem getState_after_read
    (hHash : Set.InjOn computeHash used)
    (stateId other : StateId)
    (hCoupled : Coupled used session) :
    (getState other (getState stateId session.store).2).1 =
      (getState other session.store).1 := by
  have hIndex :
      (session.step (.getState stateId)).store.index =
        session.store.index := by
    simp only [Session.step, Op.step, Op.exec]
    rw [getState_store]
    split
    · rfl
    · simp
  apply
    getState_eq_of_frame hHash hCoupled
      (coupled_read hHash stateId hCoupled)
  · rw [hIndex]
  · exact lastStored_concat _ _ _

------------------------------------------------------------
-- Writes
------------------------------------------------------------

variable {now createdAt : DateTime} {newState : State}

/- Storing a state changes what no other id reads. -/
theorem getState_after_other
    (hHash : Set.InjOn computeHash used)
    (hWithin :
      Within used
        (.state (.storeState now createdAt newState)))
    (hCoupled : Coupled used session)
    {other : StateId}
    (hNe : newState.stateId ≠ other) :
    (getState other
        (storeState now createdAt newState
          session.store).2).1 =
      (getState other session.store).1 := by
  have hOp :
      Op.Overwrites
        (.state (.storeState now createdAt newState))
        newState.stateId := rfl
  have hFrame := frame_of_overwrites_other session hOp hNe
  exact
    getState_eq_of_frame hHash hCoupled
      (coupled_step hHash hWithin hCoupled) hFrame.1
      hFrame.2

/- A store that does not succeed changes what no id reads. -/
theorem getState_after_failed
    (hHash : Set.InjOn computeHash used)
    (hWithin :
      Within used
        (.state (.storeState now createdAt newState)))
    (hCoupled : Coupled used session)
    (hFailed :
      ∀ stored,
        (storeState now createdAt newState
          session.store).1 ≠ .ok stored)
    (other : StateId) :
    (getState other
        (storeState now createdAt newState
          session.store).2).1 =
      (getState other session.store).1 := by
  have hEntry :=
    storeState_entry now createdAt newState session.store
  have hAfter := coupled_step hHash hWithin hCoupled
  rcases hStore :
      storeState now createdAt newState session.store with
    ⟨outcome, after⟩
  rw [hStore] at hEntry hFailed
  have hStep :
      session.step
          (.state (.storeState now createdAt newState)) =
        ⟨session.history ++
            [(.state (.storeState now createdAt newState),
              .stored outcome)], after⟩ := by
    simp only [Session.step, Op.step, Op.exec,
      StateOp.exec, hStore]
  rw [hStep] at hAfter
  cases outcome with
  | ok stored => exact absurd rfl (hFailed stored)
  | err error =>
      apply getState_eq_of_frame hHash hCoupled hAfter
      · exact congrArg _ hEntry
      · exact lastStored_concat _ _ _
  | panicked =>
      apply getState_eq_of_frame hHash hCoupled hAfter
      · exact congrArg _ hEntry
      · exact lastStored_concat _ _ _

/- A stored state is read back. -/
theorem getState_after_stored
    (hHash : Set.InjOn computeHash used)
    (hWithin :
      Within used
        (.state (.storeState now createdAt newState)))
    (hCoupled : Coupled used session)
    {stored : StoredState}
    (hStored :
      (storeState now createdAt newState
        session.store).1 = .ok stored)
    {stateId : StateId}
    (hId : newState.stateId = stateId) :
    (getState stateId
        (storeState now createdAt newState
          session.store).2).1 = .ok newState := by
  subst hId
  have hEntry :=
    storeState_entry now createdAt newState session.store
  have hAfter := coupled_step hHash hWithin hCoupled
  rw [hStored] at hEntry
  have hLookup :
      (storeState now createdAt newState
          session.store).2.index.lookup newState.stateId =
        some stored := by
    rw [hEntry]
    simp
  have hLast :
      lastStored newState.stateId
          (session.step
            (.state
              (.storeState now createdAt
                newState))).history =
        some newState := by
    simp only [Session.step, lastStored_concat, Op.exec,
      StateOp.exec, hStored, recordStored, if_true]
  rcases hAfter.entries newState.stateId stored hLookup with
    ⟨state, bytes, hState, hBacked⟩
  have hSame : newState = state :=
    Option.some.inj (hLast.symm.trans hState)
  subst hSame
  exact getState_of_backed hHash hAfter hLookup hBacked

end StateStore

end IsaWorkspace
