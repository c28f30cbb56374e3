import IsaWorkspace.StateStore.Steps

/-
  What the operations on states do to the index.

  Only four operations write the index, each at one id, its
  target.  `entered` is the entry a store of a state makes
  when it gets as far as the index.

  Main declarations:
    * `entered`
    * `storeState_index`, `deleteState_index`
    * `incrementRef_index`, `decrementRef_index`
    * `gcRemove_index`
    * `StateOp.target`, `StateOp.entryAfter`
    * `lookup_step`, `lookup_step_target`
-/

------------------------------------------------------------
-- Entered States
------------------------------------------------------------

namespace IsaWorkspace

namespace StateStore

variable {B : Type} [StorageBackendTrait B]
variable [Sha256] [SerdeJson State]

/-
  The entry that storing a state makes: the state must
  serialize, the backend must take the bytes, and the
  expiration date must be in range.
-/
def entered
    (now createdAt : DateTime)
    (newState : State)
    (store : StateStore B) : Option StoredState :=
  match SerdeJson.toVec newState with
  | .error _ => none
  | .ok bytes =>
      if (StorageBackendTrait.put (computeHash bytes) bytes
            store.backend).1 = .ok () then
        (expiresAt now newState.metadata.ttlSeconds).map
          fun expiration =>
            newEntry createdAt expiration newState
              (computeHash bytes) bytes
      else
        none

/- Every entered state starts with one reference. -/
theorem refCount_of_entered
    {now createdAt : DateTime}
    {newState : State}
    {store : StateStore B}
    {stored : StoredState}
    (hEntered :
      entered now createdAt newState store =
        some stored) :
    stored.refCount = 1 := by
  unfold entered at hEntered
  split at hEntered
  · cases hEntered
  · split at hEntered
    · rcases Option.map_eq_some_iff.mp hEntered with
        ⟨expiration, _, rfl⟩
      rfl
    · cases hEntered

/- Putting a state does not touch the index. -/
@[simp] theorem putState_index
    (newState : State)
    (store : StateStore B) :
    (putState newState store).2.index = store.index := by
  rw [putState_eq]
  split
  · rfl
  · split <;> rfl

/- Storing a state inserts the entry it makes. -/
theorem storeState_index
    (now createdAt : DateTime)
    (newState : State)
    (store : StateStore B) :
    (storeState now createdAt newState store).2.index =
      match entered now createdAt newState store with
      | some stored =>
          store.index.insert newState.stateId stored
      | none => store.index := by
  rw [storeState_eq]
  unfold entered
  cases SerdeJson.toVec newState with
  | error message => rfl
  | ok bytes =>
      dsimp only
      rcases hPut :
          StorageBackendTrait.put (computeHash bytes) bytes
            store.backend with
        ⟨outcome, backend⟩
      cases outcome with
      | err error => simp
      | panicked => simp
      | ok _ =>
          cases expiresAt now
              newState.metadata.ttlSeconds with
          | none => simp
          | some expiration => simp

end StateStore

end IsaWorkspace

------------------------------------------------------------
-- Other Writes
------------------------------------------------------------

namespace IsaWorkspace

namespace StateStore

variable {B : Type}

/- Deleting erases a last reference, else counts down. -/
theorem deleteState_index
    [StorageBackendTrait B]
    (stateId : StateId)
    (store : StateStore B) :
    (deleteState stateId store).2.index =
      match store.index.lookup stateId with
      | none => store.index
      | some stored =>
          if stored.refCount ≤ 1 then
            store.index.erase stateId
          else
            store.index.insert stateId
              { stored with
                refCount := stored.refCount - 1 } := by
  rw [deleteState_eq]
  cases store.index.lookup stateId with
  | none => rfl
  | some stored =>
      dsimp only
      split
      · split <;> rfl
      · rfl

/- Incrementing rewrites the count of a present entry. -/
theorem incrementRef_index
    [BuildProfile]
    (stateId : StateId)
    (store : StateStore B) :
    (incrementRef stateId store).2.index =
      match store.index.lookup stateId with
      | none => store.index
      | some stored =>
          match checkedAdd stored.refCount 1 with
          | none => store.index
          | some refCount =>
              store.index.insert stateId
                { stored with refCount := refCount } := by
  rw [incrementRef_eq]
  cases store.index.lookup stateId with
  | none => rfl
  | some stored =>
      dsimp only
      cases checkedAdd stored.refCount 1 <;> rfl

/- Decrementing rewrites the count of a counted entry. -/
theorem decrementRef_index
    (stateId : StateId)
    (store : StateStore B) :
    (decrementRef stateId store).2.index =
      match store.index.lookup stateId with
      | none => store.index
      | some stored =>
          if 0 < stored.refCount then
            store.index.insert stateId
              { stored with
                refCount := stored.refCount - 1 }
          else
            store.index := by
  rw [decrementRef_eq]
  cases store.index.lookup stateId with
  | none => rfl
  | some stored =>
      dsimp only
      split <;> rfl

/- Collecting a state erases its entry. -/
theorem gcRemove_index
    [StorageBackendTrait B]
    (stateId : StateId)
    (store : StateStore B) :
    (gcRemove stateId store).2.index =
      store.index.erase stateId := by
  rw [gcRemove_eq]
  cases hLookup : store.index.lookup stateId with
  | none =>
      exact (HashMap.erase_of_lookup_none hLookup).symm
  | some stored => rfl

end StateStore

end IsaWorkspace

------------------------------------------------------------
-- The Written Entry
------------------------------------------------------------

namespace IsaWorkspace

/- The id whose entry an operation may write. -/
def StateOp.target : StateOp → StateId
| .storeState _ _ newState => newState.stateId
| .incrementRef stateId => stateId
| .decrementRef stateId => stateId
| .deleteState stateId => stateId

variable {B : Type} [StorageBackendTrait B]
variable [Sha256] [SerdeJson State] [BuildProfile]

open StateStore

/- The target's entry after an operation. -/
def StateOp.entryAfter
    (op : StateOp)
    (store : StateStore B) : Option StoredState :=
  match op, store.index.lookup op.target with
  | .storeState now createdAt newState, found =>
      (entered now createdAt newState store).or found
  | .incrementRef _, some stored =>
      match checkedAdd stored.refCount 1 with
      | none => some stored
      | some refCount =>
          some { stored with refCount := refCount }
  | .decrementRef _, some stored =>
      if 0 < stored.refCount then
        some
          { stored with refCount := stored.refCount - 1 }
      else
        some stored
  | .deleteState _, some stored =>
      if stored.refCount ≤ 1 then
        none
      else
        some
          { stored with refCount := stored.refCount - 1 }
  | _, none => none

/- An operation writes the entry of its target only. -/
theorem StateStore.lookup_step
    (op : StateOp)
    (store : StateStore B)
    (stateId : StateId) :
    (op.step store).index.lookup stateId =
      if stateId = op.target then
        op.entryAfter store
      else
        store.index.lookup stateId := by
  cases op with
  | storeState now createdAt newState =>
      simp only [StateOp.step, StateOp.exec,
        StateOp.target, StateOp.entryAfter]
      rw [storeState_index]
      cases entered now createdAt newState store with
      | none => exact HashMap.lookup_eq_ite rfl stateId
      | some stored =>
          exact HashMap.lookup_insert_eq_ite _ _ _ _
  | incrementRef target =>
      simp only [StateOp.step, StateOp.exec,
        StateOp.target, StateOp.entryAfter]
      rw [incrementRef_index]
      cases hFound : store.index.lookup target with
      | none => exact HashMap.lookup_eq_ite hFound stateId
      | some stored =>
          dsimp only
          cases checkedAdd stored.refCount 1 with
          | none =>
              exact HashMap.lookup_eq_ite hFound stateId
          | some refCount =>
              exact HashMap.lookup_insert_eq_ite _ _ _ _
  | decrementRef target =>
      simp only [StateOp.step, StateOp.exec,
        StateOp.target, StateOp.entryAfter]
      rw [decrementRef_index]
      cases hFound : store.index.lookup target with
      | none => exact HashMap.lookup_eq_ite hFound stateId
      | some stored =>
          dsimp only
          by_cases hCount : 0 < stored.refCount
          · rw [if_pos hCount, if_pos hCount]
            exact HashMap.lookup_insert_eq_ite _ _ _ _
          · rw [if_neg hCount, if_neg hCount]
            exact HashMap.lookup_eq_ite hFound stateId
  | deleteState target =>
      simp only [StateOp.step, StateOp.exec,
        StateOp.target, StateOp.entryAfter]
      rw [deleteState_index]
      cases hFound : store.index.lookup target with
      | none => exact HashMap.lookup_eq_ite hFound stateId
      | some stored =>
          dsimp only
          by_cases hCount : stored.refCount ≤ 1
          · rw [if_pos hCount, if_pos hCount]
            exact HashMap.lookup_erase_eq_ite _ _ _
          · rw [if_neg hCount, if_neg hCount]
            exact HashMap.lookup_insert_eq_ite _ _ _ _

/- The target's entry is the one the operation leaves. -/
theorem StateStore.lookup_step_target
    (op : StateOp)
    (store : StateStore B) :
    (op.step store).index.lookup op.target =
      op.entryAfter store := by
  rw [lookup_step]
  exact if_pos rfl

/- Every other entry stays. -/
theorem StateStore.lookup_step_of_ne
    {op : StateOp}
    {stateId : StateId}
    (store : StateStore B)
    (hOther : stateId ≠ op.target) :
    (op.step store).index.lookup stateId =
      store.index.lookup stateId := by
  rw [lookup_step]
  exact if_neg hOther

end IsaWorkspace
