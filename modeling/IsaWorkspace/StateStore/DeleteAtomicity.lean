import IsaWorkspace.StateStore.Steps

/-
  What a failed deletion leaves behind.

  `deleteState` takes the entry out of the index before it
  asks the backend, and returns early when the backend
  fails.  It is atomic exactly where the backend does not
  fail to delete the content of a last reference.

  Main declarations:
    * `DeleteAtomic`
    * `deleteState_failed`
    * `getState_of_deleteState_failed`
    * `deleteState_of_deleteState_failed`
    * `deleteAtomic_iff`
-/

------------------------------------------------------------
-- Failing File Calls
------------------------------------------------------------

namespace IsaWorkspace

namespace LocalBackend

variable {F : Type} [FileSystem F]

/- Naming a file touches no file. -/
omit [FileSystem F] in
theorem pathOf_apply
    (key : String)
    (backend : LocalBackend F) :
    pathOf key backend =
      match keyToPath backend.basePath key with
      | some path => (.ok path, backend)
      | none => (.panicked, backend) := by
  unfold pathOf
  rw [Exec.read_bind_apply]
  cases keyToPath backend.basePath key <;> rfl

/-
  A deletion fails without effect when removing a file does.
-/
theorem delete_unchanged
    (hRemove :
      ∀ path files error,
        (FileSystem.removeFile path files :
          Outcome String Unit × F).1 = .err error →
        (FileSystem.removeFile path files).2 = files)
    {key : String}
    {backend : LocalBackend F}
    {error : StateStoreError}
    (hFailed : (delete key backend).1 = .err error) :
    (delete key backend).2 = backend := by
  have hPath := pathOf_apply key backend
  unfold delete at hFailed ⊢
  cases hKey : keyToPath backend.basePath key with
  | none =>
      rw [hKey] at hPath
      rw [Exec.bind_of_panicked hPath]
  | some path =>
      rw [hKey] at hPath
      rw [Exec.bind_of_ok hPath] at hFailed ⊢
      unfold onFiles Exec.mapErr at hFailed ⊢
      rw [Exec.onPart_apply] at hFailed ⊢
      rcases hCall :
          FileSystem.removeFile path backend.files with
        ⟨outcome, files⟩
      rw [hCall] at hFailed
      cases outcome with
      | ok _ => cases hFailed
      | panicked => cases hFailed
      | err message =>
          have hFiles :=
            hRemove path backend.files message
              (by rw [hCall])
          rw [hCall] at hFiles
          dsimp only at hFiles ⊢
          rw [hFiles]

end LocalBackend

end IsaWorkspace

------------------------------------------------------------
-- Atomicity
------------------------------------------------------------

namespace IsaWorkspace

namespace StateStore

variable {B : Type} [StorageBackendTrait B]

/-
  Deleting an id that returns an error leaves the index, the
  page cache and the backend as they were.
-/
def DeleteAtomic
    (stateId : StateId)
    (store : StateStore B) : Prop :=
  ∀ error,
    (deleteState stateId store).1 = .err error →
      let after := (deleteState stateId store).2
      after.index = store.index ∧
        after.pageCache = store.pageCache ∧
        after.backend = store.backend

variable {store : StateStore B} {backend : B}
variable {stateId : StateId} {stored : StoredState}
variable {error : StateStoreError}

/- Where deleting is atomic, a failure keeps the entry. -/
theorem DeleteAtomic.keepsEntry
    (hAtomic : DeleteAtomic stateId store)
    (hFails :
      (deleteState stateId store).1 = .err error) :
    (deleteState stateId store).2.index.lookup stateId =
      store.index.lookup stateId := by
  rcases hAtomic error hFails with ⟨hIndex, _⟩
  rw [hIndex]

/- A failed deletion has already erased the entry. -/
theorem deleteState_failed
    (hFound : store.index.lookup stateId = some stored)
    (hLast : stored.refCount ≤ 1)
    (hDelete :
      StorageBackendTrait.delete stored.contentHash
        store.backend = (.err error, backend)) :
    deleteState stateId store =
      (.err error,
        { store with
          index := store.index.erase stateId
          backend := backend }) := by
  rw [deleteState_eq, hFound]
  dsimp only
  rw [if_pos hLast, hDelete]

/- After a failed deletion the state is not found. -/
theorem getState_of_deleteState_failed
    [SerdeJson State]
    (hFound : store.index.lookup stateId = some stored)
    (hLast : stored.refCount ≤ 1)
    (hDelete :
      StorageBackendTrait.delete stored.contentHash
        store.backend = (.err error, backend)) :
    (getState stateId (deleteState stateId store).2).1 =
      .err (stateNotFound stateId) := by
  rw [deleteState_failed hFound hLast hDelete]
  apply getState_of_lookup_none
  exact Finmap.lookup_erase stateId store.index

/- Retrying a failed deletion does nothing, and says so. -/
theorem deleteState_of_deleteState_failed
    (hFound : store.index.lookup stateId = some stored)
    (hLast : stored.refCount ≤ 1)
    (hDelete :
      StorageBackendTrait.delete stored.contentHash
        store.backend = (.err error, backend)) :
    let after := (deleteState stateId store).2
    deleteState stateId after = (.ok (), after) := by
  intro after
  have hAbsent : after.index.lookup stateId = none := by
    change
      (deleteState stateId store).2.index.lookup stateId =
        none
    rw [deleteState_failed hFound hLast hDelete]
    exact Finmap.lookup_erase stateId store.index
  rw [deleteState_eq, hAbsent]

/-
  Deleting an id is atomic exactly when the backend does not
  fail to delete the content of a last reference.
-/
theorem deleteAtomic_iff
    (stateId : StateId)
    (store : StateStore B) :
    DeleteAtomic stateId store ↔
      ∀ stored,
        store.index.lookup stateId = some stored →
        stored.refCount ≤ 1 →
        ∀ error,
          (StorageBackendTrait.delete stored.contentHash
            store.backend).1 ≠ .err error := by
  constructor
  · intro hAtomic stored hFound hLast error hFails
    rcases hDelete :
        StorageBackendTrait.delete stored.contentHash
          store.backend with
      ⟨outcome, backend⟩
    rw [hDelete] at hFails
    cases hFails
    have hFailed := deleteState_failed hFound hLast hDelete
    rcases hAtomic error (by rw [hFailed]) with
      ⟨hIndex, _⟩
    rw [hFailed] at hIndex
    exact HashMap.erase_ne_of_lookup_some hFound hIndex
  · intro hSucceeds error hErr
    rw [deleteState_eq] at hErr
    cases hFound : store.index.lookup stateId with
    | none =>
        rw [hFound] at hErr
        cases hErr
    | some stored =>
        rw [hFound] at hErr
        dsimp only at hErr
        by_cases hLast : stored.refCount ≤ 1
        · have hDelete := hSucceeds stored hFound hLast
          rw [if_pos hLast] at hErr
          rcases hCall :
              StorageBackendTrait.delete stored.contentHash
                store.backend with
            ⟨outcome, backend⟩
          rw [hCall] at hErr hDelete
          cases outcome with
          | ok _ => cases hErr
          | err error' => exact absurd rfl (hDelete error')
          | panicked => cases hErr
        · rw [if_neg hLast] at hErr
          cases hErr

end StateStore

end IsaWorkspace

namespace IsaWorkspace

/-
  A directory that files may be added to, but from which
  none may be removed.
-/
structure AppendOnlyFiles where
  files : HashMap String Bytes

namespace AppendOnlyFiles

instance : FileSystem AppendOnlyFiles where
  createDirAll _ := pure ()
  write path data :=
    Exec.update fun disk => ⟨disk.files.insert path data⟩
  read path := do
    let disk ← Exec.read
    match disk.files.lookup path with
    | some data => pure data
    | none =>
        Exec.fail "No such file or directory (os error 2)"
  removeFile path := do
    let disk ← Exec.read
    if path ∈ disk.files then
      Exec.fail "Operation not permitted (os error 1)"
    else
      Exec.fail "No such file or directory (os error 2)"

end AppendOnlyFiles

namespace StateStore

open Sample

/- A store over an append-only directory. -/
private def appendOnlyStore :
    StateStore (LocalBackend AppendOnlyFiles) :=
  Runs.run StateOp.step
    (new ⟨2⟩ ⟨"/tmp/isa-state-store", ⟨∅⟩⟩)
    [.storeState epoch epoch first]

/-
  After a store over an append-only directory, the deletion
  fails and takes the entry out of the index.
-/
theorem not_deleteAtomic_appendOnly :
    ¬ DeleteAtomic first.stateId appendOnlyStore := by
  have hFails :
      (deleteState first.stateId appendOnlyStore).1 =
        .err
          (.ioError
            ("Failed to delete /tmp/isa-state-store/df/" ++
              "df65cbb097309569617ae43a22fa90dc" ++
              "ecc267da3bb09880e044ab12192c7878: " ++
              "Operation not permitted (os error 1)")) := by
    decide +kernel
  have hGone :
      (deleteState first.stateId
        appendOnlyStore).2.index.lookup first.stateId =
          none := by
    decide +kernel
  have hPresent :
      appendOnlyStore.index.lookup first.stateId ≠
        none := by
    decide +kernel
  intro hAtomic
  exact hPresent
    ((hAtomic.keepsEntry hFails).symm.trans hGone)

end StateStore

end IsaWorkspace
