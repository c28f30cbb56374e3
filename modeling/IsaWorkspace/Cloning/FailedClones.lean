import IsaWorkspace.Cloning.Pages

/-
  What a failed clone leaves behind.

  A call registers the pages of the parent before it stores
  the clone, and does not take that back when the store
  fails.  Each region adds one reference, so the pages are
  as before only if there was nothing to register.

  Main declarations:
    * `StateCloner.LeavesNoTrace`
    * `StateCloner.registeredPages_eq_iff`
    * `StateCloner.leavesNoTrace_iff`
-/

------------------------------------------------------------
-- Failed Calls
------------------------------------------------------------

namespace IsaWorkspace

namespace StateCloner

variable {B : Type}

/-
  The pages are as before exactly when they are copied
  eagerly or there are none.
-/
theorem registeredPages_eq_iff
    (call : CloneCall)
    (cloner : StateCloner B) :
    cloner.registeredPages call = cloner.pages ↔
      cloner.config.eagerCopy = true ∨
        call.original.memoryManifest = [] := by
  unfold registeredPages
  split
  · next hEager => exact iff_of_true rfl (Or.inl hEager)
  · next hShared =>
      rw [or_iff_right hShared]
      constructor
      · intro hSame
        have hWeight :=
          weight_registerPages call.original.stateId
            call.original.memoryManifest cloner.pages
        rw [hSame] at hWeight
        exact List.length_eq_zero_iff.mp (by omega)
      · intro hNone
        rw [hNone]
        rfl

variable [Sha256] [SerdeJson State] [StorageBackendTrait B]

/-
  If the call reports an error, the pages, with their
  reference counts, and the clones are as before.
-/
def LeavesNoTrace
    (call : CloneCall)
    (cloner : StateCloner B) : Prop :=
  ∀ error, (cloneState call cloner).1 = .err error →
    (cloneState call cloner).2.pages = cloner.pages ∧
      (cloneState call cloner).2.clones = cloner.clones

/-
  A call leaves no trace when it fails exactly if it is
  refused by the limit, has no pages to share, or the store
  takes the clone.
-/
theorem leavesNoTrace_iff
    (call : CloneCall)
    (cloner : StateCloner B) :
    LeavesNoTrace call cloner ↔
      cloner.limitReached call.original.stateId = true ∨
        cloner.config.eagerCopy = true ∨
        call.original.memoryManifest = [] ∨
        ∀ error,
          (StateStore.storeState call.storedAt call.enteredAt
              (call.clonedState cloner.config)
              cloner.stateStore).1 ≠
            .err error := by
  unfold LeavesNoTrace
  cases hLimit :
      cloner.limitReached call.original.stateId with
  | true =>
      rw [cloneState_of_limit hLimit]
      exact iff_of_true (fun _ _ => ⟨rfl, rfl⟩) (Or.inl rfl)
  | false =>
      rw [or_iff_right Bool.false_ne_true]
      change
        _ ↔ _ ∨ _ ∨ ∀ error,
          (cloner.storing call).1 ≠ .err error
      rcases hStoring : cloner.storing call with
        ⟨outcome, stateStore⟩
      cases outcome with
      | ok stored =>
          rw [cloneState_of_stored hLimit hStoring]
          exact
            iff_of_true nofun (Or.inr (Or.inr nofun))
      | panicked =>
          rw [cloneState_of_panicked hLimit hStoring]
          exact
            iff_of_true nofun (Or.inr (Or.inr nofun))
      | err reason =>
          rw [cloneState_of_failed hLimit hStoring]
          have hFails :
              ¬ ∀ error,
                (Outcome.err reason :
                    Outcome StateStoreError StoredState) ≠
                  .err error :=
            fun hNever => hNever reason rfl
          rw [or_iff_left hFails, ← registeredPages_eq_iff]
          constructor
          · intro hTrace
            exact (hTrace _ rfl).1
          · intro hSame error _
            exact ⟨hSame, rfl⟩

end StateCloner

------------------------------------------------------------
-- A Full Disk
------------------------------------------------------------

/- A disk without room for another file. -/
structure FullDisk where

namespace FullDisk

instance : FileSystem FullDisk where
  createDirAll _ := pure ()
  write _ _ :=
    Exec.fail "No space left on device (os error 28)"
  read _ := Exec.fail "No such file or directory (os error 2)"
  removeFile _ :=
    Exec.fail "No such file or directory (os error 2)"

end FullDisk

namespace StateCloner

open PageSample

/- A clone that cannot be stored leaves a page behind. -/
theorem leavesNoTrace_fullDisk :
    ¬ LeavesNoTrace call
      (new CloneConfig.default
        (StateStore.new ⟨2⟩
          (⟨"/tmp/isa-state-store", ⟨⟩⟩ :
            LocalBackend FullDisk))) := by
  have hFails :
      (cloneState call
          (new CloneConfig.default
            (StateStore.new ⟨2⟩
              (⟨"/tmp/isa-state-store", ⟨⟩⟩ :
                LocalBackend FullDisk)))).1 =
        .err
          (.storeError
            ("IO error: Failed to write " ++
              "/tmp/isa-state-store/a6/" ++
              "a642c8e57c53bae3c440d924e394ebc3" ++
              "824d0bcb740a615ce0eabb26aaf6b827: " ++
              "No space left on device (os error 28)")) := by
    decide +kernel
  intro hTrace
  have hPages := (hTrace _ hFails).1
  revert hPages
  decide +kernel

end StateCloner

end IsaWorkspace
