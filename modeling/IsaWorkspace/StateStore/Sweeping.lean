import IsaWorkspace.StateStore.ReadYourWrites

/-
  Reading back where the collector runs as well.

  A round of the collector is not an event of the history:
  it forgets entries together with their objects, and leaves
  the other entries backed.

  Main declarations:
    * `Session.act`, `Session.runActions`
    * `StateStore.coupled_gcSweep`
    * `StateStore.coupled_runActions`
-/

------------------------------------------------------------
-- Sessions with a Collector
------------------------------------------------------------

namespace IsaWorkspace

namespace Session

variable {B : Type} [StorageBackendTrait B]
variable [Sha256] [SerdeJson State] [BuildProfile]

/- A client operation, or a round of the collector. -/
def act
    (session : Session B) : Action → Session B
| .op op => session.step op
| .gcSweep now order =>
    { session with
      store :=
        (StateStore.gcSweep now order session.store).2 }

/- The session of a new store after some actions. -/
def runActions
    (config : StateStoreConfig)
    (backend : B)
    (actions : List Action) : Session B :=
  Runs.run act ⟨[], StateStore.new config backend⟩ actions

/- The session does to its store what the run does. -/
theorem runActions_store
    (config : StateStoreConfig)
    (backend : B)
    (actions : List Action) :
    (runActions config backend actions).store =
      Runs.run Action.step (StateStore.new config backend)
        actions := by
  induction actions using List.reverseRecOn with
  | nil => rfl
  | append_singleton earlier action ih =>
      rw [runActions, Runs.run_concat, Runs.run_concat,
        ← ih]
      cases action <;> rfl

end Session

------------------------------------------------------------
-- Rounds of the Collector
------------------------------------------------------------

namespace StateStore

variable {B : Type} [LawfulBackend B]
variable [Sha256] [SerdeJson State]
variable {used : Set Bytes}
variable {history : List (Op × Reply)}
variable {store : StateStore B}

/- A removed entry takes no object of another with it. -/
theorem coupled_gcRemove
    (hHash : Set.InjOn computeHash used)
    (stateId : StateId)
    (hCoupled : Coupled used ⟨history, store⟩) :
    Coupled used ⟨history, (gcRemove stateId store).2⟩ := by
  rw [gcRemove_eq]
  cases hLookup : store.index.lookup stateId with
  | none => exact hCoupled
  | some stored =>
      dsimp only
      rcases hDelete :
          StorageBackendTrait.delete stored.contentHash
            store.backend with
        ⟨outcome, backend⟩
      refine ⟨?_, ?_⟩
      · exact
          (hCoupled.objects.delete hDelete).setIndex
            (store.index.erase stateId)
      · by_cases hDone : outcome = .ok ()
        · subst hDone
          dsimp only
          rw [LawfulBackend.contents_of_delete_ok hDelete]
          exact hCoupled.entries.delete hHash hLookup
        · dsimp only
          rw [LawfulBackend.contents_of_delete_failed
            hDelete hDone]
          exact hCoupled.entries.forget stateId

theorem coupled_gcRemoveAll
    (hHash : Set.InjOn computeHash used)
    (stateIds : List StateId)
    (hCoupled : Coupled used ⟨history, store⟩) :
    Coupled used
      ⟨history, (gcRemoveAll stateIds store).2⟩ := by
  induction stateIds generalizing store with
  | nil => exact hCoupled
  | cons stateId rest ih =>
      exact
        Exec.bind_state
          (fun after => Coupled used ⟨history, after⟩)
          (coupled_gcRemove hHash stateId hCoupled)
          fun _ _ hMiddle => ih hMiddle

theorem coupled_gcSweep
    (hHash : Set.InjOn computeHash used)
    (now : DateTime)
    (order : List StateId)
    (hCoupled : Coupled used ⟨history, store⟩) :
    Coupled used
      ⟨history, (gcSweep now order store).2⟩ :=
  coupled_gcRemoveAll hHash (gcScan now order store) hCoupled

variable [BuildProfile]

/- Every run of actions is coupled to its history. -/
theorem coupled_runActions
    (hHash : Set.InjOn computeHash used)
    (config : StateStoreConfig)
    {backend : B}
    (hEmpty : LawfulBackend.contents backend = ∅)
    {actions : List Action}
    (hWithin : ∀ op, .op op ∈ actions → Within used op) :
    Coupled used
      (Session.runActions config backend actions) := by
  have hStart : Coupled used ⟨[], new config backend⟩ :=
    coupled_new config hEmpty
  have hAlong :
      Runs.AlongRun Session.act
        (fun _ action =>
          ∀ op, action = .op op → Within used op)
        ⟨[], new config backend⟩ actions := by
    apply Runs.alongRun_of_forall_mem
    rintro action hAction _ op rfl
    exact hWithin op hAction
  have hKeeps :
      ∀ (session : Session B) action,
        Coupled used session →
          (∀ op, action = .op op → Within used op) →
            Coupled used (session.act action) := by
    intro session action hCoupled hOps
    cases action with
    | op op => exact coupled_step hHash (hOps op rfl) hCoupled
    | gcSweep now order =>
        exact coupled_gcSweep hHash now order hCoupled
  exact
    (Runs.throughout_of_alongRun hKeeps hStart hAlong).last

end StateStore

end IsaWorkspace
