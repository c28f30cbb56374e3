import IsaWorkspace.Api.Handlers
import IsaWorkspace.StateStore.Frames
import IsaWorkspace.StateStore.Sweeping

/-
  What a fork does to the store.

  A fork reads one state and stores its copy.  To the store
  these are two client operations, so that what is known of
  runs applies: no other id reads anything else after it.

  Main declarations:
    * `forkState_eq`
    * `StateStore.reached`
    * `StateStore.ForkAdds`
    * `StateStore.forkAdds_reached`
-/

------------------------------------------------------------
-- Outcomes
------------------------------------------------------------

namespace IsaWorkspace

open StateStore

/- A fork reads its state, then stores the copy. -/
theorem forkState_eq
    {B : Type}
    [StorageBackendTrait B] [Sha256] [SerdeJson State]
    (payload : ForkRequest)
    (fresh : ForkFresh)
    (store : StateStore B) :
    forkState payload fresh store =
      if payload.stateId = "" then
        (.err (refusal .badRequest "state_id is required"),
          store)
      else
        match getState ⟨payload.stateId⟩ store with
        | (.err error, read) =>
            (.err
              (refusal .notFound
                ("State not found: " ++ error.text)),
              read)
        | (.panicked, read) => (.panicked, read)
        | (.ok original, read) =>
            match storeState fresh.now fresh.storedAt
                (forkedState payload fresh original)
                read with
            | (.err error, after) =>
                (.err
                  (refusal .internalServerError
                    ("Failed to store forked state: " ++
                      error.text)),
                  after)
            | (.panicked, after) => (.panicked, after)
            | (.ok _, after) =>
                (.ok { stateId := fresh.stateId }, after) := by
  unfold forkState
  by_cases hEmpty : payload.stateId = ""
  · rw [if_pos hEmpty, if_pos hEmpty]
    rfl
  · rw [if_neg hEmpty, if_neg hEmpty]
    rcases hGet : getState ⟨payload.stateId⟩ store with
      ⟨outcome, read⟩
    cases outcome with
    | err error =>
        exact Exec.bind_of_err (Exec.mapErr_of_err hGet)
    | panicked =>
        exact
          Exec.bind_of_panicked (Exec.mapErr_of_panicked hGet)
    | ok original =>
        refine
          (Exec.bind_of_ok (Exec.mapErr_of_ok hGet)).trans ?_
        dsimp only
        rcases hStore :
            storeState fresh.now fresh.storedAt
              (forkedState payload fresh original) read with
          ⟨stored, after⟩
        cases stored with
        | err error =>
            exact Exec.bind_of_err (Exec.mapErr_of_err hStore)
        | panicked =>
            exact
              Exec.bind_of_panicked
                (Exec.mapErr_of_panicked hStore)
        | ok stored =>
            exact
              (Exec.bind_of_ok
                (Exec.mapErr_of_ok hStore)).trans rfl

section Inversion

variable {B : Type}
variable [StorageBackendTrait B] [Sha256] [SerdeJson State]
variable {payload : ForkRequest} {fresh : ForkFresh}
variable {store : StateStore B}

/- A fork that succeeds has read a state and stored a copy. -/
theorem forkState_of_ok
    {response : ForkResponse}
    (hOk :
      (forkState payload fresh store).1 = .ok response) :
    ∃ original stored,
      let read := getState ⟨payload.stateId⟩ store
      let write :=
        storeState fresh.now fresh.storedAt
          (forkedState payload fresh original) read.2
      read.1 = .ok original ∧
        write.1 = .ok stored ∧
        response.stateId = fresh.stateId ∧
        (forkState payload fresh store).2 = write.2 := by
  rw [forkState_eq] at hOk ⊢
  by_cases hEmpty : payload.stateId = ""
  · rw [if_pos hEmpty] at hOk
    cases hOk
  · rw [if_neg hEmpty] at hOk ⊢
    rcases hGet : getState ⟨payload.stateId⟩ store with
      ⟨outcome, read⟩
    simp only [hGet] at hOk
    cases outcome with
    | err error => cases hOk
    | panicked => cases hOk
    | ok original =>
        dsimp only at hOk ⊢
        rcases hStore :
            storeState fresh.now fresh.storedAt
              (forkedState payload fresh original) read with
          ⟨result, after⟩
        simp only [hStore] at hOk
        cases result with
        | err error => cases hOk
        | panicked => cases hOk
        | ok stored =>
            cases hOk
            refine ⟨original, stored, rfl, ?_, rfl, ?_⟩
            · rw [hStore]
            · rw [hStore]

/- A fork that fails has at most tried to store a copy. -/
theorem forkState_of_failed
    (hFailed :
      ∀ response,
        (forkState payload fresh store).1 ≠ .ok response) :
    let read := getState ⟨payload.stateId⟩ store
    (forkState payload fresh store).2 = store ∨
      (forkState payload fresh store).2 = read.2 ∨
      ∃ original,
        let write :=
          storeState fresh.now fresh.storedAt
            (forkedState payload fresh original) read.2
        read.1 = .ok original ∧
          (∀ stored, write.1 ≠ .ok stored) ∧
          (forkState payload fresh store).2 = write.2 := by
  intro read
  have hRead : read = getState ⟨payload.stateId⟩ store := rfl
  rw [forkState_eq, ← hRead] at hFailed ⊢
  clear_value read
  by_cases hEmpty : payload.stateId = ""
  · rw [if_pos hEmpty]
    exact .inl rfl
  · rw [if_neg hEmpty] at hFailed ⊢
    right
    rcases read with ⟨outcome, middle⟩
    cases outcome with
    | err error => exact .inl rfl
    | panicked => exact .inl rfl
    | ok original =>
        right
        refine ⟨original, rfl, ?_⟩
        dsimp only at hFailed ⊢
        rcases hStore :
            storeState fresh.now fresh.storedAt
              (forkedState payload fresh original)
              middle with
          ⟨result, after⟩
        rw [hStore] at hFailed
        cases result with
        | err error => exact ⟨by simp, rfl⟩
        | panicked => exact ⟨by simp, rfl⟩
        | ok stored => exact absurd rfl (hFailed _)

end Inversion

end IsaWorkspace

------------------------------------------------------------
-- Pure Addition
------------------------------------------------------------

namespace IsaWorkspace

namespace StateStore

variable [Sha256] [SerdeJson State]

/- What a memory-backed store comes to. -/
def reached
    [BuildProfile]
    (config : StateStoreConfig)
    (actions : List Action) : StateStore MemoryBackend :=
  Runs.run Action.step (StateStore.new config MemoryBackend.new)
    actions

/-
  A fork that succeeds adds a copy under a new id and leaves
  what the ids of the store read, and one that does not
  succeed leaves what every id reads.
-/
structure ForkAdds
    (payload : ForkRequest)
    (fresh : ForkFresh)
    (store : StateStore MemoryBackend) : Prop where
  others :
    ∀ response,
      (forkState payload fresh store).1 = .ok response →
        ∀ stateId ∈ store.index,
          (getState stateId
              (forkState payload fresh store).2).1 =
            (getState stateId store).1
  copy :
    ∀ response,
      (forkState payload fresh store).1 = .ok response →
        ∃ original,
          (getState ⟨payload.stateId⟩ store).1 =
              .ok original ∧
            (getState ⟨response.stateId⟩
                (forkState payload fresh store).2).1 =
              .ok
                { original with
                  stateId := ⟨fresh.stateId⟩
                  uiState := { streamId := fresh.stream }
                  metadata :=
                    { original.metadata with
                      label :=
                        payload.label.getD
                          ("fork-of-" ++
                            original.metadata.label)
                      createdAt := fresh.createdAt } }
  failed :
    (∀ response,
        (forkState payload fresh store).1 ≠ .ok response) →
      ∀ stateId,
        (getState stateId
            (forkState payload fresh store).2).1 =
          (getState stateId store).1

variable {used : Set Bytes}

variable [BuildProfile]
variable {session : Session MemoryBackend}

/- A coupled store is only added to. -/
theorem forkAdds_of_coupled
    (hHash : Set.InjOn computeHash used)
    {payload : ForkRequest}
    {fresh : ForkFresh}
    (hCoupled : Coupled used session)
    (hFork :
      ∀ original,
        (getState ⟨payload.stateId⟩ session.store).1 =
            .ok original →
          Within used
            (.state
              (.storeState fresh.now fresh.storedAt
                (forkedState payload fresh original))))
    (hFresh : ⟨fresh.stateId⟩ ∉ session.store.index) :
    ForkAdds payload fresh session.store := by
  have hRead := coupled_read hHash ⟨payload.stateId⟩ hCoupled
  have hReads :
      ∀ other,
        (getState other
            (session.step
              (.getState ⟨payload.stateId⟩)).store).1 =
          (getState other session.store).1 :=
    fun other => getState_after_read hHash _ other hCoupled
  constructor
  · intro response hOk stateId hStateId
    rcases forkState_of_ok hOk with
      ⟨original, stored, hGet, hStored, hResponse, hAfter⟩
    have hNe : ⟨fresh.stateId⟩ ≠ stateId := by
      rintro rfl
      exact hFresh hStateId
    rw [hAfter]
    exact
      (getState_after_other hHash (hFork original hGet)
        hRead hNe).trans
        (hReads stateId)
  · intro response hOk
    rcases forkState_of_ok hOk with
      ⟨original, stored, hGet, hStored, hResponse, hAfter⟩
    refine ⟨original, hGet, ?_⟩
    have hCopy :=
      getState_after_stored hHash (hFork original hGet)
        hRead hStored (rfl : _ = StateId.mk fresh.stateId)
    rw [hAfter, hResponse]
    exact hCopy
  · intro hFailed stateId
    rcases forkState_of_failed hFailed with
      hAfter | hAfter | ⟨original, hGet, hStore, hAfter⟩
    · rw [hAfter]
    · rw [hAfter]
      exact hReads stateId
    · rw [hAfter]
      exact
        (getState_after_failed hHash (hFork original hGet)
          hRead hStore stateId).trans
          (hReads stateId)

/-
  Fork is a pure addition: in every store that a sequential
  run leads to, a fork under a fresh id adds a copy and
  changes what no other id reads, and a fork that fails
  changes what no id reads.
-/
theorem forkAdds_reached
    (config : StateStoreConfig)
    (actions : List Action)
    (payload : ForkRequest)
    (fresh : ForkFresh)
    (hHash : Set.InjOn computeHash used)
    (hRun : ∀ op, .op op ∈ actions → Within used op)
    (hFork :
      ∀ original,
        (getState ⟨payload.stateId⟩
            (reached config actions)).1 = .ok original →
          Within used
            (.state
              (.storeState fresh.now fresh.storedAt
                (forkedState payload fresh original))))
    (hFresh :
      ⟨fresh.stateId⟩ ∉ (reached config actions).index) :
    ForkAdds payload fresh (reached config actions) := by
  have hStore :=
    Session.runActions_store config MemoryBackend.new actions
  have hCoupled :
      Coupled used
        (Session.runActions config MemoryBackend.new
          actions) :=
    coupled_runActions hHash config rfl hRun
  rw [reached, ← hStore] at hFork hFresh ⊢
  exact forkAdds_of_coupled hHash hCoupled hFork hFresh

end StateStore

end IsaWorkspace

------------------------------------------------------------
-- A Fork of a Stored State
------------------------------------------------------------

namespace IsaWorkspace

/- A state and its fork with their JSON and its digests. -/
namespace ForkSample

open Sample (epoch first firstJson json)
open StateStore (Coupled Within)

def payload : ForkRequest where
  stateId := "a"
  label := none

def fresh : ForkFresh where
  stateId := "c"
  stream := 0
  createdAt := epoch
  now := epoch
  storedAt := epoch

def forked : State :=
  forkedState payload fresh first

def forkedJson : Bytes :=
  json "c" "fork-of-first" "60"

scoped instance : Sha256 where
  digest data :=
    digestOf <|
      if data = firstJson then
        0xdf65cbb097309569617ae43a22fa90dcecc267da3bb09880e044ab12192c7878
      else
        0x3623d0ed97c917f1dac32db4dd9b78add1887a9c881a2725249d526392451e4d

scoped instance : SerdeJson State where
  toVec value :=
    if value.stateId = first.stateId then
      .ok firstJson
    else
      .ok forkedJson
  fromSlice data :=
    if data = firstJson then .ok first else .ok forked

scoped instance : BuildProfile where
  overflowChecks := true

theorem hash_injOn :
    Set.InjOn computeHash {firstJson, forkedJson} := by
  have hNe :
      computeHash firstJson ≠ computeHash forkedJson := by
    decide +kernel
  rintro left (rfl | rfl) right (rfl | rfl) hEq
  · rfl
  · exact absurd hEq hNe
  · exact absurd hEq.symm hNe
  · rfl

theorem within_first :
    Within {firstJson, forkedJson}
      (.state (.storeState epoch epoch first)) := by
  constructor
  · rintro key data ⟨hJson, rfl⟩
    cases hJson
    exact ⟨rfl, .inl rfl⟩
  · rintro state bytes rfl hJson
    cases hJson
    exact if_pos rfl

theorem within_forked :
    Within {firstJson, forkedJson}
      (.state (.storeState epoch epoch forked)) := by
  have hNe : forkedJson ≠ firstJson := by decide +kernel
  constructor
  · rintro key data ⟨hJson, rfl⟩
    cases hJson
    exact ⟨rfl, .inr rfl⟩
  · rintro state bytes rfl hJson
    cases hJson
    exact if_neg hNe

/- A store with one state. -/
def actions : List Action :=
  [.op (.state (.storeState epoch epoch first))]

theorem getState_first :
    (StateStore.getState ⟨payload.stateId⟩
        (StateStore.reached ⟨2⟩ actions)).1 = .ok first := by
  have hNew :
      Coupled {firstJson, forkedJson}
        ⟨[], StateStore.new ⟨2⟩ MemoryBackend.new⟩ :=
    StateStore.coupled_new ⟨2⟩ rfl
  have hOk :
      (StateStore.storeState epoch epoch first
        (StateStore.new ⟨2⟩ MemoryBackend.new)).1.isOk := by
    decide +kernel
  have hReached :
      StateStore.reached ⟨2⟩ actions =
        (StateStore.storeState epoch epoch first
          (StateStore.new ⟨2⟩ MemoryBackend.new)).2 := rfl
  rw [hReached]
  cases hStored :
      (StateStore.storeState epoch epoch first
        (StateStore.new ⟨2⟩ MemoryBackend.new)).1 with
  | ok stored =>
      have hRead :=
        StateStore.getState_after_stored hash_injOn
          within_first hNew hStored
          (rfl : _ = StateId.mk payload.stateId)
      exact hRead
  | err error =>
      rw [hStored] at hOk
      cases hOk
  | panicked =>
      rw [hStored] at hOk
      cases hOk

end ForkSample

namespace StateStore

open ForkSample

theorem forkAdds_reached_oneState :
    (forkState payload fresh (reached ⟨2⟩ actions)).1 =
        .ok ⟨"c"⟩ ∧
      ForkAdds payload fresh (reached ⟨2⟩ actions) := by
  refine ⟨by decide +kernel, ?_⟩
  apply
    forkAdds_reached ⟨2⟩ actions payload fresh hash_injOn
  · intro op hOp
    cases List.mem_singleton.mp hOp
    exact within_first
  · intro original hOriginal
    rw [getState_first] at hOriginal
    cases hOriginal
    exact within_forked
  · decide +kernel

end StateStore

end IsaWorkspace
