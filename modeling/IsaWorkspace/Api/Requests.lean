import IsaWorkspace.Api.Catalogue
import IsaWorkspace.Api.Fork

/-
  Requests in any order are requests on a catalogue.

  A step of a request changes the catalogue as its answer
  says: a snapshot or a fork that succeeds enters one state,
  a deletion takes one out, and nothing else changes it.  A
  resume or a fork finds what the catalogue holds at that
  moment, and a listing lists it.

  Main declarations:
    * `ApiCall.effect`, `ApiCall.Answers`
    * `ApiSystem.Serves`
    * `ApiCall.serves_step`, `ApiCall.fork_alone`
    * `ApiSystem.serves_of_run`
-/

------------------------------------------------------------
-- What Requests Do to a Catalogue
------------------------------------------------------------

namespace IsaWorkspace

/- The refusal of an id that names no state. -/
def absentState
    (stateId : String) : Refusal :=
  refusal .notFound
    ("State not found: " ++
      (StateStore.stateNotFound ⟨stateId⟩).text)

/- What is listed for a state. -/
structure ListedFor
    [SerdeJson State]
    (state : State)
    (listed : ListedState) : Prop where
  stateId : listed.stateId = state.stateId.id
  label : listed.label = state.metadata.label
  sizeBytes :
    ∃ bytes,
      SerdeJson.toVec state = .ok bytes ∧
        listed.sizeBytes = bytes.length

namespace ApiCall

/- What a step of a call does, by where it leads. -/
def effect
    (before after : ApiCall)
    (catalogue : Catalogue) : Catalogue :=
  match before, after with
  | .storing _ newState _ _, .snapshotted _ _ _ =>
      catalogue.keep newState
  | .copying _ newState _ _, .forked _ _ _ =>
      catalogue.keep newState
  | .delete _, .deleted response =>
      catalogue.drop ⟨response.stateId⟩
  | _, _ => catalogue

/- A call that goes on with the state that an id names. -/
def startsFrom
    (catalogue : Catalogue)
    (stateId : String)
    (next : State → ApiCall) : ApiCall :=
  if stateId = "" then
    .refused (refusal .badRequest "state_id is required")
  else
    match catalogue ⟨stateId⟩ with
    | some original => next original
    | none => .refused (absentState stateId)

/- Where a call that reads or deletes is led to. -/
def Answers
    [SerdeJson State]
    (catalogue : Catalogue)
    (before after : ApiCall) : Prop :=
  match before with
  | .resume payload fresh =>
      after =
        startsFrom catalogue payload.stateId
          (.booting payload fresh)
  | .fork payload fresh =>
      after =
        startsFrom catalogue payload.stateId
          fun original =>
            .copying original
              (forkedState payload fresh original)
              fresh.now fresh.storedAt
  | .delete payload =>
      after =
        match ApiService.textAt "state_id" payload with
        | some stateId =>
            .deleted { success := true, stateId := stateId }
        | none =>
            .refused
              (refusal .badRequest "state_id is required")
  | .list order =>
      let states := order.filterMap catalogue
      ∃ response,
        after = .listed response ∧
          response.count = states.length ∧
          List.Forall₂ ListedFor states response.states
  | .status order logEntries timestamp =>
      after =
        .reported
          { status := "healthy"
            storedStates := (order.filterMap catalogue).length
            logEntries := logEntries
            timestamp := timestamp }
  | _ => True

end ApiCall

/- The catalogue of a service. -/
def ApiService.catalogue
    [SerdeJson State]
    (service : ApiService) : Catalogue :=
  service.store.catalogue

/- The bytes of a state are of those used and decode to it. -/
def Encodes
    [SerdeJson State]
    (used : Set Bytes)
    (state : State) : Prop :=
  ∀ bytes, SerdeJson.toVec state = .ok bytes →
    bytes ∈ used ∧ SerdeJson.fromSlice bytes = .ok state

/- A call stores a state only if it can be encoded. -/
def ApiCall.StoresEncoded
    [SerdeJson State]
    (used : Set Bytes) : ApiCall → Prop
| .storing _ newState _ _ | .copying _ newState _ _ =>
    Encodes used newState
| _ => True

end IsaWorkspace

------------------------------------------------------------
-- One Step
------------------------------------------------------------

namespace IsaWorkspace

namespace ApiService

open Exec (bind_state mapErr_state)

variable {service : ApiService}

/- Calling a VM changes nothing but the VMs. -/
theorem onVm_collector
    {α : Type}
    (instanceId : String)
    (call : Exec VmWorld VMError α)
    (service : ApiService) :
    (onVm instanceId call service).2.collector =
      service.collector := by
  unfold onVm
  split <;> rfl

theorem orInternalError_state
    {σ ε α : Type}
    (describe : String)
    (text : ε → String)
    (call : Exec σ ε α)
    (state : σ) :
    (orInternalError describe text call state).2 =
      (call state).2 :=
  mapErr_state _ call state

/- Booting a VM that has been created changes the VMs only. -/
theorem bootOriginal_collector
    [PathDebug]
    (payload : ResumeRequest)
    (fresh : ResumeFresh)
    (original : State)
    (service : ApiService) :
    (bootOriginal payload fresh original service).2.collector =
      service.collector := by
  let P : ApiService → Prop :=
    fun after => after.collector = service.collector
  change P _
  unfold bootOriginal
  refine bind_state P ?_ fun _ created hCreated => ?_
  · change (orInternalError _ _ _ service).2.collector = _
    rw [orInternalError_state]
    rfl
  refine bind_state P ?_ fun _ booted hBooted => hBooted
  change (orInternalError _ _ _ created).2.collector = _
  rw [orInternalError_state, onVm_collector]
  exact hCreated

/- A snapshot that is taken changes the VMs only. -/
theorem takeSnapshot_collector
    [BuildProfile] [PathDebug]
    (payload : SnapshotRequest)
    (fresh : SnapshotFresh)
    (service : ApiService) :
    (takeSnapshot payload fresh service).2.collector =
      service.collector := by
  let P : ApiService → Prop :=
    fun after => after.collector = service.collector
  change P _
  unfold takeSnapshot
  split
  · rfl
  refine bind_state P rfl fun ttlSeconds parsed hParsed => ?_
  refine bind_state P ?_ fun _ created hCreated => ?_
  · change (orInternalError _ _ _ parsed).2.collector = _
    rw [orInternalError_state]
    exact hParsed
  refine bind_state P ?_ fun _ booted hBooted => ?_
  · change (orInternalError _ _ _ created).2.collector = _
    rw [orInternalError_state, onVm_collector]
    exact hCreated
  refine bind_state P ?_ fun _ taken hTaken => hTaken
  change (orInternalError _ _ _ booted).2.collector = _
  rw [orInternalError_state, onVm_collector]
  exact hBooted

/- A step that leaves the store alone. -/
theorem catalogue_of_store_eq
    [SerdeJson State]
    {after : ApiService}
    (hStore : after.store = service.store) :
    after.catalogue = service.catalogue := by
  unfold ApiService.catalogue
  rw [hStore]

/- A call of the store, and a response where it succeeds. -/
theorem onStore_then_apply
    {α β : Type}
    (describe : String)
    (call :
      Exec (StateStore MemoryBackend) StateStoreError α)
    (response : β)
    (service : ApiService) :
    (orInternalError describe StateStoreError.text
          (onStore call) >>=
        fun _ => pure response : Exec ApiService Refusal β)
        service =
      (match (call service.store).1 with
        | .ok _ => .ok response
        | .err error =>
            .err
              (refusal .internalServerError
                (describe ++ ": " ++ error.text))
        | .panicked => .panicked,
        service.withStore (call service.store).2) := by
  rcases hCall : call service.store with ⟨outcome, after⟩
  have hPart :
      onStore call service =
        (outcome, service.withStore after) := by
    unfold onStore
    rw [Exec.onPart_apply, hCall]
  cases outcome with
  | ok value =>
      exact Exec.bind_of_ok (Exec.mapErr_of_ok hPart)
  | err error =>
      exact Exec.bind_of_err (Exec.mapErr_of_err hPart)
  | panicked =>
      exact
        Exec.bind_of_panicked (Exec.mapErr_of_panicked hPart)

/- Nothing has changed but the store. -/
def StoreOnly
    (before after : ApiService) : Prop :=
  ∃ store, after = before.withStore store

section StoreOnly

variable [SerdeJson State]

theorem originalState_storeOnly
    (stateId : String)
    (service : ApiService) :
    StoreOnly service (originalState stateId service).2 := by
  unfold originalState
  split
  · exact ⟨service.store, rfl⟩
  · rw [mapErr_state]
    exact ⟨_, rfl⟩

theorem keepSnapshot_storeOnly
    [Sha256]
    (now storedAt : DateTime)
    (newState : State)
    (service : ApiService) :
    StoreOnly service
      (keepSnapshot now storedAt newState service).2 := by
  rw [keepSnapshot, onStore_then_apply]
  exact ⟨_, rfl⟩

theorem keepFork_storeOnly
    [Sha256]
    (now storedAt : DateTime)
    (newState : State)
    (service : ApiService) :
    StoreOnly service
      (keepFork now storedAt newState service).2 := by
  rw [keepFork, onStore_then_apply]
  exact ⟨_, rfl⟩

omit [SerdeJson State] in
theorem deleteState_storeOnly
    (payload : JsonValue)
    (service : ApiService) :
    StoreOnly service (deleteState payload service).2 := by
  rw [deleteState]
  cases textAt "state_id" payload with
  | none => exact ⟨service.store, rfl⟩
  | some stateId =>
      dsimp only
      rw [onStore_then_apply]
      exact ⟨_, rfl⟩

end StoreOnly

end ApiService

namespace ApiCall

open ApiService (onStore_then_apply)
open StateStore (Catalogued Coupled Within)

@[simp] theorem advance_snd
    {α : Type}
    (result : Outcome Refusal α × ApiService)
    (next : α → ApiCall) :
    (advance result next).2 = result.2 := by
  rcases result with ⟨outcome, after⟩
  cases outcome <;> rfl

variable [BuildProfile] [PathDebug]
variable [Sha256] [SerdeJson State]
variable {used : Set Bytes} {service : ApiService}

/- A step does to the catalogue what its answer says. -/
structure Served
    (used : Set Bytes)
    (service : ApiService)
    (call : ApiCall) : Prop where
  catalogued : Catalogued used (call.step service).2.store
  effect :
    (call.step service).2.catalogue =
      call.effect (call.step service).1 service.catalogue
  answers :
    call.Answers service.catalogue (call.step service).1

omit [BuildProfile] [PathDebug] in
theorem within_of_encodes
    {newState : State}
    (hEncodes : Encodes used newState)
    (now storedAt : DateTime) :
    Within used
      (.state (.storeState now storedAt newState)) := by
  constructor
  · rintro key data ⟨hJson, hKey⟩
    exact ⟨hKey, (hEncodes data hJson).1⟩
  · rintro state bytes rfl hJson
    exact (hEncodes bytes hJson).2

/- The state that a call starts from is the one named. -/
omit [BuildProfile] [PathDebug] in
theorem originalState_eq
    (hCatalogued : Catalogued used service.store)
    {stateId : String}
    (hNonempty : stateId ≠ "") :
    ApiService.originalState stateId service =
      (match service.catalogue ⟨stateId⟩ with
        | some original => .ok original
        | none => .err (absentState stateId),
        service.withStore
          (StateStore.getState ⟨stateId⟩
            service.store).2) := by
  have hGet :=
    StateStore.getState_of_catalogued hCatalogued ⟨stateId⟩
  unfold ApiService.originalState ApiService.catalogue
  rw [if_neg hNonempty]
  rcases hRead :
      StateStore.getState ⟨stateId⟩ service.store with
    ⟨outcome, after⟩
  rw [hRead] at hGet
  have hPart :
      ApiService.onStore (StateStore.getState ⟨stateId⟩)
          service =
        (outcome, service.withStore after) := by
    unfold ApiService.onStore
    rw [Exec.onPart_apply, hRead]
  cases hFound : service.store.catalogue ⟨stateId⟩ with
  | some original =>
      rw [hFound] at hGet
      cases hGet
      exact Exec.mapErr_of_ok hPart
  | none =>
      rw [hFound] at hGet
      cases hGet
      exact Exec.mapErr_of_err hPart

/- What a call comes to that starts from a state. -/
theorem served_of_startsFrom
    (hHash : Set.InjOn computeHash used)
    (hCatalogued : Catalogued used service.store)
    {call : ApiCall}
    (stateId : String)
    (next : State → ApiCall)
    (hStep :
      call.step service =
        advance (ApiService.originalState stateId service)
          next)
    (hEffect :
      ∀ after catalogue,
        call.effect after catalogue = catalogue)
    (hAnswers :
      call.Answers service.catalogue
        (startsFrom service.catalogue stateId next)) :
    Served used service call := by
  have hResult :
      Catalogued used (call.step service).2.store ∧
        (call.step service).2.catalogue =
          service.catalogue ∧
        (call.step service).1 =
          startsFrom service.catalogue stateId next := by
    rw [hStep]
    by_cases hEmpty : stateId = ""
    · unfold ApiService.originalState startsFrom
      rw [if_pos hEmpty, if_pos hEmpty]
      exact ⟨hCatalogued, rfl, rfl⟩
    · rcases
          StateStore.catalogued_read hHash hCatalogued
            ⟨stateId⟩ with
        ⟨hRead, hSame⟩
      rw [originalState_eq hCatalogued hEmpty, advance_snd]
      refine ⟨hRead, hSame, ?_⟩
      unfold startsFrom
      rw [if_neg hEmpty]
      cases service.catalogue ⟨stateId⟩ <;> rfl
  rcases hResult with ⟨hAfter, hSame, hNext⟩
  refine ⟨hAfter, ?_, ?_⟩
  · rw [hEffect]
    exact hSame
  · rw [hNext]
    exact hAnswers

/- What a call comes to that stores a state. -/
theorem served_of_stores
    {α : Type}
    (hHash : Set.InjOn computeHash used)
    (hCatalogued : Catalogued used service.store)
    {call : ApiCall}
    {newState : State}
    {now storedAt : DateTime}
    (hEncodes : Encodes used newState)
    {describe : String}
    {response : α}
    {next : α → ApiCall}
    (hStep :
      call.step service =
        advance
          ((ApiService.orInternalError describe
                StateStoreError.text
                (ApiService.onStore
                  (StateStore.storeState now storedAt
                    newState)) >>=
              fun _ => pure response :
            Exec ApiService Refusal α) service)
          next)
    (hKeeps :
      ∀ catalogue,
        call.effect (next response) catalogue =
          catalogue.keep newState)
    (hFails :
      (∀ answer catalogue,
          call.effect (.refused answer) catalogue =
            catalogue) ∧
        ∀ catalogue,
          call.effect .panicked catalogue = catalogue)
    (hAnswers :
      ∀ catalogue after, call.Answers catalogue after) :
    Served used service call := by
  rcases
      StateStore.catalogued_store hHash
        (within_of_encodes hEncodes now storedAt)
        hCatalogued with
    ⟨hAfter, hSame⟩
  rw [onStore_then_apply] at hStep
  rcases hStored :
      StateStore.storeState now storedAt newState
        service.store with
    ⟨outcome, after⟩
  rw [hStored] at hStep hAfter hSame
  have hCatalogue :
      (call.step service).2.catalogue = after.catalogue := by
    rw [hStep, advance_snd]
    rfl
  refine ⟨?_, ?_, hAnswers _ _⟩
  · rw [hStep, advance_snd]
    exact hAfter
  · rw [hCatalogue, hSame, hStep]
    cases outcome with
    | ok stored => exact (hKeeps _).symm
    | err error => exact (hFails.1 _ _).symm
    | panicked => exact (hFails.2 _).symm

/-
  A fork whose two steps follow each other is the fork of a
  store on its own.
-/
theorem fork_alone
    (payload : ForkRequest)
    (fresh : ForkFresh)
    (service : ApiService) :
    let first := (ApiCall.fork payload fresh).step service
    let second := first.1.step first.2
    let alone := forkState payload fresh service.store
    second.2 = service.withStore alone.2 ∧
      match alone.1 with
      | .ok response =>
          ∃ original newState,
            second.1 = .forked original newState response
      | .err answer => second.1 = .refused answer
      | .panicked => second.1 = .panicked := by
  dsimp only
  rw [forkState_eq]
  by_cases hEmpty : payload.stateId = ""
  · have hFirst :
        (ApiCall.fork payload fresh).step service =
          (.refused
              (refusal .badRequest "state_id is required"),
            service) := by
      rw [ApiCall.step, ApiService.originalState,
        if_pos hEmpty]
      rfl
    rw [hFirst, if_pos hEmpty]
    exact ⟨rfl, rfl⟩
  · rw [if_neg hEmpty]
    rcases hGet :
        StateStore.getState ⟨payload.stateId⟩
          service.store with
      ⟨outcome, read⟩
    have hPart :
        ApiService.onStore
            (StateStore.getState ⟨payload.stateId⟩) service =
          (outcome, service.withStore read) := by
      unfold ApiService.onStore
      rw [Exec.onPart_apply, hGet]
    have hFirst :
        (ApiCall.fork payload fresh).step service =
          advance
            (Exec.mapErr
              (fun error =>
                refusal .notFound
                  ("State not found: " ++
                    StateStoreError.text error))
              (ApiService.onStore
                (StateStore.getState ⟨payload.stateId⟩))
              service)
            fun original =>
              .copying original
                (forkedState payload fresh original)
                fresh.now fresh.storedAt := by
      rw [ApiCall.step, ApiService.originalState,
        if_neg hEmpty]
    cases outcome with
    | err error =>
        rw [hFirst, Exec.mapErr_of_err hPart]
        exact ⟨rfl, rfl⟩
    | panicked =>
        rw [hFirst, Exec.mapErr_of_panicked hPart]
        exact ⟨rfl, rfl⟩
    | ok original =>
        rw [hFirst, Exec.mapErr_of_ok hPart]
        dsimp only [advance, ApiCall.step]
        rw [ApiService.keepFork, onStore_then_apply]
        dsimp only [ApiService.withStore_store]
        rcases hStore :
            StateStore.storeState fresh.now fresh.storedAt
              (forkedState payload fresh original) read with
          ⟨result, after⟩
        cases result with
        | ok stored => exact ⟨rfl, _, _, rfl⟩
        | err error => exact ⟨rfl, rfl⟩
        | panicked => exact ⟨rfl, rfl⟩
/- The entries that are visited describe what is named. -/
omit [BuildProfile] [PathDebug] in
theorem forall₂_entriesIn
    (hCatalogued : Catalogued used service.store)
    (order : List StateId) :
    List.Forall₂
      (fun state stored =>
        StateStore.Describes stored state)
      (order.filterMap service.catalogue)
      (service.entriesIn order) := by
  induction order with
  | nil => exact .nil
  | cons stateId rest ih =>
      unfold ApiService.entriesIn at ih ⊢
      cases hLookup :
          service.store.index.lookup stateId with
      | none =>
          have hNone :
              service.catalogue stateId = none :=
            StateStore.catalogue_of_lookup_none hLookup
          simp only [List.filterMap_cons, hNone, hLookup]
          exact ih
      | some stored =>
          rcases
              hCatalogued.entries stateId stored hLookup with
            ⟨state, hState, _, hDescribes⟩
          have hSome :
              service.catalogue stateId = some state := hState
          simp only [List.filterMap_cons, hSome, hLookup]
          exact .cons hDescribes ih

/- A listing is of the states that are named. -/
omit [BuildProfile] [PathDebug] in
theorem listed_of_catalogued
    (hCatalogued : Catalogued used service.store)
    (order : List StateId) :
    let states := order.filterMap service.catalogue
    let response := service.listStates order
    response.count = states.length ∧
      List.Forall₂ ListedFor states response.states := by
  have hEntries := forall₂_entriesIn hCatalogued order
  constructor
  · exact
      (List.length_map _).trans hEntries.length_eq.symm
  · apply List.forall₂_map_right_iff.mpr
    apply hEntries.imp
    intro state stored hDescribes
    exact
      ⟨congrArg StateId.id hDescribes.stateId,
        congrArg StateMetadata.label hDescribes.metadata,
        hDescribes.sizeBytes⟩

/- Every step of a call is served. -/
theorem serves_step
    (hHash : Set.InjOn computeHash used)
    (hCatalogued : Catalogued used service.store)
    {call : ApiCall}
    (hEncoded : call.StoresEncoded used) :
    Served used service call := by
  cases call with
  | snapshot payload fresh =>
      have hStore :
          ((ApiCall.snapshot payload fresh).step
              service).2.store = service.store := by
        rw [ApiCall.step, advance_snd]
        exact
          congrArg Collector.store
            (ApiService.takeSnapshot_collector payload fresh
              service)
      refine ⟨?_, ApiService.catalogue_of_store_eq hStore, trivial⟩
      rw [hStore]
      exact hCatalogued
  | storing instanceId newState now storedAt =>
      exact
        served_of_stores hHash hCatalogued hEncoded rfl
          (fun _ => rfl) ⟨fun _ _ => rfl, fun _ => rfl⟩
          (fun _ _ => trivial)
  | resume payload fresh =>
      exact
        served_of_startsFrom hHash hCatalogued _ _ rfl
          (fun _ _ => rfl) rfl
  | booting payload fresh original =>
      have hStore :
          ((ApiCall.booting payload fresh original).step
              service).2.store = service.store := by
        rw [ApiCall.step, advance_snd]
        exact
          congrArg Collector.store
            (ApiService.bootOriginal_collector payload fresh
              original service)
      refine ⟨?_, ApiService.catalogue_of_store_eq hStore, trivial⟩
      rw [hStore]
      exact hCatalogued
  | fork payload fresh =>
      exact
        served_of_startsFrom hHash hCatalogued _ _ rfl
          (fun _ _ => rfl) rfl
  | copying original newState now storedAt =>
      exact
        served_of_stores hHash hCatalogued hEncoded rfl
          (fun _ => rfl) ⟨fun _ _ => rfl, fun _ => rfl⟩
          (fun _ _ => trivial)
  | delete payload =>
      cases hText : ApiService.textAt "state_id" payload with
      | none =>
          have hHandler :
              ApiService.deleteState payload service =
                (.err
                    (refusal .badRequest
                      "state_id is required"),
                  service) := by
            unfold ApiService.deleteState
            rw [hText]
            rfl
          have hStep :
              (ApiCall.delete payload).step service =
                (.refused
                    (refusal .badRequest
                      "state_id is required"),
                  service) :=
            congrArg (advance · ApiCall.deleted) hHandler
          refine ⟨?_, ?_, ?_⟩
          · rw [hStep]
            exact hCatalogued
          · rw [hStep]
            rfl
          · rw [hStep]
            simp only [Answers, hText]
      | some stateId =>
          rcases
              StateStore.catalogued_delete hHash hCatalogued
                ⟨stateId⟩ with
            ⟨hDone, hAfter, hSame⟩
          have hHandler :
              ApiService.deleteState payload service =
                (.ok { success := true, stateId := stateId },
                  service.withStore
                    (StateStore.deleteState ⟨stateId⟩
                      service.store).2) := by
            unfold ApiService.deleteState
            rw [hText]
            dsimp only
            rw [onStore_then_apply, hDone]
          have hStep :
              (ApiCall.delete payload).step service =
                (.deleted
                    { success := true, stateId := stateId },
                  service.withStore
                    (StateStore.deleteState ⟨stateId⟩
                      service.store).2) :=
            congrArg (advance · ApiCall.deleted) hHandler
          refine ⟨?_, ?_, ?_⟩
          · rw [hStep]
            exact hAfter
          · rw [hStep]
            exact hSame
          · rw [hStep]
            simp only [Answers, hText]
  | list order =>
      refine ⟨hCatalogued, rfl, ?_⟩
      exact ⟨_, rfl, listed_of_catalogued hCatalogued order⟩
  | status order logEntries timestamp =>
      refine ⟨hCatalogued, rfl, ?_⟩
      have hLength :=
        (forall₂_entriesIn hCatalogued order).length_eq
      change
        ApiCall.reported
            (service.getStatus order logEntries timestamp) =
          _
      rw [hLength]
      rfl
  | snapshotted instanceId newState response =>
      exact ⟨hCatalogued, rfl, trivial⟩
  | resumed instanceId original response =>
      exact ⟨hCatalogued, rfl, trivial⟩
  | forked original newState response =>
      exact ⟨hCatalogued, rfl, trivial⟩
  | deleted response => exact ⟨hCatalogued, rfl, trivial⟩
  | listed response => exact ⟨hCatalogued, rfl, trivial⟩
  | reported response => exact ⟨hCatalogued, rfl, trivial⟩
  | refused answer => exact ⟨hCatalogued, rfl, trivial⟩
  | panicked => exact ⟨hCatalogued, rfl, trivial⟩

end ApiCall

end IsaWorkspace

------------------------------------------------------------
-- Every Order of Steps
------------------------------------------------------------

namespace IsaWorkspace

namespace ApiSystem

open StateStore (Catalogued)

variable [BuildProfile] [PathDebug]
variable [Sha256] [SerdeJson State]
variable {used : Set Bytes}

/- Neither a call nor the catalogue has changed. -/
def Idle
    (before after : ApiSystem) : Prop :=
  after.calls = before.calls ∧
    after.shared.catalogue = before.shared.catalogue

/-
  A call that takes a step is led to where the catalogue
  leads it, and changes the catalogue as its answer says.
  Nothing else that happens is to be seen.
-/
def Serves
    (system : ApiSystem)
    (event : ApiEvent) : Prop :=
  let after := system.step event
  match event with
  | .call position =>
      match system.calls[position]? with
      | none => Idle system after
      | some call =>
          ∃ next,
            after.calls = system.calls.set position next ∧
              call.Answers system.shared.catalogue next ∧
              after.shared.catalogue =
                call.effect next system.shared.catalogue
  | .scan _ _ | .remove => Idle system after

/- Whoever is about to store a state can encode it. -/
def StoresEncoded
    (used : Set Bytes)
    (system : ApiSystem) : ApiEvent → Prop
| .call position =>
    ∀ call, system.calls[position]? = some call →
      call.StoresEncoded used
| .scan _ _ | .remove => True

/- The store is catalogued, and nothing is to be collected. -/
structure Catalogued
    (used : Set Bytes)
    (system : ApiSystem) : Prop where
  store : StateStore.Catalogued used system.shared.store
  pending : system.shared.collector.pending = []

omit [BuildProfile] [PathDebug] in
theorem catalogued_start
    (now : DateTime)
    (calls : List ApiCall) :
    Catalogued used (start now calls) where
  store := StateStore.catalogued_new .default
  pending := rfl

/- The requests change nothing of the collector. -/
theorem pending_step
    (call : ApiCall)
    (service : ApiService) :
    (call.step service).2.collector.pending =
      service.collector.pending := by
  have hSame :
      ∀ after, ApiService.StoreOnly service after →
        after.collector.pending =
          service.collector.pending := by
    rintro after ⟨store, rfl⟩
    rfl
  cases call with
  | snapshot payload fresh =>
      rw [ApiCall.step, ApiCall.advance_snd,
        ApiService.takeSnapshot_collector]
  | storing instanceId newState now storedAt =>
      rw [ApiCall.step, ApiCall.advance_snd]
      exact
        hSame _
          (ApiService.keepSnapshot_storeOnly _ _ _ service)
  | resume payload fresh =>
      rw [ApiCall.step, ApiCall.advance_snd]
      exact
        hSame _ (ApiService.originalState_storeOnly _ service)
  | booting payload fresh original =>
      rw [ApiCall.step, ApiCall.advance_snd,
        ApiService.bootOriginal_collector]
  | fork payload fresh =>
      rw [ApiCall.step, ApiCall.advance_snd]
      exact
        hSame _ (ApiService.originalState_storeOnly _ service)
  | copying original newState now storedAt =>
      rw [ApiCall.step, ApiCall.advance_snd]
      exact
        hSame _ (ApiService.keepFork_storeOnly _ _ _ service)
  | delete payload =>
      rw [ApiCall.step, ApiCall.advance_snd]
      exact
        hSame _ (ApiService.deleteState_storeOnly _ service)
  | _ => rfl

variable {system : ApiSystem}

/- A step of the collector has nothing to do. -/
omit [PathDebug] in
theorem idle_collect
    (hCatalogued : Catalogued used system)
    {event : GcEvent}
    (hStep :
      ∀ after, after = system.shared.collector.step event →
        after.store = system.shared.store ∧
          after.pending = []) :
    Catalogued used (system.collect event) ∧
      Idle system (system.collect event) := by
  rcases hStep _ rfl with ⟨hStore, hPending⟩
  have hAfter :
      (system.collect event).shared.store =
        system.shared.store := hStore
  refine ⟨⟨?_, hPending⟩, rfl, ?_⟩
  · rw [hAfter]
    exact hCatalogued.store
  · exact ApiService.catalogue_of_store_eq hAfter

/- One event keeps the store catalogued and is served. -/
theorem serves_step
    (hHash : Set.InjOn computeHash used)
    (hCatalogued : Catalogued used system)
    {event : ApiEvent}
    (hEncoded : StoresEncoded used system event) :
    Catalogued used (system.step event) ∧
      Serves system event := by
  cases event with
  | call position =>
      cases hCall : system.calls[position]? with
      | none =>
          have hSame :
              system.step (.call position) = system :=
            Interleaved.step_of_none hCall
          simp only [Serves, hCall, hSame]
          exact ⟨hCatalogued, rfl, rfl⟩
      | some call =>
          have hServed :=
            ApiCall.serves_step hHash hCatalogued.store
              (hEncoded call hCall)
          have hPending :=
            (pending_step call system.shared).trans
              hCatalogued.pending
          have hStep :
              system.step (.call position) =
                ⟨(call.step system.shared).2,
                  system.calls.set position
                    (call.step system.shared).1⟩ := by
            change Interleaved.step _ system position = _
            unfold Interleaved.step
            rw [hCall]
          simp only [Serves, hCall, hStep]
          exact
            ⟨⟨hServed.catalogued, hPending⟩, _, rfl,
              hServed.answers, hServed.effect⟩
  | scan now order =>
      apply idle_collect hCatalogued
      rintro after rfl
      have hScan :=
        StateStore.gcScan_eq_nil hCatalogued.store now order
      unfold Collector.step
      rw [hCatalogued.pending]
      exact ⟨rfl, hScan⟩
  | remove =>
      apply idle_collect hCatalogued
      rintro after rfl
      unfold Collector.step
      rw [hCatalogued.pending]
      exact ⟨rfl, hCatalogued.pending⟩

/-
  What does not depend on the order of the calls, is kept by
  every step that is served, and asks for nothing but the
  store, the VMs and the recording.
-/
structure KeptByCalls
    (used : Set Bytes)
    (K : ApiService → List ApiCall → Prop) : Prop where
  perm :
    ∀ {service calls calls'},
      K service calls → calls.Perm calls' → K service calls'
  step :
    ∀ {service call rest},
      ApiCall.Served used service call →
        K service (call :: rest) →
          K (call.step service).2
            ((call.step service).1 :: rest)
  collector :
    ∀ {service service' calls},
      K service calls →
        service'.store = service.store →
          service'.vms = service.vms →
            service'.recording = service.recording →
              K service' calls

/- What is kept so is kept by every event. -/
theorem keeps_of_calls
    {K : ApiService → List ApiCall → Prop}
    (hKeeps : KeptByCalls used K)
    (hHash : Set.InjOn computeHash used)
    (hCatalogued : Catalogued used system)
    (hKept : K system.shared system.calls)
    {event : ApiEvent}
    (hEncoded : StoresEncoded used system event) :
    K (system.step event).shared (system.step event).calls := by
  cases event with
  | call position =>
      let I : ApiService → List ApiCall → Prop :=
        fun service calls =>
          StateStore.Catalogued used service.store ∧
            K service calls
      have hInvariant :
          I (system.step (.call position)).shared
            (system.step (.call position)).calls := by
        apply Interleaved.invariant_step
        · rintro service calls calls' ⟨hStore, hK⟩ hPerm
          exact ⟨hStore, hKeeps.perm hK hPerm⟩
        · rintro call hCall ⟨hStore, hK⟩
          have hServed :=
            ApiCall.serves_step hHash hStore
              (hEncoded call hCall)
          exact ⟨hServed.catalogued, hKeeps.step hServed hK⟩
        · exact ⟨hCatalogued.store, hKept⟩
      exact hInvariant.2
  | scan now order =>
      refine hKeeps.collector hKept ?_ ?_ ?_
      · change (Collector.step _ _).store = _
        unfold Collector.step
        rw [hCatalogued.pending]
        rfl
      · rfl
      · rfl
  | remove =>
      refine hKeeps.collector hKept ?_ ?_ ?_
      · change (Collector.step _ _).store = _
        unfold Collector.step
        rw [hCatalogued.pending]
        rfl
      · rfl
      · rfl

/- What is kept so holds throughout a run. -/
theorem throughout_of_calls
    {K : ApiService → List ApiCall → Prop}
    (hKeeps : KeptByCalls used K)
    (hHash : Set.InjOn computeHash used)
    (hCatalogued : Catalogued used system)
    (hKept : K system.shared system.calls)
    {events : List ApiEvent}
    (hEncoded :
      Runs.AlongRun step (StoresEncoded used) system
        events) :
    Runs.Throughout step
      (fun after =>
        Catalogued used after ∧ K after.shared after.calls)
      system events := by
  apply Runs.throughout_of_alongRun ?_ ?_ hEncoded
  · rintro before event ⟨hBefore, hK⟩ hStores
    exact
      ⟨(serves_step hHash hBefore hStores).1,
        keeps_of_calls hKeeps hHash hBefore hK hStores⟩
  · exact ⟨hCatalogued, hKept⟩

/-
  The service is a catalogue.  Whatever requests come in on a
  new service, in whatever order they and the collector take
  their steps, each step does to the catalogue what the
  answer says, and no state is lost, collected or mistaken.
-/
theorem serves_of_run
    (now : DateTime)
    (calls : List ApiCall)
    (events : List ApiEvent)
    (hHash : Set.InjOn computeHash used)
    (hEncoded :
      Runs.AlongRun step (StoresEncoded used)
        (start now calls) events) :
    (∀ stateId,
        (start now calls).shared.catalogue stateId = none) ∧
      Runs.AlongRun step Serves (start now calls) events := by
  refine ⟨StateStore.catalogue_new .default, ?_⟩
  exact
    Runs.alongRun_of_invariant
      (fun _ _ hCatalogued hStores =>
        (serves_step hHash hCatalogued hStores).1)
      (fun _ _ hCatalogued hStores =>
        (serves_step hHash hCatalogued hStores).2)
      (catalogued_start now calls) hEncoded

end ApiSystem

end IsaWorkspace

------------------------------------------------------------
-- A Sample of Requests
------------------------------------------------------------

namespace IsaWorkspace

/-
  A snapshot, a fork and a resume of it, and its deletion
  before the fork is stored and the resume is booted.
-/
namespace ApiSample

open Sample (epoch)

def bootAnswers : VMHandle.BootAnswers where
  createDir := none
  serialize := none
  writeConfig := none
  spawn := none
  ready := fun attempts => decide (attempts = 1)
  exited := fun _ => false

def snapshotAnswers : VMHandle.SnapshotAnswers where
  createDir := none
  pause := none
  createFullSnapshot := none
  resume := none
  cpuConfig := .ok ⟨2, none⟩
  snapshotId := "00000000-0000-0000-0000-000000000003"
  now := epoch

def snapshotFresh : SnapshotFresh where
  instanceId := "00000000-0000-0000-0000-000000000001"
  guest := .running
  boot := bootAnswers
  snapshot := snapshotAnswers
  stateId := "a"
  fdTable := []
  socketTable := []
  deterministicLog := ⟨[]⟩
  stream := 0
  createdAt := epoch
  now := epoch
  storedAt := epoch

def resumeFresh : ResumeFresh where
  instanceId := "00000000-0000-0000-0000-000000000002"
  guest := .running
  boot := bootAnswers

def forkFresh : ForkFresh where
  stateId := "c"
  stream := 0
  createdAt := epoch
  now := epoch
  storedAt := epoch

def calls : List ApiCall :=
  [.snapshot ⟨"first", some "1m"⟩ snapshotFresh,
    .fork ⟨"a", none⟩ forkFresh,
    .resume ⟨"a", none, none⟩ resumeFresh,
    .delete (.object [("state_id", .string "a")])]

def events : List ApiEvent :=
  [.call 0, .call 0, .call 1, .call 2, .call 3,
    .scan epoch [⟨"a"⟩], .call 1, .call 2, .remove]

/- The state of the snapshot. -/
def snapped : State where
  stateId := ⟨"a"⟩
  vmConfig := snapshotVmConfig
  cpuState :=
    { arch := "x86_64"
      registers :=
        .object
          [("captured_via", .string "firecracker_api"),
            ("cpu_count", .posInt 2),
            ("cpu_template", .null)] }
  memoryManifest :=
    [{ regionId := "stack-0"
       baseAddr := 0x7fff00000000
       size := 8 * 1024 * 1024
       flags := { read := true, write := true, execute := false }
       temperature := .hot },
      { regionId := "heap-0"
        baseAddr := 0x40000000
        size := 256 * 1024 * 1024
        flags :=
          { read := true, write := true, execute := false }
        temperature := .warm }]
  fdTable := []
  socketTable := []
  deviceState := []
  deterministicLog := ⟨[]⟩
  uiState := ⟨0⟩
  metadata := ⟨"first", epoch, some 60⟩

def copied : State :=
  forkedState ⟨"a", none⟩ forkFresh snapped

def json
    (id label : String) : Bytes :=
  asBytes ("\x7b\"state_id\":\"" ++ id ++
    "\",\"vm_config\":\x7b\"vcpus\":2," ++
    "\"memory_mb\":512," ++
    "\"kernel_image\":\"/tmp/vmlinux.bin\"," ++
    "\"rootfs_image\":\"/tmp/rootfs.ext4\"\x7d," ++
    "\"cpu_state\":\x7b\"arch\":\"x86_64\"," ++
    "\"registers\":\x7b" ++
    "\"captured_via\":\"firecracker_api\"," ++
    "\"cpu_count\":2,\"cpu_template\":null\x7d\x7d," ++
    "\"memory_manifest\":[\x7b\"region_id\":\"stack-0\"," ++
    "\"base_addr\":140733193388032,\"size\":8388608," ++
    "\"flags\":\x7b\"read\":true,\"write\":true," ++
    "\"execute\":false\x7d,\"temperature\":\"HOT\"\x7d," ++
    "\x7b\"region_id\":\"heap-0\"," ++
    "\"base_addr\":1073741824,\"size\":268435456," ++
    "\"flags\":\x7b\"read\":true,\"write\":true," ++
    "\"execute\":false\x7d,\"temperature\":\"WARM\"\x7d]," ++
    "\"fd_table\":[],\"socket_table\":[]," ++
    "\"device_state\":[]," ++
    "\"deterministic_log\":\x7b\"events\":[]\x7d," ++
    "\"ui_state\":\x7b\"stream_id\":\"" ++
    "00000000-0000-0000-0000-000000000000\"\x7d," ++
    "\"metadata\":\x7b\"label\":\"" ++ label ++
    "\",\"created_at\":\"1970-01-01T00:00:00Z\"," ++
    "\"ttl_seconds\":60\x7d\x7d")

def snappedJson : Bytes :=
  json "a" "first"

def copiedJson : Bytes :=
  json "c" "fork-of-first"

scoped instance : Sha256 where
  digest data :=
    digestOf <|
      if data = snappedJson then
        0x04f6f72e98d4457e42ac6af7b4e6242ee90951f4c01a5fbe7cdd85f75655a667
      else
        0xf8c1948b6724b90498d05d3534a205932779dfd331e0cbc322b7517e18cf7dba

scoped instance : SerdeJson State where
  toVec value :=
    if value.stateId = snapped.stateId then
      .ok snappedJson
    else
      .ok copiedJson
  fromSlice data :=
    if data = snappedJson then .ok snapped else .ok copied

scoped instance : BuildProfile where
  overflowChecks := true

scoped instance : PathDebug where
  debug := id

theorem hash_injOn :
    Set.InjOn computeHash {snappedJson, copiedJson} := by
  have hNe :
      computeHash snappedJson ≠ computeHash copiedJson := by
    decide +kernel
  rintro left (rfl | rfl) right (rfl | rfl) hEq
  · rfl
  · exact absurd hEq hNe
  · exact absurd hEq.symm hNe
  · rfl

theorem encodes_snapped :
    Encodes {snappedJson, copiedJson} snapped := by
  rintro bytes hJson
  cases hJson
  exact ⟨.inl rfl, if_pos rfl⟩

theorem encodes_copied :
    Encodes {snappedJson, copiedJson} copied := by
  have hNe : copiedJson ≠ snappedJson := by decide +kernel
  rintro bytes hJson
  cases hJson
  exact ⟨.inr rfl, if_neg hNe⟩

/- The call that is named stores a state that is encoded. -/
theorem storesEncoded_call
    {system : ApiSystem}
    {position : Nat}
    (call : ApiCall)
    (hCall : system.calls[position]? = some call)
    (hEncoded :
      call.StoresEncoded {snappedJson, copiedJson}) :
    ApiSystem.StoresEncoded {snappedJson, copiedJson} system
      (.call position) := by
  intro other hOther
  rw [hCall] at hOther
  cases hOther
  exact hEncoded

set_option maxRecDepth 20000 in
theorem encoded :
    Runs.AlongRun ApiSystem.step
      (ApiSystem.StoresEncoded {snappedJson, copiedJson})
      (ApiSystem.start epoch calls) events := by
  refine ⟨?_, ?_, ?_, ?_, ?_, trivial, ?_, ?_, trivial, trivial⟩
  · exact
      storesEncoded_call
        (.snapshot ⟨"first", some "1m"⟩ snapshotFresh) rfl
        trivial
  · exact
      storesEncoded_call
        (.storing snapshotFresh.instanceId snapped epoch
          epoch)
        rfl encodes_snapped
  · exact
      storesEncoded_call (.fork ⟨"a", none⟩ forkFresh) rfl
        trivial
  · exact
      storesEncoded_call
        (.resume ⟨"a", none, none⟩ resumeFresh) rfl trivial
  · exact
      storesEncoded_call
        (.delete (.object [("state_id", .string "a")])) rfl
        trivial
  · exact
      storesEncoded_call
        (.copying snapped copied epoch epoch) rfl
        encodes_copied
  · exact
      storesEncoded_call
        (.booting ⟨"a", none, none⟩ resumeFresh snapped) rfl
        trivial

theorem isRequest_of_mem :
    ∀ call ∈ calls, call.IsRequest := by
  rintro call hCall
  rcases List.mem_cons.mp hCall with rfl | hCall
  · trivial
  rcases List.mem_cons.mp hCall with rfl | hCall
  · trivial
  rcases List.mem_cons.mp hCall with rfl | hCall
  · trivial
  rcases List.mem_singleton.mp hCall with rfl
  trivial

end ApiSample

end IsaWorkspace

namespace IsaWorkspace

namespace ApiSystem

open ApiSample
open Sample (epoch)

theorem serves_of_run_sample :
    (∀ stateId,
        (start epoch calls).shared.catalogue stateId =
          none) ∧
      Runs.AlongRun step Serves (start epoch calls) events :=
  serves_of_run epoch calls events hash_injOn encoded

end ApiSystem

end IsaWorkspace
