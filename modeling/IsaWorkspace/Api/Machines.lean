import IsaWorkspace.Api.Accounts
import IsaWorkspace.Firecracker.Lifecycle

/-
  The VMs that requests leave behind.

  A snapshot and a resume each create a VM of their own, and
  no request stops one: the VM stays as the step that created
  it has left it, also where the request is then refused.
  Every VM has the one configuration that snapshots are made
  with, since a resume boots what was stored, and what was
  stored goes back to a snapshot.

  Main declarations:
    * `ApiService.BootsAt`
    * `ApiService.takeSnapshot_boots`
    * `ApiService.bootOriginal_boots`
    * `ApiService.takeSnapshot_of_booted`
    * `MachinesKept`, `ApiService.KeepsVms`
    * `ApiCall.boots`, `ApiCall.left_of_boots`
    * `ApiSystem.machinesKept_of_run`
-/

------------------------------------------------------------
-- What a Handler Does to the VMs
------------------------------------------------------------

namespace IsaWorkspace

namespace VMHandle

/- Booting keeps the configuration. -/
theorem boot_config
    [PathDebug]
    (answers : BootAnswers)
    (world : VmWorld) :
    (boot answers world).2.handle.config =
      world.handle.config := by
  let P : VmWorld → Prop :=
    fun after => after.handle.config = world.handle.config
  change P _
  unfold boot
  refine Exec.bind_state P ?_ fun _ first hFirst => ?_
  · change (attempt _ _ world).2.handle.config = _
    rw [attempt_state]
  refine Exec.bind_state P ?_ fun _ second hSecond => ?_
  · change (writeConfigFile _ first).2.handle.config = _
    rw [writeConfigFile_state]
    exact hFirst
  refine Exec.bind_state P hSecond fun _ third hThird => ?_
  refine Exec.bind_state P ?_ fun _ fourth hFourth => ?_
  · change (attempt _ _ third).2.handle.config = _
    rw [attempt_state]
    exact hThird
  refine Exec.bind_state P ?_ fun _ fifth hFifth => hFifth
  change (awaitSocket _ _ fourth).2.handle.config = _
  rw [awaitSocket_state]
  exact hFourth

/- A VM that has been booted is running. -/
theorem status_of_boot
    [PathDebug]
    {answers : BootAnswers}
    {world after : VmWorld}
    (hBoot : boot answers world = (.ok (), after)) :
    after.handle.status = .running := by
  rcases Exec.of_bind_ok hBoot with ⟨_, _, _, hFirst⟩
  rcases Exec.of_bind_ok hFirst with ⟨_, _, _, hSecond⟩
  rcases Exec.of_bind_ok hSecond with ⟨_, _, _, hThird⟩
  rcases Exec.of_bind_ok hThird with ⟨_, _, _, hFourth⟩
  rcases Exec.of_bind_ok hFourth with ⟨_, _, _, hFifth⟩
  cases hFifth
  rfl

/- A snapshot keeps the configuration. -/
theorem snapshot_config
    (answers : SnapshotAnswers)
    (world : VmWorld) :
    (snapshot answers world).2.handle.config =
      world.handle.config := by
  rw [(VmWorld.snapshot_cases world answers).1]
  cases world.failsAt answers with
  | none => rfl
  | some failure => cases failure <;> rfl

/- A VM that has been snapshotted is running. -/
theorem status_of_snapshot
    {answers : SnapshotAnswers}
    {world after : VmWorld}
    {taken : VMSnapshot}
    (hSnapshot :
      snapshot answers world = (.ok taken, after)) :
    after.handle.status = .running := by
  rcases VmWorld.snapshot_cases world answers with
    ⟨hAfter, hOutcome⟩
  rw [hSnapshot] at hAfter hOutcome
  cases hFails : world.failsAt answers with
  | none =>
      rw [hFails] at hAfter
      rw [show after = _ from hAfter]
      rfl
  | some failure =>
      rw [hFails] at hOutcome
      rcases hOutcome with ⟨error, hError⟩
      cases hError

end VMHandle

namespace ApiService

/- A VM of its own is all that a request has changed. -/
structure BootsAt
    (instanceId : String)
    (config : VMConfig)
    (before after : ApiService) : Prop where
  others :
    ∀ other, other ≠ instanceId →
      after.vms.lookup other = before.vms.lookup other
  own :
    ∃ world,
      after.vms.lookup instanceId = some world ∧
        world.handle.config = config
  recording : after.recording = before.recording

/- The VM of an id is there, with a status. -/
def HasStatus
    (service : ApiService)
    (instanceId : String)
    (status : VMStatus) : Prop :=
  ∃ world,
    service.vms.lookup instanceId = some world ∧
      world.handle.status = status

variable {before middle : ApiService}
variable {instanceId : String} {config : VMConfig}

theorem createVm_boots
    (instanceId : String)
    (config : VMConfig)
    (guest : GuestState)
    (service : ApiService) :
    BootsAt instanceId config service
      (createVm instanceId config guest service).2 where
  others := by
    intro other hOther
    change (service.vms.insert _ _).lookup other = _
    rw [HashMap.lookup_insert_eq_ite, if_neg hOther]
  own := by
    exact
      ⟨{ handle :=
            .new instanceId config service.firecrackerConfig
         guest := guest },
        Finmap.lookup_insert service.vms, rfl⟩
  recording := rfl

/- A call of the new VM is no exception. -/
theorem onVm_boots
    {α : Type}
    {call : Exec VmWorld VMError α}
    (hKeeps :
      ∀ world,
        (call world).2.handle.config = world.handle.config)
    (hBoots : BootsAt instanceId config before middle) :
    BootsAt instanceId config before
      (onVm instanceId call middle).2 := by
  rcases hBoots.own with ⟨world, hLookup, hConfig⟩
  unfold onVm
  rw [hLookup]
  constructor
  · intro other hOther
    change (middle.vms.insert _ _).lookup other = _
    rw [HashMap.lookup_insert_eq_ite, if_neg hOther]
    exact hBoots.others other hOther
  · refine ⟨_, Finmap.lookup_insert middle.vms, ?_⟩
    exact (hKeeps world).trans hConfig
  · exact hBoots.recording

/- A call of a VM leaves the VM as the call does. -/
theorem onVm_of_ok
    {α : Type}
    {call : Exec VmWorld VMError α}
    {value : α}
    {after : ApiService}
    (hCall :
      onVm instanceId call middle = (.ok value, after)) :
    ∃ world world',
      call world = (.ok value, world') ∧
        after.vms.lookup instanceId = some world' := by
  unfold onVm at hCall
  cases hLookup : middle.vms.lookup instanceId with
  | none =>
      rw [hLookup] at hCall
      cases hCall
  | some world =>
      rw [hLookup] at hCall
      dsimp only at hCall
      rcases hWorld : call world with ⟨outcome, world'⟩
      rw [hWorld] at hCall
      cases hCall
      exact ⟨world, world', hWorld, Finmap.lookup_insert _⟩

variable [PathDebug]

/- A snapshot has been refused at once, or created its VM. -/
theorem takeSnapshot_boots
    [BuildProfile]
    (payload : SnapshotRequest)
    (fresh : SnapshotFresh)
    (service : ApiService) :
    ((∀ newState,
          (takeSnapshot payload fresh service).1 ≠
            .ok newState) ∧
        (takeSnapshot payload fresh service).2 = service) ∨
      BootsAt fresh.instanceId snapshotVmConfig service
        (takeSnapshot payload fresh service).2 := by
  let P : ApiService → Prop :=
    BootsAt fresh.instanceId snapshotVmConfig service
  unfold takeSnapshot
  by_cases hLabel : payload.label = ""
  · rw [if_pos hLabel]
    left
    refine ⟨?_, rfl⟩
    intro newState hOk
    cases hOk
  rw [if_neg hLabel]
  cases hTtl : parseTtl payload.ttl with
  | err answer =>
      left
      refine ⟨?_, rfl⟩
      intro newState hOk
      cases hOk
  | panicked =>
      left
      refine ⟨?_, rfl⟩
      intro newState hOk
      cases hOk
  | ok ttlSeconds =>
      have hParsed :
          (Exec.ofOutcome (.ok ttlSeconds) :
              Exec ApiService Refusal (Option UInt64))
              service = (.ok ttlSeconds, service) := rfl
      right
      rw [Exec.bind_of_ok hParsed]
      change P _
      refine Exec.bind_state P ?_ fun _ created hCreated => ?_
      · rw [orInternalError_state]
        exact createVm_boots _ _ _ service
      refine Exec.bind_state P ?_ fun _ booted hBooted => ?_
      · rw [orInternalError_state]
        exact onVm_boots (VMHandle.boot_config _) hCreated
      refine Exec.bind_state P ?_ fun _ taken hTaken => hTaken
      rw [orInternalError_state]
      exact onVm_boots (VMHandle.snapshot_config _) hBooted

/- A snapshot that has been taken leaves its VM running. -/
theorem takeSnapshot_running
    [BuildProfile]
    {payload : SnapshotRequest}
    {fresh : SnapshotFresh}
    {service after : ApiService}
    {newState : State}
    (hTaken :
      takeSnapshot payload fresh service =
        (.ok newState, after)) :
    after.HasStatus fresh.instanceId .running := by
  unfold takeSnapshot at hTaken
  by_cases hLabel : payload.label = ""
  · rw [if_pos hLabel] at hTaken
    cases hTaken
  · rw [if_neg hLabel] at hTaken
    rcases Exec.of_bind_ok hTaken with ⟨_, _, _, hParsed⟩
    rcases Exec.of_bind_ok hParsed with ⟨_, _, _, hCreated⟩
    rcases Exec.of_bind_ok hCreated with ⟨_, _, _, hBooted⟩
    rcases Exec.of_bind_ok hBooted with
      ⟨vmSnapshot, taken, hSnapshot, hPure⟩
    cases hPure
    rcases onVm_of_ok (Exec.of_mapErr_ok hSnapshot) with
      ⟨world, world', hWorld, hLookup⟩
    exact
      ⟨world', hLookup, VMHandle.status_of_snapshot hWorld⟩

/-
  A snapshot whose VM has booted has been taken, or has
  failed and left its VM in the middle of it.
-/
theorem takeSnapshot_of_booted
    [BuildProfile]
    {payload : SnapshotRequest}
    {fresh : SnapshotFresh}
    {service booted : ApiService}
    {ttlSeconds : Option UInt64}
    (hLabel : payload.label ≠ "")
    (hTtl : parseTtl payload.ttl = .ok ttlSeconds)
    (hBooted :
      onVm fresh.instanceId (VMHandle.boot fresh.boot)
          (createVm fresh.instanceId snapshotVmConfig
            fresh.guest service).2 =
        (.ok (), booted)) :
    (∃ newState after,
        takeSnapshot payload fresh service =
            (.ok newState, after) ∧
          after.HasStatus fresh.instanceId .running) ∨
      ∃ answer after,
        takeSnapshot payload fresh service =
            (.err answer, after) ∧
          after.HasStatus fresh.instanceId .snapshotting := by
  have hParsed :
      (Exec.ofOutcome (parseTtl payload.ttl) :
          Exec ApiService Refusal (Option UInt64)) service =
        (.ok ttlSeconds, service) := by
    rw [hTtl]
    rfl
  have hCreated :
      orInternalError "Failed to create VM" VMError.text
          (createVm fresh.instanceId snapshotVmConfig
            fresh.guest) service =
        (.ok (),
          (createVm fresh.instanceId snapshotVmConfig
            fresh.guest service).2) := rfl
  rcases onVm_of_ok hBooted with ⟨_, world, _, hLookup⟩
  have hSnapshot :
      onVm fresh.instanceId (VMHandle.snapshot fresh.snapshot)
          booted =
        ((VMHandle.snapshot fresh.snapshot world).1,
          { booted with
            vms :=
              booted.vms.insert fresh.instanceId
                (VMHandle.snapshot fresh.snapshot world).2 }) := by
    unfold onVm
    rw [hLookup]
  have hThere :=
    Finmap.lookup_insert (a := fresh.instanceId)
      (b := (VMHandle.snapshot fresh.snapshot world).2)
      booted.vms
  have hBoot :
      orInternalError "Failed to boot VM" VMError.text
          (onVm fresh.instanceId (VMHandle.boot fresh.boot))
          (createVm fresh.instanceId snapshotVmConfig
            fresh.guest service).2 =
        (.ok (), booted) :=
    Exec.mapErr_of_ok hBooted
  unfold takeSnapshot
  rw [if_neg hLabel, Exec.bind_of_ok hParsed,
    Exec.bind_of_ok hCreated, Exec.bind_of_ok hBoot]
  rcases VmWorld.snapshot_cases world fresh.snapshot with
    ⟨hAfter, hOutcome⟩
  cases hFails : world.failsAt fresh.snapshot with
  | none =>
      rw [hFails] at hAfter hOutcome
      rcases hOutcome with ⟨taken, hTaken⟩
      rw [hTaken] at hSnapshot
      left
      refine
        ⟨_, _, Exec.bind_of_ok (Exec.mapErr_of_ok hSnapshot),
          _, hThere, ?_⟩
      rw [hAfter]
      rfl
  | some failure =>
      rw [hFails] at hAfter hOutcome
      rcases hOutcome with ⟨error, hError⟩
      rw [hError] at hSnapshot
      right
      refine
        ⟨_, _,
          Exec.bind_of_err (Exec.mapErr_of_err hSnapshot),
          _, hThere, ?_⟩
      rw [hAfter]
      exact VmWorld.status_afterSnapshot_some world failure

/- A resume whose VM boots succeeds. -/
theorem bootOriginal_of_booted
    {payload : ResumeRequest}
    {fresh : ResumeFresh}
    {original : State}
    {service booted : ApiService}
    (hBooted :
      onVm fresh.instanceId (VMHandle.boot fresh.boot)
          (createVm fresh.instanceId original.vmConfig
            fresh.guest service).2 =
        (.ok (), booted)) :
    ∃ response after,
      bootOriginal payload fresh original service =
          (.ok response, after) ∧
        after.HasStatus fresh.instanceId .running := by
  have hCreated :
      orInternalError "Failed to create VM" VMError.text
          (createVm fresh.instanceId original.vmConfig
            fresh.guest) service =
        (.ok (),
          (createVm fresh.instanceId original.vmConfig
            fresh.guest service).2) := rfl
  rcases onVm_of_ok hBooted with
    ⟨_, world, hWorld, hLookup⟩
  exact
    ⟨_, _,
      (Exec.bind_of_ok hCreated).trans
        ((Exec.bind_of_ok (Exec.mapErr_of_ok hBooted)).trans
          rfl),
      world, hLookup, VMHandle.status_of_boot hWorld⟩

/- A resume has created its VM; only success ends a record. -/
theorem bootOriginal_boots
    (payload : ResumeRequest)
    (fresh : ResumeFresh)
    (original : State)
    (service : ApiService) :
    ∃ middle,
      BootsAt fresh.instanceId original.vmConfig service
          middle ∧
        match bootOriginal payload fresh original service with
        | (.ok _, after) =>
            middle.HasStatus fresh.instanceId .running ∧
              after = { middle with recording := false }
        | (_, after) => after = middle := by
  have hBoots :=
    createVm_boots fresh.instanceId original.vmConfig
      fresh.guest service
  have hCreated :
      orInternalError "Failed to create VM" VMError.text
          (createVm fresh.instanceId original.vmConfig
            fresh.guest) service =
        (.ok (),
          (createVm fresh.instanceId original.vmConfig
            fresh.guest service).2) := rfl
  rcases hBoot :
      onVm fresh.instanceId (VMHandle.boot fresh.boot)
        (createVm fresh.instanceId original.vmConfig
          fresh.guest service).2 with
    ⟨outcome, middle⟩
  have hBooted :=
    onVm_boots (VMHandle.boot_config fresh.boot) hBoots
  rw [hBoot] at hBooted
  refine ⟨middle, hBooted, ?_⟩
  cases outcome with
  | ok value =>
      have hResult :
          bootOriginal payload fresh original service =
            (.ok
                { accepted := true
                  targetRegion :=
                    payload.region.getD "nearest"
                  mode :=
                    payload.mode.getD "collaborative" },
              { middle with recording := false }) :=
        (Exec.bind_of_ok hCreated).trans
          ((Exec.bind_of_ok (Exec.mapErr_of_ok hBoot)).trans
            rfl)
      rcases onVm_of_ok hBoot with
        ⟨world, world', hWorld, hLookup⟩
      rw [hResult]
      exact
        ⟨⟨world', hLookup, VMHandle.status_of_boot hWorld⟩,
          rfl⟩
  | err error =>
      have hResult :
          bootOriginal payload fresh original service =
            (.err _, middle) :=
        (Exec.bind_of_ok hCreated).trans
          (Exec.bind_of_err (Exec.mapErr_of_err hBoot))
      rw [hResult]
  | panicked =>
      have hResult :
          bootOriginal payload fresh original service =
            (.panicked, middle) :=
        (Exec.bind_of_ok hCreated).trans
          (Exec.bind_of_panicked
            (Exec.mapErr_of_panicked hBoot))
      rw [hResult]

end ApiService

end IsaWorkspace

------------------------------------------------------------
-- One Step
------------------------------------------------------------

namespace IsaWorkspace

namespace ApiCall

/- The id that a call draws for the VM that it creates. -/
def vmId : ApiCall → Option String
| .snapshot _ fresh => some fresh.instanceId
| .storing instanceId _ _ _ => some instanceId
| .snapshotted instanceId _ _ => some instanceId
| .resume _ fresh => some fresh.instanceId
| .booting _ fresh _ => some fresh.instanceId
| .resumed instanceId _ _ => some instanceId
| _ => none

/- The id of the VM that a call has yet to create. -/
def toBoot : ApiCall → Option String
| .snapshot _ fresh => some fresh.instanceId
| .resume _ fresh => some fresh.instanceId
| .booting _ fresh _ => some fresh.instanceId
| _ => none

/- The VM that a call has booted and goes on with. -/
def booted : ApiCall → Option String
| .storing instanceId _ _ _ => some instanceId
| .snapshotted instanceId _ _ => some instanceId
| .resumed instanceId _ _ => some instanceId
| _ => none

/- A resume that has been answered with success. -/
def IsResumed : ApiCall → Prop
| .resumed _ _ _ => True
| _ => False

theorem vmId_of_booted
    {call : ApiCall}
    {instanceId : String}
    (hBooted : call.booted = some instanceId) :
    call.vmId = some instanceId := by
  cases call with
  | storing instanceId newState now storedAt => exact hBooted
  | snapshotted instanceId newState response => exact hBooted
  | resumed instanceId original response => exact hBooted
  | _ => cases hBooted

theorem vmId_of_toBoot
    {call : ApiCall}
    {instanceId : String}
    (hToBoot : call.toBoot = some instanceId) :
    call.vmId = some instanceId := by
  cases call with
  | snapshot payload fresh => exact hToBoot
  | resume payload fresh => exact hToBoot
  | booting payload fresh original => exact hToBoot
  | _ => cases hToBoot

/- What a step does to the VMs and to the recording. -/
inductive Machining
    (before after : ApiCall)
    (service service' : ApiService) : Prop where
  | idle
      (vms : service'.vms = service.vms)
      (recording : service'.recording = service.recording)
      (own : after.vmId = before.vmId ∨ after.vmId = none)
      (toBoot :
        after.toBoot = before.toBoot ∨ after.toBoot = none)
      (booted :
        after.booted = before.booted ∨ after.booted = none)
      (resumed : after.IsResumed ↔ before.IsResumed)
  | boots
      (instanceId : String)
      (middle : ApiService)
      (pending : before.booted = none ∧ ¬ before.IsResumed)
      (own : before.toBoot = some instanceId)
      (done : after.toBoot = none)
      (boots :
        service.BootsAt instanceId snapshotVmConfig middle)
      (vms : service'.vms = middle.vms)
      (vmId : after.vmId = before.vmId ∨ after.vmId = none)
      (booted :
        after.booted = none ∨
          after.booted = some instanceId ∧
            middle.HasStatus instanceId .running)
      (recording :
        after.IsResumed ∧ service'.recording = false ∨
          ¬ after.IsResumed ∧
            service'.recording = middle.recording)

/- A call that ends without a response has booted nothing. -/
theorem ended_cases
    {next : ApiCall}
    (hEnded :
      (∃ answer, next = .refused answer) ∨ next = .panicked) :
    next.vmId = none ∧ next.toBoot = none ∧
      next.booted = none ∧ ¬ next.IsResumed := by
  rcases hEnded with ⟨answer, rfl⟩ | rfl
  · exact ⟨rfl, rfl, rfl, id⟩
  · exact ⟨rfl, rfl, rfl, id⟩

/- A step that calls the store alone boots nothing. -/
theorem machining_of_advance
    {α : Type}
    {call : ApiCall}
    {service : ApiService}
    {result : Outcome Refusal α × ApiService}
    {next : α → ApiCall}
    (hOnly : service.StoreOnly result.2)
    (hNotResumed : ¬ call.IsResumed)
    (hReturns :
      ∀ value,
        ((next value).vmId = call.vmId ∨
            (next value).vmId = none) ∧
          ((next value).toBoot = call.toBoot ∨
            (next value).toBoot = none) ∧
          ((next value).booted = call.booted ∨
            (next value).booted = none) ∧
          ¬ (next value).IsResumed) :
    Machining call (advance result next).1 service
      (advance result next).2 := by
  have hVms : result.2.vms = service.vms := by
    rcases hOnly with ⟨store, hStore⟩
    rw [hStore]
    rfl
  have hRecording :
      result.2.recording = service.recording := by
    rcases hOnly with ⟨store, hStore⟩
    rw [hStore]
    rfl
  rw [advance_snd]
  rcases advance_cases result next with
    ⟨value, after, _, hNext⟩ | hEnded
  · rw [hNext]
    rcases hReturns value with
      ⟨hOwn, hToBoot, hBooted, hResumed⟩
    exact
      .idle hVms hRecording hOwn hToBoot hBooted
        (iff_of_false hResumed hNotResumed)
  · rcases ended_cases hEnded with
      ⟨hOwn, hToBoot, hBooted, hResumed⟩
    exact
      .idle hVms hRecording (.inr hOwn) (.inr hToBoot)
        (.inr hBooted) (iff_of_false hResumed hNotResumed)

variable [BuildProfile] [PathDebug]
variable [Sha256] [SerdeJson State]

/-
  Every step is of one of the two kinds, if a resume starts
  from a state of the one configuration.
-/
theorem machining_step
    {call : ApiCall}
    {service : ApiService}
    (hConfig :
      ∀ payload fresh original,
        call = .booting payload fresh original →
          original.vmConfig = snapshotVmConfig) :
    Machining call (call.step service).1 service
      (call.step service).2 := by
  cases call with
  | snapshot payload fresh =>
      rcases hTaken :
          ApiService.takeSnapshot payload fresh service with
        ⟨outcome, after⟩
      have hStep :
          (ApiCall.snapshot payload fresh).step service =
            advance (outcome, after) fun newState =>
              .storing fresh.instanceId newState fresh.now
                fresh.storedAt := by
        rw [← hTaken]
        rfl
      have hBoots :=
        ApiService.takeSnapshot_boots payload fresh service
      rw [hTaken] at hBoots
      rw [hStep, advance_snd]
      rcases hBoots with ⟨hRefused, rfl⟩ | hBoots
      · rcases
            advance_cases (outcome, after) fun newState =>
              .storing fresh.instanceId newState fresh.now
                fresh.storedAt with
          ⟨newState, other, hOk, _⟩ | hEnded
        · cases hOk
          exact absurd rfl (hRefused newState)
        · rcases ended_cases hEnded with
            ⟨hOwn, hToBoot, hBooted, hResumed⟩
          exact
            .idle rfl rfl (.inr hOwn) (.inr hToBoot)
              (.inr hBooted) (iff_of_false hResumed id)
      · cases outcome with
        | ok newState =>
            have hRunning :=
              ApiService.takeSnapshot_running hTaken
            exact
              .boots fresh.instanceId after ⟨rfl, id⟩ rfl
                rfl hBoots rfl (.inl rfl) (.inr ⟨rfl, hRunning⟩)
                (.inr ⟨id, rfl⟩)
        | err answer =>
            exact
              .boots fresh.instanceId after ⟨rfl, id⟩ rfl
                rfl hBoots rfl (.inr rfl) (.inl rfl)
                (.inr ⟨id, rfl⟩)
        | panicked =>
            exact
              .boots fresh.instanceId after ⟨rfl, id⟩ rfl
                rfl hBoots rfl (.inr rfl) (.inl rfl)
                (.inr ⟨id, rfl⟩)
  | storing instanceId newState now storedAt =>
      apply machining_of_advance
      · exact
          ApiService.keepSnapshot_storeOnly _ _ _ service
      · exact id
      · exact fun _ =>
          ⟨.inl rfl, .inl rfl, .inl rfl, id⟩
  | resume payload fresh =>
      apply machining_of_advance
      · exact ApiService.originalState_storeOnly _ service
      · exact id
      · exact fun _ =>
          ⟨.inl rfl, .inl rfl, .inl rfl, id⟩
  | booting payload fresh original =>
      rcases
          ApiService.bootOriginal_boots payload fresh original
            service with
        ⟨middle, hBoots, hResult⟩
      rw [hConfig payload fresh original rfl] at hBoots
      rcases hBooted :
          ApiService.bootOriginal payload fresh original
            service with
        ⟨outcome, after⟩
      have hStep :
          (ApiCall.booting payload fresh original).step
              service =
            advance (outcome, after) fun response =>
              .resumed fresh.instanceId original response := by
        rw [← hBooted]
        rfl
      rw [hBooted] at hResult
      rw [hStep, advance_snd]
      cases outcome with
      | ok response =>
          rcases hResult with ⟨hRunning, rfl⟩
          exact
            .boots fresh.instanceId middle ⟨rfl, id⟩ rfl
              rfl hBoots rfl (.inl rfl) (.inr ⟨rfl, hRunning⟩)
              (.inl ⟨trivial, rfl⟩)
      | err answer =>
          have hSame : after = middle := hResult
          subst hSame
          exact
            .boots fresh.instanceId after ⟨rfl, id⟩ rfl
              rfl hBoots rfl (.inr rfl) (.inl rfl)
              (.inr ⟨id, rfl⟩)
      | panicked =>
          have hSame : after = middle := hResult
          subst hSame
          exact
            .boots fresh.instanceId after ⟨rfl, id⟩ rfl
              rfl hBoots rfl (.inr rfl) (.inl rfl)
              (.inr ⟨id, rfl⟩)
  | fork payload fresh =>
      apply machining_of_advance
      · exact ApiService.originalState_storeOnly _ service
      · exact id
      · exact fun _ =>
          ⟨.inl rfl, .inl rfl, .inl rfl, id⟩
  | copying original newState now storedAt =>
      apply machining_of_advance
      · exact ApiService.keepFork_storeOnly _ _ _ service
      · exact id
      · exact fun _ =>
          ⟨.inl rfl, .inl rfl, .inl rfl, id⟩
  | delete payload =>
      apply machining_of_advance
      · exact ApiService.deleteState_storeOnly _ service
      · exact id
      · exact fun _ =>
          ⟨.inl rfl, .inl rfl, .inl rfl, id⟩
  | _ =>
      exact
        .idle rfl rfl (.inl rfl) (.inl rfl) (.inl rfl) .rfl

end ApiCall

end IsaWorkspace

------------------------------------------------------------
-- What Is Kept
------------------------------------------------------------

namespace IsaWorkspace

/- No two calls create a VM under the same id. -/
def VmIdsDistinct
    (calls : List ApiCall) : Prop :=
  (calls.filterMap ApiCall.vmId).Nodup

/-
  Every VM has the configuration of snapshots, and the VM of
  every request that has booted one and goes on is running.
  The VM that a request has yet to create is not there.  What
  happens is recorded until the first resume succeeds.
-/
structure MachinesKept
    (service : ApiService)
    (calls : List ApiCall) : Prop where
  config :
    ∀ instanceId world,
      service.vms.lookup instanceId = some world →
        world.handle.config = snapshotVmConfig
  running :
    ∀ call ∈ calls, ∀ instanceId,
      call.booted = some instanceId →
        service.HasStatus instanceId .running
  notThere :
    ∀ call ∈ calls, ∀ instanceId,
      call.toBoot = some instanceId →
        service.vms.lookup instanceId = none
  recording :
    service.recording = false ↔
      ∃ call ∈ calls, call.IsResumed

/- Every VM that is there stays, and stays as it is. -/
def ApiService.KeepsVms
    (before after : ApiService) : Prop :=
  ∀ instanceId world,
    before.vms.lookup instanceId = some world →
      after.vms.lookup instanceId = some world

namespace MachinesKept

variable {service service' : ApiService}
variable {call next : ApiCall} {calls calls' rest : List ApiCall}

theorem perm
    (hKept : MachinesKept service calls)
    (hPerm : calls.Perm calls') :
    MachinesKept service calls' where
  config := hKept.config
  running := by
    intro call hCall instanceId hBooted
    exact
      hKept.running call (hPerm.mem_iff.mpr hCall) instanceId
        hBooted
  notThere := by
    intro call hCall instanceId hToBoot
    exact
      hKept.notThere call (hPerm.mem_iff.mpr hCall)
        instanceId hToBoot
  recording := by
    rw [hKept.recording]
    constructor
    · rintro ⟨call, hCall, hResumed⟩
      exact ⟨call, hPerm.mem_iff.mp hCall, hResumed⟩
    · rintro ⟨call, hCall, hResumed⟩
      exact ⟨call, hPerm.mem_iff.mpr hCall, hResumed⟩

/- A step draws no id that another call has drawn. -/
theorem vmIdsDistinct_step
    (hMachining : call.Machining next service service')
    (hDistinct : VmIdsDistinct (call :: rest)) :
    VmIdsDistinct (next :: rest) := by
  have hOwn : next.vmId = call.vmId ∨ next.vmId = none := by
    cases hMachining with
    | idle vms recording own toBoot booted resumed =>
        exact own
    | boots instanceId middle pending own done boots vms
        vmId booted recording =>
        exact vmId
  have hRest : VmIdsDistinct rest := by
    apply List.Nodup.sublist ?_ hDistinct
    exact (List.sublist_cons_self call rest).filterMap _
  rcases hOwn with hSame | hNone
  · unfold VmIdsDistinct at hDistinct ⊢
    rw [List.filterMap_cons, hSame, ← List.filterMap_cons]
    exact hDistinct
  · unfold VmIdsDistinct
    rw [List.filterMap_cons, hNone]
    exact hRest

/- No other call has drawn a call's own id. -/
theorem ne_of_vmIdsDistinct
    (hDistinct : VmIdsDistinct (call :: rest))
    {instanceId other : String}
    (hOwn : call.toBoot = some instanceId)
    {earlier : ApiCall}
    (hEarlier : earlier ∈ rest)
    (hDrawn : earlier.vmId = some other) :
    other ≠ instanceId := by
  rintro rfl
  unfold VmIdsDistinct at hDistinct
  rw [List.filterMap_cons, ApiCall.vmId_of_toBoot hOwn]
    at hDistinct
  apply (List.nodup_cons.mp hDistinct).1
  exact List.mem_filterMap.mpr ⟨earlier, hEarlier, hDrawn⟩

/- Who has resumed, after one call has taken a step. -/
theorem exists_resumed_cons
    (call : ApiCall)
    (rest : List ApiCall) :
    (∃ other ∈ call :: rest, other.IsResumed) ↔
      call.IsResumed ∨ ∃ other ∈ rest, other.IsResumed := by
  simp only [List.mem_cons, exists_eq_or_imp]

/- A step creates a VM that is not there yet, if any. -/
theorem keepsVms_step
    (hKept : MachinesKept service (call :: rest))
    (hMachining : call.Machining next service service') :
    service.KeepsVms service' := by
  intro instanceId world hLookup
  cases hMachining with
  | idle vms recording own toBoot booted resumed =>
      rw [vms]
      exact hLookup
  | boots created middle pending own done boots vms vmId
      booted recording =>
      have hNe : instanceId ≠ created := by
        rintro rfl
        have hNone :=
          hKept.notThere call List.mem_cons_self instanceId
            own
        rw [hNone] at hLookup
        cases hLookup
      rw [vms, boots.others instanceId hNe]
      exact hLookup

/- A step keeps what is kept. -/
theorem step
    (hKept : MachinesKept service (call :: rest))
    (hDistinct : VmIdsDistinct (call :: rest))
    (hMachining : call.Machining next service service') :
    MachinesKept service' (next :: rest) := by
  have hRecording := hKept.recording
  rw [exists_resumed_cons] at hRecording
  cases hMachining with
  | idle vms recording own toBoot booted resumed =>
      constructor
      · rw [vms]
        exact hKept.config
      · intro other hOther instanceId hBooted
        unfold ApiService.HasStatus
        rw [vms]
        rcases List.mem_cons.mp hOther with rfl | hRest
        · rcases booted with hSame | hNone
          · rw [hSame] at hBooted
            exact
              hKept.running call List.mem_cons_self
                instanceId hBooted
          · rw [hNone] at hBooted
            cases hBooted
        · exact
            hKept.running other
              (List.mem_cons_of_mem call hRest) instanceId
              hBooted
      · intro other hOther instanceId hToBoot
        rw [vms]
        rcases List.mem_cons.mp hOther with rfl | hRest
        · rcases toBoot with hSame | hNone
          · rw [hSame] at hToBoot
            exact
              hKept.notThere call List.mem_cons_self
                instanceId hToBoot
          · rw [hNone] at hToBoot
            cases hToBoot
        · exact
            hKept.notThere other
              (List.mem_cons_of_mem call hRest) instanceId
              hToBoot
      · rw [recording, exists_resumed_cons, resumed]
        exact hRecording
  | boots instanceId middle pending own done boots vms vmId
      booted recording =>
      constructor
      · intro other world hLookup
        rw [vms] at hLookup
        by_cases hOther : other = instanceId
        · rcases boots.own with ⟨created, hCreated, hConfig⟩
          rw [hOther, hCreated] at hLookup
          cases hLookup
          exact hConfig
        · rw [boots.others other hOther] at hLookup
          exact hKept.config other world hLookup
      · intro other hOther otherId hBooted
        unfold ApiService.HasStatus
        rw [vms]
        rcases List.mem_cons.mp hOther with rfl | hRest
        · rcases booted with hNone | ⟨hSome, hRunning⟩
          · rw [hNone] at hBooted
            cases hBooted
          · rw [hSome] at hBooted
            cases hBooted
            exact hRunning
        · have hNe :=
            ne_of_vmIdsDistinct hDistinct own hRest
              (ApiCall.vmId_of_booted hBooted)
          rw [boots.others otherId hNe]
          exact
            hKept.running other
              (List.mem_cons_of_mem call hRest) otherId
              hBooted
      · intro other hOther otherId hToBoot
        rw [vms]
        rcases List.mem_cons.mp hOther with rfl | hRest
        · rw [done] at hToBoot
          cases hToBoot
        · have hNe :=
            ne_of_vmIdsDistinct hDistinct own hRest
              (ApiCall.vmId_of_toBoot hToBoot)
          rw [boots.others otherId hNe]
          exact
            hKept.notThere other
              (List.mem_cons_of_mem call hRest) otherId
              hToBoot
      · rw [exists_resumed_cons]
        rcases recording with
          ⟨hResumed, hOff⟩ | ⟨hResumed, hSame⟩
        · rw [hOff]
          exact iff_of_true rfl (.inl hResumed)
        · rw [hSame, boots.recording, hRecording]
          exact
            or_congr_left (iff_of_false pending.2 hResumed)

end MachinesKept

end IsaWorkspace

------------------------------------------------------------
-- VMs That Boot
------------------------------------------------------------

namespace IsaWorkspace

variable [PathDebug]

/- The id of a new VM, if it boots. -/
def ApiService.bootedId
    (instanceId : String)
    (config : VMConfig)
    (guest : GuestState)
    (answers : VMHandle.BootAnswers)
    (service : ApiService) : Option String :=
  match
    onVm instanceId (VMHandle.boot answers)
      (createVm instanceId config guest service).2 with
  | (.ok _, _) => some instanceId
  | _ => none

theorem ApiService.bootedId_eq_some
    {instanceId other : String}
    {config : VMConfig}
    {guest : GuestState}
    {answers : VMHandle.BootAnswers}
    {service : ApiService} :
    service.bootedId instanceId config guest answers =
        some other ↔
      instanceId = other ∧
        ∃ booted,
          onVm instanceId (VMHandle.boot answers)
              (createVm instanceId config guest service).2 =
            (.ok (), booted) := by
  unfold bootedId
  split
  · rename_i value booted hBooted
    rw [hBooted, Option.some_inj]
    exact
      ⟨fun hEq => ⟨hEq, booted, rfl⟩, fun hEq => hEq.1⟩
  · rename_i hOther
    refine iff_of_false (Option.some_ne_none other).symm ?_
    rintro ⟨-, booted, hBooted⟩
    exact hOther () booted hBooted

namespace ApiCall

variable [BuildProfile]

/- The VM that boots in the next step of a call. -/
def boots
    (call : ApiCall)
    (service : ApiService) : Option String :=
  match call with
  | .snapshot payload fresh =>
      if payload.label = "" then none
      else
        match parseTtl payload.ttl with
        | .ok _ =>
            service.bootedId fresh.instanceId
              snapshotVmConfig fresh.guest fresh.boot
        | _ => none
  | .booting _ fresh original =>
      service.bootedId fresh.instanceId original.vmConfig
        fresh.guest fresh.boot
  | _ => none

variable [Sha256] [SerdeJson State]

/-
  A VM that boots is running once its request goes on.  The
  request is refused where the snapshot of the VM fails, and
  then the VM is left in the middle of that snapshot.
-/
theorem left_of_boots
    {call : ApiCall}
    {service : ApiService}
    {instanceId : String}
    (hBoots : call.boots service = some instanceId) :
    (call.step service).1.booted = some instanceId ∧
        (call.step service).2.HasStatus instanceId .running ∨
      (∃ answer, (call.step service).1 = .refused answer) ∧
        (call.step service).2.HasStatus instanceId
          .snapshotting := by
  cases call with
  | snapshot payload fresh =>
      change
        (if payload.label = "" then none else _) = _ at hBoots
      by_cases hLabel : payload.label = ""
      · rw [if_pos hLabel] at hBoots
        cases hBoots
      rw [if_neg hLabel] at hBoots
      cases hTtl : parseTtl payload.ttl with
      | err answer =>
          rw [hTtl] at hBoots
          cases hBoots
      | panicked =>
          rw [hTtl] at hBoots
          cases hBoots
      | ok ttlSeconds =>
          rw [hTtl] at hBoots
          rcases ApiService.bootedId_eq_some.mp hBoots with
            ⟨rfl, booted, hBooted⟩
          have hStep :
              (ApiCall.snapshot payload fresh).step service =
                advance
                  (ApiService.takeSnapshot payload fresh
                    service)
                  fun newState =>
                    .storing fresh.instanceId newState
                      fresh.now fresh.storedAt := rfl
          rw [hStep]
          rcases ApiService.takeSnapshot_of_booted hLabel hTtl
              hBooted with
            ⟨newState, after, hTaken, hStatus⟩ |
              ⟨answer, after, hTaken, hStatus⟩
          · rw [hTaken]
            exact .inl ⟨rfl, hStatus⟩
          · rw [hTaken]
            exact .inr ⟨⟨answer, rfl⟩, hStatus⟩
  | booting payload fresh original =>
      rcases ApiService.bootedId_eq_some.mp hBoots with
        ⟨rfl, booted, hBooted⟩
      rcases ApiService.bootOriginal_of_booted hBooted with
        ⟨response, after, hResumed, hStatus⟩
      have hStep :
          (ApiCall.booting payload fresh original).step
              service =
            advance
              (ApiService.bootOriginal payload fresh original
                service)
              fun response =>
                .resumed fresh.instanceId original response :=
        rfl
      rw [hStep, hResumed]
      exact .inl ⟨rfl, hStatus⟩
  | _ => cases hBoots

end ApiCall

end IsaWorkspace

------------------------------------------------------------
-- Runs
------------------------------------------------------------

namespace IsaWorkspace

namespace ApiSystem

variable [BuildProfile] [PathDebug]
variable [Sha256] [SerdeJson State]
variable {used : Set Bytes}

/- What a resume boots has the configuration of snapshots. -/
omit [BuildProfile] [PathDebug] [Sha256] [SerdeJson State] in
theorem vmConfig_of_booting
    {catalogue : Catalogue}
    {calls : List ApiCall}
    (hTraced : catalogue.TracedBy calls)
    {payload : ResumeRequest}
    {fresh : ResumeFresh}
    {original : State}
    (hCall : .booting payload fresh original ∈ calls) :
    original.vmConfig = snapshotVmConfig := by
  rcases hTraced.calls _ hCall with
    ⟨_, snapped, _, _, hConfig, hSame⟩
  exact hSame.vmConfig.trans hConfig

theorem machines_kept :
    KeptByCalls used fun service calls =>
      VmIdsDistinct calls ∧
        service.catalogue.TracedBy calls ∧
        MachinesKept service calls where
  perm := by
    rintro service calls calls' ⟨hDistinct, hTraced, hKept⟩
      hPerm
    have hTracedKept : KeptByCalls used _ := traced_kept
    refine
      ⟨?_, hTracedKept.perm hTraced hPerm, hKept.perm hPerm⟩
    exact
      (hPerm.filterMap ApiCall.vmId).nodup_iff.mp hDistinct
  step := by
    rintro service call rest hServed
      ⟨hDistinct, hTraced, hKept⟩
    have hMachining :
        call.Machining (call.step service).1 service
          (call.step service).2 := by
      apply ApiCall.machining_step
      rintro payload fresh original rfl
      exact vmConfig_of_booting hTraced List.mem_cons_self
    exact
      ⟨MachinesKept.vmIdsDistinct_step hMachining hDistinct,
        traced_kept.step hServed hTraced,
        hKept.step hDistinct hMachining⟩
  collector := by
    rintro service service' calls
      ⟨hDistinct, hTraced, hKept⟩ hStore hVms hRecording
    have hTracedKept : KeptByCalls used _ := traced_kept
    refine
      ⟨hDistinct,
        hTracedKept.collector hTraced hStore hVms hRecording,
        ?_⟩
    constructor
    · rw [hVms]
      exact hKept.config
    · unfold ApiService.HasStatus
      rw [hVms]
      exact hKept.running
    · rw [hVms]
      exact hKept.notThere
    · rw [hRecording]
      exact hKept.recording

/- The VMs that are there stay, whatever step is taken. -/
theorem vms_kept
    (instanceId : String)
    (world : VmWorld) :
    KeptByCalls used fun service calls =>
      (VmIdsDistinct calls ∧
          service.catalogue.TracedBy calls ∧
          MachinesKept service calls) ∧
        service.vms.lookup instanceId = some world where
  perm := by
    rintro service calls calls' ⟨hKept, hLookup⟩ hPerm
    have hMachinesKept : KeptByCalls used _ := machines_kept
    exact ⟨hMachinesKept.perm hKept hPerm, hLookup⟩
  step := by
    rintro service call rest hServed ⟨hKept, hLookup⟩
    have hMachinesKept : KeptByCalls used _ := machines_kept
    refine ⟨hMachinesKept.step hServed hKept, ?_⟩
    have hMachining :
        call.Machining (call.step service).1 service
          (call.step service).2 := by
      apply ApiCall.machining_step
      rintro payload fresh original rfl
      exact vmConfig_of_booting hKept.2.1 List.mem_cons_self
    exact
      hKept.2.2.keepsVms_step hMachining instanceId world
        hLookup
  collector := by
    rintro service service' calls ⟨hKept, hLookup⟩ hStore
      hVms hRecording
    have hMachinesKept : KeptByCalls used _ := machines_kept
    refine
      ⟨hMachinesKept.collector hKept hStore hVms hRecording,
        ?_⟩
    rw [hVms]
    exact hLookup

omit [BuildProfile] [PathDebug] [Sha256] [SerdeJson State] in
/- New requests on a new service have done nothing yet. -/
theorem machinesKept_start
    (now : DateTime)
    {calls : List ApiCall}
    (hRequests : ∀ call ∈ calls, call.IsRequest) :
    MachinesKept (start now calls).shared calls where
  config := by
    intro instanceId world hLookup
    cases (Finmap.lookup_empty instanceId).symm.trans hLookup
  running := by
    intro call hCall instanceId hBooted
    have hRequest := hRequests call hCall
    cases call with
    | storing instanceId newState now storedAt =>
        exact hRequest.elim
    | snapshotted instanceId newState response =>
        exact hRequest.elim
    | resumed instanceId original response =>
        exact hRequest.elim
    | _ => cases hBooted
  notThere := by
    intro call hCall instanceId hToBoot
    exact Finmap.lookup_empty instanceId
  recording := by
    refine iff_of_false Bool.noConfusion ?_
    rintro ⟨call, hCall, hResumed⟩
    have hRequest := hRequests call hCall
    cases call with
    | resumed instanceId original response =>
        exact hRequest.elim
    | _ => exact hResumed.elim

/- No VM is lost or changed in a run. -/
theorem keepsVms_run
    {system : ApiSystem}
    (hHash : Set.InjOn computeHash used)
    (hCatalogued : Catalogued used system)
    (hKept :
      VmIdsDistinct system.calls ∧
        system.shared.catalogue.TracedBy system.calls ∧
        MachinesKept system.shared system.calls)
    {events : List ApiEvent}
    (hEncoded :
      Runs.AlongRun step (StoresEncoded used) system
        events) :
    system.shared.KeepsVms
      (Runs.run step system events).shared := by
  intro instanceId world hLookup
  have hAfter :=
    throughout_of_calls (vms_kept instanceId world) hHash
      hCatalogued ⟨hKept, hLookup⟩ hEncoded
  exact hAfter.last.2.2

omit [BuildProfile] [PathDebug] [Sha256] [SerdeJson State] in
/- A VM that has its status keeps it where VMs are kept. -/
theorem hasStatus_of_keepsVms
    {before after : ApiService}
    {instanceId : String}
    {status : VMStatus}
    (hKeeps : before.KeepsVms after)
    (hStatus : before.HasStatus instanceId status) :
    after.HasStatus instanceId status := by
  rcases hStatus with ⟨world, hLookup, hWorld⟩
  exact ⟨world, hKeeps instanceId world hLookup, hWorld⟩

/-
  No request stops a VM.  Whatever requests come in, with VM
  ids of their own, and in whatever order: every VM stays as
  the step of its own request has left it, all VMs have one
  configuration, and the recording stops for good with the
  first resume that succeeds.  A VM that has booted is left
  running, or in the middle of a snapshot that has failed.
-/
theorem machinesKept_of_run
    (now : DateTime)
    (calls : List ApiCall)
    (events : List ApiEvent)
    (hRequests : ∀ call ∈ calls, call.IsRequest)
    (hDistinct : VmIdsDistinct calls)
    (hHash : Set.InjOn computeHash used)
    (hEncoded :
      Runs.AlongRun step (StoresEncoded used)
        (start now calls) events) :
    Runs.Throughout step
        (fun system => MachinesKept system.shared system.calls)
        (start now calls) events ∧
      (∀ earlier later, events = earlier ++ later →
        let before := Runs.run step (start now calls) earlier
        let after := Runs.run step before later
        before.shared.KeepsVms after.shared) ∧
      ∀ earlier position later,
        events = earlier ++ .call position :: later →
        let before := Runs.run step (start now calls) earlier
        let after :=
          Runs.run step (before.step (.call position)) later
        ∀ call instanceId,
          before.calls[position]? = some call →
          call.boots before.shared = some instanceId →
            (call.step before.shared).1.booted =
                  some instanceId ∧
                after.shared.HasStatus instanceId .running ∨
              (∃ answer,
                  (call.step before.shared).1 =
                    .refused answer) ∧
                after.shared.HasStatus instanceId
                  .snapshotting := by
  have hStart :
      VmIdsDistinct calls ∧
        (start now calls).shared.catalogue.TracedBy calls ∧
        MachinesKept (start now calls).shared calls :=
    ⟨hDistinct, traced_start now hRequests,
      machinesKept_start now hRequests⟩
  have hKeepsVms :
      ∀ earlier later, events = earlier ++ later →
        (Runs.run step (start now calls)
            earlier).shared.KeepsVms
          (Runs.run step
            (Runs.run step (start now calls) earlier)
            later).shared := by
    rintro earlier later rfl
    rcases Runs.alongRun_append.mp hEncoded with
      ⟨hEarlier, hLater⟩
    have hBefore :=
      (throughout_of_calls machines_kept hHash
        (catalogued_start now calls) hStart hEarlier).last
    exact keepsVms_run hHash hBefore.1 hBefore.2 hLater
  refine ⟨?_, hKeepsVms, ?_⟩
  · have hBoth :=
      throughout_of_calls machines_kept hHash
        (catalogued_start now calls) hStart hEncoded
    exact hBoth.mono fun after hAfter => hAfter.2.2.2
  · intro earlier position later hEvents before after call
      instanceId hCall hBoots
    have hLater :
        (before.step (.call position)).shared.KeepsVms
          after.shared := by
      have hSplit :=
        hKeepsVms (earlier ++ [.call position]) later
          (by rw [hEvents, List.append_assoc]; rfl)
      rw [Runs.run_concat] at hSplit
      exact hSplit
    have hStep :
        (before.step (.call position)).shared =
          (call.step before.shared).2 :=
      (Interleaved.step_of_some ApiCall.step hCall).1
    rcases ApiCall.left_of_boots hBoots with
      ⟨hBooted, hRunning⟩ | ⟨hRefused, hSnapshotting⟩
    · rw [← hStep] at hRunning
      exact
        .inl ⟨hBooted, hasStatus_of_keepsVms hLater hRunning⟩
    · rw [← hStep] at hSnapshotting
      exact
        .inr
          ⟨hRefused,
            hasStatus_of_keepsVms hLater hSnapshotting⟩

end ApiSystem

end IsaWorkspace

namespace IsaWorkspace

namespace ApiSystem

open ApiSample
open Sample (epoch)

/- A snapshot whose VM boots and then cannot be paused. -/
def failingFresh : SnapshotFresh :=
  { snapshotFresh with
    snapshot :=
      { snapshotAnswers with
        pause := some (.apiError 500 "Failed to pause") } }

theorem machinesKept_of_run_sample :
    (VmIdsDistinct calls ∧
        Runs.Throughout step
          (fun system =>
            MachinesKept system.shared system.calls)
          (start epoch calls) events) ∧
      (Runs.run step
          (start epoch [.snapshot ⟨"second", none⟩ failingFresh])
          [.call 0]).shared.HasStatus
        failingFresh.instanceId .snapshotting := by
  have hDistinct : VmIdsDistinct calls := by
    unfold VmIdsDistinct
    decide +kernel
  refine
    ⟨⟨hDistinct,
      (machinesKept_of_run epoch calls events
        isRequest_of_mem hDistinct hash_injOn encoded).1⟩, ?_⟩
  have hLeft :=
    (machinesKept_of_run epoch
      [.snapshot ⟨"second", none⟩ failingFresh] [.call 0]
      (by
        rintro call hCall
        rcases List.mem_singleton.mp hCall with rfl
        trivial)
      (by
        unfold VmIdsDistinct
        decide +kernel)
      hash_injOn
      ⟨storesEncoded_call
        (.snapshot ⟨"second", none⟩ failingFresh) rfl trivial,
        trivial⟩).2.2
      [] 0 [] rfl (.snapshot ⟨"second", none⟩ failingFresh)
      failingFresh.instanceId rfl (by decide +kernel)
  rcases hLeft with ⟨hBooted, -⟩ | ⟨-, hSnapshotting⟩
  · cases hBooted
  · exact hSnapshotting

end ApiSystem

end IsaWorkspace
