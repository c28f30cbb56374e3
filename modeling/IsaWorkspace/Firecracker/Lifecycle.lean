import IsaWorkspace.Foundations.Runs
import IsaWorkspace.Firecracker.Snapshots

/-
  Whether a VM that is said to run has been started.

  A handle has no client before it is booted, and then the
  calls that pause, resume and snapshot the VM have nothing
  to ask: they succeed and set the status.  A handle that is
  stopped keeps its client, whose answers decide.

  Main declarations:
    * `VmCall`, `VmCall.run`
    * `VMHandle.boot_cases`, `VMHandle.restore_cases`
    * `VmLife`, `VmLife.step`
    * `VmLife.MeansStarted`, `VmLife.StartedOrRefused`
    * `VmLife.meansStarted_iff`
-/

------------------------------------------------------------
-- Calls
------------------------------------------------------------

namespace IsaWorkspace

/- The operations of a handle, with what is answered. -/
inductive VmCall where
  | boot (answers : VMHandle.BootAnswers)
  | pause (answer : Option FirecrackerError)
  | resume (answer : Option FirecrackerError)
  | snapshot (answers : VMHandle.SnapshotAnswers)
  | stop (answer : Option FirecrackerError)
  | restoreFromSnapshot
      (source : VMSnapshot)
      (answers : VMHandle.RestoreAnswers)

/- Whether the call succeeds, and what it leaves behind. -/
def VmCall.run
    [PathDebug]
    (world : VmWorld) : VmCall → Bool × VmWorld
| .boot answers =>
    let result := VMHandle.boot answers world
    (result.1.isOk, result.2)
| .pause answer =>
    let result := VMHandle.pause answer world
    (result.1.isOk, result.2)
| .resume answer =>
    let result := VMHandle.resume answer world
    (result.1.isOk, result.2)
| .snapshot answers =>
    let result := VMHandle.snapshot answers world
    (result.1.isOk, result.2)
| .stop answer =>
    let result := VMHandle.stop answer world
    (result.1.isOk, result.2)
| .restoreFromSnapshot source answers =>
    let result :=
      VMHandle.restoreFromSnapshot source answers world
    (result.1.isOk, result.2)

/-
  A handle with its guest, and whether a boot or a restore
  has succeeded since it was created or last stopped.
-/
structure VmLife where
  world : VmWorld
  started : Bool

namespace VmLife

/- A handle that has just been created. -/
def create
    (instanceId : String)
    (config : VMConfig)
    (firecrackerConfig : FirecrackerConfig)
    (guest : GuestState) : VmLife where
  world :=
    { handle := .new instanceId config firecrackerConfig
      guest := guest }
  started := false

def step
    [PathDebug]
    (life : VmLife)
    (call : VmCall) : VmLife where
  world := (call.run life.world).2
  started :=
    match call with
    | .boot _ => life.started || (call.run life.world).1
    | .restoreFromSnapshot _ _ =>
        life.started || (call.run life.world).1
    | .stop _ => false
    | _ => life.started

/- A status that says that the VM has been started. -/
def SaysStarted
    (status : VMStatus) : Prop :=
  status = .running ∨ status = .paused

/- What the status says is the case. -/
def MeansStarted
    (life : VmLife) : Prop :=
  SaysStarted life.world.handle.status →
    life.started = true

/-
  A VM that is paused, resumed or snapshotted has been
  started, or the call fails: there is a client whose request
  fails, or the directory of the snapshot is not created.
-/
def StartedOrRefused
    (life : VmLife)
    (call : VmCall) : Prop :=
  life.started = true ∨
    match call with
    | .pause answer =>
        life.world.handle.client.isSome = true ∧
          answer.isSome = true
    | .resume answer =>
        life.world.handle.client.isSome = true ∧
          answer.isSome = true
    | .snapshot answers =>
        (life.world.failsAt answers).isSome = true
    | _ => True

end VmLife

end IsaWorkspace

------------------------------------------------------------
-- One Call
------------------------------------------------------------

namespace IsaWorkspace

namespace VMHandle

variable {world : VmWorld}

/- A step that may fail changes nothing. -/
theorem attempt_state
    {E : Type}
    (wrap : E → VMError)
    (answer : Option E)
    (world : VmWorld) :
    (attempt wrap answer world).2 = world := by
  cases answer <;> rfl

theorem writeConfigFile_state
    (answers : BootAnswers)
    (world : VmWorld) :
    (writeConfigFile answers world).2 = world := by
  apply Exec.bind_state (fun after => after = world)
  · rfl
  · rintro _ middle rfl
    apply Exec.bind_state (fun after => after = middle)
    · cases tapDevice _ <;> rfl
    · rintro _ middle rfl
      apply Exec.bind_state (fun after => after = middle)
      · exact attempt_state _ _ _
      · rintro _ middle rfl
        exact attempt_state _ _ _

theorem awaitSocket_state
    [PathDebug]
    (answers : BootAnswers)
    (remaining : Nat)
    (world : VmWorld) :
    (awaitSocket answers remaining world).2 = world := by
  induction remaining with
  | zero => rfl
  | succ remaining ih =>
      unfold awaitSocket
      dsimp only
      split
      · rfl
      · split
        · rfl
        · exact ih

/- A VM that is not booted keeps its status. -/
theorem boot_cases
    [PathDebug]
    (answers : BootAnswers)
    (world : VmWorld) :
    Exec.OkOr
      (fun after =>
        after.handle.status = world.handle.status)
      (boot answers) world := by
  apply Exec.bind_okOr
  · rw [attempt_state]
  intro _ first hFirst
  apply Exec.bind_okOr
  · rw [writeConfigFile_state]
    exact hFirst
  intro _ second hSecond
  apply Exec.bind_okOr
  · exact hSecond
  intro _ third hThird
  apply Exec.bind_okOr
  · rw [attempt_state]
    exact hThird
  intro _ fourth hFourth
  apply Exec.bind_okOr
  · rw [awaitSocket_state]
    exact hFourth
  intro _ fifth _
  exact Or.inl rfl

/- Acting on the guest leaves the handle alone. -/
theorem onGuest_handle
    (describe : String)
    (call : Exec GuestState FirecrackerError Unit)
    (world : VmWorld) :
    (onGuest describe call world).2.handle =
      world.handle := by
  unfold onGuest
  rw [Exec.mapErr_state]
  rfl

/- A VM that is not restored keeps its status. -/
theorem restore_cases
    (source : VMSnapshot)
    (answers : RestoreAnswers)
    (world : VmWorld) :
    Exec.OkOr
      (fun after =>
        after.handle.status = world.handle.status)
      (restoreFromSnapshot source answers) world := by
  apply Exec.bind_okOr
  · rfl
  intro _ first hFirst
  apply Exec.bind_okOr
  · exact hFirst
  intro _ second hSecond
  apply Exec.bind_okOr
  · rw [onGuest_handle]
    exact hSecond
  intro _ third hThird
  apply Exec.bind_okOr
  · rw [onGuest_handle]
    exact hThird
  intro _ fourth _
  exact Or.inl rfl

/- Without a client nothing refuses that a status is set. -/
theorem askAndSet_status
    (describe : String)
    (request : ApiRequest)
    (answer : Option FirecrackerError)
    (status : VMStatus)
    (world : VmWorld) :
    ((withClient
          (fun client =>
            onGuest describe (client.put request answer)) >>=
        fun _ => setStatus status)
        world).2.handle.status =
      if world.handle.client.isSome = true ∧
          answer.isSome = true then
        world.handle.status
      else
        status := by
  rcases world with ⟨handle, guest⟩
  rcases handle with
    ⟨instanceId, config, before, socketPath, firecracker,
      stateDir, client, process, configPath, logPath,
      fifoPath⟩
  cases client with
  | none => rfl
  | some client =>
      cases answer with
      | none => rfl
      | some error => rfl

theorem stop_status
    (answer : Option FirecrackerError)
    (world : VmWorld) :
    (stop answer world).2.handle.status = .stopped := by
  rcases world with ⟨handle, guest⟩
  rcases handle with
    ⟨instanceId, config, before, socketPath, firecracker,
      stateDir, client, process, configPath, logPath,
      fifoPath⟩
  cases client with
  | none => rfl
  | some client =>
      cases answer with
      | none => rfl
      | some error => rfl

end VMHandle

namespace VmLife

variable [PathDebug]
variable {life : VmLife}

omit [PathDebug] in
/- A status that is set unless the call is refused. -/
theorem meansStarted_iff_of_status
    {life after : VmLife}
    {Refused : Prop}
    [Decidable Refused]
    {status : VMStatus}
    (hMeans : life.MeansStarted)
    (hSays : SaysStarted status)
    (hStarted : after.started = life.started)
    (hStatus :
      after.world.handle.status =
        if Refused then life.world.handle.status
        else status) :
    after.MeansStarted ↔
      life.started = true ∨ Refused := by
  unfold MeansStarted at hMeans ⊢
  rw [hStarted, hStatus]
  by_cases hRefused : Refused
  · rw [if_pos hRefused]
    exact iff_of_true hMeans (Or.inr hRefused)
  · rw [if_neg hRefused]
    constructor
    · exact fun hAfter => Or.inl (hAfter hSays)
    · rintro (hBefore | hRefuses) _
      · exact hBefore
      · exact absurd hRefuses hRefused

omit [PathDebug] in
/- What succeeds as a start, or keeps the status, is fine. -/
theorem meansStarted_of_okOr
    {after : VmLife}
    {succeeded : Bool}
    (hMeans : life.MeansStarted)
    (hStarted :
      after.started = (life.started || succeeded))
    (hOkOr :
      succeeded = true ∨
        after.world.handle.status =
          life.world.handle.status) :
    after.MeansStarted := by
  intro hSays
  rw [hStarted]
  rcases hOkOr with rfl | hStatus
  · exact Bool.or_true _
  · rw [hStatus] at hSays
    rw [hMeans hSays, Bool.true_or]

/- One call keeps the meaning of the status, or breaks it. -/
theorem meansStarted_step
    (life : VmLife)
    (call : VmCall)
    (hMeans : life.MeansStarted) :
    (life.step call).MeansStarted ↔
      life.StartedOrRefused call := by
  cases call with
  | boot answers =>
      refine iff_of_true ?_ (Or.inr trivial)
      exact
        meansStarted_of_okOr hMeans rfl
          (VMHandle.boot_cases answers life.world)
  | pause answer =>
      exact
        meansStarted_iff_of_status hMeans (Or.inr rfl) rfl
          (VMHandle.askAndSet_status _ _ answer .paused
            life.world)
  | resume answer =>
      exact
        meansStarted_iff_of_status hMeans (Or.inl rfl) rfl
          (VMHandle.askAndSet_status _ _ answer .running
            life.world)
  | snapshot answers =>
      have hAfter :
          (life.step (.snapshot answers)).world =
            life.world.afterSnapshot
              (life.world.failsAt answers) :=
        (VmWorld.snapshot_cases life.world answers).1
      unfold MeansStarted StartedOrRefused
      rw [hAfter]
      dsimp only
      cases life.world.failsAt answers with
      | none =>
          have hSays : SaysStarted .running := Or.inl rfl
          exact
            ⟨fun hStarted => Or.inl (hStarted hSays),
              fun hGuard _ =>
                hGuard.resolve_right Bool.false_ne_true⟩
      | some failure =>
          refine iff_of_true ?_ (Or.inr rfl)
          rw [VmWorld.status_afterSnapshot_some]
          rintro (hRunning | hPaused)
          · cases hRunning
          · cases hPaused
  | stop answer =>
      refine iff_of_true ?_ (Or.inr trivial)
      intro hSays
      have hStatus :
          (life.step (.stop answer)).world.handle.status =
            .stopped :=
        VMHandle.stop_status answer life.world
      rw [hStatus] at hSays
      rcases hSays with hRunning | hPaused
      · cases hRunning
      · cases hPaused
  | restoreFromSnapshot source answers =>
      refine iff_of_true ?_ (Or.inr trivial)
      exact
        meansStarted_of_okOr hMeans rfl
          (VMHandle.restore_cases source answers life.world)

/-
  In every run from the creation of a handle, a status of
  running or paused means that the VM has been started,
  exactly when no call but a boot or a restore succeeds on a
  VM that has not been.
-/
theorem meansStarted_iff
    (instanceId : String)
    (config : VMConfig)
    (firecrackerConfig : FirecrackerConfig)
    (guest : GuestState)
    (calls : List VmCall) :
    Runs.Throughout step MeansStarted
        (create instanceId config firecrackerConfig guest)
        calls ↔
      Runs.AlongRun step StartedOrRefused
        (create instanceId config firecrackerConfig guest)
        calls := by
  apply Runs.throughout_iff_alongRun meansStarted_step
  rintro (hRunning | hPaused)
  · cases hRunning
  · cases hPaused

end VmLife

end IsaWorkspace

namespace IsaWorkspace

namespace VmLife

/- A handle that has just been created is paused. -/
theorem meansStarted_pause :
    ¬ Runs.Throughout (@step ⟨id⟩) MeansStarted
      (create "vm-1"
        { vcpus := 2
          memoryMb := 512
          kernelImage := "/tmp/vmlinux.bin"
          rootfsImage := "/tmp/rootfs.ext4" }
        { binaryPath := "/usr/bin/firecracker"
          workspaceRoot := "/tmp/isa-workspace" }
        .paused)
      [.pause none] := by
  intro hRun
  cases hRun.last (Or.inr rfl)

end VmLife

end IsaWorkspace
