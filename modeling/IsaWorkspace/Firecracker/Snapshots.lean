import IsaWorkspace.Firecracker.Handle

/-
  What a snapshot leaves behind.

  A snapshot changes the status first and pauses the guest
  before it is taken.  Nothing of this is undone where a
  later step fails, and a snapshot that succeeds leaves the
  guest running, whatever it was before.

  Main declarations:
    * `SnapshotStep`, `VmWorld.failsAt`
    * `VmWorld.afterSnapshot`, `VmWorld.snapshot_cases`
    * `VmWorld.SnapshotHarmless`
    * `VmWorld.WasAsLeft`
    * `VmWorld.snapshotHarmless_iff`
-/

------------------------------------------------------------
-- Steps of a Snapshot
------------------------------------------------------------

namespace IsaWorkspace

/- The steps of a snapshot that can fail. -/
inductive SnapshotStep where
  | createDir
  | pause
  | createFullSnapshot
  | resume
deriving DecidableEq

namespace VmWorld

/-
  The first step that fails, if any.  The guest is asked only
  through a client, and the captures do not fail.
-/
def failsAt
    (world : VmWorld)
    (answers : VMHandle.SnapshotAnswers) :
    Option SnapshotStep :=
  if answers.createDir.isSome then some .createDir
  else if world.handle.client.isNone then none
  else if answers.pause.isSome then some .pause
  else if answers.createFullSnapshot.isSome then
    some .createFullSnapshot
  else if answers.resume.isSome then some .resume
  else none

/- The handle and the guest after the steps before that. -/
def afterSnapshot
    (world : VmWorld) : Option SnapshotStep → VmWorld
| some .createDir => world.withStatus .snapshotting
| some .pause => world.withStatus .snapshotting
| some .createFullSnapshot =>
    { world.withStatus .snapshotting with guest := .paused }
| some .resume =>
    { world.withStatus .snapshotting with guest := .paused }
| none =>
    { world.withStatus .running with
      guest :=
        if world.handle.client.isSome then .running
        else world.guest }

/- A snapshot that fails leaves its own status. -/
theorem status_afterSnapshot_some
    (world : VmWorld)
    (failure : SnapshotStep) :
    (world.afterSnapshot (some failure)).handle.status =
      .snapshotting := by
  cases failure <;> rfl

/- The capture of the CPU state does not fail. -/
theorem captureCpuState_ok
    (handle : VMHandle)
    (cpuConfig : Except FirecrackerError CpuConfig) :
    ∃ cpuState,
      handle.captureCpuState cpuConfig = .ok cpuState := by
  unfold VMHandle.captureCpuState
  split
  · exact ⟨_, rfl⟩
  · exact ⟨_, rfl⟩

/- A snapshot goes as far as its first failing step. -/
theorem snapshot_cases
    (world : VmWorld)
    (answers : VMHandle.SnapshotAnswers) :
    (VMHandle.snapshot answers world).2 =
        world.afterSnapshot (world.failsAt answers) ∧
      match world.failsAt answers with
      | none =>
          ∃ taken,
            (VMHandle.snapshot answers world).1 = .ok taken
      | some _ =>
          ∃ error,
            (VMHandle.snapshot answers world).1 =
              .err error := by
  rcases answers with
    ⟨createDir, pause, create, resume, cpuConfig, id, now⟩
  rcases world with ⟨handle, guest⟩
  rcases handle with
    ⟨instanceId, config, status, socketPath, firecracker,
      stateDir, client, process, configPath, logPath,
      fifoPath⟩
  cases createDir with
  | some error => exact ⟨rfl, _, rfl⟩
  | none =>
      cases client with
      | none => exact ⟨rfl, _, rfl⟩
      | some client =>
          cases pause with
          | some error => exact ⟨rfl, _, rfl⟩
          | none =>
              cases create with
              | some error => exact ⟨rfl, _, rfl⟩
              | none =>
                  cases resume with
                  | some error => exact ⟨rfl, _, rfl⟩
                  | none =>
                      cases cpuConfig with
                      | ok cpuConfig => exact ⟨rfl, _, rfl⟩
                      | error error => exact ⟨rfl, _, rfl⟩

------------------------------------------------------------
-- What Is Left as It Was
------------------------------------------------------------

/- The status and the guest are the same as before. -/
structure Unchanged
    (before after : VmWorld) : Prop where
  status : after.handle.status = before.handle.status
  guest : after.guest = before.guest

/-
  A snapshot that fails, but not as it resumes the guest, and
  one that succeeds leave the status and the guest alone.
-/
structure SnapshotHarmless
    (world : VmWorld)
    (answers : VMHandle.SnapshotAnswers) : Prop where
  failed :
    ∀ error,
      (VMHandle.snapshot answers world).1 = .err error →
        world.failsAt answers ≠ some .resume →
          Unchanged world (VMHandle.snapshot answers world).2
  taken :
    ∀ taken,
      (VMHandle.snapshot answers world).1 = .ok taken →
        Unchanged world (VMHandle.snapshot answers world).2

/- What a snapshot leaves behind was the case before. -/
def WasAsLeft
    (world : VmWorld) : Option SnapshotStep → Prop
| some .createDir => world.handle.status = .snapshotting
| some .pause => world.handle.status = .snapshotting
| some .createFullSnapshot =>
    world.handle.status = .snapshotting ∧
      world.guest = .paused
| some .resume => True
| none =>
    world.handle.status = .running ∧
      (world.handle.client.isSome = true →
        world.guest = .running)

/- The status and the guest stay if they were as left. -/
theorem unchanged_afterSnapshot_iff
    (world : VmWorld)
    {failure : Option SnapshotStep}
    (hFailure : failure ≠ some .resume) :
    Unchanged world (world.afterSnapshot failure) ↔
      world.WasAsLeft failure := by
  have hBoth :
      Unchanged world (world.afterSnapshot failure) ↔
        (world.afterSnapshot failure).handle.status =
            world.handle.status ∧
          (world.afterSnapshot failure).guest =
            world.guest :=
    ⟨fun h => ⟨h.status, h.guest⟩, fun h => ⟨h.1, h.2⟩⟩
  rw [hBoth]
  cases failure with
  | none =>
      refine and_congr eq_comm ?_
      change (if _ then _ else _) = world.guest ↔ _
      by_cases hClient : world.handle.client.isSome = true
      · rw [if_pos hClient, eq_comm]
        exact
          ⟨fun hRunning _ => hRunning,
            fun hRunning => hRunning hClient⟩
      · rw [if_neg hClient]
        exact iff_of_true rfl fun hSome => absurd hSome hClient
  | some step =>
      cases step with
      | createDir => exact (and_iff_left rfl).trans eq_comm
      | pause => exact (and_iff_left rfl).trans eq_comm
      | createFullSnapshot => exact and_congr eq_comm eq_comm
      | resume => exact absurd rfl hFailure

/-
  A snapshot leaves the status and the guest as they were
  exactly when they were as it leaves them.
-/
theorem snapshotHarmless_iff
    (world : VmWorld)
    (answers : VMHandle.SnapshotAnswers) :
    world.SnapshotHarmless answers ↔
      world.WasAsLeft (world.failsAt answers) := by
  rcases snapshot_cases world answers with
    ⟨hState, hResult⟩
  by_cases hResume : world.failsAt answers = some .resume
  · rw [hResume] at hResult ⊢
    rcases hResult with ⟨error, hError⟩
    refine iff_of_true ⟨?_, ?_⟩ trivial
    · exact fun _ _ hOther => absurd hResume hOther
    · intro taken hTaken
      rw [hError] at hTaken
      cases hTaken
  · rw [← unchanged_afterSnapshot_iff world hResume, ← hState]
    constructor
    · intro hHarmless
      cases hFails : world.failsAt answers with
      | none =>
          rw [hFails] at hResult
          rcases hResult with ⟨taken, hTaken⟩
          exact hHarmless.taken taken hTaken
      | some step =>
          rw [hFails] at hResult
          rcases hResult with ⟨error, hError⟩
          exact hHarmless.failed error hError hResume
    · intro hUnchanged
      exact
        ⟨fun _ _ _ => hUnchanged, fun _ _ => hUnchanged⟩

end VmWorld

end IsaWorkspace

namespace IsaWorkspace

namespace VmWorld

/- A VM that runs, with a client. -/
def sample : VmWorld where
  handle :=
    { VMHandle.new "vm-1"
        { vcpus := 2
          memoryMb := 512
          kernelImage := "/tmp/vmlinux.bin"
          rootfsImage := "/tmp/rootfs.ext4" }
        { binaryPath := "/usr/bin/firecracker"
          workspaceRoot := "/tmp/isa-workspace" } with
      status := .running
      client := some (.new "firecracker.sock") }
  guest := .running

/- The full snapshot is what fails. -/
def sampleAnswers : VMHandle.SnapshotAnswers where
  createDir := none
  pause := none
  createFullSnapshot := some .requestTimeout
  resume := none
  cpuConfig := .error .requestTimeout
  snapshotId := "snapshot-1"
  now := .unixEpoch

/- A running VM is left paused by a snapshot that fails. -/
theorem snapshotHarmless_timeout :
    ¬ sample.SnapshotHarmless sampleAnswers := by
  intro hHarmless
  have hUnchanged :=
    hHarmless.failed _ rfl (by decide)
  cases hUnchanged.guest

end VmWorld

end IsaWorkspace
