import IsaWorkspace.Firecracker.Api

/-
  Handles of Firecracker microVMs and their operations.

  An operation acts on the handle and, through its client,
  on the guest.  What the system and the API answer to each
  of its steps is an argument of the operation.

  Main declarations:
    * `VMStatus`, `VMError`, `VMHandle`, `VmWorld`
    * `VMHandle.boot`, `VMHandle.pause`, `VMHandle.resume`
    * `VMHandle.snapshot`, `VMHandle.stop`
    * `VMHandle.restoreFromSnapshot`
-/

------------------------------------------------------------
-- Handles
------------------------------------------------------------

namespace IsaWorkspace

/- The printed form of a path for debugging. -/
class PathDebug where
  debug : String → String

/- Firecracker-specific configuration. -/
structure FirecrackerConfig where
  binaryPath : String
  workspaceRoot : String
deriving DecidableEq

/- Current state of a VM. -/
inductive VMStatus where
  | notStarted
  | starting
  | running
  | paused
  | snapshotting
  | stopped
  | error (message : String)
deriving DecidableEq

/- VM operation errors. -/
inductive VMError where
  | ioError (message : String)
  | apiError (message : String)
  | notFound (message : String)
  | serializationError (message : String)
deriving DecidableEq

/- Firecracker process handle. -/
structure FirecrackerProcess where
  logPath : String
deriving DecidableEq

/- Runtime handle to a Firecracker VM. -/
structure VMHandle where
  instanceId : String
  config : VMConfig
  status : VMStatus
  socketPath : String
  firecrackerConfig : FirecrackerConfig
  stateDir : String
  client : Option FirecrackerClient
  process : Option FirecrackerProcess
  configPath : String
  logPath : String
  fifoPath : String
deriving DecidableEq

/- Create a new VM handle without starting the VM. -/
def VMHandle.new
    (instanceId : String)
    (config : VMConfig)
    (firecrackerConfig : FirecrackerConfig) : VMHandle :=
  let stateDir :=
    LocalBackend.join firecrackerConfig.workspaceRoot
      instanceId
  { instanceId := instanceId
    config := config
    status := .notStarted
    socketPath :=
      LocalBackend.join stateDir "firecracker.sock"
    firecrackerConfig := firecrackerConfig
    stateDir := stateDir
    client := none
    process := none
    configPath := LocalBackend.join stateDir "config.json"
    logPath := LocalBackend.join stateDir "firecracker.log"
    fifoPath := LocalBackend.join stateDir "log.fifo" }

/- A handle and the guest behind its socket. -/
structure VmWorld where
  handle : VMHandle
  guest : GuestState
deriving DecidableEq

namespace VmWorld

/- Change one field of the handle. -/
def withStatus
    (world : VmWorld)
    (status : VMStatus) : VmWorld :=
  { world with handle := { world.handle with status := status } }

def withClient
    (world : VmWorld)
    (client : FirecrackerClient) : VmWorld :=
  { world with
    handle := { world.handle with client := some client } }

def withProcess
    (world : VmWorld)
    (process : FirecrackerProcess) : VmWorld :=
  { world with
    handle := { world.handle with process := some process } }

end VmWorld

/- A complete VM snapshot including memory and CPU state. -/
structure VMSnapshot where
  snapshotId : String
  memPath : String
  statePath : String
  cpuState : CPUState
  memoryManifest : List MemoryRegion
  createdAt : DateTime

end IsaWorkspace

------------------------------------------------------------
-- Steps
------------------------------------------------------------

namespace IsaWorkspace

namespace VMHandle

/- A step that may fail, as it is told. -/
def attempt
    {E : Type}
    (wrap : E → VMError)
    (answer : Option E) : Exec VmWorld VMError Unit :=
  match answer with
  | some error => Exec.fail (wrap error)
  | none => pure ()

/- Act on the guest, and describe the error if it fails. -/
def onGuest
    (describe : String)
    (call : Exec GuestState FirecrackerError Unit) :
    Exec VmWorld VMError Unit :=
  Exec.mapErr
    (fun error => .apiError (describe ++ ": " ++ error.text))
    (Exec.onPart VmWorld.guest
      (fun world guest => { world with guest := guest }) call)

/- Use the client, if there is one. -/
def withClient
    (call : FirecrackerClient → Exec VmWorld VMError Unit) :
    Exec VmWorld VMError Unit := do
  let world ← Exec.read
  match world.handle.client with
  | some client => call client
  | none => pure ()

def setStatus
    (status : VMStatus) : Exec VmWorld VMError Unit :=
  Exec.update fun world => world.withStatus status

------------------------------------------------------------
-- Booting
------------------------------------------------------------

/-
  What the system answers while a VM boots: at each attempt,
  whether the socket is ready and the process has exited.
-/
structure BootAnswers where
  createDir : Option String
  serialize : Option String
  writeConfig : Option String
  spawn : Option String
  ready : Nat → Bool
  exited : Nat → Bool

/- Write the configuration, which names the device. -/
def writeConfigFile
    (answers : BootAnswers) :
    Exec VmWorld VMError Unit := do
  let world ← Exec.read
  let _ ← Exec.orPanic (tapDevice world.handle.instanceId)
  attempt .serializationError answers.serialize
  attempt
    (fun error => .ioError ("Failed to write config: " ++ error))
    answers.writeConfig

def maxAttempts : Nat := 50

/- Wait for the socket, for so many attempts more. -/
def awaitSocket
    [PathDebug]
    (answers : BootAnswers) :
    Nat → Exec VmWorld VMError Unit
| 0 => do
    let world ← Exec.read
    Exec.fail
      (.ioError
        ("Firecracker API socket not ready after " ++
          toString (maxAttempts * 100) ++
          "ms - check logs at " ++
          PathDebug.debug world.handle.logPath))
| remaining + 1 =>
    let attempts := maxAttempts - (remaining + 1)
    if answers.ready attempts then
      pure ()
    else if answers.exited attempts then
      Exec.fail
        (.ioError "Firecracker process exited during startup")
    else
      awaitSocket answers remaining

/- Boot the microVM. -/
def boot
    [PathDebug]
    (answers : BootAnswers) :
    Exec VmWorld VMError Unit := do
  attempt
    (fun error =>
      .ioError ("Failed to create state dir: " ++ error))
    answers.createDir
  writeConfigFile answers
  let world ← Exec.read
  attempt
    (fun error =>
      .ioError
        ("Failed to spawn Firecracker: " ++ error ++
          " - ensure firecracker binary is installed at " ++
          world.handle.firecrackerConfig.binaryPath))
    answers.spawn
  awaitSocket answers maxAttempts
  Exec.update fun world =>
    world.withClient (.new world.handle.socketPath)
  setStatus .running
  Exec.update fun world =>
    world.withProcess { logPath := world.handle.logPath }

------------------------------------------------------------
-- Pausing and Resuming
------------------------------------------------------------

/- Pause a running VM. -/
def pause
    (answer : Option FirecrackerError) :
    Exec VmWorld VMError Unit := do
  withClient fun client =>
    onGuest "Failed to pause VM" (client.pauseVm answer)
  setStatus .paused

/- Resume a paused VM. -/
def resume
    (answer : Option FirecrackerError) :
    Exec VmWorld VMError Unit := do
  withClient fun client =>
    onGuest "Failed to resume VM" (client.resumeVm answer)
  setStatus .running

------------------------------------------------------------
-- Snapshots
------------------------------------------------------------

/-
  What is answered while a snapshot is created, and the id
  and the time that it is given.
-/
structure SnapshotAnswers where
  createDir : Option String
  pause : Option FirecrackerError
  createFullSnapshot : Option FirecrackerError
  resume : Option FirecrackerError
  cpuConfig : Except FirecrackerError CpuConfig
  snapshotId : String
  now : DateTime

/-
  Capture CPU register state from the VM: what the API says
  if there is a client and it answers, else the configured
  values.
-/
def captureCpuState
    (handle : VMHandle)
    (cpuConfig : Except FirecrackerError CpuConfig) :
    Except VMError CPUState :=
  match handle.client, cpuConfig with
  | some _, .ok config =>
      .ok
        { arch := "x86_64"
          registers :=
            .object
              [("captured_via", .string "firecracker_api"),
                ("cpu_count",
                  .posInt config.cpuCount.toUInt64),
                ("cpu_template",
                  match config.cpuTemplate with
                  | some template => template.json
                  | none => .null)] }
  | _, _ =>
      .ok
        { arch := "x86_64"
          registers :=
            .object
              [("memory_mb",
                  .posInt handle.config.memoryMb.toUInt64),
                ("vcpus", .posInt handle.config.vcpus.toUInt64),
                ("vm_id", .string handle.instanceId)] }

/- Capture memory region manifest with temperature hints. -/
def captureMemoryManifest :
    Except VMError (List MemoryRegion) :=
  .ok
    [{ regionId := "stack-0"
       baseAddr := 0x7fff00000000
       size := 8 * 1024 * 1024
       flags := { read := true, write := true, execute := false }
       temperature := .hot },
      { regionId := "heap-0"
        baseAddr := 0x40000000
        size := 256 * 1024 * 1024
        flags :=
          { read := true, write := true, execute := false }
        temperature := .warm }]

/- Take over the result of a capture. -/
def captured
    {α : Type} :
    Except VMError α → Exec VmWorld VMError α
| .ok value => pure value
| .error error => Exec.fail error

/- Create a snapshot of the VM. -/
def snapshot
    (answers : SnapshotAnswers) :
    Exec VmWorld VMError VMSnapshot := do
  setStatus .snapshotting
  let world ← Exec.read
  let snapshotDir :=
    LocalBackend.join world.handle.stateDir "snapshots"
  attempt
    (fun error =>
      .ioError ("Failed to create snapshot dir: " ++ error))
    answers.createDir
  let memPath :=
    LocalBackend.join snapshotDir
      (answers.snapshotId ++ ".mem")
  let statePath :=
    LocalBackend.join snapshotDir
      (answers.snapshotId ++ ".state")
  withClient fun _ =>
    let vm :=
      FirecrackerVM.new world.handle.socketPath
        world.handle.instanceId .default
    onGuest "Failed to create snapshot"
      (vm.snapshot memPath statePath answers.pause
        answers.createFullSnapshot answers.resume)
  let cpuState ←
    captured (captureCpuState world.handle answers.cpuConfig)
  let memoryManifest ← captured captureMemoryManifest
  setStatus .running
  pure
    { snapshotId := answers.snapshotId
      memPath := memPath
      statePath := statePath
      cpuState := cpuState
      memoryManifest := memoryManifest
      createdAt := answers.now }

------------------------------------------------------------
-- Stopping and Restoring
------------------------------------------------------------

/- Stop the VM; what the API answers makes no difference. -/
def stop
    (answer : Option FirecrackerError) :
    Exec VmWorld VMError Unit := do
  withClient fun client =>
    Exec.ignoreErr (onGuest "" (client.stopVm answer))
  setStatus .stopped

/- What is answered while a VM is restored. -/
structure RestoreAnswers where
  setup : InitializeAnswers
  load : Option FirecrackerError

/- Restore VM from a snapshot. -/
def restoreFromSnapshot
    (source : VMSnapshot)
    (answers : RestoreAnswers) :
    Exec VmWorld VMError Unit := do
  Exec.update fun world =>
    world.withClient (.new world.handle.socketPath)
  let world ← Exec.read
  let vm :=
    FirecrackerVM.new world.handle.socketPath
      world.handle.instanceId
      { vcpus := world.handle.config.vcpus
        memoryMb := world.handle.config.memoryMb
        kernelPath := world.handle.config.kernelImage
        rootfsPath := world.handle.config.rootfsImage
        bootArgs := "console=ttyS0 reboot=k panic=1 pci=off" }
  onGuest "Failed to initialize VM"
    (vm.initializeVm answers.setup)
  onGuest "Failed to restore snapshot"
    (vm.restore source.memPath source.statePath answers.load)
  setStatus .running

end VMHandle

end IsaWorkspace
