import IsaWorkspace.Foundations.Exec
import IsaWorkspace.Model
import IsaWorkspace.StateStore.Backend

/-
  The Firecracker API as its client sees it.

  Behind the socket there is a guest that runs or is paused.
  A request is answered with a success, and then has its
  effect on the guest, or with an error and without effect.
  Every answer is an argument of the call that gets it.

  Main declarations:
    * `FirecrackerError`
    * `ApiRequest`, `GuestState`, `GuestState.after`
    * `FirecrackerClient`, `FirecrackerClient.put`
    * `FirecrackerVM`, `FirecrackerVM.initializeVm`
    * `FirecrackerVM.snapshot`, `FirecrackerVM.restore`
-/

------------------------------------------------------------
-- Errors
------------------------------------------------------------

namespace IsaWorkspace

/- Firecracker errors. -/
inductive FirecrackerError where
  | connectionTimeout
  | connectionError (message : String)
  | handshakeError (message : String)
  | requestError (message : String)
  | requestTimeout
  | sendError (message : String)
  | bodyError (message : String)
  | parseError (message : String)
  | serializationError (message : String)
  | apiError (status : UInt16) (message : String)
  | ioError (message : String)
deriving DecidableEq

/- The text of an error. -/
def FirecrackerError.text : FirecrackerError → String
| .connectionTimeout => "Connection timeout"
| .connectionError message => "Connection error: " ++ message
| .handshakeError message => "Handshake error: " ++ message
| .requestError message => "Request error: " ++ message
| .requestTimeout => "Request timeout"
| .sendError message => "Send error: " ++ message
| .bodyError message => "Body error: " ++ message
| .parseError message => "Parse error: " ++ message
| .serializationError message =>
    "Serialization error: " ++ message
| .apiError status message =>
    "API error " ++ toString status.toNat ++ ": " ++ message
| .ioError message => "IO error: " ++ message

end IsaWorkspace

------------------------------------------------------------
-- Requests
------------------------------------------------------------

namespace IsaWorkspace

/- CPU template. -/
inductive CpuTemplate where
  | c3
  | t2
  | t2s
  | t2a
  | v1n1
  | none
deriving DecidableEq

/- The name of a template in JSON. -/
def CpuTemplate.json : CpuTemplate → JsonValue
| .c3 => .string "c3"
| .t2 => .string "t2"
| .t2s => .string "t2-s"
| .t2a => .string "t2-a"
| .v1n1 => .string "v1-n1"
| .none => .string "None"

/- CPU configuration. -/
structure CpuConfig where
  cpuCount : UInt8
  cpuTemplate : Option CpuTemplate

/- Machine configuration. -/
structure MachineConfig where
  vcpuCount : UInt8
  memSizeMib : Nat
  smt : Option Bool
  cpuTemplate : Option CpuTemplate

/- Boot source configuration. -/
structure BootSourceConfig where
  kernelImagePath : String
  bootArgs : Option String

/- Drive configuration. -/
structure DriveConfig where
  driveId : String
  pathOnHost : String
  isRootDevice : Bool
  isReadOnly : Bool
  ioEngine : Option String

/- Network interface configuration. -/
structure NetworkInterfaceConfig where
  ifaceId : String
  hostDevName : String
  guestMac : Option String

/- Instance action. -/
structure InstanceAction where
  actionType : String

/- Snapshot configuration. -/
structure SnapshotConfig where
  memPath : String
  statePath : String
  snapshotType : Option String
  version : Option String

/- Snapshot load configuration. -/
structure SnapshotLoadConfig where
  memPath : String
  statePath : String
  enableDiffSnapshots : Option Bool

/- What is put, by its path. -/
inductive ApiRequest where
  | machineConfig (body : MachineConfig)
  | bootSource (body : BootSourceConfig)
  | drives (body : DriveConfig)
  | networkInterfaces (body : NetworkInterfaceConfig)
  | actions (body : InstanceAction)
  | vm (body : InstanceAction)
  | snapshotCreate (body : SnapshotConfig)
  | snapshotLoad (body : SnapshotLoadConfig)

/- Whether the guest runs. -/
inductive GuestState where
  | running
  | paused
deriving DecidableEq

/-
  The guest after a request that succeeds.  A guest that is
  loaded from a snapshot stays paused until it is resumed.
-/
def GuestState.after
    (guest : GuestState) : ApiRequest → GuestState
| .vm body =>
    if body.actionType = "Pause" then .paused
    else if body.actionType = "Resume" then .running
    else guest
| .snapshotLoad _ => .paused
| _ => guest

end IsaWorkspace

------------------------------------------------------------
-- Clients
------------------------------------------------------------

namespace IsaWorkspace

/- Firecracker API client. -/
structure FirecrackerClient where
  socketPath : String
  timeoutSecs : UInt64
deriving DecidableEq

namespace FirecrackerClient

/- Create a new Firecracker client. -/
def new
    (socketPath : String) : FirecrackerClient where
  socketPath := socketPath
  timeoutSecs := 30

/- Generic PUT request; an answer is an error or none. -/
def put
    (_ : FirecrackerClient)
    (request : ApiRequest)
    (answer : Option FirecrackerError) :
    Exec GuestState FirecrackerError Unit :=
  match answer with
  | some error => Exec.fail error
  | none => Exec.update fun guest => guest.after request

/- Pause the VM. -/
def pauseVm
    (client : FirecrackerClient) :
    Option FirecrackerError →
      Exec GuestState FirecrackerError Unit :=
  client.put (.vm { actionType := "Pause" })

/- Resume the VM. -/
def resumeVm
    (client : FirecrackerClient) :
    Option FirecrackerError →
      Exec GuestState FirecrackerError Unit :=
  client.put (.vm { actionType := "Resume" })

/- Stop the VM (send Ctrl+Alt+Del). -/
def stopVm
    (client : FirecrackerClient) :
    Option FirecrackerError →
      Exec GuestState FirecrackerError Unit :=
  client.put (.actions { actionType := "SendCtrlAltDel" })

/- Create a full snapshot (memory + state). -/
def createFullSnapshot
    (client : FirecrackerClient)
    (config : SnapshotConfig) :
    Option FirecrackerError →
      Exec GuestState FirecrackerError Unit :=
  client.put (.snapshotCreate config)

/- Load a snapshot (for restore). -/
def loadSnapshot
    (client : FirecrackerClient)
    (config : SnapshotLoadConfig) :
    Option FirecrackerError →
      Exec GuestState FirecrackerError Unit :=
  client.put (.snapshotLoad config)

end FirecrackerClient

end IsaWorkspace

------------------------------------------------------------
-- Virtual Machines
------------------------------------------------------------

namespace IsaWorkspace

/- VM configuration. -/
structure VMConfiguration where
  vcpus : UInt8
  memoryMb : UInt32
  kernelPath : String
  rootfsPath : String
  bootArgs : String

/- The default VM configuration. -/
def VMConfiguration.default : VMConfiguration where
  vcpus := 2
  memoryMb := 512
  kernelPath := "/tmp/vmlinux.bin"
  rootfsPath := "/tmp/rootfs.ext4"
  bootArgs := "console=ttyS0 reboot=k panic=1 pci=off"

/- High-level VM manager with Firecracker integration. -/
structure FirecrackerVM where
  client : FirecrackerClient
  vmId : String
  config : VMConfiguration

/-
  The network device of a VM, after the first eight bytes of
  its id; `none` is the panic of a slice inside a character.
-/
def tapDevice
    (vmId : String) : Option String :=
  (LocalBackend.byteSlice (min 8 vmId.utf8ByteSize)
    vmId.toList).map fun start =>
      "tap-" ++ String.ofList start

/- How the requests that configure a VM are answered. -/
structure InitializeAnswers where
  machine : Option FirecrackerError
  bootSource : Option FirecrackerError
  drive : Option FirecrackerError
  network : Option FirecrackerError

namespace FirecrackerVM

/- Create a new VM manager. -/
def new
    (socketPath vmId : String)
    (config : VMConfiguration) : FirecrackerVM where
  client := .new socketPath
  vmId := vmId
  config := config

/- Initialize VM with all configurations. -/
def initializeVm
    (vm : FirecrackerVM)
    (answers : InitializeAnswers) :
    Exec GuestState FirecrackerError Unit := do
  vm.client.put
    (.machineConfig
      { vcpuCount := vm.config.vcpus
        memSizeMib := vm.config.memoryMb.toNat
        smt := some false
        cpuTemplate := none })
    answers.machine
  vm.client.put
    (.bootSource
      { kernelImagePath := vm.config.kernelPath
        bootArgs := some vm.config.bootArgs })
    answers.bootSource
  vm.client.put
    (.drives
      { driveId := "rootfs"
        pathOnHost := vm.config.rootfsPath
        isRootDevice := true
        isReadOnly := false
        ioEngine := none })
    answers.drive
  let device ← Exec.orPanic (tapDevice vm.vmId)
  vm.client.put
    (.networkInterfaces
      { ifaceId := "eth0"
        hostDevName := device
        guestMac := none })
    answers.network

/- Create a snapshot. -/
def snapshot
    (vm : FirecrackerVM)
    (memPath statePath : String)
    (pause create resume : Option FirecrackerError) :
    Exec GuestState FirecrackerError Unit := do
  -- Pause VM first.
  vm.client.pauseVm pause
  vm.client.createFullSnapshot
    { memPath := memPath
      statePath := statePath
      snapshotType := some "Full"
      version := none }
    create
  -- Resume VM.
  vm.client.resumeVm resume

/- Load a snapshot (restore). -/
def restore
    (vm : FirecrackerVM)
    (memPath statePath : String)
    (load : Option FirecrackerError) :
    Exec GuestState FirecrackerError Unit :=
  vm.client.loadSnapshot
    { memPath := memPath
      statePath := statePath
      enableDiffSnapshots := some false }
    load

end FirecrackerVM

end IsaWorkspace
