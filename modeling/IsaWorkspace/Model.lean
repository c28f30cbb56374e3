import IsaWorkspace.Externals

/-
  The core data structures of the platform.

  `State` is one captured application state.  Free-form JSON
  fields are `JsonValue`; a floating-point number in one is
  kept as its bits, since the model only stores and compares
  such values.

  Main declarations:
    * `JsonValue`
    * `StateId`, `StateMetadata`, `State`
    * `State.new`
-/

------------------------------------------------------------
-- Free-Form JSON
------------------------------------------------------------

namespace IsaWorkspace

inductive JsonValue where
  | null
  | bool (value : Bool)
  | posInt (value : UInt64)
  | negInt (value : Int64)
  | float (bits : UInt64)
  | string (value : String)
  | array (items : List JsonValue)
  | object (fields : List (String × JsonValue))
deriving Repr

/- A universally unique identifier. -/
abbrev Uuid : Type :=
  BitVec 128

end IsaWorkspace

------------------------------------------------------------
-- State Components
------------------------------------------------------------

namespace IsaWorkspace

structure StateId where
  id : String
deriving DecidableEq, Repr

structure VMConfig where
  vcpus : UInt8
  memoryMb : UInt32
  kernelImage : String
  rootfsImage : String
deriving DecidableEq, Repr

structure CPUState where
  arch : String
  registers : JsonValue
deriving Repr

structure MemoryFlags where
  read : Bool
  write : Bool
  execute : Bool
deriving DecidableEq, Repr

inductive MemoryTemperature where
  | hot
  | warm
  | cold
deriving DecidableEq, Repr

structure MemoryRegion where
  regionId : String
  baseAddr : UInt64
  size : UInt64
  flags : MemoryFlags
  temperature : MemoryTemperature
deriving DecidableEq, Repr

inductive FDKind where
  | file (path : String)
  | socket (socketId : String)
  | other (description : String)
deriving DecidableEq, Repr

structure FDDescriptor where
  fd : Int32
  kind : FDKind
deriving DecidableEq, Repr

inductive TransportProtocol where
  | tcp
  | quic
deriving DecidableEq, Repr

structure SocketDescriptor where
  socketId : String
  protocol : TransportProtocol
deriving DecidableEq, Repr

structure DeviceState where
  deviceType : String
  payload : JsonValue
deriving Repr

inductive DeterministicEvent where
  | syscall (name : String)
  | signal (signal : String)
  | threadSchedule (threadId : UInt64)
  | networkIoBoundary (connectionId : String)
  | randomnessSeed (seed : UInt64)
deriving DecidableEq, Repr

structure EventLog where
  events : List DeterministicEvent
deriving DecidableEq, Repr

structure UIStateRef where
  streamId : Uuid
deriving DecidableEq, Repr

structure StateMetadata where
  label : String
  createdAt : DateTime
  ttlSeconds : Option UInt64
deriving DecidableEq

end IsaWorkspace

------------------------------------------------------------
-- States
------------------------------------------------------------

namespace IsaWorkspace

structure State where
  stateId : StateId
  vmConfig : VMConfig
  cpuState : CPUState
  memoryManifest : List MemoryRegion
  fdTable : List FDDescriptor
  socketTable : List SocketDescriptor
  deviceState : List DeviceState
  deterministicLog : EventLog
  uiState : UIStateRef
  metadata : StateMetadata

namespace State

/-
  A new empty state.  Its two random identifiers, the first
  already printed as text, are arguments.
-/
def new
    (freshId : String)
    (freshStream : Uuid)
    (vmConfig : VMConfig)
    (metadata : StateMetadata) : State where
  stateId := ⟨freshId⟩
  vmConfig := vmConfig
  cpuState :=
    { arch := "x86_64", registers := .object [] }
  memoryManifest := []
  fdTable := []
  socketTable := []
  deviceState := []
  deterministicLog := { events := [] }
  uiState := { streamId := freshStream }
  metadata := metadata

end State

end IsaWorkspace
