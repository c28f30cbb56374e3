import IsaWorkspace.Foundations.KeyedList
import IsaWorkspace.Foundations.SocketAddr
import IsaWorkspace.Model

/-
  The connection tables of the socket proxy.

  A proxy keeps its connections under their ids, and two
  maps from addresses to ids.  Each operation holds a lock
  while it changes a table, and is one step here.  The
  identifiers and the times that an operation draws are
  arguments of it.

  Main declarations:
    * `SocketProxyConfig`, `ConnectionState`
    * `ProxiedConnection`, `ConnectionState.Serialized`
    * `ConnectionProxy`
    * `ConnectionProxy.accept`, `ConnectionProxy.establish`
    * `ConnectionProxy.registerConnection`
    * `ConnectionProxy.unregisterConnection`
    * `ConnectionProxy.getByGuestAddr`
    * `ConnectionProxy.prepareSnapshot`
    * `ConnectionProxy.restoreConnections`
    * `ConnectionProxy.getDescriptors`
    * `ConnectionProxy.getSocketTable`
-/

------------------------------------------------------------
-- Connections
------------------------------------------------------------

namespace IsaWorkspace

/- Unique connection identifier. -/
abbrev ConnectionId : Type :=
  String

/- Socket proxy configuration. -/
structure SocketProxyConfig where
  listenAddr : String
  tcpPort : UInt16
  bufferSize : UInt64
  timeoutSecs : UInt64
deriving DecidableEq

def SocketProxyConfig.default : SocketProxyConfig where
  listenAddr := "127.0.0.1"
  tcpPort := 14433
  bufferSize := 65536
  timeoutSecs := 30

/- Connection state. -/
inductive ConnectionState where
  | connecting
  | established
  | snapshotting
  | resuming
  | closed
deriving DecidableEq

/-
  Connection state for serialization; in the source it has
  the name of the enumeration above.
-/
structure ConnectionState.Serialized where
  connectionId : ConnectionId
  guestAddr : SocketAddr
  remoteAddr : SocketAddr
  protocol : TransportProtocol
  txBufferLen : Nat
  rxBufferLen : Nat
deriving DecidableEq

/- A proxied connection. -/
structure ProxiedConnection where
  connectionId : ConnectionId
  guestAddr : SocketAddr
  remoteAddr : SocketAddr
  protocol : TransportProtocol
  state : ConnectionState
  txBuffer : Bytes
  rxBuffer : Bytes
  createdAt : DateTime
  bytesSent : UInt64
  bytesReceived : UInt64
deriving DecidableEq

namespace ProxiedConnection

def new
    (freshId : ConnectionId)
    (now : DateTime)
    (guestAddr remoteAddr : SocketAddr)
    (protocol : TransportProtocol) : ProxiedConnection where
  connectionId := freshId
  guestAddr := guestAddr
  remoteAddr := remoteAddr
  protocol := protocol
  state := .connecting
  txBuffer := []
  rxBuffer := []
  createdAt := now
  bytesSent := 0
  bytesReceived := 0

end ProxiedConnection

/- The address `0.0.0.0:0`. -/
def SocketAddr.unspecified : SocketAddr :=
  .v4 ⟨⟨0, 0, 0, 0⟩, 0⟩

end IsaWorkspace

------------------------------------------------------------
-- The Proxy
------------------------------------------------------------

namespace IsaWorkspace

/- Connection proxy. -/
structure ConnectionProxy where
  config : SocketProxyConfig
  connections : HashMap ConnectionId ProxiedConnection
  guestMap : HashMap SocketAddr ConnectionId
  remoteMap : HashMap SocketAddr ConnectionId

namespace ConnectionProxy

def new
    (config : SocketProxyConfig) : ConnectionProxy where
  config := config
  connections := ∅
  guestMap := ∅
  remoteMap := ∅

/-
  What the accept loop does with a client, before it starts
  the handler.  It draws one id for the tables, and the
  record draws another one; the remote address is to be set
  by the request.
-/
def accept
    (proxy : ConnectionProxy)
    (connId recordId : ConnectionId)
    (now : DateTime)
    (guestAddr : SocketAddr) : ConnectionProxy :=
  let conn :=
    ProxiedConnection.new recordId now guestAddr .unspecified
      .tcp
  { proxy with
    connections := proxy.connections.insert connId conn
    guestMap := proxy.guestMap.insert guestAddr connId }

/- Change the record of a connection, if there is one. -/
def modifyConnection
    (proxy : ConnectionProxy)
    (connId : ConnectionId)
    (change : ProxiedConnection → ProxiedConnection) :
    ConnectionProxy :=
  match proxy.connections.lookup connId with
  | none => proxy
  | some conn =>
      { proxy with
        connections :=
          proxy.connections.insert connId (change conn) }

/- What the handler records once it has connected. -/
def establish
    (proxy : ConnectionProxy)
    (connId : ConnectionId)
    (addr : SocketAddr) : ConnectionProxy :=
  proxy.modifyConnection connId fun conn =>
    { conn with remoteAddr := addr, state := .established }

/- Count bytes that were forwarded to the remote. -/
def countSent
    [BuildProfile]
    (proxy : ConnectionProxy)
    (connId : ConnectionId)
    (count : UInt64) : ConnectionProxy :=
  proxy.modifyConnection connId fun conn =>
    -- An overflow ends the handler before the write.
    { conn with
      bytesSent :=
        (checkedAdd conn.bytesSent count).getD
          conn.bytesSent }

/- Count bytes that were forwarded to the client. -/
def countReceived
    [BuildProfile]
    (proxy : ConnectionProxy)
    (connId : ConnectionId)
    (count : UInt64) : ConnectionProxy :=
  proxy.modifyConnection connId fun conn =>
    { conn with
      bytesReceived :=
        (checkedAdd conn.bytesReceived count).getD
          conn.bytesReceived }

/- The cleanup at the end of the handler. -/
def close
    (proxy : ConnectionProxy)
    (connId : ConnectionId)
    (clientAddr : SocketAddr) : ConnectionProxy :=
  { proxy with
    guestMap := proxy.guestMap.erase clientAddr
    connections := proxy.connections.erase connId }

/- Register a new connection. -/
def registerConnection
    (proxy : ConnectionProxy)
    (freshId : ConnectionId)
    (now : DateTime)
    (guestAddr remoteAddr : SocketAddr)
    (protocol : TransportProtocol) :
    ConnectionId × ConnectionProxy :=
  let conn :=
    ProxiedConnection.new freshId now guestAddr remoteAddr
      protocol
  let connectionId := conn.connectionId
  (connectionId,
    { proxy with
      connections :=
        proxy.connections.insert connectionId conn
      guestMap :=
        proxy.guestMap.insert guestAddr connectionId
      remoteMap :=
        proxy.remoteMap.insert remoteAddr connectionId })

/- Unregister a connection. -/
def unregisterConnection
    (proxy : ConnectionProxy)
    (connectionId : ConnectionId) : ConnectionProxy :=
  match proxy.connections.lookup connectionId with
  | none => proxy
  | some conn =>
      { proxy with
        connections := proxy.connections.erase connectionId
        guestMap := proxy.guestMap.erase conn.guestAddr
        remoteMap := proxy.remoteMap.erase conn.remoteAddr }

/- Get connection by id. -/
def getConnection
    (proxy : ConnectionProxy)
    (connectionId : ConnectionId) :
    Option ProxiedConnection :=
  proxy.connections.lookup connectionId

/- Get connection by guest address. -/
def getByGuestAddr
    (proxy : ConnectionProxy)
    (guestAddr : SocketAddr) : Option ProxiedConnection :=
  (proxy.guestMap.lookup guestAddr).bind fun connectionId =>
    proxy.connections.lookup connectionId

end ConnectionProxy

end IsaWorkspace

------------------------------------------------------------
-- Snapshots
------------------------------------------------------------

namespace IsaWorkspace

namespace ConnectionProxy

/- An order in which the connections are visited. -/
abbrev ConnectionOrder
    (proxy : ConnectionProxy) : Type :=
  HashMap.Iteration proxy.connections

/- What is recorded of a connection. -/
def serialize
    (id : ConnectionId)
    (conn : ProxiedConnection) :
    ConnectionState.Serialized where
  connectionId := id
  guestAddr := conn.guestAddr
  remoteAddr := conn.remoteAddr
  protocol := conn.protocol
  txBufferLen := conn.txBuffer.length
  rxBufferLen := conn.rxBuffer.length

/- Prepare connections for snapshot. -/
def prepareSnapshot
    (proxy : ConnectionProxy)
    (order : proxy.ConnectionOrder) :
    List ConnectionState.Serialized × ConnectionProxy :=
  (order.entries.map fun entry =>
      serialize entry.1 entry.2,
    { proxy with
      connections :=
        HashMap.mapValues
          (fun conn => { conn with state := .snapshotting })
          proxy.connections })

/-
  Restore connections after resume.  The registration of
  each of them draws an id and a time.
-/
def restoreConnections :
    ConnectionProxy → List (ConnectionId × DateTime) →
      List ConnectionState.Serialized → ConnectionProxy
| proxy, draw :: draws, state :: states =>
    let registered :=
      proxy.registerConnection draw.1 draw.2 state.guestAddr
        state.remoteAddr state.protocol
    restoreConnections registered.2 draws states
| proxy, _, _ => proxy

/- Get socket descriptors for state capture. -/
def getDescriptors
    (proxy : ConnectionProxy)
    (order : proxy.ConnectionOrder) : List FDDescriptor :=
  order.entries.map fun entry =>
    { fd := 0, kind := .socket entry.1 }

/- Get socket table for state capture. -/
def getSocketTable
    (proxy : ConnectionProxy)
    (order : proxy.ConnectionOrder) :
    List SocketDescriptor :=
  order.entries.map fun entry =>
    { socketId := entry.2.connectionId
      protocol := entry.2.protocol }

end ConnectionProxy

end IsaWorkspace
