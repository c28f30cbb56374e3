import IsaWorkspace.Foundations.Runs
import IsaWorkspace.Proxy.Connections

/-
  The socket ids of descriptors and of the socket table.

  Descriptors list the keys of the connections, and the
  socket table lists the ids in their records.  The two agree
  where every record is stored under its own id.  A
  registration stores it so; the accept loop draws the key
  and the id of the record apart.

  Main declarations:
    * `ConnectionProxy.Action`, `ConnectionProxy.step`
    * `ConnectionProxy.KeyedById`
    * `ConnectionProxy.IdsAgree`
    * `ConnectionProxy.DrawsOneId`
    * `ConnectionProxy.keyedById_step_iff`
    * `ConnectionProxy.idsAgree_iff`
-/

------------------------------------------------------------
-- Runs of a Proxy
------------------------------------------------------------

namespace IsaWorkspace

namespace ConnectionProxy

/-
  What happens to the tables of a proxy: a client is
  accepted, its handler connects, counts what it forwards
  and closes, and connections are registered and
  unregistered.
-/
inductive Action where
  | accept
      (connId recordId : ConnectionId) (now : DateTime)
      (guestAddr : SocketAddr)
  | establish (connId : ConnectionId) (addr : SocketAddr)
  | countSent (connId : ConnectionId) (count : UInt64)
  | countReceived (connId : ConnectionId) (count : UInt64)
  | close (connId : ConnectionId) (clientAddr : SocketAddr)
  | register
      (freshId : ConnectionId) (now : DateTime)
      (guestAddr remoteAddr : SocketAddr)
      (protocol : TransportProtocol)
  | unregister (connectionId : ConnectionId)

def step
    [BuildProfile]
    (proxy : ConnectionProxy) : Action → ConnectionProxy
| .accept connId recordId now guestAddr =>
    proxy.accept connId recordId now guestAddr
| .establish connId addr => proxy.establish connId addr
| .countSent connId count => proxy.countSent connId count
| .countReceived connId count =>
    proxy.countReceived connId count
| .close connId clientAddr => proxy.close connId clientAddr
| .register freshId now guestAddr remoteAddr protocol =>
    (proxy.registerConnection freshId now guestAddr
      remoteAddr protocol).2
| .unregister connectionId =>
    proxy.unregisterConnection connectionId

/- Every record is stored under its own id. -/
def KeyedById
    (proxy : ConnectionProxy) : Prop :=
  ∀ key conn, proxy.connections.lookup key = some conn →
    conn.connectionId = key

/- The socket ids that descriptors list. -/
def descriptorIds
    (proxy : ConnectionProxy)
    (order : proxy.ConnectionOrder) : List String :=
  (proxy.getDescriptors order).filterMap fun descriptor =>
    match descriptor.kind with
    | .socket socketId => some socketId
    | _ => none

/- The socket ids that the socket table lists. -/
def tableIds
    (proxy : ConnectionProxy)
    (order : proxy.ConnectionOrder) : List String :=
  (proxy.getSocketTable order).map SocketDescriptor.socketId

/-
  Records are stored under their ids, and descriptors and
  the socket table list the same ones.
-/
structure IdsAgree
    (proxy : ConnectionProxy) : Prop where
  keyed : proxy.KeyedById
  sameIds :
    ∀ (order other : proxy.ConnectionOrder) id,
      id ∈ proxy.descriptorIds order ↔
        id ∈ proxy.tableIds other

/- A client's key and the id of its record are one draw. -/
def DrawsOneId : Action → Prop
| .accept connId recordId _ _ => recordId = connId
| _ => True

instance : DecidablePred DrawsOneId
| .accept connId recordId _ _ =>
    inferInstanceAs (Decidable (recordId = connId))
| .establish _ _ => inferInstanceAs (Decidable True)
| .countSent _ _ => inferInstanceAs (Decidable True)
| .countReceived _ _ => inferInstanceAs (Decidable True)
| .close _ _ => inferInstanceAs (Decidable True)
| .register _ _ _ _ _ => inferInstanceAs (Decidable True)
| .unregister _ => inferInstanceAs (Decidable True)

end ConnectionProxy

end IsaWorkspace

------------------------------------------------------------
-- Keys and Records
------------------------------------------------------------

namespace IsaWorkspace

namespace ConnectionProxy

variable {proxy : ConnectionProxy}

/- Descriptors list the keys. -/
theorem mem_descriptorIds_iff
    (order : proxy.ConnectionOrder)
    {id : String} :
    id ∈ proxy.descriptorIds order ↔
      ∃ conn, proxy.connections.lookup id = some conn := by
  unfold descriptorIds getDescriptors
  rw [List.filterMap_map, List.mem_filterMap]
  constructor
  · rintro ⟨⟨key, conn⟩, hEntry, hId⟩
    cases hId
    exact ⟨conn, (order.mem_iff key conn).mp hEntry⟩
  · rintro ⟨conn, hLookup⟩
    exact
      ⟨(id, conn), (order.mem_iff id conn).mpr hLookup, rfl⟩

/- The socket table lists the ids in the records. -/
theorem mem_tableIds_iff
    (order : proxy.ConnectionOrder)
    {id : String} :
    id ∈ proxy.tableIds order ↔
      ∃ key conn,
        proxy.connections.lookup key = some conn ∧
          conn.connectionId = id := by
  unfold tableIds getSocketTable
  rw [List.map_map, List.mem_map]
  constructor
  · rintro ⟨⟨key, conn⟩, hEntry, hId⟩
    exact
      ⟨key, conn, (order.mem_iff key conn).mp hEntry, hId⟩
  · rintro ⟨key, conn, hLookup, hId⟩
    exact
      ⟨(key, conn), (order.mem_iff key conn).mpr hLookup,
        hId⟩

/- The lists agree where records are under their ids. -/
theorem idsAgree_iff_keyedById :
    proxy.IdsAgree ↔ proxy.KeyedById := by
  constructor
  · exact IdsAgree.keyed
  · intro hKeyed
    refine ⟨hKeyed, ?_⟩
    intro order other id
    rw [mem_descriptorIds_iff, mem_tableIds_iff]
    constructor
    · rintro ⟨conn, hLookup⟩
      exact ⟨id, conn, hLookup, hKeyed id conn hLookup⟩
    · rintro ⟨key, conn, hLookup, rfl⟩
      rw [hKeyed key conn hLookup]
      exact ⟨conn, hLookup⟩

/- A record that is stored must be stored under its id. -/
theorem keyedById_insert_iff
    (hKeyed : proxy.KeyedById)
    {key : ConnectionId}
    {conn : ProxiedConnection}
    {other : ConnectionProxy}
    (hConnections :
      other.connections =
        proxy.connections.insert key conn) :
    other.KeyedById ↔ conn.connectionId = key := by
  unfold KeyedById
  rw [hConnections]
  constructor
  · intro hOther
    exact hOther key conn (Finmap.lookup_insert _)
  · intro hId otherKey stored hLookup
    rw [HashMap.lookup_insert_eq_ite] at hLookup
    split at hLookup
    · rename_i hSame
      cases hLookup
      rw [hSame, hId]
    · exact hKeyed otherKey stored hLookup

/- Removing connections moves no record. -/
theorem KeyedById.erase
    (hKeyed : proxy.KeyedById)
    {key : ConnectionId}
    {other : ConnectionProxy}
    (hConnections :
      other.connections = proxy.connections.erase key) :
    other.KeyedById := by
  intro otherKey stored hLookup
  rw [hConnections, HashMap.lookup_erase_eq_ite] at hLookup
  split at hLookup
  · cases hLookup
  · exact hKeyed otherKey stored hLookup

/- Changes of a record keep its id. -/
theorem KeyedById.modifyConnection
    (hKeyed : proxy.KeyedById)
    (connId : ConnectionId)
    {change : ProxiedConnection → ProxiedConnection}
    (hChange :
      ∀ conn,
        (change conn).connectionId = conn.connectionId) :
    (proxy.modifyConnection connId change).KeyedById := by
  unfold ConnectionProxy.modifyConnection
  cases hLookup : proxy.connections.lookup connId with
  | none => exact hKeyed
  | some conn =>
      have hId : (change conn).connectionId = connId := by
        rw [hChange]
        exact hKeyed connId conn hLookup
      dsimp only
      exact
        (@keyedById_insert_iff proxy hKeyed connId
          (change conn) _ rfl).mpr hId

theorem KeyedById.unregisterConnection
    (hKeyed : proxy.KeyedById)
    (connectionId : ConnectionId) :
    (proxy.unregisterConnection connectionId).KeyedById := by
  unfold ConnectionProxy.unregisterConnection
  cases hLookup : proxy.connections.lookup connectionId with
  | none => exact hKeyed
  | some conn =>
      dsimp only
      exact @KeyedById.erase proxy hKeyed connectionId _ rfl

/-
  A step keeps records under their ids unless it accepts a
  client under another id than its record's.
-/
theorem keyedById_step_iff
    [BuildProfile]
    (proxy : ConnectionProxy)
    (action : Action)
    (hKeyed : proxy.KeyedById) :
    (proxy.step action).KeyedById ↔ DrawsOneId action := by
  cases action with
  | accept connId recordId now guestAddr =>
      exact
        @keyedById_insert_iff proxy hKeyed connId
          (.new recordId now guestAddr .unspecified .tcp) _
          rfl
  | establish connId addr =>
      exact
        iff_of_true
          (hKeyed.modifyConnection connId fun _ => rfl)
          trivial
  | countSent connId count =>
      exact
        iff_of_true
          (hKeyed.modifyConnection connId fun _ => rfl)
          trivial
  | countReceived connId count =>
      exact
        iff_of_true
          (hKeyed.modifyConnection connId fun _ => rfl)
          trivial
  | close connId clientAddr =>
      exact iff_of_true (hKeyed.erase rfl) trivial
  | register freshId now guestAddr remoteAddr protocol =>
      exact
        iff_of_true
          ((@keyedById_insert_iff proxy hKeyed freshId
            (.new freshId now guestAddr remoteAddr protocol)
            _ rfl).mpr rfl)
          trivial
  | unregister connectionId =>
      exact
        iff_of_true
          (hKeyed.unregisterConnection connectionId) trivial

theorem keyedById_new
    (config : SocketProxyConfig) :
    (new config).KeyedById := by
  intro key conn hLookup
  cases hLookup

/-
  Descriptors and the socket table agree throughout a run
  exactly when the accept loop draws every client's key and
  the id of its record alike.
-/
theorem idsAgree_iff
    [BuildProfile]
    (config : SocketProxyConfig)
    (actions : List Action) :
    Runs.Throughout step IdsAgree (new config) actions ↔
      ∀ action ∈ actions, DrawsOneId action := by
  have hIff :
      Runs.Throughout step IdsAgree (new config) actions ↔
        Runs.AlongRun step (fun _ => DrawsOneId)
          (new config) actions := by
    apply Runs.throughout_iff_alongRun
    · intro proxy action hAgree
      rw [idsAgree_iff_keyedById] at hAgree ⊢
      exact keyedById_step_iff proxy action hAgree
    · exact idsAgree_iff_keyedById.mpr (keyedById_new config)
  rw [hIff]
  constructor
  · intro hAlong
    have hDraws :
        ∀ (_ : ConnectionProxy) (action : Action),
          DrawsOneId action → DrawsOneId action :=
      fun _ _ hDraws => hDraws
    exact Runs.forall_mem_of_alongRun hDraws hAlong
  · intro hAll
    apply Runs.alongRun_of_forall_mem
    intro action hAction _
    exact hAll action hAction

/- One accepted client makes the two lists differ. -/
theorem idsAgree_firstClient :
    ¬ Runs.Throughout (@step ⟨true⟩) IdsAgree (new .default)
      [.accept "key" "record" .unixEpoch .unspecified] := by
  intro hRun
  have hKey := hRun.last.keyed "key" _ (Finmap.lookup_insert _)
  revert hKey
  decide

end ConnectionProxy

end IsaWorkspace
