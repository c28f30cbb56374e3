import IsaWorkspace.Proxy.Connections

/-
  What a snapshot keeps of the connections.

  A restored connection is a new one with the recorded
  addresses: it has the id that its registration draws, and
  empty buffers, since a record has only the lengths of the
  old ones.

  Main declarations:
    * `ProxiedConnection.Kept`
    * `ConnectionProxy.DistinctAddrs`
    * `ConnectionProxy.Survives`
    * `ConnectionProxy.restored`
    * `ConnectionProxy.getConnection_restored`
    * `ConnectionProxy.survives_iff`
-/

------------------------------------------------------------
-- Surviving Connections
------------------------------------------------------------

namespace IsaWorkspace

/- What is to survive of a connection. -/
structure ProxiedConnection.Kept where
  guestAddr : SocketAddr
  remoteAddr : SocketAddr
  protocol : TransportProtocol
  txBuffer : Bytes
  rxBuffer : Bytes
deriving DecidableEq

def ProxiedConnection.kept
    (conn : ProxiedConnection) : ProxiedConnection.Kept where
  guestAddr := conn.guestAddr
  remoteAddr := conn.remoteAddr
  protocol := conn.protocol
  txBuffer := conn.txBuffer
  rxBuffer := conn.rxBuffer

namespace ConnectionProxy

/- No two connections have an address in common. -/
def DistinctAddrs
    (proxy : ConnectionProxy) : Prop :=
  ∀ id conn otherId other,
    proxy.getConnection id = some conn →
      proxy.getConnection otherId = some other →
        conn.guestAddr = other.guestAddr ∨
            conn.remoteAddr = other.remoteAddr →
          id = otherId

/-
  Two proxies have connections of the same ids, and what is
  to survive of them is the same.
-/
def Survives
    (proxy restored : ConnectionProxy) : Prop :=
  ∀ id,
    (restored.getConnection id).map ProxiedConnection.kept =
      (proxy.getConnection id).map ProxiedConnection.kept

/- An empty proxy after the restore of a snapshot. -/
def restored
    (proxy : ConnectionProxy)
    (order : proxy.ConnectionOrder)
    (config : SocketProxyConfig)
    (draws : List (ConnectionId × DateTime)) :
    ConnectionProxy :=
  (new config).restoreConnections draws
    (proxy.prepareSnapshot order).1

/- The restored connection of a draw and a record. -/
def resumed
    (draw : ConnectionId × DateTime)
    (state : ConnectionState.Serialized) :
    ProxiedConnection :=
  .new draw.1 draw.2 state.guestAddr state.remoteAddr
    state.protocol

/- What survives of a restored connection. -/
theorem kept_resumed_iff
    (draw : ConnectionId × DateTime)
    (id : ConnectionId)
    (conn : ProxiedConnection) :
    (resumed draw (serialize id conn)).kept = conn.kept ↔
      conn.txBuffer = [] ∧ conn.rxBuffer = [] := by
  constructor
  · intro hKept
    exact
      ⟨(congrArg ProxiedConnection.Kept.txBuffer hKept).symm,
        (congrArg ProxiedConnection.Kept.rxBuffer
          hKept).symm⟩
  · rintro ⟨hTx, hRx⟩
    unfold ProxiedConnection.kept
    rw [hTx, hRx]
    rfl

------------------------------------------------------------
-- Restored Connections
------------------------------------------------------------

/-
  After a restore a connection is an old one, or one of a
  draw and the record at its place.
-/
theorem of_getConnection_restore
    {proxy : ConnectionProxy}
    {draws : List (ConnectionId × DateTime)}
    {states : List ConnectionState.Serialized}
    {id : ConnectionId}
    {conn : ProxiedConnection}
    (hConn :
      (proxy.restoreConnections draws states).getConnection
          id =
        some conn) :
    (∃ pair ∈ draws.zip states,
        pair.1.1 = id ∧ conn = resumed pair.1 pair.2) ∨
      proxy.getConnection id = some conn := by
  induction states generalizing proxy draws with
  | nil =>
      right
      cases draws with
      | nil => exact hConn
      | cons draw draws => exact hConn
  | cons state states ih =>
      cases draws with
      | nil => exact Or.inr hConn
      | cons draw draws =>
          rcases ih hConn with ⟨pair, hPair, hId⟩ | hOld
          · exact
              Or.inl
                ⟨pair, List.mem_cons_of_mem _ hPair, hId⟩
          · change
              (proxy.connections.insert draw.1
                (resumed draw state)).lookup id =
                some conn at hOld
            rw [HashMap.lookup_insert_eq_ite] at hOld
            split at hOld
            · rename_i hId
              cases hOld
              exact
                Or.inl
                  ⟨(draw, state), List.mem_cons_self,
                    hId.symm, rfl⟩
            · exact Or.inr hOld

/- Connections that were there are there after a restore. -/
theorem getConnection_restore_ne_none
    {proxy : ConnectionProxy}
    {draws : List (ConnectionId × DateTime)}
    {states : List ConnectionState.Serialized}
    {id : ConnectionId}
    (hThere :
      proxy.getConnection id ≠ none ∨
        ∃ pair ∈ draws.zip states, pair.1.1 = id) :
    (proxy.restoreConnections draws states).getConnection
        id ≠
      none := by
  induction states generalizing proxy draws with
  | nil =>
      rw [List.zip_nil_right] at hThere
      rcases hThere with hOld | ⟨pair, hPair, _⟩
      · cases draws with
        | nil => exact hOld
        | cons draw draws => exact hOld
      · cases hPair
  | cons state states ih =>
      cases draws with
      | nil =>
          rcases hThere with hOld | ⟨pair, hPair, _⟩
          · exact hOld
          · cases hPair
      | cons draw draws =>
          apply ih
          have hInsert :
              (proxy.registerConnection draw.1 draw.2
                    state.guestAddr state.remoteAddr
                    state.protocol).2.getConnection id =
                if id = draw.1 then
                  some (resumed draw state)
                else
                  proxy.getConnection id :=
            HashMap.lookup_insert_eq_ite _ _ _ _
          rw [hInsert]
          by_cases hId : id = draw.1
          · left
            rw [if_pos hId]
            exact Option.some_ne_none _
          · rw [if_neg hId]
            rcases hThere with hOld | ⟨pair, hPair, hDraw⟩
            · exact Or.inl hOld
            · rcases List.mem_cons.mp hPair with rfl | hRest
              · exact absurd hDraw.symm hId
              · exact Or.inr ⟨pair, hRest, hDraw⟩

end ConnectionProxy

end IsaWorkspace

------------------------------------------------------------
-- Surviving a Restore
------------------------------------------------------------

namespace IsaWorkspace

namespace ConnectionProxy

variable {proxy : ConnectionProxy}
variable {order : proxy.ConnectionOrder}
variable {draws : List (ConnectionId × DateTime)}

/-
  Each connection, as it is visited, draws its old id, and
  nothing is buffered for it.
-/
def Resumable
    (order : proxy.ConnectionOrder)
    (draws : List (ConnectionId × DateTime)) : Prop :=
  ∀ pair ∈ draws.zip order.entries,
    pair.1.1 = pair.2.1 ∧ pair.2.2.txBuffer = [] ∧
      pair.2.2.rxBuffer = []

/- The draws beside the records. -/
theorem mem_zip_prepareSnapshot
    {pair :
      (ConnectionId × DateTime) ×
        ConnectionState.Serialized} :
    pair ∈ draws.zip (proxy.prepareSnapshot order).1 ↔
      ∃ visited ∈ draws.zip order.entries,
        (visited.1, serialize visited.2.1 visited.2.2) =
          pair := by
  unfold prepareSnapshot
  rw [List.zip_map_right, List.mem_map]
  rfl

/- Each restored connection is one of a visited one. -/
theorem of_getConnection_restored
    {config : SocketProxyConfig}
    {id : ConnectionId}
    {conn : ProxiedConnection}
    (hConn :
      (proxy.restored order config draws).getConnection id =
        some conn) :
    ∃ visited ∈ draws.zip order.entries,
      visited.1.1 = id ∧
        conn =
          resumed visited.1
            (serialize visited.2.1 visited.2.2) := by
  rcases of_getConnection_restore hConn with
    ⟨pair, hPair, hId, hResumed⟩ | hOld
  · rcases mem_zip_prepareSnapshot.mp hPair with
      ⟨visited, hVisited, rfl⟩
    exact ⟨visited, hVisited, hId, hResumed⟩
  · cases hOld

/- A visited connection is restored under its draw. -/
theorem getConnection_restored_ne_none
    {config : SocketProxyConfig}
    {visited :
      (ConnectionId × DateTime) ×
        ConnectionId × ProxiedConnection}
    (hVisited : visited ∈ draws.zip order.entries) :
    (proxy.restored order config draws).getConnection
        visited.1.1 ≠
      none := by
  apply getConnection_restore_ne_none
  right
  exact
    ⟨_,
      mem_zip_prepareSnapshot.mpr ⟨visited, hVisited, rfl⟩,
      rfl⟩

/- What is visited is there. -/
theorem getConnection_of_visited
    {visited :
      (ConnectionId × DateTime) ×
        ConnectionId × ProxiedConnection}
    (hVisited : visited ∈ draws.zip order.entries) :
    proxy.getConnection visited.2.1 = some visited.2.2 :=
  (order.mem_iff visited.2.1 visited.2.2).mp
    (List.of_mem_zip hVisited).2

/- No connection is visited twice. -/
theorem eq_of_visited
    {visited other :
      (ConnectionId × DateTime) ×
        ConnectionId × ProxiedConnection}
    (hVisited : visited ∈ draws.zip order.entries)
    (hOther : other ∈ draws.zip order.entries)
    (hId : visited.2.1 = other.2.1) :
    visited = other := by
  rcases List.mem_iff_getElem.mp hVisited with ⟨i, hI, rfl⟩
  rcases List.mem_iff_getElem.mp hOther with ⟨j, hJ, rfl⟩
  rw [List.getElem_zip, List.getElem_zip] at hId
  rw [List.length_zip] at hI hJ
  have hFirst : i < (order.entries.map (·.1)).length := by
    rw [List.length_map]
    omega
  have hSecond : j < (order.entries.map (·.1)).length := by
    rw [List.length_map]
    omega
  have hKeys :
      (order.entries.map (·.1))[i] =
        (order.entries.map (·.1))[j] := by
    rw [List.getElem_map, List.getElem_map]
    exact hId
  have hSame : i = j :=
    (List.Nodup.getElem_inj_iff order.nodup).mp hKeys
  subst hSame
  rfl

/-
  The connections survive exactly when every one of them
  draws its old id and has nothing buffered.
-/
theorem survives_iff
    (hDistinct : proxy.DistinctAddrs)
    (order : proxy.ConnectionOrder)
    (config : SocketProxyConfig)
    {draws : List (ConnectionId × DateTime)}
    (hDraws : draws.length = order.entries.length) :
    proxy.Survives (proxy.restored order config draws) ↔
      Resumable order draws := by
  constructor
  · intro hSurvives visited hVisited
    have hConn := getConnection_of_visited hVisited
    have hKept := hSurvives visited.2.1
    rw [hConn, Option.map_some] at hKept
    rcases Option.map_eq_some_iff.mp hKept with
      ⟨conn, hRestored, hSame⟩
    rcases of_getConnection_restored hRestored with
      ⟨other, hOther, hId, rfl⟩
    have hGuest :
        other.2.2.guestAddr = visited.2.2.guestAddr :=
      congrArg ProxiedConnection.Kept.guestAddr hSame
    have hKeys : other.2.1 = visited.2.1 :=
      hDistinct _ _ _ _ (getConnection_of_visited hOther)
        hConn (Or.inl hGuest)
    rw [eq_of_visited hOther hVisited hKeys] at hId hSame
    exact ⟨hId, (kept_resumed_iff _ _ _).mp hSame⟩
  · intro hResumable id
    cases hRestored :
        (proxy.restored order config draws).getConnection
          id with
    | some conn =>
        rcases of_getConnection_restored hRestored with
          ⟨visited, hVisited, rfl, rfl⟩
        rcases hResumable visited hVisited with
          ⟨hId, hBuffers⟩
        rw [hId, getConnection_of_visited hVisited,
          Option.map_some, Option.map_some,
          (kept_resumed_iff _ _ _).mpr hBuffers]
    | none =>
        cases hConn : proxy.getConnection id with
        | none => rfl
        | some conn =>
            have hEntry : (id, conn) ∈ order.entries :=
              (order.mem_iff id conn).mpr hConn
            rw [← List.map_snd_zip (le_of_eq hDraws.symm),
              List.mem_map] at hEntry
            rcases hEntry with ⟨visited, hVisited, hIs⟩
            have hDraw := (hResumable visited hVisited).1
            rw [hIs] at hDraw
            have hThere :=
              @getConnection_restored_ne_none proxy order
                draws config visited hVisited
            rw [hDraw] at hThere
            exact absurd hRestored hThere

/- One connection with some bytes that are to be sent. -/
def sampleConnection
    (txBuffer : Bytes) : ProxiedConnection :=
  { ProxiedConnection.new "first" .unixEpoch
      (.new (.v4 ⟨127, 0, 0, 1⟩) 50000)
      (.new (.v4 ⟨8, 8, 8, 8⟩) 443) .tcp with
    txBuffer := txBuffer }

def sampleProxy
    (txBuffer : Bytes) : ConnectionProxy :=
  { new .default with
    connections :=
      Finmap.insert "first" (sampleConnection txBuffer) ∅ }

theorem getConnection_sample
    {txBuffer : Bytes}
    {id : ConnectionId}
    {conn : ProxiedConnection} :
    (sampleProxy txBuffer).getConnection id = some conn ↔
      id = "first" ∧ conn = sampleConnection txBuffer := by
  have hLookup :
      (sampleProxy txBuffer).getConnection id =
        if id = "first" then
          some (sampleConnection txBuffer)
        else
          none :=
    HashMap.lookup_insert_eq_ite ∅ "first" id _
  rw [hLookup]
  split
  · rename_i hId
    rw [Option.some.injEq]
    exact
      ⟨fun hConn => ⟨hId, hConn.symm⟩,
        fun hBoth => hBoth.2.symm⟩
  · rename_i hId
    exact
      iff_of_false (Option.some_ne_none conn).symm
        fun hBoth => hId hBoth.1

def sampleOrder
    (txBuffer : Bytes) :
    (sampleProxy txBuffer).ConnectionOrder where
  entries := [("first", sampleConnection txBuffer)]
  nodup := by simp
  mem_iff := by
    intro key value
    rw [List.mem_singleton, Prod.mk.injEq]
    exact getConnection_sample.symm

theorem distinctAddrs_sample
    (txBuffer : Bytes) :
    (sampleProxy txBuffer).DistinctAddrs := by
  intro id conn otherId other hConn hOther _
  rw [(getConnection_sample.mp hConn).1,
    (getConnection_sample.mp hOther).1]

/- A connection that draws its id and sends nothing. -/
theorem survives_sameId :
    (sampleProxy []).Survives
      ((sampleProxy []).restored (sampleOrder []) .default
        [("first", .unixEpoch)]) := by
  apply
    (survives_iff (distinctAddrs_sample []) (sampleOrder [])
      .default rfl).mpr
  intro pair hPair
  rw [List.mem_singleton.mp hPair]
  exact ⟨rfl, rfl, rfl⟩

/- A new id is drawn, and bytes that were buffered go. -/
theorem survives_lost :
    ¬ (sampleProxy []).Survives
        ((sampleProxy []).restored (sampleOrder []) .default
          [("second", .unixEpoch)]) ∧
      ¬ (sampleProxy [7]).Survives
        ((sampleProxy [7]).restored (sampleOrder [7])
          .default [("first", .unixEpoch)]) := by
  constructor
  · intro hSurvives
    have hFirst := hSurvives "first"
    revert hFirst
    decide +kernel
  · intro hSurvives
    have hFirst := hSurvives "first"
    revert hFirst
    decide +kernel

end ConnectionProxy

end IsaWorkspace
