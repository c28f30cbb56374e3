import IsaWorkspace.Foundations.Runs
import IsaWorkspace.Foundations.SecondaryIndex
import IsaWorkspace.Proxy.Connections

/-
  The address maps and the live connections.

  Several connections may have one guest or one remote
  address.  A registration overwrites the entry of an address
  and an unregistration removes it, whichever connection it
  is for, so that the other connections of the address are
  not found any more.

  Main declarations:
    * `RegistryCall`, `RegistryCall.run`
    * `ConnectionProxy.MapsTrack`
    * `ConnectionProxy.Sound`, `ConnectionProxy.sound_step`
    * `ConnectionProxy.SharesNoAddress`
    * `ConnectionProxy.mapsTrack_step_iff`
    * `ConnectionProxy.mapsTrack_iff`
-/

------------------------------------------------------------
-- Calls
------------------------------------------------------------

namespace IsaWorkspace

/- The calls that register and unregister connections. -/
inductive RegistryCall where
  | register
      (freshId : ConnectionId) (now : DateTime)
      (guestAddr remoteAddr : SocketAddr)
      (protocol : TransportProtocol)
  | unregister (connectionId : ConnectionId)

def RegistryCall.run
    (proxy : ConnectionProxy) :
    RegistryCall → ConnectionProxy
| .register freshId now guestAddr remoteAddr protocol =>
    (proxy.registerConnection freshId now guestAddr
      remoteAddr protocol).2
| .unregister connectionId =>
    proxy.unregisterConnection connectionId

namespace ConnectionProxy

/- There is a live connection that meets a condition. -/
def HasLive
    (proxy : ConnectionProxy)
    (meets : ProxiedConnection → Prop) : Prop :=
  ∃ id conn, proxy.getConnection id = some conn ∧ meets conn

/-
  A guest address gives a live connection that has it, if
  there is one, and the remote map has an entry for exactly
  the remote addresses of live connections, each to a
  connection that has it.
-/
structure MapsTrack
    (proxy : ConnectionProxy) : Prop where
  guest :
    ∀ guestAddr conn,
      proxy.getByGuestAddr guestAddr = some conn →
        (∃ id, proxy.getConnection id = some conn) ∧
          conn.guestAddr = guestAddr
  guest_some :
    ∀ guestAddr,
      proxy.HasLive (fun conn => conn.guestAddr = guestAddr) →
        proxy.getByGuestAddr guestAddr ≠ none
  remote :
    ∀ remoteAddr id,
      proxy.remoteMap.lookup remoteAddr = some id →
        ∃ conn, proxy.getConnection id = some conn ∧
          conn.remoteAddr = remoteAddr
  remote_some :
    ∀ remoteAddr,
      proxy.HasLive
          (fun conn => conn.remoteAddr = remoteAddr) →
        proxy.remoteMap.lookup remoteAddr ≠ none

/- A connection is registered under an id not in use. -/
def DrawsFresh
    (proxy : ConnectionProxy) : RegistryCall → Prop
| .register freshId _ _ _ _ =>
    proxy.getConnection freshId = none
| .unregister _ => True

/-
  No other live connection has an address of the connection
  that is unregistered.
-/
def SharesNoAddress
    (proxy : ConnectionProxy) : RegistryCall → Prop
| .register _ _ _ _ _ => True
| .unregister connectionId =>
    ∀ conn, proxy.getConnection connectionId = some conn →
      ∀ id other, id ≠ connectionId →
        proxy.getConnection id = some other →
          other.guestAddr ≠ conn.guestAddr ∧
            other.remoteAddr ≠ conn.remoteAddr

/- Every entry of the maps is for a connection that has it. -/
structure Sound
    (proxy : ConnectionProxy) : Prop where
  guest :
    SecondaryIndex.Sound proxy.getConnection
      ProxiedConnection.guestAddr proxy.guestMap
  remote :
    SecondaryIndex.Sound proxy.getConnection
      ProxiedConnection.remoteAddr proxy.remoteMap

end ConnectionProxy

end IsaWorkspace

------------------------------------------------------------
-- Tables After a Call
------------------------------------------------------------

namespace IsaWorkspace

namespace ConnectionProxy

variable {proxy : ConnectionProxy}

section Register

variable (proxy)
variable (freshId : ConnectionId) (now : DateTime)
variable (guestAddr remoteAddr : SocketAddr)
variable (protocol : TransportProtocol)

theorem getConnection_register
    (id : ConnectionId) :
    ((RegistryCall.register freshId now guestAddr remoteAddr
        protocol).run proxy).getConnection id =
      if id = freshId then
        some
          (.new freshId now guestAddr remoteAddr protocol)
      else
        proxy.getConnection id :=
  HashMap.lookup_insert_eq_ite _ _ _ _

end Register

/- Unregistering what is not there does nothing. -/
theorem unregister_none
    {connectionId : ConnectionId}
    (hNone : proxy.getConnection connectionId = none) :
    (RegistryCall.unregister connectionId).run proxy =
      proxy := by
  change proxy.unregisterConnection connectionId = proxy
  change proxy.connections.lookup connectionId = none at hNone
  unfold unregisterConnection
  rw [hNone]

/- Unregistering removes the connection and its addresses. -/
theorem unregister_some
    {connectionId : ConnectionId}
    {conn : ProxiedConnection}
    (hSome : proxy.getConnection connectionId = some conn) :
    (RegistryCall.unregister connectionId).run proxy =
      { proxy with
        connections := proxy.connections.erase connectionId
        guestMap := proxy.guestMap.erase conn.guestAddr
        remoteMap :=
          proxy.remoteMap.erase conn.remoteAddr } := by
  change proxy.unregisterConnection connectionId = _
  change
    proxy.connections.lookup connectionId = some conn at hSome
  unfold unregisterConnection
  rw [hSome]

/- What is left is what was there under other ids. -/
theorem getConnection_erase
    (connectionId id : ConnectionId)
    (guestMap remoteMap : HashMap SocketAddr ConnectionId) :
    getConnection
        { proxy with
          connections := proxy.connections.erase connectionId
          guestMap := guestMap
          remoteMap := remoteMap }
        id =
      if id = connectionId then none
      else proxy.getConnection id :=
  HashMap.lookup_erase_eq_ite _ _ _

end ConnectionProxy

end IsaWorkspace

------------------------------------------------------------
-- Sound Entries
------------------------------------------------------------

namespace IsaWorkspace

namespace ConnectionProxy

variable {proxy : ConnectionProxy}

/- Every call with a fresh id keeps entries sound. -/
theorem sound_step
    (proxy : ConnectionProxy)
    (call : RegistryCall)
    (hSound : proxy.Sound)
    (hFresh : proxy.DrawsFresh call) :
    (call.run proxy).Sound := by
  cases call with
  | register freshId now guestAddr remoteAddr protocol =>
      have hOther :=
        getConnection_register proxy freshId now guestAddr
          remoteAddr protocol
      exact
        ⟨hSound.guest.insert hFresh hOther,
          hSound.remote.insert hFresh hOther⟩
  | unregister connectionId =>
      cases hConn : proxy.getConnection connectionId with
      | none =>
          rw [unregister_none hConn]
          exact hSound
      | some conn =>
          have hOther :=
            fun id =>
              @getConnection_erase proxy connectionId id
                (proxy.guestMap.erase conn.guestAddr)
                (proxy.remoteMap.erase conn.remoteAddr)
          rw [unregister_some hConn]
          exact
            ⟨hSound.guest.erase hConn hOther,
              hSound.remote.erase hConn hOther⟩

theorem sound_new
    (config : SocketProxyConfig) :
    (new config).Sound := by
  constructor
  · intro guestAddr id hLookup
    cases hLookup
  · intro remoteAddr id hLookup
    cases hLookup

end ConnectionProxy

end IsaWorkspace

------------------------------------------------------------
-- Covered Connections
------------------------------------------------------------

namespace IsaWorkspace

namespace ConnectionProxy

variable {proxy : ConnectionProxy}

/- A guest address with a sound entry gives a connection. -/
theorem getByGuestAddr_eq_some
    (hSound : proxy.Sound)
    {guestAddr : SocketAddr}
    {id : ConnectionId}
    (hLookup : proxy.guestMap.lookup guestAddr = some id) :
    ∃ conn, proxy.getByGuestAddr guestAddr = some conn ∧
      conn.guestAddr = guestAddr := by
  rcases hSound.guest guestAddr id hLookup with
    ⟨conn, hConn, hAddr⟩
  refine ⟨conn, ?_, hAddr⟩
  unfold getByGuestAddr
  rw [hLookup]
  exact hConn

/- Sound maps track what they cover. -/
theorem mapsTrack_iff_covers
    (hSound : proxy.Sound) :
    proxy.MapsTrack ↔
      SecondaryIndex.Covers proxy.getConnection
          ProxiedConnection.guestAddr proxy.guestMap ∧
        SecondaryIndex.Covers proxy.getConnection
          ProxiedConnection.remoteAddr proxy.remoteMap := by
  constructor
  · intro hTrack
    constructor
    · intro id conn hConn hNone
      apply
        hTrack.guest_some conn.guestAddr
          ⟨id, conn, hConn, rfl⟩
      unfold getByGuestAddr
      rw [hNone]
      rfl
    · intro id conn hConn
      exact
        hTrack.remote_some conn.remoteAddr
          ⟨id, conn, hConn, rfl⟩
  · rintro ⟨hGuest, hRemote⟩
    constructor
    · intro guestAddr conn hFound
      rcases Option.bind_eq_some_iff.mp hFound with
        ⟨id, hLookup, hConn⟩
      rcases getByGuestAddr_eq_some hSound hLookup with
        ⟨stored, hStored, hAddr⟩
      rw [hFound] at hStored
      cases hStored
      exact ⟨⟨id, hConn⟩, hAddr⟩
    · rintro guestAddr ⟨id, conn, hConn, rfl⟩
      cases hLookup : proxy.guestMap.lookup conn.guestAddr with
      | none => exact absurd hLookup (hGuest id conn hConn)
      | some found =>
          rcases getByGuestAddr_eq_some hSound hLookup with
            ⟨stored, hStored, _⟩
          rw [hStored]
          exact Option.some_ne_none stored
    · exact hSound.remote
    · rintro remoteAddr ⟨id, conn, hConn, rfl⟩
      exact hRemote id conn hConn

/-
  Of the calls, only the unregistration of a connection that
  shares an address loses track of another one.
-/
theorem mapsTrack_step_iff
    (proxy : ConnectionProxy)
    (call : RegistryCall)
    (hSound : proxy.Sound)
    (hFresh : proxy.DrawsFresh call)
    (hTrack : proxy.MapsTrack) :
    (call.run proxy).MapsTrack ↔
      proxy.SharesNoAddress call := by
  rcases (mapsTrack_iff_covers hSound).mp hTrack with
    ⟨hGuest, hRemote⟩
  rw [mapsTrack_iff_covers
    (sound_step proxy call hSound hFresh)]
  cases call with
  | register freshId now guestAddr remoteAddr protocol =>
      have hOther :=
        getConnection_register proxy freshId now guestAddr
          remoteAddr protocol
      exact
        iff_of_true
          ⟨hGuest.insert hOther, hRemote.insert hOther⟩
          trivial
  | unregister connectionId =>
      cases hConn : proxy.getConnection connectionId with
      | none =>
          rw [unregister_none hConn]
          refine iff_of_true ⟨hGuest, hRemote⟩ ?_
          intro conn hSome
          rw [hConn] at hSome
          cases hSome
      | some conn =>
          have hOther :=
            fun id =>
              @getConnection_erase proxy connectionId id
                (proxy.guestMap.erase conn.guestAddr)
                (proxy.remoteMap.erase conn.remoteAddr)
          rw [unregister_some hConn,
            SecondaryIndex.covers_erase_iff hGuest hOther,
            SecondaryIndex.covers_erase_iff hRemote hOther]
          constructor
          · rintro ⟨hGuests, hRemotes⟩ removed hRemoved id
              other hNe hLive
            rw [hConn] at hRemoved
            cases hRemoved
            exact
              ⟨hGuests id other hNe hLive,
                hRemotes id other hNe hLive⟩
          · intro hShares
            constructor
            · intro id other hNe hLive
              exact (hShares conn hConn id other hNe hLive).1
            · intro id other hNe hLive
              exact (hShares conn hConn id other hNe hLive).2

theorem mapsTrack_new
    (config : SocketProxyConfig) :
    (new config).MapsTrack := by
  apply (mapsTrack_iff_covers (sound_new config)).mpr
  constructor
  · intro id conn hConn
    cases hConn
  · intro id conn hConn
    cases hConn

/-
  The maps track the live connections throughout a run
  exactly when no connection is unregistered while another
  one has its guest or its remote address.
-/
theorem mapsTrack_iff
    (config : SocketProxyConfig)
    (calls : List RegistryCall)
    (hGiven :
      Runs.AlongRun RegistryCall.run DrawsFresh (new config)
        calls) :
    Runs.Throughout RegistryCall.run MapsTrack (new config)
        calls ↔
      Runs.AlongRun RegistryCall.run SharesNoAddress
        (new config) calls :=
  Runs.throughout_iff_alongRun_of_given sound_step
    mapsTrack_step_iff (sound_new config)
    (mapsTrack_new config) hGiven

/- Two connections of a guest, each to a remote of its own. -/
def sampleRegister
    (id : ConnectionId)
    (remotePort : UInt16) : RegistryCall :=
  .register id .unixEpoch
    (.new (.v4 ⟨127, 0, 0, 1⟩) 50000)
    (.new (.v4 ⟨8, 8, 8, 8⟩) remotePort) .tcp

/- A connection that is alone is unregistered. -/
theorem mapsTrack_alone :
    Runs.Throughout RegistryCall.run MapsTrack (new .default)
      [sampleRegister "first" 443, .unregister "first",
        sampleRegister "second" 80] := by
  have hFresh :
      (Runs.run RegistryCall.run (new .default)
          [sampleRegister "first" 443,
            .unregister "first"]).getConnection "second" =
        none := by
    decide +kernel
  have hGiven :
      Runs.AlongRun RegistryCall.run DrawsFresh (new .default)
        [sampleRegister "first" 443, .unregister "first",
          sampleRegister "second" 80] :=
    ⟨rfl, trivial, hFresh, trivial⟩
  apply (mapsTrack_iff .default _ hGiven).mpr
  refine ⟨trivial, ?_, trivial, trivial⟩
  intro conn hConn id other hNe hOther
  change
    ((∅ : HashMap ConnectionId ProxiedConnection).insert
      "first" _).lookup id = some other at hOther
  rw [HashMap.lookup_insert_eq_ite, if_neg hNe] at hOther
  cases hOther

/-
  The first of two connections of a guest is unregistered,
  and the second one is not found any more.
-/
theorem mapsTrack_sharedGuest :
    ¬ Runs.Throughout RegistryCall.run MapsTrack
      (new .default)
      [sampleRegister "first" 443,
        sampleRegister "second" 80, .unregister "first"] := by
  intro hRun
  have hLive :
      (Runs.run RegistryCall.run (new .default)
          [sampleRegister "first" 443,
            sampleRegister "second" 80,
            .unregister "first"]).getConnection "second" =
        some
          (.new "second" .unixEpoch
            (.new (.v4 ⟨127, 0, 0, 1⟩) 50000)
            (.new (.v4 ⟨8, 8, 8, 8⟩) 80) .tcp) := by
    decide +kernel
  apply hRun.last.guest_some _ ⟨"second", _, hLive, rfl⟩
  decide +kernel

end ConnectionProxy

end IsaWorkspace
