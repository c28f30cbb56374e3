import IsaWorkspace.Foundations.Exec
import IsaWorkspace.Foundations.HashMap
import IsaWorkspace.Proxy.Targets
import IsaWorkspace.Proxy.Transparency

/-
  Socket calls that are intercepted.

  A program preloads a library whose `connect` goes to the
  proxy, sends it a request and reads the answer once.  What
  that read returns decides whether the call succeeds, and
  what comes after it is what the program receives: together
  with the handler of the proxy this says when the program
  and its destination see each other's bytes.

  Main declarations:
    * `SockAddr`, `SocketCalls`
    * `InterceptState`, `Intercepting`
    * `interceptConnect`, `interceptSend`, `interceptRecv`,
      `interceptClose`
    * `interceptConnect_iff`
    * `intercepted_iff`
    * `passesThrough_run`
-/

------------------------------------------------------------
-- Calls of the C Library
------------------------------------------------------------

namespace IsaWorkspace

/-
  Addresses as the C library has them, with the octets of
  ports and of IPv4 addresses in network order.
-/
inductive SockAddr where
  | inet (sinPort : UInt8 × UInt8) (sinAddr : Ipv4Addr)
  | inet6 (sin6Port : UInt8 × UInt8) (sin6Addr : Ipv6Addr)
  | other (family : UInt16)
deriving DecidableEq

namespace SockAddr

/- The destination that an intercepted call names. -/
def destAddr : SockAddr → Option SocketAddr
| .inet sinPort sinAddr =>
    some
      (.new (.v4 sinAddr)
        (Ipv6Addr.fromOctets sinPort.1 sinPort.2))
| .inet6 sin6Port sin6Addr =>
    some
      (.new (.v6 sin6Addr)
        (Ipv6Addr.fromOctets sin6Port.1 sin6Port.2))
| .other _ => none

end SockAddr

/- Convert an address; for one of IPv6 there is a panic. -/
def socketaddrToSockaddr : SocketAddr → Option SockAddr
| .v4 addr =>
    some
      (.inet
        (Ipv6Addr.highOctet addr.port,
          Ipv6Addr.lowOctet addr.port)
        addr.ip)
| .v6 _ => none

/-
  The functions of the C library that the library calls in
  place of its own.  A `recv` that fails returns `none`.
-/
class SocketCalls (W : Type) where
  connect : Int32 → SockAddr → W → Int32 × W
  send : Int32 → Bytes → Int32 → W → Int × W
  recv : Int32 → Nat → Int32 → W → Option Bytes × W
  close : Int32 → W → Int32 × W

end IsaWorkspace

------------------------------------------------------------
-- Interception
------------------------------------------------------------

namespace IsaWorkspace

/- Interception configuration. -/
structure InterceptConfig where
  proxyAddr : SocketAddr
  enabled : Bool

/- Information about an intercepted socket. -/
structure InterceptedSocket where
  destAddr : SocketAddr
  proxyFd : Int32
  connected : Bool
deriving DecidableEq

/- Global interception state. -/
structure InterceptState where
  config : InterceptConfig
  interceptedSockets : HashMap Int32 InterceptedSocket

namespace InterceptState

/- Nothing is intercepted yet. -/
def new
    (config : InterceptConfig) : InterceptState :=
  ⟨config, ∅⟩

end InterceptState

/- The library in a program, and all that is outside of it. -/
structure Intercepting (W : Type) where
  state : InterceptState
  world : W

namespace Intercepting

variable {W : Type}

/- Call a function of the C library. -/
def original
    {α : Type}
    (call : W → α × W) : Exec (Intercepting W) Empty α :=
  fun intercepting =>
    (.ok (call intercepting.world).1,
      { intercepting with
        world := (call intercepting.world).2 })

/- Remember a socket that goes through the proxy. -/
def track
    (fd : Int32)
    (destAddr : SocketAddr) :
    Exec (Intercepting W) Empty Unit :=
  Exec.update fun intercepting =>
    { intercepting with
      state :=
        { intercepting.state with
          interceptedSockets :=
            intercepting.state.interceptedSockets.insert fd
              ⟨destAddr, fd, true⟩ } }

/- Whether an answer of the proxy is taken for a success. -/
def isSuccess
    (response : Bytes) : Prop :=
  "200".toList <:+: Text.fromUtf8Lossy response

instance :
    DecidablePred isSuccess :=
  fun response =>
    inferInstanceAs
      (Decidable
        ("200".toList <:+: Text.fromUtf8Lossy response))

/- What is sent to the proxy for a destination. -/
def requestFor
    (destAddr : SocketAddr) : Bytes :=
  asBytes (String.ofList (connectRequest destAddr))

/- What the call makes of the answer it has read. -/
def takeAnswer
    (fd : Int32)
    (destAddr : SocketAddr) :
    Option Bytes → Exec (Intercepting W) Empty Int32
| none => pure (-1)
| some response =>
    -- a closed connection returns no bytes
    if response = [] then
      pure (-1)
    else if isSuccess response then do
      track fd destAddr
      pure 0
    else
      pure (-1)

variable [SocketCalls W]

/- Intercept a connect call. -/
def interceptConnect
    (fd : Int32)
    (addr : SockAddr) :
    Exec (Intercepting W) Empty Int32 := do
  let intercepting ← Exec.read
  if intercepting.state.config.enabled = true then
    match addr.destAddr with
    | none => pure (-1)
    | some destAddr => do
        let proxySockaddr ←
          Exec.orPanic
            (socketaddrToSockaddr
              intercepting.state.config.proxyAddr)
        let result ←
          original (SocketCalls.connect fd proxySockaddr)
        if result = 0 then do
          let sent ←
            original
              (SocketCalls.send fd (requestFor destAddr) 0)
          if 0 < sent then do
            let received ←
              original (SocketCalls.recv fd 256 0)
            takeAnswer fd destAddr received
          else
            pure (-1)
        else
          pure (-1)
  else
    original (SocketCalls.connect fd addr)

/- Intercept a send call. -/
def interceptSend
    (fd : Int32)
    (data : Bytes)
    (flags : Int32) :
    Exec (Intercepting W) Empty Int := do
  let intercepting ← Exec.read
  match intercepting.state.interceptedSockets.lookup fd with
  | some socket =>
      if socket.connected = true then
        original (SocketCalls.send socket.proxyFd data flags)
      else
        original (SocketCalls.send fd data flags)
  | none => original (SocketCalls.send fd data flags)

/- Intercept a recv call. -/
def interceptRecv
    (fd : Int32)
    (length : Nat)
    (flags : Int32) :
    Exec (Intercepting W) Empty (Option Bytes) := do
  let intercepting ← Exec.read
  match intercepting.state.interceptedSockets.lookup fd with
  | some socket =>
      if socket.connected = true then
        original
          (SocketCalls.recv socket.proxyFd length flags)
      else
        original (SocketCalls.recv fd length flags)
  | none => original (SocketCalls.recv fd length flags)

/- Intercept a close call. -/
def interceptClose
    (fd : Int32) :
    Exec (Intercepting W) Empty Int32 := do
  Exec.update fun intercepting =>
    { intercepting with
      state :=
        { intercepting.state with
          interceptedSockets :=
            intercepting.state.interceptedSockets.erase
              fd } }
  original (SocketCalls.close fd)

end Intercepting

end IsaWorkspace

------------------------------------------------------------
-- Answers of the Proxy
------------------------------------------------------------

namespace IsaWorkspace

namespace Text

/- The first bytes of ASCII text are its first characters. -/
theorem fromUtf8Lossy_take
    {text : List Char}
    (hAscii : IsAscii text)
    (count : Nat) :
    fromUtf8Lossy
        ((text.map fun char =>
          UInt8.ofNat char.toNat).take count) =
      text.take count := by
  have hTaken : IsAscii (text.take count) := by
    intro char hChar
    exact hAscii char (List.mem_of_mem_take hChar)
  have hText := fromUtf8Lossy_ascii hTaken []
  rw [List.append_nil, List.map_take] at hText
  rw [hText]
  exact List.append_nil _

end Text

/- The status that tells a client of the proxy to go on. -/
def statusLine : List Char :=
  "HTTP/1.1 200".toList

theorem isAscii_statusLine :
    Text.IsAscii statusLine := by
  decide

theorem connectionEstablished_eq :
    ∃ rest,
      connectionEstablished =
        statusLine.map
            (fun char => UInt8.ofNat char.toNat) ++
          rest :=
  ⟨asBytes " Connection Established\r\n\r\n", by decide⟩

open Intercepting (isSuccess)

/-
  Of bytes that start with the status, the first ones are a
  success exactly when the whole status is among them.
-/
theorem isSuccess_take_iff
    (rest : Bytes)
    (count : Nat) :
    isSuccess
        ((statusLine.map
              (fun char => UInt8.ofNat char.toNat) ++
            rest).take count) ↔
      12 ≤ count := by
  unfold isSuccess
  constructor
  · intro hFound
    by_contra hShort
    have hEleven : count ≤ 11 := by omega
    have hTaken :
        (statusLine.map
              (fun char => UInt8.ofNat char.toNat) ++
            rest).take count =
          (statusLine.map fun char =>
            UInt8.ofNat char.toNat).take count := by
      apply List.take_append_of_le_length
      rw [List.length_map]
      exact hEleven.trans (by decide)
    rw [hTaken,
      Text.fromUtf8Lossy_take isAscii_statusLine] at hFound
    have hPrefix :
        statusLine.take count <+: statusLine.take 11 :=
      List.take_prefix_take_left hEleven
    have hInside :
        "200".toList <:+: statusLine.take 11 :=
      hFound.trans hPrefix.isInfix
    exact absurd hInside (by decide)
  · intro hWhole
    have hLength :
        (statusLine.map fun char =>
          UInt8.ofNat char.toNat).length ≤ count := by
      rw [List.length_map]
      exact hWhole
    rw [List.take_append, List.take_of_length_le hLength,
      Text.fromUtf8Lossy_ascii isAscii_statusLine]
    have hStatus : "200".toList <:+: statusLine := by
      decide
    exact hStatus.trans (List.prefix_append _ _).isInfix

/- No part of an answer without the status is a success. -/
theorem not_isSuccess_take
    {text : List Char}
    (hAscii : Text.IsAscii text)
    (hNone : ¬ "200".toList <:+: text)
    (count : Nat) :
    ¬ isSuccess
        ((text.map fun char =>
          UInt8.ofNat char.toNat).take count) := by
  unfold isSuccess
  rw [Text.fromUtf8Lossy_take hAscii]
  intro hFound
  exact hNone (hFound.trans (List.take_prefix _ _).isInfix)

theorem not_isSuccess_badGateway
    (count : Nat) :
    ¬ isSuccess (badGateway.take count) := by
  have hText :
      badGateway =
        "HTTP/1.1 502 Bad Gateway\r\n\r\n".toList.map
          fun char => UInt8.ofNat char.toNat := by
    decide
  rw [hText]
  exact not_isSuccess_take (by decide) (by decide) count

theorem not_isSuccess_badRequest
    (count : Nat) :
    ¬ isSuccess (badRequest.take count) := by
  have hText :
      badRequest =
        ("HTTP/1.1 400 Bad Request\r\n\r\n" ++
            "Invalid CONNECT request").toList.map
          fun char => UInt8.ofNat char.toNat := by
    decide
  rw [hText]
  exact not_isSuccess_take (by decide) (by decide) count

/-
  The first bytes of what the handler writes to its client
  are a success exactly when it has connected and they hold
  the whole status.
-/
theorem isSuccess_clientBytes_iff
    {handled : Handled}
    {answer later : Bytes}
    (hAnswer : handled.clientBytes = answer ++ later) :
    isSuccess answer ↔
      (∃ addr forwarding,
          handled = .connected addr forwarding) ∧
        12 ≤ answer.length := by
  have hTaken :
      answer = handled.clientBytes.take answer.length := by
    rw [hAnswer, List.take_left]
  cases handled with
  | closed =>
      have hNone : answer = [] :=
        (List.append_eq_nil_iff.mp hAnswer.symm).1
      subst hNone
      apply iff_of_false
      · decide
      · rintro ⟨⟨addr, forwarding, hConnected⟩, _⟩
        cases hConnected
  | badRequest =>
      apply iff_of_false
      · rw [hTaken]
        exact not_isSuccess_badRequest _
      · rintro ⟨⟨addr, forwarding, hConnected⟩, _⟩
        cases hConnected
  | badGateway addr =>
      apply iff_of_false
      · rw [hTaken]
        exact not_isSuccess_badGateway _
      · rintro ⟨⟨addr, forwarding, hConnected⟩, _⟩
        cases hConnected
  | connected addr forwarding =>
      rcases connectionEstablished_eq with ⟨rest, hStatus⟩
      have hBytes :
          (Handled.connected addr forwarding).clientBytes =
            statusLine.map
                (fun char => UInt8.ofNat char.toNat) ++
              (rest ++
                forwarding.remoteToClient.written) := by
        rw [← List.append_assoc, ← hStatus]
        rfl
      have hIff :=
        isSuccess_take_iff
          (rest ++ forwarding.remoteToClient.written)
          answer.length
      rw [← hBytes, ← hTaken] at hIff
      rw [hIff]
      exact
        (and_iff_right ⟨addr, forwarding, rfl⟩).symm

end IsaWorkspace

------------------------------------------------------------
-- Intercepted Connections
------------------------------------------------------------

namespace IsaWorkspace

open Intercepting

section Connecting

variable {W : Type}

theorem original_of_eq
    (intercepting : Intercepting W)
    {α : Type}
    {call : W → α × W}
    {world : W}
    {value : α}
    (hCall : call intercepting.world = (value, world)) :
    (original call : Exec (Intercepting W) Empty α)
        intercepting =
      (.ok value, { intercepting with world := world }) := by
  unfold original
  rw [hCall]

variable [SocketCalls W]
variable {fd : Int32} {addr : SockAddr}
variable {destAddr : SocketAddr} {answer : Bytes}
variable {intercepting : Intercepting W}

/-
  The calls of an intercepted `connect`, each of which does
  what it is for, up to the answer of the proxy.
-/
structure AnsweredConnect
    (intercepting : Intercepting W)
    (fd : Int32)
    (addr : SockAddr)
    (destAddr : SocketAddr)
    (answer : Bytes) : Prop where
  enabled : intercepting.state.config.enabled = true
  destination : addr.destAddr = some destAddr
  calls :
    ∃ (proxySockaddr : SockAddr) (sent : Int)
      (connected requested answered : W),
      socketaddrToSockaddr
            intercepting.state.config.proxyAddr =
          some proxySockaddr ∧
        SocketCalls.connect fd proxySockaddr
            intercepting.world =
          (0, connected) ∧
        SocketCalls.send fd (requestFor destAddr) 0
            connected =
          (sent, requested) ∧
        0 < sent ∧
        SocketCalls.recv fd 256 0 requested =
          (some answer, answered)

/- The call succeeds as the answer says. -/
theorem AnsweredConnect.outcome
    (hCalls :
      AnsweredConnect intercepting fd addr destAddr answer) :
    (interceptConnect fd addr intercepting).1 =
      if isSuccess answer then .ok 0 else .ok (-1) := by
  rcases hCalls.calls with
    ⟨proxySockaddr, sent, connected, requested, answered,
      hProxy, hConnect, hSend, hSent, hRecv⟩
  have hConnected := original_of_eq intercepting hConnect
  have hRequested :=
    original_of_eq { intercepting with world := connected }
      hSend
  have hAnswered :=
    original_of_eq { intercepting with world := requested }
      hRecv
  unfold interceptConnect
  rw [Exec.read_bind_apply, if_pos hCalls.enabled,
    hCalls.destination]
  dsimp only
  rw [hProxy, Exec.orPanic_some, Exec.pure_bind_apply,
    Exec.bind_of_ok hConnected, if_pos rfl,
    Exec.bind_of_ok hRequested, if_pos hSent,
    Exec.bind_of_ok hAnswered, takeAnswer]
  by_cases hNone : answer = []
  · have hFailure : ¬ isSuccess answer := by
      rw [hNone]
      decide
    rw [if_pos hNone, if_neg hFailure]
    rfl
  · rw [if_neg hNone]
    by_cases hSuccess : isSuccess answer
    · rw [if_pos hSuccess, if_pos hSuccess]
      rfl
    · rw [if_neg hSuccess, if_neg hSuccess]
      rfl

/-
  An intercepted `connect` that reads the first bytes of what
  the handler writes to it succeeds exactly when the handler
  has connected and that read brings the whole status.
-/
theorem interceptConnect_iff
    (intercepting : Intercepting W)
    (fd : Int32)
    (addr : SockAddr)
    (destAddr : SocketAddr)
    (answer later : Bytes)
    (hCalls :
      AnsweredConnect intercepting fd addr destAddr answer)
    (handled : Handled)
    (hAnswer : handled.clientBytes = answer ++ later) :
    ((interceptConnect fd addr intercepting).1 = .ok 0 ↔
        (∃ target forwarding,
            handled = .connected target forwarding) ∧
          12 ≤ answer.length) ∧
      ((interceptConnect fd addr intercepting).1 ≠ .ok 0 →
        (interceptConnect fd addr intercepting).1 =
          .ok (-1)) := by
  rw [hCalls.outcome, ← isSuccess_clientBytes_iff hAnswer]
  by_cases hSuccess : isSuccess answer
  · rw [if_pos hSuccess]
    exact ⟨iff_of_true rfl hSuccess, fun hNot => absurd rfl hNot⟩
  · rw [if_neg hSuccess]
    refine ⟨iff_of_false ?_ hSuccess, fun _ => rfl⟩
    intro hOk
    cases hOk

/-
  The handler has read the whole request, and no loop of it
  is stopped that has bytes left.  Then it is connected to
  the destination, which has got what the program sent; and
  the `connect` call succeeds and leaves what the destination
  has sent, all of it and nothing else, to be received
  exactly when its read brought the answer and no more.
-/
theorem intercepted_iff
    (intercepting : Intercepting W)
    (fd : Int32)
    (addr : SockAddr)
    (ip : IpAddr)
    (port : UInt16)
    (answer later : Bytes)
    (hCalls :
      AnsweredConnect intercepting fd addr (.new ip port)
        answer)
    (bufferSize : UInt64)
    (client sent : List Bytes)
    (hRequest :
      firstRead bufferSize client =
        some (requestFor (.new ip port), sent))
    (network : SocketAddr → Option (List Bytes))
    (remote : List Bytes)
    (hNetwork : network (.new ip port) = some remote)
    (hSent : ∀ chunk ∈ sent, chunk ≠ [])
    (hRemote : ∀ chunk ∈ remote, chunk ≠ [])
    (schedule : List ForwardAction)
    (hFinished :
      (bidirectionalForward sent remote schedule).finished =
        true)
    (hStops :
      Runs.AlongRun Forwarding.step Forwarding.StopsNothing
        (Forwarding.start sent remote) schedule)
    (hAnswer :
      (handleConnectionWithForwarding bufferSize network
          schedule client).clientBytes =
        answer ++ later) :
    (∃ forwarding,
        handleConnectionWithForwarding bufferSize network
            schedule client =
          .connected (.new ip port) forwarding) ∧
      (handleConnectionWithForwarding bufferSize network
          schedule client).remoteBytes = sent.flatten ∧
      ((interceptConnect fd addr intercepting).1 = .ok 0 ∧
          later = remote.flatten ↔
        answer = connectionEstablished) := by
  have hWhole :
      requestFor (.new ip port) =
        firstBytes ip port
          ("CONNECT ".length +
            ((SocketAddr.new ip port).fmt ++
              afterTarget (.new ip port)).length) := by
    unfold firstBytes
    rw [List.take_of_length_le]
    · rfl
    · rw [asBytes_ascii isAscii_connectRequest,
        List.length_map]
      unfold connectRequest afterTarget
      rw [List.length_append]
      exact Nat.le_refl _
  have hTarget :
      targetAddr (requestFor (.new ip port)) =
        some (.new ip port) := by
    rw [hWhole]
    apply targetAddr_whole
    rw [List.length_append]
    exact Nat.le_add_right _ _
  have hSome : requestFor (.new ip port) ≠ [] := by
    intro hNil
    rw [hNil, targetAddr_nil] at hTarget
    cases hTarget
  have hHandled :=
    handleConnection_target hRequest hSome hTarget network
      schedule
  rw [hNetwork] at hHandled
  dsimp only at hHandled
  have hEnds :=
    (Forwarding.endsDrained_run_iff hSent hRemote
      schedule).mpr hStops hFinished
  rcases (drained_iff sent remote schedule).mp hEnds with
    ⟨hToRemote, hToClient⟩
  rw [hHandled] at hAnswer
  have hBytes :
      connectionEstablished ++ remote.flatten =
        answer ++ later := by
    rw [← hToClient]
    exact hAnswer
  rw [hHandled]
  refine ⟨⟨_, rfl⟩, hToRemote, ?_⟩
  rw [hCalls.outcome]
  constructor
  · rintro ⟨_, rfl⟩
    exact (List.append_cancel_right hBytes).symm
  · rintro rfl
    have hSuccess : isSuccess connectionEstablished := by
      apply (isSuccess_clientBytes_iff hAnswer).mpr
      exact ⟨⟨_, _, rfl⟩, by decide⟩
    rw [if_pos hSuccess]
    exact ⟨rfl, (List.append_cancel_left hBytes).symm⟩

end Connecting

end IsaWorkspace

------------------------------------------------------------
-- Descriptors
------------------------------------------------------------

namespace IsaWorkspace

open Intercepting

/- The intercepted calls of a program. -/
inductive InterceptOp where
  | connect (fd : Int32) (addr : SockAddr)
  | send (fd : Int32) (data : Bytes) (flags : Int32)
  | recv (fd : Int32) (length : Nat) (flags : Int32)
  | close (fd : Int32)

namespace Intercepting

variable {W : Type}

/- The library when the program starts. -/
def start
    (config : InterceptConfig)
    (world : W) : Intercepting W :=
  ⟨InterceptState.new config, world⟩

def lookup
    (intercepting : Intercepting W)
    (fd : Int32) : Option InterceptedSocket :=
  intercepting.state.interceptedSockets.lookup fd

variable [SocketCalls W]

def step
    (intercepting : Intercepting W) :
    InterceptOp → Intercepting W
| .connect fd addr => (interceptConnect fd addr intercepting).2
| .send fd data flags =>
    (interceptSend fd data flags intercepting).2
| .recv fd length flags =>
    (interceptRecv fd length flags intercepting).2
| .close fd => (interceptClose fd intercepting).2

/- A descriptor is connected to a destination by the proxy. -/
def Connects
    (fd : Int32)
    (destAddr : SocketAddr)
    (intercepting : Intercepting W)
    (op : InterceptOp) : Prop :=
  ∃ addr,
    op = .connect fd addr ∧
      intercepting.state.config.enabled = true ∧
      addr.destAddr = some destAddr ∧
      (interceptConnect fd addr intercepting).1 = .ok 0

/- A descriptor is neither closed nor connected again. -/
def LeavesAlone
    (fd : Int32)
    (intercepting : Intercepting W)
    (op : InterceptOp) : Prop :=
  op ≠ .close fd ∧
    ∀ destAddr, ¬ Connects fd destAddr intercepting op

/-
  The call does what the function of the C library does with
  the same arguments, except for a `connect` call that is to
  be intercepted.
-/
def PassesThrough
    (intercepting : Intercepting W) : InterceptOp → Prop
| .connect fd addr =>
    intercepting.state.config.enabled = false →
      interceptConnect fd addr intercepting =
        original (SocketCalls.connect fd addr) intercepting
| .send fd data flags =>
    interceptSend fd data flags intercepting =
      original (SocketCalls.send fd data flags) intercepting
| .recv fd length flags =>
    interceptRecv fd length flags intercepting =
      original (SocketCalls.recv fd length flags)
        intercepting
| .close fd =>
    (interceptClose fd intercepting).1 =
        .ok (SocketCalls.close fd intercepting.world).1 ∧
      (interceptClose fd intercepting).2.world =
        (SocketCalls.close fd intercepting.world).2

/- Every socket remembered stands for itself. -/
def StandsForItself
    (intercepting : Intercepting W) : Prop :=
  ∀ fd socket,
    intercepting.lookup fd = some socket →
      socket.proxyFd = fd

variable {intercepting : Intercepting W}

/-
  A `connect` call that does not succeed, or is not to be
  intercepted, connects no descriptor.
-/
theorem not_connects
    {fd : Int32}
    {addr : SockAddr}
    (hNot :
      intercepting.state.config.enabled = true →
        (interceptConnect fd addr intercepting).1 ≠ .ok 0)
    (destAddr : SocketAddr) :
    ¬ Connects fd destAddr intercepting
        (.connect fd addr) := by
  rintro ⟨other, hSame, hEnabled, _, hOk⟩
  cases hSame
  exact hNot hEnabled hOk

/-
  Where the answer of the proxy is no success, nothing is
  remembered; where it is, the socket is.
-/
omit [SocketCalls W] in
theorem takeAnswer_cases
    (fd : Int32)
    (destAddr : SocketAddr)
    (received : Option Bytes)
    (intercepting : Intercepting W) :
    takeAnswer fd destAddr received intercepting =
        (.ok (-1), intercepting) ∨
      takeAnswer fd destAddr received intercepting =
        (.ok 0, (track fd destAddr intercepting).2) := by
  cases received with
  | none => exact Or.inl rfl
  | some response =>
      rw [takeAnswer]
      by_cases hNone : response = []
      · rw [if_pos hNone]
        exact Or.inl rfl
      · rw [if_neg hNone]
        by_cases hSuccess : isSuccess response
        · rw [if_pos hSuccess]
          exact Or.inr rfl
        · rw [if_neg hSuccess]
          exact Or.inl rfl

/-
  How an intercepted `connect` call can end: with a failure
  or a panic that remembers nothing, or with a success and a
  socket remembered.
-/
theorem interceptConnect_of_enabled
    (fd : Int32)
    (addr : SockAddr)
    {intercepting : Intercepting W}
    (hEnabled :
      intercepting.state.config.enabled = true) :
    ((interceptConnect fd addr intercepting).1 ≠ .ok 0 ∧
        (interceptConnect fd addr intercepting).2.state =
          intercepting.state) ∨
      ∃ destAddr,
        addr.destAddr = some destAddr ∧
          (interceptConnect fd addr intercepting).1 =
            .ok 0 ∧
          (interceptConnect fd addr intercepting).2.state =
            (track fd destAddr intercepting).2.state := by
  have hFails :
      ∀ {outcome : Outcome Empty Int32}
        {after : Intercepting W},
        interceptConnect fd addr intercepting =
            (outcome, after) →
          outcome ≠ .ok 0 →
            after.state = intercepting.state →
              (interceptConnect fd addr intercepting).1 ≠
                  .ok 0 ∧
                (interceptConnect fd addr
                    intercepting).2.state =
                  intercepting.state := by
    intro outcome after hResult hNot hState
    rw [hResult]
    exact ⟨hNot, hState⟩
  have hMinus :
      (Outcome.ok (-1) : Outcome Empty Int32) ≠ .ok 0 := by
    decide
  cases hDest : addr.destAddr with
  | none =>
      left
      have hResult :
          interceptConnect fd addr intercepting =
            (.ok (-1), intercepting) := by
        unfold interceptConnect
        rw [Exec.read_bind_apply, if_pos hEnabled, hDest]
        rfl
      exact hFails hResult hMinus rfl
  | some destAddr =>
      cases hProxy :
          socketaddrToSockaddr
            intercepting.state.config.proxyAddr with
      | none =>
          left
          have hResult :
              interceptConnect fd addr intercepting =
                (.panicked, intercepting) := by
            unfold interceptConnect
            rw [Exec.read_bind_apply, if_pos hEnabled, hDest]
            dsimp only
            rw [hProxy]
            rfl
          exact hFails hResult (by decide) rfl
      | some proxySockaddr =>
          rcases hConnect :
              SocketCalls.connect fd proxySockaddr
                intercepting.world with
            ⟨result, connected⟩
          have hConnected :=
            original_of_eq intercepting hConnect
          by_cases hZero : result = 0
          · rcases hSend :
                SocketCalls.send fd (requestFor destAddr) 0
                  connected with
              ⟨sent, requested⟩
            have hRequested :=
              original_of_eq
                { intercepting with world := connected }
                hSend
            by_cases hSent : 0 < sent
            · rcases hRecv :
                  SocketCalls.recv fd 256 0 requested with
                ⟨received, answered⟩
              have hAnswered :=
                original_of_eq
                  { intercepting with world := requested }
                  hRecv
              have hResult :
                  interceptConnect fd addr intercepting =
                    takeAnswer fd destAddr received
                      { intercepting with
                        world := answered } := by
                unfold interceptConnect
                rw [Exec.read_bind_apply, if_pos hEnabled,
                  hDest]
                dsimp only
                rw [hProxy, Exec.orPanic_some,
                  Exec.pure_bind_apply,
                  Exec.bind_of_ok hConnected, if_pos hZero,
                  Exec.bind_of_ok hRequested, if_pos hSent,
                  Exec.bind_of_ok hAnswered]
              rcases takeAnswer_cases fd destAddr received
                  { intercepting with world := answered }
                with hFailed | hTracked
              · left
                exact
                  hFails (hResult.trans hFailed) hMinus rfl
              · right
                rw [hResult, hTracked]
                exact ⟨destAddr, rfl, rfl, rfl⟩
            · left
              have hResult :
                  interceptConnect fd addr intercepting =
                    (.ok (-1),
                      { intercepting with
                        world := requested }) := by
                unfold interceptConnect
                rw [Exec.read_bind_apply, if_pos hEnabled,
                  hDest]
                dsimp only
                rw [hProxy, Exec.orPanic_some,
                  Exec.pure_bind_apply,
                  Exec.bind_of_ok hConnected, if_pos hZero,
                  Exec.bind_of_ok hRequested, if_neg hSent]
                rfl
              exact hFails hResult hMinus rfl
          · left
            have hResult :
                interceptConnect fd addr intercepting =
                  (.ok (-1),
                    { intercepting with
                      world := connected }) := by
              unfold interceptConnect
              rw [Exec.read_bind_apply, if_pos hEnabled,
                hDest]
              dsimp only
              rw [hProxy, Exec.orPanic_some,
                Exec.pure_bind_apply,
                Exec.bind_of_ok hConnected, if_neg hZero]
              rfl
            exact hFails hResult hMinus rfl

/- A call that connects a descriptor remembers its socket. -/
theorem lookup_step_of_connects
    {fd : Int32}
    {destAddr : SocketAddr}
    {op : InterceptOp}
    (hConnects : Connects fd destAddr intercepting op) :
    (intercepting.step op).lookup fd =
      some ⟨destAddr, fd, true⟩ := by
  rcases hConnects with ⟨addr, rfl, hEnabled, hDest, hOk⟩
  rcases interceptConnect_of_enabled fd addr hEnabled with
    ⟨hNot, _⟩ | ⟨named, hNamed, _, hState⟩
  · exact absurd hOk hNot
  · rw [hDest] at hNamed
    cases hNamed
    change
      (interceptConnect fd addr
          intercepting).2.state.interceptedSockets.lookup
          fd =
        _
    rw [hState]
    exact Finmap.lookup_insert _

/- A closed descriptor is forgotten. -/
theorem lookup_step_close
    (fd : Int32)
    (intercepting : Intercepting W) :
    (intercepting.step (.close fd)).lookup fd = none :=
  Finmap.lookup_erase fd _

/- The descriptor that a call on a descriptor goes to. -/
def descriptorFor
    (intercepting : Intercepting W)
    (fd : Int32) : Int32 :=
  match intercepting.lookup fd with
  | some socket =>
      if socket.connected = true then socket.proxyFd else fd
  | none => fd

theorem interceptSend_eq
    (fd : Int32)
    (data : Bytes)
    (flags : Int32)
    (intercepting : Intercepting W) :
    interceptSend fd data flags intercepting =
      original
        (SocketCalls.send (intercepting.descriptorFor fd)
          data flags)
        intercepting := by
  unfold interceptSend descriptorFor lookup
  rw [Exec.read_bind_apply]
  cases intercepting.state.interceptedSockets.lookup fd with
  | none => rfl
  | some socket =>
      dsimp only
      by_cases hConnected : socket.connected = true
      · rw [if_pos hConnected, if_pos hConnected]
      · rw [if_neg hConnected, if_neg hConnected]

theorem interceptRecv_eq
    (fd : Int32)
    (length : Nat)
    (flags : Int32)
    (intercepting : Intercepting W) :
    interceptRecv fd length flags intercepting =
      original
        (SocketCalls.recv (intercepting.descriptorFor fd)
          length flags)
        intercepting := by
  unfold interceptRecv descriptorFor lookup
  rw [Exec.read_bind_apply]
  cases intercepting.state.interceptedSockets.lookup fd with
  | none => rfl
  | some socket =>
      dsimp only
      by_cases hConnected : socket.connected = true
      · rw [if_pos hConnected, if_pos hConnected]
      · rw [if_neg hConnected, if_neg hConnected]

/- A call that is not to be intercepted remembers nothing. -/
theorem interceptConnect_of_disabled
    (fd : Int32)
    (addr : SockAddr)
    (hDisabled :
      intercepting.state.config.enabled = false) :
    interceptConnect fd addr intercepting =
      original (SocketCalls.connect fd addr)
        intercepting := by
  have hNot :
      ¬ intercepting.state.config.enabled = true := by
    rw [hDisabled]
    exact Bool.false_ne_true
  unfold interceptConnect
  rw [Exec.read_bind_apply, if_neg hNot]

/- Other calls leave what is remembered of a descriptor. -/
theorem lookup_step_of_leavesAlone
    {fd : Int32}
    {op : InterceptOp}
    (hAlone : LeavesAlone fd intercepting op) :
    (intercepting.step op).lookup fd =
      intercepting.lookup fd := by
  rcases hAlone with ⟨hOpen, hNot⟩
  unfold lookup
  cases op with
  | connect other addr =>
      cases hEnabled :
          intercepting.state.config.enabled with
      | false =>
          change
            (interceptConnect other addr
              intercepting).2.state.interceptedSockets.lookup
                fd =
              _
          rw [interceptConnect_of_disabled other addr
            hEnabled]
          rfl
      | true =>
          change
            (interceptConnect other addr
              intercepting).2.state.interceptedSockets.lookup
                fd =
              _
          rcases interceptConnect_of_enabled other addr
              hEnabled with
            ⟨_, hState⟩ | ⟨destAddr, hDest, hOk, hState⟩
          · rw [hState]
          · have hOther : fd ≠ other := by
              rintro rfl
              exact
                hNot destAddr
                  ⟨addr, rfl, hEnabled, hDest, hOk⟩
            rw [hState]
            exact Finmap.lookup_insert_of_ne _ hOther
  | send other data flags =>
      change
        (interceptSend other data flags
            intercepting).2.state.interceptedSockets.lookup
            fd =
          _
      rw [interceptSend_eq]
      rfl
  | recv other length flags =>
      change
        (interceptRecv other length flags
            intercepting).2.state.interceptedSockets.lookup
            fd =
          _
      rw [interceptRecv_eq]
      rfl
  | close other =>
      have hOther : fd ≠ other := by
        rintro rfl
        exact hOpen rfl
      exact Finmap.lookup_erase_ne hOther

/- Every call is of one of these kinds for a descriptor. -/
theorem step_kinds
    (fd : Int32)
    (intercepting : Intercepting W)
    (op : InterceptOp) :
    (∃ destAddr, Connects fd destAddr intercepting op) ∨
      op = .close fd ∨ LeavesAlone fd intercepting op := by
  by_cases hConnects :
      ∃ destAddr, Connects fd destAddr intercepting op
  · exact Or.inl hConnects
  · by_cases hClose : op = .close fd
    · exact Or.inr (Or.inl hClose)
    · exact
        Or.inr
          (Or.inr
            ⟨hClose, fun destAddr hHere =>
              hConnects ⟨destAddr, hHere⟩⟩)

/-
  A descriptor was connected to a destination by the proxy,
  and nothing was done since that would change it.
-/
def ConnectedSince
    (fd : Int32)
    (destAddr : SocketAddr)
    (start : Intercepting W)
    (ops : List InterceptOp) : Prop :=
  ∃ earlier op later,
    ops = earlier ++ op :: later ∧
      Connects fd destAddr (Runs.run step start earlier)
        op ∧
      Runs.AlongRun step (LeavesAlone fd)
        ((Runs.run step start earlier).step op) later

/- What a call changes of when a descriptor was connected. -/
theorem connectedSince_concat_iff
    {fd : Int32}
    {destAddr : SocketAddr}
    {start : Intercepting W}
    {ops : List InterceptOp}
    {op : InterceptOp} :
    ConnectedSince fd destAddr start (ops ++ [op]) ↔
      Connects fd destAddr (Runs.run step start ops) op ∨
        (LeavesAlone fd (Runs.run step start ops) op ∧
          ConnectedSince fd destAddr start ops) := by
  constructor
  · rintro ⟨earlier, first, later, hOps, hConnects, hAlone⟩
    rcases List.eq_nil_or_concat later with
      rfl | ⟨middle, last, rfl⟩
    · rcases List.append_inj' hOps rfl with ⟨rfl, hLast⟩
      cases hLast
      exact Or.inl hConnects
    · right
      rw [List.concat_eq_append, ← List.cons_append,
        ← List.append_assoc] at hOps
      rcases List.append_inj' hOps rfl with ⟨rfl, hLast⟩
      cases hLast
      rw [List.concat_eq_append, Runs.alongRun_append]
        at hAlone
      rw [Runs.run_append, Runs.run_cons]
      exact
        ⟨hAlone.2.1, earlier, first, middle, rfl, hConnects,
          hAlone.1⟩
  · rintro
      (hConnects |
        ⟨hAlone, earlier, first, later, rfl, hConnects,
          hBefore⟩)
    · exact ⟨ops, op, [], rfl, hConnects, trivial⟩
    · refine
        ⟨earlier, first, later ++ [op], ?_, hConnects, ?_⟩
      · rw [List.append_assoc, List.cons_append]
      · rw [Runs.run_append, Runs.run_cons] at hAlone
        rw [Runs.alongRun_append]
        exact ⟨hBefore, hAlone, trivial⟩

/-
  At every moment what is remembered of a descriptor is that
  it stands for itself, with the destination it was last
  connected to, if it was not closed since.
-/
theorem lookup_run_iff
    (config : InterceptConfig)
    (world : W)
    (ops : List InterceptOp)
    (fd : Int32)
    (socket : InterceptedSocket) :
    (Runs.run step (start config world) ops).lookup fd =
        some socket ↔
      socket.proxyFd = fd ∧ socket.connected = true ∧
        ConnectedSince fd socket.destAddr
          (start config world) ops := by
  induction ops using List.reverseRecOn with
  | nil =>
      apply iff_of_false
      · intro hFound
        cases hFound
      · rintro ⟨_, _, earlier, op, later, hOps, _⟩
        cases earlier with
        | nil => cases hOps
        | cons first rest => cases hOps
  | append_singleton ops op ih =>
      rw [Runs.run_concat, connectedSince_concat_iff]
      rcases step_kinds fd
          (Runs.run step (start config world) ops) op with
        ⟨destAddr, hConnects⟩ | rfl | hAlone
      · rw [lookup_step_of_connects hConnects]
        constructor
        · intro hSocket
          cases hSocket
          exact ⟨rfl, rfl, Or.inl hConnects⟩
        · rintro ⟨rfl, hConnected, hSince | ⟨hAlone, _⟩⟩
          · rcases hConnects with
              ⟨addr, rfl, _, hDest, _⟩
            rcases hSince with ⟨other, hSame, _, hOther, _⟩
            cases hSame
            rw [hDest] at hOther
            cases hOther
            rw [← hConnected]
          · exact absurd hConnects (hAlone.2 destAddr)
      · rw [lookup_step_close]
        apply iff_of_false
        · intro hFound
          cases hFound
        · rintro ⟨_, _, hSince | ⟨hAlone, _⟩⟩
          · rcases hSince with ⟨addr, hSame, _⟩
            cases hSame
          · exact hAlone.1 rfl
      · rw [lookup_step_of_leavesAlone hAlone, ih]
        have hNot :
            ¬ Connects fd socket.destAddr
                (Runs.run step (start config world) ops)
                op :=
          hAlone.2 socket.destAddr
        rw [or_iff_right hNot, and_iff_right hAlone]

/- A socket goes on standing for itself. -/
theorem standsForItself_step
    (intercepting : Intercepting W)
    (op : InterceptOp)
    (hItself : intercepting.StandsForItself) :
    (intercepting.step op).StandsForItself := by
  intro fd socket hSocket
  rcases step_kinds fd intercepting op with
    ⟨destAddr, hConnects⟩ | rfl | hAlone
  · rw [lookup_step_of_connects hConnects] at hSocket
    cases hSocket
    rfl
  · rw [lookup_step_close] at hSocket
    cases hSocket
  · rw [lookup_step_of_leavesAlone hAlone] at hSocket
    exact hItself fd socket hSocket

omit [SocketCalls W] in
theorem StandsForItself.descriptorFor_eq
    (hItself : intercepting.StandsForItself)
    (fd : Int32) :
    intercepting.descriptorFor fd = fd := by
  unfold descriptorFor
  cases hSocket : intercepting.lookup fd with
  | none => rfl
  | some socket =>
      dsimp only
      rw [hItself fd socket hSocket, ite_self]

/- Calls pass through where sockets stand for themselves. -/
theorem StandsForItself.passesThrough
    (hItself : intercepting.StandsForItself)
    (op : InterceptOp) :
    intercepting.PassesThrough op := by
  cases op with
  | connect fd addr =>
      intro hDisabled
      exact interceptConnect_of_disabled fd addr hDisabled
  | send fd data flags =>
      change interceptSend fd data flags intercepting = _
      rw [interceptSend_eq, hItself.descriptorFor_eq]
  | recv fd length flags =>
      change interceptRecv fd length flags intercepting = _
      rw [interceptRecv_eq, hItself.descriptorFor_eq]
  | close fd => exact ⟨rfl, rfl⟩

/-
  In every run of intercepted calls of a program, sending,
  receiving and closing do what the C library does with the
  same descriptor, and so does `connect` when interception is
  off.  The descriptors remembered are those that the last
  successful `connect` since they were last closed has
  connected by the proxy, each with that destination.
-/
theorem passesThrough_run
    (config : InterceptConfig)
    (world : W)
    (ops : List InterceptOp) :
    Runs.AlongRun step PassesThrough (start config world)
        ops ∧
      ∀ fd socket,
        (Runs.run step (start config world) ops).lookup fd =
            some socket ↔
          socket.proxyFd = fd ∧ socket.connected = true ∧
            ConnectedSince fd socket.destAddr
              (start config world) ops := by
  constructor
  · have hStart :
        (start config world).StandsForItself := by
      intro fd socket hSocket
      cases hSocket
    have hAny :
        Runs.AlongRun step (fun _ _ => True)
          (start config world) ops :=
      Runs.alongRun_of_forall_mem fun _ _ _ => trivial
    exact
      Runs.alongRun_of_invariant
        (fun state op hItself _ =>
          standsForItself_step state op hItself)
        (fun _ op hItself _ => hItself.passesThrough op)
        hStart hAny
  · exact lookup_run_iff config world ops

end Intercepting

end IsaWorkspace

------------------------------------------------------------
-- A Sample Connection
------------------------------------------------------------

namespace IsaWorkspace

/- A host that is asked for, sends a byte and closes. -/
namespace InterceptionSample

/- What the proxy has written, and was not received yet. -/
structure ProxySide where
  written : Bytes

scoped instance : SocketCalls ProxySide where
  connect _ _ side := (0, side)
  send _ data _ side := (data.length, side)
  recv _ length _ side :=
    (some (side.written.take length),
      ⟨side.written.drop length⟩)
  close _ side := (0, side)

def host : Ipv4Addr :=
  ⟨8, 8, 8, 8⟩

def addr : SockAddr :=
  .inet (1, 187) host

def destAddr : SocketAddr :=
  .new (.v4 host) 443

def config : InterceptConfig where
  proxyAddr := .v4 ⟨⟨127, 0, 0, 1⟩, 14433⟩
  enabled := true

/- The proxy answers, and the read of the call is short. -/
def intercepting
    (answer : Bytes) : Intercepting ProxySide :=
  Intercepting.start config ⟨answer⟩

theorem answeredConnect
    {answer : Bytes}
    (hShort : answer.length ≤ 256) :
    AnsweredConnect (intercepting answer) 3 addr destAddr
      answer where
  enabled := rfl
  destination := rfl
  calls := by
    refine
      ⟨.inet (56, 97) ⟨127, 0, 0, 1⟩,
        (Intercepting.requestFor destAddr).length, ⟨answer⟩,
        ⟨answer⟩, ⟨answer.drop 256⟩, rfl, rfl, rfl, ?_, ?_⟩
    · decide +kernel
    · apply Prod.ext
      · exact congrArg some (List.take_of_length_le hShort)
      · rfl

def client : List Bytes :=
  [Intercepting.requestFor destAddr, [1]]

/- What the handler of the proxy makes of the connection. -/
def handled : Handled :=
  handleConnectionWithForwarding 65536
    (fun _ => some [[2]]) sampleSchedule client

theorem clientBytes_handled :
    handled.clientBytes = connectionEstablished ++ [2] := by
  decide +kernel

end InterceptionSample

open InterceptionSample Intercepting

/- The status arrives and the rest of the answer does not. -/
theorem interceptConnect_sample :
    ((interceptConnect 3 addr
            (intercepting
              (connectionEstablished.take 12))).1 =
          .ok 0 ↔
        (∃ target forwarding,
            handled = .connected target forwarding) ∧
          12 ≤ (connectionEstablished.take 12).length) ∧
      ((interceptConnect 3 addr
            (intercepting
              (connectionEstablished.take 12))).1 ≠
          .ok 0 →
        (interceptConnect 3 addr
            (intercepting
              (connectionEstablished.take 12))).1 =
          .ok (-1)) := by
  have hAnswer :
      handled.clientBytes =
        connectionEstablished.take 12 ++
          (connectionEstablished.drop 12 ++ [2]) := by
    rw [clientBytes_handled, ← List.append_assoc,
      List.take_append_drop]
  exact
    interceptConnect_iff _ 3 addr destAddr _ _
      (answeredConnect (by decide)) handled hAnswer

/- The answer arrives alone, and then the byte. -/
theorem intercepted_sample :
    (∃ forwarding,
        handled = .connected destAddr forwarding) ∧
      handled.remoteBytes = [1] ∧
      ((interceptConnect 3 addr
              (intercepting connectionEstablished)).1 =
            .ok 0 ∧
          ([2] : Bytes) = [2] ↔
        connectionEstablished = connectionEstablished) := by
  have hRequest :
      firstRead 65536 client =
        some (requestFor destAddr, [[1]]) := by
    decide +kernel
  exact
    intercepted_iff _ 3 addr (.v4 host) 443
      connectionEstablished [2]
      (answeredConnect (by decide)) 65536 client [[1]]
      hRequest (fun _ => some [[2]]) [[2]] rfl (by decide)
      (by decide) sampleSchedule rfl (by decide)
      clientBytes_handled

end IsaWorkspace
