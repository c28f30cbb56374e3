import IsaWorkspace.Foundations.Chunks
import IsaWorkspace.Foundations.Runs
import IsaWorkspace.Foundations.SocketAddr
import IsaWorkspace.Foundations.Text

/-
  The handler of one client of the socket proxy.

  The handler acts on what its first read returns: it takes
  a target address from it, connects to the target and
  forwards bytes in both directions until one of the two
  loops ends.  A stream is the list of its chunks.  Every
  branch of the handler leaves its reading loop after the
  first read.

  Main declarations:
    * `connectRequest`, `targetAddr`
    * `ForwardLoop`, `Forwarding`, `Forwarding.step`
    * `Handled`, `handleConnectionWithForwarding`
    * `targetAddr_connect`
-/

------------------------------------------------------------
-- Requests
------------------------------------------------------------

namespace IsaWorkspace

/- The request that an intercepted `connect` call sends. -/
def connectRequest
    (destAddr : SocketAddr) : List Char :=
  "CONNECT ".toList ++
    (destAddr.fmt ++
      (" HTTP/1.1\r\nHost: ".toList ++
        (destAddr.fmt ++ "\r\n\r\n".toList)))

/-
  The address that the first bytes of a client ask for: the
  word after `CONNECT`, or else the whole text.
-/
def targetAddr
    (first : Bytes) : Option SocketAddr :=
  let request := Text.fromUtf8Lossy first
  match Text.stripPrefix request "CONNECT ".toList with
  | some addrStr =>
      (Text.firstWord addrStr).bind SocketAddr.parse
  | none =>
      if 7 ≤ first.length then
        SocketAddr.parse
          (Text.trim (Text.fromUtf8Lossy first))
      else
        none

/- What the handler answers. -/
def connectionEstablished : Bytes :=
  asBytes "HTTP/1.1 200 Connection Established\r\n\r\n"

def badGateway : Bytes :=
  asBytes "HTTP/1.1 502 Bad Gateway\r\n\r\n"

def badRequest : Bytes :=
  asBytes
    "HTTP/1.1 400 Bad Request\r\n\r\nInvalid CONNECT request"

theorem targetAddr_nil :
    targetAddr [] = none := by
  decide

/-
  Of bytes that start with `CONNECT` and an ASCII word, that
  word is the target, whatever comes after it.
-/
theorem targetAddr_connect
    {target : List Char}
    (hAscii : Text.IsAscii target)
    (hSome : target ≠ [])
    (hWord :
      ∀ char ∈ target, Text.isWhitespace char = false)
    {after : List Char}
    (hAfter : Text.IsAscii after)
    (rest : Bytes)
    (hRest :
      ∀ char ∈ (after ++ Text.fromUtf8Lossy rest).head?,
        Text.isWhitespace char = true) :
    targetAddr
        (("CONNECT ".toList ++ (target ++ after)).map
            (fun char => UInt8.ofNat char.toNat) ++
          rest) =
      SocketAddr.parse target := by
  have hText :
      Text.IsAscii
        ("CONNECT ".toList ++ (target ++ after)) :=
    Text.IsAscii.append (by decide) (hAscii.append hAfter)
  unfold targetAddr
  rw [Text.fromUtf8Lossy_ascii hText, List.append_assoc,
    List.append_assoc]
  dsimp only
  rw [Text.stripPrefix_append]
  dsimp only
  rw [Text.firstWord_append hSome hWord hRest]
  rfl

end IsaWorkspace

------------------------------------------------------------
-- Forwarding
------------------------------------------------------------

namespace IsaWorkspace

/-
  One of the two loops: what its source will send, what it
  has read and not yet written, and what it has written.
-/
structure ForwardLoop where
  unread : List Bytes
  pending : Bytes
  written : Bytes

namespace ForwardLoop

def start
    (source : List Bytes) : ForwardLoop where
  unread := source
  pending := []
  written := []

/- One read; the loop ends where nothing is returned. -/
def read
    (state : ForwardLoop) : Option ForwardLoop :=
  match Chunks.read 8192 state.unread with
  | none => none
  | some (piece, rest) =>
      if piece = [] then
        none
      else
        some { state with unread := rest, pending := piece }

/- The write goes on by some bytes. -/
def write
    (state : ForwardLoop)
    (count : Nat) : ForwardLoop where
  unread := state.unread
  pending := state.pending.drop count
  written := state.written ++ state.pending.take count

end ForwardLoop

/- Both loops; the first one to end stops the other one. -/
structure Forwarding where
  clientToRemote : ForwardLoop
  remoteToClient : ForwardLoop
  finished : Bool

/- Which way bytes go. -/
inductive Direction where
  | toRemote
  | toClient
deriving DecidableEq

def Direction.other : Direction → Direction
| .toRemote => .toClient
| .toClient => .toRemote

/- A loop returns from a read, or writes some bytes. -/
inductive ForwardAction where
  | read (direction : Direction)
  | write (direction : Direction) (count : Nat)

namespace Forwarding

def start
    (client remote : List Bytes) : Forwarding where
  clientToRemote := .start client
  remoteToClient := .start remote
  finished := false

def loop
    (state : Forwarding) : Direction → ForwardLoop
| .toRemote => state.clientToRemote
| .toClient => state.remoteToClient

def setLoop
    (state : Forwarding) :
    Direction → ForwardLoop → Forwarding
| .toRemote, changed =>
    { state with clientToRemote := changed }
| .toClient, changed =>
    { state with remoteToClient := changed }

/-
  A loop reads again only when it has written everything.
  When one has ended nothing more is read or written.
-/
def step
    (state : Forwarding) : ForwardAction → Forwarding
| .read direction =>
    if
        state.finished = true ∨
          (state.loop direction).pending ≠ [] then
      state
    else
      match (state.loop direction).read with
      | none => { state with finished := true }
      | some changed => state.setLoop direction changed
| .write direction count =>
    if state.finished = true then
      state
    else
      state.setLoop direction
        ((state.loop direction).write count)

end Forwarding

/- Forward in both directions, under a schedule. -/
def bidirectionalForward
    (client remote : List Bytes)
    (schedule : List ForwardAction) : Forwarding :=
  Runs.run Forwarding.step (Forwarding.start client remote)
    schedule

end IsaWorkspace

------------------------------------------------------------
-- The Handler
------------------------------------------------------------

namespace IsaWorkspace

/- How far the handler got with a client. -/
inductive Handled where
  | closed
  | badRequest
  | badGateway (addr : SocketAddr)
  | connected (addr : SocketAddr) (forwarding : Forwarding)

namespace Handled

/- What was written to the client. -/
def clientBytes : Handled → Bytes
| .closed => []
| .badRequest => IsaWorkspace.badRequest
| .badGateway _ => IsaWorkspace.badGateway
| .connected _ forwarding =>
    connectionEstablished ++
      forwarding.remoteToClient.written

/- What was written to the remote. -/
def remoteBytes : Handled → Bytes
| .connected _ forwarding =>
    forwarding.clientToRemote.written
| _ => []

end Handled

/- The first read of the handler, into its buffer. -/
def firstRead
    (bufferSize : UInt64)
    (client : List Bytes) : Option (Bytes × List Bytes) :=
  Chunks.read (min bufferSize.toNat 8192) client

/-
  Handle connection with bidirectional forwarding.  The
  network says what each address sends, if it can be
  connected to.
-/
def handleConnectionWithForwarding
    (bufferSize : UInt64)
    (network : SocketAddr → Option (List Bytes))
    (schedule : List ForwardAction)
    (client : List Bytes) : Handled :=
  match firstRead bufferSize client with
  | none => .closed
  | some (first, rest) =>
      if first = [] then
        .closed
      else
        match targetAddr first with
        | none => .badRequest
        | some addr =>
            match network addr with
            | none => .badGateway addr
            | some remote =>
                .connected addr
                  (bidirectionalForward rest remote schedule)

/- The handler connects to the target of its first read. -/
theorem handleConnection_target
    {bufferSize : UInt64}
    {client rest : List Bytes}
    {first : Bytes}
    {addr : SocketAddr}
    (hRead : firstRead bufferSize client = some (first, rest))
    (hSome : first ≠ [])
    (hTarget : targetAddr first = some addr)
    (network : SocketAddr → Option (List Bytes))
    (schedule : List ForwardAction) :
    handleConnectionWithForwarding bufferSize network
        schedule client =
      match network addr with
      | none => .badGateway addr
      | some remote =>
          .connected addr
            (bidirectionalForward rest remote schedule) := by
  unfold handleConnectionWithForwarding
  rw [hRead]
  dsimp only
  rw [if_neg hSome, hTarget]

/- Where it has connected, its first read named the address. -/
theorem of_handleConnection_connected
    {bufferSize : UInt64}
    {network : SocketAddr → Option (List Bytes)}
    {schedule : List ForwardAction}
    {client : List Bytes}
    {addr : SocketAddr}
    {forwarding : Forwarding}
    (hConnected :
      handleConnectionWithForwarding bufferSize network
          schedule client =
        .connected addr forwarding) :
    ∃ first rest,
      firstRead bufferSize client = some (first, rest) ∧
        targetAddr first = some addr := by
  unfold handleConnectionWithForwarding at hConnected
  split at hConnected
  · cases hConnected
  · rename_i first rest hRead
    split at hConnected
    · cases hConnected
    · split at hConnected
      · cases hConnected
      · rename_i target hTarget
        split at hConnected
        · cases hConnected
        · cases hConnected
          exact ⟨first, rest, hRead, hTarget⟩

end IsaWorkspace
