import IsaWorkspace.Proxy.Forwarding

/-
  Which bytes get through the proxy.

  A loop keeps the bytes of its source in order: what it has
  written, what it holds and what it has not read make up
  the stream.  Bytes are lost where the handler drops what
  came in the same read as the request, and where the first
  loop to end stops the other one.

  Main declarations:
    * `ForwardLoop.bytes`, `ForwardLoop.Drained`
    * `Forwarding.bytes_step`, `Forwarding.bytes_run`
    * `Forwarding.StopsNothing`
    * `Forwarding.drained_run_iff`
    * `ConnectHead`, `ConnectHead.handled`
    * `Transparent`, `transparent_iff`
-/

------------------------------------------------------------
-- Bytes of a Loop
------------------------------------------------------------

namespace IsaWorkspace

namespace ForwardLoop

/- All bytes of a loop, in their order. -/
def bytes
    (state : ForwardLoop) : Bytes :=
  state.written ++ (state.pending ++ state.unread.flatten)

/- Everything was written. -/
def Drained
    (state : ForwardLoop) : Prop :=
  state.pending = [] ∧ state.unread.flatten = []

instance
    (state : ForwardLoop) :
    Decidable state.Drained :=
  inferInstanceAs (Decidable (_ ∧ _))

/- A read returns nothing only at the end of a stream. -/
def ReadsSomething
    (state : ForwardLoop) : Prop :=
  ∀ chunk ∈ state.unread, chunk ≠ []

variable {state changed : ForwardLoop}

theorem bytes_read
    (hEmpty : state.pending = [])
    (hRead : state.read = some changed) :
    changed.bytes = state.bytes := by
  unfold read at hRead
  split at hRead
  · cases hRead
  · rename_i piece rest hPiece
    split at hRead
    · cases hRead
    · cases hRead
      unfold bytes
      rw [hEmpty, List.nil_append,
        Chunks.flatten_of_read hPiece]

@[simp] theorem bytes_write
    (state : ForwardLoop)
    (count : Nat) :
    (state.write count).bytes = state.bytes := by
  unfold bytes write
  rw [List.append_assoc, ← List.append_assoc
    (state.pending.take count), List.take_append_drop]

theorem ReadsSomething.read
    (hReads : state.ReadsSomething)
    (hRead : state.read = some changed) :
    changed.ReadsSomething := by
  unfold ForwardLoop.read at hRead
  split at hRead
  · cases hRead
  · rename_i piece rest hPiece
    split at hRead
    · cases hRead
    · cases hRead
      exact Chunks.forall_ne_nil_of_read hReads hPiece

/- A loop that does not read on has read everything. -/
theorem ReadsSomething.unread_eq_nil
    (hReads : state.ReadsSomething)
    (hEnd : state.read = none) :
    state.unread = [] := by
  unfold ForwardLoop.read at hEnd
  cases hUnread : state.unread with
  | nil => rfl
  | cons chunk rest =>
      rcases Chunks.read_cons 8192 chunk rest with
        ⟨left, hRead, _⟩
      have hChunk : chunk ≠ [] :=
        hReads chunk (by rw [hUnread]; exact List.mem_cons_self)
      rw [hUnread, hRead] at hEnd
      dsimp only at hEnd
      split at hEnd
      · rename_i hNone
        rcases List.take_eq_nil_iff.mp hNone with hZero | hNil
        · cases hZero
        · exact absurd hNil hChunk
      · cases hEnd

/- What was written of a drained loop is its stream. -/
theorem written_eq_bytes_iff :
    state.written = state.bytes ↔ state.Drained := by
  unfold bytes Drained
  rw [List.self_eq_append_right, List.append_eq_nil_iff]

theorem written_prefix_bytes
    (state : ForwardLoop) :
    state.written <+: state.bytes :=
  List.prefix_append _ _

end ForwardLoop

end IsaWorkspace

------------------------------------------------------------
-- Both Loops
------------------------------------------------------------

namespace IsaWorkspace

namespace Forwarding

variable {state : Forwarding}

theorem loop_setLoop
    (state : Forwarding)
    (direction other : Direction)
    (changed : ForwardLoop) :
    (state.setLoop direction changed).loop other =
      if other = direction then changed
      else state.loop other := by
  cases direction <;> cases other <;> rfl

@[simp] theorem finished_setLoop
    (state : Forwarding)
    (direction : Direction)
    (changed : ForwardLoop) :
    (state.setLoop direction changed).finished =
      state.finished := by
  cases direction <;> rfl

/- A change that keeps the bytes of one loop keeps all. -/
theorem bytes_setLoop
    {direction : Direction}
    {changed : ForwardLoop}
    (hBytes : changed.bytes = (state.loop direction).bytes)
    (other : Direction) :
    ((state.setLoop direction changed).loop other).bytes =
      (state.loop other).bytes := by
  rw [loop_setLoop]
  split
  · rename_i hSame
    rw [hBytes, hSame]
  · rfl

/- Once a loop has ended nothing changes. -/
theorem step_finished
    (hFinished : state.finished = true)
    (action : ForwardAction) :
    state.step action = state := by
  cases action with
  | read direction => exact if_pos (Or.inl hFinished)
  | write direction count => exact if_pos hFinished

/- A loop that has bytes to write does not read. -/
theorem step_read_busy
    {direction : Direction}
    (hBusy : (state.loop direction).pending ≠ []) :
    state.step (.read direction) = state :=
  if_pos (Or.inr hBusy)

/- A loop that has written everything reads. -/
theorem step_read
    {direction : Direction}
    (hRunning : state.finished = false)
    (hEmpty : (state.loop direction).pending = []) :
    state.step (.read direction) =
      match (state.loop direction).read with
      | none => { state with finished := true }
      | some changed => state.setLoop direction changed := by
  have hReads :
      ¬ (state.finished = true ∨
          (state.loop direction).pending ≠ []) := by
    rw [hRunning, hEmpty]
    simp
  exact if_neg hReads

theorem step_write
    (hRunning : state.finished = false)
    (direction : Direction)
    (count : Nat) :
    state.step (.write direction count) =
      state.setLoop direction
        ((state.loop direction).write count) := by
  have hNot : ¬ state.finished = true := by
    rw [hRunning]
    exact Bool.false_ne_true
  exact if_neg hNot

/- No step loses, repeats or reorders bytes of a loop. -/
theorem bytes_step
    (state : Forwarding)
    (action : ForwardAction)
    (direction : Direction) :
    ((state.step action).loop direction).bytes =
      (state.loop direction).bytes := by
  cases hFinished : state.finished with
  | true => rw [step_finished hFinished]
  | false =>
      cases action with
      | read source =>
          by_cases hEmpty : (state.loop source).pending = []
          · rw [step_read hFinished hEmpty]
            cases hRead : (state.loop source).read with
            | none => cases direction <;> rfl
            | some changed =>
                exact
                  bytes_setLoop
                    (ForwardLoop.bytes_read hEmpty hRead)
                    direction
          · rw [step_read_busy hEmpty]
      | write source count =>
          rw [step_write hFinished]
          exact
            bytes_setLoop
              (ForwardLoop.bytes_write _ count) direction

/- Throughout a run a loop has the bytes of its source. -/
theorem bytes_run
    (client remote : List Bytes)
    (schedule : List ForwardAction)
    (direction : Direction) :
    ((bidirectionalForward client remote schedule).loop
        direction).bytes =
      ((start client remote).loop direction).bytes := by
  have hInvariant :
      ∀ (state : Forwarding) (action : ForwardAction),
        (state.loop direction).bytes =
            ((start client remote).loop direction).bytes →
          ((state.step action).loop direction).bytes =
            ((start client remote).loop direction).bytes := by
    intro state action hBytes
    rw [bytes_step, hBytes]
  exact Runs.run_of_invariant hInvariant schedule rfl

/- Chunks are not empty. -/
def ReadsSomething
    (state : Forwarding) : Prop :=
  ∀ direction, (state.loop direction).ReadsSomething

theorem readsSomething_step
    (state : Forwarding)
    (action : ForwardAction)
    (hReads : state.ReadsSomething) :
    (state.step action).ReadsSomething := by
  have hSet :
      ∀ {direction : Direction} {changed : ForwardLoop},
        changed.ReadsSomething →
          (state.setLoop direction
            changed).ReadsSomething := by
    intro direction changed hChanged other
    rw [loop_setLoop]
    split
    · exact hChanged
    · exact hReads other
  cases hFinished : state.finished with
  | true =>
      rw [step_finished hFinished]
      exact hReads
  | false =>
      cases action with
      | read source =>
          by_cases hEmpty : (state.loop source).pending = []
          · rw [step_read hFinished hEmpty]
            cases hRead : (state.loop source).read with
            | none =>
                intro other
                exact hReads other
            | some changed =>
                exact hSet ((hReads source).read hRead)
          · rw [step_read_busy hEmpty]
            exact hReads
      | write source count =>
          rw [step_write hFinished]
          exact hSet (hReads source)

/-
  A loop that comes to the end of its source does so when
  the other one has nothing left to read or to write.
-/
def StopsNothing
    (state : Forwarding) : ForwardAction → Prop
| .read direction =>
    state.finished = false →
      (state.loop direction).pending = [] →
        (state.loop direction).unread = [] →
          (state.loop direction.other).Drained
| .write _ _ => True

instance
    (state : Forwarding) :
    DecidablePred state.StopsNothing
| .read _ => inferInstanceAs (Decidable (_ → _ → _ → _))
| .write _ _ => inferInstanceAs (Decidable True)

/- What has ended has written everything. -/
def EndsDrained
    (state : Forwarding) : Prop :=
  state.finished = true →
    ∀ direction, (state.loop direction).Drained

/- A loop and the other one are both loops. -/
theorem forall_direction_iff
    {p : Direction → Prop}
    (direction : Direction) :
    (∀ other, p other) ↔
      p direction ∧ p direction.other := by
  constructor
  · intro hAll
    exact ⟨hAll direction, hAll direction.other⟩
  · rintro ⟨hOne, hOther⟩ other
    cases direction <;> cases other
    · exact hOne
    · exact hOther
    · exact hOther
    · exact hOne

theorem endsDrained_step_iff
    (state : Forwarding)
    (action : ForwardAction)
    (hReads : state.ReadsSomething) :
    (state.step action).EndsDrained ↔
      state.EndsDrained ∧ state.StopsNothing action := by
  cases hFinished : state.finished with
  | true =>
      have hStops : state.StopsNothing action := by
        cases action with
        | read direction =>
            intro hRunning
            rw [hFinished] at hRunning
            cases hRunning
        | write direction count => trivial
      rw [step_finished hFinished]
      exact (and_iff_left hStops).symm
  | false =>
      have hNow : state.EndsDrained := by
        intro hEnded
        rw [hFinished] at hEnded
        cases hEnded
      have hRuns :
          ∀ {direction : Direction} {changed : ForwardLoop},
            (state.setLoop direction
              changed).EndsDrained := by
        intro direction changed hEnded
        rw [finished_setLoop, hFinished] at hEnded
        cases hEnded
      rw [and_iff_right hNow]
      cases action with
      | read direction =>
          by_cases hEmpty : (state.loop direction).pending = []
          · rw [step_read hFinished hEmpty]
            cases hRead : (state.loop direction).read with
            | none =>
                have hUnread :=
                  (hReads direction).unread_eq_nil hRead
                have hOwn : (state.loop direction).Drained :=
                  ⟨hEmpty, by rw [hUnread]; rfl⟩
                constructor
                · intro hEnds _ _ _
                  exact hEnds rfl direction.other
                · intro hStops _
                  have hBoth :
                      ∀ other, (state.loop other).Drained :=
                    (forall_direction_iff direction).mpr
                      ⟨hOwn,
                        hStops hFinished hEmpty hUnread⟩
                  exact hBoth
            | some changed =>
                refine iff_of_true hRuns ?_
                intro _ _ hUnread
                unfold ForwardLoop.read at hRead
                rw [hUnread] at hRead
                cases hRead
          · rw [step_read_busy hEmpty]
            refine iff_of_true hNow ?_
            intro _ hNone
            exact absurd hNone hEmpty
      | write direction count =>
          rw [step_write hFinished]
          exact iff_of_true hRuns trivial

theorem readsSomething_start
    {client remote : List Bytes}
    (hClient : ∀ chunk ∈ client, chunk ≠ [])
    (hRemote : ∀ chunk ∈ remote, chunk ≠ []) :
    (start client remote).ReadsSomething := by
  intro direction
  cases direction with
  | toRemote => exact hClient
  | toClient => exact hRemote

/- When both streams get through, by what stops the loops. -/
theorem endsDrained_run_iff
    {client remote : List Bytes}
    (hClient : ∀ chunk ∈ client, chunk ≠ [])
    (hRemote : ∀ chunk ∈ remote, chunk ≠ [])
    (schedule : List ForwardAction) :
    (bidirectionalForward client remote
        schedule).EndsDrained ↔
      Runs.AlongRun step StopsNothing (start client remote)
        schedule := by
  apply
    Runs.run_iff_alongRun_of_invariant readsSomething_step
      endsDrained_step_iff schedule
      (readsSomething_start hClient hRemote)
  intro hEnded
  cases hEnded

end Forwarding

end IsaWorkspace

------------------------------------------------------------
-- Heads
------------------------------------------------------------

namespace IsaWorkspace

/- The end of a line. -/
def crlf : Bytes :=
  asBytes "\r\n"

/-
  A complete head of a CONNECT request: a target, the minor
  version of HTTP and any header fields.
-/
structure ConnectHead where
  target : List Char
  minor : UInt8
  fields : List Bytes
  ascii : Text.IsAscii target
  word : ∀ char ∈ target, Text.isWhitespace char = false

namespace ConnectHead

/- Target and version of the first line. -/
def requestLine
    (head : ConnectHead) : List Char :=
  "CONNECT ".toList ++ (head.target ++ " HTTP/1.".toList)

def bytes
    (head : ConnectHead) : Bytes :=
  asBytes (String.ofList head.requestLine) ++
    (head.minor :: crlf ++
      (head.fields.flatMap (fun field => field ++ crlf) ++
        crlf))

/- No address is printed as nothing. -/
theorem parse_nil :
    SocketAddr.parse [] = none := by
  decide

/- A head asks for its target, whatever follows it. -/
theorem targetAddr_bytes
    (head : ConnectHead)
    {destAddr : SocketAddr}
    (hTarget :
      SocketAddr.parse head.target = some destAddr)
    (early : Bytes) :
    targetAddr (head.bytes ++ early) = some destAddr := by
  have hSome : head.target ≠ [] := by
    intro hNil
    rw [hNil, parse_nil] at hTarget
    cases hTarget
  have hLine : Text.IsAscii head.requestLine :=
    Text.IsAscii.append (by decide)
      (head.ascii.append (by decide))
  have hVersion :
      ∀ text : List Char,
        ∀ char ∈ (" HTTP/1.".toList ++ text).head?,
          Text.isWhitespace char = true := by
    intro text char hChar
    cases hChar
    decide
  unfold bytes
  rw [asBytes_ascii hLine, List.append_assoc]
  unfold requestLine
  rw [targetAddr_connect head.ascii hSome head.word
    (by decide) _ (hVersion _)]
  exact hTarget

theorem bytes_ne_nil
    (head : ConnectHead)
    (early : Bytes) :
    head.bytes ++ early ≠ [] := by
  unfold bytes
  simp

/-
  After a head is read the handler forwards, and what it has
  read behind the head goes nowhere.
-/
theorem handled
    (head : ConnectHead)
    {destAddr : SocketAddr}
    (hTarget :
      SocketAddr.parse head.target = some destAddr)
    {bufferSize : UInt64}
    {client rest : List Bytes}
    {early : Bytes}
    (hRead :
      firstRead bufferSize client =
        some (head.bytes ++ early, rest))
    {network : SocketAddr → Option (List Bytes)}
    {remote : List Bytes}
    (hNetwork : network destAddr = some remote)
    (schedule : List ForwardAction) :
    handleConnectionWithForwarding bufferSize network
        schedule client =
      .connected destAddr
        (bidirectionalForward rest remote schedule) := by
  rw [handleConnection_target hRead
    (head.bytes_ne_nil early)
    (head.targetAddr_bytes hTarget early) network schedule,
    hNetwork]

end ConnectHead

end IsaWorkspace

------------------------------------------------------------
-- Transparency
------------------------------------------------------------

namespace IsaWorkspace

open Forwarding

/-
  The remote got the bytes of the client, and the client
  those of the remote after the response.
-/
structure Transparent
    (handled : Handled)
    (clientBytes remoteBytes : Bytes) : Prop where
  toRemote : handled.remoteBytes = clientBytes
  toClient :
    handled.clientBytes =
      connectionEstablished ++ remoteBytes

instance
    (handled : Handled)
    (clientBytes remoteBytes : Bytes) :
    Decidable
      (Transparent handled clientBytes remoteBytes) :=
  decidable_of_iff
    (handled.remoteBytes = clientBytes ∧
      handled.clientBytes =
        connectionEstablished ++ remoteBytes)
    ⟨fun hBoth => ⟨hBoth.1, hBoth.2⟩,
      fun hIs => ⟨hIs.toRemote, hIs.toClient⟩⟩

/- Both streams got through when both loops are drained. -/
theorem drained_iff
    (client remote : List Bytes)
    (schedule : List ForwardAction) :
    (∀ direction,
        ((bidirectionalForward client remote schedule).loop
          direction).Drained) ↔
      (bidirectionalForward client remote
            schedule).clientToRemote.written =
          client.flatten ∧
        (bidirectionalForward client remote
            schedule).remoteToClient.written =
          remote.flatten := by
  have hClient := bytes_run client remote schedule .toRemote
  have hRemote := bytes_run client remote schedule .toClient
  change _ = client.flatten at hClient
  change _ = remote.flatten at hRemote
  rw [forall_direction_iff .toRemote, ← hClient, ← hRemote]
  exact
    and_congr ForwardLoop.written_eq_bytes_iff.symm
      ForwardLoop.written_eq_bytes_iff.symm

/- No more gets to the remote than came after the head. -/
theorem length_written_le
    (client remote : List Bytes)
    (schedule : List ForwardAction) :
    (bidirectionalForward client remote
        schedule).clientToRemote.written.length ≤
      client.flatten.length := by
  have hClient := bytes_run client remote schedule .toRemote
  change _ = client.flatten at hClient
  rw [← hClient]
  exact
    (ForwardLoop.written_prefix_bytes _).length_le

/-
  The proxy is transparent exactly when the first read is
  the head alone and no loop is stopped that has bytes left.
-/
theorem transparent_iff
    (head : ConnectHead)
    {destAddr : SocketAddr}
    (hTarget :
      SocketAddr.parse head.target = some destAddr)
    {bufferSize : UInt64}
    {client rest : List Bytes}
    {early : Bytes}
    (hRead :
      firstRead bufferSize client =
        some (head.bytes ++ early, rest))
    {network : SocketAddr → Option (List Bytes)}
    {remote : List Bytes}
    (hNetwork : network destAddr = some remote)
    (hClient : ∀ chunk ∈ rest, chunk ≠ [])
    (hRemote : ∀ chunk ∈ remote, chunk ≠ [])
    (schedule : List ForwardAction)
    (hFinished :
      (bidirectionalForward rest remote schedule).finished =
        true) :
    Transparent
        (handleConnectionWithForwarding bufferSize network
          schedule client)
        (early ++ rest.flatten) remote.flatten ↔
      early = [] ∧
        Runs.AlongRun Forwarding.step StopsNothing
          (Forwarding.start rest remote) schedule := by
  have hHandled :=
    head.handled hTarget hRead hNetwork schedule
  have hEnds :
      (∀ direction,
          ((bidirectionalForward rest remote schedule).loop
            direction).Drained) ↔
        Runs.AlongRun Forwarding.step StopsNothing
          (Forwarding.start rest remote) schedule := by
    rw [← endsDrained_run_iff hClient hRemote schedule]
    exact ⟨fun hAll _ => hAll, fun hAll => hAll hFinished⟩
  rw [← hEnds, drained_iff, hHandled]
  constructor
  · rintro ⟨hToRemote, hToClient⟩
    have hLength :=
      length_written_le rest remote schedule
    have hNone : early = [] := by
      change
        (bidirectionalForward rest remote
          schedule).clientToRemote.written =
          _ at hToRemote
      rw [hToRemote, List.length_append] at hLength
      apply List.eq_nil_of_length_eq_zero
      omega
    subst hNone
    exact
      ⟨rfl, hToRemote, List.append_cancel_left hToClient⟩
  · rintro ⟨rfl, hToRemote, hToClient⟩
    exact
      ⟨hToRemote,
        congrArg (connectionEstablished ++ ·) hToClient⟩

/- A request for port 80 of an IPv4 host. -/
def sampleHead : ConnectHead where
  target := "8.8.8.8:80".toList
  minor := 49
  fields := []
  ascii := by decide
  word := by decide

/- A byte each way, and the remote closes when it is done. -/
def sampleSchedule : List ForwardAction :=
  [.read .toRemote, .write .toRemote 1, .read .toClient,
    .write .toClient 1, .read .toClient]

theorem transparent_sample :
    Transparent
      (handleConnectionWithForwarding 65536
        (fun _ => some [[2]]) sampleSchedule
        [sampleHead.bytes, [1]])
      [1] [2] := by
  have hTarget :
      SocketAddr.parse sampleHead.target =
        some (.new (.v4 ⟨8, 8, 8, 8⟩) 80) := by
    decide +kernel
  have hRead :
      firstRead 65536 [sampleHead.bytes, [1]] =
        some (sampleHead.bytes ++ [], [[1]]) := by
    decide +kernel
  have hNetwork :
      (fun _ => some [[2]] : SocketAddr → Option (List Bytes))
          (.new (.v4 ⟨8, 8, 8, 8⟩) 80) =
        some [[2]] := rfl
  have hStops :
      Runs.AlongRun Forwarding.step StopsNothing
        (Forwarding.start [[1]] [[2]]) sampleSchedule := by
    decide
  have hFinished :
      (bidirectionalForward [[1]] [[2]]
        sampleSchedule).finished = true := rfl
  exact
    (transparent_iff sampleHead hTarget hRead hNetwork
      (by decide) (by decide) sampleSchedule hFinished).mpr
      ⟨rfl, hStops⟩

/-
  A byte that comes with the head is lost, and so is what
  the remote sends after the client has closed its side.
-/
theorem transparent_lost :
    ¬ Transparent
        (handleConnectionWithForwarding 65536
          (fun _ => some []) [.read .toRemote]
          [sampleHead.bytes ++ [1]])
        [1] [] ∧
      ¬ Transparent
        (handleConnectionWithForwarding 65536
          (fun _ => some [[2]]) [.read .toRemote]
          [sampleHead.bytes])
        [] [2] := by
  constructor
  · decide +kernel
  · decide +kernel

end IsaWorkspace
