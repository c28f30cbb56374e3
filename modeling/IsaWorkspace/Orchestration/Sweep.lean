import Mathlib.Logic.Relation
import IsaWorkspace.Foundations.RwLock
import IsaWorkspace.Orchestration.Health

/-
  One sweep of the health checks, step by step.

  The sweep takes a read guard of the nodes and keeps it
  while it goes through them.  What comes of a check is
  recorded by calls that take the write guard of the same
  lock, so that the sweep waits for itself at its first
  node.

  Main declarations:
    * `CheckOutcome`, `HelperCall`
    * `SweepPhase`, `SweepState`, `SweepState.step`
    * `SweepState.Reaches`
    * `SweepState.reaches_cases`
    * `SweepState.sweepSafe_iff`
-/

------------------------------------------------------------
-- Checks
------------------------------------------------------------

namespace IsaWorkspace

/- Where the health of a node is asked for. -/
def EdgeNode.healthUrl
    (node : EdgeNode) : String :=
  "http://" ++ String.ofList node.config.address.fmt ++
    "/health"

/- What is answered to a health check. -/
inductive CheckOutcome where
  | healthy (now : DateTime) (health : NodeHealth)
  | unparsable
  | badStatus
  | connectionError

/- A call that changes the nodes under the write guard. -/
inductive HelperCall where
  | updateNodeHealth (now : DateTime) (health : NodeHealth)
  | incrementFailureCount (marks : Bool)
  | markNodeUnhealthy
deriving DecidableEq

/- The call that an answer leads to. -/
def CheckOutcome.call : CheckOutcome → HelperCall
| .healthy now health => .updateNodeHealth now health
| .unparsable => .incrementFailureCount false
| .badStatus => .incrementFailureCount false
| .connectionError => .incrementFailureCount true

/-
  What a call does to the nodes, and the call that comes
  after it, if any; `none` is a panic.
-/
def HelperCall.run
    [BuildProfile]
    (orchestrator : EdgeOrchestrator)
    (nodeId : String) :
    HelperCall →
      Option (Option HelperCall) × EdgeOrchestrator
| .updateNodeHealth now health =>
    (some none, orchestrator.updateNodeHealth now nodeId health)
| .incrementFailureCount marks =>
    let counted := orchestrator.incrementFailureCount nodeId
    (counted.1.map fun failureCount =>
        if marks = true ∧ 3 ≤ failureCount then
          some .markNodeUnhealthy
        else
          none,
      counted.2)
| .markNodeUnhealthy =>
    (some none, orchestrator.markNodeUnhealthy nodeId)

/- What becomes of the nodes by the outcome of one check. -/
def CheckOutcome.apply
    [BuildProfile]
    (orchestrator : EdgeOrchestrator)
    (nodeId : String) : CheckOutcome → EdgeOrchestrator
| .healthy now health =>
    orchestrator.updateNodeHealth now nodeId health
| .unparsable =>
    (orchestrator.incrementFailureCount nodeId).2
| .badStatus =>
    (orchestrator.incrementFailureCount nodeId).2
| .connectionError => orchestrator.failCheck nodeId

------------------------------------------------------------
-- Sweeps
------------------------------------------------------------

/- Where a sweep is, and the nodes it has not visited. -/
inductive SweepPhase where
  | starting
  | visiting (rest : List (String × EdgeNode))
  | waiting
      (nodeId : String) (call : HelperCall)
      (rest : List (String × EdgeNode))
  | writing
      (nodeId : String) (call : HelperCall)
      (rest : List (String × EdgeNode))
  | done
  | panicked
deriving DecidableEq

namespace SweepPhase

/- The read guard lives from the start of the loop to its end. -/
def holdsRead : SweepPhase → Bool
| .starting => false
| .visiting _ => true
| .waiting _ _ _ => true
| .writing _ _ _ => true
| .done => false
| .panicked => false

def awaitsWrite : SweepPhase → Bool
| .waiting _ _ _ => true
| _ => false

end SweepPhase

/- The nodes, their lock and the sweep. -/
structure SweepState where
  orchestrator : EdgeOrchestrator
  lock : RwLock
  phase : SweepPhase
deriving DecidableEq

namespace SweepState

/- A sweep that is about to start. -/
def start
    (orchestrator : EdgeOrchestrator) : SweepState where
  orchestrator := orchestrator
  lock := .free
  phase := .starting

variable [BuildProfile]

/-
  The next step of a sweep over these nodes, if there is one
  and it does not have to wait.
-/
def step
    (check : String → String → CheckOutcome)
    (entries : List (String × EdgeNode))
    (state : SweepState) : Option SweepState :=
  match state.phase with
  | .starting =>
      state.lock.tryRead.map fun lock =>
        { state with lock := lock, phase := .visiting entries }
  | .visiting [] =>
      some
        { state with
          lock := state.lock.dropRead
          phase := .done }
  | .visiting ((nodeId, node) :: rest) =>
      some
        { state with
          phase :=
            .waiting nodeId
              (check nodeId node.healthUrl).call rest }
  | .waiting nodeId call rest =>
      state.lock.tryWrite.map fun lock =>
        { state with
          lock := lock
          phase := .writing nodeId call rest }
  | .writing nodeId call rest =>
      let ran := call.run state.orchestrator nodeId
      let lock := state.lock.dropWrite
      some
        (match ran.1 with
        | none => ⟨ran.2, lock.dropRead, .panicked⟩
        | some none => ⟨ran.2, lock, .visiting rest⟩
        | some (some next) =>
            ⟨ran.2, lock, .waiting nodeId next rest⟩)
  | .done => none
  | .panicked => none

/- The states that a sweep comes to. -/
def Reaches
    (check : String → String → CheckOutcome)
    (entries : List (String × EdgeNode)) :
    SweepState → SweepState → Prop :=
  Relation.ReflTransGen fun before after =>
    before.step check entries = some after

/- The nodes after every outcome has been recorded. -/
def applyAll
    (check : String → String → CheckOutcome)
    (orchestrator : EdgeOrchestrator)
    (entries : List (String × EdgeNode)) :
    EdgeOrchestrator :=
  entries.foldl
    (fun orchestrator entry =>
      (check entry.1 entry.2.healthUrl).apply orchestrator
        entry.1)
    orchestrator

/-
  The sweep never waits for the write guard while it holds a
  read guard, and it ends with every outcome recorded.
-/
def SweepSafe
    (check : String → String → CheckOutcome)
    (orchestrator : EdgeOrchestrator)
    (order : orchestrator.NodeOrder) : Prop :=
  (∀ state,
      Reaches check order.entries (start orchestrator) state →
        ¬ (state.phase.awaitsWrite = true ∧
          state.phase.holdsRead = true)) ∧
    ∃ state,
      Reaches check order.entries (start orchestrator)
          state ∧
        state.phase = .done ∧
        state.orchestrator =
          applyAll check orchestrator order.entries

------------------------------------------------------------
-- The States of a Sweep
------------------------------------------------------------

variable {check : String → String → CheckOutcome}
variable {orchestrator : EdgeOrchestrator}
variable {entries rest : List (String × EdgeNode)}
variable {state : SweepState}

/- Whoever waits to write beside a reader does not go on. -/
theorem step_eq_none_of_readers
    (hWaits : state.phase.awaitsWrite = true)
    (hReaders : 0 < state.lock.readers) :
    state.step check entries = none := by
  rcases state with ⟨orchestrator, lock, phase⟩
  cases phase with
  | waiting nodeId call rest =>
      change Option.map _ lock.tryWrite = none
      rw [RwLock.tryWrite_eq_none_of_readers hReaders]
      rfl
  | _ => cases hWaits

/-
  A sweep comes to its first node and waits there for ever;
  without a node it comes to its end.  It changes no node.
-/
theorem reaches_cases
    (hReaches :
      Reaches check entries (start orchestrator) state) :
    state.orchestrator = orchestrator ∧
      (state = start orchestrator ∨
        (state.lock.readers = 1 ∧
          state.phase = .visiting entries) ∨
        (entries = [] ∧ state.phase = .done) ∨
        ∃ nodeId node rest,
          entries = (nodeId, node) :: rest ∧
            state.lock.readers = 1 ∧
            state.phase =
              .waiting nodeId
                (check nodeId node.healthUrl).call rest) := by
  induction hReaches with
  | refl => exact ⟨rfl, Or.inl rfl⟩
  | @tail before after _ hStep ih =>
      rcases ih with ⟨hSame, hCases⟩
      rcases before with ⟨nodes, lock, phase⟩
      cases hSame
      rcases hCases with
        hStart | ⟨hReaders, hPhase⟩ | ⟨_, hPhase⟩ |
          ⟨nodeId, node, rest, _, hReaders, hPhase⟩
      · cases hStart
        cases hStep
        exact ⟨rfl, Or.inr (Or.inl ⟨rfl, rfl⟩)⟩
      · cases hPhase
        cases entries with
        | nil =>
            cases hStep
            exact ⟨rfl, Or.inr (Or.inr (Or.inl ⟨rfl, rfl⟩))⟩
        | cons entry rest =>
            rcases entry with ⟨nodeId, node⟩
            cases hStep
            exact
              ⟨rfl,
                Or.inr
                  (Or.inr
                    (Or.inr
                      ⟨nodeId, node, rest, rfl, hReaders,
                        rfl⟩))⟩
      · cases hPhase
        cases hStep
      · cases hPhase
        rw [step_eq_none_of_readers rfl
          (hReaders ▸ Nat.zero_lt_one)] at hStep
        cases hStep

/- With a node to check a sweep does not end. -/
theorem not_done_of_reaches
    (hEntries : entries ≠ [])
    (hReaches :
      Reaches check entries (start orchestrator) state) :
    state.phase ≠ .done := by
  rcases reaches_cases hReaches with
    ⟨_, hStart | ⟨_, hPhase⟩ | ⟨hNil, _⟩ |
      ⟨_, _, _, _, _, hPhase⟩⟩
  · rw [hStart]
    nofun
  · rw [hPhase]
    nofun
  · exact absurd hNil hEntries
  · rw [hPhase]
    nofun

/- At its first node a sweep waits to write, reading. -/
theorem reaches_waiting
    (nodeId : String)
    (node : EdgeNode) :
    Reaches check ((nodeId, node) :: rest)
      (start orchestrator)
      { orchestrator := orchestrator
        lock := .read 1
        phase :=
          .waiting nodeId
            (check nodeId node.healthUrl).call rest } := by
  have hEntered :
      Reaches check ((nodeId, node) :: rest)
        (start orchestrator)
        { orchestrator := orchestrator
          lock := .read 1
          phase := .visiting ((nodeId, node) :: rest) } :=
    .single rfl
  exact hEntered.tail rfl

/- Without a node a sweep ends. -/
theorem reaches_done :
    Reaches check [] (start orchestrator)
      { orchestrator := orchestrator
        lock := .free
        phase := .done } := by
  have hEntered :
      Reaches check [] (start orchestrator)
        { orchestrator := orchestrator
          lock := .read 1
          phase := .visiting [] } :=
    .single rfl
  exact hEntered.tail rfl

/-
  A sweep does not block itself exactly when no node is
  registered.
-/
theorem sweepSafe_iff
    (check : String → String → CheckOutcome)
    (orchestrator : EdgeOrchestrator)
    (order : orchestrator.NodeOrder) :
    SweepSafe check orchestrator order ↔
      orchestrator.nodes = ∅ := by
  rw [← HashMap.Iteration.entries_eq_nil_iff order,
    SweepSafe]
  cases order.entries with
  | nil =>
      refine iff_of_true ⟨?_, _, reaches_done, rfl, rfl⟩ rfl
      rintro state hReaches ⟨hWaits, _⟩
      rcases reaches_cases hReaches with
        ⟨_, rfl | ⟨_, hPhase⟩ | ⟨_, hPhase⟩ |
          ⟨_, _, _, hCons, _⟩⟩
      · cases hWaits
      · rw [hPhase] at hWaits
        cases hWaits
      · rw [hPhase] at hWaits
        cases hWaits
      · cases hCons
  | cons entry rest =>
      refine iff_of_false ?_ (List.cons_ne_nil _ _)
      rintro ⟨hNever, _⟩
      exact
        hNever _ (reaches_waiting entry.1 entry.2) ⟨rfl, rfl⟩

end SweepState

end IsaWorkspace

namespace IsaWorkspace

/- One node that has been registered, and its visit. -/
def oneNode : EdgeOrchestrator :=
  EdgeOrchestrator.new.registerNode
    (.createTestNode "node-1" "us-west-2" 10)

def oneNodeOrder : oneNode.NodeOrder :=
  HashMap.Iteration.single "node-1"
    (EdgeNode.createTestNode "node-1" "us-west-2" 10)

namespace SweepState

/- A sweep blocks itself at a node that is not there. -/
theorem sweepSafe_oneNode :
    ¬ @SweepSafe ⟨true⟩ (fun _ _ => .connectionError) oneNode
      oneNodeOrder := by
  rintro ⟨hNever, _⟩
  exact
    hNever _
      (@reaches_waiting ⟨true⟩ _ oneNode [] "node-1"
        (.createTestNode "node-1" "us-west-2" 10))
      ⟨rfl, rfl⟩

end SweepState

end IsaWorkspace
