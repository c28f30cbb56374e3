import IsaWorkspace.Model
import IsaWorkspace.Foundations.Interleaving
import IsaWorkspace.Foundations.KeyedList

/-
  Batch operations on states, and their background tasks.

  An operation is run by a task that works on its own copy
  of the result and stores it twice.  The task spawns one
  task for each state, which waits for a permit, and takes
  up their results in the order of the list.  How the tasks
  of the states end is up to the executor.  Each result is
  reported on a channel with room for some updates, and the
  task waits while there is no room.

  Main declarations:
    * `BatchOperation`, `BatchResult`, `BatchStatus`
    * `ProgressChannel`, `ProgressChannel.send`
    * `BatchManager`
    * `BatchManager.updateResult`, `getStatus`, `cancel`
    * `BatchResult.executeDelete`, `collectResults`
    * `ItemTask`, `BatchTask`, `BatchTask.act`
    * `BatchSystem`, `BatchSystem.step`
-/

------------------------------------------------------------
-- Records
------------------------------------------------------------

namespace IsaWorkspace

/- Batch operation type. -/
inductive BatchOperation where
  | delete (stateIds : List StateId)
  | addTags (stateIds : List StateId) (tags : List String)
  | removeTags
      (stateIds : List StateId)
      (tags : List String)
  | updateMetadata
      (stateIds : List StateId)
      (ttlSeconds : Option UInt64)
  | exportStates
      (stateIds : List StateId)
      (format : String)
deriving DecidableEq

/- The states of an operation. -/
def BatchOperation.stateIds :
    BatchOperation → List StateId
| delete stateIds | addTags stateIds _
| removeTags stateIds _ | updateMetadata stateIds _
| exportStates stateIds _ => stateIds

/- Batch operation status. -/
inductive BatchStatus where
  | pending
  | running
  | completed
  | failed
  | cancelled
deriving DecidableEq

/- Batch error. -/
structure BatchError where
  stateId : String
  error : String
deriving DecidableEq

/- Batch operation result. -/
structure BatchResult where
  operationId : String
  status : BatchStatus
  total : Nat
  processed : Nat
  succeeded : Nat
  failed : Nat
  errors : List BatchError
  startedAt : Option DateTime
  completedAt : Option DateTime
deriving DecidableEq

/- Progress update. -/
structure ProgressUpdate where
  operationId : String
  processed : Nat
  total : Nat
  currentState : Option String
deriving DecidableEq

/-
  The channel for updates: what is in it and what has been
  taken out.  It has room for at least one update, and holds
  no more than it has room for.
-/
structure ProgressChannel where
  capacity : Nat
  queue : List ProgressUpdate
  received : List ProgressUpdate
  closed : Bool
  positive : 0 < capacity
  fits : queue.length ≤ capacity

namespace ProgressChannel

/- A channel with room for so many updates. -/
def new
    (capacity : { capacity : Nat // 0 < capacity }) :
    ProgressChannel where
  capacity := capacity.1
  queue := []
  received := []
  closed := false
  positive := capacity.2
  fits := Nat.zero_le _

/- All that was put into the channel. -/
def sent
    (channel : ProgressChannel) : List ProgressUpdate :=
  channel.received ++ channel.queue

/-
  Put an update into the channel, or wait while there is no
  room (`none`).  A closed channel gives it back at once.
-/
def send
    (update : ProgressUpdate)
    (channel : ProgressChannel) : Option ProgressChannel :=
  if channel.closed then
    some channel
  else if hRoom : channel.queue.length < channel.capacity then
    some
      { channel with
        queue := channel.queue ++ [update]
        fits := by
          rw [List.length_append, List.length_singleton]
          exact hRoom }
  else
    none

/- The receiver takes the oldest update out. -/
def recv
    (channel : ProgressChannel) : ProgressChannel :=
  { channel with
    queue := channel.queue.tail
    received := channel.received ++ channel.queue.take 1
    fits := by
      rw [List.length_tail]
      exact (Nat.sub_le _ _).trans channel.fits }

/- The receiver is closed. -/
def close
    (channel : ProgressChannel) : ProgressChannel :=
  { channel with closed := true }

end ProgressChannel

/-
  What awaiting a spawned task gives: what the task has
  returned, or the text of the error that it panicked.
-/
abbrev JoinResult : Type :=
  Except String (Except String Unit)

------------------------------------------------------------
-- Taking Up Results
------------------------------------------------------------

namespace BatchResult

/- One round of the loop over the handles of a deletion. -/
def executeDelete
    (stateId : StateId)
    (joined : JoinResult)
    (result : BatchResult) : BatchResult :=
  let counted : BatchResult :=
    match joined with
    | .ok (.ok _) =>
        { result with succeeded := result.succeeded + 1 }
    | .ok (.error e) =>
        { result with
          failed := result.failed + 1
          errors := result.errors ++ [⟨stateId.id, e⟩] }
    | .error e =>
        { result with
          failed := result.failed + 1
          errors := result.errors ++ [⟨stateId.id, e⟩] }
  { counted with processed := counted.processed + 1 }

/- One round of the loop that the other operations share. -/
def collectResults
    (stateId : StateId)
    (joined : JoinResult)
    (result : BatchResult) : BatchResult :=
  let counted : BatchResult :=
    match joined with
    | .ok (.ok _) =>
        { result with succeeded := result.succeeded + 1 }
    | .ok (.error e) =>
        { result with
          failed := result.failed + 1
          errors := result.errors ++ [⟨stateId.id, e⟩] }
    | .error e =>
        { result with
          failed := result.failed + 1
          errors := result.errors ++ [⟨stateId.id, e⟩] }
  { counted with processed := counted.processed + 1 }

/- What is sent after a round. -/
def progress
    (stateId : StateId)
    (result : BatchResult) : ProgressUpdate where
  operationId := result.operationId
  processed := result.processed
  total := result.total
  currentState := some stateId.id

/- The result that an operation starts from. -/
def initial
    (operation : BatchOperation)
    (uuid : String) : BatchResult where
  operationId := uuid
  status := .pending
  total := operation.stateIds.length
  processed := 0
  succeeded := 0
  failed := 0
  errors := []
  startedAt := none
  completedAt := none

/- The result with which the task begins. -/
def begun
    (result : BatchResult)
    (now : DateTime) : BatchResult :=
  { result with
    status := .running
    startedAt := some now }

/- The result with which the task ends. -/
def concluded
    (result : BatchResult)
    (now : DateTime) : BatchResult :=
  { result with
    status :=
      if 0 < result.failed then .failed else .completed
    completedAt := some now }

end BatchResult

/- The loop of an operation. -/
def BatchOperation.collect :
    BatchOperation → StateId → JoinResult → BatchResult →
      BatchResult
| delete _ => BatchResult.executeDelete
| addTags _ _ | removeTags _ _ | updateMetadata _ _
| exportStates _ _ => BatchResult.collectResults

------------------------------------------------------------
-- The Manager
------------------------------------------------------------

/-
  Batch operation manager.  Of its executor the model keeps
  whether there is one.
-/
structure BatchManager where
  operations : List BatchResult
  maxConcurrent : Nat
  progressTx : Option ProgressChannel
  executor : Bool

namespace BatchManager

/- Store a result in the place of the one with its id. -/
def updateResult
    (result : BatchResult)
    (manager : BatchManager) : BatchManager :=
  { manager with
    operations :=
      KeyedList.replace (·.operationId) manager.operations
        result }

/- Send an update if there is a channel, or wait (`none`). -/
def sendProgress
    (update : ProgressUpdate)
    (manager : BatchManager) : Option BatchManager :=
  match manager.progressTx with
  | none => some manager
  | some channel =>
      (channel.send update).map fun channel =>
        { manager with progressTx := some channel }

/- The receiver of the updates takes one. -/
def receiveProgress
    (manager : BatchManager) : BatchManager :=
  { manager with
    progressTx :=
      manager.progressTx.map ProgressChannel.recv }

/- The receiver of the updates is closed. -/
def closeProgress
    (manager : BatchManager) : BatchManager :=
  { manager with
    progressTx :=
      manager.progressTx.map ProgressChannel.close }

/- Get operation status. -/
def getStatus
    (operationId : String)
    (manager : BatchManager) : Option BatchResult :=
  KeyedList.find (·.operationId) operationId
    manager.operations

/- Cancel an operation. -/
def cancel
    (operationId : String)
    (now : DateTime)
    (manager : BatchManager) : Bool × BatchManager :=
  match manager.getStatus operationId with
  | none => (false, manager)
  | some result =>
      if result.status = .pending ∨
          result.status = .running then
        (true,
          manager.updateResult
            { result with
              status := .cancelled
              completedAt := some now })
      else
        (false, manager)

end BatchManager

------------------------------------------------------------
-- Background Tasks
------------------------------------------------------------

/- Where the task of one state is. -/
inductive ItemStage where
  | waiting
  | holding
  | finished
deriving DecidableEq

/- The task of one state, and how it will end. -/
structure ItemTask where
  stateId : StateId
  joined : JoinResult
  stage : ItemStage

/- Where the task of an operation is. -/
inductive TaskPhase where
  | spawned
  | started
  | collecting (handles : List ItemTask)
  | ended
  | panicked

/-
  The task of an operation, with its own copy of the result
  and how the tasks of the states will end.
-/
structure BatchTask where
  operation : BatchOperation
  ends : Nat → JoinResult
  result : BatchResult
  phase : TaskPhase

/- What one of the tasks does. -/
inductive TaskAction where
  | advance (now : DateTime)
  | acquire (item : Nat)
  | finish (item : Nat)
deriving DecidableEq

/- The most permits that a semaphore can be made with. -/
def Semaphore.maxPermits : Nat :=
  2 ^ 61 - 1

namespace BatchTask

/- The tasks of the states, of which none has a permit. -/
def spawnItems
    (task : BatchTask)
    (executor : Bool) : List ItemTask :=
  task.operation.stateIds.mapIdx fun position stateId =>
    { stateId := stateId
      joined :=
        if executor then task.ends position
        else .ok (.ok ())
      stage := .waiting }

/- How many tasks hold a permit. -/
def permitsTaken
    (handles : List ItemTask) : Nat :=
  handles.countP fun handle =>
    decide (handle.stage = .holding)

/-
  The task goes on: it stores that it runs, spawns the tasks
  of the states, takes up the next result, or stores how the
  operation has ended.  No one else sees its copy while it
  waits to report a result, so it takes it up only then.
-/
def advance
    (now : DateTime)
    (task : BatchTask)
    (manager : BatchManager) : BatchTask × BatchManager :=
  match task.phase with
  | .spawned =>
      let result := task.result.begun now
      ({ task with result := result, phase := .started },
        manager.updateResult result)
  | .started =>
      if Semaphore.maxPermits < manager.maxConcurrent then
        ({ task with phase := .panicked }, manager)
      else
        ({ task with
            phase :=
              .collecting
                (task.spawnItems manager.executor) },
          manager)
  | .collecting [] =>
      let result := task.result.concluded now
      ({ task with result := result, phase := .ended },
        manager.updateResult result)
  | .collecting (handle :: rest) =>
      if handle.stage = .finished then
        let result :=
          task.operation.collect handle.stateId
            handle.joined task.result
        match manager.sendProgress
            (result.progress handle.stateId) with
        | some manager =>
            ({ task with
                result := result
                phase := .collecting rest },
              manager)
        | none => (task, manager)
      else
        (task, manager)
  | .ended | .panicked => (task, manager)

/- The tasks of the states after one has taken a permit. -/
def acquireItem
    (item maxConcurrent : Nat)
    (handles : List ItemTask) : List ItemTask :=
  if permitsTaken handles < maxConcurrent then
    handles.modify item fun handle =>
      if handle.stage = .waiting then
        { handle with stage := .holding }
      else
        handle
  else
    handles

/- The tasks of the states after one has returned. -/
def finishItem
    (item : Nat)
    (handles : List ItemTask) : List ItemTask :=
  handles.modify item fun handle =>
    if handle.stage = .holding then
      { handle with stage := .finished }
    else
      handle

/- The task of the operation, or of a state, goes on. -/
def act
    (action : TaskAction)
    (task : BatchTask)
    (manager : BatchManager) : BatchTask × BatchManager :=
  match action, task.phase with
  | .advance now, _ => advance now task manager
  | .acquire item, .collecting handles =>
      ({ task with
          phase :=
            .collecting
              (acquireItem item manager.maxConcurrent
                handles) },
        manager)
  | .finish item, .collecting handles =>
      ({ task with
          phase := .collecting (finishItem item handles) },
        manager)
  | _, _ => (task, manager)

end BatchTask

------------------------------------------------------------
-- Systems
------------------------------------------------------------

/- A manager and the tasks of its operations. -/
abbrev BatchSystem : Type :=
  Interleaved BatchManager BatchTask

/-
  The calls on the manager, what the tasks do, and what the
  receiver of the updates does.
-/
inductive BatchEvent where
  | execute
      (operation : BatchOperation)
      (uuid : String)
      (ends : Nat → JoinResult)
  | act (position : Nat) (action : TaskAction)
  | cancel (operationId : String) (now : DateTime)
  | getStatus (operationId : String)
  | receive
  | close

namespace BatchSystem

/- Execute a batch operation. -/
def execute
    (operation : BatchOperation)
    (uuid : String)
    (ends : Nat → JoinResult)
    (system : BatchSystem) : BatchSystem :=
  let result := BatchResult.initial operation uuid
  { shared :=
      { system.shared with
        operations := system.shared.operations ++ [result] }
    calls :=
      system.calls ++
        [{ operation := operation
           ends := ends
           result := result
           phase := .spawned }] }

/- One call on the manager, or one step of another party. -/
def step
    (system : BatchSystem) : BatchEvent → BatchSystem
| .execute operation uuid ends =>
    execute operation uuid ends system
| .act position action =>
    Interleaved.step (BatchTask.act action) system position
| .cancel operationId now =>
    { system with
      shared := (system.shared.cancel operationId now).2 }
| .getStatus _ => system
| .receive =>
    { system with shared := system.shared.receiveProgress }
| .close =>
    { system with shared := system.shared.closeProgress }

/- A manager without operations, and with an empty channel. -/
def start
    (maxConcurrent : Nat)
    (executor : Bool)
    (progress : Option { capacity : Nat // 0 < capacity }) :
    BatchSystem where
  shared :=
    { operations := []
      maxConcurrent := maxConcurrent
      progressTx := progress.map ProgressChannel.new
      executor := executor }
  calls := []

end BatchSystem

end IsaWorkspace
