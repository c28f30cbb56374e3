import IsaWorkspace.Externals
import IsaWorkspace.Foundations.SinglePrecision

/-
  Webhook deliveries.

  For each endpoint that listens to an event the manager
  keeps a record and starts a task, which tries to deliver
  the event and works on a copy of the record.  Lists that
  are shared live on a heap, and whoever shares a list has
  its address.

  Main declarations:
    * `WebhookEvent`, `WebhookEndpoint`, `DeliveryRecord`
    * `SharedLists.getDeliveries`, `SharedLists.writeBack`
    * `DeliveryTask`, `DeliveryTask.attemptOnce`
    * `WebhookManager`, `WebhookStats`, `WebhookSystem`
    * `WebhookSystem.step`
-/

------------------------------------------------------------
-- Events and Endpoints
------------------------------------------------------------

namespace IsaWorkspace

/- Webhook event types. -/
inductive WebhookEvent where
  | stateCreated (stateId label : String)
  | stateResumed (stateId mode : String)
  | stateDeleted (stateId : String)
  | stateForked (stateId fromState : String)
  | stateShared (stateId withUser : String)
  | snapshotCreated (stateId : String) (sizeBytes : Nat)
deriving DecidableEq

/- Get the event type string. -/
def WebhookEvent.eventType : WebhookEvent → String
| .stateCreated _ _ => "state_created"
| .stateResumed _ _ => "state_resumed"
| .stateDeleted _ => "state_deleted"
| .stateForked _ _ => "state_forked"
| .stateShared _ _ => "state_shared"
| .snapshotCreated _ _ => "snapshot_created"

/- Webhook endpoint configuration. -/
structure WebhookEndpoint where
  id : String
  url : String
  secret : String
  events : List String
  active : Bool
  createdAt : DateTime
deriving DecidableEq

/- Whether an endpoint is to hear of events of a type. -/
def WebhookEndpoint.listensTo
    (endpoint : WebhookEndpoint)
    (eventType : String) : Bool :=
  endpoint.events.isEmpty ||
    endpoint.events.any fun event =>
      event = eventType || event = "*"

------------------------------------------------------------
-- Delivery Records
------------------------------------------------------------

/- Webhook delivery status. -/
inductive DeliveryStatus where
  | pending
  | delivered
  | failed (attempts : Nat) (lastError : String)
deriving DecidableEq

/- Webhook delivery record. -/
structure DeliveryRecord where
  id : String
  endpointId : String
  event : WebhookEvent
  status : DeliveryStatus
  attempts : Nat
  createdAt : DateTime
  deliveredAt : Option DateTime
deriving DecidableEq

def DeliveryStatus.isDelivered : DeliveryStatus → Bool
| delivered => true
| pending | failed _ _ => false

def DeliveryStatus.isFailed : DeliveryStatus → Bool
| failed _ _ => true
| pending | delivered => false

def DeliveryStatus.isPending : DeliveryStatus → Bool
| pending => true
| delivered | failed _ _ => false

/- Put a record in the place of the first of its id. -/
def updateRecord
    (delivery : DeliveryRecord) :
    List DeliveryRecord → List DeliveryRecord
| [] => []
| record :: rest =>
    if record.id = delivery.id then
      delivery :: rest
    else
      record :: updateRecord delivery rest

/- The lists that are shared, by address. -/
abbrev SharedLists : Type :=
  List (List DeliveryRecord)

namespace SharedLists

/- The helper for tasks: a new list, at a new address. -/
def getDeliveries
    (heap : SharedLists) : Nat × SharedLists :=
  (heap.length, heap ++ [[]])

/- Update a delivery in the list that the helper returns. -/
def writeBack
    (heap : SharedLists)
    (delivery : DeliveryRecord) : SharedLists :=
  let (address, heap) := getDeliveries heap
  heap.modify address (updateRecord delivery)

end SharedLists

------------------------------------------------------------
-- Delivery with Retry
------------------------------------------------------------

/- What comes of a request. -/
inductive AttemptOutcome where
  | success
  | refused (status : String)
  | unsent (message : String)
deriving DecidableEq

/- The error that an attempt leaves, if it fails. -/
def AttemptOutcome.error? : AttemptOutcome → Option String
| success => none
| refused status => some ("HTTP " ++ status)
| unsent message => some message

/- A task is in its loop, has ended, or has unwound. -/
inductive TaskStatus where
  | running
  | ended
  | panicked
deriving DecidableEq

/-
  A task with its copy of the record, the number of its next
  attempt, and what came of its attempts so far.
-/
structure DeliveryTask where
  endpoint : WebhookEndpoint
  event : WebhookEvent
  delivery : DeliveryRecord
  attempt : Nat
  status : TaskStatus
  outcomes : List AttemptOutcome
deriving DecidableEq

/- The delay before an attempt; `none` is a panic. -/
def delayMs
    [BuildProfile]
    (baseDelayMs : UInt64)
    (attempt : Nat) : Option UInt64 :=
  let power := UInt64.ofNat (2 ^ (attempt - 1))
  if 2 ^ (attempt - 1) < 2 ^ 64 ∨
      BuildProfile.overflowChecks = false then
    checkedMul baseDelayMs power
  else
    none

namespace DeliveryTask

/- One turn of the loop, and what comes behind the last. -/
def attemptOnce
    [BuildProfile]
    (maxRetries : Nat)
    (baseDelayMs : UInt64)
    (outcome : AttemptOutcome)
    (now : DateTime)
    (heap : SharedLists)
    (task : DeliveryTask) : DeliveryTask × SharedLists :=
  match delayMs baseDelayMs task.attempt with
  | none => ({ task with status := .panicked }, heap)
  | some _ =>
      let outcomes := task.outcomes ++ [outcome]
      match outcome.error? with
      | none =>
          let delivery :=
            { task.delivery with
              attempts := task.attempt
              status := .delivered
              deliveredAt := some now }
          ({ task with
              delivery := delivery
              outcomes := outcomes
              status := .ended },
            heap.writeBack delivery)
      | some lastError =>
          let delivery :=
            { task.delivery with
              attempts := task.attempt
              status := .failed task.attempt lastError }
          let heap := heap.writeBack delivery
          if task.attempt < maxRetries then
            ({ task with
                delivery := delivery
                outcomes := outcomes
                attempt := task.attempt + 1 },
              heap)
          else
            ({ task with
                delivery := delivery
                outcomes := outcomes
                status := .ended },
              heap.writeBack delivery)

end DeliveryTask

------------------------------------------------------------
-- The Manager
------------------------------------------------------------

/- Webhook manager; its deliveries are at an address. -/
structure WebhookManager where
  endpoints : List WebhookEndpoint
  deliveries : Nat
  maxRetries : Nat
  baseDelayMs : UInt64

/- Webhook statistics. -/
structure WebhookStats where
  totalEndpoints : Nat
  activeEndpoints : Nat
  totalDeliveries : Nat
  delivered : Nat
  failed : Nat
  pending : Nat
  successRate : F32
deriving DecidableEq

/-
  A manager, the lists that are shared, the calls that still
  have endpoints to notify, and the tasks.
-/
structure WebhookSystem where
  manager : WebhookManager
  heap : SharedLists
  senders : List (WebhookEvent × List WebhookEndpoint)
  tasks : List DeliveryTask

namespace WebhookSystem

/- A new manager. -/
def new
    (maxRetries : Nat)
    (baseDelayMs : UInt64) : WebhookSystem where
  manager := ⟨[], 0, maxRetries, baseDelayMs⟩
  heap := [[]]
  senders := []
  tasks := []

/- The delivery records of the manager. -/
def history
    (system : WebhookSystem) : List DeliveryRecord :=
  (system.heap[system.manager.deliveries]?).getD []

/- Get delivery stats. -/
def getStats
    (system : WebhookSystem) : WebhookStats :=
  let endpoints := system.manager.endpoints
  let deliveries := system.history
  let total := deliveries.length
  let delivered :=
    (deliveries.filter fun d => d.status.isDelivered).length
  { totalEndpoints := endpoints.length
    activeEndpoints :=
      (endpoints.filter fun e => e.active).length
    totalDeliveries := total
    delivered := delivered
    failed :=
      (deliveries.filter fun d => d.status.isFailed).length
    pending :=
      (deliveries.filter fun d => d.status.isPending).length
    successRate :=
      if 0 < total then
        ((F32.ofNat delivered).div (F32.ofNat total)).mul
          (F32.ofNat 100)
      else
        F32.ofNat 0 }

/- Add a webhook endpoint. -/
def addEndpoint
    (system : WebhookSystem)
    (endpoint : WebhookEndpoint) : WebhookSystem :=
  { system with
    manager :=
      { system.manager with
        endpoints :=
          system.manager.endpoints ++ [endpoint] } }

/- Remove a webhook endpoint. -/
def removeEndpoint
    (system : WebhookSystem)
    (endpointId : String) : WebhookSystem :=
  { system with
    manager :=
      { system.manager with
        endpoints :=
          system.manager.endpoints.eraseP fun endpoint =>
            endpoint.id = endpointId } }

/- Send a webhook event: choose the endpoints to notify. -/
def sendEvent
    (system : WebhookSystem)
    (event : WebhookEvent) : WebhookSystem :=
  { system with
    senders :=
      system.senders ++
        [(event,
          system.manager.endpoints.filter fun endpoint =>
            endpoint.active &&
              endpoint.listensTo event.eventType)] }

/- The record of a delivery that has not been tried. -/
def newRecord
    (id : String)
    (endpoint : WebhookEndpoint)
    (event : WebhookEvent)
    (now : DateTime) : DeliveryRecord where
  id := id
  endpointId := endpoint.id
  event := event
  status := .pending
  attempts := 0
  createdAt := now
  deliveredAt := none

/- Record a delivery and start its task. -/
def startDelivery
    (system : WebhookSystem)
    (endpoint : WebhookEndpoint)
    (event : WebhookEvent)
    (id : String)
    (now : DateTime) : WebhookSystem :=
  let delivery := newRecord id endpoint event now
  let heap :=
    system.heap.modify system.manager.deliveries
      (· ++ [delivery])
  let task : DeliveryTask :=
    { endpoint := endpoint
      event := event
      delivery := delivery
      attempt := 1
      status := .running
      outcomes := [] }
  if 0 < system.manager.maxRetries then
    { system with
      heap := heap
      tasks := system.tasks ++ [task] }
  else
    -- the loop has no turn
    { system with
      heap := SharedLists.writeBack heap delivery
      tasks := system.tasks ++ [{ task with status := .ended }] }

/- Notify the next endpoint of a call. -/
def notifyNext
    (system : WebhookSystem)
    (sender : Nat)
    (id : String)
    (now : DateTime) : WebhookSystem :=
  match system.senders[sender]? with
  | some (event, endpoint :: rest) =>
      { system.startDelivery endpoint event id now with
        senders := system.senders.set sender (event, rest) }
  | _ => system

variable [BuildProfile]

/- Let a task make its next attempt. -/
def attempt
    (system : WebhookSystem)
    (index : Nat)
    (outcome : AttemptOutcome)
    (now : DateTime) : WebhookSystem :=
  match system.tasks[index]? with
  | some task =>
      if task.status = .running then
        let result :=
          task.attemptOnce system.manager.maxRetries
            system.manager.baseDelayMs outcome now
            system.heap
        { system with
          heap := result.2
          tasks := system.tasks.set index result.1 }
      else
        system
  | none => system

end WebhookSystem

/- What happens next, in whatever order. -/
inductive WebhookStep where
  | addEndpoint (endpoint : WebhookEndpoint)
  | removeEndpoint (endpointId : String)
  | sendEvent (event : WebhookEvent)
  | notifyNext (sender : Nat) (id : String) (now : DateTime)
  | attempt
      (task : Nat)
      (outcome : AttemptOutcome)
      (now : DateTime)

/- The system after a step. -/
def WebhookSystem.step
    [BuildProfile]
    (system : WebhookSystem) :
    WebhookStep → WebhookSystem
| .addEndpoint endpoint => system.addEndpoint endpoint
| .removeEndpoint endpointId =>
    system.removeEndpoint endpointId
| .sendEvent event => system.sendEvent event
| .notifyNext sender id now =>
    system.notifyNext sender id now
| .attempt task outcome now =>
    system.attempt task outcome now

end IsaWorkspace
