import IsaWorkspace.Foundations.Numerals
import IsaWorkspace.StateStore.Operations

/-
  Handlers of the API.

  A handler returns a response or a refusal with a status
  code.  Time and fresh identifiers are arguments.

  Main declarations:
    * `StatusCode`, `ApiErrorResponse`, `Refusal`
    * `parseTtlUnit`, `parseTtl`
    * `ForkRequest`, `forkedState`, `forkState`
-/

------------------------------------------------------------
-- Refusals
------------------------------------------------------------

namespace IsaWorkspace

/- The status codes of refusals. -/
inductive StatusCode where
  | badRequest
  | notFound
  | internalServerError
deriving DecidableEq

structure ApiErrorResponse where
  error : String
deriving DecidableEq

/- What a handler answers when it does not respond. -/
abbrev Refusal : Type :=
  StatusCode × ApiErrorResponse

def refusal
    (code : StatusCode)
    (error : String) : Refusal :=
  (code, { error := error })

/- The text of an error of the store. -/
def StateStoreError.text : StateStoreError → String
| .ioError message => "IO error: " ++ message
| .serializationError message =>
    "Serialization error: " ++ message
| .notFound message => "Not found: " ++ message
| .alreadyExists message => "Already exists: " ++ message
| .corrupted message => "Corrupted data: " ++ message

end IsaWorkspace

------------------------------------------------------------
-- Times to Live
------------------------------------------------------------

namespace IsaWorkspace

/- The seconds of a unit, to the handlers. -/
def parseTtlUnit : String → Option UInt64
| "s" | "sec" | "secs" | "second" | "seconds" => some 1
| "m" | "min" | "mins" | "minute" | "minutes" => some 60
| "h" | "hr" | "hrs" | "hour" | "hours" => some 3600
| "d" | "day" | "days" => some 86400
| "w" | "week" | "weeks" => some 604800
| _ => none

/- The digits at the front of a text, and what comes after. -/
def ttlDigits
    (text : String) : List Char :=
  text.toList.takeWhile (Numeral.isDigit 10)

def ttlUnit
    (text : String) : String :=
  String.ofList (text.toList.dropWhile (Numeral.isDigit 10))

/-
  Parse a TTL such as "24h" or "7d" to seconds.  A number of
  seconds is taken as it is, which a product with one is.
-/
def parseTtl
    [BuildProfile] :
    Option String → Outcome Refusal (Option UInt64)
| none => .ok none
| some text =>
    if text = "" then
      .ok none
    else if ttlDigits text = [] then
      .err
        (refusal .badRequest
          "Invalid TTL format: missing number")
    else if 2 ^ 64 ≤ Numeral.value 10 (ttlDigits text) then
      .err
        (refusal .badRequest
          "Invalid TTL format: invalid number")
    else
      match parseTtlUnit (ttlUnit text) with
      | none =>
          .err
            (refusal .badRequest
              ("Invalid TTL unit: " ++ ttlUnit text))
      | some factor =>
          match checkedMul
              (UInt64.ofNat
                (Numeral.value 10 (ttlDigits text)))
              factor with
          | none => .panicked
          | some seconds => .ok (some seconds)

end IsaWorkspace

------------------------------------------------------------
-- Forks
------------------------------------------------------------

namespace IsaWorkspace

structure ForkRequest where
  stateId : String
  label : Option String

structure ForkResponse where
  stateId : String
deriving DecidableEq

/-
  What a fork is given from outside: an id, printed as text,
  a stream and the three readings of the clock.
-/
structure ForkFresh where
  stateId : String
  stream : Uuid
  createdAt : DateTime
  now : DateTime
  storedAt : DateTime

/- A copy of a state under a new id. -/
def forkedState
    (payload : ForkRequest)
    (fresh : ForkFresh)
    (original : State) : State where
  stateId := ⟨fresh.stateId⟩
  vmConfig := original.vmConfig
  cpuState := original.cpuState
  memoryManifest := original.memoryManifest
  fdTable := original.fdTable
  socketTable := original.socketTable
  deviceState := original.deviceState
  deterministicLog := original.deterministicLog
  uiState := { streamId := fresh.stream }
  metadata :=
    { label :=
        payload.label.getD
          ("fork-of-" ++ original.metadata.label)
      createdAt := fresh.createdAt
      ttlSeconds := original.metadata.ttlSeconds }

/- Fork an existing state. -/
def forkState
    {B : Type}
    [StorageBackendTrait B] [Sha256] [SerdeJson State]
    (payload : ForkRequest)
    (fresh : ForkFresh) :
    Exec (StateStore B) Refusal ForkResponse := do
  if payload.stateId = "" then
    Exec.fail (refusal .badRequest "state_id is required")
  else
    let original ←
      Exec.mapErr
        (fun error =>
          refusal .notFound
            ("State not found: " ++ error.text))
        (StateStore.getState ⟨payload.stateId⟩)
    let _ ←
      Exec.mapErr
        (fun error =>
          refusal .internalServerError
            ("Failed to store forked state: " ++
              error.text))
        (StateStore.storeState fresh.now fresh.storedAt
          (forkedState payload fresh original))
    pure { stateId := fresh.stateId }

end IsaWorkspace
