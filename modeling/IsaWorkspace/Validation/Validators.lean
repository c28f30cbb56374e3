import IsaWorkspace.Api.Handlers
import IsaWorkspace.Foundations.Text

/-
  Validators of request fields.

  A validator collects the errors of a field and returns them
  if there are any.  Positions in a text are found by
  counting characters, and slices are taken by bytes.

  Main declarations:
    * `ValidationErrors`
    * `validateTtl`, `parseTtlSliced`
    * `validateFilePath`
-/

------------------------------------------------------------
-- Errors
------------------------------------------------------------

namespace IsaWorkspace

/- Validation rules. -/
inductive ValidationRule where
  | required
  | minLength
  | maxLength
  | format
  | range
  | pattern
  | pathTraversal
  | invalidCharacter
deriving DecidableEq

structure ValidationError where
  field : String
  message : String
  rule : ValidationRule
deriving DecidableEq

/- Validation errors collection. -/
structure ValidationErrors where
  errors : List ValidationError
deriving DecidableEq

namespace ValidationErrors

def new : ValidationErrors where
  errors := []

def add
    (collected : ValidationErrors)
    (field message : String)
    (rule : ValidationRule) : ValidationErrors :=
  { collected with
    errors :=
      collected.errors ++
        [{ field := field, message := message, rule := rule }] }

def isEmpty
    (collected : ValidationErrors) : Bool :=
  collected.errors.isEmpty

/- A field with errors is refused. -/
def refuseOr
    {α : Type}
    (collected : ValidationErrors)
    (value : α) : Outcome ValidationErrors α :=
  if collected.isEmpty then .ok value else .err collected

end ValidationErrors

end IsaWorkspace

------------------------------------------------------------
-- Times to Live
------------------------------------------------------------

namespace IsaWorkspace

/- Find where digits end, in characters. -/
def ttlNumEnd
    (ttl : String) : Nat :=
  (ttl.toList.findIdx? fun char =>
    !Numeral.isDigit 10 char).getD ttl.toList.length

/- The range of a TTL, one minute to 365 days. -/
def ttlRange
    (seconds : UInt64) : ValidationErrors :=
  let errors :=
    if seconds < 60 then
      ValidationErrors.new.add "ttl"
        "TTL must be at least 1 minute" .range
    else
      ValidationErrors.new
  if seconds > 365 * 86400 then
    errors.add "ttl" "TTL must be at most 365 days" .range
  else
    errors

/- The seconds of a unit, to the validator. -/
def validateTtlUnit : String → Option UInt64
| "s" | "sec" | "secs" | "second" | "seconds" => some 1
| "m" | "min" | "mins" | "minute" | "minutes" => some 60
| "h" | "hr" | "hrs" | "hour" | "hours" => some 3600
| "d" | "day" | "days" => some 86400
| "w" | "week" | "weeks" => some 604800
| _ => none

/-
  Validate TTL format and range.  A slice that is off a
  character boundary panics.
-/
def validateTtl
    [BuildProfile] :
    Option String →
      Outcome ValidationErrors (Option UInt64)
| none => .ok none
| some ttl =>
    if ttl = "" then
      .ok none
    else if ttl.toList = [] then
      .err
        (.add .new "ttl" "Invalid TTL format" .format)
    else if ttlNumEnd ttl = 0 then
      .err
        (.add .new "ttl" "TTL must start with a number"
          .format)
    else
      match LocalBackend.byteSlice (ttlNumEnd ttl)
          ttl.toList with
      | none => .panicked
      | some digits =>
          match Numeral.parseUnsigned (2 ^ 64) digits with
          | none =>
              .err
                (.add .new "ttl" "Invalid TTL number" .format)
          | some num =>
              match Text.sliceFrom (ttlNumEnd ttl)
                  ttl.toList with
              | none => .panicked
              | some unit =>
                  match validateTtlUnit
                      (String.ofList unit) with
                  | none =>
                      .err
                        (.add .new "ttl"
                          "Invalid TTL unit. Valid units: s, m, h, d, w"
                          .format)
                  | some factor =>
                      match checkedMul (UInt64.ofNat num)
                          factor with
                      | none => .panicked
                      | some seconds =>
                          (ttlRange seconds).refuseOr
                            (some seconds)

/-
  Parse a TTL as the handlers do, with the slices that are
  taken on the way.
-/
def parseTtlSliced
    [BuildProfile] :
    Option String → Outcome Refusal (Option UInt64)
| none => .ok none
| some text =>
    if text = "" then
      .ok none
    else if text.toList = [] then
      .err (refusal .badRequest "Invalid TTL format")
    else if ttlNumEnd text = 0 then
      .err
        (refusal .badRequest
          "Invalid TTL format: missing number")
    else
      match LocalBackend.byteSlice (ttlNumEnd text)
          text.toList with
      | none => .panicked
      | some digits =>
          match Numeral.parseUnsigned (2 ^ 64) digits with
          | none =>
              .err
                (refusal .badRequest
                  "Invalid TTL format: invalid number")
          | some num =>
              match Text.sliceFrom (ttlNumEnd text)
                  text.toList with
              | none => .panicked
              | some unit =>
                  match parseTtlUnit
                      (String.ofList unit) with
                  | none =>
                      .err
                        (refusal .badRequest
                          ("Invalid TTL unit: " ++
                            String.ofList unit))
                  | some factor =>
                      match checkedMul (UInt64.ofNat num)
                          factor with
                      | none => .panicked
                      | some seconds => .ok (some seconds)

end IsaWorkspace

------------------------------------------------------------
-- File Paths
------------------------------------------------------------

namespace IsaWorkspace

/- The errors of a file path, in the order they are added. -/
def filePathErrors
    (canonicalize : String → Option (List String))
    (path baseDir : String) : ValidationErrors :=
  let errors : ValidationErrors :=
    if 512 < path.utf8ByteSize then
      .add .new "path" "Path must be 512 characters or less"
        .maxLength
    else
      .new
  let errors :=
    if ['.', '.'] <:+: path.toList then
      errors.add "path" "Path traversal (..) is not allowed"
        .pathTraversal
    else
      errors
  match canonicalize path, canonicalize baseDir with
  | some canonical, some canonicalBase =>
      if canonicalBase <+: canonical then
        errors
      else
        errors.add "path"
          "Path must be within the allowed directory"
          .pathTraversal
  | _, _ => errors

/-
  Validate file path (no path traversal).  A path is resolved
  to the names that lead to it from the root, if there is
  something at it.
-/
def validateFilePath
    (canonicalize : String → Option (List String))
    (path baseDir : String) :
    Outcome ValidationErrors Unit :=
  if path = "" then
    .err (.add .new "path" "Path is required" .required)
  else
    (filePathErrors canonicalize path baseDir).refuseOr ()

end IsaWorkspace
