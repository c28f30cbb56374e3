import IsaWorkspace.Foundations.Hex
import Mathlib.Data.Set.Function

/-
  What the crate takes from its dependencies.

  SHA-256 and JSON are parameters of the model: `Sha256` is
  a digest function of thirty-two bytes and `SerdeJson` a
  pair of partial conversions.  Time is the calendar crate's
  range of UTC instants, counted in nanoseconds since the
  Unix epoch; leaving that range is a panic there and `none`
  here.  How an instant is printed is a parameter too.

  Main declarations:
    * `Sha256`, `sha256Hex`, `digestOf`
    * `SerdeJson`
    * `BuildProfile`, `checkedAdd`, `checkedMul`
    * `DateTime`, `DateTime.addSeconds`, `DateTime.addHours`
    * `TimeDelta`, `DateTime.addDelta`, `DateTime.subDelta`
    * `Rfc3339`
-/

------------------------------------------------------------
-- Digests
------------------------------------------------------------

namespace IsaWorkspace

/- The SHA-256 function. -/
class Sha256 where
  digest : Bytes → Vector UInt8 32

/- The digest a number spells, high byte first. -/
def digestOf
    (value : Nat) : Vector UInt8 32 :=
  ⟨(beBytes 32 value).toArray, by simp⟩

/- The digest of a byte string as hexadecimal text. -/
def sha256Hex
    [Sha256]
    (data : Bytes) : String :=
  hexEncode (Sha256.digest data).toList

/- Every hexadecimal digest has sixty-four characters. -/
@[simp] theorem sha256Hex_length
    [Sha256]
    (data : Bytes) :
    (sha256Hex data).length = 64 := by
  simp [sha256Hex, hexEncode_length]

/- Data that was hashed without collisions is determined. -/
theorem eq_of_sha256Hex
    [Sha256]
    {hashed : Set Bytes}
    (hInjective : Set.InjOn Sha256.digest hashed)
    {data other : Bytes}
    (hData : data ∈ hashed)
    (hOther : other ∈ hashed)
    (hHash : sha256Hex data = sha256Hex other) :
    data = other :=
  hInjective hData hOther
    (Vector.toList_inj.mp (hexEncode_injective hHash))

/- No digest is the empty text. -/
@[simp] theorem sha256Hex_ne_empty
    [Sha256]
    (data : Bytes) :
    sha256Hex data ≠ "" := by
  intro hEq
  have hLength := sha256Hex_length data
  rw [hEq] at hLength
  cases hLength

end IsaWorkspace

------------------------------------------------------------
-- JSON
------------------------------------------------------------

namespace IsaWorkspace

/- JSON bytes of a value, and back; both may fail. -/
class SerdeJson (α : Type) where
  toVec : α → Except String Bytes
  fromSlice : Bytes → Except String α

end IsaWorkspace

------------------------------------------------------------
-- Machine Integers
------------------------------------------------------------

namespace IsaWorkspace

/-
  The profile the crate is built with: a debug build checks
  integer overflow, a release build wraps.
-/
class BuildProfile where
  overflowChecks : Bool

/- Addition as the build does it; `none` is a panic. -/
def checkedAdd
    [BuildProfile]
    (left right : UInt64) : Option UInt64 :=
  if left.toNat + right.toNat < 2 ^ 64 then
    some (left + right)
  else if BuildProfile.overflowChecks then
    none
  else
    some (left + right)

/- Addition of half words; `none` is a panic. -/
def checkedAddU32
    [BuildProfile]
    (left right : UInt32) : Option UInt32 :=
  if left.toNat + right.toNat < 2 ^ 32 then
    some (left + right)
  else if BuildProfile.overflowChecks then
    none
  else
    some (left + right)

/- Addition of quarter words; `none` is a panic. -/
def checkedAddU16
    [BuildProfile]
    (left right : UInt16) : Option UInt16 :=
  if left.toNat + right.toNat < 2 ^ 16 then
    some (left + right)
  else if BuildProfile.overflowChecks then
    none
  else
    some (left + right)

/- Multiplication as the build does it; `none` is a panic. -/
def checkedMul
    [BuildProfile]
    (left right : UInt64) : Option UInt64 :=
  if left.toNat * right.toNat < 2 ^ 64 then
    some (left * right)
  else if BuildProfile.overflowChecks then
    none
  else
    some (left * right)

/- Subtraction as the build does it; `none` is a panic. -/
def checkedSub
    [BuildProfile]
    (left right : UInt64) : Option UInt64 :=
  if right ≤ left then
    some (left - right)
  else if BuildProfile.overflowChecks then
    none
  else
    some (left - right)

/-
  What is said of a word that there may be is decided at
  that word, before any way that goes through all words.
-/
instance (priority := 2000) decidableForallWord
    {p : UInt64 → Prop}
    [DecidablePred p]
    (word : Option UInt64) :
    Decidable (∀ value ∈ word, p value) :=
  Option.decidableForallMem word

/- Addition within range is exact in every build. -/
theorem checkedAdd_of_lt
    [BuildProfile]
    {left right : UInt64}
    (hRange : left.toNat + right.toNat < 2 ^ 64) :
    ∃ sum, checkedAdd left right = some sum ∧
      sum.toNat = left.toNat + right.toNat := by
  refine ⟨left + right, if_pos hRange, ?_⟩
  rw [UInt64.toNat_add]
  exact Nat.mod_eq_of_lt hRange

/- A sum is returned where it fits or may wrap. -/
theorem checkedAdd_eq_some
    [BuildProfile]
    {left right : UInt64}
    (hWord :
      BuildProfile.overflowChecks = false ∨
        left.toNat + right.toNat < 2 ^ 64) :
    checkedAdd left right = some (left + right) := by
  unfold checkedAdd
  by_cases hRange : left.toNat + right.toNat < 2 ^ 64
  · exact if_pos hRange
  · have hWraps := hWord.resolve_right hRange
    rw [if_neg hRange, hWraps]
    rfl

/- A product is returned where it fits or may wrap. -/
theorem checkedMul_eq_some
    [BuildProfile]
    {left right : UInt64}
    (hWord :
      BuildProfile.overflowChecks = false ∨
        left.toNat * right.toNat < 2 ^ 64) :
    checkedMul left right = some (left * right) := by
  unfold checkedMul
  by_cases hRange : left.toNat * right.toNat < 2 ^ 64
  · exact if_pos hRange
  · have hWraps := hWord.resolve_right hRange
    rw [if_neg hRange, hWraps]
    rfl

/- A difference is returned where it fits or may wrap. -/
theorem checkedSub_eq_some
    [BuildProfile]
    {left right : UInt64}
    (hWord :
      BuildProfile.overflowChecks = false ∨ right ≤ left) :
    checkedSub left right = some (left - right) := by
  unfold checkedSub
  by_cases hRange : right ≤ left
  · exact if_pos hRange
  · have hWraps := hWord.resolve_right hRange
    rw [if_neg hRange, hWraps]
    rfl

/- A product that does not fit panics where it is checked. -/
theorem checkedMul_eq_none
    [BuildProfile]
    {left right : UInt64}
    (hChecks : BuildProfile.overflowChecks = true)
    (hProduct : 2 ^ 64 ≤ left.toNat * right.toNat) :
    checkedMul left right = none := by
  unfold checkedMul
  rw [if_neg (Nat.not_lt_of_le hProduct), if_pos hChecks]

/- A sum that is returned is the one of the machine words. -/
theorem eq_add_of_checkedAdd
    [BuildProfile]
    {left right sum : UInt64}
    (hSum : checkedAdd left right = some sum) :
    sum = left + right := by
  unfold checkedAdd at hSum
  split at hSum
  · exact (Option.some.inj hSum).symm
  · split at hSum
    · cases hSum
    · exact (Option.some.inj hSum).symm

/- A checking build never returns an inexact sum. -/
theorem toNat_of_checkedAdd
    [BuildProfile]
    {left right sum : UInt64}
    (hSum : checkedAdd left right = some sum)
    (hExact :
      BuildProfile.overflowChecks = true ∨
        left.toNat + right.toNat < 2 ^ 64) :
    sum.toNat = left.toNat + right.toNat := by
  by_cases hRange : left.toNat + right.toNat < 2 ^ 64
  · rcases checkedAdd_of_lt hRange with
      ⟨exact', hEq, hValue⟩
    rw [hSum] at hEq
    cases hEq
    exact hValue
  · rcases hExact with hChecks | hLt
    · unfold checkedAdd at hSum
      rw [if_neg hRange, if_pos hChecks] at hSum
      cases hSum
    · exact absurd hLt hRange

end IsaWorkspace

------------------------------------------------------------
-- Time
------------------------------------------------------------

namespace IsaWorkspace

/- A UTC instant in nanoseconds since the Unix epoch. -/
structure DateTime where
  nanos : Int
  inRange :
    -8334601228800000000000 ≤ nanos ∧
      nanos ≤ 8210266876799999999999
deriving DecidableEq

namespace DateTime

instance : LT DateTime where
  lt earlier later := earlier.nanos < later.nanos

instance
    (earlier later : DateTime) :
    Decidable (earlier < later) :=
  inferInstanceAs
    (Decidable (earlier.nanos < later.nanos))

instance : LE DateTime where
  le earlier later := earlier.nanos ≤ later.nanos

instance
    (earlier later : DateTime) :
    Decidable (earlier ≤ later) :=
  inferInstanceAs
    (Decidable (earlier.nanos ≤ later.nanos))

instance : Min DateTime where
  min first second :=
    if first ≤ second then first else second

instance : Max DateTime where
  max first second :=
    if first ≤ second then second else first

/- The start of 1970. -/
def unixEpoch : DateTime :=
  ⟨0, by decide⟩

/- The instant of a nanosecond count, if it is in range. -/
def ofNanos?
    (nanos : Int) : Option DateTime :=
  if h :
      -8334601228800000000000 ≤ nanos ∧
        nanos ≤ 8210266876799999999999 then
    some ⟨nanos, h⟩
  else
    none

/-
  A duration of whole seconds in nanoseconds.  The duration
  type counts milliseconds in a signed word, which bounds
  the seconds it can hold; beyond them the call panics.
-/
def durationSeconds
    (seconds : Int64) : Option Int :=
  if -9223372036854775 ≤ seconds.toInt ∧
      seconds.toInt ≤ 9223372036854775 then
    some (seconds.toInt * 1000000000)
  else
    none

/- An instant later by whole seconds; `none` is a panic. -/
def addSeconds
    (start : DateTime)
    (seconds : Int64) : Option DateTime :=
  (durationSeconds seconds).bind fun nanos =>
    ofNanos? (start.nanos + nanos)

/-
  A duration of whole hours in nanoseconds.  The seconds
  are counted in a signed word, too.
-/
def durationHours
    (hours : Int64) : Option Int :=
  if -9223372036854775808 ≤ hours.toInt * 3600 ∧
      hours.toInt * 3600 ≤ 9223372036854775807 then
    durationSeconds (Int64.ofInt (hours.toInt * 3600))
  else
    none

/- An instant later by whole hours; `none` is a panic. -/
def addHours
    (start : DateTime)
    (hours : Int64) : Option DateTime :=
  (durationHours hours).bind fun nanos =>
    ofNanos? (start.nanos + nanos)

end DateTime

/-
  A signed duration in nanoseconds, within the milliseconds
  that a signed word can count.
-/
structure TimeDelta where
  nanos : Int
  inRange :
    -9223372036854775807000000 ≤ nanos ∧
      nanos ≤ 9223372036854775807000000
deriving DecidableEq

namespace DateTime

/- An instant later by a duration; `none` is a panic. -/
def addDelta
    (start : DateTime)
    (duration : TimeDelta) : Option DateTime :=
  ofNanos? (start.nanos + duration.nanos)

/- An instant earlier by a duration; `none` is a panic. -/
def subDelta
    (start : DateTime)
    (duration : TimeDelta) : Option DateTime :=
  ofNanos? (start.nanos - duration.nanos)

end DateTime

/- The text of an instant. -/
class Rfc3339 where
  toRfc3339 : DateTime → String

end IsaWorkspace
