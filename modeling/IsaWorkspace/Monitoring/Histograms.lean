import IsaWorkspace.Externals
import IsaWorkspace.Foundations.Exec
import IsaWorkspace.Foundations.HashMap
import IsaWorkspace.Foundations.Runs
import Mathlib.Algebra.Order.Floor.Ring
import Mathlib.Algebra.Order.Monoid.Unbundled.WithTop
import Mathlib.Data.Rat.Floor
import Mathlib.Order.WithBot

/-
  Histograms of observed values.

  A bucket counts the values up to its bound; the last bound
  is infinite.  A quantile is read from the first bucket
  that counts enough values, where what is enough has been
  rounded down.  The values are of any type with the
  operations of floating-point numbers, and quantiles are
  judged with exact numbers.

  Main declarations:
    * `DoublePrecision`
    * `HistogramData`, `HistogramData.observe`
    * `MetricsRegistry.observe`, `calculateQuantile`
    * `HistogramData.foldl_observed`
    * `MetricsRegistry.lookup_run`
    * `MetricsRegistry.QuantileIsLeast`
    * `MetricsRegistry.quantileIsLeast_iff`
-/

------------------------------------------------------------
-- Numbers
------------------------------------------------------------

namespace IsaWorkspace

/-
  What the metrics do with double-precision numbers: their
  literals, their operations, and the casts of 64-bit words.
-/
class DoublePrecision (R : Type) where
  ofRat : Rat → R
  infinity : R
  le : R → R → Bool
  add : R → R → R
  mul : R → R → R
  div : R → R → R
  ofU64 : UInt64 → R
  toU64 : R → UInt64

/- A cast to a word rounds down, and stops at the largest. -/
def castU64
    (value : Rat) : UInt64 :=
  UInt64.ofNat (min value.floor.toNat (2 ^ 64 - 1))

/- Exact numbers, with infinity above them. -/
instance : DoublePrecision (WithTop Rat) where
  ofRat value := value
  infinity := ⊤
  le left right := decide (left ≤ right)
  add left right := left + right
  mul
    | .some left, .some right => .some (left * right)
    | _, _ => ⊤
  div
    | .some left, .some right => .some (left / right)
    | .some _, ⊤ => .some 0
    | ⊤, _ => ⊤
  ofU64 word := ((word.toNat : Rat) : WithTop Rat)
  toU64
    | .some value => castU64 value
    | ⊤ => UInt64.ofNat (2 ^ 64 - 1)

------------------------------------------------------------
-- Histograms
------------------------------------------------------------

open DoublePrecision

/- Histogram data for summaries. -/
structure HistogramData (R : Type) where
  count : UInt64
  sum : R
  -- The bound of a bucket, and its cumulative count.
  buckets : List (R × UInt64)
deriving DecidableEq

variable {R : Type} [DoublePrecision R]

namespace HistogramData

/- The bounds of all buckets. -/
def bounds (R : Type) [DoublePrecision R] : List R :=
  ([1 / 1000, 1 / 200, 1 / 100, 1 / 40, 1 / 20, 1 / 10, 1 / 4,
      1 / 2, 1, 5 / 2, 5, 10] : List Rat).map ofRat ++
    [infinity]

def new : HistogramData R where
  count := 0
  sum := ofRat 0
  buckets := (bounds R).map fun bound => (bound, 0)

variable [BuildProfile]

/-
  Update buckets: count a value in all that it is within,
  until a count panics.
-/
def updateBuckets
    (value : R) : Exec (List (R × UInt64)) Empty Unit
| [] => (.ok (), [])
| (bound, count) :: rest =>
    let counted :=
      if le value bound then checkedAdd count 1
      else some count
    match counted with
    | none => (.panicked, (bound, count) :: rest)
    | some count =>
        let others := updateBuckets value rest
        (others.1, (bound, count) :: others.2)

/- Count a value, and add it to the sum. -/
def observe
    (value : R) : Exec (HistogramData R) Empty Unit := do
  let data ← Exec.read
  let count ← Exec.orPanic (checkedAdd data.count 1)
  Exec.update fun data =>
    { data with
      count := count
      sum := add data.sum value }
  Exec.onPart buckets
    (fun data buckets => { data with buckets := buckets })
    (updateBuckets value)

/- The data after a value, whether or not a count panics. -/
def observed
    (data : HistogramData R)
    (value : R) : HistogramData R :=
  (observe value data).2

end HistogramData

/- Metrics registry, as far as histograms go. -/
structure MetricsRegistry (R : Type) where
  histograms : HashMap String (HistogramData R)

namespace MetricsRegistry

def new : MetricsRegistry R where
  histograms := ∅

/- Observe a histogram value. -/
def observe
    [BuildProfile]
    (name : String)
    (value : R) : Exec (MetricsRegistry R) Empty Unit :=
  Exec.onPart
    (fun registry =>
      (registry.histograms.lookup name).getD
        HistogramData.new)
    (fun registry data =>
      { histograms := registry.histograms.insert name data })
    (HistogramData.observe value)

/- The registry after a value. -/
def observed
    [BuildProfile]
    (registry : MetricsRegistry R)
    (observation : String × R) : MetricsRegistry R :=
  (observe observation.1 observation.2 registry).2

/- The bound of the first bucket that counts enough. -/
def calculateQuantile
    (buckets : List (R × UInt64))
    (total : UInt64)
    (quantile : R) : R :=
  let target := toU64 (mul (ofU64 total) quantile)
  match buckets.find? fun bucket =>
    decide (target ≤ bucket.2) with
  | some bucket => bucket.1
  | none => (buckets.getLast?.map Prod.fst).getD infinity

end MetricsRegistry

end IsaWorkspace

------------------------------------------------------------
-- Counted Values
------------------------------------------------------------

namespace IsaWorkspace

open DoublePrecision

variable {R : Type} [DoublePrecision R]

namespace HistogramData

/- How many of the values are within a bound. -/
def countWithin
    (values : List R)
    (bound : R) : Nat :=
  values.countP fun value => le value bound

/- The data of a histogram that has counted the values. -/
def counted
    (values : List R) : HistogramData R where
  count := UInt64.ofNat values.length
  sum := values.foldl add (ofRat 0)
  buckets :=
    (bounds R).map fun bound =>
      (bound, UInt64.ofNat (countWithin values bound))

variable [BuildProfile]

/- The buckets with one value more, if no count panics. -/
theorem updateBuckets_of_ok
    {value : R}
    {buckets : List (R × UInt64)}
    (hOk : (updateBuckets value buckets).1 = .ok ()) :
    (updateBuckets value buckets).2 =
      buckets.map fun bucket =>
        if le value bucket.1 then (bucket.1, bucket.2 + 1)
        else bucket := by
  induction buckets with
  | nil => rfl
  | cons bucket rest ih =>
      rcases bucket with ⟨bound, count⟩
      unfold updateBuckets at hOk ⊢
      rw [List.map_cons]
      dsimp only at hOk ⊢
      cases hWithin : le value bound with
      | false =>
          rw [hWithin, if_neg Bool.false_ne_true] at hOk
          rw [if_neg Bool.false_ne_true,
            if_neg Bool.false_ne_true]
          exact congrArg _ (ih hOk)
      | true =>
          rw [hWithin, if_pos rfl] at hOk
          rw [if_pos rfl, if_pos rfl]
          cases hSum : checkedAdd count 1 with
          | none =>
              rw [hSum] at hOk
              cases hOk
          | some sum =>
              rw [hSum] at hOk
              rw [eq_add_of_checkedAdd hSum]
              exact congrArg _ (ih hOk)

/- Where no count is at its end, none panics. -/
theorem updateBuckets_ok
    (value : R)
    {buckets : List (R × UInt64)}
    (hFew :
      ∀ bucket ∈ buckets, bucket.2.toNat + 1 < 2 ^ 64) :
    (updateBuckets value buckets).1 = .ok () := by
  induction buckets with
  | nil => rfl
  | cons bucket rest ih =>
      rcases bucket with ⟨bound, count⟩
      have hRest :=
        ih fun other hOther =>
          hFew other (List.mem_cons_of_mem _ hOther)
      have hBelow :
          count.toNat + (1 : UInt64).toNat < 2 ^ 64 :=
        hFew (bound, count) List.mem_cons_self
      rcases checkedAdd_of_lt hBelow with ⟨sum, hSum, _⟩
      unfold updateBuckets
      dsimp only
      rw [hSum]
      cases le value bound with
      | false =>
          rw [if_neg Bool.false_ne_true]
          exact hRest
      | true =>
          rw [if_pos rfl]
          exact hRest

/- An observation that returns has counted the value. -/
theorem observe_of_ok
    {data : HistogramData R}
    {value : R}
    (hOk : (observe value data).1 = .ok ()) :
    data.observed value =
      { count := data.count + 1
        sum := add data.sum value
        buckets :=
          data.buckets.map fun bucket =>
            if le value bucket.1 then
              (bucket.1, bucket.2 + 1)
            else
              bucket } := by
  unfold observed
  unfold observe at hOk ⊢
  rw [Exec.read_bind_apply] at hOk ⊢
  cases hSum : checkedAdd data.count 1 with
  | none =>
      rw [hSum] at hOk
      change Outcome.panicked = _ at hOk
      cases hOk
  | some sum =>
      rw [hSum, Exec.orPanic_some, Exec.pure_bind_apply,
        Exec.update_bind_apply, Exec.onPart_apply] at hOk
      rw [Exec.orPanic_some, Exec.pure_bind_apply,
        Exec.update_bind_apply, Exec.onPart_apply]
      dsimp only at hOk ⊢
      rw [updateBuckets_of_ok hOk, eq_add_of_checkedAdd hSum]

omit [BuildProfile] in
/- The counts of the values, with one value more. -/
theorem counted_concat
    (values : List R)
    (value : R) :
    counted (values ++ [value]) =
      { count := (counted values).count + 1
        sum := add (counted values).sum value
        buckets :=
          (counted values).buckets.map fun bucket =>
            if le value bucket.1 then
              (bucket.1, bucket.2 + 1)
            else
              bucket } := by
  unfold counted
  rw [List.length_append, List.length_singleton,
    List.foldl_append, UInt64.ofNat_add, List.map_map]
  refine
    congrArg₂ (HistogramData.mk _)
      (rfl : add (values.foldl add (ofRat 0)) value = _) ?_
  apply List.map_congr_left
  intro bound _
  unfold countWithin
  rw [List.countP_append, List.countP_singleton,
    Function.comp_apply]
  dsimp only
  cases le value bound with
  | false => rfl
  | true =>
      rw [if_pos rfl, if_pos rfl, UInt64.ofNat_add]
      rfl

/- After values that it could count, it has counted them. -/
theorem observed_counted
    {values : List R}
    {value : R}
    (hOk : (observe value (counted values)).1 = .ok ()) :
    (counted values).observed value =
      counted (values ++ [value]) :=
  (observe_of_ok hOk).trans (counted_concat values value).symm

omit [BuildProfile] in
/- No bucket counts more values than there are. -/
theorem countWithin_le
    (values : List R)
    (bound : R) :
    countWithin values bound ≤ values.length :=
  List.countP_le_length

/- A value can be counted as long as there are few. -/
theorem observe_counted_ok
    {values : List R}
    (hFew : values.length + 1 < 2 ^ 64)
    (value : R) :
    (observe value (counted values)).1 = .ok () := by
  have hWord (count : Nat) (hCount : count ≤ values.length) :
      (UInt64.ofNat count).toNat + 1 < 2 ^ 64 := by
    have hRange : count < UInt64.size := by
      change count < 2 ^ 64
      omega
    rw [UInt64.toNat_ofNat_of_lt' hRange]
    omega
  have hBelow :
      (counted values).count.toNat + (1 : UInt64).toNat <
        2 ^ 64 :=
    hWord values.length le_rfl
  rcases checkedAdd_of_lt hBelow with ⟨sum, hCount, _⟩
  unfold observe
  rw [Exec.read_bind_apply, hCount, Exec.orPanic_some,
    Exec.pure_bind_apply, Exec.update_bind_apply,
    Exec.onPart_apply]
  apply updateBuckets_ok
  intro bucket hBucket
  rcases List.mem_map.mp hBucket with ⟨bound, _, rfl⟩
  exact hWord _ (countWithin_le values bound)

/- Few values are all counted. -/
theorem foldl_observed
    {values : List R}
    (hFew : values.length < 2 ^ 64) :
    values.foldl observed new = counted values := by
  induction values using List.reverseRecOn with
  | nil => rfl
  | append_singleton values value ih =>
      rw [List.length_append, List.length_singleton] at hFew
      rw [List.foldl_append, ih (by omega)]
      exact observed_counted (observe_counted_ok hFew value)

end HistogramData

namespace MetricsRegistry

omit [DoublePrecision R] in
/- The values that were observed for a histogram. -/
def valuesOf
    (name : String)
    (observations : List (String × R)) : List R :=
  (observations.filter fun observation =>
      decide (observation.1 = name)).map Prod.snd

/- Observations for other histograms leave one alone. -/
theorem lookup_run
    [BuildProfile]
    (name : String)
    (observations : List (String × R)) :
    (Runs.run observed new observations).histograms.lookup
        name =
      if valuesOf name observations = [] then
        none
      else
        some
          ((valuesOf name observations).foldl
            HistogramData.observed HistogramData.new) := by
  induction observations using List.reverseRecOn with
  | nil => rfl
  | append_singleton earlier observation ih =>
      have hValues :
          valuesOf name (earlier ++ [observation]) =
            valuesOf name earlier ++
              if observation.1 = name then [observation.2]
              else [] := by
        unfold valuesOf
        rw [List.filter_append, List.map_append]
        by_cases hName : observation.1 = name
        · simp [hName]
        · simp [hName]
      rw [Runs.run_concat, hValues]
      unfold observed observe at ih ⊢
      rw [Exec.onPart_apply]
      dsimp only
      rw [HashMap.lookup_insert_eq_ite]
      by_cases hName : name = observation.1
      · subst hName
        have hMore :
            valuesOf observation.1 earlier ++
                [observation.2] ≠
              [] :=
          List.append_ne_nil_of_right_ne_nil _
            (List.cons_ne_nil _ _)
        rw [if_pos rfl, if_pos rfl, ih, if_neg hMore,
          List.foldl_append]
        split
        · next hNone =>
            rw [hNone]
            rfl
        · rfl
      · rw [if_neg hName, if_neg (Ne.symm hName),
          List.append_nil]
        exact ih

end MetricsRegistry

------------------------------------------------------------
-- Quantiles
------------------------------------------------------------

/- The first that is found in a list that goes up is least. -/
theorem isLeast_of_find?_eq_some
    {α : Type}
    [LinearOrder α]
    {p : α → Bool}
    {list : List α}
    (hSorted : list.Pairwise (· < ·))
    {found : α}
    (hFound : list.find? p = some found) :
    IsLeast {x | x ∈ list ∧ p x = true} found := by
  induction list with
  | nil => cases hFound
  | cons first rest ih =>
      obtain ⟨hFirst, hRest⟩ := List.pairwise_cons.mp hSorted
      rw [List.find?_cons] at hFound
      split at hFound
      · next hHolds =>
          cases hFound
          refine ⟨⟨List.mem_cons_self, hHolds⟩, ?_⟩
          rintro other ⟨hOther, _⟩
          rcases List.mem_cons.mp hOther with rfl | hLater
          · exact le_rfl
          · exact (hFirst other hLater).le
      · next hFails =>
          obtain ⟨⟨hMember, hHolds⟩, hLower⟩ :=
            ih hRest hFound
          refine
            ⟨⟨List.mem_cons_of_mem first hMember, hHolds⟩, ?_⟩
          rintro other ⟨hOther, hOtherHolds⟩
          rcases List.mem_cons.mp hOther with rfl | hLater
          · rw [hFails] at hOtherHolds
            cases hOtherHolds
          · exact hLower ⟨hLater, hOtherHolds⟩

namespace HistogramData

/- The number of values up to a bound. -/
def countUpTo
    (values : List Rat)
    (bound : WithTop Rat) : Nat :=
  values.countP fun value : Rat =>
    decide ((value : WithTop Rat) ≤ bound)

/- A higher bound has no fewer values up to it. -/
theorem countUpTo_mono
    (values : List Rat)
    {lower higher : WithTop Rat}
    (hBound : lower ≤ higher) :
    countUpTo values lower ≤ countUpTo values higher := by
  apply List.countP_mono_left
  intro value _ hValue
  rw [decide_eq_true_iff] at hValue ⊢
  exact hValue.trans hBound

/- All values are up to the last bound. -/
theorem countUpTo_top
    (values : List Rat) :
    countUpTo values ⊤ = values.length := by
  unfold countUpTo
  apply List.countP_eq_length.mpr
  intro value _
  exact decide_eq_true le_top

/- The values as numbers that may be infinite. -/
def exactValues
    (values : List Rat) : List (WithTop Rat) :=
  values.map fun value : Rat => (value : WithTop Rat)

/- Of exact values a bucket counts those up to its bound. -/
theorem countWithin_exactValues
    (values : List Rat)
    (bound : WithTop Rat) :
    countWithin (exactValues values) bound =
      countUpTo values bound := by
  unfold countWithin exactValues countUpTo
  rw [List.countP_map]
  rfl

/- The buckets that have counted the values. -/
def bucketsOf
    (values : List Rat) : List (WithTop Rat × UInt64) :=
  (bounds (WithTop Rat)).map fun bound =>
    (bound, UInt64.ofNat (countUpTo values bound))

/- Each bucket counts the observed values up to its bound. -/
theorem buckets_observed
    [BuildProfile]
    {values : List Rat}
    (hFew : values.length < 2 ^ 64) :
    ((exactValues values).foldl observed new).count =
        UInt64.ofNat values.length ∧
      ((exactValues values).foldl observed new).buckets =
        bucketsOf values := by
  have hLength : (exactValues values).length = values.length :=
    List.length_map _
  rw [foldl_observed (hLength ▸ hFew)]
  unfold counted bucketsOf
  rw [hLength]
  refine ⟨rfl, ?_⟩
  apply List.map_congr_left
  intro bound _
  rw [countWithin_exactValues]

/- The bounds go up. -/
theorem bounds_sorted :
    (bounds (WithTop Rat)).Pairwise (· < ·) := by
  decide +kernel

theorem top_mem_bounds :
    (⊤ : WithTop Rat) ∈ bounds (WithTop Rat) := by
  decide +kernel

end HistogramData

namespace MetricsRegistry

open HistogramData

/- The rank that a quantile is rounded down to. -/
def rank
    (total : Nat)
    (quantile : Rat) : Nat :=
  (total * quantile).floor.toNat

/- The rank is the share without its fraction. -/
theorem rank_spec
    (total : Nat)
    {quantile : Rat}
    (hLow : 0 ≤ quantile) :
    (rank total quantile : Rat) ≤ total * quantile ∧
      total * quantile < rank total quantile + 1 := by
  have hShare : 0 ≤ (total : Rat) * quantile :=
    mul_nonneg (Nat.cast_nonneg _) hLow
  have hBelow := Rat.floor_le (total * quantile)
  have hAbove := Rat.lt_floor_add_one (total * quantile)
  have hFloor : 0 ≤ (total * quantile).floor := by
    have hPositive := hShare.trans_lt hAbove
    have hInteger : 0 < (total * quantile).floor + 1 := by
      exact_mod_cast hPositive
    omega
  have hRank :
      (rank total quantile : Int) =
        (total * quantile).floor :=
    Int.toNat_of_nonneg hFloor
  have hCast :
      (rank total quantile : Rat) =
        ((total * quantile).floor : Int) := by
    rw [← hRank]
    exact (Int.cast_natCast _).symm
  rw [hCast]
  push_cast at hAbove
  exact ⟨hBelow, hAbove⟩

/-
  A number of values that reaches the share rounded down
  reaches the share itself, unless they differ and it is
  just the rounded one.
-/
theorem share_le_iff
    {total count : Nat}
    {quantile : Rat}
    (hLow : 0 ≤ quantile)
    (hReached : rank total quantile ≤ count) :
    quantile * total ≤ count ↔
      (∃ whole : Nat, quantile * total = whole) ∨
        count ≠ rank total quantile := by
  obtain ⟨hBelow, hAbove⟩ := rank_spec total hLow
  rw [mul_comm] at hBelow hAbove
  constructor
  · intro hShare
    by_cases hExact : count = rank total quantile
    · rw [hExact] at hShare
      exact Or.inl ⟨_, le_antisymm hShare hBelow⟩
    · exact Or.inr hExact
  · rintro (⟨whole, hWhole⟩ | hMore)
    · rw [hWhole] at hAbove ⊢
      have hNext : whole < rank total quantile + 1 := by
        exact_mod_cast hAbove
      have hWholeReached : whole ≤ count := by
        omega
      exact_mod_cast hWholeReached
    · have hNext : rank total quantile + 1 ≤ count := by
        omega
      have hNextShare :
          (rank total quantile + 1 : Rat) ≤ count := by
        exact_mod_cast hNext
      exact hAbove.le.trans hNextShare

/- The share rounded down is a number of values. -/
theorem rank_le
    (total : Nat)
    {quantile : Rat}
    (hLow : 0 ≤ quantile)
    (hHigh : quantile ≤ 1) :
    rank total quantile ≤ total := by
  have hBelow := (rank_spec total hLow).1
  have hShare : (total : Rat) * quantile ≤ total :=
    mul_le_of_le_one_right (Nat.cast_nonneg _) hHigh
  exact_mod_cast hBelow.trans hShare

/- The rank is what the source computes. -/
theorem target_eq
    {total : Nat}
    (hFew : total < 2 ^ 64)
    {quantile : Rat}
    (hLow : 0 ≤ quantile)
    (hHigh : quantile ≤ 1) :
    DoublePrecision.toU64
        (DoublePrecision.mul
          (DoublePrecision.ofU64 (UInt64.ofNat total))
          (quantile : WithTop Rat)) =
      UInt64.ofNat (rank total quantile) := by
  have hTotal : (UInt64.ofNat total).toNat = total :=
    UInt64.toNat_ofNat_of_lt' hFew
  have hRank := rank_le total hLow hHigh
  change
    castU64 (((UInt64.ofNat total).toNat : Rat) * quantile) =
      _
  rw [hTotal]
  unfold castU64
  change
    UInt64.ofNat (min (rank total quantile) (2 ^ 64 - 1)) = _
  rw [Nat.min_eq_left (by omega)]

/- Few values are compared as words as they are as numbers. -/
theorem ofNat_le_ofNat_iff
    {left right : Nat}
    (hLeft : left < 2 ^ 64)
    (hRight : right < 2 ^ 64) :
    UInt64.ofNat left ≤ UInt64.ofNat right ↔
      left ≤ right := by
  rw [UInt64.le_iff_toNat_le,
    UInt64.toNat_ofNat_of_lt' hLeft,
    UInt64.toNat_ofNat_of_lt' hRight]

/- The first bucket that counts as many as the rank. -/
theorem isLeast_calculateQuantile
    {values : List Rat}
    (hFew : values.length < 2 ^ 64)
    {quantile : Rat}
    (hLow : 0 ≤ quantile)
    (hHigh : quantile ≤ 1) :
    IsLeast
      {bound |
        bound ∈ bounds (WithTop Rat) ∧
          decide
              (rank values.length quantile ≤
                countUpTo values bound) =
            true}
      (calculateQuantile (bucketsOf values)
        (UInt64.ofNat values.length) quantile) := by
  have hMost := rank_le values.length hLow hHigh
  have hRank :
      rank values.length quantile ≤
        countUpTo values ⊤ := by
    rw [countUpTo_top]
    exact hMost
  obtain ⟨found, hFound⟩ :
      ∃ found,
        (bounds (WithTop Rat)).find? (fun bound =>
            decide
              (rank values.length quantile ≤
                countUpTo values bound)) =
          some found := by
    rw [← Option.isSome_iff_exists, List.find?_isSome]
    exact ⟨⊤, top_mem_bounds, decide_eq_true hRank⟩
  have hWord (bound : WithTop Rat) :
      decide
          (UInt64.ofNat (rank values.length quantile) ≤
            UInt64.ofNat (countUpTo values bound)) =
        decide
          (rank values.length quantile ≤
            countUpTo values bound) := by
    have hCount : countUpTo values bound ≤ values.length :=
      List.countP_le_length
    exact
      decide_eq_decide.mpr
        (ofNat_le_ofNat_iff (by omega) (by omega))
  have hQuantile :
      calculateQuantile (bucketsOf values)
          (UInt64.ofNat values.length) quantile =
        found := by
    unfold calculateQuantile bucketsOf
    dsimp only
    rw [target_eq hFew hLow hHigh, List.find?_map]
    have hFirst :
        (bounds (WithTop Rat)).find?
            ((fun bucket : WithTop Rat × UInt64 =>
                decide
                  (UInt64.ofNat
                      (rank values.length quantile) ≤
                    bucket.2)) ∘
              fun bound =>
                (bound,
                  UInt64.ofNat (countUpTo values bound))) =
          some found := by
      rw [← hFound]
      congr 1
      funext bound
      exact hWord bound
    rw [hFirst]
    rfl
  rw [hQuantile]
  exact isLeast_of_find?_eq_some bounds_sorted hFound

/-
  The bound that is read has just the number of values that
  the share is rounded down to, if any bound has it.
-/
theorem countUpTo_calculateQuantile_ne_iff
    {values : List Rat}
    (hFew : values.length < 2 ^ 64)
    {quantile : Rat}
    (hLow : 0 ≤ quantile)
    (hHigh : quantile ≤ 1) :
    countUpTo values
          (calculateQuantile (bucketsOf values)
            (UInt64.ofNat values.length) quantile) ≠
        rank values.length quantile ↔
      ∀ bound ∈ bounds (WithTop Rat),
        countUpTo values bound ≠
          rank values.length quantile := by
  obtain ⟨⟨hBound, hReached⟩, hLower⟩ :=
    isLeast_calculateQuantile hFew hLow hHigh
  constructor
  · intro hMore bound hMember hCount
    have hLeast :=
      hLower ⟨hMember, decide_eq_true hCount.ge⟩
    have hFew := countUpTo_mono values hLeast
    rw [hCount] at hFew
    exact
      hMore (le_antisymm hFew (of_decide_eq_true hReached))
  · intro hNone
    exact hNone _ hBound

/-
  The quantile of a histogram is the least bound with at
  least that share of the values up to it.
-/
def QuantileIsLeast
    (registry : MetricsRegistry (WithTop Rat))
    (name : String)
    (values : List Rat)
    (quantile : Rat) : Prop :=
  ∃ data,
    registry.histograms.lookup name = some data ∧
      IsLeast
        {bound |
          bound ∈ bounds (WithTop Rat) ∧
            quantile * values.length ≤
              countUpTo values bound}
        (calculateQuantile data.buckets data.count quantile)

/- Observations of values that may be infinite. -/
def exactly
    (observations : List (String × Rat)) :
    List (String × WithTop Rat) :=
  observations.map fun observation =>
    (observation.1, (observation.2 : WithTop Rat))

theorem valuesOf_exactly
    (name : String)
    (observations : List (String × Rat)) :
    valuesOf name (exactly observations) =
      exactValues (valuesOf name observations) := by
  unfold valuesOf exactly exactValues
  rw [List.filter_map, List.map_map, List.map_map]
  rfl

/- What is read is least as soon as it has the share. -/
theorem quantileIsLeast_iff_reached
    [BuildProfile]
    (observations : List (String × Rat))
    (name : String)
    {quantile : Rat}
    (hSome : valuesOf name observations ≠ [])
    (hFew : (valuesOf name observations).length < 2 ^ 64)
    (hLow : 0 ≤ quantile)
    (hHigh : quantile ≤ 1) :
    let values := valuesOf name observations
    QuantileIsLeast
        (Runs.run observed new (exactly observations)) name
        values quantile ↔
      quantile * values.length ≤
        countUpTo values
          (calculateQuantile (bucketsOf values)
            (UInt64.ofNat values.length) quantile) := by
  intro values
  obtain ⟨hCount, hBuckets⟩ := buckets_observed hFew
  have hLookup := lookup_run name (exactly observations)
  have hExact : exactValues values ≠ [] := by
    intro hNone
    exact hSome (List.map_eq_nil_iff.mp hNone)
  rw [valuesOf_exactly, if_neg hExact] at hLookup
  obtain ⟨⟨hBound, _⟩, hLower⟩ :=
    isLeast_calculateQuantile hFew hLow hHigh
  have hBelow := (rank_spec values.length hLow).1
  constructor
  · rintro ⟨data, hData, hLeast⟩
    cases hLookup.symm.trans hData
    rw [hCount, hBuckets] at hLeast
    exact hLeast.1.2
  · intro hShare
    refine ⟨_, hLookup, ?_⟩
    rw [hCount, hBuckets]
    refine ⟨⟨hBound, hShare⟩, ?_⟩
    rintro other ⟨hMember, hOther⟩
    apply hLower
    refine ⟨hMember, decide_eq_true ?_⟩
    rw [mul_comm] at hOther
    exact_mod_cast hBelow.trans hOther

/-
  The quantile is the least such bound exactly where the
  share is a whole number of values, or no bound has just
  the number that it is rounded down to.
-/
theorem quantileIsLeast_iff
    [BuildProfile]
    (observations : List (String × Rat))
    (name : String)
    (quantile : Rat)
    (hSome : valuesOf name observations ≠ [])
    (hFew : (valuesOf name observations).length < 2 ^ 64)
    (hLow : 0 < quantile)
    (hHigh : quantile < 1) :
    let values := valuesOf name observations
    QuantileIsLeast
        (Runs.run observed new (exactly observations)) name
        values quantile ↔
      (∃ whole : Nat, quantile * values.length = whole) ∨
        ∀ bound ∈ bounds (WithTop Rat),
          countUpTo values bound ≠
            rank values.length quantile := by
  intro values
  obtain ⟨⟨_, hReached⟩, _⟩ :=
    isLeast_calculateQuantile hFew hLow.le hHigh.le
  have hShare :=
    share_le_iff hLow.le (of_decide_eq_true hReached)
  have hExact :=
    countUpTo_calculateQuantile_ne_iff hFew hLow.le hHigh.le
  exact
    (quantileIsLeast_iff_reached observations name hSome
      hFew hLow.le hHigh.le).trans
      (hShare.trans (or_congr_right hExact))

/- Two values, with the median up to both of them. -/
theorem quantileIsLeast_sample :
    QuantileIsLeast
      (Runs.run (@observed _ _ ⟨true⟩) new
        (exactly
          [("isa_snapshot_duration_seconds", 3 / 10),
            ("isa_snapshot_duration_seconds", 2 / 5)]))
      "isa_snapshot_duration_seconds"
      (valuesOf "isa_snapshot_duration_seconds"
        [("isa_snapshot_duration_seconds", 3 / 10),
          ("isa_snapshot_duration_seconds", 2 / 5)])
      (1 / 2) :=
  (@quantileIsLeast_iff ⟨true⟩ _ _ (1 / 2) (by decide)
    (by decide) (by decide +kernel) (by decide +kernel)).mpr
    (Or.inl ⟨1, by decide +kernel⟩)

/- The median of one value is said to be at the first bound. -/
theorem not_quantileIsLeast_sample :
    ¬ QuantileIsLeast
        (Runs.run (@observed _ _ ⟨true⟩) new
          (exactly
            [("isa_snapshot_duration_seconds", 3 / 10)]))
        "isa_snapshot_duration_seconds"
        (valuesOf "isa_snapshot_duration_seconds"
          [("isa_snapshot_duration_seconds", 3 / 10)])
        (1 / 2) := by
  rintro ⟨data, hData, hLeast⟩
  have hStored :
      (Runs.run (@observed _ _ ⟨true⟩) new
            (exactly
              [("isa_snapshot_duration_seconds",
                3 / 10)])).histograms.lookup
          "isa_snapshot_duration_seconds" =
        some
          (@HistogramData.observed _ _ ⟨true⟩
            HistogramData.new
            ((3 / 10 : Rat) : WithTop Rat)) := rfl
  cases hStored.symm.trans hData
  have hShare := hLeast.1.2
  revert hShare
  decide +kernel

end MetricsRegistry

end IsaWorkspace
