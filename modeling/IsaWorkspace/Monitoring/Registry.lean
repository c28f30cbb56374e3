import IsaWorkspace.Externals
import IsaWorkspace.Foundations.Exec
import IsaWorkspace.Monitoring.Histograms

/-
  The registry of all metrics, under concurrent calls.

  A call makes one update after the other, and each update
  takes a lock of its own: updates of concurrent calls come
  in any order.  What is counted does not depend on that
  order, and an average does as far as the order in which
  floating-point numbers are added does.  The counter of
  errors of a type has a name made from the type, and one
  type makes the name of the counter of all errors.

  Main declarations:
    * `RegistryState`, `MetricsUpdate`, `MetricsCall`
    * `RegistryState.inc`, `observe`, `gauge`, `dec`
    * `RegistryState.recordSnapshot`, ...
    * `RegistryState.snapshot`
    * `RegistryState.counterOf_run`
    * `RegistryState.lookup_of_completes`
    * `RegistryState.snapshot_of_interleaving`
-/

------------------------------------------------------------
-- The Registry
------------------------------------------------------------

namespace IsaWorkspace

/- Subtraction of signed words; `none` is a panic. -/
def checkedSubI64
    [BuildProfile]
    (left right : Int64) : Option Int64 :=
  if -2 ^ 63 ≤ left.toInt - right.toInt ∧
      left.toInt - right.toInt < 2 ^ 63 then
    some (left - right)
  else if BuildProfile.overflowChecks then
    none
  else
    some (left - right)

/- Counters, gauges and histograms, by their names. -/
structure RegistryState (R : Type) where
  counters : HashMap String UInt64
  gauges : HashMap String Int64
  histograms : MetricsRegistry R

/- Metrics snapshot for serialization. -/
structure MetricsSnapshot (R : Type) where
  snapshotsTotal : UInt64
  resumesTotal : UInt64
  forksTotal : UInt64
  errorsTotal : UInt64
  avgSnapshotDurationMs : R
  avgResumeDurationMs : R
  uptimeSecs : UInt64
deriving DecidableEq

open DoublePrecision

variable {R : Type} [DoublePrecision R]

namespace RegistryState

variable [BuildProfile]

omit [DoublePrecision R] in
/- Increment a counter. -/
def inc
    (name : String)
    (value : UInt64) : Exec (RegistryState R) Empty Unit := do
  let registry ← Exec.read
  let old := (registry.counters.lookup name).getD 0
  let setCounter := fun count : UInt64 =>
    Exec.update fun registry : RegistryState R =>
      { registry with
        counters := registry.counters.insert name count }
  -- The entry is there before the addition can panic.
  setCounter old
  let sum ← Exec.orPanic (checkedAdd old value)
  setCounter sum

omit [DoublePrecision R] in
/- Decrement a gauge. -/
def dec
    (name : String)
    (value : Int64) : Exec (RegistryState R) Empty Unit := do
  let registry ← Exec.read
  let old := (registry.gauges.lookup name).getD 0
  let setGauge := fun level : Int64 =>
    Exec.update fun registry : RegistryState R =>
      { registry with
        gauges := registry.gauges.insert name level }
  setGauge old
  let difference ← Exec.orPanic (checkedSubI64 old value)
  setGauge difference

omit [DoublePrecision R] [BuildProfile] in
/- Set a gauge value. -/
def gauge
    (name : String)
    (value : Int64) : Exec (RegistryState R) Empty Unit :=
  Exec.update fun registry =>
    { registry with
      gauges := registry.gauges.insert name value }

/- Observe a histogram value. -/
def observe
    (name : String)
    (value : R) : Exec (RegistryState R) Empty Unit :=
  Exec.onPart histograms
    (fun registry histograms =>
      { registry with histograms := histograms })
    (MetricsRegistry.observe name value)

omit [DoublePrecision R] [BuildProfile] in
/- Nothing has been recorded. -/
def empty : RegistryState R where
  counters := ∅
  gauges := ∅
  histograms := MetricsRegistry.new

/- Create a new metrics registry with default counters. -/
def new : RegistryState R :=
  let defaults : Exec (RegistryState R) Empty Unit := do
    inc "isa_snapshots_total" 0
    inc "isa_resumes_total" 0
    inc "isa_forks_total" 0
    inc "isa_errors_total" 0
  (defaults empty).2

/- Record snapshot duration. -/
def recordSnapshot
    (durationSecs : R)
    (bytes : UInt64) : Exec (RegistryState R) Empty Unit := do
  inc "isa_snapshots_total" 1
  observe "isa_snapshot_duration_seconds" durationSecs
  observe "isa_snapshot_size_bytes" (ofU64 bytes)

/- Record resume duration. -/
def recordResume
    (durationSecs : R)
    (pages : UInt64) : Exec (RegistryState R) Empty Unit := do
  inc "isa_resumes_total" 1
  observe "isa_resume_duration_seconds" durationSecs
  observe "isa_resume_pages_loaded" (ofU64 pages)

omit [DoublePrecision R] in
/- Record fork operation. -/
def recordFork : Exec (RegistryState R) Empty Unit :=
  inc "isa_forks_total" 1

omit [DoublePrecision R] in
/- Record error. -/
def recordError
    (errorType : String) :
    Exec (RegistryState R) Empty Unit := do
  inc "isa_errors_total" 1
  inc ("isa_errors_" ++ errorType) 1

omit [DoublePrecision R] [BuildProfile] in
/- Set memory metrics. -/
def setMemoryMetrics
    (hot warm cold : UInt64) :
    Exec (RegistryState R) Empty Unit := do
  gauge "isa_memory_hot_bytes" hot.toInt64
  gauge "isa_memory_warm_bytes" warm.toInt64
  gauge "isa_memory_cold_bytes" cold.toInt64

omit [DoublePrecision R] [BuildProfile] in
/- Set state store metrics. -/
def setStateStoreMetrics
    (sizeBytes states pages : UInt64) :
    Exec (RegistryState R) Empty Unit := do
  gauge "isa_state_store_size_bytes" sizeBytes.toInt64
  gauge "isa_state_store_states_total" states.toInt64
  gauge "isa_state_store_pages_total" pages.toInt64

omit [BuildProfile] in
/- The average of a histogram in milliseconds. -/
def averageMs
    (registry : RegistryState R)
    (name : String) : R :=
  match registry.histograms.histograms.lookup name with
  | some data =>
      if 0 < data.count then
        mul (div data.sum (ofU64 data.count)) (ofRat 1000)
      else
        ofRat 0
  | none => ofRat 0

omit [BuildProfile] in
/- Get metrics snapshot. -/
def snapshot
    (registry : RegistryState R)
    (uptimeSecs : UInt64) : MetricsSnapshot R where
  snapshotsTotal :=
    (registry.counters.lookup "isa_snapshots_total").getD 0
  resumesTotal :=
    (registry.counters.lookup "isa_resumes_total").getD 0
  forksTotal :=
    (registry.counters.lookup "isa_forks_total").getD 0
  errorsTotal :=
    (registry.counters.lookup "isa_errors_total").getD 0
  avgSnapshotDurationMs :=
    registry.averageMs "isa_snapshot_duration_seconds"
  avgResumeDurationMs :=
    registry.averageMs "isa_resume_duration_seconds"
  uptimeSecs := uptimeSecs

end RegistryState

end IsaWorkspace

------------------------------------------------------------
-- Updates and Calls
------------------------------------------------------------

namespace IsaWorkspace

open DoublePrecision

/- What one lock is taken for. -/
inductive MetricsUpdate (R : Type) where
  | inc (name : String) (value : UInt64)
  | dec (name : String) (value : Int64)
  | gauge (name : String) (value : Int64)
  | observe (name : String) (value : R)
deriving DecidableEq

variable {R : Type}

namespace MetricsUpdate

/- Make one update. -/
def apply
    [DoublePrecision R]
    [BuildProfile] :
    MetricsUpdate R → Exec (RegistryState R) Empty Unit
| inc name value => RegistryState.inc name value
| dec name value => RegistryState.dec name value
| gauge name value => RegistryState.gauge name value
| observe name value => RegistryState.observe name value

/- Make updates one after the other. -/
def applyAll
    [DoublePrecision R]
    [BuildProfile] :
    List (MetricsUpdate R) →
      Exec (RegistryState R) Empty Unit
| [] => pure ()
| [update] => update.apply
| update :: rest => do
    update.apply
    applyAll rest

/- What an update adds to a counter. -/
def adds
    (name : String) : MetricsUpdate R → Nat
| inc counter value =>
    if counter = name then value.toNat else 0
| _ => 0

/- What an update observes. -/
def observation : MetricsUpdate R → Option (String × R)
| observe name value => some (name, value)
| _ => none

end MetricsUpdate

/- The calls on a registry. -/
inductive MetricsCall (R : Type) where
  | inc (name : String) (value : UInt64)
  | dec (name : String) (value : Int64)
  | gauge (name : String) (value : Int64)
  | observe (name : String) (value : R)
  | recordSnapshot (durationSecs : R) (bytes : UInt64)
  | recordResume (durationSecs : R) (pages : UInt64)
  | recordFork
  | recordError (errorType : String)
  | setMemoryMetrics (hot warm cold : UInt64)
  | setStateStoreMetrics (sizeBytes states pages : UInt64)
deriving DecidableEq

namespace MetricsCall

/- Make a call. -/
def apply
    [DoublePrecision R]
    [BuildProfile] :
    MetricsCall R → Exec (RegistryState R) Empty Unit
| inc name value => RegistryState.inc name value
| dec name value => RegistryState.dec name value
| gauge name value => RegistryState.gauge name value
| observe name value => RegistryState.observe name value
| recordSnapshot durationSecs bytes =>
    RegistryState.recordSnapshot durationSecs bytes
| recordResume durationSecs pages =>
    RegistryState.recordResume durationSecs pages
| recordFork => RegistryState.recordFork
| recordError errorType =>
    RegistryState.recordError errorType
| setMemoryMetrics hot warm cold =>
    RegistryState.setMemoryMetrics hot warm cold
| setStateStoreMetrics sizeBytes states pages =>
    RegistryState.setStateStoreMetrics sizeBytes states pages

/- The updates of a call, in their order. -/
def updates
    [DoublePrecision R] :
    MetricsCall R → List (MetricsUpdate R)
| inc name value => [.inc name value]
| dec name value => [.dec name value]
| gauge name value => [.gauge name value]
| observe name value => [.observe name value]
| recordSnapshot durationSecs bytes =>
    [.inc "isa_snapshots_total" 1,
      .observe "isa_snapshot_duration_seconds" durationSecs,
      .observe "isa_snapshot_size_bytes" (ofU64 bytes)]
| recordResume durationSecs pages =>
    [.inc "isa_resumes_total" 1,
      .observe "isa_resume_duration_seconds" durationSecs,
      .observe "isa_resume_pages_loaded" (ofU64 pages)]
| recordFork => [.inc "isa_forks_total" 1]
| recordError errorType =>
    [.inc "isa_errors_total" 1,
      .inc ("isa_errors_" ++ errorType) 1]
| setMemoryMetrics hot warm cold =>
    [.gauge "isa_memory_hot_bytes" hot.toInt64,
      .gauge "isa_memory_warm_bytes" warm.toInt64,
      .gauge "isa_memory_cold_bytes" cold.toInt64]
| setStateStoreMetrics sizeBytes states pages =>
    [.gauge "isa_state_store_size_bytes" sizeBytes.toInt64,
      .gauge "isa_state_store_states_total" states.toInt64,
      .gauge "isa_state_store_pages_total" pages.toInt64]

end MetricsCall

end IsaWorkspace

------------------------------------------------------------
-- What an Update Leaves
------------------------------------------------------------

namespace IsaWorkspace

open DoublePrecision

variable {R : Type} [DoublePrecision R]

/- A call is its updates, made one after the other. -/
theorem MetricsCall.apply_eq_applyAll
    [BuildProfile]
    (call : MetricsCall R) :
    call.apply = MetricsUpdate.applyAll call.updates := by
  cases call with
  | _ => rfl

namespace RegistryState

variable [BuildProfile]

/- Make the update, whatever it returns. -/
def step
    (registry : RegistryState R)
    (update : MetricsUpdate R) : RegistryState R :=
  (update.apply registry).2

/- An update that does not panic. -/
def Completes
    (registry : RegistryState R)
    (update : MetricsUpdate R) : Prop :=
  (update.apply registry).1 = .ok ()

omit [BuildProfile] in
/- The count of a name; nothing counts as zero. -/
def counterOf
    (registry : RegistryState R)
    (name : String) : UInt64 :=
  (registry.counters.lookup name).getD 0

omit [DoublePrecision R] in
theorem inc_apply
    (name : String)
    (value : UInt64)
    (registry : RegistryState R) :
    inc name value registry =
      match checkedAdd (registry.counterOf name) value with
      | none =>
          (.panicked,
            { registry with
              counters :=
                registry.counters.insert name
                  (registry.counterOf name) })
      | some sum =>
          (.ok (),
            { registry with
              counters :=
                (registry.counters.insert name
                    (registry.counterOf name)).insert name
                  sum }) := by
  unfold inc counterOf
  rw [Exec.read_bind_apply]
  dsimp only
  rw [Exec.update_bind_apply]
  cases
    checkedAdd
      ((registry.counters.lookup name).getD 0) value with
  | none => exact Exec.bind_of_panicked rfl
  | some sum => rfl

omit [DoublePrecision R] in
/- Adding nothing never panics. -/
theorem inc_zero
    (name : String)
    (registry : RegistryState R) :
    inc name 0 registry =
      (.ok (),
        { registry with
          counters :=
            (registry.counters.insert name
                (registry.counterOf name)).insert name
              (registry.counterOf name) }) := by
  have hSum :
      checkedAdd (registry.counterOf name) 0 =
        some (registry.counterOf name) := by
    have hRange :
        (registry.counterOf name).toNat +
            (0 : UInt64).toNat <
          2 ^ 64 :=
      UInt64.toNat_lt (registry.counterOf name)
    rw [checkedAdd_eq_some (Or.inr hRange), UInt64.add_zero]
  rw [inc_apply, hSum]

omit [DoublePrecision R] in
/- A new registry has counted and observed nothing. -/
theorem new_eq
    (name : String) :
    (new : RegistryState R).counterOf name = 0 ∧
      (new : RegistryState R).histograms =
        MetricsRegistry.new := by
  unfold new
  dsimp only
  rw [Exec.bind_of_ok (inc_zero _ _),
    Exec.bind_of_ok (inc_zero _ _),
    Exec.bind_of_ok (inc_zero _ _), inc_zero]
  refine ⟨?_, rfl⟩
  simp only [counterOf, empty, HashMap.lookup_insert_eq_ite,
    apply_ite (Option.getD · (0 : UInt64))]
  simp

omit [DoublePrecision R] in
/- A decrement changes no more than its gauge. -/
theorem dec_frame
    (name : String)
    (value : Int64)
    (registry : RegistryState R) :
    (dec name value registry).2.counters =
        registry.counters ∧
      (dec name value registry).2.histograms =
        registry.histograms := by
  unfold dec
  rw [Exec.read_bind_apply]
  dsimp only
  rw [Exec.update_bind_apply]
  cases
    checkedSubI64 ((registry.gauges.lookup name).getD 0)
      value with
  | none => exact ⟨rfl, rfl⟩
  | some difference => exact ⟨rfl, rfl⟩

/- A completed update adds to counters what it says. -/
theorem counterOf_step
    {registry : RegistryState R}
    {update : MetricsUpdate R}
    (hCompletes : registry.Completes update)
    (name : String) :
    (registry.step update).counterOf name =
      registry.counterOf name +
        UInt64.ofNat (update.adds name) := by
  cases update with
  | inc counter value =>
      unfold Completes MetricsUpdate.apply at hCompletes
      unfold step MetricsUpdate.apply MetricsUpdate.adds
      dsimp only at hCompletes ⊢
      rw [inc_apply] at hCompletes ⊢
      cases
        hSum :
          checkedAdd (registry.counterOf counter) value with
      | none =>
          rw [hSum] at hCompletes
          cases hCompletes
      | some sum =>
          have hExact := eq_add_of_checkedAdd hSum
          unfold counterOf at hExact ⊢
          dsimp only
          rw [HashMap.lookup_insert_eq_ite,
            HashMap.lookup_insert_eq_ite]
          by_cases hName : name = counter
          · subst hName
            simp [hExact]
          · simp [hName, Ne.symm hName]
  | dec counter value =>
      have hFrame := (dec_frame counter value registry).1
      have hSame :
          (registry.step (.dec counter value)).counterOf
              name =
            registry.counterOf name := by
        unfold step counterOf MetricsUpdate.apply
        dsimp only
        rw [hFrame]
      rw [hSame]
      exact (UInt64.add_zero _).symm
  | gauge => exact (UInt64.add_zero _).symm
  | observe => exact (UInt64.add_zero _).symm

/- Only an observation changes the histograms. -/
theorem histograms_step
    (registry : RegistryState R)
    (update : MetricsUpdate R) :
    (registry.step update).histograms =
      Runs.run MetricsRegistry.observed registry.histograms
        update.observation.toList := by
  cases update with
  | inc name value =>
      unfold step MetricsUpdate.apply
      dsimp only
      rw [inc_apply]
      cases checkedAdd (registry.counterOf name) value with
      | none => rfl
      | some sum => rfl
  | dec name value =>
      exact (dec_frame name value registry).2
  | gauge => rfl
  | observe => rfl

end RegistryState

end IsaWorkspace

------------------------------------------------------------
-- What a Run Leaves
------------------------------------------------------------

namespace IsaWorkspace

open DoublePrecision

variable {R : Type} [DoublePrecision R]

namespace RegistryState

variable [BuildProfile]

/- A counter is the sum of all that was added to it. -/
theorem counterOf_run
    {registry : RegistryState R}
    {order : List (MetricsUpdate R)}
    (hCompletes :
      Runs.AlongRun step Completes registry order)
    (name : String) :
    (Runs.run step registry order).counterOf name =
      registry.counterOf name +
        UInt64.ofNat
          (order.map (MetricsUpdate.adds name)).sum := by
  induction order generalizing registry with
  | nil => exact (UInt64.add_zero _).symm
  | cons update rest ih =>
      have hRest := ih hCompletes.2
      rw [counterOf_step hCompletes.1] at hRest
      rw [List.map_cons, List.sum_cons, UInt64.ofNat_add,
        ← UInt64.add_assoc]
      exact hRest

end RegistryState

/- What the updates observe for a histogram, in their order. -/
def valuesObserved
    (name : String)
    (order : List (MetricsUpdate R)) : List R :=
  MetricsRegistry.valuesOf name
    (order.filterMap MetricsUpdate.observation)

omit [DoublePrecision R] in
theorem valuesObserved_concat
    (name : String)
    (order : List (MetricsUpdate R))
    (update : MetricsUpdate R) :
    valuesObserved name (order ++ [update]) =
      valuesObserved name order ++
        valuesObserved name [update] := by
  unfold valuesObserved MetricsRegistry.valuesOf
  rw [List.filterMap_append, List.filter_append,
    List.map_append]

omit [DoublePrecision R] in
theorem valuesObserved_observe
    (name observed : String)
    (value : R) :
    valuesObserved name [.observe observed value] =
      if observed = name then [value] else [] := by
  unfold valuesObserved MetricsRegistry.valuesOf
  by_cases hName : observed = name
  · simp [MetricsUpdate.observation, hName]
  · simp [MetricsUpdate.observation, hName]

/- A histogram that has seen the values, or is not there. -/
def HistogramData.countedOrNone
    (values : List R) : Option (HistogramData R) :=
  if values.isEmpty then none else some (counted values)

theorem HistogramData.getD_countedOrNone
    (values : List R) :
    (countedOrNone values).getD new = counted values := by
  cases values with
  | nil => rfl
  | cons value rest => rfl

namespace RegistryState

variable [BuildProfile]

/- Updates that complete are counted in their histogram. -/
theorem lookup_of_completes
    {order : List (MetricsUpdate R)}
    (hCompletes : Runs.AlongRun step Completes new order)
    (name : String) :
    (Runs.run step new order).histograms.histograms.lookup
        name =
      HistogramData.countedOrNone
        (valuesObserved name order) := by
  induction order using List.reverseRecOn
    generalizing name with
  | nil =>
      rw [Runs.run_nil, (new_eq "").2]
      rfl
  | append_singleton order update ih =>
      rcases Runs.alongRun_append.mp hCompletes with
        ⟨hEarlier, hLast, _⟩
      have hBefore := ih hEarlier
      have hOther
          (hNone : update.observation = none) :
          (step (Runs.run step new order)
                update).histograms.histograms.lookup name =
            HistogramData.countedOrNone
              (valuesObserved name order ++
                valuesObserved name [update]) := by
        have hValues : valuesObserved name [update] = [] := by
          unfold valuesObserved
          rw [List.filterMap_cons_none hNone]
          rfl
        rw [hValues, List.append_nil, histograms_step, hNone]
        exact hBefore name
      rw [Runs.run_concat, valuesObserved_concat]
      cases update with
      | observe observed value =>
          let data :=
            ((Runs.run step new
              order).histograms.histograms.lookup
                observed).getD HistogramData.new
          have hData :
              data =
                HistogramData.counted
                  (valuesObserved observed order) := by
            unfold data
            rw [hBefore, HistogramData.getD_countedOrNone]
          have hOk :
              (HistogramData.observe value data).1 =
                .ok () :=
            hLast
          rw [hData] at hOk
          have hCounted :=
            HistogramData.observed_counted hOk
          rw [← hData] at hCounted
          change
            ((Runs.run step new
                order).histograms.histograms.insert observed
                  (data.observed value)).lookup name =
              _
          rw [HashMap.lookup_insert_eq_ite, hCounted,
            valuesObserved_observe]
          by_cases hName : name = observed
          · subst hName
            rw [if_pos rfl, if_pos rfl]
            unfold HistogramData.countedOrNone
            rw [if_neg (by simp)]
          · rw [if_neg hName, if_neg (Ne.symm hName),
              List.append_nil]
            exact hBefore name
      | inc name value => exact hOther rfl
      | dec name value => exact hOther rfl
      | gauge name value => exact hOther rfl

end RegistryState

/- The average in milliseconds of durations in seconds. -/
def averageMsOf
    (durations : List R) : R :=
  let count := UInt64.ofNat durations.length
  if 0 < count then
    mul (div (durations.foldl add (ofRat 0)) (ofU64 count))
      (ofRat 1000)
  else
    ofRat 0

/- An average is read from what the histogram has counted. -/
theorem RegistryState.averageMs_eq
    {registry : RegistryState R}
    {name : String}
    {values : List R}
    (hCounted :
      registry.histograms.histograms.lookup name =
        HistogramData.countedOrNone values) :
    registry.averageMs name = averageMsOf values := by
  unfold averageMs
  rw [hCounted]
  cases values with
  | nil => rfl
  | cons value rest => rfl

end IsaWorkspace

------------------------------------------------------------
-- What Calls Count
------------------------------------------------------------

namespace IsaWorkspace

open DoublePrecision

variable {R : Type} [DoublePrecision R]

/- Only one type of errors has the name of their total. -/
theorem errorName_eq_iff
    (errorType : String) :
    "isa_errors_" ++ errorType = "isa_errors_total" ↔
      errorType = "total" := by
  have hTotal :
      "isa_errors_total" = "isa_errors_" ++ "total" := by
    decide
  rw [hTotal]
  exact String.append_right_inj "isa_errors_"

/- The counters of errors are not those of events. -/
theorem errorName_ne
    (errorType name : String)
    (hName :
      "isa_errors_".toList.isPrefixOf name.toList = false) :
    "isa_errors_" ++ errorType ≠ name := by
  rintro rfl
  rw [String.toList_append] at hName
  have hPrefix :
      "isa_errors_".toList.isPrefixOf
          ("isa_errors_".toList ++ errorType.toList) =
        true :=
    List.isPrefixOf_iff_prefix.mpr (List.prefix_append _ _)
  rw [hName] at hPrefix
  cases hPrefix

namespace MetricsCall

section Counting

omit [DoublePrecision R]

/- What a call adds to a counter that is not of errors. -/
def eventsCounted
    (name : String)
    (own : MetricsCall R → Bool)
    (call : MetricsCall R) : Nat :=
  match call with
  | inc counter value =>
      if counter = name then value.toNat else 0
  | _ => if own call then 1 else 0

def isRecordSnapshot : MetricsCall R → Bool
| recordSnapshot .. => true
| _ => false

def isRecordResume : MetricsCall R → Bool
| recordResume .. => true
| _ => false

def isRecordFork : MetricsCall R → Bool
| recordFork => true
| _ => false

/- One type of errors is counted twice in their total. -/
def errorsCounted : MetricsCall R → Nat
| inc counter value =>
    if counter = "isa_errors_total" then value.toNat else 0
| recordError errorType =>
    if errorType = "total" then 2 else 1
| _ => 0

/- The durations of snapshots that a call observes. -/
def snapshotDurations : MetricsCall R → List R
| observe name value =>
    if name = "isa_snapshot_duration_seconds" then [value]
    else []
| recordSnapshot durationSecs _ => [durationSecs]
| _ => []

/- The durations of resumes that a call observes. -/
def resumeDurations : MetricsCall R → List R
| observe name value =>
    if name = "isa_resume_duration_seconds" then [value]
    else []
| recordResume durationSecs _ => [durationSecs]
| _ => []

end Counting

/- The updates of a call add what the call counts. -/
theorem adds_updates
    (call : MetricsCall R) :
    (call.updates.map
            (MetricsUpdate.adds
              "isa_snapshots_total")).sum =
          call.eventsCounted "isa_snapshots_total"
            isRecordSnapshot ∧
      (call.updates.map
            (MetricsUpdate.adds "isa_resumes_total")).sum =
          call.eventsCounted "isa_resumes_total"
            isRecordResume ∧
      (call.updates.map
            (MetricsUpdate.adds "isa_forks_total")).sum =
          call.eventsCounted "isa_forks_total"
            isRecordFork ∧
      (call.updates.map
            (MetricsUpdate.adds "isa_errors_total")).sum =
          call.errorsCounted := by
  cases call with
  | recordError errorType =>
      have hSnapshots :=
        errorName_ne errorType "isa_snapshots_total" (by decide)
      have hResumes :=
        errorName_ne errorType "isa_resumes_total" (by decide)
      have hForks :=
        errorName_ne errorType "isa_forks_total" (by decide)
      have hErrors := errorName_eq_iff errorType
      by_cases hType : errorType = "total"
      · subst hType
        exact ⟨rfl, rfl, rfl, rfl⟩
      · have hOther := mt hErrors.mp hType
        simp [updates, MetricsUpdate.adds, eventsCounted,
          errorsCounted, isRecordSnapshot, isRecordResume,
          isRecordFork, hSnapshots, hResumes, hForks, hOther,
          hType]
  | _ =>
      simp [updates, MetricsUpdate.adds, eventsCounted,
        errorsCounted, isRecordSnapshot, isRecordResume,
        isRecordFork]

/- The updates of a call observe the durations it has. -/
theorem valuesOf_updates
    (call : MetricsCall R) :
    valuesObserved "isa_snapshot_duration_seconds"
          call.updates =
        call.snapshotDurations ∧
      valuesObserved "isa_resume_duration_seconds"
          call.updates =
        call.resumeDurations := by
  cases call with
  | observe name value =>
      exact
        ⟨valuesObserved_observe _ name value,
          valuesObserved_observe _ name value⟩
  | recordSnapshot => exact ⟨rfl, rfl⟩
  | recordResume => exact ⟨rfl, rfl⟩
  | _ => exact ⟨rfl, rfl⟩

end MetricsCall

namespace RegistryState

variable [BuildProfile]

omit [BuildProfile] in
/- What is added in any order of the updates of calls. -/
theorem adds_interleaved
    {calls : List (MetricsCall R)}
    {order : List (MetricsUpdate R)}
    (hOrder : order.Perm (calls.flatMap MetricsCall.updates))
    {name : String}
    {counted : MetricsCall R → Nat}
    (hCounted :
      ∀ call : MetricsCall R,
        (call.updates.map (MetricsUpdate.adds name)).sum =
          counted call) :
    (order.map (MetricsUpdate.adds name)).sum =
      (calls.map counted).sum := by
  rw [(hOrder.map _).sum_eq, List.map_flatMap,
    List.flatMap_def, List.sum_flatten, List.map_map]
  congr 1
  apply List.map_congr_left
  intro call _
  exact hCounted call

omit [BuildProfile] in
/- What is observed in any order of the updates of calls. -/
theorem observed_interleaved
    {calls : List (MetricsCall R)}
    {order : List (MetricsUpdate R)}
    (hOrder : order.Perm (calls.flatMap MetricsCall.updates))
    {name : String}
    {durations : MetricsCall R → List R}
    (hDurations :
      ∀ call : MetricsCall R,
        valuesObserved name call.updates = durations call) :
    (valuesObserved name order).Perm
      (calls.flatMap durations) := by
  have hPerm :
      (valuesObserved name order).Perm
        (valuesObserved name
          (calls.flatMap MetricsCall.updates)) :=
    ((hOrder.filterMap _).filter _).map _
  have hSplit :
      valuesObserved name
          (calls.flatMap MetricsCall.updates) =
        calls.flatMap durations := by
    rw [← funext hDurations]
    unfold valuesObserved MetricsRegistry.valuesOf
    rw [List.filterMap_flatMap, List.filter_flatMap,
      List.map_flatMap]
  rw [hSplit] at hPerm
  exact hPerm

/-
  Calls that come together, their updates in any order: what
  is read at the end counts each call, errors of one type
  twice, and averages all durations that were recorded, each
  once, added up in the order in which they were observed.
-/
theorem snapshot_of_interleaving
    (calls : List (MetricsCall R))
    (order : List (MetricsUpdate R))
    (hOrder : order.Perm (calls.flatMap MetricsCall.updates))
    (hCompletes : Runs.AlongRun step Completes new order)
    (uptimeSecs : UInt64) :
    let snapshots :=
      valuesObserved "isa_snapshot_duration_seconds" order
    let resumes :=
      valuesObserved "isa_resume_duration_seconds" order
    (Runs.run step new order).snapshot uptimeSecs =
        { snapshotsTotal :=
            UInt64.ofNat
              (calls.map
                (MetricsCall.eventsCounted
                  "isa_snapshots_total"
                  MetricsCall.isRecordSnapshot)).sum
          resumesTotal :=
            UInt64.ofNat
              (calls.map
                (MetricsCall.eventsCounted
                  "isa_resumes_total"
                  MetricsCall.isRecordResume)).sum
          forksTotal :=
            UInt64.ofNat
              (calls.map
                (MetricsCall.eventsCounted "isa_forks_total"
                  MetricsCall.isRecordFork)).sum
          errorsTotal :=
            UInt64.ofNat
              (calls.map MetricsCall.errorsCounted).sum
          avgSnapshotDurationMs := averageMsOf snapshots
          avgResumeDurationMs := averageMsOf resumes
          uptimeSecs := uptimeSecs } ∧
      snapshots.Perm
        (calls.flatMap MetricsCall.snapshotDurations) ∧
      resumes.Perm
        (calls.flatMap MetricsCall.resumeDurations) := by
  intro snapshots resumes
  have hCounter :
      ∀ (name : String) (counted : MetricsCall R → Nat),
        (∀ call : MetricsCall R,
            (call.updates.map
                (MetricsUpdate.adds name)).sum =
              counted call) →
          ((Runs.run step new order).counters.lookup
              name).getD 0 =
            UInt64.ofNat (calls.map counted).sum := by
    intro name counted hCounted
    have hRun := counterOf_run hCompletes name
    rw [(new_eq name).1, UInt64.zero_add,
      adds_interleaved hOrder hCounted] at hRun
    exact hRun
  have hAverage (name : String) :
      (Runs.run step new order).averageMs name =
        averageMsOf (valuesObserved name order) :=
    averageMs_eq (lookup_of_completes hCompletes name)
  refine ⟨?_, ?_, ?_⟩
  · unfold snapshot
    rw [hCounter "isa_snapshots_total" _
        fun call => (MetricsCall.adds_updates call).1,
      hCounter "isa_resumes_total" _
        fun call => (MetricsCall.adds_updates call).2.1,
      hCounter "isa_forks_total" _
        fun call => (MetricsCall.adds_updates call).2.2.1,
      hCounter "isa_errors_total" _
        fun call => (MetricsCall.adds_updates call).2.2.2,
      hAverage, hAverage]
  · exact
      observed_interleaved hOrder
        fun call => (MetricsCall.valuesOf_updates call).1
  · exact
      observed_interleaved hOrder
        fun call => (MetricsCall.valuesOf_updates call).2

end RegistryState

end IsaWorkspace

------------------------------------------------------------
-- A Sample Run
------------------------------------------------------------

namespace IsaWorkspace

namespace RegistryState

/- A snapshot and an error of the type that counts twice. -/
def sampleCalls : List (MetricsCall (WithTop Rat)) :=
  [.recordSnapshot ((2 : Rat) : WithTop Rat) 4096,
    .recordError "total"]

/- Their updates, in turns. -/
def sampleOrder : List (MetricsUpdate (WithTop Rat)) :=
  [.inc "isa_errors_total" 1, .inc "isa_snapshots_total" 1,
    .observe "isa_snapshot_duration_seconds"
      ((2 : Rat) : WithTop Rat),
    .inc "isa_errors_total" 1,
    .observe "isa_snapshot_size_bytes"
      ((4096 : Rat) : WithTop Rat)]

instance
    [DoublePrecision R]
    [BuildProfile]
    (registry : RegistryState R)
    (update : MetricsUpdate R) :
    Decidable (registry.Completes update) :=
  inferInstanceAs
    (Decidable ((update.apply registry).1 = .ok ()))

/- The numbers of the sample are exact in double precision. -/
theorem snapshot_of_sample :
    (@Runs.run _ _ (@step _ _ ⟨true⟩) (@new _ ⟨true⟩)
          sampleOrder).snapshot 0 =
      { snapshotsTotal := 1
        resumesTotal := 0
        forksTotal := 0
        errorsTotal := 2
        avgSnapshotDurationMs := ((2000 : Rat) : WithTop Rat)
        avgResumeDurationMs := ((0 : Rat) : WithTop Rat)
        uptimeSecs := 0 } := by
  have hSnapshot :=
    (@snapshot_of_interleaving _ _ ⟨true⟩ sampleCalls
      sampleOrder (by decide +kernel) (by decide +kernel)
      0).1
  rw [hSnapshot]
  decide +kernel

end RegistryState

end IsaWorkspace
