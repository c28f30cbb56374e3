import IsaWorkspace.Cloning.Cloner
import IsaWorkspace.Foundations.Interleaving
import IsaWorkspace.Foundations.Runs
import IsaWorkspace.StateStore.Steps

/-
  The limit on clones, with calls in interleaving.

  A call checks the limit under one lock and appends its
  clone under another one, later.  Several calls can pass
  the check before the first of them appends, so the limit
  is kept exactly as far as the check would still pass when
  a clone is appended.

  Main declarations:
    * `ClonePhase`, `ClonePhase.step`
    * `ClonePhase.uninterrupted`
    * `StateCloner.WithinLimit`
    * `ClonePhase.length_getClones_step`
    * `ClonePhase.withinLimit_step_iff`
    * `ConcurrentCloning.StaysBelow`, `withinLimit_iff`
    * `ConcurrentCloning.ChecksAlone`
    * `ConcurrentCloning.staysBelow_of_checksAlone`
-/

------------------------------------------------------------
-- Calls in Steps
------------------------------------------------------------

namespace IsaWorkspace

/- What a call does next, between two locks. -/
inductive ClonePhase where
  | checkLimit (call : CloneCall)
  | registerPages (call : CloneCall)
  | storeClone (call : CloneCall)
  | trackClone (call : CloneCall)
  | finished (outcome : Outcome CloneError CloneResult)

namespace ClonePhase

variable {B : Type}

/- A call goes on from a value, and ends with an error. -/
def after
    {α : Type}
    (next : α → ClonePhase) :
    Outcome CloneError α × StateCloner B →
      ClonePhase × StateCloner B
| (.ok value, cloner) => (next value, cloner)
| (.err error, cloner) => (finished (.err error), cloner)
| (.panicked, cloner) => (finished .panicked, cloner)

/- The parent of the clone that a call is about to append. -/
def appendsTo : ClonePhase → Option StateId
| trackClone call => some call.original.stateId
| _ => none

/- The parent of a call that is about to check the limit. -/
def checking : ClonePhase → Option StateId
| checkLimit call => some call.original.stateId
| _ => none

/- The parent of a call that has passed the check. -/
def underWay : ClonePhase → Option StateId
| registerPages call | storeClone call | trackClone call =>
    some call.original.stateId
| _ => none

variable [Sha256] [SerdeJson State] [StorageBackendTrait B]

/- One step of a call. -/
def step :
    ClonePhase → StateCloner B → ClonePhase × StateCloner B
| checkLimit call, cloner =>
    after (fun _ => registerPages call)
      (StateCloner.checkLimit call cloner)
| registerPages call, cloner =>
    after (fun _ => storeClone call)
      (StateCloner.registerPages call cloner)
| storeClone call, cloner =>
    after (fun _ => trackClone call)
      (StateCloner.storeClone call cloner)
| trackClone call, cloner =>
    after (fun result => finished (.ok result))
      (StateCloner.trackClone call cloner)
| finished outcome, cloner => (finished outcome, cloner)

/- The next step of a call that goes alone. -/
def advance
    (call : ClonePhase × StateCloner B) :
    ClonePhase × StateCloner B :=
  call.1.step call.2

------------------------------------------------------------
-- Calls That Go Alone
------------------------------------------------------------

theorem iterate_finished
    (outcome : Outcome CloneError CloneResult)
    (cloner : StateCloner B)
    (count : Nat) :
    advance^[count] (finished outcome, cloner) =
      (finished outcome, cloner) := by
  apply Function.iterate_fixed
  rfl

/-
  Where the rest of a call comes to the same as its steps,
  so does the rest with one more computation before it.
-/
theorem iterate_after
    {α : Type}
    {first : Exec (StateCloner B) CloneError α}
    {next : α → ClonePhase}
    {rest :
      α → Exec (StateCloner B) CloneError CloneResult}
    {count : Nat}
    (hRest :
      ∀ value cloner,
        advance^[count] (next value, cloner) =
          (finished (rest value cloner).1,
            (rest value cloner).2))
    (cloner : StateCloner B) :
    advance^[count] (after next (first cloner)) =
      (finished ((first >>= rest) cloner).1,
        ((first >>= rest) cloner).2) := by
  rcases hFirst : first cloner with ⟨outcome, middle⟩
  cases outcome with
  | ok value =>
      rw [Exec.bind_of_ok hFirst]
      exact hRest value middle
  | err error =>
      rw [Exec.bind_of_err hFirst]
      exact iterate_finished (.err error) middle count
  | panicked =>
      rw [Exec.bind_of_panicked hFirst]
      exact iterate_finished .panicked middle count

/- A call that nothing comes between does all of its work. -/
theorem uninterrupted
    (call : CloneCall)
    (cloner : StateCloner B) :
    advance^[4] (checkLimit call, cloner) =
      (finished (StateCloner.cloneState call cloner).1,
        (StateCloner.cloneState call cloner).2) := by
  have hTrack :
      ∀ (_ : StoredState) (cloner : StateCloner B),
        advance^[1] (trackClone call, cloner) =
          (finished (StateCloner.trackClone call cloner).1,
            (StateCloner.trackClone call cloner).2) := by
    intro _ cloner
    rfl
  have hStore :
      ∀ (_ : Unit) (cloner : StateCloner B),
        advance^[2] (storeClone call, cloner) =
          (finished
              ((StateCloner.storeClone call >>= fun _ =>
                StateCloner.trackClone call) cloner).1,
            ((StateCloner.storeClone call >>= fun _ =>
              StateCloner.trackClone call) cloner).2) := by
    intro _ cloner
    rw [Function.iterate_succ_apply]
    exact iterate_after hTrack cloner
  have hRegister :
      ∀ (_ : Unit) (cloner : StateCloner B),
        advance^[3] (registerPages call, cloner) =
          (finished
              ((StateCloner.registerPages call >>= fun _ =>
                StateCloner.storeClone call >>= fun _ =>
                  StateCloner.trackClone call) cloner).1,
            ((StateCloner.registerPages call >>= fun _ =>
              StateCloner.storeClone call >>= fun _ =>
                StateCloner.trackClone call)
              cloner).2) := by
    intro _ cloner
    rw [Function.iterate_succ_apply]
    exact iterate_after hStore cloner
  rw [Function.iterate_succ_apply]
  exact iterate_after hRegister cloner

end ClonePhase

------------------------------------------------------------
-- The Limit
------------------------------------------------------------

namespace StateCloner

variable {B : Type} {cloner : StateCloner B}

/- Under a limit, no state has more clones than that. -/
def WithinLimit
    (cloner : StateCloner B) : Prop :=
  0 < cloner.config.maxClones →
    ∀ stateId,
      (cloner.getClones stateId).length ≤
        cloner.config.maxClones.toNat

/- The limit is not reached below the number allowed. -/
theorem limitReached_eq_false_iff
    {stateId : StateId} :
    cloner.limitReached stateId = false ↔
      (0 < cloner.config.maxClones →
        (cloner.getClones stateId).length <
          cloner.config.maxClones.toNat) := by
  unfold limitReached getClones
  by_cases hLimit : 0 < cloner.config.maxClones
  · rw [if_pos hLimit]
    cases hFound : cloner.clones.lookup stateId with
    | none =>
        have hPositive := UInt32.lt_iff_toNat_lt.mp hLimit
        exact iff_of_true rfl fun _ => hPositive
    | some parentClones =>
        simp only [decide_eq_false_iff_not, not_le,
          Option.getD_some, hLimit, true_implies]
  · rw [if_neg hLimit]
    exact iff_of_true rfl fun hPositive =>
      absurd hPositive hLimit

/- The check lets a call go on, or refuses it. -/
theorem checkLimit_apply
    (call : CloneCall)
    (cloner : StateCloner B) :
    checkLimit call cloner =
      if cloner.limitReached call.original.stateId then
        (.err (.maxClonesReached cloner.config.maxClones),
          cloner)
      else
        (.ok (), cloner) := by
  unfold checkLimit
  rw [Exec.read_bind_apply]
  split
  · rfl
  · rfl

theorem registerPages_clones
    (call : CloneCall)
    (cloner : StateCloner B) :
    (registerPages call cloner).2.config = cloner.config ∧
      (registerPages call cloner).2.clones =
        cloner.clones := by
  unfold registerPages
  rw [Exec.update_apply]
  dsimp only
  split
  · exact ⟨rfl, rfl⟩
  · exact ⟨rfl, rfl⟩

theorem storeClone_clones
    [Sha256] [SerdeJson State] [StorageBackendTrait B]
    (call : CloneCall)
    (cloner : StateCloner B) :
    (storeClone call cloner).2.config = cloner.config ∧
      (storeClone call cloner).2.clones =
        cloner.clones := by
  unfold storeClone
  rw [Exec.read_bind_apply, Exec.mapErr_state,
    Exec.onPart_apply]
  exact ⟨rfl, rfl⟩

/- The clone joins those of its parent. -/
theorem getClones_trackClone
    (call : CloneCall)
    (cloner : StateCloner B)
    (stateId : StateId) :
    (trackClone call cloner).2.getClones stateId =
      if stateId = call.original.stateId then
        cloner.getClones stateId ++ [call.cloneId]
      else
        cloner.getClones stateId := by
  unfold trackClone
  rw [Exec.update_bind_apply, Exec.read_bind_apply]
  change
    ((cloner.clones.insert call.original.stateId
        (cloner.getClones call.original.stateId ++
          [call.cloneId])).lookup stateId).getD [] = _
  rw [HashMap.lookup_insert_eq_ite]
  split
  · next hSame =>
      rw [hSame]
      rfl
  · rfl

end StateCloner

namespace ClonePhase

variable {B : Type}
variable {phase : ClonePhase} {cloner : StateCloner B}

theorem after_state
    {α : Type}
    (next : α → ClonePhase)
    (result : Outcome CloneError α × StateCloner B) :
    (after next result).2 = result.2 := by
  rcases result with ⟨outcome, cloner⟩
  cases outcome with
  | ok value => rfl
  | err error => rfl
  | panicked => rfl

variable [Sha256] [SerdeJson State] [StorageBackendTrait B]

/- A step that appends nothing leaves the clones alone. -/
theorem clones_step
    (cloner : StateCloner B)
    (hAppends : phase.appendsTo = none) :
    (phase.step cloner).2.config = cloner.config ∧
      (phase.step cloner).2.clones = cloner.clones := by
  cases phase with
  | checkLimit call =>
      unfold step
      rw [after_state, StateCloner.checkLimit_apply]
      split
      · exact ⟨rfl, rfl⟩
      · exact ⟨rfl, rfl⟩
  | registerPages call =>
      unfold step
      rw [after_state]
      exact StateCloner.registerPages_clones call cloner
  | storeClone call =>
      unfold step
      rw [after_state]
      exact StateCloner.storeClone_clones call cloner
  | trackClone call => cases hAppends
  | finished outcome => exact ⟨rfl, rfl⟩

theorem config_step
    (phase : ClonePhase)
    (cloner : StateCloner B) :
    (phase.step cloner).2.config = cloner.config := by
  cases phase with
  | trackClone call => rfl
  | _ => exact (clones_step cloner rfl).1

/- A step appends at most one clone, to its own parent. -/
theorem length_getClones_step
    (phase : ClonePhase)
    (cloner : StateCloner B)
    (stateId : StateId) :
    ((phase.step cloner).2.getClones stateId).length =
      (cloner.getClones stateId).length +
        if phase.appendsTo = some stateId then 1 else 0 := by
  cases hAppends : phase.appendsTo with
  | none =>
      unfold StateCloner.getClones
      rw [(clones_step cloner hAppends).2]
      rfl
  | some parentId =>
      cases phase with
      | trackClone call =>
          cases hAppends
          unfold step
          rw [after_state, StateCloner.getClones_trackClone]
          by_cases hSame : stateId = call.original.stateId
          · rw [if_pos hSame, hSame, if_pos rfl,
              List.length_append, List.length_singleton]
          · have hOther :
                some call.original.stateId ≠
                  some stateId := by
              intro hEq
              exact hSame (Option.some.inj hEq).symm
            rw [if_neg hSame, if_neg hOther, Nat.add_zero]
      | _ => cases hAppends

/-
  Within the limit, a step stays within it exactly when the
  check would still pass for what the step appends.
-/
theorem withinLimit_step_iff
    (hWithin : cloner.WithinLimit) :
    (phase.step cloner).2.WithinLimit ↔
      ∀ stateId ∈ phase.appendsTo,
        cloner.limitReached stateId = false := by
  unfold StateCloner.WithinLimit
  simp only [config_step, length_getClones_step,
    StateCloner.limitReached_eq_false_iff]
  constructor
  · intro hAfter stateId hAppends hLimit
    have hNext := hAfter hLimit stateId
    rw [if_pos (Option.mem_def.mp hAppends)] at hNext
    exact hNext
  · intro hBelow hLimit stateId
    by_cases hAppends : phase.appendsTo = some stateId
    · rw [if_pos hAppends]
      exact hBelow stateId hAppends hLimit
    · rw [if_neg hAppends]
      exact hWithin hLimit stateId

end ClonePhase

------------------------------------------------------------
-- Interleaved Calls
------------------------------------------------------------

/- A cloner and the calls on it. -/
abbrev ConcurrentCloning (B : Type) : Type :=
  Interleaved (StateCloner B) ClonePhase

namespace ConcurrentCloning

variable {B : Type}

/- Calls on a new cloner, none of which has started. -/
def start
    (config : CloneConfig)
    (stateStore : StateStore B)
    (calls : List CloneCall) : ConcurrentCloning B where
  shared := StateCloner.new config stateStore
  calls := calls.map .checkLimit

/- The check would pass where a call appends its clone. -/
def StaysBelow
    (system : ConcurrentCloning B)
    (position : Nat) : Prop :=
  ∀ parentId ∈
      system.calls[position]?.bind ClonePhase.appendsTo,
    system.shared.limitReached parentId = false

theorem withinLimit_new
    (config : CloneConfig)
    (stateStore : StateStore B) :
    (StateCloner.new config stateStore).WithinLimit := by
  intro _ stateId
  exact Nat.zero_le _

variable [Sha256] [SerdeJson State] [StorageBackendTrait B]

/- One step of one call among others. -/
theorem withinLimit_position_iff
    (system : ConcurrentCloning B)
    (position : Nat)
    (hWithin : system.shared.WithinLimit) :
    (Interleaved.step ClonePhase.step system
        position).shared.WithinLimit ↔
      system.StaysBelow position := by
  unfold StaysBelow
  cases hCall : system.calls[position]? with
  | none =>
      rw [Interleaved.step_of_none hCall]
      exact iff_of_true hWithin nofun
  | some phase =>
      rw [(Interleaved.step_of_some ClonePhase.step
        hCall).1]
      exact ClonePhase.withinLimit_step_iff hWithin

/-
  In every schedule of any calls, the clones stay within
  the limit exactly as far as the check would still pass
  whenever a clone is appended.
-/
theorem withinLimit_iff
    (config : CloneConfig)
    (stateStore : StateStore B)
    (calls : List CloneCall)
    (schedule : List Nat) :
    Runs.Throughout (Interleaved.step ClonePhase.step)
        (fun system : ConcurrentCloning B =>
          system.shared.WithinLimit)
        (start config stateStore calls) schedule ↔
      Runs.AlongRun (Interleaved.step ClonePhase.step)
        StaysBelow (start config stateStore calls)
        schedule :=
  Runs.throughout_iff_alongRun withinLimit_position_iff
    schedule (withinLimit_new config stateStore)

------------------------------------------------------------
-- Calls That Check Alone
------------------------------------------------------------

omit [Sha256] [SerdeJson State] [StorageBackendTrait B]

/-
  A call that checks the limit finds no other call on its
  parent between its check and its end.
-/
def ChecksAlone
    (system : ConcurrentCloning B)
    (position : Nat) : Prop :=
  ∀ parentId ∈
      system.calls[position]?.bind ClonePhase.checking,
    ∀ other ∈ system.calls,
      other.underWay ≠ some parentId

/-
  The calls that have passed the check are on different
  parents, none of which has reached the limit.
-/
structure Separate
    (cloner : StateCloner B)
    (calls : List ClonePhase) : Prop where
  apart :
    calls.Pairwise fun first second =>
      ∀ parentId, first.underWay = some parentId →
        second.underWay ≠ some parentId
  below :
    ∀ call ∈ calls, ∀ parentId,
      call.underWay = some parentId →
        cloner.limitReached parentId = false

/- The order of the calls does not matter. -/
theorem Separate.perm
    {cloner : StateCloner B}
    {calls calls' : List ClonePhase}
    (hSeparate : Separate cloner calls)
    (hPerm : calls.Perm calls') :
    Separate cloner calls' where
  apart := by
    refine (hPerm.pairwise_iff ?_).mp hSeparate.apart
    intro first second hApart parentId hSecond hFirst
    exact hApart parentId hFirst hSecond
  below := by
    intro call hCall
    exact hSeparate.below call (hPerm.mem_iff.mpr hCall)

/- A call that appends is under way. -/
theorem underWay_of_appendsTo
    {phase : ClonePhase}
    {parentId : StateId}
    (hAppends : phase.appendsTo = some parentId) :
    phase.underWay = some parentId := by
  cases phase with
  | trackClone call => exact hAppends
  | _ => cases hAppends

/- Where the calls are separate, an append is allowed. -/
theorem Separate.staysBelow
    {system : ConcurrentCloning B}
    (hSeparate : Separate system.shared system.calls)
    (position : Nat) :
    system.StaysBelow position := by
  intro parentId hAppends
  rcases Option.bind_eq_some_iff.mp hAppends with
    ⟨phase, hCall, hParent⟩
  exact
    hSeparate.below phase (List.mem_of_getElem? hCall)
      parentId (underWay_of_appendsTo hParent)

theorem separate_start
    (config : CloneConfig)
    (stateStore : StateStore B)
    (calls : List CloneCall) :
    Separate (start config stateStore calls).shared
      (start config stateStore calls).calls := by
  have hIdle :
      ∀ call ∈ (start config stateStore calls).calls,
        call.underWay = none := by
    intro call hCall
    rcases List.mem_map.mp hCall with ⟨cloneCall, _, rfl⟩
    rfl
  constructor
  · apply List.pairwise_of_forall_mem_list
    intro first hFirst second _ parentId hUnderWay
    rw [hIdle first hFirst] at hUnderWay
    cases hUnderWay
  · intro call hCall parentId hUnderWay
    rw [hIdle call hCall] at hUnderWay
    cases hUnderWay

variable [Sha256] [SerdeJson State] [StorageBackendTrait B]

section Steps

variable {cloner : StateCloner B}
variable {phase : ClonePhase} {rest : List ClonePhase}

omit [Sha256] [SerdeJson State] [StorageBackendTrait B] in
/- A call that is under way has gone on from a value. -/
theorem of_underWay_after
    {α : Type}
    {next : α → ClonePhase}
    {result : Outcome CloneError α × StateCloner B}
    {parentId : StateId}
    (hUnderWay :
      (ClonePhase.after next result).1.underWay =
        some parentId) :
    ∃ value,
      result.1 = .ok value ∧
        (next value).underWay = some parentId := by
  rcases result with ⟨outcome, cloner⟩
  cases outcome with
  | ok value => exact ⟨value, rfl, hUnderWay⟩
  | err error => cases hUnderWay
  | panicked => cases hUnderWay

/-
  A call that is under way after a step has not appended,
  and was under way before unless it has just checked.
-/
theorem underWay_step
    {parentId : StateId}
    (hNext :
      (phase.step cloner).1.underWay = some parentId) :
    phase.appendsTo = none ∧
      (phase.underWay = some parentId ∨
        (phase.checking = some parentId ∧
          cloner.limitReached parentId = false)) := by
  cases phase with
  | checkLimit call =>
      rcases of_underWay_after hNext with
        ⟨value, hPassed, hParent⟩
      cases hParent
      refine ⟨rfl, Or.inr ⟨rfl, ?_⟩⟩
      rw [StateCloner.checkLimit_apply] at hPassed
      split at hPassed
      · cases hPassed
      · next hReached => exact Bool.eq_false_iff.mpr hReached
  | registerPages call =>
      rcases of_underWay_after hNext with ⟨_, _, hParent⟩
      exact ⟨rfl, Or.inl hParent⟩
  | storeClone call =>
      rcases of_underWay_after hNext with ⟨_, _, hParent⟩
      exact ⟨rfl, Or.inl hParent⟩
  | trackClone call => cases hNext
  | finished outcome => cases hNext

/- Appending a clone matters to its own parent only. -/
theorem limitReached_step
    {parentId : StateId}
    (hOther : phase.appendsTo ≠ some parentId)
    (hBelow : cloner.limitReached parentId = false) :
    (phase.step cloner).2.limitReached parentId = false := by
  rw [StateCloner.limitReached_eq_false_iff] at hBelow ⊢
  rw [ClonePhase.config_step,
    ClonePhase.length_getClones_step, if_neg hOther]
  exact hBelow

/- One call takes its step, and the others wait. -/
theorem Separate.step
    (hSeparate : Separate cloner (phase :: rest))
    (hAlone :
      ∀ parentId, phase.checking = some parentId →
        ∀ other ∈ rest, other.underWay ≠ some parentId) :
    Separate (phase.step cloner).2
      ((phase.step cloner).1 :: rest) := by
  rcases List.pairwise_cons.mp hSeparate.apart with
    ⟨hFirst, hRest⟩
  constructor
  · refine List.pairwise_cons.mpr ⟨?_, hRest⟩
    intro other hOther parentId hNext
    rcases (underWay_step hNext).2 with
      hBefore | ⟨hChecks, _⟩
    · exact hFirst other hOther parentId hBefore
    · exact hAlone parentId hChecks other hOther
  · intro call hCall parentId hUnderWay
    rcases List.mem_cons.mp hCall with rfl | hOther
    · rcases underWay_step hUnderWay with
        ⟨hAppends, hBefore⟩
      apply limitReached_step
      · rw [hAppends]
        exact nofun
      · rcases hBefore with hBefore | ⟨_, hPassed⟩
        · exact
            hSeparate.below phase List.mem_cons_self parentId
              hBefore
        · exact hPassed
    · apply limitReached_step
      · intro hAppends
        exact
          hFirst call hOther parentId
            (underWay_of_appendsTo hAppends) hUnderWay
      · exact
          hSeparate.below call
            (List.mem_cons_of_mem _ hOther) parentId
            hUnderWay

/- One step of one call keeps the calls separate. -/
theorem separate_step
    (system : ConcurrentCloning B)
    (position : Nat)
    (hSeparate : Separate system.shared system.calls)
    (hAlone : system.ChecksAlone position) :
    Separate
      (Interleaved.step ClonePhase.step system
        position).shared
      (Interleaved.step ClonePhase.step system
        position).calls := by
  refine
    Interleaved.invariant_step
      (I := Separate) Separate.perm ?_ hSeparate
  intro phase hCall hNow
  apply hNow.step
  intro parentId hChecks other hOther
  apply hAlone parentId
  · rw [hCall]
    exact hChecks
  · exact List.mem_of_mem_eraseIdx hOther

end Steps

/-
  Calls that check the limit while no other one on their
  parent is between its check and its end stay below it.
-/
theorem staysBelow_of_checksAlone
    {config : CloneConfig}
    {stateStore : StateStore B}
    {calls : List CloneCall}
    {schedule : List Nat}
    (hAlone :
      Runs.AlongRun (Interleaved.step ClonePhase.step)
        ChecksAlone (start config stateStore calls)
        schedule) :
    Runs.AlongRun (Interleaved.step ClonePhase.step)
      StaysBelow (start config stateStore calls)
      schedule :=
  Runs.alongRun_of_invariant
    (P := fun system =>
      Separate system.shared system.calls)
    separate_step
    (fun _ position hSeparate _ =>
      hSeparate.staysBelow position)
    (separate_start config stateStore calls) hAlone

end ConcurrentCloning

------------------------------------------------------------
-- A Sample Run
------------------------------------------------------------

/-
  Two calls on one state, with the JSON text of the clones
  and its digests; no other input is hashed in the run.
-/
namespace CloneSample

def original : State :=
  Sample.state "original" "original" (some 60)

def call
    (uuid label : String) : CloneCall where
  original := original
  label := label
  uuid := uuid
  createdAt := Sample.epoch
  storedAt := Sample.epoch
  enteredAt := Sample.epoch
  clonedAt := Sample.epoch

def left : CloneCall :=
  call "11111111-1111-4111-8111-111111111111" "left"

def right : CloneCall :=
  call "22222222-2222-4222-8222-222222222222" "right"

/- One clone for each state. -/
def config : CloneConfig :=
  { CloneConfig.default with maxClones := 1 }

def stateText
    (state : State) : Bytes :=
  Sample.json state.stateId.id state.metadata.label "60"

scoped instance : SerdeJson State where
  toVec state := .ok (stateText state)
  fromSlice data :=
    if data = stateText (left.clonedState config) then
      .ok (left.clonedState config)
    else if data = stateText (right.clonedState config) then
      .ok (right.clonedState config)
    else
      .error "expected value at line 1 column 1"

scoped instance : Sha256 where
  digest data :=
    digestOf <|
      if data = stateText (left.clonedState config) then
        0x6b12737626806fd206a6d3582a12a0c5602c21b89ce27366cca79851659bc2d3
      else
        0x18659d4dd6acc3bfd95e23975ac32ec1544e6ee25ccf5873f06e9a89a0bbe1f4

end CloneSample

namespace ConcurrentCloning

open CloneSample

/- Two calls pass the check before either has appended. -/
theorem withinLimit_together :
    ¬ Runs.Throughout (Interleaved.step ClonePhase.step)
      (fun system => system.shared.WithinLimit)
      (start config
        (StateStore.new ⟨2⟩ MemoryBackend.new)
        [left, right])
      [0, 1, 0, 1, 0, 1, 0, 1] := by
  intro hRun
  have hLast := hRun.last (by decide) original.stateId
  revert hLast
  decide +kernel

end ConcurrentCloning

end IsaWorkspace
