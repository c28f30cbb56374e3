import IsaWorkspace.Search.Exactness
import IsaWorkspace.Foundations.Interleaving

/-
  Calls on a search index whose steps interleave.

  A call works from its copy of the old entry, which another
  call on the same state may replace meanwhile.  Calls on a
  state that do not overlap, removals apart, leave nothing
  behind that a search could hit.

  Main declarations:
    * `SearchPhase`, `SearchPhase.step`
    * `SearchPhase.uninterrupted`
    * `SearchPhase.view_step`
    * `ConcurrentSearch.StartsAlone`
    * `Guarded`, `guarded_step`
    * `StateSearchIndex.NoStaleHits`
    * `ConcurrentSearch.noStaleHits`
-/

------------------------------------------------------------
-- Calls in Steps
------------------------------------------------------------

namespace IsaWorkspace

/- The state that a call is about. -/
def SearchOp.stateId : SearchOp → StateId
| .indexState entry => entry.stateId
| .removeState stateId => stateId

def SearchOp.isRemoval : SearchOp → Bool
| .indexState _ => false
| .removeState _ => true

/- What a call does next, between two locks. -/
inductive SearchPhase where
  | readOld (op : SearchOp)
  | editLabels (op : SearchOp) (old : StateIndexEntry)
  | editTags (op : SearchOp) (old : StateIndexEntry)
  | removeEntry (op : SearchOp)
  | insertEntry (entry : StateIndexEntry)
  | addWords (entry : StateIndexEntry)
  | addTags (entry : StateIndexEntry)
  | finished
deriving DecidableEq

/- Where a call goes on when nothing old is left. -/
def SearchOp.afterRemoval : SearchOp → SearchPhase
| indexState entry => .insertEntry entry
| removeState _ => .finished

/- Where a call goes on from its copy of the old entry. -/
def SearchOp.afterRead
    (op : SearchOp) : Option StateIndexEntry → SearchPhase
| none => op.afterRemoval
| some old => .editLabels op old

namespace SearchPhase

variable [Unicode]

/- One step of a call. -/
def step :
    SearchPhase → StateSearchIndex →
      SearchPhase × StateSearchIndex
| readOld op, index =>
    (op.afterRead (index.oldEntry op.stateId), index)
| editLabels op old, index =>
    (editTags op old, index.unlistWords op.stateId old)
| editTags op old, index =>
    (removeEntry op, index.unlistTags op.stateId old)
| removeEntry op, index =>
    (op.afterRemoval, index.removeEntry op.stateId)
| insertEntry entry, index =>
    (addWords entry, index.insertEntry entry)
| addWords entry, index =>
    (addTags entry, index.listWords entry)
| addTags entry, index => (finished, index.listTags entry)
| finished, index => (finished, index)

omit [Unicode]

/- The state of a call that has started. -/
def underWay : SearchPhase → Option StateId
| readOld _ | finished => none
| editLabels op _ | editTags op _ | removeEntry op =>
    some op.stateId
| insertEntry entry | addWords entry | addTags entry =>
    some entry.stateId

/- The call that is about to start. -/
def starting : SearchPhase → Option SearchOp
| readOld op => some op
| _ => none

/- A call that nothing comes between does all of its work. -/
theorem uninterrupted
    [Unicode]
    (op : SearchOp)
    (index : StateSearchIndex) :
    ∃ count,
      (fun call : SearchPhase × StateSearchIndex =>
            call.1.step call.2)^[count] (readOld op, index) =
        (finished, index.step op) := by
  cases op with
  | indexState entry =>
      cases hOld : index.oldEntry entry.stateId with
      | none =>
          refine ⟨4, ?_⟩
          simp [Function.iterate_succ_apply, step,
            SearchOp.stateId, SearchOp.afterRead,
            SearchOp.afterRemoval, StateSearchIndex.step,
            StateSearchIndex.indexState,
            StateSearchIndex.removeState, hOld]
      | some old =>
          refine ⟨7, ?_⟩
          simp [Function.iterate_succ_apply, step,
            SearchOp.stateId, SearchOp.afterRead,
            SearchOp.afterRemoval, StateSearchIndex.step,
            StateSearchIndex.indexState,
            StateSearchIndex.removeState, hOld]
  | removeState stateId =>
      cases hOld : index.oldEntry stateId with
      | none =>
          refine ⟨1, ?_⟩
          simp [step, SearchOp.stateId, SearchOp.afterRead,
            SearchOp.afterRemoval, StateSearchIndex.step,
            StateSearchIndex.removeState, hOld]
      | some old =>
          refine ⟨4, ?_⟩
          simp [Function.iterate_succ_apply, step,
            SearchOp.stateId, SearchOp.afterRead,
            SearchOp.afterRemoval, StateSearchIndex.step,
            StateSearchIndex.removeState, hOld]

/- A call that only removes. -/
def isRemoval : SearchPhase → Bool
| editLabels op _ | editTags op _ | removeEntry op =>
    op.isRemoval
| _ => false

end SearchPhase

/- An index and the calls on it. -/
abbrev ConcurrentSearch : Type :=
  Interleaved StateSearchIndex SearchPhase

namespace ConcurrentSearch

/- Calls on a new index, none of which has started. -/
def start
    (ops : List SearchOp) : ConcurrentSearch where
  shared := StateSearchIndex.new
  calls := ops.map .readOld

/- All calls have returned. -/
def AllFinished
    (system : ConcurrentSearch) : Prop :=
  ∀ call ∈ system.calls, call = .finished

/-
  A call that starts finds no other call on its state under
  way, unless both only remove it.
-/
def StartsAlone
    (system : ConcurrentSearch)
    (position : Nat) : Prop :=
  ∀ op ∈ system.calls[position]?.bind SearchPhase.starting,
    ∀ other ∈ system.calls,
      other.underWay = some op.stateId →
        op.isRemoval = true ∧ other.isRemoval = true

instance
    (system : ConcurrentSearch) :
    Decidable system.AllFinished :=
  inferInstanceAs
    (Decidable (∀ call ∈ system.calls, call = .finished))

instance
    (system : ConcurrentSearch) :
    DecidablePred system.StartsAlone :=
  fun position =>
    inferInstanceAs
      (Decidable
        (∀ op ∈
            system.calls[position]?.bind
              SearchPhase.starting,
          ∀ other ∈ system.calls,
            other.underWay = some op.stateId →
              op.isRemoval = true ∧
                other.isRemoval = true))

end ConcurrentSearch

------------------------------------------------------------
-- What a Step Does to Views
------------------------------------------------------------

namespace SearchPhase

variable [Unicode]
variable {phase other : SearchPhase}
variable {index : StateSearchIndex} {view : IndexView}
variable {stateId : StateId} {op : SearchOp}

/- What a step makes of the view of its own state. -/
def effect :
    SearchPhase → IndexView → IndexView
| editLabels _ old, view =>
    { view with words := view.words \ old.wordSet }
| editTags _ old, view =>
    { view with tags := view.tags \ old.tagSet }
| removeEntry _, view => { view with entry := none }
| insertEntry entry, view =>
    { view with entry := some entry }
| addWords entry, view =>
    { view with words := view.words ∪ entry.wordSet }
| addTags entry, view =>
    { view with tags := view.tags ∪ entry.tagSet }
| _, view => view

/- The state whose view a step changes. -/
theorem view_step
    (phase : SearchPhase)
    (index : StateSearchIndex)
    (stateId : StateId) :
    (phase.step index).2.view stateId =
      if phase.underWay = some stateId then
        phase.effect (index.view stateId)
      else
        index.view stateId := by
  cases phase with
  | readOld op => rfl
  | editLabels op old =>
      simp only [step, underWay, effect, Option.some.injEq,
        eq_comm (a := op.stateId)]
      exact StateSearchIndex.view_unlistWords
  | editTags op old =>
      simp only [step, underWay, effect, Option.some.injEq,
        eq_comm (a := op.stateId)]
      exact StateSearchIndex.view_unlistTags
  | removeEntry op =>
      simp only [step, underWay, effect, Option.some.injEq,
        eq_comm (a := op.stateId)]
      exact StateSearchIndex.view_removeEntry
  | insertEntry entry =>
      simp only [step, underWay, effect, Option.some.injEq,
        eq_comm (a := entry.stateId)]
      exact StateSearchIndex.view_insertEntry
  | addWords entry =>
      simp only [step, underWay, effect, Option.some.injEq,
        eq_comm (a := entry.stateId)]
      exact StateSearchIndex.view_listWords
  | addTags entry =>
      simp only [step, underWay, effect, Option.some.injEq,
        eq_comm (a := entry.stateId)]
      exact StateSearchIndex.view_listTags
  | finished => rfl

theorem tidy_step
    (phase : SearchPhase)
    (hTidy : index.Tidy) :
    (phase.step index).2.Tidy := by
  cases phase with
  | readOld op => exact hTidy
  | editLabels op old => exact hTidy.unlistWords
  | editTags op old => exact hTidy.unlistTags
  | removeEntry op => exact hTidy.removeEntry
  | insertEntry entry => exact hTidy.insertEntry
  | addWords entry => exact hTidy.listWords
  | addTags entry => exact hTidy.listTags
  | finished => exact hTidy

------------------------------------------------------------
-- What a Call Relies On
------------------------------------------------------------

/- What a started call finds in the view of its state. -/
def Ready :
    SearchPhase → IndexView → Prop
| editLabels _ old, view =>
    (view.entry = some old ∨ view.entry = none) ∧
      view.words ⊆ old.wordSet ∧ view.tags ⊆ old.tagSet
| editTags _ old, view =>
    (view.entry = some old ∨ view.entry = none) ∧
      view.words = ∅ ∧ view.tags ⊆ old.tagSet
| removeEntry _, view | insertEntry _, view =>
    view.words = ∅ ∧ view.tags = ∅
| addWords entry, view =>
    view.entry = some entry ∧
      view.words = ∅ ∧ view.tags = ∅
| addTags entry, view =>
    view.entry = some entry ∧
      view.words = entry.wordSet ∧ view.tags = ∅
| _, _ => True

/-
  A step of a started call leaves what the next one needs,
  and an exact view when it was the last one.
-/
theorem ready_step
    (hReady : phase.Ready view)
    (hStarted : phase.underWay ≠ none) :
    (phase.step index).1.Ready (phase.effect view) ∧
      ((phase.step index).1.underWay = none →
        (phase.effect view).Exact) := by
  cases phase with
  | readOld op => exact absurd rfl hStarted
  | editLabels op old =>
      rcases hReady with ⟨hEntry, hWords, hTags⟩
      refine ⟨⟨hEntry, ?_, hTags⟩, nofun⟩
      exact Set.sdiff_eq_empty.mpr hWords
  | editTags op old =>
      rcases hReady with ⟨_, hWords, hTags⟩
      refine ⟨⟨hWords, ?_⟩, nofun⟩
      exact Set.sdiff_eq_empty.mpr hTags
  | removeEntry op =>
      rcases hReady with ⟨hWords, hTags⟩
      cases op with
      | indexState entry =>
          exact ⟨⟨hWords, hTags⟩, nofun⟩
      | removeState stateId =>
          exact ⟨trivial, fun _ => ⟨hWords, hTags⟩⟩
  | insertEntry entry =>
      rcases hReady with ⟨hWords, hTags⟩
      exact ⟨⟨rfl, hWords, hTags⟩, nofun⟩
  | addWords entry =>
      rcases hReady with ⟨hEntry, hWords, hTags⟩
      refine ⟨⟨hEntry, ?_, hTags⟩, nofun⟩
      simp [effect, hWords]
  | addTags entry =>
      rcases hReady with ⟨hEntry, hWords, hTags⟩
      refine ⟨trivial, fun _ => ⟨?_, ?_⟩⟩
      · simp [effect, hEntry, hWords]
      · simp [effect, hEntry, hTags]
  | finished => exact absurd rfl hStarted

/- A removal takes nothing that another removal needs. -/
theorem ready_of_removals
    (hReady : other.Ready view)
    (hOther : other.isRemoval = true)
    (hPhase : phase.isRemoval = true) :
    other.Ready (phase.effect view) := by
  -- A removal makes each part of the view smaller.
  have hEntry :
      (phase.effect view).entry = view.entry ∨
        (phase.effect view).entry = none := by
    cases phase with
    | removeEntry op => exact Or.inr rfl
    | insertEntry entry => cases hPhase
    | _ => exact Or.inl rfl
  have hWords : (phase.effect view).words ⊆ view.words := by
    cases phase with
    | editLabels op old => exact Set.sdiff_subset
    | addWords entry => cases hPhase
    | _ => exact Set.Subset.refl _
  have hTags : (phase.effect view).tags ⊆ view.tags := by
    cases phase with
    | editTags op old => exact Set.sdiff_subset
    | addTags entry => cases hPhase
    | _ => exact Set.Subset.refl _
  have hCopy :
      ∀ old : StateIndexEntry,
        view.entry = some old ∨ view.entry = none →
          (phase.effect view).entry = some old ∨
            (phase.effect view).entry = none := by
    intro old hOld
    rcases hEntry with hSame | hGone
    · rw [hSame]
      exact hOld
    · exact Or.inr hGone
  cases other with
  | editLabels op old =>
      rcases hReady with ⟨hOld, hFound, hTagged⟩
      exact
        ⟨hCopy old hOld, hWords.trans hFound,
          hTags.trans hTagged⟩
  | editTags op old =>
      rcases hReady with ⟨hOld, hFound, hTagged⟩
      rw [hFound] at hWords
      exact
        ⟨hCopy old hOld, Set.subset_empty_iff.mp hWords,
          hTags.trans hTagged⟩
  | removeEntry op =>
      rcases hReady with ⟨hFound, hTagged⟩
      rw [hFound] at hWords
      rw [hTagged] at hTags
      exact
        ⟨Set.subset_empty_iff.mp hWords,
          Set.subset_empty_iff.mp hTags⟩
  | _ => cases hOther

end SearchPhase

------------------------------------------------------------
-- Calls Among Each Other
------------------------------------------------------------

section Guarding

variable [Unicode]
variable {index : StateSearchIndex}
variable {calls calls' rest : List SearchPhase}
variable {phase : SearchPhase} {stateId : StateId}

/- Two calls are on different states, or both remove. -/
def Apart
    (first second : SearchPhase) : Prop :=
  ∀ stateId,
    first.underWay = some stateId →
      second.underWay = some stateId →
        first.isRemoval = true ∧ second.isRemoval = true

omit [Unicode] in
theorem Apart.symm
    {first second : SearchPhase}
    (hApart : Apart first second) :
    Apart second first := by
  intro stateId hSecond hFirst
  exact (hApart stateId hFirst hSecond).symm

/-
  Started calls find what they rely on, and the view of a
  state no call is working on is exact.
-/
structure Guarded
    (index : StateSearchIndex)
    (calls : List SearchPhase) : Prop where
  tidy : index.Tidy
  ready :
    ∀ stateId, ∀ call ∈ calls,
      call.underWay = some stateId →
        call.Ready (index.view stateId)
  idle :
    ∀ stateId,
      (∀ call ∈ calls, call.underWay ≠ some stateId) →
        (index.view stateId).Exact
  apart : calls.Pairwise Apart

/- The order of the calls does not matter. -/
theorem Guarded.perm
    (hGuarded : Guarded index calls)
    (hPerm : calls.Perm calls') :
    Guarded index calls' where
  tidy := hGuarded.tidy
  ready := by
    intro stateId call hCall
    exact
      hGuarded.ready stateId call (hPerm.mem_iff.mpr hCall)
  idle := by
    intro stateId hIdle
    apply hGuarded.idle
    intro call hCall
    exact hIdle call (hPerm.mem_iff.mp hCall)
  apart :=
    (hPerm.pairwise_iff fun hApart => hApart.symm).mp
      hGuarded.apart

/- A call that has started stays on its state, as it is. -/
theorem underWay_step
    (hStarted : phase.underWay ≠ none)
    (hNext :
      (phase.step index).1.underWay = some stateId) :
    phase.underWay = some stateId ∧
      (phase.isRemoval = true →
        (phase.step index).1.isRemoval = true) := by
  cases phase with
  | readOld op => exact absurd rfl hStarted
  | removeEntry op =>
      cases op with
      | indexState entry => exact ⟨hNext, nofun⟩
      | removeState stateId => cases hNext
  | editLabels op old => exact ⟨hNext, id⟩
  | editTags op old => exact ⟨hNext, id⟩
  | insertEntry entry => exact ⟨hNext, nofun⟩
  | addWords entry => exact ⟨hNext, nofun⟩
  | addTags entry => cases hNext
  | finished => exact absurd rfl hStarted

/- A started call takes its next step. -/
theorem Guarded.step_started
    (hGuarded : Guarded index (phase :: rest))
    (hStarted : phase.underWay ≠ none) :
    Guarded (phase.step index).2
      ((phase.step index).1 :: rest) := by
  have hApart := List.pairwise_cons.mp hGuarded.apart
  constructor
  · exact phase.tidy_step hGuarded.tidy
  · intro stateId call hCall hUnderWay
    rw [SearchPhase.view_step]
    rcases List.mem_cons.mp hCall with rfl | hOther
    · rcases underWay_step hStarted hUnderWay with ⟨hOwn, _⟩
      rw [if_pos hOwn]
      have hReady :=
        hGuarded.ready stateId phase List.mem_cons_self hOwn
      exact (SearchPhase.ready_step hReady hStarted).1
    · have hReady :=
        hGuarded.ready stateId call
          (List.mem_cons_of_mem phase hOther) hUnderWay
      split
      · next hOwn =>
          rcases hApart.1 call hOther stateId hOwn
              hUnderWay with
            ⟨hPhase, hCallRemoves⟩
          exact
            SearchPhase.ready_of_removals hReady
              hCallRemoves hPhase
      · exact hReady
  · intro stateId hIdle
    rw [SearchPhase.view_step]
    have hNext := hIdle _ List.mem_cons_self
    split
    · next hOwn =>
        have hReady :=
          hGuarded.ready stateId phase List.mem_cons_self
            hOwn
        have hLast :
            (phase.step index).1.underWay = none := by
          cases hCase : (phase.step index).1.underWay with
          | none => rfl
          | some other =>
              have hSame :=
                (underWay_step hStarted hCase).1
              rw [hOwn] at hSame
              rw [hSame] at hNext
              exact absurd hCase hNext
        exact
          (SearchPhase.ready_step hReady hStarted).2 hLast
    · next hOwn =>
        apply hGuarded.idle
        intro call hCall
        rcases List.mem_cons.mp hCall with rfl | hOther
        · exact hOwn
        · exact hIdle call (List.mem_cons_of_mem _ hOther)
  · refine List.pairwise_cons.mpr ⟨?_, hApart.2⟩
    intro call hCall stateId hNext hUnderWay
    rcases underWay_step hStarted hNext with ⟨hOwn, hKeeps⟩
    rcases hApart.1 call hCall stateId hOwn hUnderWay with
      ⟨hPhase, hCallRemoves⟩
    exact ⟨hKeeps hPhase, hCallRemoves⟩

/- What a removal under way leaves for another one. -/
theorem ready_of_removal
    {op : SearchOp}
    {view : IndexView}
    (hReady : phase.Ready view)
    (hRemoval : op.isRemoval = true)
    (hPhase : phase.isRemoval = true) :
    (op.afterRead view.entry).Ready view := by
  cases hEntry : view.entry with
  | none =>
      cases op with
      | indexState entry => cases hRemoval
      | removeState stateId => trivial
  | some old =>
      have hCopy :
          ∀ copy : StateIndexEntry,
            view.entry = some copy ∨ view.entry = none →
              copy = old := by
        intro copy hFound
        rw [hEntry] at hFound
        rcases hFound with hSame | hNone
        · exact (Option.some.inj hSame).symm
        · cases hNone
      refine ⟨Or.inl hEntry, ?_⟩
      cases phase with
      | editLabels other copy =>
          rcases hReady with ⟨hFound, hWords, hTags⟩
          rw [hCopy copy hFound] at hWords hTags
          exact ⟨hWords, hTags⟩
      | editTags other copy =>
          rcases hReady with ⟨hFound, hWords, hTags⟩
          rw [hCopy copy hFound] at hTags
          exact ⟨by simp [hWords], hTags⟩
      | removeEntry other =>
          rcases hReady with ⟨hWords, hTags⟩
          exact ⟨by simp [hWords], by simp [hTags]⟩
      | _ => cases hPhase

omit [Unicode] in
/- A call that has read stays on its state, as it is. -/
theorem underWay_afterRead
    {op : SearchOp}
    {found : Option StateIndexEntry}
    (hUnderWay :
      (op.afterRead found).underWay = some stateId) :
    stateId = op.stateId ∧
      (op.isRemoval = true →
        (op.afterRead found).isRemoval = true) := by
  cases found with
  | none =>
      cases op with
      | indexState entry =>
          exact ⟨(Option.some.inj hUnderWay).symm, nofun⟩
      | removeState other => cases hUnderWay
  | some old => exact ⟨(Option.some.inj hUnderWay).symm, id⟩

/- An exact view is what a call that starts relies on. -/
theorem ready_of_exact
    {op : SearchOp}
    {view : IndexView}
    (hExact : view.Exact) :
    (op.afterRead view.entry).Ready view := by
  rcases hExact with ⟨hWords, hTags⟩
  cases hEntry : view.entry with
  | none =>
      rw [hEntry] at hWords hTags
      cases op with
      | indexState entry => exact ⟨hWords, hTags⟩
      | removeState stateId => trivial
  | some old =>
      rw [hEntry] at hWords hTags
      exact
        ⟨Or.inl hEntry, hWords.subset, hTags.subset⟩

/- A call starts where no other one is in its way. -/
theorem Guarded.step_readOld
    {op : SearchOp}
    (hGuarded : Guarded index (.readOld op :: rest))
    (hAlone :
      ∀ other ∈ rest, other.underWay = some op.stateId →
        op.isRemoval = true ∧ other.isRemoval = true) :
    Guarded ((SearchPhase.readOld op).step index).2
      (((SearchPhase.readOld op).step index).1 :: rest) := by
  have hApart := List.pairwise_cons.mp hGuarded.apart
  constructor
  · exact hGuarded.tidy
  · intro stateId call hCall hUnderWay
    rcases List.mem_cons.mp hCall with rfl | hOther
    · rw [(underWay_afterRead hUnderWay).1]
      by_cases hIdle :
          ∀ other ∈ rest, other.underWay ≠ some op.stateId
      · refine
          ready_of_exact (hGuarded.idle op.stateId ?_)
        intro other hOther
        rcases List.mem_cons.mp hOther with rfl | hRest
        · exact nofun
        · exact hIdle other hRest
      · -- Another call is removing the state meanwhile.
        simp only [not_forall, not_not] at hIdle
        rcases hIdle with ⟨other, hOther, hBusy⟩
        rcases hAlone other hOther hBusy with
          ⟨hRemoval, hOtherRemoves⟩
        have hReady :=
          hGuarded.ready op.stateId other
            (List.mem_cons_of_mem _ hOther) hBusy
        exact
          ready_of_removal hReady hRemoval hOtherRemoves
    · exact
        hGuarded.ready stateId call
          (List.mem_cons_of_mem _ hOther) hUnderWay
  · intro stateId hIdle
    apply hGuarded.idle
    intro call hCall
    rcases List.mem_cons.mp hCall with rfl | hOther
    · exact nofun
    · exact hIdle call (List.mem_cons_of_mem _ hOther)
  · refine List.pairwise_cons.mpr ⟨?_, hApart.2⟩
    intro call hCall stateId hUnderWay hBusy
    rcases underWay_afterRead hUnderWay with ⟨rfl, hKeeps⟩
    rcases hAlone call hCall hBusy with
      ⟨hRemoval, hCallRemoves⟩
    exact ⟨hKeeps hRemoval, hCallRemoves⟩

/- One step of one call among others. -/
theorem guarded_step
    (system : ConcurrentSearch)
    (position : Nat)
    (hGuarded : Guarded system.shared system.calls)
    (hAlone : system.StartsAlone position) :
    Guarded
      (Interleaved.step SearchPhase.step system
        position).shared
      (Interleaved.step SearchPhase.step system
        position).calls := by
  refine
    Interleaved.invariant_step
      (I := Guarded) Guarded.perm ?_ hGuarded
  intro phase hCall hNow
  by_cases hStarted : phase.underWay = none
  · cases phase with
    | readOld op =>
        apply hNow.step_readOld
        intro other hOther
        exact
          hAlone op (by rw [hCall]; rfl) other
            (List.mem_of_mem_eraseIdx hOther)
    | finished => exact hNow
    | _ => cases hStarted
  · exact hNow.step_started hStarted

theorem guarded_start
    (ops : List SearchOp) :
    Guarded (ConcurrentSearch.start ops).shared
      (ConcurrentSearch.start ops).calls := by
  have hIdle :
      ∀ call ∈ (ConcurrentSearch.start ops).calls,
        call.underWay = none := by
    intro call hCall
    rcases List.mem_map.mp hCall with ⟨op, _, rfl⟩
    rfl
  constructor
  · exact StateSearchIndex.tidy_new
  · intro stateId call hCall hUnderWay
    rw [hIdle call hCall] at hUnderWay
    cases hUnderWay
  · intro stateId _
    exact StateSearchIndex.coupled_new.exact stateId
  · apply List.pairwise_of_forall_mem_list
    intro first hFirst second _ stateId hUnderWay
    rw [hIdle first hFirst] at hUnderWay
    cases hUnderWay

end Guarding

------------------------------------------------------------
-- Searches Afterwards
------------------------------------------------------------

namespace StateSearchIndex

variable [Unicode] [BuildProfile]
variable {index : StateSearchIndex}

/-
  What is found by a word or a tag has it now, and so has
  what a search with a tag filter returns.
-/
structure NoStaleHits
    (index : StateSearchIndex) : Prop where
  words :
    ∀ word, ∀ stateId ∈
        InvertedIndex.ids index.labelIndex word,
      ∃ entry,
        index.entries.lookup stateId = some entry ∧
          word ∈ tokenize entry.label
  tags :
    ∀ tag, ∀ stateId ∈ InvertedIndex.ids index.tagIndex tag,
      ∃ entry,
        index.entries.lookup stateId = some entry ∧
          tag ∈ entry.tags
  hits :
    ∀ (order : HashMap.Iteration index.entries) query tags
        result,
      query.tags = some tags →
        index.search order query = some result →
          ∀ entry ∈ result.results,
            index.entries.lookup entry.stateId =
                some entry ∧
              ∀ tag ∈ tags, tag ∈ entry.tags

/- Results are among the matching entries. -/
theorem mem_matching_of_search
    {order : HashMap.Iteration index.entries}
    {query : SearchQuery}
    {result : SearchResult}
    {entry : StateIndexEntry}
    (hSearch : index.search order query = some result)
    (hEntry : entry ∈ result.results) :
    entry ∈ index.matching order query := by
  unfold search at hSearch
  simp only [Option.bind_eq_bind, Option.bind_eq_some_iff]
    at hSearch
  rcases hSearch with ⟨sum, _, rounded, _, hSearch⟩
  split at hSearch
  · cases hSearch
  · simp only [Option.pure_def, Option.bind_eq_some_iff]
      at hSearch
    rcases hSearch with ⟨first, _, hSearch⟩
    split at hSearch
    · cases hSearch
    · cases hSearch
      exact List.mem_of_mem_drop (List.mem_of_mem_take hEntry)

omit [BuildProfile] in
/- Matching entries are stored, and pass the tag filter. -/
theorem of_mem_matching
    {order : HashMap.Iteration index.entries}
    {query : SearchQuery}
    {tags : List String}
    {entry : StateIndexEntry}
    (hTags : query.tags = some tags)
    (hEntry : entry ∈ index.matching order query) :
    (∃ stateId,
        index.entries.lookup stateId = some entry) ∧
      ∀ tag ∈ tags,
        tag ∈ entry.tags ∨
          entry.stateId ∈
            InvertedIndex.ids index.tagIndex tag := by
  unfold matching at hEntry
  dsimp only at hEntry
  rw [List.mem_mergeSort] at hEntry
  have hTagged := (List.mem_filter.mp hEntry).1
  unfold tagMatches at hTagged
  rw [hTags] at hTagged
  rcases List.mem_filter.mp hTagged with ⟨hText, hAll⟩
  constructor
  · have hVisited : entry ∈ order.entries.map (·.2) := by
      unfold textMatches at hText
      split at hText
      · exact (List.mem_filter.mp hText).1
      · exact hText
    rcases List.mem_map.mp hVisited with
      ⟨⟨stateId, stored⟩, hPair, rfl⟩
    exact ⟨stateId, (order.mem_iff stateId stored).mp hPair⟩
  · intro tag hTag
    exact of_decide_eq_true (List.all_eq_true.mp hAll tag hTag)

/- Exact indexes lead to current entries only. -/
theorem Coupled.noStale
    (hCoupled : index.Coupled) :
    index.NoStaleHits where
  words := fun _ _ hListed =>
    hCoupled.mem_words_iff.mp hListed
  tags := fun _ _ hListed => hCoupled.mem_tags_iff.mp hListed
  hits := by
    intro order query tags result hTags hSearch entry hEntry
    rcases of_mem_matching hTags
        (mem_matching_of_search hSearch hEntry) with
      ⟨⟨stateId, hLookup⟩, hAll⟩
    have hKey : entry.stateId = stateId :=
      hCoupled.tidy.keyed stateId entry hLookup
    subst hKey
    refine ⟨hLookup, ?_⟩
    intro tag hTag
    rcases hAll tag hTag with hOwn | hListed
    · exact hOwn
    · rcases hCoupled.mem_tags_iff.mp hListed with
        ⟨current, hCurrent, hMember⟩
      rw [hLookup] at hCurrent
      cases hCurrent
      exact hMember

end StateSearchIndex

namespace ConcurrentSearch

variable [Unicode] [BuildProfile]

/-
  If no call starts while another one on its state is under
  way, removals of it apart, then no stale hits are left
  whenever all calls have returned.
-/
theorem noStaleHits
    (ops : List SearchOp)
    (schedule : List Nat)
    (hAlone :
      Runs.AlongRun (Interleaved.step SearchPhase.step)
        StartsAlone (start ops) schedule) :
    Runs.Throughout (Interleaved.step SearchPhase.step)
      (fun system =>
        AllFinished system →
          system.shared.NoStaleHits)
      (start ops) schedule := by
  have hGuarded :
      Runs.Throughout (Interleaved.step SearchPhase.step)
        (fun system =>
          Guarded system.shared system.calls)
        (start ops) schedule :=
    Runs.throughout_of_alongRun guarded_step
      (guarded_start ops) hAlone
  refine hGuarded.mono ?_
  intro system hNow hFinished
  refine StateSearchIndex.Coupled.noStale ⟨hNow.tidy, ?_⟩
  intro stateId
  apply hNow.idle
  intro call hCall
  rw [hFinished call hCall]
  exact nofun

------------------------------------------------------------
-- Sample Runs
------------------------------------------------------------

end ConcurrentSearch

namespace SearchSample

scoped instance : Unicode where
  toLowercase := fun text =>
    String.ofList (text.toList.map Char.toLower)
  isAlphanumeric := Char.isAlphanum

scoped instance : BuildProfile :=
  ⟨true⟩

/- An entry of one state with one tag. -/
def entryWith
    (tag : String) : StateIndexEntry where
  stateId := ⟨"state"⟩
  label := "label"
  tags := [tag]
  createdAt := DateTime.unixEpoch
  sizeBytes := 0
  owner := "owner"

/- The state is indexed with one tag and with another. -/
def twoTags : List SearchOp :=
  [.indexState (entryWith "old"),
    .indexState (entryWith "new")]

/- One call after the other. -/
def inTurn : List Nat :=
  [0, 0, 0, 0, 1, 1, 1, 1, 1, 1, 1]

/- Both calls find no old entry; the second one inserts. -/
def atOnce : List Nat :=
  [0, 1, 0, 0, 0, 1, 1, 1]

end SearchSample

namespace ConcurrentSearch

open SearchSample

theorem noStaleHits_inTurn :
    Runs.Throughout (Interleaved.step SearchPhase.step)
      (fun system =>
        AllFinished system →
          system.shared.NoStaleHits)
      (start twoTags) inTurn := by
  exact noStaleHits twoTags inTurn (by decide +kernel)

/- The state is still found by the tag it does not have. -/
theorem noStaleHits_atOnce :
    AllFinished
        (Runs.run (Interleaved.step SearchPhase.step)
          (start twoTags) atOnce) ∧
      ¬ (Runs.run (Interleaved.step SearchPhase.step)
          (start twoTags) atOnce).shared.NoStaleHits := by
  refine ⟨by decide +kernel, ?_⟩
  intro hNoStale
  have hFound :=
    hNoStale.tags "old" ⟨"state"⟩ (by decide +kernel)
  have hCurrent :
      (Runs.run (Interleaved.step SearchPhase.step)
            (start twoTags)
            atOnce).shared.entries.lookup
          ⟨"state"⟩ =
        some (entryWith "new") := by
    decide +kernel
  rcases hFound with ⟨entry, hEntry, hTag⟩
  rw [hCurrent] at hEntry
  cases hEntry
  revert hTag
  decide +kernel

end ConcurrentSearch

end IsaWorkspace
