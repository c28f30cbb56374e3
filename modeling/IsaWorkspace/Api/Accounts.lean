import IsaWorkspace.Api.Requests

/-
  What can be read is what has been answered as stored.

  Every snapshot and every fork stores its state under an id
  of its own.  If these ids are drawn without repetition, the
  catalogue at any moment is accounted for by the answers so
  far: no order of steps loses a stored state, and none shows
  a state whose request was not answered with success.

  Every state also goes back to a snapshot.  A fork copies
  all that is captured of a state and changes only its id,
  its stream, its label and its time.  So what can be read,
  forked or resumed has the captured parts of a snapshot
  that was answered with success in the same run, however
  many forks lie between and whatever was deleted.

  Main declarations:
    * `ApiCall.kept`, `ApiCall.ownId`
    * `ApiCall.step_cases`
    * `ApiSystem.Accounted`
    * `ApiSystem.accounted_of_run`
    * `State.SameCapture`, `ApiCall.Traced`
    * `ApiSystem.Traced`
    * `ApiSystem.traced_of_run`
-/

------------------------------------------------------------
-- Own Ids
------------------------------------------------------------

namespace IsaWorkspace

namespace ApiCall

/- The state that a call has been answered as stored. -/
def kept : ApiCall → Option State
| .snapshotted _ newState _ => some newState
| .forked _ newState _ => some newState
| _ => none

/- The id that a call draws for the state that it stores. -/
def ownId : ApiCall → Option StateId
| .snapshot _ fresh => some ⟨fresh.stateId⟩
| .storing _ newState _ _ => some newState.stateId
| .snapshotted _ newState _ => some newState.stateId
| .fork _ fresh => some ⟨fresh.stateId⟩
| .copying _ newState _ _ => some newState.stateId
| .forked _ newState _ => some newState.stateId
| _ => none

/- The id that a call has been answered as deleted. -/
def dropped : ApiCall → Option StateId
| .deleted response => some ⟨response.stateId⟩
| _ => none

theorem ownId_of_kept
    {call : ApiCall}
    {state : State}
    (hKept : call.kept = some state) :
    call.ownId = some state.stateId := by
  cases call with
  | snapshotted instanceId newState response =>
      cases hKept
      rfl
  | forked original newState response =>
      cases hKept
      rfl
  | _ => cases hKept

end ApiCall

namespace ApiService

/- A snapshot that is taken is of the one configuration. -/
theorem takeSnapshot_of_ok
    [BuildProfile] [PathDebug]
    {payload : SnapshotRequest}
    {fresh : SnapshotFresh}
    {service after : ApiService}
    {newState : State}
    (hTaken :
      takeSnapshot payload fresh service =
        (.ok newState, after)) :
    ∃ ttlSeconds vmSnapshot,
      newState =
        snapshotState payload fresh ttlSeconds vmSnapshot := by
  unfold takeSnapshot at hTaken
  by_cases hLabel : payload.label = ""
  · rw [if_pos hLabel] at hTaken
    cases hTaken
  · rw [if_neg hLabel] at hTaken
    rcases Exec.of_bind_ok hTaken with
      ⟨ttlSeconds, parsed, _, hParsed⟩
    rcases Exec.of_bind_ok hParsed with
      ⟨_, created, _, hCreated⟩
    rcases Exec.of_bind_ok hCreated with
      ⟨_, booted, _, hBooted⟩
    rcases Exec.of_bind_ok hBooted with
      ⟨vmSnapshot, taken, _, hPure⟩
    cases hPure
    exact ⟨ttlSeconds, vmSnapshot, rfl⟩

end ApiService

end IsaWorkspace

------------------------------------------------------------
-- Three Kinds of Steps
------------------------------------------------------------

namespace IsaWorkspace

namespace ApiCall

/- What a step does to a catalogue, with what it answers. -/
inductive Accounting
    (before after : ApiCall)
    (catalogue catalogue' : Catalogue) : Prop where
  | keep
      (newState : State)
      (pending : before.kept = none ∧ before.dropped = none)
      (own : before.ownId = some newState.stateId)
      (kept : after.kept = some newState)
      (dropped : after.dropped = none)
      (change : catalogue' = catalogue.keep newState)
  | drop
      (stateId : StateId)
      (pending : before.kept = none ∧ before.dropped = none)
      (kept : after.kept = none)
      (own : after.ownId = none)
      (dropped : after.dropped = some stateId)
      (change : catalogue' = catalogue.drop stateId)
  | idle
      (kept : after.kept = before.kept)
      (dropped : after.dropped = before.dropped)
      (own : after.ownId = before.ownId ∨ after.ownId = none)
      (change : catalogue' = catalogue)

/- A step of a handler returns, or it ends the call. -/
theorem advance_cases
    {α : Type}
    (result : Outcome Refusal α × ApiService)
    (next : α → ApiCall) :
    (∃ value after,
        result = (.ok value, after) ∧
          (advance result next).1 = next value) ∨
      (∃ answer, (advance result next).1 = .refused answer) ∨
      (advance result next).1 = .panicked := by
  rcases result with ⟨outcome, after⟩
  cases outcome with
  | ok value => exact .inl ⟨value, after, rfl, rfl⟩
  | err answer => exact .inr (.inl ⟨answer, rfl⟩)
  | panicked => exact .inr (.inr rfl)

/- A call that ends without a response is accounted for. -/
theorem accounting_of_failed
    {call next : ApiCall}
    {catalogue catalogue' : Catalogue}
    (hFailed :
      (∃ answer, next = .refused answer) ∨ next = .panicked)
    (hPending : call.kept = none ∧ call.dropped = none)
    (hChange : catalogue' = call.effect next catalogue) :
    Accounting call next catalogue catalogue' := by
  rcases hFailed with ⟨answer, rfl⟩ | rfl
  · refine .idle hPending.1.symm hPending.2.symm (.inr rfl) ?_
    rw [hChange]
    cases call <;> rfl
  · refine .idle hPending.1.symm hPending.2.symm (.inr rfl) ?_
    rw [hChange]
    cases call <;> rfl

variable [BuildProfile] [PathDebug]
variable [Sha256] [SerdeJson State]
variable {used : Set Bytes} {service : ApiService}

/-
  A step of a handler is accounted for if what it returns is.
-/
theorem accounting_of_advance
    {α : Type}
    {call : ApiCall}
    {result : Outcome Refusal α × ApiService}
    {next : α → ApiCall}
    (hServed : Served used service call)
    (hStep : call.step service = advance result next)
    (hPending : call.kept = none ∧ call.dropped = none)
    (hReturns :
      ∀ value after catalogue',
        result = (.ok value, after) →
          catalogue' =
              call.effect (next value) service.catalogue →
            Accounting call (next value) service.catalogue
              catalogue') :
    Accounting call (call.step service).1 service.catalogue
      (call.step service).2.catalogue := by
  have hEffect := hServed.effect
  rcases advance_cases result next with
    ⟨value, after, hResult, hNext⟩ | hFailed
  · rw [← hStep] at hNext
    rw [hNext] at hEffect ⊢
    exact hReturns value after _ hResult hEffect
  · rw [← hStep] at hFailed
    exact accounting_of_failed hFailed hPending hEffect

/- Every step that is served is of one of the three kinds. -/
theorem step_cases
    {call : ApiCall}
    (hServed : Served used service call) :
    Accounting call (call.step service).1 service.catalogue
      (call.step service).2.catalogue := by
  cases call with
  | snapshot payload fresh =>
      apply accounting_of_advance hServed rfl ⟨rfl, rfl⟩
      intro newState after catalogue' hTaken hEffect
      rcases ApiService.takeSnapshot_of_ok hTaken with
        ⟨ttlSeconds, vmSnapshot, rfl⟩
      exact .idle rfl rfl (.inl rfl) hEffect
  | storing instanceId newState now storedAt =>
      apply accounting_of_advance hServed rfl ⟨rfl, rfl⟩
      intro response after catalogue' _ hEffect
      exact .keep newState ⟨rfl, rfl⟩ rfl rfl rfl hEffect
  | resume payload fresh =>
      apply accounting_of_advance hServed rfl ⟨rfl, rfl⟩
      intro original after catalogue' _ hEffect
      exact .idle rfl rfl (.inr rfl) hEffect
  | booting payload fresh original =>
      apply accounting_of_advance hServed rfl ⟨rfl, rfl⟩
      intro response after catalogue' _ hEffect
      exact .idle rfl rfl (.inr rfl) hEffect
  | fork payload fresh =>
      apply accounting_of_advance hServed rfl ⟨rfl, rfl⟩
      intro original after catalogue' _ hEffect
      exact .idle rfl rfl (.inl rfl) hEffect
  | copying original newState now storedAt =>
      apply accounting_of_advance hServed rfl ⟨rfl, rfl⟩
      intro response after catalogue' _ hEffect
      exact .keep newState ⟨rfl, rfl⟩ rfl rfl rfl hEffect
  | delete payload =>
      apply accounting_of_advance hServed rfl ⟨rfl, rfl⟩
      intro response after catalogue' _ hEffect
      exact .drop _ ⟨rfl, rfl⟩ rfl rfl rfl hEffect
  | _ => exact .idle rfl rfl (.inl rfl) hServed.effect

end ApiCall

end IsaWorkspace

------------------------------------------------------------
-- Accounts
------------------------------------------------------------

namespace IsaWorkspace

/- What can be read is accounted for by answers. -/
structure Catalogue.AccountedBy
    (catalogue : Catalogue)
    (calls : List ApiCall) : Prop where
  sound :
    ∀ stateId state,
      catalogue stateId = some state →
        state.stateId = stateId ∧
          ∃ call ∈ calls, call.kept = some state
  durable :
    ∀ call ∈ calls, ∀ state, call.kept = some state →
      catalogue state.stateId = some state ∨
        catalogue state.stateId = none ∧
          ∃ other ∈ calls,
            other.dropped = some state.stateId

/- No two calls store a state under the same id. -/
def OwnIdsDistinct
    (calls : List ApiCall) : Prop :=
  (calls.filterMap ApiCall.ownId).Nodup

namespace Catalogue

variable {catalogue catalogue' : Catalogue}
variable {call next : ApiCall} {calls calls' rest : List ApiCall}

theorem AccountedBy.perm
    (hAccounted : catalogue.AccountedBy calls)
    (hPerm : calls.Perm calls') :
    catalogue.AccountedBy calls' where
  sound := by
    intro stateId state hState
    rcases hAccounted.sound stateId state hState with
      ⟨hId, call, hCall, hKept⟩
    exact ⟨hId, call, hPerm.mem_iff.mp hCall, hKept⟩
  durable := by
    intro call hCall state hKept
    rcases
        hAccounted.durable call (hPerm.mem_iff.mpr hCall)
          state hKept with
      hStays | ⟨hGone, other, hOther, hDropped⟩
    · exact .inl hStays
    · exact
        .inr ⟨hGone, other, hPerm.mem_iff.mp hOther, hDropped⟩

/- A step draws no id that another call has drawn. -/
theorem ownIdsDistinct_step
    (hAccounting :
      call.Accounting next catalogue catalogue')
    (hDistinct : OwnIdsDistinct (call :: rest)) :
    OwnIdsDistinct (next :: rest) := by
  have hOwn :
      next.ownId = call.ownId ∨ next.ownId = none := by
    cases hAccounting with
    | keep newState pending own kept dropped change =>
        left
        rw [own, ApiCall.ownId_of_kept kept]
    | drop stateId pending kept own dropped change =>
        exact .inr own
    | idle kept dropped own change => exact own
  have hRest : OwnIdsDistinct rest := by
    apply List.Nodup.sublist ?_ hDistinct
    exact (List.sublist_cons_self call rest).filterMap _
  rcases hOwn with hSame | hNone
  · unfold OwnIdsDistinct at hDistinct ⊢
    rw [List.filterMap_cons, hSame, ← List.filterMap_cons]
    exact hDistinct
  · unfold OwnIdsDistinct
    rw [List.filterMap_cons, hNone]
    exact hRest

/- No other call has stored a state under a call's own id. -/
theorem ne_of_ownIdsDistinct
    (hDistinct : OwnIdsDistinct (call :: rest))
    {stateId : StateId}
    (hOwn : call.ownId = some stateId)
    {other : ApiCall}
    (hOther : other ∈ rest)
    {state : State}
    (hKept : other.kept = some state) :
    state.stateId ≠ stateId := by
  rintro rfl
  unfold OwnIdsDistinct at hDistinct
  rw [List.filterMap_cons, hOwn] at hDistinct
  apply (List.nodup_cons.mp hDistinct).1
  exact
    List.mem_filterMap.mpr
      ⟨other, hOther, ApiCall.ownId_of_kept hKept⟩

/- What one of the calls has, one of them has after a step. -/
theorem exists_mem_of_step
    {P : ApiCall → Prop}
    (hStep : P call → P next)
    (hBefore : ∃ other ∈ call :: rest, P other) :
    ∃ other ∈ next :: rest, P other := by
  rcases hBefore with ⟨other, hOther, hHas⟩
  rcases List.mem_cons.mp hOther with rfl | hRest
  · exact ⟨next, List.mem_cons_self, hStep hHas⟩
  · exact ⟨other, List.mem_cons_of_mem next hRest, hHas⟩

/- A state that has been stored and is gone. -/
def Gone
    (catalogue : Catalogue)
    (calls : List ApiCall)
    (state : State) : Prop :=
  (∃ call ∈ calls, call.kept = some state) ∧
    catalogue state.stateId = none

/- What is gone is not stored again. -/
theorem gone_step
    {state : State}
    (hGone : catalogue.Gone (call :: rest) state)
    (hDistinct : OwnIdsDistinct (call :: rest))
    (hAccounting :
      call.Accounting next catalogue catalogue') :
    catalogue'.Gone (next :: rest) state := by
  rcases hGone with ⟨hKept, hNone⟩
  cases hAccounting with
  | keep newState pending own kept dropped change =>
      rcases hKept with ⟨other, hOther, hState⟩
      rcases List.mem_cons.mp hOther with rfl | hRest
      · rw [pending.1] at hState
        cases hState
      · have hNe :=
          ne_of_ownIdsDistinct hDistinct own hRest hState
        refine
          ⟨⟨other, List.mem_cons_of_mem next hRest, hState⟩,
            ?_⟩
        rw [change, keep_apply, if_neg hNe]
        exact hNone
  | drop stateId pending kept own dropped change =>
      refine ⟨exists_mem_of_step ?_ hKept, ?_⟩
      · intro hState
        rw [pending.1] at hState
        cases hState
      · rw [change, drop_apply, hNone, ite_self]
  | idle kept dropped own change =>
      refine ⟨exists_mem_of_step ?_ hKept, ?_⟩
      · exact fun hState => kept.trans hState
      · rw [change]
        exact hNone

/- A step keeps the accounts. -/
theorem AccountedBy.step
    (hAccounted : catalogue.AccountedBy (call :: rest))
    (hDistinct : OwnIdsDistinct (call :: rest))
    (hAccounting :
      call.Accounting next catalogue catalogue') :
    catalogue'.AccountedBy (next :: rest) := by
  cases hAccounting with
  | keep newState pending own kept dropped change =>
      have hCall :
          ∀ state, call.kept = some state →
            next.kept = some state := by
        intro state hKept
        rw [pending.1] at hKept
        cases hKept
      have hDropped :
          ∀ stateId, call.dropped = some stateId →
            next.dropped = some stateId := by
        intro stateId hSome
        rw [pending.2] at hSome
        cases hSome
      constructor
      · intro stateId state hState
        rw [change, keep_apply] at hState
        by_cases hId : stateId = newState.stateId
        · rw [if_pos hId] at hState
          cases hState
          exact ⟨hId.symm, next, List.mem_cons_self, kept⟩
        · rw [if_neg hId] at hState
          rcases hAccounted.sound stateId state hState with
            ⟨hOwner, hKept⟩
          exact
            ⟨hOwner, exists_mem_of_step (hCall state) hKept⟩
      · intro other hOther state hKept
        rw [change, keep_apply]
        rcases List.mem_cons.mp hOther with rfl | hRest
        · rw [kept] at hKept
          cases hKept
          exact .inl (if_pos rfl)
        · have hNe :=
            ne_of_ownIdsDistinct hDistinct own hRest hKept
          rw [if_neg hNe]
          rcases
              hAccounted.durable other
                (List.mem_cons_of_mem call hRest) state
                hKept with
            hStays | ⟨hGone, hDrop⟩
          · exact .inl hStays
          · exact
              .inr
                ⟨hGone,
                  exists_mem_of_step (hDropped _) hDrop⟩
  | drop stateId pending kept own dropped change =>
      have hCall :
          ∀ state, call.kept = some state →
            next.kept = some state := by
        intro state hKept
        rw [pending.1] at hKept
        cases hKept
      have hDropped :
          ∀ other, call.dropped = some other →
            next.dropped = some other := by
        intro other hSome
        rw [pending.2] at hSome
        cases hSome
      constructor
      · intro other state hState
        rw [change, drop_apply] at hState
        by_cases hId : other = stateId
        · rw [if_pos hId] at hState
          cases hState
        · rw [if_neg hId] at hState
          rcases hAccounted.sound other state hState with
            ⟨hOwner, hKept⟩
          exact
            ⟨hOwner, exists_mem_of_step (hCall state) hKept⟩
      · intro other hOther state hKept
        rw [change, drop_apply]
        rcases List.mem_cons.mp hOther with rfl | hRest
        · rw [kept] at hKept
          cases hKept
        · by_cases hId : state.stateId = stateId
          · rw [if_pos hId, hId]
            exact
              .inr ⟨rfl, next, List.mem_cons_self, dropped⟩
          · rw [if_neg hId]
            rcases
                hAccounted.durable other
                  (List.mem_cons_of_mem call hRest) state
                  hKept with
              hStays | ⟨hGone, hDrop⟩
            · exact .inl hStays
            · exact
                .inr
                  ⟨hGone,
                    exists_mem_of_step (hDropped _) hDrop⟩
  | idle kept dropped own change =>
      subst change
      constructor
      · intro stateId state hState
        rcases hAccounted.sound stateId state hState with
          ⟨hOwner, hKept⟩
        refine ⟨hOwner, exists_mem_of_step ?_ hKept⟩
        exact fun hCall => kept.trans hCall
      · intro other hOther state hKept
        have hBefore :
            ∃ earlier ∈ call :: rest,
              earlier.kept = some state := by
          rcases List.mem_cons.mp hOther with rfl | hRest
          · exact
              ⟨call, List.mem_cons_self, kept ▸ hKept⟩
          · exact
              ⟨other, List.mem_cons_of_mem call hRest, hKept⟩
        rcases hBefore with ⟨earlier, hEarlier, hHad⟩
        rcases
            hAccounted.durable earlier hEarlier state hHad with
          hStays | ⟨hGone, hDrop⟩
        · exact .inl hStays
        · refine
            .inr ⟨hGone, exists_mem_of_step ?_ hDrop⟩
          exact fun hCall => dropped.trans hCall

/-
  What does not depend on the order of the calls and is kept
  by each of the three kinds of steps.
-/
structure KeptByAccounting
    (K : Catalogue → List ApiCall → Prop) : Prop where
  perm :
    ∀ {catalogue calls calls'},
      K catalogue calls → calls.Perm calls' →
        K catalogue calls'
  step :
    ∀ {catalogue catalogue' call next rest},
      K catalogue (call :: rest) →
        OwnIdsDistinct (call :: rest) →
          call.Accounting next catalogue catalogue' →
            K catalogue' (next :: rest)

theorem accountedBy_kept : KeptByAccounting AccountedBy where
  perm := AccountedBy.perm
  step := AccountedBy.step

theorem gone_kept
    (state : State) :
    KeptByAccounting fun catalogue calls =>
      catalogue.Gone calls state where
  perm := by
    rintro catalogue calls calls' ⟨hKept, hNone⟩ hPerm
    rcases hKept with ⟨call, hCall, hState⟩
    exact ⟨⟨call, hPerm.mem_iff.mp hCall, hState⟩, hNone⟩
  step := gone_step

end Catalogue

end IsaWorkspace

------------------------------------------------------------
-- Runs
------------------------------------------------------------

namespace IsaWorkspace

namespace ApiSystem

variable [BuildProfile] [PathDebug]
variable [Sha256] [SerdeJson State]
variable {used : Set Bytes} {system : ApiSystem}

/- What can be read is accounted for by the calls so far. -/
def Accounted
    (system : ApiSystem) : Prop :=
  system.shared.catalogue.AccountedBy system.calls

/- What is kept by accounting is kept by every step. -/
theorem keptByCalls_of_accounting
    {K : Catalogue → List ApiCall → Prop}
    (hKeeps : Catalogue.KeptByAccounting K) :
    KeptByCalls used fun service calls =>
      OwnIdsDistinct calls ∧ K service.catalogue calls where
  perm := by
    rintro service calls calls' ⟨hDistinct, hK⟩ hPerm
    refine ⟨?_, hKeeps.perm hK hPerm⟩
    exact
      (hPerm.filterMap ApiCall.ownId).nodup_iff.mp hDistinct
  step := by
    rintro service call rest hServed ⟨hDistinct, hK⟩
    have hKind := ApiCall.step_cases hServed
    exact
      ⟨Catalogue.ownIdsDistinct_step hKind hDistinct,
        hKeeps.step hK hDistinct hKind⟩
  collector := by
    rintro service service' calls ⟨hDistinct, hK⟩ hStore _ _
    refine ⟨hDistinct, ?_⟩
    rw [ApiService.catalogue_of_store_eq hStore]
    exact hK

/- A new service is accounted for by requests alone. -/
omit [BuildProfile] [PathDebug] [Sha256] in
theorem accounted_start
    (now : DateTime)
    {calls : List ApiCall}
    (hRequests : ∀ call ∈ calls, call.IsRequest) :
    Accounted (start now calls) := by
  constructor
  · intro stateId state hState
    have hNone :
        (start now calls).shared.catalogue stateId = none :=
      StateStore.catalogue_new .default stateId
    rw [hNone] at hState
    cases hState
  · intro call hCall state hKept
    have hRequest := hRequests call hCall
    cases call with
    | snapshotted instanceId newState response =>
        exact hRequest.elim
    | forked original newState response =>
        exact hRequest.elim
    | _ => cases hKept

/-
  No state is lost and none comes from nowhere.  Whatever
  requests come in, with ids of their own, and in whatever
  order they and the collector take their steps: what can be
  read was answered as stored, what was answered as stored
  can be read until its id is answered as deleted, and then
  it never can be again.
-/
theorem accounted_of_run
    (now : DateTime)
    (calls : List ApiCall)
    (events : List ApiEvent)
    (hRequests : ∀ call ∈ calls, call.IsRequest)
    (hDistinct : OwnIdsDistinct calls)
    (hHash : Set.InjOn computeHash used)
    (hEncoded :
      Runs.AlongRun step (StoresEncoded used)
        (start now calls) events) :
    Runs.Throughout step Accounted (start now calls) events ∧
      ∀ earlier later, events = earlier ++ later →
        let before := Runs.run step (start now calls) earlier
        let after := Runs.run step before later
        ∀ state,
          before.shared.catalogue.Gone before.calls state →
            after.shared.catalogue.Gone after.calls state := by
  have hCatalogued : Catalogued used (start now calls) :=
    catalogued_start now calls
  have hAccounted := accounted_start now hRequests
  have hAccountedBy :
      KeptByCalls used fun service calls =>
        OwnIdsDistinct calls ∧
          service.catalogue.AccountedBy calls :=
    keptByCalls_of_accounting Catalogue.accountedBy_kept
  constructor
  · have hBoth :=
      throughout_of_calls hAccountedBy hHash hCatalogued
        ⟨hDistinct, hAccounted⟩ hEncoded
    exact hBoth.mono fun after hAfter => hAfter.2.2
  · rintro earlier later rfl
    dsimp only
    intro state hGone
    rcases Runs.alongRun_append.mp hEncoded with
      ⟨hEarlier, hLater⟩
    have hBefore :=
      (throughout_of_calls hAccountedBy hHash hCatalogued
        ⟨hDistinct, hAccounted⟩ hEarlier).last
    have hAfter :=
      throughout_of_calls
        (keptByCalls_of_accounting
          (Catalogue.gone_kept state))
        hHash hBefore.1 ⟨hBefore.2.1, hGone⟩ hLater
    exact hAfter.last.2.2

end ApiSystem

end IsaWorkspace

namespace IsaWorkspace

namespace ApiSystem

open ApiSample
open Sample (epoch)

theorem accounted_of_run_sample :
    OwnIdsDistinct calls ∧
      Runs.Throughout step Accounted (start epoch calls)
        events := by
  have hDistinct : OwnIdsDistinct calls := by
    unfold OwnIdsDistinct
    decide +kernel
  exact
    ⟨hDistinct,
      (accounted_of_run epoch calls events isRequest_of_mem
        hDistinct hash_injOn encoded).1⟩

end ApiSystem

end IsaWorkspace

------------------------------------------------------------
-- Captured Parts
------------------------------------------------------------

namespace IsaWorkspace

/- All that is captured of a running VM is the same. -/
structure State.SameCapture
    (left right : State) : Prop where
  vmConfig : left.vmConfig = right.vmConfig
  cpuState : left.cpuState = right.cpuState
  memoryManifest : left.memoryManifest = right.memoryManifest
  fdTable : left.fdTable = right.fdTable
  socketTable : left.socketTable = right.socketTable
  deviceState : left.deviceState = right.deviceState
  deterministicLog :
    left.deterministicLog = right.deterministicLog
  ttlSeconds :
    left.metadata.ttlSeconds = right.metadata.ttlSeconds

theorem State.SameCapture.refl
    (state : State) : state.SameCapture state :=
  ⟨rfl, rfl, rfl, rfl, rfl, rfl, rfl, rfl⟩

theorem State.SameCapture.trans
    {first second third : State}
    (hLeft : first.SameCapture second)
    (hRight : second.SameCapture third) :
    first.SameCapture third where
  vmConfig := hLeft.vmConfig.trans hRight.vmConfig
  cpuState := hLeft.cpuState.trans hRight.cpuState
  memoryManifest :=
    hLeft.memoryManifest.trans hRight.memoryManifest
  fdTable := hLeft.fdTable.trans hRight.fdTable
  socketTable := hLeft.socketTable.trans hRight.socketTable
  deviceState := hLeft.deviceState.trans hRight.deviceState
  deterministicLog :=
    hLeft.deterministicLog.trans hRight.deterministicLog
  ttlSeconds := hLeft.ttlSeconds.trans hRight.ttlSeconds

/- A fork captures nothing anew. -/
theorem sameCapture_forkedState
    (payload : ForkRequest)
    (fresh : ForkFresh)
    (original : State) :
    (forkedState payload fresh original).SameCapture
      original :=
  ⟨rfl, rfl, rfl, rfl, rfl, rfl, rfl, rfl⟩

/- A snapshot among the calls has captured the same. -/
def State.TracedTo
    (state : State)
    (calls : List ApiCall) : Prop :=
  ∃ instanceId snapped response,
    ApiCall.snapshotted instanceId snapped response ∈ calls ∧
      snapped.vmConfig = snapshotVmConfig ∧
      state.SameCapture snapped

namespace ApiCall

/- The state a call works on goes back to a snapshot. -/
def Traced
    (calls : List ApiCall) : ApiCall → Prop
| .storing _ newState _ _ =>
    newState.vmConfig = snapshotVmConfig
| .snapshotted _ newState _ => newState.TracedTo calls
| .booting _ _ original => original.TracedTo calls
| .resumed _ original _ => original.TracedTo calls
| .copying _ newState _ _ => newState.TracedTo calls
| .forked _ newState _ => newState.TracedTo calls
| _ => True

end ApiCall

variable {calls calls' : List ApiCall}

/- A trace is kept as long as the snapshots are there. -/
theorem State.TracedTo.mono
    {state : State}
    (hTraced : state.TracedTo calls)
    (hKept :
      ∀ instanceId snapped response,
        ApiCall.snapshotted instanceId snapped response ∈
            calls →
          ApiCall.snapshotted instanceId snapped response ∈
            calls') :
    state.TracedTo calls' := by
  rcases hTraced with
    ⟨instanceId, snapped, response, hCall, hConfig, hSame⟩
  exact
    ⟨instanceId, snapped, response, hKept _ _ _ hCall,
      hConfig, hSame⟩

theorem ApiCall.Traced.mono
    {call : ApiCall}
    (hTraced : call.Traced calls)
    (hKept :
      ∀ instanceId snapped response,
        ApiCall.snapshotted instanceId snapped response ∈
            calls →
          ApiCall.snapshotted instanceId snapped response ∈
            calls') :
    call.Traced calls' := by
  cases call with
  | storing instanceId newState now storedAt => exact hTraced
  | snapshotted instanceId newState response =>
      exact State.TracedTo.mono hTraced hKept
  | booting payload fresh original =>
      exact State.TracedTo.mono hTraced hKept
  | resumed instanceId original response =>
      exact State.TracedTo.mono hTraced hKept
  | copying original newState now storedAt =>
      exact State.TracedTo.mono hTraced hKept
  | forked original newState response =>
      exact State.TracedTo.mono hTraced hKept
  | _ => trivial

/- What can be read and what is worked on is traced. -/
structure Catalogue.TracedBy
    (catalogue : Catalogue)
    (calls : List ApiCall) : Prop where
  states :
    ∀ stateId state, catalogue stateId = some state →
      state.TracedTo calls
  calls : ∀ call ∈ calls, call.Traced calls

end IsaWorkspace

------------------------------------------------------------
-- One Step
------------------------------------------------------------

namespace IsaWorkspace

namespace ApiCall

/- What a step leads to is traced, if what it returns is. -/
theorem traced_of_advance
    {α : Type}
    {result : Outcome Refusal α × ApiService}
    {next : α → ApiCall}
    {calls : List ApiCall}
    (hReturns :
      ∀ value after, result = (.ok value, after) →
        (next value).Traced (next value :: calls)) :
    (advance result next).1.Traced
      ((advance result next).1 :: calls) := by
  rcases advance_cases result next with
    ⟨value, after, hResult, hNext⟩ | ⟨answer, hNext⟩ | hNext
  · rw [hNext]
    exact hReturns value after hResult
  · rw [hNext]
    trivial
  · rw [hNext]
    trivial

/- A call that starts from a state of the catalogue. -/
theorem traced_startsFrom
    {catalogue : Catalogue}
    {stateId : String}
    {next : State → ApiCall}
    {calls : List ApiCall}
    (hReturns :
      ∀ original, catalogue ⟨stateId⟩ = some original →
        (next original).Traced (next original :: calls)) :
    (startsFrom catalogue stateId next).Traced
      (startsFrom catalogue stateId next :: calls) := by
  unfold startsFrom
  split
  · trivial
  · cases hFound : catalogue ⟨stateId⟩ with
    | none => trivial
    | some original => exact hReturns original hFound

/- What a call has stored is what it works on. -/
theorem tracedTo_of_kept
    {call : ApiCall}
    {calls : List ApiCall}
    {state : State}
    (hTraced : call.Traced calls)
    (hKept : call.kept = some state) :
    state.TracedTo calls := by
  cases call with
  | snapshotted instanceId newState response =>
      cases hKept
      exact hTraced
  | forked original newState response =>
      cases hKept
      exact hTraced
  | _ => cases hKept

/- A call that has stored nothing yet is no snapshot. -/
theorem tracedTo_replace
    {call next : ApiCall}
    {rest : List ApiCall}
    {state : State}
    (hPending : call.kept = none)
    (hTraced : state.TracedTo (call :: rest)) :
    state.TracedTo (next :: rest) := by
  apply hTraced.mono
  rintro instanceId snapped response hMem
  rcases List.mem_cons.mp hMem with rfl | hRest
  · cases hPending
  · exact List.mem_cons_of_mem _ hRest

variable [BuildProfile] [PathDebug]
variable [Sha256] [SerdeJson State]
variable {used : Set Bytes} {service : ApiService}
variable {call : ApiCall} {rest : List ApiCall}

/- A snapshot that has been answered stays as it is. -/
theorem snapshotted_mem_step
    (call : ApiCall)
    (service : ApiService)
    {instanceId : String}
    {snapped : State}
    {response : SnapshotResponse}
    (hMem :
      snapshotted instanceId snapped response ∈
        call :: rest) :
    snapshotted instanceId snapped response ∈
      (call.step service).1 :: rest := by
  rcases List.mem_cons.mp hMem with rfl | hRest
  · exact List.mem_cons_self
  · exact List.mem_cons_of_mem _ hRest

/- Where a step leads to is traced. -/
theorem traced_next
    (hServed : Served used service call)
    (hTraced : service.catalogue.TracedBy (call :: rest)) :
    (call.step service).1.Traced
      ((call.step service).1 :: rest) := by
  have hAnswers := hServed.answers
  have hCall := hTraced.calls call List.mem_cons_self
  cases call with
  | snapshot payload fresh =>
      apply traced_of_advance
      intro newState after hTaken
      rcases ApiService.takeSnapshot_of_ok hTaken with
        ⟨ttlSeconds, vmSnapshot, rfl⟩
      exact rfl
  | storing instanceId newState now storedAt =>
      apply traced_of_advance
      intro response after _
      exact
        ⟨instanceId, newState, response,
          List.mem_cons_self, hCall, .refl newState⟩
  | resume payload fresh =>
      have hStep :
          ((ApiCall.resume payload fresh).step service).1 =
            startsFrom service.catalogue payload.stateId
              (.booting payload fresh) := hAnswers
      rw [hStep]
      apply traced_startsFrom
      intro original hFound
      exact
        tracedTo_replace rfl
          (hTraced.states _ original hFound)
  | booting payload fresh original =>
      apply traced_of_advance
      intro response after _
      exact tracedTo_replace rfl hCall
  | fork payload fresh =>
      have hStep :
          ((ApiCall.fork payload fresh).step service).1 =
            startsFrom service.catalogue payload.stateId
              fun original =>
                .copying original
                  (forkedState payload fresh original)
                  fresh.now fresh.storedAt := hAnswers
      rw [hStep]
      apply traced_startsFrom
      intro original hFound
      rcases
          tracedTo_replace rfl
            (hTraced.states _ original hFound) with
        ⟨instanceId, snapped, response, hMem, hConfig, hSame⟩
      exact
        ⟨instanceId, snapped, response, hMem, hConfig,
          (sameCapture_forkedState payload fresh
            original).trans hSame⟩
  | copying original newState now storedAt =>
      apply traced_of_advance
      intro response after _
      exact tracedTo_replace rfl hCall
  | delete payload =>
      apply traced_of_advance
      intro response after _
      trivial
  | snapshotted instanceId newState response => exact hCall
  | resumed instanceId original response => exact hCall
  | forked original newState response => exact hCall
  | _ => trivial

/- A step keeps everything traced. -/
theorem tracedBy_step
    (hServed : Served used service call)
    (hTraced : service.catalogue.TracedBy (call :: rest)) :
    (call.step service).2.catalogue.TracedBy
      ((call.step service).1 :: rest) := by
  have hNext := traced_next hServed hTraced
  have hKind := step_cases hServed
  have hMono :
      ∀ stateId state,
        service.catalogue stateId = some state →
          state.TracedTo ((call.step service).1 :: rest) := by
    intro stateId state hState
    apply (hTraced.states stateId state hState).mono
    intro instanceId snapped response hMem
    exact snapshotted_mem_step call service hMem
  constructor
  · intro stateId state hState
    cases hKind with
    | keep newState pending own kept dropped change =>
        rw [change, Catalogue.keep_apply] at hState
        by_cases hId : stateId = newState.stateId
        · rw [if_pos hId] at hState
          cases hState
          exact tracedTo_of_kept hNext kept
        · rw [if_neg hId] at hState
          exact hMono stateId state hState
    | drop gone pending kept own dropped change =>
        rw [change, Catalogue.drop_apply] at hState
        by_cases hId : stateId = gone
        · rw [if_pos hId] at hState
          cases hState
        · rw [if_neg hId] at hState
          exact hMono stateId state hState
    | idle kept dropped own change =>
        rw [change] at hState
        exact hMono stateId state hState
  · intro other hOther
    rcases List.mem_cons.mp hOther with rfl | hRest
    · exact hNext
    · have hBefore :=
        hTraced.calls other (List.mem_cons_of_mem call hRest)
      apply hBefore.mono
      intro instanceId snapped response hMem
      exact snapshotted_mem_step call service hMem

end ApiCall

end IsaWorkspace

------------------------------------------------------------
-- Runs
------------------------------------------------------------

namespace IsaWorkspace

namespace ApiSystem

variable [BuildProfile] [PathDebug]
variable [Sha256] [SerdeJson State]
variable {used : Set Bytes}

/- What can be read and what is worked on is traced. -/
def Traced
    (system : ApiSystem) : Prop :=
  system.shared.catalogue.TracedBy system.calls

theorem traced_kept :
    KeptByCalls used fun service calls =>
      service.catalogue.TracedBy calls where
  perm := by
    rintro service calls calls' hTraced hPerm
    constructor
    · intro stateId state hState
      apply (hTraced.states stateId state hState).mono
      intro instanceId snapped response hMem
      exact hPerm.mem_iff.mp hMem
    · intro call hCall
      apply (hTraced.calls call (hPerm.mem_iff.mpr hCall)).mono
      intro instanceId snapped response hMem
      exact hPerm.mem_iff.mp hMem
  step := fun hServed hTraced =>
    ApiCall.tracedBy_step hServed hTraced
  collector := by
    rintro service service' calls hTraced hStore _ _
    rw [ApiService.catalogue_of_store_eq hStore]
    exact hTraced

/- A new service has nothing that goes back to anything. -/
omit [BuildProfile] [PathDebug] [Sha256] in
theorem traced_start
    (now : DateTime)
    {calls : List ApiCall}
    (hRequests : ∀ call ∈ calls, call.IsRequest) :
    Traced (start now calls) := by
  constructor
  · intro stateId state hState
    have hNone :
        (start now calls).shared.catalogue stateId = none :=
      StateStore.catalogue_new .default stateId
    rw [hNone] at hState
    cases hState
  · intro call hCall
    have hRequest := hRequests call hCall
    cases call with
    | storing instanceId newState now storedAt =>
        exact hRequest.elim
    | snapshotted instanceId newState response =>
        exact hRequest.elim
    | booting payload fresh original => exact hRequest.elim
    | resumed instanceId original response =>
        exact hRequest.elim
    | copying original newState now storedAt =>
        exact hRequest.elim
    | forked original newState response =>
        exact hRequest.elim
    | _ => trivial

/-
  Every state goes back to a snapshot.  Whatever requests
  come in on a new service, in whatever order: all that is
  captured of a state that can be read, or that a resume or a
  fork works on, is what one snapshot of this run captured.
-/
theorem traced_of_run
    (now : DateTime)
    (calls : List ApiCall)
    (events : List ApiEvent)
    (hRequests : ∀ call ∈ calls, call.IsRequest)
    (hHash : Set.InjOn computeHash used)
    (hEncoded :
      Runs.AlongRun step (StoresEncoded used)
        (start now calls) events) :
    Runs.Throughout step Traced (start now calls) events := by
  have hBoth :=
    throughout_of_calls traced_kept hHash
      (catalogued_start now calls)
      (traced_start now hRequests) hEncoded
  exact hBoth.mono fun after hAfter => hAfter.2

end ApiSystem

end IsaWorkspace

namespace IsaWorkspace

namespace ApiSystem

open ApiSample
open Sample (epoch)

theorem traced_of_run_sample :
    Runs.Throughout step Traced (start epoch calls) events :=
  traced_of_run epoch calls events isRequest_of_mem
    hash_injOn encoded

end ApiSystem

end IsaWorkspace
