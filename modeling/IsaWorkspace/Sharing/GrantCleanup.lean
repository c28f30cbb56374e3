import IsaWorkspace.Sharing.Permissions

/-
  A cleanup of grants changes no answer.

  It drops grants that have expired, which no later check
  would have counted.  Two runs are compared by the grants
  that are valid from some instant on, in their order: the
  cleanup keeps these, every call keeps them alike, and the
  answers depend on nothing else.

  Main declarations:
    * `StateSharer.SameValid`, `StateSharer.SameAnswers`
    * `StateSharer.SameValid.sameAnswers`
    * `SharingHistory.Alike`, `alike_cleanup`, `alike_step`
    * `SharingHistory.sameAnswers_cleanup`
-/

------------------------------------------------------------
-- Answers
------------------------------------------------------------

namespace IsaWorkspace

namespace StateSharer

/- From an instant on, the same grants are valid. -/
def SameValid
    (clock : DateTime)
    (sharer other : StateSharer) : Prop :=
  ∀ stateId instant, clock ≤ instant →
    (sharer.grantsOf stateId).filter (·.isValid instant) =
      (other.grantsOf stateId).filter (·.isValid instant)

/- From an instant on, all questions have one answer. -/
def SameAnswers
    (clock : DateTime)
    (sharer other : StateSharer) : Prop :=
  ∀ instant, clock ≤ instant →
    ∀ stateId userId,
      (∀ required,
        sharer.checkPermission stateId userId required
            instant =
          other.checkPermission stateId userId required
            instant) ∧
        sharer.getPermission stateId userId instant =
          other.getPermission stateId userId instant ∧
        sharer.listGrantees stateId instant =
          other.listGrantees stateId instant

/- The level of a user is the one of a valid grant. -/
theorem getPermission_eq
    (sharer : StateSharer)
    (stateId : StateId)
    (userId : String)
    (now : DateTime) :
    sharer.getPermission stateId userId now =
      (((sharer.grantsOf stateId).filter
          (·.isValid now)).find? fun grant =>
            decide (grant.userId = userId)).map
        (·.permission) := by
  unfold getPermission grantsOf
  rw [List.find?_filter]
  cases sharer.grants.lookup stateId with
  | none => rfl
  | some stateGrants =>
      dsimp only [Option.getD_some]
      congr 2
      funext grant
      simp [Bool.and_comm]

/- The list is that of the valid grants. -/
theorem listGrantees_eq
    (sharer : StateSharer)
    (stateId : StateId)
    (now : DateTime) :
    sharer.listGrantees stateId now =
      (sharer.grantsOf stateId).filter (·.isValid now) := by
  unfold listGrantees grantsOf
  cases sharer.grants.lookup stateId with
  | none => rfl
  | some stateGrants => rfl

/- A check sees the valid grants only. -/
theorem checkPermission_eq_filter
    (sharer : StateSharer)
    (stateId : StateId)
    (userId : String)
    (required : Permission)
    (now : DateTime) :
    sharer.checkPermission stateId userId required now =
      checkGrants userId required now
        ((sharer.grantsOf stateId).filter
          (·.isValid now)) := by
  rw [checkPermission_eq,
    checkGrants_filter fun _ _ _ hValid => hValid]

/- All answers are told by the valid grants. -/
theorem SameValid.sameAnswers
    {clock : DateTime}
    {sharer other : StateSharer}
    (hSame : SameValid clock sharer other) :
    SameAnswers clock sharer other := by
  intro instant hInstant stateId userId
  have hGrants := hSame stateId instant hInstant
  refine ⟨?_, ?_, ?_⟩
  · intro required
    rw [checkPermission_eq_filter,
      checkPermission_eq_filter, hGrants]
  · rw [getPermission_eq, getPermission_eq, hGrants]
  · rw [listGrantees_eq, listGrantees_eq, hGrants]

end StateSharer

------------------------------------------------------------
-- Runs With and Without a Cleanup
------------------------------------------------------------

namespace SharingHistory

open StateSharer

/- Two histories by one clock, with the same valid grants. -/
structure Alike
    (history other : SharingHistory) : Prop where
  now : history.now = other.now
  grants :
    SameValid history.now history.sharer other.sharer

/- A cleanup drops nothing that is valid from then on. -/
theorem alike_cleanup
    (history : SharingHistory) :
    Alike (history.step .cleanup) history := by
  have hNow : (history.step .cleanup).now = history.now :=
    now_step history .cleanup
  refine ⟨hNow, ?_⟩
  intro stateId instant hInstant
  rw [hNow] at hInstant
  rw [grantsOf_step]
  unfold SharingOp.grantsAfter
  rw [List.filter_filter]
  apply List.filter_congr
  intro grant _
  cases hValid : grant.isValid instant with
  | false => rfl
  | true =>
      rw [AccessGrant.isValid_of_le hInstant hValid]
      rfl

/- Any call keeps two histories alike. -/
theorem alike_step
    {history other : SharingHistory}
    (hAlike : Alike history other)
    (op : SharingOp) :
    Alike (history.step op) (other.step op) := by
  have hLater := now_le_step history op
  constructor
  · rw [now_step, now_step, hAlike.now]
  · intro stateId instant hInstant
    have hGrants :=
      hAlike.grants stateId instant
        (Int.le_trans hLater hInstant)
    rw [grantsOf_step, grantsOf_step, ← hAlike.now]
    unfold SharingOp.grantsAfter
    cases op with
    | grantAccess target userId permission grantedBy
        duration =>
        dsimp only
        split
        · rw [List.filter_append, List.filter_append,
            hGrants]
        · exact hGrants
    | revokeAccess target userId =>
        dsimp only
        split
        · rw [List.filter_comm, hGrants, List.filter_comm]
        · exact hGrants
    | cleanup =>
        dsimp only
        rw [List.filter_comm, hGrants, List.filter_comm]
    | _ => exact hGrants

theorem alike_run
    {history other : SharingHistory}
    (hAlike : Alike history other)
    (ops : List SharingOp) :
    Alike (Runs.run step history ops)
      (Runs.run step other ops) := by
  induction ops generalizing history other with
  | nil => exact hAlike
  | cons op rest ih => exact ih (alike_step hAlike op)

/-
  After any calls, a cleanup and any further calls, all
  questions from then on are answered as they are without
  the cleanup.
-/
theorem sameAnswers_cleanup
    (defaultPermission : Permission)
    (now : DateTime)
    (earlier later : List SharingOp) :
    let history :=
      Runs.run step (new defaultPermission now) earlier
    SameAnswers (Runs.run step history later).now
      (Runs.run step (history.step .cleanup) later).sharer
      (Runs.run step history later).sharer := by
  intro history
  have hAlike := alike_run (alike_cleanup history) later
  rw [← hAlike.now]
  exact hAlike.grants.sameAnswers

end SharingHistory

end IsaWorkspace
