import IsaWorkspace.Sharing.Operations

/-
  The life of a session.

  A session has each participant once and, while it is
  active, its owner among them.  One that has ended stays so
  until a cleanup removes it, provided that no other session
  draws its id.

  Main declarations:
    * `SharingOp.sessionDrawn`
    * `SharingHistory.WellFormed`
    * `SharingHistory.EndsForGood`
    * `SharingHistory.SessionLife`
    * `SharingHistory.sessionLife`
-/

------------------------------------------------------------
-- Participants of Stored Sessions
------------------------------------------------------------

namespace IsaWorkspace

/- The id that a call draws for a session. -/
def SharingOp.sessionDrawn : SharingOp → Option String
| .createSession _ _ uuid => some uuid
| _ => none

/- Participants are distinct, and the owner is one of them. -/
structure CollaborativeSession.WellFormed
    (session : CollaborativeSession) : Prop where
  distinct : session.participants.Nodup
  owned :
    session.status = .active →
      session.ownerId ∈ session.participants

namespace CollaborativeSession

variable {session : CollaborativeSession}

theorem wellFormed_new
    (stateId : StateId)
    (ownerId uuid : String)
    (now : DateTime) :
    (new stateId ownerId uuid now).WellFormed where
  distinct := List.nodup_singleton ownerId
  owned := fun _ => List.mem_singleton.mpr rfl

theorem WellFormed.joinedBy
    (hBefore : session.WellFormed)
    (userId : String)
    (now : DateTime) :
    (session.joinedBy userId now).WellFormed where
  distinct := by
    unfold CollaborativeSession.joinedBy
    dsimp only
    split
    · exact hBefore.distinct
    · next hNew =>
        exact
          List.nodup_append_comm.mp
            (List.nodup_cons.mpr ⟨hNew, hBefore.distinct⟩)
  owned := by
    intro hActive
    exact mem_joinedBy_iff.mpr (Or.inl (hBefore.owned hActive))

/- Only another user than the owner leaves it active. -/
theorem WellFormed.leftBy
    (hBefore : session.WellFormed)
    (userId : String)
    (now : DateTime) :
    (session.leftBy userId now).WellFormed where
  distinct := hBefore.distinct.filter _
  owned := by
    intro hActive
    rcases active_of_leftBy hActive with ⟨hWas, hOwner⟩
    exact
      List.mem_filter.mpr
        ⟨hBefore.owned hWas, decide_eq_true hOwner⟩

theorem WellFormed.endedAt
    (hBefore : session.WellFormed)
    (now : DateTime) :
    (session.endedAt now).WellFormed where
  distinct := hBefore.distinct
  owned := by
    intro hActive
    cases hActive

end CollaborativeSession

namespace SharingHistory

variable {history : SharingHistory}

/- All stored sessions are well formed. -/
def WellFormed
    (history : SharingHistory) : Prop :=
  ∀ sessionId session,
    history.sharer.getSession sessionId = some session →
      session.WellFormed

theorem wellFormed_step
    (history : SharingHistory)
    (op : SharingOp)
    (hBefore : history.WellFormed) :
    (history.step op).WellFormed := by
  intro sessionId session hSession
  rw [getSession_step] at hSession
  cases op with
  | createSession stateId ownerId uuid =>
      unfold SharingOp.sessionAfter at hSession
      dsimp only at hSession
      split at hSession
      · cases hSession
        exact
          CollaborativeSession.wellFormed_new stateId ownerId
            uuid history.now
      · exact hBefore sessionId session hSession
  | joinSession target userId =>
      rcases Option.map_eq_some_iff.mp hSession with
        ⟨before, hStored, rfl⟩
      have hWas := hBefore sessionId before hStored
      split
      · exact hWas.joinedBy userId history.now
      · exact hWas
  | leaveSession target userId =>
      rcases Option.map_eq_some_iff.mp hSession with
        ⟨before, hStored, rfl⟩
      have hWas := hBefore sessionId before hStored
      split
      · exact hWas.leftBy userId history.now
      · exact hWas
  | endSession target userId =>
      rcases Option.map_eq_some_iff.mp hSession with
        ⟨before, hStored, rfl⟩
      have hWas := hBefore sessionId before hStored
      split
      · exact hWas.endedAt history.now
      · exact hWas
  | cleanup =>
      unfold SharingOp.sessionAfter at hSession
      dsimp only at hSession
      split at hSession
      · exact hBefore sessionId session hSession
      · exact
          hBefore sessionId session
            (Option.filter_eq_some_iff.mp hSession).1
  | _ => exact hBefore sessionId session hSession

------------------------------------------------------------
-- Ended Sessions
------------------------------------------------------------

/- Nothing but an ended session is stored under an id. -/
def OverFor
    (sessionId : String)
    (history : SharingHistory) : Prop :=
  ∀ session,
    history.sharer.getSession sessionId = some session →
      session.status = .ended

/- A session that is over stays so under its own id. -/
theorem overFor_step
    {sessionId : String}
    {op : SharingOp}
    (hOver : history.OverFor sessionId)
    (hOther : op.sessionDrawn ≠ some sessionId) :
    (history.step op).OverFor sessionId := by
  intro session hSession
  rw [getSession_step] at hSession
  cases op with
  | createSession stateId ownerId uuid =>
      unfold SharingOp.sessionAfter at hSession
      dsimp only at hSession
      split at hSession
      · next hSame =>
          exact absurd (congrArg some hSame.symm) hOther
      · exact hOver session hSession
  | joinSession target userId =>
      rcases Option.map_eq_some_iff.mp hSession with
        ⟨before, hStored, rfl⟩
      have hWas := hOver before hStored
      rw [if_neg (by simp [hWas])]
      exact hWas
  | leaveSession target userId =>
      rcases Option.map_eq_some_iff.mp hSession with
        ⟨before, hStored, rfl⟩
      have hWas := hOver before hStored
      split
      · unfold CollaborativeSession.leftBy
        simp [hWas]
      · exact hWas
  | endSession target userId =>
      rcases Option.map_eq_some_iff.mp hSession with
        ⟨before, hStored, rfl⟩
      split
      · rfl
      · exact hOver before hStored
  | cleanup =>
      unfold SharingOp.sessionAfter at hSession
      dsimp only at hSession
      split at hSession
      · exact hOver session hSession
      · exact
          hOver session
            (Option.filter_eq_some_iff.mp hSession).1
  | _ => exact hOver session hSession

/- What is over stays over until its id is drawn again. -/
theorem overFor_run
    {sessionId : String}
    {ops : List SharingOp}
    (hOver : history.OverFor sessionId)
    (hOther :
      sessionId ∉ ops.filterMap SharingOp.sessionDrawn) :
    (Runs.run step history ops).OverFor sessionId := by
  induction ops generalizing history with
  | nil => exact hOver
  | cons op rest ih =>
      have hNotDrawn : op.sessionDrawn ≠ some sessionId := by
        intro hDrawn
        exact
          hOther
            (List.mem_filterMap.mpr
              ⟨op, List.mem_cons_self, hDrawn⟩)
      apply ih (overFor_step hOver hNotDrawn)
      intro hLater
      rcases List.mem_filterMap.mp hLater with
        ⟨other, hMember, hDrawn⟩
      exact
        hOther
          (List.mem_filterMap.mpr
            ⟨other, List.mem_cons_of_mem op hMember, hDrawn⟩)

/- What is stored now was stored or is drawn by the call. -/
theorem drawn_or_stored
    {sessionId : String}
    {op : SharingOp}
    (hStored :
      (history.step op).sharer.getSession sessionId ≠ none) :
    op.sessionDrawn = some sessionId ∨
      history.sharer.getSession sessionId ≠ none := by
  rw [getSession_step] at hStored
  cases hBefore : history.sharer.getSession sessionId with
  | some session => simp
  | none =>
      rw [hBefore] at hStored
      left
      cases op with
      | createSession stateId ownerId uuid =>
          unfold SharingOp.sessionAfter at hStored
          dsimp only at hStored
          split at hStored
          · next hSame => exact congrArg some hSame.symm
          · exact absurd rfl hStored
      | cleanup =>
          unfold SharingOp.sessionAfter at hStored
          dsimp only at hStored
          split at hStored
          · exact absurd rfl hStored
          · exact absurd rfl hStored
      | _ => exact absurd rfl hStored

/- Every stored session has an id that was drawn. -/
theorem drawn_of_stored
    {sessionId : String}
    {ops : List SharingOp}
    (hStored :
      (Runs.run step history ops).sharer.getSession
          sessionId ≠
        none) :
    sessionId ∈ ops.filterMap SharingOp.sessionDrawn ∨
      history.sharer.getSession sessionId ≠ none := by
  induction ops generalizing history with
  | nil => exact Or.inr hStored
  | cons op rest ih =>
      rcases ih hStored with hDrawn | hAfter
      · left
        rcases List.mem_filterMap.mp hDrawn with
          ⟨other, hMember, hIs⟩
        exact
          List.mem_filterMap.mpr
            ⟨other, List.mem_cons_of_mem op hMember, hIs⟩
      · rcases drawn_or_stored hAfter with hNow | hBefore
        · exact
            Or.inl
              (List.mem_filterMap.mpr
                ⟨op, List.mem_cons_self, hNow⟩)
        · exact Or.inr hBefore

------------------------------------------------------------
-- Along a Run
------------------------------------------------------------

/- Nobody joins an ended session. -/
def RefusesEnded
    (history : SharingHistory) : Prop :=
  ∀ sessionId session userId,
    history.sharer.getSession sessionId = some session →
      session.status = .ended →
        StateSharer.joinSession sessionId userId history.now
            history.sharer =
          (.err (.sessionInactive sessionId), history.sharer)

/- A cleanup leaves active sessions as they are. -/
def CleansEnded
    (history : SharingHistory) : Prop :=
  ∀ sessionId session,
    history.sharer.getSession sessionId = some session →
      session.status = .active →
        (StateSharer.cleanup history.now
            history.sharer).2.getSession sessionId =
          some session

/- A session that has ended at some time is never active. -/
def EndsForGood
    (start : SharingHistory)
    (ops : List SharingOp) : Prop :=
  ∀ earlier later, earlier ++ later <+: ops →
    ∀ sessionId session,
      (Runs.run step start earlier).sharer.getSession
            sessionId =
          some session →
        session.status = .ended →
          (Runs.run step start
              (earlier ++ later)).OverFor sessionId

/- What is said of the sessions of a run. -/
structure SessionLife
    (start : SharingHistory)
    (ops : List SharingOp) : Prop where
  wellFormed : Runs.Throughout step WellFormed start ops
  final : EndsForGood start ops
  refused : Runs.Throughout step RefusesEnded start ops
  kept : Runs.Throughout step CleansEnded start ops

theorem refusesEnded
    (history : SharingHistory) :
    history.RefusesEnded := by
  intro sessionId session userId hSession hEnded
  unfold StateSharer.getSession at hSession
  rw [StateSharer.joinSession_apply, hSession]
  simp [hEnded]

theorem cleansEnded
    (history : SharingHistory) :
    history.CleansEnded := by
  intro sessionId session hSession hActive
  have hAfter := getSession_step history .cleanup sessionId
  rw [hSession] at hAfter
  refine hAfter.trans ?_
  unfold SharingOp.sessionAfter
  dsimp only
  split
  · rfl
  · simp [CollaborativeSession.isStale, hActive]

/- With fresh ids, an ended session stays over. -/
theorem endsForGood
    {defaultPermission : Permission}
    {now : DateTime}
    {ops : List SharingOp}
    (hFresh : (ops.filterMap SharingOp.sessionDrawn).Nodup) :
    EndsForGood (new defaultPermission now) ops := by
  intro earlier later hPrefix sessionId session hSession
    hEnded
  rw [Runs.run_append]
  apply overFor_run
  · intro stored hStored
    rw [hSession] at hStored
    cases hStored
    exact hEnded
  · -- The id has been drawn before, so it is not again.
    intro hAgain
    have hStored :
        (Runs.run step (new defaultPermission now)
              earlier).sharer.getSession
            sessionId ≠
          none := by
      simp [hSession]
    have hDrawn :
        sessionId ∈
          earlier.filterMap SharingOp.sessionDrawn := by
      rcases drawn_of_stored hStored with hDrawn | hStart
      · exact hDrawn
      · exact absurd rfl hStart
    rcases hPrefix with ⟨rest, rfl⟩
    rw [List.filterMap_append, List.filterMap_append]
      at hFresh
    have hApart :=
      (List.nodup_append.mp hFresh.of_append_left).2.2
    exact hApart sessionId hDrawn sessionId hAgain rfl

/-
  In every run with fresh session ids, sessions are well
  formed, end for good, and go only when they have ended.
-/
theorem sessionLife
    (defaultPermission : Permission)
    (now : DateTime)
    (ops : List SharingOp)
    (hFresh : (ops.filterMap SharingOp.sessionDrawn).Nodup) :
    SessionLife (new defaultPermission now) ops := by
  have hStart : (new defaultPermission now).WellFormed := by
    intro sessionId session hSession
    cases hSession
  exact
    { wellFormed :=
        Runs.throughout_of_step wellFormed_step ops hStart
      final := endsForGood hFresh
      refused :=
        Runs.throughout_of_step
          (fun _ _ _ => refusesEnded _) ops (refusesEnded _)
      kept :=
        Runs.throughout_of_step
          (fun _ _ _ => cleansEnded _) ops (cleansEnded _) }

/- Two sessions of a state, one of which its owner leaves. -/
theorem sessionLife_sample :
    SessionLife (new .read DateTime.unixEpoch)
      [.createSession ⟨"state"⟩ "owner" "session-1",
        .createSession ⟨"state"⟩ "owner" "session-2",
        .leaveSession "session-1" "owner", .cleanup] :=
  sessionLife .read DateTime.unixEpoch _ (by decide +kernel)

end SharingHistory

end IsaWorkspace
