import IsaWorkspace.Sharing.Permissions

/-
  When the participants of a session may read its state.

  Joining checks the grants of a user; nothing later does.
  Participants keep what they need as long as it is neither
  revoked nor expires while they are in a session.

  Main declarations:
    * `SharingHistory.GuestOf`
    * `SharingHistory.GuestsMayRead`
    * `SharingHistory.KeepsGuests`
    * `SharingHistory.guestsMayRead_iff`
-/

------------------------------------------------------------
-- Guests
------------------------------------------------------------

namespace IsaWorkspace

namespace SharingHistory

open AccessGrant CollaborativeSession StateSharer

variable {history : SharingHistory}
variable {stateId : StateId} {userId : String}

/- A participant that does not own an active session. -/
def GuestOf
    (history : SharingHistory)
    (stateId : StateId)
    (userId : String) : Prop :=
  ∃ sessionId session,
    history.sharer.getSession sessionId = some session ∧
      session.status = .active ∧
      session.stateId = stateId ∧
      userId ∈ session.participants ∧
      userId ≠ session.ownerId

/- Every guest may read the state of the session. -/
def GuestsMayRead
    (history : SharingHistory) : Prop :=
  ∀ stateId userId, history.GuestOf stateId userId →
    history.sharer.checkPermission stateId userId .read
        history.now =
      true

/-
  Nothing is revoked from a guest, and the guests have
  grants that are still valid when time has passed.
-/
def KeepsGuests
    (history : SharingHistory) : SharingOp → Prop
| .revokeAccess stateId userId =>
    ¬ history.GuestOf stateId userId
| .passTime instant =>
    ∀ stateId userId, history.GuestOf stateId userId →
      Allowed (history.sharer.grantsOf stateId) userId .read
        (max history.now instant)
| _ => True

/- A guest may read exactly with a valid grant. -/
theorem mayRead_iff
    {instant : DateTime} :
    history.sharer.checkPermission stateId userId .read
          instant =
        true ↔
      Allowed (history.sharer.grantsOf stateId) userId .read
        instant := by
  rw [checkPermission_eq]
  exact checkGrants_read_iff

/-
  A guest after an operation has been one before, unless the
  guest has just joined and may read the state.
-/
theorem guestOf_step
    {op : SharingOp}
    (hGuest : (history.step op).GuestOf stateId userId) :
    history.GuestOf stateId userId ∨
      history.sharer.checkPermission stateId userId .read
          history.now =
        true := by
  rcases hGuest with
    ⟨sessionId, session, hSession, hActive, hState, hMember,
      hOther⟩
  rw [getSession_step] at hSession
  cases op with
  | createSession target ownerId uuid =>
      unfold SharingOp.sessionAfter at hSession
      dsimp only at hSession
      split at hSession
      · cases hSession
        exact absurd (List.mem_singleton.mp hMember) hOther
      · exact
          Or.inl
            ⟨sessionId, session, hSession, hActive, hState,
              hMember, hOther⟩
  | joinSession target joining =>
      rcases Option.map_eq_some_iff.mp hSession with
        ⟨before, hBefore, rfl⟩
      split at hActive
      · next hJoins =>
          rw [if_pos hJoins] at hState hMember hOther
          rcases mem_joinedBy_iff.mp hMember with
            hOld | hNew
          · exact
              Or.inl
                ⟨sessionId, before, hBefore, hJoins.2.1,
                  hState, hOld, hOther⟩
          · right
            rw [hNew, ← hState]
            exact hJoins.2.2
      · next hJoins =>
          rw [if_neg hJoins] at hState hMember hOther
          exact
            Or.inl
              ⟨sessionId, before, hBefore, hActive, hState,
                hMember, hOther⟩
  | leaveSession target leaving =>
      rcases Option.map_eq_some_iff.mp hSession with
        ⟨before, hBefore, rfl⟩
      left
      split at hActive
      · next hLeaves =>
          rw [if_pos hLeaves] at hState hMember hOther
          exact
            ⟨sessionId, before, hBefore,
              (active_of_leftBy hActive).1, hState,
              mem_leftBy hMember, hOther⟩
      · next hLeaves =>
          rw [if_neg hLeaves] at hState hMember hOther
          exact
            ⟨sessionId, before, hBefore, hActive, hState,
              hMember, hOther⟩
  | endSession target ending =>
      rcases Option.map_eq_some_iff.mp hSession with
        ⟨before, hBefore, rfl⟩
      split at hActive
      · cases hActive
      · next hEnds =>
          rw [if_neg hEnds] at hState hMember hOther
          exact
            Or.inl
              ⟨sessionId, before, hBefore, hActive, hState,
                hMember, hOther⟩
  | cleanup =>
      left
      unfold SharingOp.sessionAfter at hSession
      dsimp only at hSession
      split at hSession
      · exact
          ⟨sessionId, session, hSession, hActive, hState,
            hMember, hOther⟩
      · exact
          ⟨sessionId, session,
            (Option.filter_eq_some_iff.mp hSession).1,
            hActive, hState, hMember, hOther⟩
  | _ =>
      exact
        Or.inl
          ⟨sessionId, session, hSession, hActive, hState,
            hMember, hOther⟩

/- Calls that are not about sessions leave guests alone. -/
theorem guestOf_step_of_sessions
    (history : SharingHistory)
    (op : SharingOp)
    (hSessions :
      ∀ sessionId stored,
        op.sessionAfter history sessionId stored = stored)
    (stateId : StateId)
    (userId : String) :
    (history.step op).GuestOf stateId userId ↔
      history.GuestOf stateId userId := by
  unfold GuestOf
  simp only [getSession_step, hSessions]

------------------------------------------------------------
-- Along a Run
------------------------------------------------------------

/-
  An operation that neither revokes nor takes time leaves
  every user what the user was allowed at this instant.
-/
theorem allowed_step
    {op : SharingOp}
    (hAllowed :
      Allowed (history.sharer.grantsOf stateId) userId .read
        history.now)
    (hRevokes :
      ∀ target other, op = .revokeAccess target other →
        stateId = target → userId ≠ other) :
    Allowed ((history.step op).sharer.grantsOf stateId)
      userId .read history.now := by
  rw [grantsOf_step]
  cases op with
  | grantAccess target other permission grantedBy
      duration =>
      unfold SharingOp.grantsAfter
      dsimp only
      split
      · exact allowed_append_iff.mpr (Or.inl hAllowed)
      · exact hAllowed
  | revokeAccess target other =>
      unfold SharingOp.grantsAfter
      dsimp only
      split
      · next hSame =>
          refine (allowed_filter_iff ?_).mpr hAllowed
          intro grant _ hUser _
          rw [hUser]
          exact
            decide_eq_true (hRevokes target other rfl hSame)
      · exact hAllowed
  | cleanup =>
      refine (allowed_filter_iff ?_).mpr hAllowed
      intro grant _ _ hValid
      exact hValid
  | _ => exact hAllowed

/- One operation keeps the guests' rights as said. -/
theorem guestsMayRead_step
    (history : SharingHistory)
    (op : SharingOp)
    (hGuests : history.GuestsMayRead) :
    (history.step op).GuestsMayRead ↔
      history.KeepsGuests op := by
  -- The operations that neither revoke nor take time.
  have hKept
      (hNow : (history.step op).now = history.now)
      (hRevokes :
        ∀ target other, op ≠ .revokeAccess target other) :
      (history.step op).GuestsMayRead := by
    intro stateId userId hGuest
    rw [mayRead_iff, hNow]
    apply allowed_step
    · rw [← mayRead_iff]
      rcases guestOf_step hGuest with hBefore | hJoined
      · exact hGuests stateId userId hBefore
      · exact hJoined
    · intro target other hOp
      exact absurd hOp (hRevokes target other)
  cases op with
  | revokeAccess target other =>
      have hSame :=
        guestOf_step_of_sessions history
          (.revokeAccess target other) fun _ _ => rfl
      constructor
      · intro hAfter hGuest
        have hReads :=
          hAfter target other ((hSame target other).mpr hGuest)
        rw [mayRead_iff, grantsOf_step] at hReads
        unfold SharingOp.grantsAfter at hReads
        dsimp only at hReads
        rw [if_pos rfl] at hReads
        exact not_allowed_of_revoked hReads
      · intro hKeeps stateId userId hGuest
        have hBefore := (hSame stateId userId).mp hGuest
        rw [mayRead_iff]
        apply allowed_step
        · exact
            mayRead_iff.mp (hGuests stateId userId hBefore)
        · rintro target' other' hOp rfl rfl
          cases hOp
          exact hKeeps hBefore
  | passTime instant =>
      have hSame :=
        guestOf_step_of_sessions history
          (.passTime instant) fun _ _ => rfl
      unfold GuestsMayRead KeepsGuests
      simp only [mayRead_iff, hSame, grantsOf_step, now_step]
      rfl
  | _ => exact iff_of_true (hKept rfl (by simp)) trivial

theorem guestsMayRead_new
    (defaultPermission : Permission)
    (now : DateTime) :
    (new defaultPermission now).GuestsMayRead := by
  rintro stateId userId ⟨sessionId, session, hSession, _⟩
  cases hSession

/-
  Guests may read throughout a run exactly if no call takes
  a guest's grants away and none of them runs out.
-/
theorem guestsMayRead_iff
    (defaultPermission : Permission)
    (now : DateTime)
    (ops : List SharingOp) :
    Runs.Throughout step GuestsMayRead
        (new defaultPermission now) ops ↔
      Runs.AlongRun step KeepsGuests
        (new defaultPermission now) ops :=
  Runs.throughout_iff_alongRun guestsMayRead_step ops
    (guestsMayRead_new defaultPermission now)

------------------------------------------------------------
-- Sample Runs
------------------------------------------------------------

/- A reader is in a session, and loses the grant. -/
def revokedGuest : List SharingOp :=
  [grantOf .read,
    .createSession ⟨"state"⟩ "owner" "session",
    .joinSession "session" "reader",
    .revokeAccess ⟨"state"⟩ "reader"]

/- The session goes on with a reader who may not read. -/
theorem guestsMayRead_revoked :
    ¬ (Runs.run step (new .read DateTime.unixEpoch)
        revokedGuest).GuestsMayRead := by
  intro hGuests
  have hReads :=
    hGuests ⟨"state"⟩ "reader"
      ⟨"session",
        { CollaborativeSession.new ⟨"state"⟩ "owner"
            "session" DateTime.unixEpoch with
          participants := ["owner", "reader"] },
        by decide +kernel⟩
  revert hReads
  decide +kernel

end SharingHistory

end IsaWorkspace
