import IsaWorkspace.Sharing.Sharer
import IsaWorkspace.Foundations.Runs

/-
  Runs of the calls on a sharer, and the passing of time.

  A history is a sharer and the instant that the clock
  shows.  Two lemmas say what an operation leaves of the
  grants of a state and of a session; every invariant is
  derived from these.

  Main declarations:
    * `SharingOp`
    * `SharingHistory`, `SharingHistory.step`
    * `StateSharer.checkPermission_eq`
    * `StateSharer.grantsOf_grantAccess`, ...
    * `StateSharer.getSession_joinSession`, ...
    * `SharingHistory.grantsOf_step`, `getSession_step`
-/

------------------------------------------------------------
-- Histories
------------------------------------------------------------

namespace IsaWorkspace

/- The calls, with what they draw, and the passing of time. -/
inductive SharingOp where
  | grantAccess
      (stateId : StateId)
      (userId : String)
      (permission : Permission)
      (grantedBy : String)
      (duration : Option TimeDelta)
  | revokeAccess (stateId : StateId) (userId : String)
  | createSession
      (stateId : StateId)
      (ownerId uuid : String)
  | joinSession (sessionId userId : String)
  | leaveSession (sessionId userId : String)
  | endSession (sessionId userId : String)
  | cleanup
  | passTime (instant : DateTime)

/- A sharer at an instant. -/
structure SharingHistory where
  sharer : StateSharer
  now : DateTime

namespace SharingHistory

/- Make the call at this instant; the clock never goes back. -/
def step
    (history : SharingHistory)
    (op : SharingOp) : SharingHistory :=
  match op with
  | .grantAccess stateId userId permission grantedBy
      duration =>
      { history with
        sharer :=
          (StateSharer.grantAccess stateId userId permission
            grantedBy duration history.now
            history.sharer).2 }
  | .revokeAccess stateId userId =>
      { history with
        sharer :=
          (StateSharer.revokeAccess stateId userId
            history.sharer).2 }
  | .createSession stateId ownerId uuid =>
      { history with
        sharer :=
          (StateSharer.createSession stateId ownerId uuid
            history.now history.sharer).2 }
  | .joinSession sessionId userId =>
      { history with
        sharer :=
          (StateSharer.joinSession sessionId userId
            history.now history.sharer).2 }
  | .leaveSession sessionId userId =>
      { history with
        sharer :=
          (StateSharer.leaveSession sessionId userId
            history.now history.sharer).2 }
  | .endSession sessionId userId =>
      { history with
        sharer :=
          (StateSharer.endSession sessionId userId
            history.now history.sharer).2 }
  | .cleanup =>
      { history with
        sharer :=
          (StateSharer.cleanup history.now
            history.sharer).2 }
  | .passTime instant =>
      { history with now := max history.now instant }

/- A sharer nothing has been asked of yet. -/
def new
    (defaultPermission : Permission)
    (now : DateTime) : SharingHistory where
  sharer :=
    StateSharer.new.withDefaultPermission defaultPermission
  now := now

end SharingHistory

------------------------------------------------------------
-- Participants
------------------------------------------------------------

namespace CollaborativeSession

variable {session : CollaborativeSession}
variable {userId other : String} {now : DateTime}

/- A session that was left has no new participants. -/
theorem mem_leftBy
    (hMember :
      userId ∈ (session.leftBy other now).participants) :
    userId ∈ session.participants :=
  (List.mem_filter.mp hMember).1

/- Who has left an active session has not ended it. -/
theorem active_of_leftBy
    (hActive :
      (session.leftBy other now).status = .active) :
    session.status = .active ∧ session.ownerId ≠ other := by
  unfold leftBy at hActive
  dsimp only at hActive
  split at hActive
  · cases hActive
  · next hOwner => exact ⟨hActive, hOwner⟩

/- The participants of a session that was joined. -/
theorem mem_joinedBy_iff :
    userId ∈ (session.joinedBy other now).participants ↔
      userId ∈ session.participants ∨ userId = other := by
  unfold joinedBy
  dsimp only
  split
  · next hMember =>
      constructor
      · exact Or.inl
      · rintro (hOld | rfl)
        · exact hOld
        · exact hMember
  · simp

end CollaborativeSession

------------------------------------------------------------
-- What Each Call Computes
------------------------------------------------------------

namespace StateSharer

/- What the grant of a call is. -/
theorem of_newGrant
    {userId grantedBy : String}
    {permission : Permission}
    {duration : Option TimeDelta}
    {now : DateTime}
    {grant : AccessGrant}
    (hGrant :
      newGrant userId permission grantedBy duration now =
        some grant) :
    grant.userId = userId ∧
      grant.permission = permission := by
  unfold newGrant at hGrant
  cases duration with
  | none =>
      cases hGrant
      exact ⟨rfl, rfl⟩
  | some d =>
      rcases Option.map_eq_some_iff.mp hGrant with
        ⟨expiresAt, _, rfl⟩
      exact ⟨rfl, rfl⟩

theorem grantAccess_apply
    (stateId : StateId)
    (userId : String)
    (permission : Permission)
    (grantedBy : String)
    (duration : Option TimeDelta)
    (now : DateTime)
    (sharer : StateSharer) :
    grantAccess stateId userId permission grantedBy duration
        now sharer =
      match
        newGrant userId permission grantedBy duration now
      with
      | none => (.panicked, sharer)
      | some grant =>
          (.ok (),
            { sharer with
              grants :=
                sharer.grants.insert stateId
                  (sharer.grantsOf stateId ++ [grant]) }) := by
  unfold grantAccess
  cases newGrant userId permission grantedBy duration now with
  | none => exact Exec.bind_of_panicked rfl
  | some grant => rfl

/- What a revocation leaves, whatever it returns. -/
theorem revokeAccess_state
    (stateId : StateId)
    (userId : String)
    (sharer : StateSharer) :
    (revokeAccess stateId userId sharer).2 =
      match sharer.grants.lookup stateId with
      | none => sharer
      | some stateGrants =>
          { sharer with
            grants :=
              sharer.grants.insert stateId
                (stateGrants.filter fun grant =>
                  decide (grant.userId ≠ userId)) } := by
  unfold revokeAccess
  rw [Exec.read_bind_apply]
  cases sharer.grants.lookup stateId with
  | none => rfl
  | some stateGrants =>
      dsimp only
      rw [Exec.update_bind_apply]
      split
      · rfl
      · rfl

theorem joinSession_apply
    (sessionId userId : String)
    (now : DateTime)
    (sharer : StateSharer) :
    joinSession sessionId userId now sharer =
      match sharer.sessions.lookup sessionId with
      | none => (.err (.sessionNotFound sessionId), sharer)
      | some session =>
          if session.status ≠ .active then
            (.err (.sessionInactive sessionId), sharer)
          else if
            sharer.checkPermission session.stateId userId
                .read now =
              false then
            (.err (.permissionDenied userId .read), sharer)
          else
            (.ok (session.joinedBy userId now),
              { sharer with
                sessions :=
                  sharer.sessions.insert sessionId
                    (session.joinedBy userId now) }) := by
  unfold joinSession
  rw [Exec.read_bind_apply]
  cases sharer.sessions.lookup sessionId with
  | none => rfl
  | some session =>
      dsimp only
      split
      · rfl
      · split
        · rfl
        · rfl

theorem leaveSession_apply
    (sessionId userId : String)
    (now : DateTime)
    (sharer : StateSharer) :
    leaveSession sessionId userId now sharer =
      match sharer.sessions.lookup sessionId with
      | none => (.err (.sessionNotFound sessionId), sharer)
      | some session =>
          (.ok (),
            { sharer with
              sessions :=
                sharer.sessions.insert sessionId
                  (session.leftBy userId now) }) := by
  unfold leaveSession
  rw [Exec.read_bind_apply]
  cases sharer.sessions.lookup sessionId with
  | none => rfl
  | some session => rfl

theorem endSession_apply
    (sessionId userId : String)
    (now : DateTime)
    (sharer : StateSharer) :
    endSession sessionId userId now sharer =
      match sharer.sessions.lookup sessionId with
      | none => (.err (.sessionNotFound sessionId), sharer)
      | some session =>
          if session.ownerId ≠ userId then
            (.err (.permissionDenied userId .admin), sharer)
          else
            (.ok (),
              { sharer with
                sessions :=
                  sharer.sessions.insert sessionId
                    (session.endedAt now) }) := by
  unfold endSession
  rw [Exec.read_bind_apply]
  cases sharer.sessions.lookup sessionId with
  | none => rfl
  | some session =>
      dsimp only
      split
      · rfl
      · rfl

/- A cleanup cuts the grants before it reads the clock. -/
theorem cleanup_state
    (now : DateTime)
    (sharer : StateSharer) :
    (cleanup now sharer).2 =
      { sharer with
        grants :=
          HashMap.mapValues
            (fun stateGrants =>
              stateGrants.filter (·.isValid now))
            sharer.grants
        sessions :=
          match now.subDelta retention with
          | none => sharer.sessions
          | some cutoff =>
              HashMap.retain
                (fun _ session => !session.isStale cutoff)
                sharer.sessions } := by
  unfold cleanup
  rw [Exec.read_bind_apply, Exec.update_bind_apply]
  cases now.subDelta retention with
  | none => exact congrArg Prod.snd (Exec.bind_of_panicked rfl)
  | some cutoff => rfl

/- A check depends on the grants of its state alone. -/
theorem checkPermission_eq
    (sharer : StateSharer)
    (stateId : StateId)
    (userId : String)
    (required : Permission)
    (now : DateTime) :
    sharer.checkPermission stateId userId required now =
      checkGrants userId required now
        (sharer.grantsOf stateId) := by
  unfold checkPermission grantsOf
  cases sharer.grants.lookup stateId with
  | none => rfl
  | some stateGrants => rfl

------------------------------------------------------------
-- What Each Call Leaves
------------------------------------------------------------

/- A new grant comes after those of its state. -/
theorem grantsOf_grantAccess
    (target : StateId)
    (userId : String)
    (permission : Permission)
    (grantedBy : String)
    (duration : Option TimeDelta)
    (now : DateTime)
    (sharer : StateSharer)
    (stateId : StateId) :
    (grantAccess target userId permission grantedBy duration
          now sharer).2.grantsOf stateId =
      if stateId = target then
        sharer.grantsOf stateId ++
          (newGrant userId permission grantedBy duration
            now).toList
      else
        sharer.grantsOf stateId := by
  rw [grantAccess_apply]
  cases newGrant userId permission grantedBy duration now with
  | none => simp
  | some grant =>
      by_cases hSame : stateId = target
      · subst hSame
        simp [grantsOf]
      · simp [grantsOf, hSame]

/- The grants of the user are taken from the state. -/
theorem grantsOf_revokeAccess
    (target : StateId)
    (userId : String)
    (sharer : StateSharer)
    (stateId : StateId) :
    (revokeAccess target userId sharer).2.grantsOf stateId =
      if stateId = target then
        (sharer.grantsOf stateId).filter fun grant =>
          decide (grant.userId ≠ userId)
      else
        sharer.grantsOf stateId := by
  rw [revokeAccess_state]
  cases hLookup : sharer.grants.lookup target with
  | none =>
      by_cases hSame : stateId = target
      · subst hSame
        simp [grantsOf, hLookup]
      · simp [hSame]
  | some stateGrants =>
      by_cases hSame : stateId = target
      · subst hSame
        simp [grantsOf, hLookup]
      · simp [grantsOf, hSame]

/- Calls on sessions leave all grants alone. -/
theorem grants_joinSession
    (sessionId userId : String)
    (now : DateTime)
    (sharer : StateSharer) :
    (joinSession sessionId userId now sharer).2.grants =
      sharer.grants := by
  rw [joinSession_apply]
  cases sharer.sessions.lookup sessionId with
  | none => rfl
  | some session =>
      dsimp only
      split
      · rfl
      · split
        · rfl
        · rfl

theorem grants_leaveSession
    (sessionId userId : String)
    (now : DateTime)
    (sharer : StateSharer) :
    (leaveSession sessionId userId now sharer).2.grants =
      sharer.grants := by
  rw [leaveSession_apply]
  cases sharer.sessions.lookup sessionId with
  | none => rfl
  | some session => rfl

theorem grants_endSession
    (sessionId userId : String)
    (now : DateTime)
    (sharer : StateSharer) :
    (endSession sessionId userId now sharer).2.grants =
      sharer.grants := by
  rw [endSession_apply]
  cases sharer.sessions.lookup sessionId with
  | none => rfl
  | some session =>
      dsimp only
      split
      · rfl
      · rfl

/- A call on a session that is not there changes none. -/
theorem map_of_absent
    {sessions : HashMap String CollaborativeSession}
    {target : String}
    (hAbsent : sessions.lookup target = none)
    (sessionId : String)
    (change : CollaborativeSession → CollaborativeSession) :
    (sessions.lookup sessionId).map
        (fun session =>
          if sessionId = target then change session
          else session) =
      sessions.lookup sessionId := by
  by_cases hSame : sessionId = target
  · rw [hSame, hAbsent]
    rfl
  · simp [hSame]

/- Who joins is in the session, if that is allowed. -/
theorem getSession_joinSession
    (target userId : String)
    (now : DateTime)
    (sharer : StateSharer)
    (sessionId : String) :
    (joinSession target userId now
          sharer).2.getSession sessionId =
      (sharer.getSession sessionId).map fun session =>
        if sessionId = target ∧
            session.status = .active ∧
            sharer.checkPermission session.stateId userId
                .read now =
              true then
          session.joinedBy userId now
        else
          session := by
  unfold getSession
  rw [joinSession_apply]
  simp only [ite_and]
  cases hLookup : sharer.sessions.lookup target with
  | none => exact (map_of_absent hLookup sessionId _).symm
  | some session =>
      dsimp only
      by_cases hSame : sessionId = target
      · subst hSame
        split
        · next hStatus => simp [hLookup, hStatus]
        · next hStatus =>
            split
            · next hCheck => simp [hLookup, hCheck]
            · next hCheck =>
                simp [hLookup, not_not.mp hStatus, hCheck]
      · split
        · simp
        · split
          · simp
          · simp [hSame]

theorem getSession_leaveSession
    (target userId : String)
    (now : DateTime)
    (sharer : StateSharer)
    (sessionId : String) :
    (leaveSession target userId now
          sharer).2.getSession sessionId =
      (sharer.getSession sessionId).map fun session =>
        if sessionId = target then
          session.leftBy userId now
        else
          session := by
  unfold getSession
  rw [leaveSession_apply]
  cases hLookup : sharer.sessions.lookup target with
  | none => exact (map_of_absent hLookup sessionId _).symm
  | some session =>
      by_cases hSame : sessionId = target
      · subst hSame
        simp [hLookup]
      · simp [hSame]

/- The owner ends the session; nobody else does. -/
theorem getSession_endSession
    (target userId : String)
    (now : DateTime)
    (sharer : StateSharer)
    (sessionId : String) :
    (endSession target userId now
          sharer).2.getSession sessionId =
      (sharer.getSession sessionId).map fun session =>
        if sessionId = target ∧ session.ownerId = userId then
          session.endedAt now
        else
          session := by
  unfold getSession
  rw [endSession_apply]
  simp only [ite_and]
  cases hLookup : sharer.sessions.lookup target with
  | none => exact (map_of_absent hLookup sessionId _).symm
  | some session =>
      dsimp only
      by_cases hSame : sessionId = target
      · subst hSame
        split
        · next hOwner => simp [hLookup, hOwner]
        · next hOwner =>
            simp [hLookup, not_not.mp hOwner]
      · split
        · simp
        · simp [hSame]

end StateSharer

------------------------------------------------------------
-- What an Operation Leaves
------------------------------------------------------------

/- What an operation makes of the grants of a state. -/
def SharingOp.grantsAfter
    (op : SharingOp)
    (now : DateTime)
    (stateId : StateId)
    (stateGrants : List AccessGrant) : List AccessGrant :=
  match op with
  | .grantAccess target userId permission grantedBy
      duration =>
      if stateId = target then
        stateGrants ++
          (StateSharer.newGrant userId permission grantedBy
            duration now).toList
      else
        stateGrants
  | .revokeAccess target userId =>
      if stateId = target then
        stateGrants.filter fun grant =>
          decide (grant.userId ≠ userId)
      else
        stateGrants
  | .cleanup => stateGrants.filter (·.isValid now)
  | _ => stateGrants

/- What an operation makes of what is stored under an id. -/
def SharingOp.sessionAfter
    (op : SharingOp)
    (history : SharingHistory)
    (sessionId : String)
    (stored : Option CollaborativeSession) :
    Option CollaborativeSession :=
  match op with
  | .createSession stateId ownerId uuid =>
      if sessionId = uuid then
        some
          (CollaborativeSession.new stateId ownerId uuid
            history.now)
      else
        stored
  | .joinSession target userId =>
      stored.map fun session =>
        if sessionId = target ∧
            session.status = .active ∧
            history.sharer.checkPermission session.stateId
                userId .read history.now =
              true then
          session.joinedBy userId history.now
        else
          session
  | .leaveSession target userId =>
      stored.map fun session =>
        if sessionId = target then
          session.leftBy userId history.now
        else
          session
  | .endSession target userId =>
      stored.map fun session =>
        if sessionId = target ∧
            session.ownerId = userId then
          session.endedAt history.now
        else
          session
  | .cleanup =>
      match history.now.subDelta StateSharer.retention with
      | none => stored
      | some cutoff =>
          stored.filter fun session =>
            !session.isStale cutoff
  | _ => stored

namespace SharingHistory

/- The clock is moved by the passing of time only. -/
theorem now_step
    (history : SharingHistory)
    (op : SharingOp) :
    (history.step op).now =
      match op with
      | .passTime instant => max history.now instant
      | _ => history.now := by
  cases op with
  | _ => rfl

/- Time does not go back. -/
theorem now_le_step
    (history : SharingHistory)
    (op : SharingOp) :
    history.now ≤ (history.step op).now := by
  have hRefl : history.now ≤ history.now :=
    Int.le_refl history.now.nanos
  rw [now_step]
  cases op with
  | passTime instant =>
      change
        history.now ≤
          if history.now ≤ instant then instant
          else history.now
      split
      · next hLater => exact hLater
      · exact hRefl
  | _ => exact hRefl

/- What an operation leaves of the grants of a state. -/
theorem grantsOf_step
    (history : SharingHistory)
    (op : SharingOp)
    (stateId : StateId) :
    (history.step op).sharer.grantsOf stateId =
      op.grantsAfter history.now stateId
        (history.sharer.grantsOf stateId) := by
  cases op with
  | grantAccess target userId permission grantedBy
      duration =>
      exact
        StateSharer.grantsOf_grantAccess target userId
          permission grantedBy duration history.now
          history.sharer stateId
  | revokeAccess target userId =>
      exact
        StateSharer.grantsOf_revokeAccess target userId
          history.sharer stateId
  | createSession => rfl
  | joinSession sessionId userId =>
      unfold StateSharer.grantsOf step
      dsimp only
      rw [StateSharer.grants_joinSession]
      rfl
  | leaveSession sessionId userId =>
      unfold StateSharer.grantsOf step
      dsimp only
      rw [StateSharer.grants_leaveSession]
      rfl
  | endSession sessionId userId =>
      unfold StateSharer.grantsOf step
      dsimp only
      rw [StateSharer.grants_endSession]
      rfl
  | cleanup =>
      unfold step SharingOp.grantsAfter
      dsimp only
      rw [StateSharer.cleanup_state]
      unfold StateSharer.grantsOf
      dsimp only
      rw [HashMap.lookup_mapValues]
      cases history.sharer.grants.lookup stateId with
      | none => rfl
      | some stateGrants => rfl
  | passTime => rfl

/- What an operation leaves of a session. -/
theorem getSession_step
    (history : SharingHistory)
    (op : SharingOp)
    (sessionId : String) :
    (history.step op).sharer.getSession sessionId =
      op.sessionAfter history sessionId
        (history.sharer.getSession sessionId) := by
  cases op with
  | grantAccess target userId permission grantedBy
      duration =>
      unfold step SharingOp.sessionAfter
        StateSharer.getSession
      dsimp only
      rw [StateSharer.grantAccess_apply]
      cases
        StateSharer.newGrant userId permission grantedBy
          duration history.now with
      | none => rfl
      | some grant => rfl
  | revokeAccess target userId =>
      unfold step SharingOp.sessionAfter
        StateSharer.getSession
      dsimp only
      rw [StateSharer.revokeAccess_state]
      cases history.sharer.grants.lookup target with
      | none => rfl
      | some stateGrants => rfl
  | createSession stateId ownerId uuid =>
      exact HashMap.lookup_insert_eq_ite _ _ _ _
  | joinSession target userId =>
      exact
        StateSharer.getSession_joinSession target userId
          history.now history.sharer sessionId
  | leaveSession target userId =>
      exact
        StateSharer.getSession_leaveSession target userId
          history.now history.sharer sessionId
  | endSession target userId =>
      exact
        StateSharer.getSession_endSession target userId
          history.now history.sharer sessionId
  | cleanup =>
      unfold step SharingOp.sessionAfter
        StateSharer.getSession
      dsimp only
      rw [StateSharer.cleanup_state]
      cases history.now.subDelta StateSharer.retention with
      | none => rfl
      | some cutoff =>
          dsimp only
          apply Option.ext
          intro session
          rw [HashMap.lookup_retain, Option.filter_eq_some_iff]
  | passTime => rfl

end SharingHistory

end IsaWorkspace
