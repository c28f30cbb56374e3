import IsaWorkspace.Model
import IsaWorkspace.Foundations.Exec
import IsaWorkspace.Foundations.HashMap

/-
  Grants of access to states, and sessions of their users.

  The grants of a state are a list, in the order in which
  they were made.  A session has an owner and participants.
  A call takes the identifiers it draws as arguments, and
  one instant for all of its readings of the clock.

  Main declarations:
    * `Permission`, `AccessGrant`
    * `CollaborativeSession`, `SessionStatus`
    * `StateSharer`
    * `StateSharer.grantAccess`, `revokeAccess`
    * `StateSharer.checkPermission`, `getPermission`
    * `StateSharer.createSession`, `joinSession`
    * `StateSharer.leaveSession`, `endSession`
    * `StateSharer.cleanup`
-/

------------------------------------------------------------
-- Permissions
------------------------------------------------------------

namespace IsaWorkspace

/- Permission levels for state access. -/
inductive Permission where
  | read
  | execute
  | fork
  | admin
deriving DecidableEq

namespace Permission

/- The byte that a level is cast to. -/
def toByte : Permission → UInt8
| read => 0
| execute => 1
| fork => 2
| admin => 3

instance : LE Permission where
  le lower higher := lower.toByte ≤ higher.toByte

instance
    (lower higher : Permission) :
    Decidable (lower ≤ higher) :=
  inferInstanceAs
    (Decidable (lower.toByte ≤ higher.toByte))

def canRead (_ : Permission) : Bool :=
  true

def canExecute : Permission → Bool
| execute | fork | admin => true
| read => false

def canFork : Permission → Bool
| fork | admin => true
| read | execute => false

def canShare : Permission → Bool
| admin => true
| read | execute | fork => false

/- What a level allows is decided by its place. -/
theorem can_iff
    (permission : Permission) :
    (permission.canRead = true ↔ read ≤ permission) ∧
      (permission.canExecute = true ↔
        execute ≤ permission) ∧
      (permission.canFork = true ↔ fork ≤ permission) ∧
      (permission.canShare = true ↔
        admin ≤ permission) := by
  cases permission with
  | read => decide
  | execute => decide
  | fork => decide
  | admin => decide

/- Every level is at least the first one. -/
theorem read_le
    (permission : Permission) :
    read ≤ permission := by
  exact (can_iff permission).1.mp rfl

end Permission

------------------------------------------------------------
-- Records
------------------------------------------------------------

/- Access grant for a user. -/
structure AccessGrant where
  userId : String
  permission : Permission
  expiresAt : Option DateTime
  grantedBy : String
  grantedAt : DateTime
deriving DecidableEq

namespace AccessGrant

def new
    (userId : String)
    (permission : Permission)
    (grantedBy : String)
    (now : DateTime) : AccessGrant where
  userId := userId
  permission := permission
  expiresAt := none
  grantedBy := grantedBy
  grantedAt := now

def withExpiry
    (grant : AccessGrant)
    (expiresAt : DateTime) : AccessGrant :=
  { grant with expiresAt := some expiresAt }

def isExpired
    (grant : AccessGrant)
    (now : DateTime) : Bool :=
  match grant.expiresAt with
  | some expiresAt => decide (expiresAt < now)
  | none => false

def isValid
    (grant : AccessGrant)
    (now : DateTime) : Bool :=
  !grant.isExpired now

end AccessGrant

/- Session status. -/
inductive SessionStatus where
  | active
  | paused
  | ended
deriving DecidableEq

/- Collaborative session for real-time collaboration. -/
structure CollaborativeSession where
  sessionId : String
  stateId : StateId
  ownerId : String
  participants : List String
  createdAt : DateTime
  lastActivity : DateTime
  status : SessionStatus
deriving DecidableEq

namespace CollaborativeSession

/- The session that is made under a drawn id. -/
def new
    (stateId : StateId)
    (ownerId uuid : String)
    (now : DateTime) : CollaborativeSession where
  sessionId := uuid
  stateId := stateId
  ownerId := ownerId
  participants := [ownerId]
  createdAt := now
  lastActivity := now
  status := .active

/- A session that a user has joined. -/
def joinedBy
    (session : CollaborativeSession)
    (userId : String)
    (now : DateTime) : CollaborativeSession :=
  { session with
    participants :=
      if userId ∈ session.participants then
        session.participants
      else
        session.participants ++ [userId]
    lastActivity := now }

/- A session that a user has left. -/
def leftBy
    (session : CollaborativeSession)
    (userId : String)
    (now : DateTime) : CollaborativeSession :=
  { session with
    participants :=
      session.participants.filter fun participant =>
        decide (participant ≠ userId)
    lastActivity := now
    status :=
      if session.ownerId = userId then .ended
      else session.status }

/- An ended session without activity since an instant. -/
def isStale
    (session : CollaborativeSession)
    (cutoff : DateTime) : Bool :=
  decide
    (session.status = .ended ∧
      session.lastActivity < cutoff)

/- A session that its owner has ended. -/
def endedAt
    (session : CollaborativeSession)
    (now : DateTime) : CollaborativeSession :=
  { session with
    status := .ended
    lastActivity := now }

end CollaborativeSession

/- What a cleanup has removed. -/
structure CleanupResult where
  expiredGrants : Nat
  endedSessions : Nat
deriving DecidableEq

/- Share errors. -/
inductive ShareError where
  | accessNotFound (stateId userId : String)
  | permissionDenied
      (userId : String)
      (required : Permission)
  | sessionNotFound (sessionId : String)
  | sessionInactive (sessionId : String)
deriving DecidableEq

------------------------------------------------------------
-- The Sharer
------------------------------------------------------------

/- State sharing manager. -/
structure StateSharer where
  grants : HashMap StateId (List AccessGrant)
  sessions : HashMap String CollaborativeSession
  defaultPermission : Permission

namespace StateSharer

def new : StateSharer where
  grants := ∅
  sessions := ∅
  defaultPermission := .read

def withDefaultPermission
    (sharer : StateSharer)
    (permission : Permission) : StateSharer :=
  { sharer with defaultPermission := permission }

/- The grants of a state. -/
def grantsOf
    (sharer : StateSharer)
    (stateId : StateId) : List AccessGrant :=
  (sharer.grants.lookup stateId).getD []

------------------------------------------------------------
-- Access
------------------------------------------------------------

/- The grant that is made; `none` is a panic. -/
def newGrant
    (userId : String)
    (permission : Permission)
    (grantedBy : String)
    (duration : Option TimeDelta)
    (now : DateTime) : Option AccessGrant :=
  let grant :=
    AccessGrant.new userId permission grantedBy now
  match duration with
  | some d => (now.addDelta d).map grant.withExpiry
  | none => some grant

/- Grant access to a state. -/
def grantAccess
    (stateId : StateId)
    (userId : String)
    (permission : Permission)
    (grantedBy : String)
    (duration : Option TimeDelta)
    (now : DateTime) : Exec StateSharer ShareError Unit :=
  do
    let grant ←
      Exec.orPanic
        (newGrant userId permission grantedBy duration now)
    Exec.update fun sharer =>
      { sharer with
        grants :=
          sharer.grants.insert stateId
            (sharer.grantsOf stateId ++ [grant]) }

/- Revoke access from a user. -/
def revokeAccess
    (stateId : StateId)
    (userId : String) : Exec StateSharer ShareError Unit :=
  do
    let sharer ← Exec.read
    match sharer.grants.lookup stateId with
    | none => Exec.fail (.accessNotFound stateId.id userId)
    | some stateGrants => do
        let kept :=
          stateGrants.filter fun grant =>
            decide (grant.userId ≠ userId)
        Exec.update fun sharer =>
          { sharer with
            grants := sharer.grants.insert stateId kept }
        if 0 < stateGrants.length - kept.length then
          pure ()
        else
          Exec.fail (.accessNotFound stateId.id userId)

/- The first valid grant of a user decides. -/
def checkGrants
    (userId : String)
    (required : Permission)
    (now : DateTime) : List AccessGrant → Bool
| [] => false
| grant :: rest =>
    if grant.userId = userId ∧ grant.isValid now = true then
      decide (required ≤ grant.permission)
    else
      checkGrants userId required now rest

/- Check if user has permission. -/
def checkPermission
    (sharer : StateSharer)
    (stateId : StateId)
    (userId : String)
    (required : Permission)
    (now : DateTime) : Bool :=
  match sharer.grants.lookup stateId with
  | some stateGrants =>
      checkGrants userId required now stateGrants
  | none => false

/- Get user's permission for a state. -/
def getPermission
    (sharer : StateSharer)
    (stateId : StateId)
    (userId : String)
    (now : DateTime) : Option Permission :=
  match sharer.grants.lookup stateId with
  | some stateGrants =>
      (stateGrants.find? fun grant =>
          decide
            (grant.userId = userId ∧
              grant.isValid now = true)).map
        (·.permission)
  | none => none

/- List all users with access to a state. -/
def listGrantees
    (sharer : StateSharer)
    (stateId : StateId)
    (now : DateTime) : List AccessGrant :=
  match sharer.grants.lookup stateId with
  | some stateGrants => stateGrants.filter (·.isValid now)
  | none => []

------------------------------------------------------------
-- Sessions
------------------------------------------------------------

/- Put a session where its id is. -/
def storeSession
    (sessionId : String)
    (session : CollaborativeSession) :
    Exec StateSharer ShareError Unit :=
  Exec.update fun sharer =>
    { sharer with
      sessions := sharer.sessions.insert sessionId session }

/- Create a collaborative session. -/
def createSession
    (stateId : StateId)
    (ownerId uuid : String)
    (now : DateTime) :
    Exec StateSharer ShareError CollaborativeSession := do
  let session :=
    CollaborativeSession.new stateId ownerId uuid now
  storeSession uuid session
  pure session

/- Join a collaborative session. -/
def joinSession
    (sessionId userId : String)
    (now : DateTime) :
    Exec StateSharer ShareError CollaborativeSession := do
  let sharer ← Exec.read
  match sharer.sessions.lookup sessionId with
  | none => Exec.fail (.sessionNotFound sessionId)
  | some session =>
      if session.status ≠ .active then
        Exec.fail (.sessionInactive sessionId)
      else if
        sharer.checkPermission session.stateId userId .read
            now =
          false then
        Exec.fail (.permissionDenied userId .read)
      else do
        let joined := session.joinedBy userId now
        storeSession sessionId joined
        pure joined

/- Leave a collaborative session. -/
def leaveSession
    (sessionId userId : String)
    (now : DateTime) : Exec StateSharer ShareError Unit :=
  do
    let sharer ← Exec.read
    match sharer.sessions.lookup sessionId with
    | none => Exec.fail (.sessionNotFound sessionId)
    | some session =>
        storeSession sessionId (session.leftBy userId now)

/- Get session info. -/
def getSession
    (sharer : StateSharer)
    (sessionId : String) : Option CollaborativeSession :=
  sharer.sessions.lookup sessionId

/- End a collaborative session. -/
def endSession
    (sessionId userId : String)
    (now : DateTime) : Exec StateSharer ShareError Unit :=
  do
    let sharer ← Exec.read
    match sharer.sessions.lookup sessionId with
    | none => Exec.fail (.sessionNotFound sessionId)
    | some session =>
        if session.ownerId ≠ userId then
          Exec.fail (.permissionDenied userId .admin)
        else
          storeSession sessionId (session.endedAt now)

------------------------------------------------------------
-- Cleaning Up
------------------------------------------------------------

/- Ended sessions are kept for a day. -/
def retention : TimeDelta :=
  ⟨86400000000000, by decide⟩

/- Cleanup expired grants and inactive sessions. -/
def cleanup
    (now : DateTime) :
    Exec StateSharer ShareError CleanupResult := do
  let sharer ← Exec.read
  let validGrants :=
    HashMap.mapValues
      (fun stateGrants =>
        stateGrants.filter (·.isValid now))
      sharer.grants
  Exec.update fun sharer =>
    { sharer with grants := validGrants }
  let cutoff ← Exec.orPanic (now.subDelta retention)
  let keptSessions :=
    HashMap.retain
      (fun _ session => !session.isStale cutoff)
      sharer.sessions
  Exec.update fun sharer =>
    { sharer with sessions := keptSessions }
  pure
    { expiredGrants :=
        HashMap.weight List.length sharer.grants -
          HashMap.weight List.length validGrants
      endedSessions :=
        HashMap.len sharer.sessions -
          HashMap.len keptSessions }

end StateSharer

end IsaWorkspace
