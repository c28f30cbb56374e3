import IsaWorkspace.Externals
import IsaWorkspace.Sharing.Operations

/-
  Shareable links, and runs of the calls on their manager.

  A link grants its permission to whoever uses it.  The
  manager asks a sharer for the grant, and the sharer is
  shared: other callers grant, revoke and clean up, too.  A
  use reads the clock three times, to check the link, to
  measure what is left of it, and to date the grant.

  Main declarations:
    * `ShareableLink`, `LinkManager`
    * `LinkManager.createLink`, `useLink`, `revokeLink`
    * `LinkOp`, `LinkHistory`, `LinkHistory.step`
    * `LinkManager.useLink_apply`
    * `LinkHistory.grantsOf_step`, `lookup_step`
-/

------------------------------------------------------------
-- Links
------------------------------------------------------------

namespace IsaWorkspace

/- How long one instant lies after another. -/
def DateTime.since
    (later earlier : DateTime) : TimeDelta where
  nanos := later.nanos - earlier.nanos
  inRange := by
    have hLater := later.inRange
    have hEarlier := earlier.inRange
    omega

/- The later of two instants is not before the first. -/
theorem DateTime.le_max_left
    (first second : DateTime) :
    first ≤ max first second := by
  change
    first ≤ if first ≤ second then second else first
  split
  · next hLater => exact hLater
  · exact Int.le_refl first.nanos

/- Shareable link for easy state sharing. -/
structure ShareableLink where
  token : String
  stateId : StateId
  permission : Permission
  expiresAt : DateTime
  maxUses : Option UInt32
  useCount : UInt32
  createdBy : String
deriving DecidableEq

namespace ShareableLink

/- The link under a drawn token; `none` is a panic. -/
def new
    (stateId : StateId)
    (permission : Permission)
    (createdBy : String)
    (expiresIn : TimeDelta)
    (uuid : String)
    (now : DateTime) : Option ShareableLink :=
  (now.addDelta expiresIn).map fun expiresAt =>
    { token := uuid
      stateId := stateId
      permission := permission
      expiresAt := expiresAt
      maxUses := none
      useCount := 0
      createdBy := createdBy }

def withMaxUses
    (link : ShareableLink)
    (maxUses : UInt32) : ShareableLink :=
  { link with maxUses := some maxUses }

def isValid
    (link : ShareableLink)
    (now : DateTime) : Bool :=
  decide (now < link.expiresAt) &&
    match link.maxUses with
    | some max => decide (link.useCount < max)
    | none => true

/- One more use; `none` is a panic. -/
def recordUse
    [BuildProfile]
    (link : ShareableLink) : Option ShareableLink :=
  (checkedAddU32 link.useCount 1).map fun useCount =>
    { link with useCount := useCount }

/- A counted use is the only change. -/
theorem of_recordUse
    [BuildProfile]
    {link used : ShareableLink}
    (hUsed : link.recordUse = some used) :
    used = { link with useCount := link.useCount + 1 } := by
  rcases Option.map_eq_some_iff.mp hUsed with
    ⟨useCount, hSum, rfl⟩
  unfold checkedAddU32 at hSum
  split at hSum
  · cases hSum
    rfl
  · split at hSum
    · cases hSum
    · cases hSum
      rfl

/- What a link that was made says. -/
theorem of_new
    {stateId : StateId}
    {permission : Permission}
    {createdBy uuid : String}
    {expiresIn : TimeDelta}
    {now : DateTime}
    {link : ShareableLink}
    (hMade :
      new stateId permission createdBy expiresIn uuid now =
        some link) :
    link.token = uuid ∧
      link.maxUses = none ∧
      link.useCount = 0 := by
  rcases Option.map_eq_some_iff.mp hMade with
    ⟨expiresAt, _, rfl⟩
  exact ⟨rfl, rfl, rfl⟩

end ShareableLink

------------------------------------------------------------
-- The Manager
------------------------------------------------------------

/- Link manager for shareable links. -/
structure LinkManager where
  links : HashMap String ShareableLink
  sharer : StateSharer

namespace LinkManager

def new
    (sharer : StateSharer) : LinkManager where
  links := ∅
  sharer := sharer

/- Put a link where its token is. -/
def storeLink
    (token : String)
    (link : ShareableLink) :
    Exec LinkManager ShareError Unit :=
  Exec.update fun manager =>
    { manager with links := manager.links.insert token link }

/- Create a shareable link. -/
def createLink
    (stateId : StateId)
    (permission : Permission)
    (createdBy : String)
    (expiresIn : TimeDelta)
    (uuid : String)
    (now : DateTime) :
    Exec LinkManager ShareError ShareableLink := do
  let link ←
    Exec.orPanic
      (ShareableLink.new stateId permission createdBy
        expiresIn uuid now)
  storeLink link.token link
  pure link

/- Grant what a link grants, for what is left of it. -/
def grantByLink
    (link : ShareableLink)
    (userId : String)
    (measured granted : DateTime) :
    Exec LinkManager ShareError Unit :=
  Exec.onPart LinkManager.sharer
    (fun manager sharer => { manager with sharer := sharer })
    (StateSharer.grantAccess link.stateId userId
      link.permission "link"
      (some (link.expiresAt.since measured)) granted)

/- Use a shareable link. -/
def useLink
    [BuildProfile]
    (token userId : String)
    (checked measured granted : DateTime) :
    Exec LinkManager ShareError Unit := do
  let manager ← Exec.read
  match manager.links.lookup token with
  | none => Exec.fail (.accessNotFound "" userId)
  | some link =>
      if link.isValid checked = false then
        Exec.fail (.permissionDenied userId .read)
      else do
        grantByLink link userId measured granted
        let used ← Exec.orPanic link.recordUse
        storeLink token used

/- Revoke a shareable link. -/
def revokeLink
    (token : String) : Exec LinkManager ShareError Unit :=
  do
    let manager ← Exec.read
    match manager.links.lookup token with
    | none => Exec.fail (.accessNotFound "" "")
    | some _ =>
        Exec.update fun manager =>
          { manager with links := manager.links.erase token }

end LinkManager

end IsaWorkspace

------------------------------------------------------------
-- Histories
------------------------------------------------------------

namespace IsaWorkspace

/- The calls on the manager, and those on its sharer. -/
inductive LinkOp where
  | createLink
      (stateId : StateId)
      (permission : Permission)
      (createdBy : String)
      (expiresIn : TimeDelta)
      (uuid : String)
  | useLink
      (token userId : String)
      (measured granted : DateTime)
  | revokeLink (token : String)
  | sharing (op : SharingOp)

/- A manager at an instant. -/
structure LinkHistory where
  manager : LinkManager
  now : DateTime

namespace LinkHistory

variable [BuildProfile]

/- When the rest of a link is measured in a use. -/
def measuredAt
    (history : LinkHistory)
    (measured : DateTime) : DateTime :=
  max history.now measured

/- When the grant of a use is made. -/
def grantedAt
    (history : LinkHistory)
    (measured granted : DateTime) : DateTime :=
  max (history.measuredAt measured) granted

/- The answer to a use of a link at this instant. -/
def useOutcome
    (history : LinkHistory)
    (token userId : String)
    (measured granted : DateTime) :
    Outcome ShareError Unit × LinkManager :=
  LinkManager.useLink token userId history.now
    (history.measuredAt measured)
    (history.grantedAt measured granted) history.manager

/- Make the call at this instant; the clock never goes back. -/
def step
    (history : LinkHistory)
    (op : LinkOp) : LinkHistory :=
  match op with
  | .createLink stateId permission createdBy expiresIn
      uuid =>
      { history with
        manager :=
          (LinkManager.createLink stateId permission
            createdBy expiresIn uuid history.now
            history.manager).2 }
  | .useLink token userId measured granted =>
      { manager :=
          (history.useOutcome token userId measured
            granted).2
        now := history.grantedAt measured granted }
  | .revokeLink token =>
      { history with
        manager :=
          (LinkManager.revokeLink token
            history.manager).2 }
  | .sharing op =>
      let shared :=
        SharingHistory.step
          ⟨history.manager.sharer, history.now⟩ op
      { manager :=
          { history.manager with sharer := shared.sharer }
        now := shared.now }

/- No link has been made and no access granted yet. -/
def new
    (defaultPermission : Permission)
    (now : DateTime) : LinkHistory where
  manager :=
    LinkManager.new
      (StateSharer.new.withDefaultPermission
        defaultPermission)
  now := now

end LinkHistory

end IsaWorkspace

------------------------------------------------------------
-- What Each Call Computes
------------------------------------------------------------

namespace IsaWorkspace

namespace LinkManager

theorem createLink_apply
    (stateId : StateId)
    (permission : Permission)
    (createdBy : String)
    (expiresIn : TimeDelta)
    (uuid : String)
    (now : DateTime)
    (manager : LinkManager) :
    createLink stateId permission createdBy expiresIn uuid
        now manager =
      match
        ShareableLink.new stateId permission createdBy
          expiresIn uuid now
      with
      | none => (.panicked, manager)
      | some link =>
          (.ok link,
            { manager with
              links :=
                manager.links.insert link.token link }) := by
  unfold createLink
  cases
    ShareableLink.new stateId permission createdBy expiresIn
      uuid now with
  | none => exact Exec.bind_of_panicked rfl
  | some link => rfl

/- After a revocation the token is gone in any case. -/
theorem revokeLink_state
    (token : String)
    (manager : LinkManager) :
    (revokeLink token manager).2 =
      { manager with links := manager.links.erase token } := by
  unfold revokeLink
  rw [Exec.read_bind_apply]
  cases hLookup : manager.links.lookup token with
  | none =>
      have hSame := HashMap.erase_of_lookup_none hLookup
      dsimp only
      rw [hSame]
      rfl
  | some link => rfl

/- What a link grants to a user, if that does not panic. -/
def linkGrant
    (link : ShareableLink)
    (userId : String)
    (measured granted : DateTime) : Option AccessGrant :=
  StateSharer.newGrant userId link.permission "link"
    (some (link.expiresAt.since measured)) granted

/- The state after the grant of a use has been made. -/
def withGrant
    (manager : LinkManager)
    (stateId : StateId)
    (grant : AccessGrant) : LinkManager :=
  { manager with
    sharer :=
      { manager.sharer with
        grants :=
          manager.sharer.grants.insert stateId
            (manager.sharer.grantsOf stateId ++
              [grant]) } }

theorem grantByLink_apply
    (link : ShareableLink)
    (userId : String)
    (measured granted : DateTime)
    (manager : LinkManager) :
    grantByLink link userId measured granted manager =
      match linkGrant link userId measured granted with
      | none => (.panicked, manager)
      | some grant =>
          (.ok (), manager.withGrant link.stateId grant) := by
  unfold grantByLink linkGrant
  rw [Exec.onPart_apply, StateSharer.grantAccess_apply]
  cases
    StateSharer.newGrant userId link.permission "link"
      (some (link.expiresAt.since measured)) granted with
  | none => rfl
  | some grant => rfl

/- The grant that a use makes, and the state it is for. -/
def grantMade
    (manager : LinkManager)
    (token userId : String)
    (checked measured granted : DateTime) :
    Option (StateId × AccessGrant) :=
  match manager.links.lookup token with
  | none => none
  | some link =>
      if link.isValid checked = false then
        none
      else
        (linkGrant link userId measured granted).map
          fun grant => (link.stateId, grant)

variable [BuildProfile]

/- A use that panics may have made its grant before. -/
theorem useLink_apply
    (token userId : String)
    (checked measured granted : DateTime)
    (manager : LinkManager) :
    useLink token userId checked measured granted manager =
      match manager.links.lookup token with
      | none => (.err (.accessNotFound "" userId), manager)
      | some link =>
          if link.isValid checked = false then
            (.err (.permissionDenied userId .read), manager)
          else
            match linkGrant link userId measured granted with
            | none => (.panicked, manager)
            | some grant =>
                match link.recordUse with
                | none =>
                    (.panicked,
                      manager.withGrant link.stateId grant)
                | some used =>
                    (.ok (),
                      { manager.withGrant link.stateId
                            grant with
                        links :=
                          manager.links.insert token
                            used }) := by
  unfold useLink
  rw [Exec.read_bind_apply]
  cases manager.links.lookup token with
  | none => rfl
  | some link =>
      dsimp only
      split
      · rfl
      · have hGrant :=
          grantByLink_apply link userId measured granted
            manager
        cases
          hMade : linkGrant link userId measured granted with
        | none =>
            rw [hMade] at hGrant
            exact Exec.bind_of_panicked hGrant
        | some grant =>
            rw [hMade] at hGrant
            rw [Exec.bind_of_ok hGrant]
            cases link.recordUse with
            | none => exact Exec.bind_of_panicked rfl
            | some used => rfl

/- A grant that is made comes after those of its state. -/
theorem grantsOf_useLink
    (token userId : String)
    (checked measured granted : DateTime)
    (manager : LinkManager)
    (stateId : StateId) :
    (useLink token userId checked measured granted
          manager).2.sharer.grantsOf stateId =
      match
        manager.grantMade token userId checked measured
          granted
      with
      | none => manager.sharer.grantsOf stateId
      | some (target, grant) =>
          if stateId = target then
            manager.sharer.grantsOf stateId ++ [grant]
          else
            manager.sharer.grantsOf stateId := by
  rw [useLink_apply, grantMade]
  cases manager.links.lookup token with
  | none => rfl
  | some link =>
      dsimp only
      split
      · rfl
      · cases linkGrant link userId measured granted with
        | none => rfl
        | some grant =>
            have hGrants :
                (manager.withGrant link.stateId
                      grant).sharer.grantsOf stateId =
                  if stateId = link.stateId then
                    manager.sharer.grantsOf stateId ++
                      [grant]
                  else
                    manager.sharer.grantsOf stateId := by
              unfold withGrant
              by_cases hSame : stateId = link.stateId
              · rw [if_pos hSame, hSame]
                simp [StateSharer.grantsOf]
              · rw [if_neg hSame]
                simp [StateSharer.grantsOf, hSame]
            cases link.recordUse with
            | none => exact hGrants
            | some used => exact hGrants

/- A use counts at its own link, and only if it succeeds. -/
theorem lookup_useLink
    (token userId : String)
    (checked measured granted : DateTime)
    (manager : LinkManager)
    (other : String) :
    (useLink token userId checked measured granted
          manager).2.links.lookup other =
      (manager.links.lookup other).map fun link =>
        if other = token ∧
            (useLink token userId checked measured granted
                manager).1 =
              .ok () then
          { link with useCount := link.useCount + 1 }
        else
          link := by
  rw [useLink_apply]
  cases hLookup : manager.links.lookup token with
  | none => simp
  | some link =>
      dsimp only
      split
      · simp
      · cases linkGrant link userId measured granted with
        | none => simp
        | some grant =>
            cases hUsed : link.recordUse with
            | none => simp [withGrant]
            | some used =>
                have hCounted :=
                  ShareableLink.of_recordUse hUsed
                by_cases hSame : other = token
                · rw [hSame, hLookup]
                  simp [hCounted]
                · simp [hSame]

end LinkManager

end IsaWorkspace

------------------------------------------------------------
-- What an Operation Leaves
------------------------------------------------------------

namespace IsaWorkspace

/- What an operation makes of the grants of a state. -/
def LinkOp.grantsAfter
    (op : LinkOp)
    (history : LinkHistory)
    (stateId : StateId)
    (stateGrants : List AccessGrant) : List AccessGrant :=
  match op with
  | .useLink token userId measured granted =>
      match
        history.manager.grantMade token userId history.now
          (history.measuredAt measured)
          (history.grantedAt measured granted)
      with
      | none => stateGrants
      | some (target, grant) =>
          if stateId = target then stateGrants ++ [grant]
          else stateGrants
  | .sharing op =>
      op.grantsAfter history.now stateId stateGrants
  | _ => stateGrants

namespace LinkHistory

variable [BuildProfile]

/- What an operation leaves of the grants of a state. -/
theorem grantsOf_step
    (history : LinkHistory)
    (op : LinkOp)
    (stateId : StateId) :
    (history.step op).manager.sharer.grantsOf stateId =
      op.grantsAfter history stateId
        (history.manager.sharer.grantsOf stateId) := by
  cases op with
  | createLink target permission createdBy expiresIn uuid =>
      unfold step LinkOp.grantsAfter
      dsimp only
      rw [LinkManager.createLink_apply]
      cases
        ShareableLink.new target permission createdBy
          expiresIn uuid history.now with
      | none => rfl
      | some link => rfl
  | useLink token userId measured granted =>
      exact
        LinkManager.grantsOf_useLink token userId history.now
          (history.measuredAt measured)
          (history.grantedAt measured granted)
          history.manager stateId
  | revokeLink token =>
      unfold step LinkOp.grantsAfter
      dsimp only
      rw [LinkManager.revokeLink_state]
  | sharing op =>
      exact
        SharingHistory.grantsOf_step
          ⟨history.manager.sharer, history.now⟩ op stateId

/- What an operation makes of what is stored at a token. -/
def linkAfter
    (history : LinkHistory)
    (op : LinkOp)
    (token : String)
    (stored : Option ShareableLink) :
    Option ShareableLink :=
  match op with
  | .createLink stateId permission createdBy expiresIn
      uuid =>
      if token = uuid then
        (ShareableLink.new stateId permission createdBy
          expiresIn uuid history.now).or stored
      else
        stored
  | .useLink target userId measured granted =>
      stored.map fun link =>
        if token = target ∧
            (history.useOutcome target userId measured
                granted).1 =
              .ok () then
          { link with useCount := link.useCount + 1 }
        else
          link
  | .revokeLink target =>
      if token = target then none else stored
  | .sharing _ => stored

/- What an operation leaves of the link of a token. -/
theorem lookup_step
    (history : LinkHistory)
    (op : LinkOp)
    (token : String) :
    (history.step op).manager.links.lookup token =
      history.linkAfter op token
        (history.manager.links.lookup token) := by
  cases op with
  | createLink stateId permission createdBy expiresIn
      uuid =>
      unfold step linkAfter
      dsimp only
      rw [LinkManager.createLink_apply]
      cases
        hMade :
          ShareableLink.new stateId permission createdBy
            expiresIn uuid history.now with
      | none => simp
      | some link =>
          have hToken := (ShareableLink.of_new hMade).1
          dsimp only
          rw [HashMap.lookup_insert_eq_ite, hToken]
          simp
  | useLink target userId measured granted =>
      exact
        LinkManager.lookup_useLink target userId history.now
          (history.measuredAt measured)
          (history.grantedAt measured granted)
          history.manager token
  | revokeLink target =>
      unfold step linkAfter
      dsimp only
      rw [LinkManager.revokeLink_state,
        HashMap.lookup_erase_eq_ite]
  | sharing op => rfl

/- Time does not go back. -/
theorem now_le_step
    (history : LinkHistory)
    (op : LinkOp) :
    history.now ≤ (history.step op).now := by
  cases op with
  | useLink token userId measured granted =>
      exact
        Int.le_trans
          (DateTime.le_max_left history.now measured)
          (DateTime.le_max_left
            (history.measuredAt measured) granted)
  | sharing op =>
      exact
        SharingHistory.now_le_step
          ⟨history.manager.sharer, history.now⟩ op
  | _ => exact Int.le_refl history.now.nanos

end LinkHistory

end IsaWorkspace
