import IsaWorkspace.Sharing.Links
import IsaWorkspace.Sharing.Permissions

/-
  Access that comes through links, and the life of a link.

  Where nobody grants directly, every access goes back to a
  use of a link that was valid then, by the same user, that
  no revocation has followed.  The access may outlive the
  link by what the clock has moved inside that use.  A link
  that the manager has made has no limit of uses: until it
  is revoked or expires, it cannot be used up.

  Main declarations:
    * `LinkHistory.GrantedByLink`
    * `LinkHistory.access_by_link`
    * `LinkHistory.usesGranted`
    * `LinkHistory.link_life`
-/

------------------------------------------------------------
-- Grants That Links Have Made
------------------------------------------------------------

namespace IsaWorkspace

/- A direct grant, on the sharer itself. -/
def LinkOp.grantsDirectly : LinkOp → Bool
| .sharing (.grantAccess ..) => true
| _ => false

namespace LinkManager

/- Where a grant that is made comes from. -/
theorem of_grantMade
    {manager : LinkManager}
    {token userId : String}
    {checked measured granted : DateTime}
    {stateId : StateId}
    {grant : AccessGrant}
    (hMade :
      manager.grantMade token userId checked measured
          granted =
        some (stateId, grant)) :
    ∃ link,
      manager.links.lookup token = some link ∧
        link.isValid checked = true ∧
        link.stateId = stateId ∧
        linkGrant link userId measured granted =
          some grant := by
  unfold grantMade at hMade
  cases hLookup : manager.links.lookup token with
  | none =>
      rw [hLookup] at hMade
      cases hMade
  | some link =>
      rw [hLookup] at hMade
      dsimp only at hMade
      split at hMade
      · cases hMade
      · next hValid =>
          rcases Option.map_eq_some_iff.mp hMade with
            ⟨made, hGrant, hPair⟩
          cases hPair
          exact
            ⟨link, rfl, (Bool.not_eq_false _).mp hValid, rfl,
              hGrant⟩

/- The grant of a link, and until when it holds. -/
theorem of_linkGrant
    {link : ShareableLink}
    {userId : String}
    {measured granted : DateTime}
    {grant : AccessGrant}
    (hGrant :
      linkGrant link userId measured granted =
        some grant) :
    grant.userId = userId ∧
      grant.permission = link.permission ∧
      ∃ expiresAt,
        grant.expiresAt = some expiresAt ∧
          expiresAt.nanos =
            link.expiresAt.nanos +
              (granted.nanos - measured.nanos) := by
  unfold linkGrant at hGrant
  have hWhose := StateSharer.of_newGrant hGrant
  rcases Option.map_eq_some_iff.mp hGrant with
    ⟨expiresAt, hSum, rfl⟩
  refine ⟨hWhose.1, hWhose.2, expiresAt, rfl, ?_⟩
  unfold DateTime.addDelta DateTime.ofNanos? at hSum
  split at hSum
  · cases hSum
    change
      granted.nanos +
          (link.expiresAt.nanos - measured.nanos) =
        link.expiresAt.nanos +
          (granted.nanos - measured.nanos)
    omega
  · cases hSum

end LinkManager

namespace LinkHistory

variable [BuildProfile]

/-
  A use of a link in the run has made the grant, and nothing
  after it has revoked the user's access to the state.
-/
def GrantedByLink
    (start : LinkHistory)
    (ops : List LinkOp)
    (stateId : StateId)
    (grant : AccessGrant) : Prop :=
  ∃ before token measured granted after link,
    ops =
        before ++
          .useLink token grant.userId measured granted ::
            after ∧
      let history := Runs.run step start before
      history.manager.links.lookup token = some link ∧
        link.isValid history.now = true ∧
        link.stateId = stateId ∧
        LinkManager.linkGrant link grant.userId
            (history.measuredAt measured)
            (history.grantedAt measured granted) =
          some grant ∧
        .sharing (.revokeAccess stateId grant.userId) ∉
          after

variable {start : LinkHistory} {ops : List LinkOp}
variable {stateId : StateId} {grant : AccessGrant}

/- A grant stays one of a link while it is not revoked. -/
theorem GrantedByLink.concat
    {op : LinkOp}
    (hGranted : GrantedByLink start ops stateId grant)
    (hKept :
      op ≠ .sharing (.revokeAccess stateId grant.userId)) :
    GrantedByLink start (ops ++ [op]) stateId grant := by
  rcases hGranted with
    ⟨before, token, measured, granted, after, link, hOps,
      hLookup, hValid, hState, hGrant, hAfter⟩
  refine
    ⟨before, token, measured, granted, after ++ [op], link,
      ?_, hLookup, hValid, hState, hGrant, ?_⟩
  · rw [hOps, List.append_assoc, List.cons_append]
  · intro hRevoked
    rcases List.mem_append.mp hRevoked with hOld | hLast
    · exact hAfter hOld
    · exact hKept (List.mem_singleton.mp hLast).symm

/-
  Every grant was there before and is kept, or the operation
  is the use of a link that has made it.
-/
omit [BuildProfile] in
theorem of_mem_grantsAfter
    {history : LinkHistory}
    {op : LinkOp}
    {stateGrants : List AccessGrant}
    (hIndirect : op.grantsDirectly = false)
    (hMember :
      grant ∈
        op.grantsAfter history stateId stateGrants) :
    (grant ∈ stateGrants ∧
        op ≠
          .sharing (.revokeAccess stateId grant.userId)) ∨
      ∃ token userId measured granted,
        op = .useLink token userId measured granted ∧
          history.manager.grantMade token userId history.now
              (history.measuredAt measured)
              (history.grantedAt measured granted) =
            some (stateId, grant) := by
  cases op with
  | createLink =>
      exact Or.inl ⟨hMember, LinkOp.noConfusion⟩
  | revokeLink =>
      exact Or.inl ⟨hMember, LinkOp.noConfusion⟩
  | useLink token userId measured granted =>
      unfold LinkOp.grantsAfter at hMember
      dsimp only at hMember
      split at hMember
      · exact Or.inl ⟨hMember, LinkOp.noConfusion⟩
      · next target made hMade =>
          split at hMember
          · next hTarget =>
              rcases List.mem_append.mp hMember with
                hOld | hNew
              · exact Or.inl ⟨hOld, LinkOp.noConfusion⟩
              · right
                cases List.mem_singleton.mp hNew
                refine
                  ⟨token, userId, measured, granted, rfl, ?_⟩
                rw [hMade, hTarget]
          · exact Or.inl ⟨hMember, LinkOp.noConfusion⟩
  | sharing op =>
      left
      cases op with
      | grantAccess => cases hIndirect
      | revokeAccess target userId =>
          unfold LinkOp.grantsAfter SharingOp.grantsAfter
            at hMember
          dsimp only at hMember
          split at hMember
          · have hOther := List.mem_filter.mp hMember
            refine ⟨hOther.1, ?_⟩
            intro hSame
            cases hSame
            exact of_decide_eq_true hOther.2 rfl
          · next hState =>
              refine ⟨hMember, ?_⟩
              intro hSame
              cases hSame
              exact hState rfl
      | cleanup =>
          refine ⟨(List.mem_filter.mp hMember).1, ?_⟩
          intro hSame
          cases hSame
      | _ =>
          refine ⟨hMember, ?_⟩
          intro hSame
          cases hSame

/- Without direct grants, all grants come from links. -/
theorem grantedByLink_run
    (defaultPermission : Permission)
    (now : DateTime)
    (ops : List LinkOp)
    (hIndirect :
      ∀ op ∈ ops, op.grantsDirectly = false)
    (hMember :
      grant ∈
        (Runs.run step (new defaultPermission now)
            ops).manager.sharer.grantsOf stateId) :
    GrantedByLink (new defaultPermission now) ops stateId
      grant := by
  induction ops using List.reverseRecOn with
  | nil => cases hMember
  | append_singleton ops op ih =>
      have hBefore :
          ∀ earlier ∈ ops,
            earlier.grantsDirectly = false := by
        intro earlier hEarlier
        exact
          hIndirect earlier (List.mem_append_left _ hEarlier)
      have hLast : op.grantsDirectly = false :=
        hIndirect op List.mem_concat_self
      rw [Runs.run_concat, grantsOf_step] at hMember
      rcases of_mem_grantsAfter hLast hMember with
        ⟨hOld, hKept⟩ |
          ⟨token, userId, measured, granted, rfl, hMade⟩
      · exact (ih hBefore hOld).concat hKept
      · rcases LinkManager.of_grantMade hMade with
          ⟨link, hLookup, hValid, hState, hGrant⟩
        have hUser := (LinkManager.of_linkGrant hGrant).1
        subst hUser
        exact
          ⟨ops, token, measured, granted, [], link, rfl,
            hLookup, hValid, hState, hGrant,
            List.not_mem_nil⟩

/-
  Whoever has access without direct grants has used a link
  of that level that was valid then, has not been revoked
  since, and has it no longer than the link was valid,
  except for what the clock has moved inside the use.
-/
theorem access_by_link
    (defaultPermission : Permission)
    (now : DateTime)
    (ops : List LinkOp)
    (hIndirect :
      ∀ op ∈ ops, op.grantsDirectly = false)
    (stateId : StateId)
    (userId : String)
    (required : Permission) :
    let start := new defaultPermission now
    let last := Runs.run step start ops
    last.manager.sharer.checkPermission stateId userId
        required last.now =
      true →
    ∃ before token measured granted after link,
      ops =
          before ++
            .useLink token userId measured granted ::
              after ∧
        let history := Runs.run step start before
        history.manager.links.lookup token = some link ∧
          link.stateId = stateId ∧
          required ≤ link.permission ∧
          link.isValid history.now = true ∧
          last.now.nanos ≤
            link.expiresAt.nanos +
              ((history.grantedAt measured granted).nanos -
                (history.measuredAt measured).nanos) ∧
          .sharing (.revokeAccess stateId userId) ∉
            after := by
  intro start last hCheck
  rw [StateSharer.checkPermission_eq] at hCheck
  rcases StateSharer.allowed_of_checkGrants hCheck with
    ⟨grant, hMember, rfl, hValid, hLevel⟩
  rcases
    grantedByLink_run defaultPermission now ops hIndirect
      hMember with
    ⟨before, token, measured, granted, after, link, hOps,
      hLookup, hLink, hState, hGrant, hAfter⟩
  rcases LinkManager.of_linkGrant hGrant with
    ⟨_, hPermission, expiresAt, hExpires, hNanos⟩
  rw [hPermission] at hLevel
  refine
    ⟨before, token, measured, granted, after, link, hOps,
      hLookup, hState, hLevel, hLink, ?_, hAfter⟩
  have hNow : ¬ expiresAt.nanos < last.now.nanos := by
    rw [AccessGrant.isValid, AccessGrant.isExpired, hExpires]
      at hValid
    simp only [Bool.not_eq_true', decide_eq_false_iff_not]
      at hValid
    exact hValid
  rw [hNanos] at hNow
  exact Int.not_lt.mp hNow

end LinkHistory

end IsaWorkspace

------------------------------------------------------------
-- The Life of a Link
------------------------------------------------------------

namespace IsaWorkspace

/- The token that a call draws for a link. -/
def LinkOp.tokenDrawn : LinkOp → Option String
| .createLink _ _ _ _ uuid => some uuid
| _ => none

/- Whether a call revokes a link. -/
def LinkOp.revokes
    (op : LinkOp)
    (token : String) : Bool :=
  match op with
  | .revokeLink target => decide (target = token)
  | _ => false

namespace LinkHistory

variable [BuildProfile]

/- Whether an operation is a use that succeeds. -/
def usesWell
    (history : LinkHistory)
    (op : LinkOp)
    (token : String) : Bool :=
  match op with
  | .useLink target userId measured granted =>
      decide
        (target = token ∧
          (history.useOutcome target userId measured
              granted).1 =
            .ok ())
  | _ => false

/- How many uses of a link succeed in a run. -/
def usesGranted
    (token : String) :
    LinkHistory → List LinkOp → Nat
| _, [] => 0
| history, op :: rest =>
    (if history.usesWell op token then 1 else 0) +
      usesGranted token (history.step op) rest

variable {history : LinkHistory} {ops : List LinkOp}
variable {token : String} {link : ShareableLink}

/- A token that is gone is only back when it is drawn. -/
theorem gone_run
    (hFresh :
      ∀ op ∈ ops, op.tokenDrawn ≠ some token)
    (hGone :
      history.manager.links.lookup token = none) :
    (Runs.run step history
        ops).manager.links.lookup token =
      none := by
  induction ops generalizing history with
  | nil => exact hGone
  | cons op rest ih =>
      refine
        ih
          (fun later hLater =>
            hFresh later (List.mem_cons_of_mem op hLater))
          ?_
      rw [lookup_step, hGone]
      cases op with
      | createLink stateId permission createdBy expiresIn
          uuid =>
          have hOther := hFresh _ List.mem_cons_self
          have hToken : token ≠ uuid := by
            intro hSame
            exact hOther (congrArg some hSame.symm)
          exact if_neg hToken
      | useLink => rfl
      | revokeLink target =>
          unfold linkAfter
          dsimp only
          split
          · rfl
          · rfl
      | sharing => rfl

/- What an operation leaves of a link that it does not end. -/
theorem lookup_step_of_kept
    {op : LinkOp}
    (hFresh : op.tokenDrawn ≠ some token)
    (hKept : op.revokes token = false)
    (hLink :
      history.manager.links.lookup token = some link) :
    (history.step op).manager.links.lookup token =
      some
        { link with
          useCount :=
            link.useCount +
              if history.usesWell op token then 1
              else 0 } := by
  rw [lookup_step, hLink]
  cases op with
  | createLink stateId permission createdBy expiresIn
      uuid =>
      have hToken : token ≠ uuid := by
        intro hSame
        exact hFresh (congrArg some hSame.symm)
      unfold linkAfter usesWell
      dsimp only
      rw [if_neg hToken]
      simp
  | useLink target userId measured granted =>
      unfold linkAfter usesWell
      simp only [Option.map_some, decide_eq_true_eq,
        eq_comm (a := token)]
      split
      · rfl
      · simp
  | revokeLink target =>
      have hOther : token ≠ target := by
        intro hSame
        exact of_decide_eq_false hKept hSame.symm
      unfold linkAfter usesWell
      dsimp only
      rw [if_neg hOther]
      simp
  | sharing op =>
      unfold linkAfter usesWell
      simp

/- A link that nothing ends counts the uses of the run. -/
theorem kept_run
    (hFresh :
      ∀ op ∈ ops, op.tokenDrawn ≠ some token)
    (hKept : ∀ op ∈ ops, op.revokes token = false)
    (hLink :
      history.manager.links.lookup token = some link) :
    (Runs.run step history
        ops).manager.links.lookup token =
      some
        { link with
          useCount :=
            link.useCount +
              UInt32.ofNat
                (usesGranted token history ops) } := by
  induction ops generalizing history link with
  | nil =>
      rw [usesGranted]
      simpa using hLink
  | cons op rest ih =>
      have hStep :=
        lookup_step_of_kept (hFresh op List.mem_cons_self)
          (hKept op List.mem_cons_self) hLink
      have hRest :=
        ih
          (fun later hLater =>
            hFresh later (List.mem_cons_of_mem op hLater))
          (fun later hLater =>
            hKept later (List.mem_cons_of_mem op hLater))
          hStep
      change
        (Runs.run step (history.step op)
            rest).manager.links.lookup token = _
      rw [hRest, usesGranted]
      split
      · simp [UInt32.add_assoc]
      · simp

/- A link that is revoked in a run is gone at its end. -/
theorem revoked_run
    (hFresh :
      ∀ op ∈ ops, op.tokenDrawn ≠ some token)
    (hRevoked : ∃ op ∈ ops, op.revokes token = true) :
    (Runs.run step history
        ops).manager.links.lookup token =
      none := by
  rcases hRevoked with ⟨op, hMember, hRevokes⟩
  rcases List.mem_iff_append.mp hMember with
    ⟨before, after, rfl⟩
  have hAfter :
      ∀ later ∈ after, later.tokenDrawn ≠ some token := by
    intro later hLater
    apply hFresh later
    exact
      List.mem_append_right before
        (List.mem_cons_of_mem op hLater)
  rw [Runs.run_append]
  apply gone_run hAfter
  rw [lookup_step]
  cases op with
  | revokeLink target =>
      exact if_pos (of_decide_eq_true hRevokes).symm
  | _ => cases hRevokes

/- What a use of a link answers, by the link that is there. -/
theorem useOutcome_of_none
    (hGone : history.manager.links.lookup token = none)
    (userId : String)
    (measured granted : DateTime) :
    history.useOutcome token userId measured granted =
      (.err (.accessNotFound "" userId),
        history.manager) := by
  unfold useOutcome
  rw [LinkManager.useLink_apply, hGone]

theorem useOutcome_of_not_valid
    (hLink :
      history.manager.links.lookup token = some link)
    (hValid : link.isValid history.now = false)
    (userId : String)
    (measured granted : DateTime) :
    history.useOutcome token userId measured granted =
      (.err (.permissionDenied userId .read),
        history.manager) := by
  unfold useOutcome
  rw [LinkManager.useLink_apply, hLink]
  exact if_pos hValid

theorem useOutcome_of_valid
    (hLink :
      history.manager.links.lookup token = some link)
    (hValid : link.isValid history.now = true)
    (userId : String)
    (measured granted : DateTime)
    (error : ShareError) :
    (history.useOutcome token userId measured granted).1 ≠
      .err error := by
  have hNotInvalid : ¬ link.isValid history.now = false :=
    (Bool.not_eq_false _).mpr hValid
  unfold useOutcome
  rw [LinkManager.useLink_apply, hLink]
  dsimp only
  rw [if_neg hNotInvalid]
  cases
    LinkManager.linkGrant link userId
      (history.measuredAt measured)
      (history.grantedAt measured granted) with
  | none =>
      intro hError
      cases hError
  | some grant =>
      cases link.recordUse with
      | none =>
          intro hError
          cases hError
      | some used =>
          intro hError
          cases hError

/-
  A link that the manager has made, in every later run that
  does not draw its token again.  Revoked, it grants nothing
  any more.  Otherwise it is as it was made, except that it
  counts the uses that have succeeded; it refuses every use
  from its expiry on and none before, however many came.
-/
theorem link_life
    (history : LinkHistory)
    (stateId : StateId)
    (permission : Permission)
    (createdBy : String)
    (expiresIn : TimeDelta)
    (uuid : String)
    (link : ShareableLink)
    (ops : List LinkOp)
    (hMade :
      ShareableLink.new stateId permission createdBy
          expiresIn uuid history.now =
        some link)
    (hFresh : ∀ op ∈ ops, op.tokenDrawn ≠ some uuid)
    (userId : String)
    (measured granted : DateTime) :
    let created :=
      history.step
        (.createLink stateId permission createdBy expiresIn
          uuid)
    let last := Runs.run step created ops
    let answer :=
      last.useOutcome uuid userId measured granted
    ((∃ op ∈ ops, op.revokes uuid = true) →
        answer =
          (.err (.accessNotFound "" userId),
            last.manager)) ∧
      ((∀ op ∈ ops, op.revokes uuid = false) →
        last.manager.links.lookup uuid =
            some
              { link with
                useCount :=
                  UInt32.ofNat
                    (usesGranted uuid created ops) } ∧
          (link.expiresAt ≤ last.now →
            answer =
              (.err (.permissionDenied userId .read),
                last.manager)) ∧
          (last.now < link.expiresAt →
            ∀ error, answer.1 ≠ .err error)) := by
  intro created last answer
  rcases ShareableLink.of_new hMade with
    ⟨hToken, hLimit, hUnused⟩
  have hCreated :
      created.manager.links.lookup uuid = some link := by
    change
      (history.step _).manager.links.lookup uuid = some link
    rw [lookup_step]
    unfold linkAfter
    dsimp only
    rw [if_pos rfl, hMade]
    rfl
  constructor
  · intro hRevoked
    exact
      useOutcome_of_none (revoked_run hFresh hRevoked) userId
        measured granted
  · intro hKept
    have hLink := kept_run hFresh hKept hCreated
    rw [hUnused, UInt32.zero_add] at hLink
    have hValid :
        ({ link with
              useCount :=
                UInt32.ofNat
                  (usesGranted uuid created
                    ops) } : ShareableLink).isValid
            last.now =
          decide (last.now < link.expiresAt) := by
      unfold ShareableLink.isValid
      rw [hLimit]
      exact Bool.and_true _
    refine ⟨hLink, ?_, ?_⟩
    · intro hExpired
      apply useOutcome_of_not_valid hLink
      rw [hValid]
      exact decide_eq_false (Int.not_lt.mpr hExpired)
    · intro hEarlier error
      apply useOutcome_of_valid hLink
      rw [hValid]
      exact decide_eq_true hEarlier

end LinkHistory

------------------------------------------------------------
-- Sample Runs
------------------------------------------------------------

namespace LinkHistory

/- An hour. -/
def sampleHour : TimeDelta :=
  ⟨3600000000000, by decide⟩

/- The owner makes a link. -/
def sampleLink : LinkOp :=
  .createLink ⟨"state"⟩ .execute "owner" sampleHour "token"

/- A reader uses it. -/
def sampleUse : LinkOp :=
  .useLink "token" "reader" DateTime.unixEpoch
    DateTime.unixEpoch

theorem access_by_link_sample :
    ∃ before token measured granted after link,
      [sampleLink, sampleUse] =
          before ++
            .useLink token "reader" measured granted ::
              after ∧
        let history :=
          @Runs.run _ _ (@step ⟨true⟩)
            (new .read DateTime.unixEpoch) before
        history.manager.links.lookup token = some link ∧
          link.stateId = ⟨"state"⟩ ∧
          .execute ≤ link.permission ∧
          link.isValid history.now = true ∧
          (Runs.run (@step ⟨true⟩)
              (new .read DateTime.unixEpoch)
              [sampleLink, sampleUse]).now.nanos ≤
            link.expiresAt.nanos +
              ((history.grantedAt measured granted).nanos -
                (history.measuredAt measured).nanos) ∧
          .sharing (.revokeAccess ⟨"state"⟩ "reader") ∉
            after :=
  @access_by_link ⟨true⟩ .read DateTime.unixEpoch
    [sampleLink, sampleUse] (by decide) ⟨"state"⟩ "reader"
    .execute (by decide +kernel)

/- The link that the owner makes. -/
def madeLink : ShareableLink where
  token := "token"
  stateId := ⟨"state"⟩
  permission := .execute
  expiresAt := ⟨3600000000000, by decide⟩
  maxUses := none
  useCount := 0
  createdBy := "owner"

theorem link_life_sample :
    let created :=
      @step ⟨true⟩ (new .read DateTime.unixEpoch) sampleLink
    let last := @Runs.run _ _ (@step ⟨true⟩) created
      [sampleUse, .revokeLink "token"]
    @useOutcome ⟨true⟩ last "token" "other"
        DateTime.unixEpoch DateTime.unixEpoch =
      (.err (.accessNotFound "" "other"), last.manager) :=
  (@link_life ⟨true⟩ (new .read DateTime.unixEpoch)
      ⟨"state"⟩ .execute "owner" sampleHour "token" madeLink
      [sampleUse, .revokeLink "token"] (by decide)
      (by decide) "other" DateTime.unixEpoch
      DateTime.unixEpoch).1
    (by decide)

end LinkHistory

end IsaWorkspace
