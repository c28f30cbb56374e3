import IsaWorkspace.Sharing.Operations

/-
  When a check honours every grant that is valid.

  A check is decided by the first valid grant of the user.
  It tells what the valid grants allow together as long as
  no grant raises the level of a user who holds another one.

  Main declarations:
    * `AccessGrant.Allowed`
    * `StateSharer.checkGrants_append`
    * `StateSharer.checkGrants_filter`
    * `SharingHistory.HonoursGrants`
    * `SharingHistory.RaisesNone`
    * `SharingHistory.honoursGrants_iff`
-/

------------------------------------------------------------
-- What Grants Allow
------------------------------------------------------------

namespace IsaWorkspace

/- Some grant of the user is valid and of that level. -/
def AccessGrant.Allowed
    (stateGrants : List AccessGrant)
    (userId : String)
    (required : Permission)
    (instant : DateTime) : Prop :=
  ∃ grant ∈ stateGrants,
    grant.userId = userId ∧
      grant.isValid instant = true ∧
      required ≤ grant.permission

namespace AccessGrant

variable {stateGrants : List AccessGrant}
variable {userId : String} {required : Permission}
variable {now instant : DateTime}

/- Whoever is allowed something may read. -/
theorem Allowed.read
    (hAllowed :
      Allowed stateGrants userId required instant) :
    Allowed stateGrants userId .read instant := by
  rcases hAllowed with ⟨grant, hGrant, hUser, hValid, _⟩
  exact
    ⟨grant, hGrant, hUser, hValid,
      Permission.read_le grant.permission⟩

theorem allowed_append_iff
    {later : List AccessGrant} :
    Allowed (stateGrants ++ later) userId required
        instant ↔
      Allowed stateGrants userId required instant ∨
        Allowed later userId required instant := by
  simp [Allowed, or_and_right, exists_or]

theorem allowed_singleton_iff
    {grant : AccessGrant} :
    Allowed [grant] userId required instant ↔
      grant.userId = userId ∧
        grant.isValid instant = true ∧
        required ≤ grant.permission := by
  simp [Allowed]

/- Dropping grants that do not count changes nothing. -/
theorem allowed_filter_iff
    {keep : AccessGrant → Bool}
    (hKeep :
      ∀ grant ∈ stateGrants,
        grant.userId = userId →
          grant.isValid instant = true →
            keep grant = true) :
    Allowed (stateGrants.filter keep) userId required
        instant ↔
      Allowed stateGrants userId required instant := by
  constructor
  · rintro ⟨grant, hGrant, hCounts⟩
    exact ⟨grant, (List.mem_filter.mp hGrant).1, hCounts⟩
  · rintro ⟨grant, hGrant, hUser, hValid, hLevel⟩
    have hKept := hKeep grant hGrant hUser hValid
    exact
      ⟨grant, List.mem_filter.mpr ⟨hGrant, hKept⟩, hUser,
        hValid, hLevel⟩

/- A user whose grants are gone is allowed nothing. -/
theorem not_allowed_of_revoked :
    ¬ Allowed
        (stateGrants.filter fun grant =>
          decide (grant.userId ≠ userId))
        userId required instant := by
  rintro ⟨grant, hGrant, hUser, _⟩
  have hOther := (List.mem_filter.mp hGrant).2
  simp [hUser] at hOther

/- A grant that is valid later has been valid before. -/
theorem isValid_of_le
    {grant : AccessGrant}
    (hLater : now ≤ instant)
    (hValid : grant.isValid instant = true) :
    grant.isValid now = true := by
  rw [isValid, isExpired] at hValid ⊢
  cases hExpires : grant.expiresAt with
  | none => rfl
  | some expiresAt =>
      have hOrder : now.nanos ≤ instant.nanos := hLater
      simp only [hExpires, Bool.not_eq_true',
        decide_eq_false_iff_not] at hValid ⊢
      intro hExpired
      have hExpiredNow : expiresAt.nanos < now.nanos :=
        hExpired
      apply hValid
      change expiresAt.nanos < instant.nanos
      omega

/- Whoever is allowed a level is allowed all lower ones. -/
theorem Allowed.lower
    {higher : Permission}
    (hAllowed : Allowed stateGrants userId higher instant)
    (hLevel : required ≤ higher) :
    Allowed stateGrants userId required instant := by
  rcases hAllowed with
    ⟨grant, hGrant, hUser, hValid, hHigher⟩
  exact
    ⟨grant, hGrant, hUser, hValid,
      UInt8.le_trans hLevel hHigher⟩

end AccessGrant

------------------------------------------------------------
-- What a Check Tells
------------------------------------------------------------

namespace StateSharer

open AccessGrant

variable {stateGrants : List AccessGrant}
variable {userId : String} {required : Permission}
variable {instant : DateTime}

/- What a check grants, the grants allow. -/
theorem allowed_of_checkGrants
    (hCheck :
      checkGrants userId required instant stateGrants =
        true) :
    Allowed stateGrants userId required instant := by
  induction stateGrants with
  | nil => cases hCheck
  | cons grant rest ih =>
      unfold checkGrants at hCheck
      split at hCheck
      · next hFirst =>
          exact
            ⟨grant, List.mem_cons_self, hFirst.1, hFirst.2,
              of_decide_eq_true hCheck⟩
      · rcases ih hCheck with ⟨other, hOther, hCounts⟩
        exact
          ⟨other, List.mem_cons_of_mem grant hOther,
            hCounts⟩

/- Grants that were made later do not count. -/
theorem checkGrants_append
    (later : List AccessGrant)
    (hHolds : Allowed stateGrants userId .read instant) :
    checkGrants userId required instant
        (stateGrants ++ later) =
      checkGrants userId required instant stateGrants := by
  induction stateGrants with
  | nil =>
      rcases hHolds with ⟨grant, hGrant, _⟩
      cases hGrant
  | cons grant rest ih =>
      rw [List.cons_append, checkGrants, checkGrants]
      split
      · rfl
      · next hFirst =>
          apply ih
          rcases hHolds with
            ⟨other, hOther, hUser, hValid, hLevel⟩
          rcases List.mem_cons.mp hOther with rfl | hRest
          · exact absurd ⟨hUser, hValid⟩ hFirst
          · exact ⟨other, hRest, hUser, hValid, hLevel⟩

/- Without an earlier grant the later ones decide. -/
theorem checkGrants_append_of_not
    (later : List AccessGrant)
    (hNone : ¬ Allowed stateGrants userId .read instant) :
    checkGrants userId required instant
        (stateGrants ++ later) =
      checkGrants userId required instant later := by
  induction stateGrants with
  | nil => rfl
  | cons grant rest ih =>
      rw [List.cons_append, checkGrants]
      split
      · next hFirst =>
          exact
            absurd
              ⟨grant, List.mem_cons_self, hFirst.1,
                hFirst.2, Permission.read_le _⟩
              hNone
      · apply ih
        rintro ⟨other, hOther, hCounts⟩
        exact
          hNone
            ⟨other, List.mem_cons_of_mem grant hOther,
              hCounts⟩

theorem checkGrants_singleton
    {grant : AccessGrant} :
    checkGrants userId required instant [grant] = true ↔
      Allowed [grant] userId required instant := by
  rw [allowed_singleton_iff, checkGrants, checkGrants]
  split
  · next hFirst => simp [hFirst]
  · next hFirst =>
      constructor
      · intro hFalse
        cases hFalse
      · rintro ⟨hUser, hValid, _⟩
        exact absurd ⟨hUser, hValid⟩ hFirst

/- Dropping grants that do not count changes no check. -/
theorem checkGrants_filter
    {keep : AccessGrant → Bool}
    (hKeep :
      ∀ grant ∈ stateGrants,
        grant.userId = userId →
          grant.isValid instant = true →
            keep grant = true) :
    checkGrants userId required instant
        (stateGrants.filter keep) =
      checkGrants userId required instant stateGrants := by
  induction stateGrants with
  | nil => rfl
  | cons grant rest ih =>
      have hRest :=
        ih fun other hOther =>
          hKeep other (List.mem_cons_of_mem grant hOther)
      cases hCase : keep grant with
      | true =>
          rw [List.filter_cons_of_pos hCase, checkGrants,
            checkGrants, hRest]
      | false =>
          rw [List.filter_cons_of_neg (by simp [hCase]),
            hRest, checkGrants, if_neg]
          rintro ⟨hUser, hValid⟩
          have hKept :=
            hKeep grant List.mem_cons_self hUser hValid
          rw [hCase] at hKept
          cases hKept

/- To read, any valid grant is enough. -/
theorem checkGrants_read_iff :
    checkGrants userId .read instant stateGrants = true ↔
      Allowed stateGrants userId .read instant := by
  constructor
  · exact allowed_of_checkGrants
  · intro hAllowed
    induction stateGrants with
    | nil =>
        rcases hAllowed with ⟨grant, hGrant, _⟩
        cases hGrant
    | cons grant rest ih =>
        rw [checkGrants]
        split
        · exact
            decide_eq_true
              (Permission.read_le grant.permission)
        · next hFirst =>
            apply ih
            rcases hAllowed with
              ⟨other, hOther, hUser, hValid, hLevel⟩
            rcases List.mem_cons.mp hOther with rfl | hRest
            · exact absurd ⟨hUser, hValid⟩ hFirst
            · exact ⟨other, hRest, hUser, hValid, hLevel⟩

/- Checks of a user tell what the grants allow. -/
def Honoured
    (stateGrants : List AccessGrant)
    (userId : String)
    (instant : DateTime) : Prop :=
  ∀ required,
    checkGrants userId required instant stateGrants =
        true ↔
      Allowed stateGrants userId required instant

/-
  One more grant is honoured exactly if it does not raise
  what a user with another grant is allowed.
-/
theorem honoured_append_iff
    {grant : AccessGrant}
    (hBefore : Honoured stateGrants userId instant) :
    Honoured (stateGrants ++ [grant]) userId instant ↔
      (grant.userId = userId →
        grant.isValid instant = true →
          Allowed stateGrants userId .read instant →
            Allowed stateGrants userId grant.permission
              instant) := by
  by_cases hHolds : Allowed stateGrants userId .read instant
  · have hCheck :
        ∀ required,
          checkGrants userId required instant
                (stateGrants ++ [grant]) =
              true ↔
            Allowed stateGrants userId required instant := by
      intro required
      rw [checkGrants_append [grant] hHolds]
      exact hBefore required
    constructor
    · intro hAfter hUser hValid _
      have hNew :
          Allowed (stateGrants ++ [grant]) userId
            grant.permission instant :=
        ⟨grant, by simp, hUser, hValid, UInt8.le_refl _⟩
      exact
        (hCheck grant.permission).mp
          ((hAfter grant.permission).mpr hNew)
    · intro hRaisesNone required
      rw [hCheck, allowed_append_iff]
      constructor
      · exact Or.inl
      · rintro (hOld | hNew)
        · exact hOld
        · rcases allowed_singleton_iff.mp hNew with
            ⟨hUser, hValid, hLevel⟩
          exact
            (hRaisesNone hUser hValid hHolds).lower hLevel
  · constructor
    · intro _ _ _ hRead
      exact absurd hRead hHolds
    · intro _ required
      rw [checkGrants_append_of_not [grant] hHolds,
        checkGrants_singleton, allowed_append_iff]
      constructor
      · exact Or.inr
      · rintro (hOld | hNew)
        · exact absurd hOld.read hHolds
        · exact hNew

/- Dropping what does not count keeps grants honoured. -/
theorem Honoured.filter
    {keep : AccessGrant → Bool}
    (hBefore : Honoured stateGrants userId instant)
    (hKeep :
      ∀ grant ∈ stateGrants,
        grant.userId = userId →
          grant.isValid instant = true →
            keep grant = true) :
    Honoured (stateGrants.filter keep) userId instant := by
  intro required
  rw [checkGrants_filter hKeep, allowed_filter_iff hKeep]
  exact hBefore required

/- Where a user's grants are gone, no check succeeds. -/
theorem honoured_revoked :
    Honoured
      (stateGrants.filter fun grant =>
        decide (grant.userId ≠ userId))
      userId instant := by
  intro required
  constructor
  · exact allowed_of_checkGrants
  · intro hAllowed
    exact absurd hAllowed not_allowed_of_revoked

end StateSharer

------------------------------------------------------------
-- Along a Run
------------------------------------------------------------

namespace SharingHistory

open AccessGrant StateSharer

/- From now on, checks tell what the grants allow. -/
def HonoursGrants
    (history : SharingHistory) : Prop :=
  ∀ instant, history.now ≤ instant →
    ∀ stateId userId required,
      history.sharer.checkPermission stateId userId required
            instant =
          true ↔
        Allowed (history.sharer.grantsOf stateId) userId
          required instant

/-
  A new grant has no higher level than what the user is
  allowed, wherever it is valid beside another one.
-/
def RaisesNone
    (history : SharingHistory) : SharingOp → Prop
| .grantAccess stateId userId permission grantedBy
    duration =>
    ∀ grant ∈
        newGrant userId permission grantedBy duration
          history.now,
      ∀ instant, history.now ≤ instant →
        grant.isValid instant = true →
          Allowed (history.sharer.grantsOf stateId) userId
              .read instant →
            Allowed (history.sharer.grantsOf stateId) userId
              permission instant
| _ => True

theorem honoursGrants_iff_honoured
    {history : SharingHistory} :
    history.HonoursGrants ↔
      ∀ instant, history.now ≤ instant →
        ∀ stateId userId,
          Honoured (history.sharer.grantsOf stateId) userId
            instant := by
  unfold HonoursGrants Honoured
  simp only [checkPermission_eq]

/- One operation keeps grants honoured if it raises none. -/
theorem honoursGrants_step
    (history : SharingHistory)
    (op : SharingOp)
    (hHonours : history.HonoursGrants) :
    (history.step op).HonoursGrants ↔
      history.RaisesNone op := by
  rw [honoursGrants_iff_honoured] at hHonours
  have hLater :
      ∀ instant, (history.step op).now ≤ instant →
        history.now ≤ instant :=
    fun instant hInstant =>
      Int.le_trans (now_le_step history op) hInstant
  rw [honoursGrants_iff_honoured]
  simp only [grantsOf_step]
  cases op with
  | grantAccess target userId permission grantedBy
      duration =>
      unfold SharingOp.grantsAfter RaisesNone
      dsimp only
      rw [now_step]
      dsimp only
      cases hNew :
          newGrant userId permission grantedBy duration
            history.now with
      | none => simpa using hHonours
      | some grant =>
          rcases of_newGrant hNew with ⟨hUser, hLevel⟩
          constructor
          · intro hAfter other hOther instant hInstant
              hValid hRead
            cases hOther
            have hBoth := hAfter instant hInstant target userId
            rw [if_pos rfl, Option.toList_some,
              honoured_append_iff
                (hHonours instant hInstant target userId)]
              at hBoth
            rw [← hLevel]
            exact hBoth hUser hValid hRead
          · intro hRaises instant hInstant stateId other
            have hBefore :=
              hHonours instant hInstant stateId other
            split
            · next hSame =>
                subst hSame
                rw [Option.toList_some,
                  honoured_append_iff hBefore]
                intro hOther hValid hRead
                rw [← hOther, hUser] at hRead ⊢
                rw [hLevel]
                exact
                  hRaises grant rfl instant hInstant hValid
                    hRead
            · exact hBefore
  | revokeAccess target userId =>
      refine iff_of_true ?_ trivial
      intro instant hInstant stateId other
      have hBefore :=
        hHonours instant (hLater instant hInstant) stateId
          other
      unfold SharingOp.grantsAfter
      dsimp only
      split
      · by_cases hSame : other = userId
        · subst hSame
          exact honoured_revoked
        · apply hBefore.filter
          intro grant _ hOther _
          rw [hOther]
          exact decide_eq_true hSame
      · exact hBefore
  | cleanup =>
      refine iff_of_true ?_ trivial
      intro instant hInstant stateId other
      have hNow := hLater instant hInstant
      apply (hHonours instant hNow stateId other).filter
      intro grant _ _ hValid
      exact isValid_of_le hNow hValid
  | _ =>
      refine iff_of_true ?_ trivial
      intro instant hInstant stateId other
      exact
        hHonours instant (hLater instant hInstant) stateId
          other

theorem honoursGrants_new
    (defaultPermission : Permission)
    (now : DateTime) :
    (new defaultPermission now).HonoursGrants := by
  rw [honoursGrants_iff_honoured]
  intro instant _ stateId userId required
  constructor
  · exact allowed_of_checkGrants
  · rintro ⟨grant, hGrant, _⟩
    cases hGrant

/-
  Checks honour every valid grant throughout a run exactly
  if no call raises what a user with a grant is allowed.
-/
theorem honoursGrants_iff
    (defaultPermission : Permission)
    (now : DateTime)
    (ops : List SharingOp) :
    Runs.Throughout step HonoursGrants
        (new defaultPermission now) ops ↔
      Runs.AlongRun step RaisesNone
        (new defaultPermission now) ops :=
  Runs.throughout_iff_alongRun honoursGrants_step ops
    (honoursGrants_new defaultPermission now)

------------------------------------------------------------
-- Sample Runs
------------------------------------------------------------

/- A grant of one level to a reader of a state. -/
def grantOf
    (permission : Permission) : SharingOp :=
  .grantAccess ⟨"state"⟩ "reader" permission "owner" none

/-
  A second grant is not honoured: the check is decided by
  the first one.
-/
theorem honoursGrants_raised :
    (Runs.run step (new .read DateTime.unixEpoch)
          [grantOf .read,
            grantOf .execute]).sharer.checkPermission
        ⟨"state"⟩ "reader" .execute DateTime.unixEpoch =
          false ∧
      ¬ (Runs.run step (new .read DateTime.unixEpoch)
          [grantOf .read,
            grantOf .execute]).HonoursGrants := by
  have hCheck :
      (Runs.run step (new .read DateTime.unixEpoch)
            [grantOf .read,
              grantOf .execute]).sharer.checkPermission
          ⟨"state"⟩ "reader" .execute DateTime.unixEpoch =
        false := by
    decide +kernel
  refine ⟨hCheck, ?_⟩
  intro hHonours
  have hTold :=
    (hHonours DateTime.unixEpoch (by decide +kernel)
        ⟨"state"⟩ "reader" .execute).mpr
      ⟨AccessGrant.new "reader" .execute "owner"
          DateTime.unixEpoch,
        by decide +kernel⟩
  rw [hCheck] at hTold
  cases hTold

end SharingHistory

end IsaWorkspace
