import IsaWorkspace.Auth.TokenCap

/-
  The limit on tokens against the tokens that are in time.

  The limit counts what is stored, and an expired token is
  stored until something removes it.  So a user at the limit
  is refused for tokens that no longer verify, exactly while
  one of them is still there.

  Main declarations:
    * `AuthManager.owned`, `AuthManager.accepted`
    * `AuthManager.userTokenCount_eq_card`
    * `AuthManager.LimitHonest`, `LimitClear`
    * `limitHonest_iff`
-/

------------------------------------------------------------
-- Counting Tokens
------------------------------------------------------------

namespace IsaWorkspace

namespace AuthManager

/- The stored tokens of a user. -/
def owned
    (manager : AuthManager)
    (userId : String) : Finset String :=
  manager.tokens.keys.filter fun token =>
    (manager.tokens.lookup token).any fun accessToken =>
      decide (accessToken.userId = userId)

/- The token verifies, as one of the user. -/
def accepts
    (manager : AuthManager)
    (userId : String)
    (now : DateTime)
    (token : String) : Bool :=
  match (verifyToken token now manager).1 with
  | .ok result => decide (result.userId = userId)
  | _ => false

/- The tokens that verify as ones of a user. -/
def accepted
    (manager : AuthManager)
    (userId : String)
    (now : DateTime) : Finset String :=
  manager.tokens.keys.filter fun token =>
    manager.accepts userId now token = true

theorem userTokenCount_eq_card
    (manager : AuthManager)
    (userId : String) :
    manager.userTokenCount userId =
      (manager.owned userId).card := by
  have hCount :=
    HashMap.weight_eq_card
      (fun accessToken : AccessToken =>
        decide (accessToken.userId = userId))
      manager.tokens
  unfold userTokenCount owned
  rw [← hCount]
  simp only [decide_eq_true_eq]

/- None of the stored tokens of a user has expired. -/
def NoneExpired
    (manager : AuthManager)
    (userId : String)
    (now : DateTime) : Prop :=
  ∀ token accessToken,
    manager.tokens.lookup token = some accessToken →
      accessToken.userId = userId →
        ¬ accessToken.expiresAt < now

theorem mem_owned_iff
    {manager : AuthManager}
    {userId token : String} :
    token ∈ manager.owned userId ↔
      ∃ accessToken,
        manager.tokens.lookup token = some accessToken ∧
          accessToken.userId = userId := by
  unfold owned
  rw [Finset.mem_filter, Finmap.mem_keys,
    ← Finmap.lookup_isSome]
  cases manager.tokens.lookup token with
  | none => simp
  | some accessToken => simp

/- A token of the user verifies if it is in time. -/
theorem mem_accepted_iff
    {manager : AuthManager}
    {userId token : String}
    {now : DateTime} :
    token ∈ manager.accepted userId now ↔
      ∃ accessToken,
        manager.tokens.lookup token = some accessToken ∧
          accessToken.userId = userId ∧
          ¬ accessToken.expiresAt < now := by
  unfold accepted accepts
  rw [Finset.mem_filter, Finmap.mem_keys,
    ← Finmap.lookup_isSome, verifyToken_apply]
  cases manager.tokens.lookup token with
  | none => simp
  | some accessToken =>
      by_cases hExpired : accessToken.expiresAt < now
      · simp [hExpired]
      · simp [hExpired, AccessToken.result]

theorem accepted_subset_owned
    (manager : AuthManager)
    (userId : String)
    (now : DateTime) :
    manager.accepted userId now ⊆ manager.owned userId := by
  intro token hToken
  obtain ⟨accessToken, hLookup, hUser, _⟩ :=
    mem_accepted_iff.mp hToken
  exact mem_owned_iff.mpr ⟨accessToken, hLookup, hUser⟩

/- All stored tokens verify exactly if none has expired. -/
theorem card_owned_le_iff
    {manager : AuthManager}
    {userId : String}
    {now : DateTime} :
    (manager.owned userId).card ≤
        (manager.accepted userId now).card ↔
      manager.NoneExpired userId now := by
  constructor
  · intro hCard token accessToken hLookup hUser
    have hSame :=
      Finset.eq_of_subset_of_card_le
        (manager.accepted_subset_owned userId now) hCard
    have hOwned : token ∈ manager.owned userId :=
      mem_owned_iff.mpr ⟨accessToken, hLookup, hUser⟩
    rw [← hSame] at hOwned
    obtain ⟨other, hOther, _, hInTime⟩ :=
      mem_accepted_iff.mp hOwned
    cases hLookup.symm.trans hOther
    exact hInTime
  · intro hNone
    apply Finset.card_le_card
    intro token hToken
    obtain ⟨accessToken, hLookup, hUser⟩ :=
      mem_owned_iff.mp hToken
    exact
      mem_accepted_iff.mpr
        ⟨accessToken, hLookup, hUser,
          hNone token accessToken hLookup hUser⟩

------------------------------------------------------------
-- Refusals
------------------------------------------------------------

variable [Sha256]

/-
  A key that verifies is refused a token only while its user
  holds as many accepted ones as allowed.
-/
def LimitHonest
    (manager : AuthManager)
    (keyId keySecret uuid : String)
    (verifiedAt issuedAt : DateTime) : Prop :=
  ∀ result,
    manager.verifyApiKey keyId keySecret verifiedAt =
        .ok result →
      (createToken keyId keySecret uuid verifiedAt issuedAt
            manager).1 =
          .err .tokenLimitExceeded →
        manager.config.maxTokensPerUser ≤
          (manager.accepted result.userId issuedAt).card

/-
  The user of a key that verifies is below the limit, or has
  no expired token stored, if the new token can be dated.
-/
def LimitClear
    (manager : AuthManager)
    (keyId keySecret : String)
    (verifiedAt issuedAt : DateTime) : Prop :=
  ∀ result,
    manager.verifyApiKey keyId keySecret verifiedAt =
        .ok result →
      issuedAt.addHours
            manager.config.tokenExpiryHours.toInt64 =
          none ∨
        manager.userTokenCount result.userId <
            manager.config.maxTokensPerUser ∨
          manager.NoneExpired result.userId issuedAt

/- A valid key is refused exactly at the limit. -/
theorem createToken_eq_limit_iff
    {manager : AuthManager}
    {keyId keySecret uuid : String}
    {verifiedAt issuedAt : DateTime}
    {result : AuthResult}
    (hKey :
      manager.verifyApiKey keyId keySecret verifiedAt =
        .ok result) :
    (createToken keyId keySecret uuid verifiedAt issuedAt
            manager).1 =
          .err .tokenLimitExceeded ↔
      issuedAt.addHours
            manager.config.tokenExpiryHours.toInt64 ≠
          none ∧
        manager.config.maxTokensPerUser ≤
          manager.userTokenCount result.userId := by
  rw [createToken_apply]
  unfold issueToken
  rw [hKey]
  dsimp only
  cases issuedAt.addHours
      manager.config.tokenExpiryHours.toInt64 with
  | none => simp
  | some expiresAt =>
      dsimp only
      rw [storeToken_apply]
      split
      · next hFull => simp [hFull]
      · next hBelow => simp [hBelow]

/- In a manager within the cap, the condition is exact. -/
theorem limitHonest_iff_of_tokensWithin
    {manager : AuthManager}
    (hWithin : manager.TokensWithin)
    (keyId keySecret uuid : String)
    (verifiedAt issuedAt : DateTime) :
    manager.LimitHonest keyId keySecret uuid verifiedAt
        issuedAt ↔
      manager.LimitClear keyId keySecret verifiedAt
        issuedAt := by
  unfold LimitHonest LimitClear
  apply forall_congr'
  intro result
  apply imp_congr_right
  intro hKey
  have hCount := hWithin result.userId
  have hAll :=
    @card_owned_le_iff manager result.userId issuedAt
  rw [userTokenCount_eq_card] at hCount
  rw [createToken_eq_limit_iff hKey, userTokenCount_eq_card,
    ← hAll]
  constructor
  · intro hHonest
    by_cases hDated :
        issuedAt.addHours
            manager.config.tokenExpiryHours.toInt64 =
          none
    · exact Or.inl hDated
    · by_cases hFull :
          manager.config.maxTokensPerUser ≤
            (manager.owned result.userId).card
      · have hAccepted := hHonest ⟨hDated, hFull⟩
        exact Or.inr (Or.inr (hCount.trans hAccepted))
      · exact Or.inr (Or.inl (Nat.not_le.mp hFull))
  · rintro hClear ⟨hDated, hFull⟩
    rcases hClear with hUndated | hBelow | hNone
    · exact absurd hUndated hDated
    · exact absurd hFull (Nat.not_le.mpr hBelow)
    · exact hFull.trans hNone

end AuthManager

------------------------------------------------------------
-- Every Reachable Manager
------------------------------------------------------------

section Schedules

variable [Sha256]

/- A manager that calls on a new one lead to. -/
def AuthManager.reached
    (config : AuthConfig)
    (ops : List AuthOp)
    (schedule : List Nat) : AuthManager :=
  (Runs.run (Interleaved.step AuthPhase.step)
    ⟨AuthManager.new config, ops.map AuthPhase.start⟩
    schedule).shared

theorem AuthManager.tokensWithin_reached
    (config : AuthConfig)
    (ops : List AuthOp)
    (schedule : List Nat) :
    (AuthManager.reached config ops schedule).TokensWithin := by
  have hStep :
      ∀ (system : ConcurrentAuth) (position : Nat),
        system.shared.TokensWithin →
          (Interleaved.step AuthPhase.step system
            position).shared.TokensWithin := by
    intro system position hWithin
    rcases Interleaved.step_cases AuthPhase.step system
        position with
      ⟨_, hSame⟩ | ⟨before, phase, after, _, _, hNext⟩
    · rw [hSame]
      exact hWithin
    · rw [hNext]
      have hEffect := phaseEffect phase system.shared
      exact hEffect.tokensWithin hWithin
  exact
    Runs.run_of_invariant hStep schedule
      fun _ => Nat.zero_le _

/-
  In every manager that calls in any schedule lead to, a
  valid key is refused for tokens that verify exactly if its
  user is below the limit or has no expired token stored.
-/
theorem limitHonest_iff
    (config : AuthConfig)
    (ops : List AuthOp)
    (schedule : List Nat)
    (keyId keySecret uuid : String)
    (verifiedAt issuedAt : DateTime) :
    (AuthManager.reached config ops schedule).LimitHonest
        keyId keySecret uuid verifiedAt issuedAt ↔
      (AuthManager.reached config ops schedule).LimitClear
        keyId keySecret verifiedAt issuedAt :=
  AuthManager.limitHonest_iff_of_tokensWithin
    (AuthManager.tokensWithin_reached config ops schedule)
    keyId keySecret uuid verifiedAt issuedAt

end Schedules

------------------------------------------------------------
-- Sample Refusals
------------------------------------------------------------

open AuthSample (keyUuid secretUuid)
open scoped AuthSample

/-
  One token for each user: a day and a nanosecond after the
  first one was made, the user holds none that verifies and
  is refused another one.
-/
theorem not_limitHonest_sample :
    ¬ (AuthManager.reached
        { AuthConfig.default with maxTokensPerUser := 1 }
        [AuthSample.createKey, AuthSample.createToken]
        [0, 0, 1, 1]).LimitHonest
        ("key_" ++ keyUuid) ("isa_" ++ secretUuid)
        "5b0f5a0e-8d3c-4c52-9e2a-6f0d7c9b1a23"
        ⟨86400000000001, by decide⟩
        ⟨86400000000001, by decide⟩ := by
  intro hHonest
  have hHeld :=
    hHonest
      { userId := "user-123"
        keyId := "key_" ++ keyUuid
        capabilities := [.snapshot]
        stateRestriction := none }
      (by decide +kernel) (by decide +kernel)
  revert hHeld
  decide +kernel

end IsaWorkspace
