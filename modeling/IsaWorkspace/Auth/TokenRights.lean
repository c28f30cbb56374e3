import IsaWorkspace.Auth.Operations

/-
  The rights of a token and those of its key.

  A token is made of the user and the capabilities of its
  key, and neither changes afterwards.  The restriction of a
  key to one state is not part of a token: both ways of
  verifying agree exactly if the key is not restricted.

  Main declarations:
    * `AuthResult.SameRights`
    * `AuthHistory.Carries`, `AuthHistory.carries_step`
    * `AuthHistory.sameRights_iff`
-/

------------------------------------------------------------
-- The Property
------------------------------------------------------------

namespace IsaWorkspace

/-
  Two results are the same, and so are the answers to what
  may be done and which states may be accessed.
-/
structure AuthResult.SameRights
    (byToken byKey : AuthResult) : Prop where
  same : byToken = byKey
  hasCapability :
    ∀ cap,
      byToken.hasCapability cap = byKey.hasCapability cap
  canAccessState :
    ∀ stateId,
      byToken.canAccessState stateId =
        byKey.canAccessState stateId

theorem AuthResult.sameRights_iff_eq
    {byToken byKey : AuthResult} :
    SameRights byToken byKey ↔ byToken = byKey := by
  constructor
  · exact SameRights.same
  · rintro rfl
    exact ⟨rfl, fun _ => rfl, fun _ => rfl⟩

namespace AuthHistory

------------------------------------------------------------
-- What Every Call Keeps
------------------------------------------------------------

/-
  The token was handed out, nothing else is stored under its
  text, and the key has the rights it had.
-/
structure Carries
    (history : AuthHistory)
    (keyId : String)
    (key : ApiKey)
    (accessToken : AccessToken) : Prop where
  issued : accessToken ∈ history.issued
  stored :
    ∀ found,
      history.manager.tokens.lookup accessToken.token =
          some found →
        found = accessToken
  rights :
    ∃ found,
      history.manager.keys.lookup keyId = some found ∧
        found.userId = key.userId ∧
        found.capabilities = key.capabilities ∧
        found.stateRestriction = key.stateRestriction

section Steps

variable [Sha256]

variable {history : AuthHistory}
variable {keyId : String} {key : ApiKey}
variable {accessToken : AccessToken}

/- A call changes no rights of a key and replaces no token. -/
theorem carries_step
    (history : AuthHistory)
    (op : AuthOp)
    (hCarries : history.Carries keyId key accessToken)
    (hFresh : history.DrawsFresh op) :
    (history.step op).Carries keyId key accessToken := by
  rcases hCarries with
    ⟨hIssued, hStored, found, hFound, hRights⟩
  have hEffect := authEffect history op
  generalize history.step op = next at hEffect ⊢
  cases hEffect with
  | keyStored userId capabilities secretUuid keyUuid now
      userKeys hOp =>
      subst hOp
      have hOther : keyId ≠ "key_" ++ keyUuid := by
        rintro rfl
        rw [hFresh] at hFound
        cases hFound
      refine ⟨hIssued, hStored, found, ?_, hRights⟩
      dsimp only
      rw [HashMap.lookup_insert_eq_ite, if_neg hOther]
      exact hFound
  | keyRevoked revokedId marked hOp hLookup =>
      by_cases hSame : keyId = revokedId
      · subst hSame
        rw [hFound] at hLookup
        cases hLookup
        refine
          ⟨hIssued, hStored, { found with revoked := true },
            ?_, hRights⟩
        exact Finmap.lookup_insert _
      · refine ⟨hIssued, hStored, found, ?_, hRights⟩
        dsimp only
        rw [HashMap.lookup_insert_eq_ite, if_neg hSame]
        exact hFound
  | tokenStored otherId keySecret uuid verifiedAt issuedAt
      other hOp hIssue =>
      subst hOp
      rcases AuthManager.of_issueToken_ok hIssue with
        ⟨result, expiresAt, _, rfl⟩
      refine
        ⟨List.mem_cons_of_mem _ hIssued, ?_, found, hFound,
          hRights⟩
      intro stored hLookup
      dsimp only at hLookup
      rw [HashMap.lookup_insert_eq_ite,
        if_neg (hFresh accessToken hIssued)] at hLookup
      exact hStored stored hLookup
  | tokensDropped tokens hOp hTokens =>
      refine ⟨hIssued, ?_, found, hFound, hRights⟩
      intro stored hLookup
      exact hStored stored (hTokens _ stored hLookup)

/- A token that was just created carries its key's rights. -/
theorem carries_of_createToken
    {keySecret uuid : String}
    {verifiedAt issuedAt : DateTime}
    {manager : AuthManager}
    (hCreate :
      AuthManager.createToken keyId keySecret uuid
          verifiedAt issuedAt history.manager =
        (.ok accessToken, manager)) :
    ∃ key,
      history.manager.keys.lookup keyId = some key ∧
        accessToken.keyId = keyId ∧
        accessToken.userId = key.userId ∧
        accessToken.capabilities = key.capabilities ∧
        (history.step
          (.createToken keyId keySecret uuid verifiedAt
            issuedAt)).Carries keyId key accessToken := by
  rw [step_of_perform (Exec.bind_of_ok hCreate)]
  rcases AuthManager.of_createToken_ok hCreate with
    ⟨hIssue, rfl⟩
  rcases AuthManager.of_issueToken_ok hIssue with
    ⟨result, expiresAt, hVerify, rfl⟩
  rcases AuthManager.verifyApiKey_ok_iff.mp hVerify with
    ⟨key, hKey, _, _, _, rfl⟩
  refine ⟨key, hKey, rfl, rfl, rfl, ?_, ?_, ?_⟩
  · exact List.mem_cons_self
  · intro found hLookup
    have hSelf :=
      hLookup.symm.trans (Finmap.lookup_insert _)
    exact Option.some.inj hSelf
  · exact ⟨key, hKey, rfl, rfl, rfl⟩

------------------------------------------------------------
-- When the Rights Are the Same
------------------------------------------------------------

/-
  Let a token be created from a key, in any state of the
  manager, and let any calls follow.  While both verify, the
  results have the same rights exactly if the key is not
  restricted to a state.
-/
theorem sameRights_iff
    (history : AuthHistory)
    (keyId keySecret uuid : String)
    (verifiedAt issuedAt : DateTime)
    (accessToken : AccessToken)
    (manager : AuthManager)
    (hCreate :
      AuthManager.createToken keyId keySecret uuid
          verifiedAt issuedAt history.manager =
        (.ok accessToken, manager))
    (ops : List AuthOp)
    (hFresh :
      Runs.AlongRun step DrawsFresh
        (history.step
          (.createToken keyId keySecret uuid verifiedAt
            issuedAt))
        ops)
    (final : AuthHistory)
    (hFinal :
      final =
        Runs.run step history
          (.createToken keyId keySecret uuid verifiedAt
            issuedAt :: ops))
    (tokenNow keyNow : DateTime)
    (byToken byKey : AuthResult)
    (hToken :
      (AuthManager.verifyToken accessToken.token tokenNow
          final.manager).1 =
        .ok byToken)
    (hKey :
      final.manager.verifyApiKey keyId keySecret keyNow =
        .ok byKey) :
    AuthResult.SameRights byToken byKey ↔
      (history.manager.keys.lookup keyId).bind
          ApiKey.stateRestriction =
        none := by
  rcases carries_of_createToken hCreate with
    ⟨key, hLookup, hKeyId, hUser, hCapabilities, hFirst⟩
  have hLast : final.Carries keyId key accessToken := by
    rw [hFinal, Runs.run_cons]
    exact
      (Runs.throughout_of_alongRun carries_step hFirst
        hFresh).last
  rcases AuthManager.verifyToken_ok_iff.mp hToken with
    ⟨stored, hStored, _, rfl⟩
  have hSame : stored = accessToken :=
    hLast.stored stored hStored
  subst hSame
  rcases AuthManager.verifyApiKey_ok_iff.mp hKey with
    ⟨found, hFound, _, _, _, rfl⟩
  rcases hLast.rights with
    ⟨other, hOther, hOtherUser, hOtherCapabilities,
      hOtherState⟩
  rw [hFound] at hOther
  cases hOther
  rw [AuthResult.sameRights_iff_eq, hLookup,
    Option.bind_some, ← hOtherState]
  unfold AuthManager.AccessToken.result
  rw [hKeyId, hUser, hCapabilities, hOtherUser,
    hOtherCapabilities, AuthResult.mk.injEq]
  constructor
  · rintro ⟨_, _, _, hNone⟩
    exact hNone.symm
  · intro hNone
    exact ⟨rfl, rfl, rfl, hNone.symm⟩

end Steps

------------------------------------------------------------
-- Sample Keys
------------------------------------------------------------

open AuthSample (secretUuid keyUuid tokenUuid accessToken)
open scoped AuthSample

/- A manager with the sample key. -/
def withKey : AuthHistory :=
  Runs.run step (new AuthConfig.default)
    [AuthSample.createKey]

/- What the sample key is good for. -/
def sampleResult : AuthResult where
  userId := "user-123"
  keyId := "key_" ++ keyUuid
  capabilities := [.snapshot]
  stateRestriction := none

/- A key without a restriction and its token. -/
theorem sameRights_sample :
    AuthResult.SameRights sampleResult sampleResult :=
  (sameRights_iff withKey ("key_" ++ keyUuid)
    ("isa_" ++ secretUuid) tokenUuid DateTime.unixEpoch
    DateTime.unixEpoch accessToken
    (withKey.step AuthSample.createToken).manager
    (Prod.ext (by decide +kernel) rfl) [] trivial
    (withKey.step AuthSample.createToken) rfl
    DateTime.unixEpoch DateTime.unixEpoch sampleResult
    sampleResult (by decide +kernel)
    (by decide +kernel)).mpr
      (by decide +kernel)

/- A manager whose key only works for one state. -/
def withRestrictedKey : AuthManager :=
  let manager := AuthManager.new AuthConfig.default
  let key :=
    manager.freshKey "user-123" [.snapshot] secretUuid
      keyUuid DateTime.unixEpoch
  { manager with
    keys :=
      manager.keys.insert key.keyId
        { key with stateRestriction := some "state-456" } }

/-
  The token of a key that only works for one state passes
  for every state.
-/
theorem sameRights_restricted :
    (AuthManager.createToken ("key_" ++ keyUuid)
          ("isa_" ++ secretUuid) tokenUuid
          DateTime.unixEpoch DateTime.unixEpoch
          withRestrictedKey).1 =
        .ok accessToken ∧
      (AuthManager.verifyToken ("bearer_" ++ tokenUuid)
          DateTime.unixEpoch
          (AuthManager.createToken ("key_" ++ keyUuid)
            ("isa_" ++ secretUuid) tokenUuid
            DateTime.unixEpoch DateTime.unixEpoch
            withRestrictedKey).2).1 =
        .ok sampleResult ∧
      (AuthManager.createToken ("key_" ++ keyUuid)
            ("isa_" ++ secretUuid) tokenUuid
            DateTime.unixEpoch DateTime.unixEpoch
            withRestrictedKey).2.verifyApiKey
          ("key_" ++ keyUuid) ("isa_" ++ secretUuid)
          DateTime.unixEpoch =
        .ok
          { sampleResult with
            stateRestriction := some "state-456" } ∧
      ¬ AuthResult.SameRights sampleResult
        { sampleResult with
          stateRestriction := some "state-456" } := by
  refine
    ⟨by decide +kernel, by decide +kernel,
      by decide +kernel, fun hSame => ?_⟩
  have hElsewhere := hSame.canAccessState "state-789"
  revert hElsewhere
  decide +kernel

end AuthHistory

end IsaWorkspace
