import IsaWorkspace.Auth.Operations

/-
  Revoked keys and the tokens made from them.

  A revoked key never verifies again.  A token is verified
  without its key: the tokens of a revoked key are refused
  exactly if every key is revoked while no token of it is
  stored.

  Main declarations:
    * `AuthManager.NoTokenOf`
    * `AuthHistory.RevocationEffective`
    * `AuthHistory.RevokesUnused`
    * `AuthHistory.Coherent`, `AuthHistory.coherent_step`
    * `AuthHistory.revocationEffective_iff`
-/

------------------------------------------------------------
-- The Property
------------------------------------------------------------

namespace IsaWorkspace

/- No stored token was made from the key. -/
def AuthManager.NoTokenOf
    (manager : AuthManager)
    (keyId : String) : Prop :=
  ∀ token accessToken,
    manager.tokens.lookup token = some accessToken →
      accessToken.keyId ≠ keyId

instance
    (manager : AuthManager)
    (keyId : String) :
    Decidable (manager.NoTokenOf keyId) :=
  decidable_of_iff
    (∀ token ∈ manager.tokens.keys,
      ∀ accessToken ∈ manager.tokens.lookup token,
        accessToken.keyId ≠ keyId)
    ⟨fun hNone token accessToken hLookup =>
      hNone token
        (Finmap.mem_keys.mpr
          (Finmap.mem_of_lookup_eq_some hLookup))
        accessToken hLookup,
      fun hNone token _ accessToken hLookup =>
        hNone token accessToken hLookup⟩

namespace AuthHistory

section Property

variable [Sha256]

/-
  Whatever the secret and the clock say, neither the key nor
  a token made from it verifies.
-/
def Refuses
    (history : AuthHistory)
    (keyId : String) : Prop :=
  (∀ keySecret now result,
      history.manager.verifyApiKey keyId keySecret now ≠
        .ok result) ∧
    ∀ accessToken ∈ history.issued,
      accessToken.keyId = keyId →
        ∀ now result,
          (AuthManager.verifyToken accessToken.token now
              history.manager).1 ≠
            .ok result

/- A key is refused once its revocation has returned. -/
def RevocationEffective
    (history : AuthHistory) : Prop :=
  ∀ keyId ∈ history.revoked, history.Refuses keyId

end Property

/- A key is revoked while no token of it is stored. -/
def RevokesUnused
    (history : AuthHistory) : AuthOp → Prop
| .revokeKey keyId => history.manager.NoTokenOf keyId
| _ => True

instance
    (history : AuthHistory)
    (op : AuthOp) :
    Decidable (history.RevokesUnused op) := by
  unfold RevokesUnused
  split <;> infer_instance

------------------------------------------------------------
-- What Every Run Keeps
------------------------------------------------------------

/-
  A stored token was handed out under its text, and made
  from a key that is there; no two tokens were handed out
  under one text; a revoked key is marked.
-/
structure Coherent
    (history : AuthHistory) : Prop where
  stored :
    ∀ token accessToken,
      history.manager.tokens.lookup token =
          some accessToken →
        accessToken ∈ history.issued ∧
          accessToken.token = token
  keyed :
    ∀ token accessToken,
      history.manager.tokens.lookup token =
          some accessToken →
        ∃ key,
          history.manager.keys.lookup accessToken.keyId =
            some key
  distinct :
    ∀ first ∈ history.issued, ∀ second ∈ history.issued,
      first.token = second.token → first = second
  marked :
    ∀ keyId ∈ history.revoked,
      ∃ key,
        history.manager.keys.lookup keyId = some key ∧
          key.revoked = true

/- A new manager has nothing that could disagree. -/
theorem coherent_new
    (config : AuthConfig) :
    Coherent (new config) where
  stored := by
    intro token accessToken hLookup
    cases hLookup
  keyed := by
    intro token accessToken hLookup
    cases hLookup
  distinct := by
    intro first hFirst
    cases hFirst
  marked := by
    intro keyId hKey
    cases hKey

section Steps

variable {history : AuthHistory}

/- Storing a new key moves no other key. -/
theorem Coherent.keyStored
    (hCoherent : Coherent history)
    {keyId : String}
    (apiKey : ApiKey)
    (userKeys : HashMap String (List String))
    (hFresh : history.manager.keys.lookup keyId = none) :
    Coherent
      { history with
        manager :=
          { history.manager with
            keys :=
              history.manager.keys.insert keyId apiKey
            userKeys := userKeys } } where
  stored := hCoherent.stored
  keyed := by
    intro token accessToken hLookup
    rcases hCoherent.keyed token accessToken hLookup with
      ⟨key, hKey⟩
    have hOther : accessToken.keyId ≠ keyId := by
      intro hSame
      rw [hSame, hFresh] at hKey
      cases hKey
    refine ⟨key, ?_⟩
    rw [HashMap.lookup_insert_eq_ite, if_neg hOther]
    exact hKey
  distinct := hCoherent.distinct
  marked := by
    intro other hRevoked
    rcases hCoherent.marked other hRevoked with
      ⟨key, hKey, hMark⟩
    have hOther : other ≠ keyId := by
      intro hSame
      rw [hSame, hFresh] at hKey
      cases hKey
    refine ⟨key, ?_, hMark⟩
    rw [HashMap.lookup_insert_eq_ite, if_neg hOther]
    exact hKey

/- Marking a key keeps all marks. -/
theorem Coherent.keyRevoked
    (hCoherent : Coherent history)
    (keyId : String)
    (key : ApiKey) :
    Coherent
      { manager :=
          { history.manager with
            keys :=
              history.manager.keys.insert keyId
                { key with revoked := true } }
        revoked := keyId :: history.revoked
        issued := history.issued } where
  stored := hCoherent.stored
  keyed := by
    intro token accessToken hLookup
    rcases hCoherent.keyed token accessToken hLookup with
      ⟨found, hFound⟩
    by_cases hSame : accessToken.keyId = keyId
    · refine ⟨{ key with revoked := true }, ?_⟩
      rw [HashMap.lookup_insert_eq_ite, if_pos hSame]
    · refine ⟨found, ?_⟩
      rw [HashMap.lookup_insert_eq_ite, if_neg hSame]
      exact hFound
  distinct := hCoherent.distinct
  marked := by
    intro other hRevoked
    by_cases hSame : other = keyId
    · refine ⟨{ key with revoked := true }, ?_, rfl⟩
      rw [HashMap.lookup_insert_eq_ite, if_pos hSame]
    · rcases List.mem_cons.mp hRevoked with hNew | hOld
      · exact absurd hNew hSame
      · rcases hCoherent.marked other hOld with
          ⟨found, hFound, hMark⟩
        refine ⟨found, ?_, hMark⟩
        rw [HashMap.lookup_insert_eq_ite, if_neg hSame]
        exact hFound

/- Storing a new token of a key that is there. -/
theorem Coherent.tokenStored
    (hCoherent : Coherent history)
    {accessToken : AccessToken}
    {key : ApiKey}
    (hKey :
      history.manager.keys.lookup accessToken.keyId =
        some key)
    (hFresh :
      ∀ earlier ∈ history.issued,
        earlier.token ≠ accessToken.token) :
    Coherent
      { manager :=
          { history.manager with
            tokens :=
              history.manager.tokens.insert
                accessToken.token accessToken }
        revoked := history.revoked
        issued := accessToken :: history.issued } where
  stored := by
    intro token found hLookup
    rw [HashMap.lookup_insert_eq_ite] at hLookup
    split at hLookup
    · next hSame =>
        cases hLookup
        exact ⟨List.mem_cons_self, hSame.symm⟩
    · rcases hCoherent.stored token found hLookup with
        ⟨hIssued, hText⟩
      exact ⟨List.mem_cons_of_mem _ hIssued, hText⟩
  keyed := by
    intro token found hLookup
    rw [HashMap.lookup_insert_eq_ite] at hLookup
    split at hLookup
    · cases hLookup
      exact ⟨key, hKey⟩
    · exact hCoherent.keyed token found hLookup
  distinct := by
    intro first hFirst second hSecond hText
    rcases List.mem_cons.mp hFirst with rfl | hFirstOld
    · rcases List.mem_cons.mp hSecond with rfl | hSecondOld
      · rfl
      · exact absurd hText.symm (hFresh second hSecondOld)
    · rcases List.mem_cons.mp hSecond with rfl | hSecondOld
      · exact absurd hText (hFresh first hFirstOld)
      · exact
          hCoherent.distinct first hFirstOld second
            hSecondOld hText
  marked := hCoherent.marked

/- Dropping tokens leaves fewer to speak of. -/
theorem Coherent.tokensDropped
    (hCoherent : Coherent history)
    {tokens : HashMap String AccessToken}
    (hTokens :
      HashMap.SubMap tokens history.manager.tokens) :
    Coherent
      { history with
        manager :=
          { history.manager with tokens := tokens } } where
  stored := by
    intro token accessToken hLookup
    exact
      hCoherent.stored token accessToken
        (hTokens token accessToken hLookup)
  keyed := by
    intro token accessToken hLookup
    exact
      hCoherent.keyed token accessToken
        (hTokens token accessToken hLookup)
  distinct := hCoherent.distinct
  marked := hCoherent.marked

variable [Sha256]

/- Every call that draws fresh texts keeps it all. -/
theorem coherent_step
    (history : AuthHistory)
    (op : AuthOp)
    (hCoherent : Coherent history)
    (hFresh : history.DrawsFresh op) :
    Coherent (history.step op) := by
  have hEffect := authEffect history op
  generalize history.step op = next at hEffect ⊢
  cases hEffect with
  | keyStored userId capabilities secretUuid keyUuid now
      userKeys hOp =>
      subst hOp
      exact hCoherent.keyStored _ userKeys hFresh
  | keyRevoked keyId key hOp hLookup =>
      exact hCoherent.keyRevoked keyId key
  | tokenStored keyId keySecret uuid verifiedAt issuedAt
      accessToken hOp hIssue =>
      subst hOp
      rcases AuthManager.of_issueToken_ok hIssue with
        ⟨result, expiresAt, hVerify, rfl⟩
      rcases AuthManager.verifyApiKey_ok_iff.mp hVerify with
        ⟨key, hKey, _⟩
      exact hCoherent.tokenStored hKey hFresh
  | tokensDropped tokens hOp hTokens =>
      exact hCoherent.tokensDropped hTokens

------------------------------------------------------------
-- When Revocation Is Effective
------------------------------------------------------------

/-
  A token that is stored verifies at the instant of its
  expiry, so it is refused only if it is not stored.
-/
theorem Coherent.refuses_iff
    (hCoherent : Coherent history)
    {keyId : String}
    (hRevoked : keyId ∈ history.revoked) :
    history.Refuses keyId ↔
      history.manager.NoTokenOf keyId := by
  constructor
  · rintro ⟨_, hTokens⟩ token accessToken hLookup hKey
    rcases hCoherent.stored token accessToken hLookup with
      ⟨hIssued, rfl⟩
    have hInTime :
        ¬ accessToken.expiresAt < accessToken.expiresAt :=
      Int.lt_irrefl _
    exact
      hTokens accessToken hIssued hKey accessToken.expiresAt
        (AuthManager.AccessToken.result accessToken)
        (AuthManager.verifyToken_ok_iff.mpr
          ⟨accessToken, hLookup, hInTime, rfl⟩)
  · intro hNone
    constructor
    · intro keySecret now result hVerify
      rcases AuthManager.verifyApiKey_ok_iff.mp hVerify with
        ⟨key, hKey, hNotRevoked, _⟩
      rcases hCoherent.marked keyId hRevoked with
        ⟨found, hFound, hMark⟩
      rw [hKey] at hFound
      cases hFound
      rw [hMark] at hNotRevoked
      cases hNotRevoked
    · intro accessToken hIssued hKey now result hVerify
      rcases AuthManager.verifyToken_ok_iff.mp hVerify with
        ⟨found, hLookup, _⟩
      rcases hCoherent.stored _ found hLookup with
        ⟨hFoundIssued, hText⟩
      have hSame : found = accessToken :=
        hCoherent.distinct found hFoundIssued accessToken
          hIssued hText
      exact hNone _ found hLookup (hSame ▸ hKey)

/- No token of a revoked key is stored. -/
def NoRevokedToken
    (history : AuthHistory) : Prop :=
  ∀ keyId ∈ history.revoked,
    history.manager.NoTokenOf keyId

theorem Coherent.revocationEffective_iff_noRevokedToken
    (hCoherent : Coherent history) :
    history.RevocationEffective ↔
      history.NoRevokedToken := by
  constructor
  · intro hEffective keyId hRevoked
    exact
      (hCoherent.refuses_iff hRevoked).mp
        (hEffective keyId hRevoked)
  · intro hNone keyId hRevoked
    exact
      (hCoherent.refuses_iff hRevoked).mpr
        (hNone keyId hRevoked)

/-
  A key that verifies has not been revoked, so a new token
  is none of a revoked key.  Only a revocation itself can
  leave tokens of a revoked key stored.
-/
theorem Coherent.noRevokedToken_step_iff
    (hCoherent : Coherent history)
    (hNone : history.NoRevokedToken)
    (op : AuthOp) :
    (history.step op).NoRevokedToken ↔
      history.RevokesUnused op := by
  have hEffect := authEffect history op
  generalize history.step op = next at hEffect ⊢
  cases hEffect with
  | keyStored userId capabilities secretUuid keyUuid now
      userKeys hOp =>
      subst hOp
      exact iff_of_true hNone trivial
  | keyRevoked keyId key hOp hLookup =>
      subst hOp
      constructor
      · intro hNext
        exact hNext keyId List.mem_cons_self
      · intro hUnused other hRevoked
        rcases List.mem_cons.mp hRevoked with rfl | hOld
        · exact hUnused
        · exact hNone other hOld
  | tokenStored keyId keySecret uuid verifiedAt issuedAt
      accessToken hOp hIssue =>
      subst hOp
      refine iff_of_true ?_ trivial
      rcases AuthManager.of_issueToken_ok hIssue with
        ⟨result, expiresAt, hVerify, rfl⟩
      rcases AuthManager.verifyApiKey_ok_iff.mp hVerify with
        ⟨key, hKey, hNotRevoked, _⟩
      intro other hRevoked token found hLookup
      dsimp only at hLookup
      rw [HashMap.lookup_insert_eq_ite] at hLookup
      split at hLookup
      · cases hLookup
        rintro rfl
        rcases hCoherent.marked keyId hRevoked with
          ⟨marked, hFound, hMark⟩
        rw [hKey] at hFound
        cases hFound
        rw [hMark] at hNotRevoked
        cases hNotRevoked
      · exact hNone other hRevoked token found hLookup
  | tokensDropped tokens hOp hTokens =>
      refine iff_of_true ?_ ?_
      · intro keyId hRevoked token accessToken hLookup
        exact
          hNone keyId hRevoked token accessToken
            (hTokens token accessToken hLookup)
      · cases op with
        | revokeKey keyId =>
            intro token accessToken hLookup hSame
            rcases hCoherent.keyed token accessToken
                hLookup with
              ⟨key, hKey⟩
            rw [hSame, hOp keyId rfl] at hKey
            cases hKey
        | _ => trivial

/-
  In every run of a new manager a revoked key and its tokens
  are refused in every state reached exactly if every key is
  revoked while no token of it is stored.
-/
theorem revocationEffective_iff
    (config : AuthConfig)
    (ops : List AuthOp)
    (hFresh :
      Runs.AlongRun step DrawsFresh (new config) ops) :
    Runs.Throughout step RevocationEffective (new config)
        ops ↔
      Runs.AlongRun step RevokesUnused (new config) ops := by
  have hStart : RevocationEffective (new config) := by
    intro keyId hRevoked
    cases hRevoked
  have hDecides :
      ∀ (history : AuthHistory) op, history.Coherent →
        history.DrawsFresh op →
          history.RevocationEffective →
            ((history.step op).RevocationEffective ↔
              history.RevokesUnused op) := by
    intro history op hCoherent hDraws hEffective
    have hNext := coherent_step history op hCoherent hDraws
    rw [hNext.revocationEffective_iff_noRevokedToken]
    exact
      hCoherent.noRevokedToken_step_iff
        (hCoherent.revocationEffective_iff_noRevokedToken.mp
          hEffective)
        op
  exact
    Runs.throughout_iff_alongRun_of_given coherent_step
      hDecides (coherent_new config) hStart hFresh

end Steps

------------------------------------------------------------
-- Sample Runs
------------------------------------------------------------

open AuthSample (keyUuid accessToken)
open AuthSample (createKey createToken revokeToken revokeKey)
open scoped AuthSample

/- A key whose one token is revoked before the key is. -/
theorem revocationEffective_sample :
    Runs.Throughout step RevocationEffective
      (new AuthConfig.default)
      [createKey, createToken, revokeToken, revokeKey] :=
  (revocationEffective_iff AuthConfig.default
    [createKey, createToken, revokeToken, revokeKey]
    (by decide +kernel)).mpr
      (by decide +kernel)

/-
  A token outlives its key: the key is revoked after the
  token was made, and the token still verifies.
-/
theorem revocationEffective_outlived :
    Runs.AlongRun step DrawsFresh (new AuthConfig.default)
        [createKey, createToken, revokeKey] ∧
      ¬ Runs.Throughout step RevocationEffective
        (new AuthConfig.default)
        [createKey, createToken, revokeKey] := by
  refine ⟨by decide +kernel, fun hEffective => ?_⟩
  rcases hEffective.last ("key_" ++ keyUuid)
      (by decide +kernel) with
    ⟨_, hTokens⟩
  exact
    hTokens accessToken (by decide +kernel) rfl
      DateTime.unixEpoch
      (AuthManager.AccessToken.result accessToken)
      (by decide +kernel)

end AuthHistory

end IsaWorkspace
