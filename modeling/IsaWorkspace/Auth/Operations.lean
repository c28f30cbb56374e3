import IsaWorkspace.Auth.Manager
import IsaWorkspace.Foundations.Runs

/-
  Runs of the calls on an authentication manager.

  A history is the manager with what the calls have answered
  so far: the keys whose revocation has returned, and the
  tokens that were handed out.  One lemma says what a call
  can do to it; every invariant is derived from that one.

  Main declarations:
    * `AuthOp`, `AuthResponse`, `AuthOp.perform`
    * `AuthHistory`, `AuthHistory.step`
    * `AuthHistory.DrawsFresh`
    * `AuthEffect`, `authEffect`
    * `AuthSample`
-/

------------------------------------------------------------
-- What Each Call Computes
------------------------------------------------------------

namespace IsaWorkspace

namespace AuthManager

variable [Sha256]

/-
  A key verifies exactly if it is there, not revoked, not
  expired, and the secret has its hash.
-/
theorem verifyApiKey_ok_iff
    {manager : AuthManager}
    {keyId keySecret : String}
    {now : DateTime}
    {result : AuthResult} :
    manager.verifyApiKey keyId keySecret now = .ok result ↔
      ∃ key,
        manager.keys.lookup keyId = some key ∧
          key.revoked = false ∧
          key.expiresAt.any (· < now) = false ∧
          manager.hashKey keySecret = key.keyHash ∧
          result =
            { userId := key.userId
              keyId := keyId
              capabilities := key.capabilities
              stateRestriction := key.stateRestriction } := by
  constructor
  · intro hVerify
    unfold verifyApiKey at hVerify
    split at hVerify
    · cases hVerify
    · next key hLookup =>
        split at hVerify
        · cases hVerify
        · next hRevoked =>
            split at hVerify
            · cases hVerify
            · next hExpired =>
                split at hVerify
                · cases hVerify
                · next hHash =>
                    cases hVerify
                    exact
                      ⟨key, hLookup,
                        Bool.eq_false_iff.mpr hRevoked,
                        Bool.eq_false_iff.mpr hExpired,
                        not_not.mp hHash, rfl⟩
  · rintro
      ⟨key, hLookup, hRevoked, hExpired, hHash, rfl⟩
    unfold verifyApiKey
    rw [hLookup]
    dsimp only
    rw [hRevoked, hExpired, if_neg Bool.false_ne_true,
      if_neg Bool.false_ne_true,
      if_neg (not_not.mpr hHash)]

/- An issued token has the rights the key verified with. -/
theorem of_issueToken_ok
    {manager : AuthManager}
    {keyId keySecret uuid : String}
    {verifiedAt issuedAt : DateTime}
    {accessToken : AccessToken}
    (hIssue :
      manager.issueToken keyId keySecret uuid verifiedAt
          issuedAt =
        .ok accessToken) :
    ∃ result expiresAt,
      manager.verifyApiKey keyId keySecret verifiedAt =
          .ok result ∧
        accessToken =
          { token := "bearer_" ++ uuid
            tokenType := "Bearer"
            expiresAt := expiresAt
            keyId := keyId
            userId := result.userId
            capabilities := result.capabilities } := by
  unfold issueToken at hIssue
  cases hVerify :
      manager.verifyApiKey keyId keySecret verifiedAt with
  | error error =>
      rw [hVerify] at hIssue
      cases hIssue
  | ok result =>
      rw [hVerify] at hIssue
      dsimp only at hIssue
      split at hIssue
      · cases hIssue
      · next expiresAt hExpiry =>
          cases hIssue
          exact ⟨result, expiresAt, rfl, rfl⟩

omit [Sha256] in
theorem storeToken_apply
    (accessToken : AccessToken)
    (manager : AuthManager) :
    storeToken accessToken manager =
      if manager.config.maxTokensPerUser ≤
          manager.userTokenCount accessToken.userId then
        (.err .tokenLimitExceeded, manager)
      else
        (.ok accessToken,
          { manager with
            tokens :=
              manager.tokens.insert accessToken.token
                accessToken }) := by
  unfold storeToken
  rw [Exec.read_bind_apply]
  split
  · rfl
  · rfl

/- A token is created by issuing and then storing it. -/
theorem createToken_apply
    (keyId keySecret uuid : String)
    (verifiedAt issuedAt : DateTime)
    (manager : AuthManager) :
    createToken keyId keySecret uuid verifiedAt issuedAt
        manager =
      match
        manager.issueToken keyId keySecret uuid verifiedAt
          issuedAt with
      | .ok accessToken => storeToken accessToken manager
      | .err error => (.err error, manager)
      | .panicked => (.panicked, manager) := by
  unfold createToken
  rw [Exec.read_bind_apply]
  cases hIssue :
      manager.issueToken keyId keySecret uuid verifiedAt
        issuedAt with
  | ok accessToken => exact Exec.bind_of_ok rfl
  | err error => exact Exec.bind_of_err rfl
  | panicked => exact Exec.bind_of_panicked rfl

/-
  A created token was issued and has been stored; a call
  that creates none leaves the manager alone.
-/
theorem createToken_cases
    (keyId keySecret uuid : String)
    (verifiedAt issuedAt : DateTime)
    (manager : AuthManager) :
    (∃ accessToken,
        manager.issueToken keyId keySecret uuid verifiedAt
              issuedAt =
            .ok accessToken ∧
          createToken keyId keySecret uuid verifiedAt
              issuedAt manager =
            (.ok accessToken,
              { manager with
                tokens :=
                  manager.tokens.insert accessToken.token
                    accessToken })) ∨
      (∃ error,
        createToken keyId keySecret uuid verifiedAt issuedAt
            manager =
          (.err error, manager)) ∨
      createToken keyId keySecret uuid verifiedAt issuedAt
          manager =
        (.panicked, manager) := by
  rw [createToken_apply]
  cases hIssue :
      manager.issueToken keyId keySecret uuid verifiedAt
        issuedAt with
  | ok accessToken =>
      dsimp only
      rw [storeToken_apply]
      split
      · exact Or.inr (Or.inl ⟨_, rfl⟩)
      · exact Or.inl ⟨accessToken, rfl, rfl⟩
  | err error => exact Or.inr (Or.inl ⟨error, rfl⟩)
  | panicked => exact Or.inr (Or.inr rfl)

/- A token that was created had been issued. -/
theorem of_createToken_ok
    {keyId keySecret uuid : String}
    {verifiedAt issuedAt : DateTime}
    {manager manager' : AuthManager}
    {accessToken : AccessToken}
    (hCreate :
      createToken keyId keySecret uuid verifiedAt issuedAt
          manager =
        (.ok accessToken, manager')) :
    manager.issueToken keyId keySecret uuid verifiedAt
          issuedAt =
        .ok accessToken ∧
      manager' =
        { manager with
          tokens :=
            manager.tokens.insert accessToken.token
              accessToken } := by
  rcases createToken_cases keyId keySecret uuid verifiedAt
      issuedAt manager with
    ⟨issued, hIssue, hEq⟩ | ⟨error, hEq⟩ | hEq
  · rw [hEq] at hCreate
    cases hCreate
    exact ⟨hIssue, rfl⟩
  · rw [hEq] at hCreate
    cases hCreate
  · rw [hEq] at hCreate
    cases hCreate

omit [Sha256] in
theorem verifyToken_apply
    (token : String)
    (now : DateTime)
    (manager : AuthManager) :
    verifyToken token now manager =
      match manager.tokens.lookup token with
      | none => (.err .invalidToken, manager)
      | some accessToken =>
          if accessToken.expiresAt < now then
            (.err .tokenExpired,
              { manager with
                tokens := manager.tokens.erase token })
          else
            (.ok (AccessToken.result accessToken),
              manager) := by
  unfold verifyToken
  rw [Exec.read_bind_apply]
  cases manager.tokens.lookup token with
  | none => rfl
  | some accessToken =>
      dsimp only
      split
      · rfl
      · rfl

/- A token verifies exactly if it is stored and in time. -/
omit [Sha256] in
theorem verifyToken_ok_iff
    {token : String}
    {now : DateTime}
    {manager : AuthManager}
    {result : AuthResult} :
    (verifyToken token now manager).1 = .ok result ↔
      ∃ accessToken,
        manager.tokens.lookup token = some accessToken ∧
          ¬ accessToken.expiresAt < now ∧
          result = AccessToken.result accessToken := by
  rw [verifyToken_apply]
  cases manager.tokens.lookup token with
  | none => simp
  | some accessToken =>
      by_cases hExpired : accessToken.expiresAt < now
      · simp [hExpired]
      · simp [hExpired, eq_comm]

/- No key is listed with its secret. -/
omit [Sha256] in
theorem listKeys_keySecret
    {manager : AuthManager}
    {userId : String}
    {key : ApiKey}
    (hKey : key ∈ manager.listKeys userId) :
    key.keySecret = none := by
  unfold listKeys at hKey
  cases hIds : manager.userKeys.lookup userId with
  | none =>
      rw [hIds] at hKey
      cases hKey
  | some keyIds =>
      rw [hIds] at hKey
      rcases List.mem_map.mp hKey with ⟨stored, _, rfl⟩
      rfl

end AuthManager

------------------------------------------------------------
-- Histories
------------------------------------------------------------

/- The calls, with what they are given and what they draw. -/
inductive AuthOp where
  | createKey
      (userId : String)
      (capabilities : List Capability)
      (secretUuid keyUuid : String)
      (now : DateTime)
  | revokeKey (keyId : String)
  | verifyApiKey (keyId keySecret : String) (now : DateTime)
  | createToken
      (keyId keySecret uuid : String)
      (verifiedAt issuedAt : DateTime)
  | verifyToken (token : String) (now : DateTime)
  | revokeToken (token : String)
  | cleanupExpiredTokens (now : DateTime)

/- What the calls return. -/
inductive AuthResponse where
  | created (apiKey : ApiKey)
  | revoked
  | verified (result : AuthResult)
  | issued (accessToken : AccessToken)
  | cleaned (removed : Nat)

section Performing

variable [Sha256]

/- Make the call. -/
def AuthOp.perform :
    AuthOp → Exec AuthManager AuthError AuthResponse
| createKey userId capabilities secretUuid keyUuid now =>
    return .created
      (← AuthManager.createKey userId capabilities
        secretUuid keyUuid now)
| revokeKey keyId => do
    AuthManager.revokeKey keyId
    return .revoked
| verifyApiKey keyId keySecret now => fun manager =>
    match manager.verifyApiKey keyId keySecret now with
    | .ok result => (.ok (.verified result), manager)
    | .error error => (.err error, manager)
| createToken keyId keySecret uuid verifiedAt issuedAt =>
    return .issued
      (← AuthManager.createToken keyId keySecret uuid
        verifiedAt issuedAt)
| verifyToken token now =>
    return .verified (← AuthManager.verifyToken token now)
| revokeToken token => do
    AuthManager.revokeToken token
    return .revoked
| cleanupExpiredTokens now =>
    return .cleaned
      (← AuthManager.cleanupExpiredTokens now)

end Performing

/-
  A manager, the keys whose revocation has returned, and the
  tokens that were handed out.
-/
structure AuthHistory where
  manager : AuthManager
  revoked : List String
  issued : List AccessToken

namespace AuthHistory

/- A manager nothing has been asked of yet. -/
def new
    (config : AuthConfig) : AuthHistory where
  manager := AuthManager.new config
  revoked := []
  issued := []

/- Take note of how a call has ended. -/
def note
    (history : AuthHistory)
    (op : AuthOp)
    (outcome : Outcome AuthError AuthResponse)
    (manager : AuthManager) : AuthHistory where
  manager := manager
  revoked :=
    match op, outcome with
    | .revokeKey keyId, .ok _ => keyId :: history.revoked
    | _, _ => history.revoked
  issued :=
    match outcome with
    | .ok (.issued accessToken) =>
        accessToken :: history.issued
    | _ => history.issued

/- Make a call and take note of how it has ended. -/
def step
    [Sha256]
    (history : AuthHistory)
    (op : AuthOp) : AuthHistory :=
  history.note op (op.perform history.manager).1
    (op.perform history.manager).2

/-
  A drawn key id is not in use, and a drawn token was not
  handed out before.
-/
def DrawsFresh
    (history : AuthHistory) : AuthOp → Prop
| .createKey _ _ _ keyUuid _ =>
    history.manager.keys.lookup ("key_" ++ keyUuid) = none
| .createToken _ _ uuid _ _ =>
    ∀ accessToken ∈ history.issued,
      accessToken.token ≠ "bearer_" ++ uuid
| _ => True

instance
    (history : AuthHistory)
    (op : AuthOp) :
    Decidable (history.DrawsFresh op) := by
  unfold DrawsFresh
  split <;> infer_instance

end AuthHistory

------------------------------------------------------------
-- What a Call Can Do
------------------------------------------------------------

section Effects

variable [Sha256]

/-
  A call stores a new key, or marks a key as revoked, or
  stores a token of a key that verifies, or at most drops
  tokens; and it is noted as such.
-/
inductive AuthEffect
    (history : AuthHistory)
    (op : AuthOp) : AuthHistory → Prop where
  | keyStored
      (userId : String)
      (capabilities : List Capability)
      (secretUuid keyUuid : String)
      (now : DateTime)
      (userKeys : HashMap String (List String))
      (hOp :
        op =
          .createKey userId capabilities secretUuid keyUuid
            now) :
      AuthEffect history op
        { history with
          manager :=
            { history.manager with
              keys :=
                history.manager.keys.insert
                  ("key_" ++ keyUuid)
                  (history.manager.freshKey userId
                    capabilities secretUuid keyUuid now)
              userKeys := userKeys } }
  | keyRevoked
      (keyId : String)
      (key : ApiKey)
      (hOp : op = .revokeKey keyId)
      (hLookup :
        history.manager.keys.lookup keyId = some key) :
      AuthEffect history op
        { manager :=
            { history.manager with
              keys :=
                history.manager.keys.insert keyId
                  { key with revoked := true } }
          revoked := keyId :: history.revoked
          issued := history.issued }
  | tokenStored
      (keyId keySecret uuid : String)
      (verifiedAt issuedAt : DateTime)
      (accessToken : AccessToken)
      (hOp :
        op =
          .createToken keyId keySecret uuid verifiedAt
            issuedAt)
      (hIssue :
        history.manager.issueToken keyId keySecret uuid
            verifiedAt issuedAt =
          .ok accessToken) :
      AuthEffect history op
        { manager :=
            { history.manager with
              tokens :=
                history.manager.tokens.insert
                  accessToken.token accessToken }
          revoked := history.revoked
          issued := accessToken :: history.issued }
  | tokensDropped
      (tokens : HashMap String AccessToken)
      (hOp :
        ∀ keyId, op = .revokeKey keyId →
          history.manager.keys.lookup keyId = none)
      (hTokens :
        HashMap.SubMap tokens history.manager.tokens) :
      AuthEffect history op
        { history with
          manager :=
            { history.manager with tokens := tokens } }

/- A call that changes nothing at most drops tokens. -/
theorem AuthEffect.unchanged
    {history : AuthHistory}
    {op : AuthOp}
    (hOp :
      ∀ keyId, op = .revokeKey keyId →
        history.manager.keys.lookup keyId = none) :
    AuthEffect history op history :=
  .tokensDropped history.manager.tokens hOp
    (HashMap.SubMap.refl _)

omit [Sha256] in
theorem AuthManager.revokeKey_apply
    (keyId : String)
    (manager : AuthManager) :
    revokeKey keyId manager =
      match manager.keys.lookup keyId with
      | some key =>
          (.ok (),
            { manager with
              keys :=
                manager.keys.insert keyId
                  { key with revoked := true } })
      | none => (.err (.keyNotFound keyId), manager) := by
  unfold revokeKey
  rw [Exec.read_bind_apply]
  cases manager.keys.lookup keyId with
  | some key => rfl
  | none => rfl

/- A step takes note of what performing the call gives. -/
theorem AuthHistory.step_of_perform
    {history : AuthHistory}
    {op : AuthOp}
    {outcome : Outcome AuthError AuthResponse}
    {manager : AuthManager}
    (hPerform :
      op.perform history.manager = (outcome, manager)) :
    history.step op = history.note op outcome manager := by
  unfold AuthHistory.step
  rw [hPerform]

/- Revoking marks a key that is there. -/
theorem authEffect_revokeKey
    (history : AuthHistory)
    (keyId : String) :
    AuthEffect history (.revokeKey keyId)
      (history.step (.revokeKey keyId)) := by
  have hRevoke :=
    AuthManager.revokeKey_apply keyId history.manager
  cases hLookup : history.manager.keys.lookup keyId with
  | some key =>
      rw [hLookup] at hRevoke
      rw [AuthHistory.step_of_perform
        (Exec.bind_of_ok hRevoke)]
      exact .keyRevoked keyId key rfl hLookup
  | none =>
      rw [hLookup] at hRevoke
      rw [AuthHistory.step_of_perform
        (Exec.bind_of_err hRevoke)]
      apply AuthEffect.unchanged
      intro other hOp
      cases hOp
      exact hLookup

/- A created token is stored and noted. -/
theorem authEffect_createToken
    (history : AuthHistory)
    (keyId keySecret uuid : String)
    (verifiedAt issuedAt : DateTime) :
    AuthEffect history
      (.createToken keyId keySecret uuid verifiedAt issuedAt)
      (history.step
        (.createToken keyId keySecret uuid verifiedAt
          issuedAt)) := by
  rcases AuthManager.createToken_cases keyId keySecret uuid
      verifiedAt issuedAt history.manager with
    ⟨accessToken, hIssue, hCreate⟩ | ⟨error, hCreate⟩ |
      hCreate
  · rw [AuthHistory.step_of_perform
      (Exec.bind_of_ok hCreate)]
    exact
      .tokenStored keyId keySecret uuid verifiedAt issuedAt
        accessToken rfl hIssue
  · rw [AuthHistory.step_of_perform
      (Exec.bind_of_err hCreate)]
    exact .unchanged fun _ hOp => nomatch hOp
  · rw [AuthHistory.step_of_perform
      (Exec.bind_of_panicked hCreate)]
    exact .unchanged fun _ hOp => nomatch hOp

/- Verifying a token drops at most that token. -/
theorem authEffect_verifyToken
    (history : AuthHistory)
    (token : String)
    (now : DateTime) :
    AuthEffect history (.verifyToken token now)
      (history.step (.verifyToken token now)) := by
  have hVerify :=
    AuthManager.verifyToken_apply token now history.manager
  cases hLookup : history.manager.tokens.lookup token with
  | none =>
      rw [hLookup] at hVerify
      rw [AuthHistory.step_of_perform
        (Exec.bind_of_err hVerify)]
      exact .unchanged fun _ hOp => nomatch hOp
  | some accessToken =>
      rw [hLookup] at hVerify
      dsimp only at hVerify
      split at hVerify
      · rw [AuthHistory.step_of_perform
          (Exec.bind_of_err hVerify)]
        exact
          .tokensDropped _ (fun _ hOp => nomatch hOp)
            (HashMap.subMap_erase _ token)
      · rw [AuthHistory.step_of_perform
          (Exec.bind_of_ok hVerify)]
        exact .unchanged fun _ hOp => nomatch hOp

/- Verifying a key changes nothing. -/
theorem authEffect_verifyApiKey
    (history : AuthHistory)
    (keyId keySecret : String)
    (now : DateTime) :
    AuthEffect history (.verifyApiKey keyId keySecret now)
      (history.step
        (.verifyApiKey keyId keySecret now)) := by
  have hSame :
      history.step (.verifyApiKey keyId keySecret now) =
        history := by
    unfold AuthHistory.step AuthOp.perform
    dsimp only
    cases
        history.manager.verifyApiKey keyId keySecret
          now with
    | ok result => rfl
    | error error => rfl
  rw [hSame]
  exact .unchanged fun _ hOp => nomatch hOp

/- A step has one of the effects a call can have. -/
theorem authEffect
    (history : AuthHistory)
    (op : AuthOp) :
    AuthEffect history op (history.step op) := by
  cases op with
  | createKey userId capabilities secretUuid keyUuid now =>
      exact
        .keyStored userId capabilities secretUuid keyUuid
          now _ rfl
  | revokeKey keyId => exact authEffect_revokeKey history keyId
  | verifyApiKey keyId keySecret now =>
      exact
        authEffect_verifyApiKey history keyId keySecret now
  | createToken keyId keySecret uuid verifiedAt issuedAt =>
      exact
        authEffect_createToken history keyId keySecret uuid
          verifiedAt issuedAt
  | verifyToken token now =>
      exact authEffect_verifyToken history token now
  | revokeToken token =>
      exact
        .tokensDropped _ (fun _ hOp => nomatch hOp)
          (HashMap.subMap_erase _ token)
  | cleanupExpiredTokens now =>
      exact
        .tokensDropped _ (fun _ hOp => nomatch hOp)
          (HashMap.subMap_retain _ _)

end Effects

end IsaWorkspace

------------------------------------------------------------
-- Sample Calls
------------------------------------------------------------

namespace IsaWorkspace

/- A user's key, and a token made from it. -/
namespace AuthSample

def secretUuid : String :=
  "67e55044-10b1-426f-9247-bb680e5fe0c8"

def keyUuid : String :=
  "a1a2a3a4b1b2c1c2d1d2d3d4d5d6d7d8"

def tokenUuid : String :=
  "f9168c5e-ceb2-4faa-b6bf-329bf39fa1e4"

scoped instance : Sha256 where
  digest data :=
    digestOf <|
      if data =
          asBytes AuthConfig.default.secretKey ++
            asBytes ("isa_" ++ secretUuid) then
        0x8e9be6c9175b59e9f09014ec9b0418b2f333287af31dccae6e042d017dd9ea16
      else
        0xe3b0c44298fc1c149afbf4c8996fb92427ae41e4649b934ca495991b7852b855

def createKey : AuthOp :=
  .createKey "user-123" [.snapshot] secretUuid keyUuid
    DateTime.unixEpoch

def createToken : AuthOp :=
  .createToken ("key_" ++ keyUuid) ("isa_" ++ secretUuid)
    tokenUuid DateTime.unixEpoch DateTime.unixEpoch

/- The token, which lasts for a day. -/
def accessToken : AccessToken where
  token := "bearer_" ++ tokenUuid
  tokenType := "Bearer"
  expiresAt := ⟨86400000000000, by decide⟩
  keyId := "key_" ++ keyUuid
  userId := "user-123"
  capabilities := [.snapshot]

def revokeKey : AuthOp :=
  .revokeKey ("key_" ++ keyUuid)

def revokeToken : AuthOp :=
  .revokeToken ("bearer_" ++ tokenUuid)

end AuthSample

end IsaWorkspace
