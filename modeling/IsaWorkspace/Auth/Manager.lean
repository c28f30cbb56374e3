import IsaWorkspace.Externals
import IsaWorkspace.Foundations.Exec
import IsaWorkspace.Foundations.HashMap

/-
  API keys and the bearer tokens made from them.

  A key and its secret are looked up among the keys; a
  bearer token is looked up among the tokens alone.  The
  manager draws random identifiers and reads the clock: each
  call takes the identifiers and the instants as arguments.

  Main declarations:
    * `AuthConfig`, `Capability`, `ApiKey`, `AccessToken`
    * `AuthResult`, `AuthError`
    * `AuthManager`
    * `AuthManager.createKey`, `revokeKey`, `verifyApiKey`
    * `AuthManager.createToken`, `verifyToken`
    * `AuthManager.revokeToken`, `cleanupExpiredTokens`
-/

------------------------------------------------------------
-- Records
------------------------------------------------------------

namespace IsaWorkspace

/- Authentication configuration. -/
structure AuthConfig where
  enabled : Bool
  tokenExpiryHours : UInt64
  maxTokensPerUser : Nat
  secretKey : String
deriving DecidableEq

def AuthConfig.default : AuthConfig where
  enabled := true
  tokenExpiryHours := 24
  maxTokensPerUser := 10
  secretKey := "CHANGE_ME_IN_PRODUCTION"

/- Capabilities for authorization. -/
inductive Capability where
  | snapshot
  | resume
  | fork
  | delete
  | share
  | list
  | read
  | admin
deriving DecidableEq

/- API key information. -/
structure ApiKey where
  keyId : String
  keySecret : Option String
  keyHash : String
  userId : String
  capabilities : List Capability
  createdAt : DateTime
  expiresAt : Option DateTime
  revoked : Bool
  stateRestriction : Option String
deriving DecidableEq

/- Access token for API requests. -/
structure AccessToken where
  token : String
  tokenType : String
  expiresAt : DateTime
  keyId : String
  userId : String
  capabilities : List Capability
deriving DecidableEq

/- Authentication result. -/
structure AuthResult where
  userId : String
  keyId : String
  capabilities : List Capability
  stateRestriction : Option String
deriving DecidableEq

namespace AuthResult

def hasCapability
    (result : AuthResult)
    (cap : Capability) : Bool :=
  result.capabilities.contains cap

def canAccessState
    (result : AuthResult)
    (stateId : String) : Bool :=
  match result.stateRestriction with
  | some restrictedId => restrictedId == stateId
  | none => true

end AuthResult

/- Authentication errors. -/
inductive AuthError where
  | keyNotFound (keyId : String)
  | keyRevoked
  | keyExpired
  | invalidKey
  | invalidToken
  | tokenExpired
  | tokenLimitExceeded
deriving DecidableEq

------------------------------------------------------------
-- The Manager
------------------------------------------------------------

/- Authentication manager. -/
structure AuthManager where
  config : AuthConfig
  keys : HashMap String ApiKey
  tokens : HashMap String AccessToken
  userKeys : HashMap String (List String)

namespace AuthManager

def new
    (config : AuthConfig) : AuthManager where
  config := config
  keys := ∅
  tokens := ∅
  userKeys := ∅

variable [Sha256]

/- Hash a key secret for verification. -/
def hashKey
    (manager : AuthManager)
    (key : String) : String :=
  sha256Hex
    (asBytes manager.config.secretKey ++ asBytes key)

------------------------------------------------------------
-- Keys
------------------------------------------------------------

/- The key that is made of a drawn secret and a drawn id. -/
def freshKey
    (manager : AuthManager)
    (userId : String)
    (capabilities : List Capability)
    (secretUuid keyUuid : String)
    (now : DateTime) : ApiKey where
  keyId := "key_" ++ keyUuid
  keySecret := some ("isa_" ++ secretUuid)
  keyHash := manager.hashKey ("isa_" ++ secretUuid)
  userId := userId
  capabilities := capabilities
  createdAt := now
  expiresAt := none
  revoked := false
  stateRestriction := none

/- Store the key, under the lock of the keys. -/
def storeKey
    (apiKey : ApiKey) : Exec AuthManager AuthError Unit :=
  Exec.update fun manager =>
    { manager with
      keys := manager.keys.insert apiKey.keyId apiKey }

/- Update the user's key list, under its own lock. -/
def pushUserKey
    (apiKey : ApiKey) : Exec AuthManager AuthError ApiKey :=
  do
    Exec.update fun manager =>
      { manager with
        userKeys :=
          manager.userKeys.insert apiKey.userId
            ((manager.userKeys.lookup apiKey.userId).getD
              [] ++ [apiKey.keyId]) }
    pure apiKey

/- Create a new API key for a user. -/
def createKey
    (userId : String)
    (capabilities : List Capability)
    (secretUuid keyUuid : String)
    (now : DateTime) : Exec AuthManager AuthError ApiKey :=
  do
    let manager ← Exec.read
    let apiKey :=
      manager.freshKey userId capabilities secretUuid
        keyUuid now
    storeKey apiKey
    pushUserKey apiKey

/- Revoke an API key. -/
def revokeKey
    (keyId : String) : Exec AuthManager AuthError Unit := do
  let manager ← Exec.read
  match manager.keys.lookup keyId with
  | some key =>
      Exec.update fun manager =>
        { manager with
          keys :=
            manager.keys.insert keyId
              { key with revoked := true } }
  | none => Exec.fail (.keyNotFound keyId)

/- Verify an API key and return the auth result. -/
def verifyApiKey
    (manager : AuthManager)
    (keyId keySecret : String)
    (now : DateTime) : Except AuthError AuthResult :=
  match manager.keys.lookup keyId with
  | none => .error (.keyNotFound keyId)
  | some key =>
      if key.revoked then
        .error .keyRevoked
      else if key.expiresAt.any (· < now) then
        .error .keyExpired
      else if manager.hashKey keySecret ≠ key.keyHash then
        .error .invalidKey
      else
        .ok
          { userId := key.userId
            keyId := keyId
            capabilities := key.capabilities
            stateRestriction := key.stateRestriction }

/- List API keys for a user, never with their secrets. -/
def listKeys
    (manager : AuthManager)
    (userId : String) : List ApiKey :=
  ((manager.userKeys.lookup userId).map fun keyIds =>
      (keyIds.filterMap fun id =>
        manager.keys.lookup id).map fun key =>
          { key with keySecret := none }).getD []

------------------------------------------------------------
-- Tokens
------------------------------------------------------------

/-
  The token for a key that verifies.  Its expiry is a later
  reading of the clock and the configured hours, which are
  cast to a signed word.
-/
def issueToken
    (manager : AuthManager)
    (keyId keySecret uuid : String)
    (verifiedAt issuedAt : DateTime) :
    Outcome AuthError AccessToken :=
  match manager.verifyApiKey keyId keySecret verifiedAt with
  | .error error => .err error
  | .ok authResult =>
      match
        issuedAt.addHours
          manager.config.tokenExpiryHours.toInt64 with
      | none => .panicked
      | some expiresAt =>
          .ok
            { token := "bearer_" ++ uuid
              tokenType := "Bearer"
              expiresAt := expiresAt
              keyId := keyId
              userId := authResult.userId
              capabilities := authResult.capabilities }

/- The number of tokens a user owns. -/
def userTokenCount
    (manager : AuthManager)
    (userId : String) : Nat :=
  HashMap.weight
    (fun token =>
      if token.userId = userId then 1 else 0)
    manager.tokens

/- Store a token within the limit, under one lock. -/
def storeToken
    (accessToken : AccessToken) :
    Exec AuthManager AuthError AccessToken := do
  let manager ← Exec.read
  if manager.config.maxTokensPerUser ≤
      manager.userTokenCount accessToken.userId then
    Exec.fail .tokenLimitExceeded
  else do
    Exec.update fun manager =>
      { manager with
        tokens :=
          manager.tokens.insert accessToken.token
            accessToken }
    pure accessToken

/- Create a bearer token from an API key. -/
def createToken
    (keyId keySecret uuid : String)
    (verifiedAt issuedAt : DateTime) :
    Exec AuthManager AuthError AccessToken := do
  let manager ← Exec.read
  let accessToken ←
    Exec.ofOutcome
      (manager.issueToken keyId keySecret uuid verifiedAt
        issuedAt)
  storeToken accessToken

/- Revoke a bearer token. -/
def revokeToken
    (token : String) : Exec AuthManager AuthError Unit :=
  Exec.update fun manager =>
    { manager with tokens := manager.tokens.erase token }

/- What a token says of its bearer. -/
def AccessToken.result
    (accessToken : AccessToken) : AuthResult where
  userId := accessToken.userId
  keyId := accessToken.keyId
  capabilities := accessToken.capabilities
  stateRestriction := none

/-
  Verify a bearer token.  An expired one is removed, which
  takes the lock of the tokens a second time.
-/
def verifyToken
    (token : String)
    (now : DateTime) :
    Exec AuthManager AuthError AuthResult := do
  let manager ← Exec.read
  match manager.tokens.lookup token with
  | none => Exec.fail .invalidToken
  | some accessToken =>
      if accessToken.expiresAt < now then do
        revokeToken token
        Exec.fail .tokenExpired
      else
        pure (AccessToken.result accessToken)

/- Clean up expired tokens and count them. -/
def cleanupExpiredTokens
    (now : DateTime) : Exec AuthManager AuthError Nat := do
  let manager ← Exec.read
  let kept :=
    HashMap.retain
      (fun _ token => decide (now < token.expiresAt))
      manager.tokens
  Exec.update fun manager =>
    { manager with tokens := kept }
  pure (HashMap.len manager.tokens - HashMap.len kept)

end AuthManager

end IsaWorkspace
