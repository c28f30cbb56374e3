import IsaWorkspace.Auth.Operations
import IsaWorkspace.Foundations.Interleaving

/-
  Calls on an authentication manager, step by step.

  Creating a key stores it and then lists it; creating a
  token verifies the key and then stores the token; verifying
  an expired token gives up the lock and takes it again to
  remove the token.  The other calls take one step.  One
  lemma says what a step can do to the tokens.

  Main declarations:
    * `AuthPhase`, `AuthPhase.step`
    * `ConcurrentAuth`, `perform_steps`
    * `PhaseEffect`, `phaseEffect`
-/

------------------------------------------------------------
-- Calls in Steps
------------------------------------------------------------

namespace IsaWorkspace

/-
  What a call has yet to do.  A removal goes by the text of
  the token; the token that was found expired stands beside
  it.
-/
inductive AuthPhase where
  | start (op : AuthOp)
  | pushUserKey (apiKey : ApiKey)
  | storeToken (accessToken : AccessToken)
  | removeExpired (token : String) (expired : AccessToken)
  | finished (outcome : Outcome AuthError AuthResponse)

/- The text a call draws for a token. -/
def AuthOp.tokenDrawn : AuthOp → Option String
| createToken _ _ uuid _ _ => some ("bearer_" ++ uuid)
| _ => none

/- The text of the token a call has yet to store. -/
def AuthPhase.pendingToken : AuthPhase → Option String
| start op => op.tokenDrawn
| storeToken accessToken => some accessToken.token
| _ => none

section Steps

variable [Sha256]

namespace AuthPhase

/- The first step of a call, under its first lock. -/
def begin
    (manager : AuthManager) :
    AuthOp → AuthPhase × AuthManager
| .createKey userId capabilities secretUuid keyUuid now =>
    let apiKey :=
      manager.freshKey userId capabilities secretUuid
        keyUuid now
    (pushUserKey apiKey,
      (AuthManager.storeKey apiKey manager).2)
| .createToken keyId keySecret uuid verifiedAt issuedAt =>
    match
      manager.issueToken keyId keySecret uuid verifiedAt
        issuedAt with
    | .ok accessToken => (storeToken accessToken, manager)
    | .err error => (finished (.err error), manager)
    | .panicked => (finished .panicked, manager)
| .verifyToken token now =>
    match manager.tokens.lookup token with
    | none => (finished (.err .invalidToken), manager)
    | some accessToken =>
        if accessToken.expiresAt < now then
          (removeExpired token accessToken, manager)
        else
          (finished
              (.ok
                (.verified
                  (AuthManager.AccessToken.result
                    accessToken))),
            manager)
| op =>
    (finished (op.perform manager).1,
      (op.perform manager).2)

/- One atomic step of a call. -/
def step
    (phase : AuthPhase)
    (manager : AuthManager) : AuthPhase × AuthManager :=
  match phase with
  | start op => begin manager op
  | pushUserKey apiKey =>
      (finished (.ok (.created apiKey)),
        (AuthManager.pushUserKey apiKey manager).2)
  | storeToken accessToken =>
      match AuthManager.storeToken accessToken manager with
      | (.ok stored, manager') =>
          (finished (.ok (.issued stored)), manager')
      | (.err error, manager') =>
          (finished (.err error), manager')
      | (.panicked, manager') =>
          (finished .panicked, manager')
  | removeExpired token _ =>
      (finished (.err .tokenExpired),
        (AuthManager.revokeToken token manager).2)
  | finished outcome => (finished outcome, manager)

end AuthPhase

/- A manager and the calls on it. -/
abbrev ConcurrentAuth : Type :=
  Interleaved AuthManager AuthPhase

/- A call that goes alone takes its two steps in a row. -/
theorem run_alone
    {op : AuthOp}
    {manager middle last : AuthManager}
    {phase final : AuthPhase}
    (hFirst :
      AuthPhase.step (.start op) manager = (phase, middle))
    (hSecond :
      AuthPhase.step phase middle = (final, last)) :
    Runs.run (Interleaved.step AuthPhase.step)
        ⟨manager, [.start op]⟩ [0, 0] =
      ⟨last, [final]⟩ := by
  have hRun :
      Runs.run (Interleaved.step AuthPhase.step)
          ⟨manager, [.start op]⟩ [0, 0] =
        ⟨(AuthPhase.step
            (AuthPhase.step (.start op) manager).1
            (AuthPhase.step (.start op) manager).2).2,
          [(AuthPhase.step
            (AuthPhase.step (.start op) manager).1
            (AuthPhase.step (.start op) manager).2).1]⟩ :=
    rfl
  rw [hRun, hFirst, hSecond]

theorem createToken_steps
    (keyId keySecret uuid : String)
    (verifiedAt issuedAt : DateTime)
    (manager : AuthManager) :
    ∃ phase middle,
      AuthPhase.step
            (.start
              (.createToken keyId keySecret uuid verifiedAt
                issuedAt))
            manager =
          (phase, middle) ∧
        AuthPhase.step phase middle =
          (.finished
              ((AuthOp.createToken keyId keySecret uuid
                verifiedAt issuedAt).perform manager).1,
            ((AuthOp.createToken keyId keySecret uuid
              verifiedAt issuedAt).perform manager).2) := by
  have hCreate :=
    AuthManager.createToken_apply keyId keySecret uuid
      verifiedAt issuedAt manager
  unfold AuthPhase.step AuthPhase.begin AuthOp.perform
  dsimp only
  cases hIssue :
      manager.issueToken keyId keySecret uuid verifiedAt
        issuedAt with
  | err error =>
      rw [hIssue] at hCreate
      refine ⟨_, _, rfl, ?_⟩
      rw [Exec.bind_of_err hCreate]
  | panicked =>
      rw [hIssue] at hCreate
      refine ⟨_, _, rfl, ?_⟩
      rw [Exec.bind_of_panicked hCreate]
  | ok accessToken =>
      rw [hIssue] at hCreate
      dsimp only at hCreate
      refine ⟨_, _, rfl, ?_⟩
      rcases hStore :
          AuthManager.storeToken accessToken manager with
        ⟨outcome, stored⟩
      rw [hStore] at hCreate
      dsimp only
      rw [hStore]
      cases outcome with
      | ok value =>
          rw [Exec.bind_of_ok hCreate]
          rfl
      | err error => rw [Exec.bind_of_err hCreate]
      | panicked => rw [Exec.bind_of_panicked hCreate]

theorem verifyToken_steps
    (token : String)
    (now : DateTime)
    (manager : AuthManager) :
    ∃ phase middle,
      AuthPhase.step (.start (.verifyToken token now))
            manager =
          (phase, middle) ∧
        AuthPhase.step phase middle =
          (.finished
              ((AuthOp.verifyToken token now).perform
                manager).1,
            ((AuthOp.verifyToken token now).perform
              manager).2) := by
  have hVerify :=
    AuthManager.verifyToken_apply token now manager
  unfold AuthPhase.step AuthPhase.begin AuthOp.perform
  dsimp only
  cases hLookup : manager.tokens.lookup token with
  | none =>
      rw [hLookup] at hVerify
      refine ⟨_, _, rfl, ?_⟩
      rw [Exec.bind_of_err hVerify]
  | some accessToken =>
      rw [hLookup] at hVerify
      dsimp only at hVerify ⊢
      by_cases hExpired : accessToken.expiresAt < now
      · rw [if_pos hExpired] at hVerify ⊢
        refine ⟨_, _, rfl, ?_⟩
        rw [Exec.bind_of_err hVerify]
        rfl
      · rw [if_neg hExpired] at hVerify ⊢
        refine ⟨_, _, rfl, ?_⟩
        rw [Exec.bind_of_ok hVerify]
        rfl

/- The two steps of a call, with nothing between, are it. -/
theorem perform_steps
    (op : AuthOp)
    (manager : AuthManager) :
    Runs.run (Interleaved.step AuthPhase.step)
        ⟨manager, [.start op]⟩ [0, 0] =
      ⟨(op.perform manager).2,
        [.finished (op.perform manager).1]⟩ := by
  cases op with
  | createKey userId capabilities secretUuid keyUuid now =>
      exact run_alone rfl rfl
  | revokeKey keyId => exact run_alone rfl rfl
  | verifyApiKey keyId keySecret now =>
      exact run_alone rfl rfl
  | createToken keyId keySecret uuid verifiedAt issuedAt =>
      rcases createToken_steps keyId keySecret uuid
          verifiedAt issuedAt manager with
        ⟨phase, middle, hFirst, hSecond⟩
      exact run_alone hFirst hSecond
  | verifyToken token now =>
      rcases verifyToken_steps token now manager with
        ⟨phase, middle, hFirst, hSecond⟩
      exact run_alone hFirst hSecond
  | revokeToken token => exact run_alone rfl rfl
  | cleanupExpiredTokens now => exact run_alone rfl rfl

------------------------------------------------------------
-- What One Step Can Do
------------------------------------------------------------

/-
  A step leaves the tokens alone, or stores a token within
  the cap, or at most drops tokens.  Only a step that has
  found a token expired goes on to a removal.
-/
inductive PhaseEffect
    (phase : AuthPhase)
    (manager : AuthManager) :
    AuthPhase → AuthManager → Prop where
  | sameTokens
      (next : AuthPhase)
      (manager' : AuthManager)
      (hConfig : manager'.config = manager.config)
      (hTokens : manager'.tokens = manager.tokens)
      (hPending :
        ∀ token, next.pendingToken = some token →
          phase.pendingToken = some token)
      (hRemoval :
        ∀ token expired, next = .removeExpired token expired →
          manager.tokens.lookup token = some expired) :
      PhaseEffect phase manager next manager'
  | tokenStored
      (accessToken : AccessToken)
      (outcome : Outcome AuthError AuthResponse)
      (hPhase : phase = .storeToken accessToken)
      (hBelow :
        manager.userTokenCount accessToken.userId <
          manager.config.maxTokensPerUser) :
      PhaseEffect phase manager (.finished outcome)
        { manager with
          tokens :=
            manager.tokens.insert accessToken.token
              accessToken }
  | tokensDropped
      (tokens : HashMap String AccessToken)
      (outcome : Outcome AuthError AuthResponse)
      (hTokens : HashMap.SubMap tokens manager.tokens) :
      PhaseEffect phase manager (.finished outcome)
        { manager with tokens := tokens }

variable {phase : AuthPhase} {manager : AuthManager}

/- Ending a call without a change. -/
omit [Sha256] in
theorem PhaseEffect.ended
    (outcome : Outcome AuthError AuthResponse) :
    PhaseEffect phase manager (.finished outcome)
      manager :=
  .tokensDropped manager.tokens outcome
    (HashMap.SubMap.refl _)

/- Ending a call that changes keys alone. -/
omit [Sha256] in
theorem PhaseEffect.endedKeys
    (outcome : Outcome AuthError AuthResponse)
    {manager' : AuthManager}
    (hConfig : manager'.config = manager.config)
    (hTokens : manager'.tokens = manager.tokens) :
    PhaseEffect phase manager (.finished outcome)
      manager' :=
  .sameTokens _ manager' hConfig hTokens
    (fun _ hPending => nomatch hPending)
    (fun _ _ hNext => nomatch hNext)

/- The first step of a call stores no token. -/
theorem phaseEffect_begin
    (op : AuthOp)
    (manager : AuthManager) :
    PhaseEffect (.start op) manager
      (AuthPhase.begin manager op).1
      (AuthPhase.begin manager op).2 := by
  cases op with
  | createKey userId capabilities secretUuid keyUuid now =>
      exact
        .sameTokens _ _ rfl rfl
          (fun _ hPending => nomatch hPending)
          (fun _ _ hNext => nomatch hNext)
  | revokeKey keyId =>
      have hRevoke :=
        AuthManager.revokeKey_apply keyId manager
      cases hLookup : manager.keys.lookup keyId with
      | some key =>
          rw [hLookup] at hRevoke
          have hPerform :
              (AuthOp.revokeKey keyId).perform manager =
                _ :=
            Exec.bind_of_ok hRevoke
          unfold AuthPhase.begin
          dsimp only
          rw [hPerform]
          exact .endedKeys _ rfl rfl
      | none =>
          rw [hLookup] at hRevoke
          have hPerform :
              (AuthOp.revokeKey keyId).perform manager =
                _ :=
            Exec.bind_of_err hRevoke
          unfold AuthPhase.begin
          dsimp only
          rw [hPerform]
          exact .ended _
  | verifyApiKey keyId keySecret now =>
      unfold AuthPhase.begin AuthOp.perform
      dsimp only
      cases manager.verifyApiKey keyId keySecret now with
      | ok result => exact .ended _
      | error error => exact .ended _
  | createToken keyId keySecret uuid verifiedAt issuedAt =>
      unfold AuthPhase.begin
      dsimp only
      cases hIssue :
          manager.issueToken keyId keySecret uuid
            verifiedAt issuedAt with
      | ok accessToken =>
          rcases AuthManager.of_issueToken_ok hIssue with
            ⟨result, expiresAt, _, rfl⟩
          exact
            .sameTokens _ _ rfl rfl
              (fun _ hPending => hPending)
              (fun _ _ hNext => nomatch hNext)
      | err error => exact .ended _
      | panicked => exact .ended _
  | verifyToken token now =>
      unfold AuthPhase.begin
      dsimp only
      cases hLookup : manager.tokens.lookup token with
      | none => exact .ended _
      | some accessToken =>
          dsimp only
          split
          · refine
              .sameTokens _ _ rfl rfl
                (fun _ hPending => nomatch hPending) ?_
            rintro other expired ⟨rfl, rfl⟩
            exact hLookup
          · exact .ended _
  | revokeToken token =>
      exact
        .tokensDropped _ _ (HashMap.subMap_erase _ token)
  | cleanupExpiredTokens now =>
      exact
        .tokensDropped _ _ (HashMap.subMap_retain _ _)

/- A step has one of the effects a step can have. -/
theorem phaseEffect
    (phase : AuthPhase)
    (manager : AuthManager) :
    PhaseEffect phase manager (phase.step manager).1
      (phase.step manager).2 := by
  cases phase with
  | start op => exact phaseEffect_begin op manager
  | pushUserKey apiKey => exact .endedKeys _ rfl rfl
  | storeToken accessToken =>
      unfold AuthPhase.step
      dsimp only
      rw [AuthManager.storeToken_apply]
      split
      · next hStore =>
          split at hStore
          · cases hStore
          · next hBelow =>
              cases hStore
              exact
                .tokenStored accessToken _ rfl
                  (Nat.lt_of_not_le hBelow)
      · next hStore =>
          split at hStore
          · cases hStore
            exact .ended _
          · cases hStore
      · next hStore =>
          split at hStore
          · cases hStore
          · cases hStore
  | removeExpired token expired =>
      exact
        .tokensDropped _ _ (HashMap.subMap_erase _ token)
  | finished outcome => exact .ended _

end Steps

end IsaWorkspace
