import IsaWorkspace.Auth.Concurrency

/-
  The cap on tokens, with calls in interleaving.

  A token is counted and stored under one lock, so each user
  stays within the cap in every schedule.  The texts of the
  tokens being different, a removal meets no token but the
  one that was found expired.

  Main declarations:
    * `AuthManager.TokensWithin`, `RemovesOnlyExpired`
    * `FreshUnderway`, `Orderly`, `orderly_step`
    * `tokenCap`
-/

------------------------------------------------------------
-- The Cap
------------------------------------------------------------

namespace IsaWorkspace

/- Every user owns at most as many tokens as allowed. -/
def AuthManager.TokensWithin
    (manager : AuthManager) : Prop :=
  ∀ userId,
    manager.userTokenCount userId ≤
      manager.config.maxTokensPerUser

/- Fewer tokens are within the cap. -/
theorem AuthManager.TokensWithin.drop
    {manager : AuthManager}
    (hWithin : manager.TokensWithin)
    {tokens : HashMap String AccessToken}
    (hTokens : HashMap.SubMap tokens manager.tokens) :
    AuthManager.TokensWithin
      { manager with tokens := tokens } := by
  intro userId
  exact
    (HashMap.weight_le_of_subMap _ hTokens).trans
      (hWithin userId)

/- One more token of a user below the cap is within it. -/
theorem AuthManager.TokensWithin.insert
    {manager : AuthManager}
    (hWithin : manager.TokensWithin)
    {accessToken : AccessToken}
    (hBelow :
      manager.userTokenCount accessToken.userId <
        manager.config.maxTokensPerUser) :
    AuthManager.TokensWithin
      { manager with
        tokens :=
          manager.tokens.insert accessToken.token
            accessToken } := by
  intro userId
  have hOthers :=
    HashMap.weight_erase_le
      (fun token : AccessToken =>
        if token.userId = userId then 1 else 0)
      manager.tokens accessToken.token
  have hUser := hWithin userId
  unfold userTokenCount at hBelow hUser ⊢
  dsimp only
  rw [HashMap.weight_insert]
  by_cases hSame : accessToken.userId = userId
  · subst hSame
    rw [if_pos rfl]
    omega
  · rw [if_neg hSame]
    omega

/- No step takes a user past the cap. -/
theorem PhaseEffect.tokensWithin
    {phase next : AuthPhase}
    {manager manager' : AuthManager}
    (hEffect : PhaseEffect phase manager next manager')
    (hWithin : manager.TokensWithin) :
    manager'.TokensWithin := by
  cases hEffect with
  | sameTokens _ _ hConfig hTokens hPending hRemoval =>
      intro userId
      have hUser := hWithin userId
      unfold AuthManager.userTokenCount at hUser ⊢
      rw [hConfig, hTokens]
      exact hUser
  | tokenStored accessToken outcome hPhase hBelow =>
      exact hWithin.insert hBelow
  | tokensDropped tokens outcome hTokens =>
      exact hWithin.drop hTokens

------------------------------------------------------------
-- Removals
------------------------------------------------------------

/- The tokens that calls have yet to store. -/
def pendingTokens
    (calls : List AuthPhase) : List String :=
  calls.filterMap AuthPhase.pendingToken

/-
  No two calls are to store one text, none is to store a
  text that is in use, and what a removal will find under
  its text is the token that was found expired.
-/
structure FreshUnderway
    (manager : AuthManager)
    (calls : List AuthPhase) : Prop where
  distinct : (pendingTokens calls).Nodup
  absent :
    ∀ token ∈ pendingTokens calls,
      manager.tokens.lookup token = none
  removals :
    ∀ token expired,
      .removeExpired token expired ∈ calls →
        token ∉ pendingTokens calls ∧
          ∀ found,
            manager.tokens.lookup token = some found →
              found = expired

/- The order of the calls does not matter. -/
theorem FreshUnderway.perm
    {manager : AuthManager}
    {calls calls' : List AuthPhase}
    (hFresh : FreshUnderway manager calls)
    (hPerm : calls.Perm calls') :
    FreshUnderway manager calls' := by
  have hPending :
      (pendingTokens calls).Perm (pendingTokens calls') :=
    hPerm.filterMap _
  constructor
  · exact hPending.nodup_iff.mp hFresh.distinct
  · intro token hToken
    exact
      hFresh.absent token (hPending.mem_iff.mpr hToken)
  · intro token expired hCall
    rcases hFresh.removals token expired
        (hPerm.mem_iff.mpr hCall) with
      ⟨hNotPending, hFound⟩
    exact
      ⟨fun hToken =>
        hNotPending (hPending.mem_iff.mpr hToken),
        hFound⟩

section Keeping

variable {phase next : AuthPhase}
variable {manager manager' : AuthManager}
variable {rest : List AuthPhase}

/- A call that goes on has no more to store than before. -/
theorem pendingTokens_sublist
    (rest : List AuthPhase)
    (hPending :
      ∀ token, next.pendingToken = some token →
        phase.pendingToken = some token) :
    (pendingTokens (next :: rest)).Sublist
      (pendingTokens (phase :: rest)) := by
  unfold pendingTokens
  cases hNext : next.pendingToken with
  | none =>
      rw [List.filterMap_cons_none hNext]
      cases hPhase : phase.pendingToken with
      | none =>
          rw [List.filterMap_cons_none hPhase]
      | some token =>
          rw [List.filterMap_cons_some hPhase]
          exact List.sublist_cons_self _ _
  | some token =>
      rw [List.filterMap_cons_some hNext,
        List.filterMap_cons_some (hPending token hNext)]

/-
  Calls that have less to store, over tokens of which none
  is new, stay as they should be.
-/
theorem FreshUnderway.shrink
    (hFresh : FreshUnderway manager (phase :: rest))
    (hPending :
      ∀ token, next.pendingToken = some token →
        phase.pendingToken = some token)
    (hTokens :
      HashMap.SubMap manager'.tokens manager.tokens)
    (hRemoval :
      ∀ token expired, next = .removeExpired token expired →
        manager.tokens.lookup token = some expired) :
    FreshUnderway manager' (next :: rest) := by
  have hSublist := pendingTokens_sublist rest hPending
  have hGone :
      ∀ token, manager.tokens.lookup token = none →
        manager'.tokens.lookup token = none := by
    intro token hNone
    cases hFound : manager'.tokens.lookup token with
    | none => rfl
    | some found =>
        rw [hTokens token found hFound] at hNone
        cases hNone
  constructor
  · exact hFresh.distinct.sublist hSublist
  · intro token hToken
    exact
      hGone token
        (hFresh.absent token (hSublist.subset hToken))
  · intro token expired hCall
    rcases List.mem_cons.mp hCall with hNew | hOld
    · have hStored :=
        hRemoval token expired hNew.symm
      constructor
      · intro hToken
        have hNone :=
          hFresh.absent token (hSublist.subset hToken)
        rw [hStored] at hNone
        cases hNone
      · intro found hFound
        have hOther := hTokens token found hFound
        rw [hStored] at hOther
        exact (Option.some.inj hOther).symm
    · rcases hFresh.removals token expired
          (List.mem_cons_of_mem _ hOld) with
        ⟨hNotPending, hExpired⟩
      constructor
      · intro hToken
        exact hNotPending (hSublist.subset hToken)
      · intro found hFound
        exact hExpired found (hTokens token found hFound)

/- Storing a pending token leaves the others as they are. -/
theorem FreshUnderway.store
    {accessToken : AccessToken}
    {outcome : Outcome AuthError AuthResponse}
    (hFresh :
      FreshUnderway manager
        (.storeToken accessToken :: rest)) :
    FreshUnderway
      { manager with
        tokens :=
          manager.tokens.insert accessToken.token
            accessToken }
      (.finished outcome :: rest) := by
  have hDistinct := hFresh.distinct
  have hPending :
      pendingTokens (.storeToken accessToken :: rest) =
        accessToken.token :: pendingTokens rest := rfl
  have hLater :
      pendingTokens (.finished outcome :: rest) =
        pendingTokens rest := rfl
  rw [hPending, List.nodup_cons] at hDistinct
  constructor
  · rw [hLater]
    exact hDistinct.2
  · intro token hToken
    rw [hLater] at hToken
    have hOther : token ≠ accessToken.token := by
      rintro rfl
      exact hDistinct.1 hToken
    dsimp only
    rw [HashMap.lookup_insert_eq_ite, if_neg hOther]
    apply hFresh.absent
    rw [hPending]
    exact List.mem_cons_of_mem _ hToken
  · intro token expired hCall
    rcases List.mem_cons.mp hCall with hNew | hOld
    · cases hNew
    · rcases hFresh.removals token expired
          (List.mem_cons_of_mem _ hOld) with
        ⟨hNotPending, hExpired⟩
      rw [hPending, List.mem_cons, not_or] at hNotPending
      rw [hLater]
      refine ⟨hNotPending.2, ?_⟩
      intro found hFound
      dsimp only at hFound
      rw [HashMap.lookup_insert_eq_ite,
        if_neg hNotPending.1] at hFound
      exact hExpired found hFound

/- A step of one call among others keeps it. -/
theorem PhaseEffect.freshUnderway
    (hEffect : PhaseEffect phase manager next manager')
    (hFresh : FreshUnderway manager (phase :: rest)) :
    FreshUnderway manager' (next :: rest) := by
  cases hEffect with
  | sameTokens _ _ hConfig hTokens hPending hRemoval =>
      refine hFresh.shrink hPending ?_ hRemoval
      rw [hTokens]
      exact HashMap.SubMap.refl _
  | tokenStored accessToken outcome hPhase hBelow =>
      subst hPhase
      exact hFresh.store
  | tokensDropped tokens outcome hTokens =>
      exact
        hFresh.shrink (fun _ hPending => nomatch hPending)
          hTokens (fun _ _ hNext => nomatch hNext)

end Keeping

------------------------------------------------------------
-- Every Schedule
------------------------------------------------------------

section Schedules

variable [Sha256]

/-
  When the call at a position is to remove an expired token,
  its step removes no other token.
-/
def RemovesOnlyExpired
    (system : ConcurrentAuth)
    (position : Nat) : Prop :=
  ∀ token expired,
    system.calls[position]? =
        some (.removeExpired token expired) →
      ∀ other found,
        system.shared.tokens.lookup other = some found →
          (Interleaved.step AuthPhase.step system
                position).shared.tokens.lookup other ≠
              some found →
            found = expired

/- The cap, and what keeps removals to expired tokens. -/
def Orderly
    (system : ConcurrentAuth) : Prop :=
  system.shared.TokensWithin ∧
    FreshUnderway system.shared system.calls

theorem orderly_step
    (system : ConcurrentAuth)
    (position : Nat)
    (hOrderly : Orderly system) :
    Orderly
      (Interleaved.step AuthPhase.step system position) := by
  refine
    Interleaved.invariant_step
      (I := fun (manager : AuthManager) calls =>
        manager.TokensWithin ∧ FreshUnderway manager calls)
      (fun hNow hPerm => ⟨hNow.1, hNow.2.perm hPerm⟩) ?_
      hOrderly
  intro phase _ hNow
  have hEffect := phaseEffect phase system.shared
  exact
    ⟨hEffect.tokensWithin hNow.1,
      hEffect.freshUnderway hNow.2⟩

/- What stands under the text to remove is the token found. -/
theorem FreshUnderway.removesOnlyExpired
    {system : ConcurrentAuth}
    (hFresh : FreshUnderway system.shared system.calls)
    (position : Nat) :
    RemovesOnlyExpired system position := by
  intro token expired hCall other found hFound hGone
  rcases Interleaved.step_of_some AuthPhase.step hCall with
    ⟨hShared, _, _⟩
  rcases hFresh.removals token expired
      (List.mem_of_getElem? hCall) with
    ⟨_, hExpired⟩
  have hErased :
      (Interleaved.step AuthPhase.step system
            position).shared.tokens =
        system.shared.tokens.erase token := by
    rw [hShared]
    rfl
  rw [hErased, HashMap.lookup_erase_eq_ite] at hGone
  by_cases hSame : other = token
  · subst hSame
    exact hExpired found hFound
  · rw [if_neg hSame] at hGone
    exact absurd hFound hGone

/- Calls that draw different unused texts are in order. -/
omit [Sha256] in
theorem freshUnderway_start
    {manager : AuthManager}
    {ops : List AuthOp}
    (hDistinct :
      (ops.filterMap AuthOp.tokenDrawn).Nodup)
    (hUnused :
      ∀ token ∈ ops.filterMap AuthOp.tokenDrawn,
        manager.tokens.lookup token = none) :
    FreshUnderway manager (ops.map AuthPhase.start) := by
  have hPending :
      pendingTokens (ops.map AuthPhase.start) =
        ops.filterMap AuthOp.tokenDrawn :=
    List.filterMap_map
  constructor
  · rw [hPending]
    exact hDistinct
  · rw [hPending]
    exact hUnused
  · intro token expired hCall
    rcases List.mem_map.mp hCall with ⟨op, _, hStart⟩
    cases hStart

/-
  Let any calls run in any schedule on a manager within the
  cap, the texts drawn for tokens being different and not in
  use.  Every user stays within the cap at every moment, and
  no removal of an expired token removes another one.
-/
theorem tokenCap
    (manager : AuthManager)
    (hWithin : manager.TokensWithin)
    (ops : List AuthOp)
    (hDistinct :
      (ops.filterMap AuthOp.tokenDrawn).Nodup)
    (hUnused :
      ∀ token ∈ ops.filterMap AuthOp.tokenDrawn,
        manager.tokens.lookup token = none)
    (schedule : List Nat) :
    Runs.Throughout (Interleaved.step AuthPhase.step)
        (fun system => system.shared.TokensWithin)
        ⟨manager, ops.map AuthPhase.start⟩ schedule ∧
      Runs.AlongRun (Interleaved.step AuthPhase.step)
        RemovesOnlyExpired
        ⟨manager, ops.map AuthPhase.start⟩ schedule := by
  have hStart :
      Orderly ⟨manager, ops.map AuthPhase.start⟩ :=
    ⟨hWithin, freshUnderway_start hDistinct hUnused⟩
  constructor
  · exact
      (Runs.throughout_of_step orderly_step schedule
        hStart).mono
        (fun _ hOrderly => hOrderly.1)
  · have hAny :
        Runs.AlongRun (Interleaved.step AuthPhase.step)
          (fun _ _ => True)
          ⟨manager, ops.map AuthPhase.start⟩ schedule :=
      Runs.alongRun_of_forall_mem fun _ _ _ => trivial
    exact
      Runs.alongRun_of_invariant
        (fun system position hOrderly _ =>
          orderly_step system position hOrderly)
        (fun _ position hOrderly _ =>
          hOrderly.2.removesOnlyExpired position)
        hStart hAny

end Schedules

------------------------------------------------------------
-- Sample Schedules
------------------------------------------------------------

open AuthSample (keyUuid secretUuid)
open scoped AuthSample

/- A second token made from the sample key. -/
def secondToken : AuthOp :=
  .createToken ("key_" ++ keyUuid) ("isa_" ++ secretUuid)
    "5b0f5a0e-8d3c-4c52-9e2a-6f0d7c9b1a23"
    DateTime.unixEpoch DateTime.unixEpoch

/- The first token is shown when its day is over. -/
def lateVerification : AuthOp :=
  .verifyToken ("bearer_" ++ AuthSample.tokenUuid)
    ⟨86400000000001, by decide⟩

/- A manager that allows one token, and a key. -/
def oneTokenManager : AuthManager :=
  (AuthSample.createKey.perform
    (AuthManager.new
      { AuthConfig.default with maxTokensPerUser := 1 })).2

/-
  Two calls verify the key before either stores its token,
  and the second one is refused.  A third call finds the
  token expired and then removes it.
-/
theorem tokenCap_sample :
    let system : ConcurrentAuth :=
      ⟨oneTokenManager,
        [AuthSample.createToken, secondToken,
          lateVerification].map AuthPhase.start⟩
    let after := Runs.run (Interleaved.step AuthPhase.step) system
    (Runs.Throughout (Interleaved.step AuthPhase.step)
          (fun system => system.shared.TokensWithin)
          system [0, 1, 0, 1, 2, 2] ∧
        Runs.AlongRun (Interleaved.step AuthPhase.step)
          RemovesOnlyExpired system [0, 1, 0, 1, 2, 2]) ∧
      ((after [0, 1, 0, 1, 2]).shared.userTokenCount
            "user-123" = 1 ∧
        (after [0, 1, 0, 1, 2, 2]).shared.userTokenCount
            "user-123" = 0) :=
  ⟨tokenCap oneTokenManager (fun _ => Nat.zero_le 1)
    [AuthSample.createToken, secondToken, lateVerification]
    (by decide +kernel) (by decide +kernel)
    [0, 1, 0, 1, 2, 2],
    by decide +kernel⟩

end IsaWorkspace
