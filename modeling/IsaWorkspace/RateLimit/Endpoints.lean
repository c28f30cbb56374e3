import IsaWorkspace.Foundations.Runs
import IsaWorkspace.RateLimit.Limiter

/-
  The limits of endpoints, while no time passes.

  A key has one bucket for all endpoints, filled by the
  configuration of the endpoint that it asked for first.
  Which of its requests are granted depends on their
  positions among its requests, and not on the endpoints
  they ask for.

  Main declarations:
    * `TokenBucket.grants`, `TokenBucket.grants_next`
    * `TokenBucket.grants_new`
    * `EndpointHistory`, `EndpointHistory.step`
    * `RateLimiter.granted`, `RateLimiter.granted_eq_take`
    * `EndpointHistory.count_allowed_run`
    * `EndpointHistory.allowed_le_iff`
-/

------------------------------------------------------------
-- What a Bucket Grants
------------------------------------------------------------

namespace IsaWorkspace

/-
  Which requests in a row tokens are enough for.  Above the
  exact integers, taking one token can change nothing.
-/
def F32.tokensGrant : F32 → Nat → Bool
| .finite tokens _, position =>
    if tokens ≤ 2 ^ 24 then
      decide ((position : Int) < tokens.floor)
    else if tokens ≤ 2 ^ 24 + 2 then
      decide (position < 2 ^ 24 + 1)
    else
      true
| .infinite negative, _ => !negative
| .nan, _ => false

/- A number that the arithmetic takes as one. -/
def F32.isFinite : F32 → Bool
| .finite _ _ => true
| _ => false

namespace TokenBucket

/-
  Which requests in a row a refilled bucket grants while no
  time passes.  No time at an infinite rate is no number,
  which fills the bucket up before each later request.
-/
def grants
    (bucket : TokenBucket)
    (position : Nat) : Bool :=
  if bucket.refillRate.isFinite ∨ position = 0 then
    bucket.tokens.tokensGrant position
  else
    (F32.ofNat bucket.maxTokens.toNat).tokensGrant 0

/- The tokens are not more than the bucket can hold. -/
def Refilled
    (now : Timespec)
    (bucket : TokenBucket) : Prop :=
  bucket.lastRefill = now ∧
    ∃ bound hBound,
      F32.ofNat bucket.maxTokens.toNat =
          .finite bound hBound ∧
        (bucket.tokens = .infinite true ∨
          ∃ value hValue,
            bucket.tokens = .finite value hValue ∧
              value ≤ bound)

end TokenBucket

namespace F32

/- The largest number that is not more than a finite one. -/
theorem min_finite_cases
    (number : F32)
    {bound : Rat}
    (hBound : IsSingle bound) :
    number.min (finite bound hBound) = infinite true ∨
      ∃ value hValue,
        number.min (finite bound hBound) =
            finite value hValue ∧
          value ≤ bound := by
  cases number with
  | nan => exact Or.inr ⟨bound, hBound, rfl, le_rfl⟩
  | infinite negative =>
      cases negative with
      | true => exact Or.inl rfl
      | false => exact Or.inr ⟨bound, hBound, rfl, le_rfl⟩
  | finite value hValue =>
      right
      by_cases hLe : value ≤ bound
      · refine ⟨value, hValue, ?_, hLe⟩
        exact if_pos (decide_eq_true hLe)
      · refine ⟨bound, hBound, ?_, le_rfl⟩
        apply if_neg
        simpa [le] using hLe

theorem min_of_le
    {value bound : Rat}
    (hValue : IsSingle value)
    (hBound : IsSingle bound)
    (hLe : value ≤ bound) :
    (finite value hValue).min (finite bound hBound) =
      finite value hValue :=
  if_pos (decide_eq_true hLe)

theorem tokensGrant_finite
    {value : Rat}
    (hValue : IsSingle value)
    (position : Nat) :
    (finite value hValue).tokensGrant position =
      if value ≤ 2 ^ 24 then
        decide ((position : Int) < value.floor)
      else if value ≤ 2 ^ 24 + 2 then
        decide (position < 2 ^ 24 + 1)
      else
        true := rfl

/- The first request takes that there is one token. -/
theorem tokensGrant_zero
    (tokens : F32) :
    tokens.tokensGrant 0 = (ofNat 1).le tokens := by
  rw [ofNat_of_le (by norm_num)]
  cases tokens with
  | nan => rfl
  | infinite negative => cases negative <;> rfl
  | finite value hValue =>
      have hFloor :
          ((0 : Nat) : Int) < value.floor ↔
            ((1 : Nat) : Rat) ≤ value := by
        rw [Nat.cast_zero, Nat.cast_one]
        exact Int.floor_pos (a := value)
      rw [tokensGrant_finite]
      change _ = decide (((1 : Nat) : Rat) ≤ value)
      split_ifs with hExact hOdd
      · exact decide_eq_decide.mpr hFloor
      · apply (decide_eq_true _).trans (decide_eq_true _).symm
        · norm_num
        · push_cast
          linarith
      · symm
        apply decide_eq_true
        push_cast
        linarith

/- Without one token, no request is granted. -/
theorem tokensGrant_of_empty
    {tokens : F32}
    (hEmpty : tokens.tokensGrant 0 = false)
    (position : Nat) :
    tokens.tokensGrant position = false := by
  cases tokens with
  | nan => rfl
  | infinite negative => exact hEmpty
  | finite value hValue =>
      rw [tokensGrant_finite] at hEmpty ⊢
      split_ifs at hEmpty ⊢ with hExact hOdd
      · rw [decide_eq_false_iff_not] at hEmpty ⊢
        omega
      · exact absurd hEmpty (by norm_num)

/- Tokens above the exact integers are enough for ever. -/
theorem tokensGrant_of_large
    {value : Rat}
    (hValue : IsSingle value)
    (hLarge : 2 ^ 24 + 4 ≤ value)
    (position : Nat) :
    (finite value hValue).tokensGrant position = true := by
  rw [tokensGrant_finite, if_neg (by linarith),
    if_neg (by linarith)]

section OneToken

variable {value bound : Rat}
variable (hValue : IsSingle value) (hBound : IsSingle bound)

/- Up to the exact integers, one token is one less. -/
theorem tokensGrant_taken_exact
    (hLow : 1 ≤ value)
    (hExact : value ≤ 2 ^ 24)
    (hLe : value ≤ bound)
    (position : Nat) :
    ((ofRat (value - 1)).min
        (finite bound hBound)).tokensGrant position =
      (finite value hValue).tokensGrant (position + 1) := by
  have hRange : |value - 1| < pow2 128 := by
    have hBelow := hValue.inRange
    rw [abs_of_pos (by linarith)] at hBelow
    rw [abs_of_nonneg (by linarith)]
    linarith
  have hLess : IsSingle (value - 1) :=
    ⟨hValue.form.sub_one hLow hExact, hRange⟩
  have hFloor : (value - 1).floor = value.floor - 1 :=
    Int.floor_sub_one value
  rw [ofRat_of_isSingle hLess,
    min_of_le hLess hBound (by linarith),
    tokensGrant_finite, tokensGrant_finite, if_pos hExact,
    if_pos (by linarith), hFloor]
  apply decide_eq_decide.mpr
  push_cast
  omega

/- From the next number of the format, two are taken. -/
theorem tokensGrant_taken_tie
    (hTie : value = 2 ^ 24 + 2)
    (hLe : value ≤ bound)
    (position : Nat) :
    ((ofRat (value - 1)).min
        (finite bound hBound)).tokensGrant position =
      (finite value hValue).tokensGrant (position + 1) := by
  have hTaken : ofRat (value - 1) = ofNat (2 ^ 24) := by
    rw [hTie]
    decide +kernel
  have hFloor :
      ((2 ^ 24 : Nat) : Rat).floor = 2 ^ 24 := by
    decide +kernel
  rw [hTaken, ofNat_of_le le_rfl,
    min_of_le _ hBound (by push_cast; linarith),
    tokensGrant_finite, tokensGrant_finite,
    if_pos (by norm_num), if_neg (by linarith),
    if_pos hTie.le, hFloor]
  apply decide_eq_decide.mpr
  omega

/- From the numbers after that, nothing is taken. -/
theorem tokensGrant_taken_stuck
    (hLarge : 2 ^ 24 + 4 ≤ value)
    (hLe : value ≤ bound)
    (position : Nat) :
    ((ofRat (value - 1)).min
        (finite bound hBound)).tokensGrant position =
      (finite value hValue).tokensGrant (position + 1) := by
  have hNearest :=
    le_nearestSingle (by linarith : 2 ^ 24 + 3 ≤ value - 1)
  have hFull :=
    tokensGrant_of_large hBound (hLarge.trans hLe) position
  rw [tokensGrant_of_large hValue hLarge]
  unfold ofRat
  split
  · next hRange =>
      change (if _ then _ else _ : F32).tokensGrant _ = _
      split
      · exact tokensGrant_of_large _ hNearest position
      · exact hFull
  · have hPositive : decide (value - 1 < 0) = false :=
      decide_eq_false (by linarith)
    rw [hPositive]
    exact hFull

/- Taking one token leaves those for the later requests. -/
theorem tokensGrant_taken
    (hLow : 1 ≤ value)
    (hLe : value ≤ bound)
    (position : Nat) :
    ((ofRat (value - 1)).min
        (finite bound hBound)).tokensGrant position =
      (finite value hValue).tokensGrant (position + 1) := by
  rcases le_or_gt value (2 ^ 24) with hExact | hMore
  · exact
      tokensGrant_taken_exact hValue hBound hLow hExact hLe
        position
  · obtain ⟨half, hHalf⟩ := hValue.form.even_of_large hMore
    have hHalfLow : 2 ^ 23 + 1 ≤ half := by
      have hCast : (2 ^ 23 : Rat) < half := by linarith
      exact_mod_cast hCast
    rcases hHalfLow.eq_or_lt with hEq | hLess
    · apply
        tokensGrant_taken_tie hValue hBound _ hLe position
      rw [hHalf, ← hEq]
      norm_num
    · apply
        tokensGrant_taken_stuck hValue hBound _ hLe position
      have hCast : ((2 ^ 23 + 2 : Nat) : Rat) ≤ half := by
        exact_mod_cast hLess
      push_cast at hCast
      linarith

end OneToken

/-
  A request takes its token if there is one; what a refill
  then leaves is enough for the later requests.
-/
theorem tokensGrant_next
    {tokens : F32}
    {bound : Rat}
    (hBound : IsSingle bound)
    (hTokens :
      tokens = infinite true ∨
        ∃ value hValue,
          tokens = finite value hValue ∧ value ≤ bound)
    (position : Nat) :
    ((if tokens.tokensGrant 0 then tokens.sub (ofNat 1)
        else tokens).min
        (finite bound hBound)).tokensGrant position =
      tokens.tokensGrant (position + 1) := by
  rcases hTokens with rfl | ⟨value, hValue, rfl, hLe⟩
  · rfl
  · split
    · next hFirst =>
        have hLow : ((1 : Nat) : Rat) ≤ value := by
          rw [tokensGrant_zero, ofNat_of_le (by norm_num)]
            at hFirst
          exact of_decide_eq_true hFirst
        rw [ofNat_of_le (by norm_num)]
        change
          ((ofRat (value - (1 : Nat))).min _).tokensGrant _ =
            _
        rw [Nat.cast_one] at hLow ⊢
        exact
          tokensGrant_taken hValue hBound hLow hLe position
    · next hFirst =>
        have hEmpty := Bool.eq_false_iff.mpr hFirst
        rw [min_of_le hValue hBound hLe,
          tokensGrant_of_empty hEmpty,
          tokensGrant_of_empty hEmpty]

end F32

------------------------------------------------------------
-- Requests While No Time Passes
------------------------------------------------------------

namespace TokenBucket

variable {now : Timespec} {bucket : TokenBucket}

/- A refill leaves no more tokens than the bucket holds. -/
theorem refilled_refill
    (now : Timespec)
    (bucket : TokenBucket) :
    (bucket.refill now).Refilled now := by
  obtain ⟨hBound, hMax⟩ :=
    F32.ofNat_eq_finite bucket.maxTokens.toNat_lt
  refine ⟨rfl, _, hBound, hMax, ?_⟩
  unfold refill
  dsimp only
  rw [hMax]
  exact F32.min_finite_cases _ hBound

/- No time is no number of seconds. -/
theorem asSecsF32_durationSince_self
    (now : Timespec) :
    (now.durationSince now).asSecsF32 =
      .finite 0 F32.isSingle_zero := by
  have hZero : now.durationSince now = Duration.zero := by
    unfold Timespec.durationSince Duration.zero
    simp
  rw [hZero]
  decide +kernel

/- A refill after no time only fills up to the capacity. -/
theorem tokens_refill
    (hNow : bucket.lastRefill = now) :
    (bucket.refill now).tokens =
      if bucket.refillRate.isFinite then
        bucket.tokens.min (F32.ofNat bucket.maxTokens.toNat)
      else
        F32.ofNat bucket.maxTokens.toNat := by
  unfold refill
  dsimp only
  rw [hNow, asSecsF32_durationSince_self]
  cases hRate : bucket.refillRate with
  | finite rate hSingle =>
      rw [F32.finite_zero_mul, F32.add_finite_zero]
      rfl
  | nan =>
      have hNan : bucket.tokens.add F32.nan = F32.nan := by
        cases bucket.tokens <;> rfl
      change (bucket.tokens.add F32.nan).min _ = _
      rw [hNan]
      rfl
  | infinite negative =>
      have hNan : bucket.tokens.add F32.nan = F32.nan := by
        cases bucket.tokens <;> rfl
      have hTime :
          (F32.finite 0 F32.isSingle_zero).mul
              (F32.infinite negative) =
            F32.nan := by
        simp [F32.mul]
      rw [hTime, hNan]
      rfl

theorem refillRate_refill
    (now : Timespec)
    (bucket : TokenBucket) :
    (bucket.refill now).refillRate = bucket.refillRate := rfl

theorem maxTokens_refill
    (now : Timespec)
    (bucket : TokenBucket) :
    (bucket.refill now).maxTokens = bucket.maxTokens := rfl

/- What a bucket grants that is refilled after no time. -/
theorem grants_refill
    (hNow : bucket.lastRefill = now)
    (position : Nat) :
    (bucket.refill now).grants position =
      if bucket.refillRate.isFinite then
        (bucket.tokens.min
          (F32.ofNat
            bucket.maxTokens.toNat)).tokensGrant position
      else
        (F32.ofNat bucket.maxTokens.toNat).tokensGrant 0 := by
  unfold grants
  rw [tokens_refill hNow, refillRate_refill, maxTokens_refill]
  by_cases hRate : bucket.refillRate.isFinite = true
  · rw [if_pos (Or.inl hRate), if_pos hRate, if_pos hRate]
  · rw [if_neg hRate, if_neg hRate]
    split
    · next hFirst => rw [hFirst.resolve_left hRate]
    · rfl

/- The first request is granted if it finds a token. -/
theorem tryConsume_one
    (now : Timespec)
    (bucket : TokenBucket) :
    bucket.tryConsume 1 now =
      if (bucket.refill now).grants 0 then
        (true,
          { bucket.refill now with
            tokens :=
              (bucket.refill now).tokens.sub (F32.ofNat 1) })
      else
        (false, bucket.refill now) := by
  unfold grants
  rw [if_pos (Or.inr rfl), F32.tokensGrant_zero]
  rfl

theorem tryConsume_one_fst
    (now : Timespec)
    (bucket : TokenBucket) :
    (bucket.tryConsume 1 now).1 =
      (bucket.refill now).grants 0 := by
  rw [tryConsume_one]
  split
  · next hGranted => exact hGranted.symm
  · next hRefused => exact (Bool.eq_false_iff.mpr hRefused).symm

/- What a request leaves of a refilled bucket. -/
theorem tryConsume_one_snd
    (now : Timespec)
    (bucket : TokenBucket) :
    (bucket.tryConsume 1 now).2 =
      { bucket.refill now with
        tokens :=
          if (bucket.refill now).tokens.tokensGrant 0 then
            (bucket.refill now).tokens.sub (F32.ofNat 1)
          else
            (bucket.refill now).tokens } := by
  have hFirst :
      (bucket.refill now).grants 0 =
        (bucket.refill now).tokens.tokensGrant 0 :=
    if_pos (Or.inr rfl)
  rw [tryConsume_one, hFirst]
  split <;> rfl

/-
  While no time passes, a request leaves the bucket to grant
  what it would have granted after it.
-/
theorem grants_next
    (now : Timespec)
    (bucket : TokenBucket)
    (position : Nat) :
    ((bucket.tryConsume 1 now).2.refill now).grants
        position =
      (bucket.refill now).grants (position + 1) := by
  obtain ⟨hNow, bound, hBound, hMax, hTokens⟩ :=
    refilled_refill now bucket
  have hLeft := tryConsume_one_snd now bucket
  generalize bucket.refill now = refilled at *
  generalize (bucket.tryConsume 1 now).2 = left at *
  have hLeftNow : left.lastRefill = now := by
    rw [hLeft]
    exact hNow
  have hLeftRate :
      left.refillRate = refilled.refillRate := by
    rw [hLeft]
  have hLeftMax : left.maxTokens = refilled.maxTokens := by
    rw [hLeft]
  rw [grants_refill hLeftNow, hLeftRate, hLeftMax, hMax]
  unfold grants
  by_cases hRate : refilled.refillRate.isFinite = true
  · rw [if_pos hRate, if_pos (Or.inl hRate), hLeft]
    exact F32.tokensGrant_next hBound hTokens position
  · rw [if_neg hRate, hMax,
      if_neg (not_or.mpr ⟨hRate, Nat.succ_ne_zero position⟩)]

/-
  A new bucket of exact size grants as many requests as it
  holds tokens.
-/
theorem grants_new
    (now : Timespec)
    {maxTokens : UInt32}
    {refillRate : F32}
    (hRate : refillRate.isFinite = true)
    (hExact : maxTokens.toNat ≤ 2 ^ 24)
    (position : Nat) :
    ((new maxTokens refillRate now).refill now).grants
        position =
      decide (position < maxTokens.toNat) := by
  have hHigh : ((maxTokens.toNat : Nat) : Rat) ≤ 2 ^ 24 := by
    exact_mod_cast hExact
  have hFloor :
      ((maxTokens.toNat : Nat) : Rat).floor =
        maxTokens.toNat := by
    change ⌊((maxTokens.toNat : Nat) : Rat)⌋ = _
    exact Int.floor_natCast maxTokens.toNat
  have hNow : (new maxTokens refillRate now).lastRefill = now :=
    rfl
  rw [grants_refill hNow]
  change
    (if refillRate.isFinite = true then
        ((F32.ofNat maxTokens.toNat).min
          (F32.ofNat maxTokens.toNat)).tokensGrant position
      else _) = _
  rw [if_pos hRate, F32.ofNat_of_le hExact,
    F32.min_of_le _ _ le_rfl, F32.tokensGrant_finite,
    if_pos hHigh, hFloor]
  exact decide_eq_decide.mpr Int.ofNat_lt

end TokenBucket

------------------------------------------------------------
-- Requests of a Key
------------------------------------------------------------

/- The items at the positions that are granted. -/
def grantedItems
    {α : Type} :
    (Nat → Bool) → List α → List α
| _, [] => []
| grants, item :: rest =>
    if grants 0 then
      item :: grantedItems (fun n => grants (n + 1)) rest
    else
      grantedItems (fun n => grants (n + 1)) rest

/- The first positions are those of the first items. -/
theorem grantedItems_lt
    {α : Type}
    (limit : Nat)
    (items : List α) :
    grantedItems (fun position => decide (position < limit))
        items =
      items.take limit := by
  induction items generalizing limit with
  | nil => exact List.take_nil.symm
  | cons item rest ih =>
      unfold grantedItems
      cases limit with
      | zero =>
          have hNone :
              (fun position => decide (position + 1 < 0)) =
                fun position => decide (position < 0) := by
            funext position
            simp
          rw [hNone, ih]
          rfl
      | succ limit =>
          have hShift :
              (fun position =>
                  decide (position + 1 < limit + 1)) =
                fun position => decide (position < limit) := by
            funext position
            simp
          rw [hShift, ih]
          rfl

namespace RateLimiter

/- The endpoints that a key asks for, in order. -/
def endpointsOf
    (key : String)
    (requests : List (String × Option String)) :
    List (Option String) :=
  (requests.filter fun request =>
    decide (request.1 = key)).map Prod.snd

theorem endpointsOf_cons_self
    (key : String)
    (asked : Option String)
    (rest : List (String × Option String)) :
    endpointsOf key ((key, asked) :: rest) =
      asked :: endpointsOf key rest := by
  simp [endpointsOf]

theorem endpointsOf_cons_of_ne
    {key other : String}
    (hOther : other ≠ key)
    (asked : Option String)
    (rest : List (String × Option String)) :
    endpointsOf key ((other, asked) :: rest) =
      endpointsOf key rest := by
  simp [endpointsOf, hOther]

/-
  The bucket that a key's requests meet: its own one, or a
  new one for the endpoint that it asks for first.
-/
def bucketFor
    (limiter : RateLimiter)
    (key : String)
    (first : Option String)
    (now : Timespec) : TokenBucket :=
  (limiter.buckets.lookup key).getD
    (TokenBucket.new (limiter.configFor first).maxTokens
      (limiter.configFor first).refillRate now)

/- The endpoints of the requests that the bucket grants. -/
def granted
    (limiter : RateLimiter)
    (key : String)
    (now : Timespec)
    (requests : List (String × Option String)) :
    List (Option String) :=
  match endpointsOf key requests with
  | [] => []
  | first :: rest =>
      grantedItems
        ((limiter.bucketFor key first now).refill now).grants
        (first :: rest)

/- What a check does, by what the bucket grants. -/
theorem check_eq
    (limiter : RateLimiter)
    (key : String)
    (endpoint : Option String)
    (now : Timespec) :
    ((limiter.check key endpoint now now).1 = some .allowed ↔
        ((limiter.bucketFor key endpoint now).refill
          now).grants 0 = true) ∧
      (limiter.check key endpoint now now).2 =
        { limiter with
          buckets :=
            limiter.buckets.insert key
              ((limiter.bucketFor key endpoint
                now).tryConsume 1 now).2 } := by
  have hGranted :=
    (limiter.bucketFor key endpoint now).tryConsume_one_fst now
  rw [← hGranted]
  unfold check bucketFor
  dsimp only
  split
  · next hConsumed =>
      exact ⟨iff_of_true rfl hConsumed, rfl⟩
  · next hRefused =>
      refine ⟨iff_of_false ?_ hRefused, rfl⟩
      intro hAllowed
      rcases Option.map_eq_some_iff.mp hAllowed with
        ⟨retryAfter, _, hLimited⟩
      cases hLimited

theorem granted_of_lookup
    {limiter : RateLimiter}
    {key : String}
    {bucket : TokenBucket}
    (hBucket : limiter.buckets.lookup key = some bucket)
    (now : Timespec)
    (requests : List (String × Option String)) :
    limiter.granted key now requests =
      grantedItems (bucket.refill now).grants
        (endpointsOf key requests) := by
  unfold granted
  cases endpointsOf key requests with
  | nil => rfl
  | cons first rest =>
      unfold bucketFor
      rw [hBucket]
      rfl

/-
  A new key gets its first requests, as many as the
  endpoint has tokens that it asked for first.
-/
theorem granted_eq_take
    {limiter : RateLimiter}
    {key : String}
    {requests : List (String × Option String)}
    {first : Option String}
    {rest : List (Option String)}
    (hNew : limiter.buckets.lookup key = none)
    (hFirst : endpointsOf key requests = first :: rest)
    (hRate :
      (limiter.configFor first).refillRate.isFinite = true)
    (hExact :
      (limiter.configFor first).maxTokens.toNat ≤ 2 ^ 24)
    (now : Timespec) :
    limiter.granted key now requests =
      (endpointsOf key requests).take
        (limiter.configFor first).maxTokens.toNat := by
  have hGrants :=
    funext (TokenBucket.grants_new now hRate hExact)
  unfold granted bucketFor
  rw [hNew, hFirst]
  change grantedItems (TokenBucket.grants _) _ = _
  rw [Option.getD_none, hGrants, grantedItems_lt]

/- The requests of other keys do not matter. -/
theorem granted_congr
    {limiter other : RateLimiter}
    {key : String}
    (hBucket :
      other.buckets.lookup key = limiter.buckets.lookup key)
    (hConfig : other.configFor = limiter.configFor)
    (now : Timespec)
    (requests : List (String × Option String)) :
    other.granted key now requests =
      limiter.granted key now requests := by
  unfold granted bucketFor
  rw [hBucket, hConfig]

end RateLimiter

------------------------------------------------------------
-- Limits of Endpoints
------------------------------------------------------------

/- A limiter and the requests that it has allowed. -/
structure EndpointHistory where
  limiter : RateLimiter
  allowed : List (String × Option String)

namespace EndpointHistory

def start
    (limiter : RateLimiter) : EndpointHistory where
  limiter := limiter
  allowed := []

/- One check of a key and an endpoint. -/
def step
    (now : Timespec)
    (history : EndpointHistory)
    (request : String × Option String) : EndpointHistory :=
  let checked :=
    history.limiter.check request.1 request.2 now now
  { limiter := checked.2
    allowed :=
      if checked.1 = some .allowed then
        history.allowed ++ [request]
      else
        history.allowed }

/- A request of the key takes what its bucket grants. -/
theorem count_step_self
    (now : Timespec)
    (history : EndpointHistory)
    (key : String)
    (asked endpoint : Option String)
    (rest : List (String × Option String)) :
    (history.step now (key, asked)).allowed.count
          (key, endpoint) +
        ((history.step now (key, asked)).limiter.granted key
          now rest).count endpoint =
      history.allowed.count (key, endpoint) +
        (history.limiter.granted key now
          ((key, asked) :: rest)).count endpoint := by
  obtain ⟨hAllowed, hLimiter⟩ :=
    history.limiter.check_eq key asked now
  have hLater :
      (history.step now (key, asked)).limiter.granted key now
          rest =
        grantedItems
          (fun position =>
            ((history.limiter.bucketFor key asked now).refill
              now).grants (position + 1))
          (RateLimiter.endpointsOf key rest) := by
    have hBucket :
        (history.step now
            (key, asked)).limiter.buckets.lookup key =
          some
            ((history.limiter.bucketFor key asked
              now).tryConsume 1 now).2 := by
      change
        (history.limiter.check key asked now
          now).2.buckets.lookup key = _
      rw [hLimiter]
      exact Finmap.lookup_insert _
    rw [RateLimiter.granted_of_lookup hBucket]
    congr 1
    funext position
    exact TokenBucket.grants_next now _ position
  have hNow :
      history.limiter.granted key now ((key, asked) :: rest) =
        grantedItems
          ((history.limiter.bucketFor key asked now).refill
            now).grants
          (asked :: RateLimiter.endpointsOf key rest) := by
    unfold RateLimiter.granted
    rw [RateLimiter.endpointsOf_cons_self]
  rw [hLater, hNow, grantedItems]
  unfold step
  dsimp only
  by_cases hGranted :
      ((history.limiter.bucketFor key asked now).refill
        now).grants 0 = true
  · rw [if_pos (hAllowed.mpr hGranted), if_pos hGranted,
      List.count_append, List.count_singleton,
      List.count_cons]
    have hSame :
        ((key, asked) == (key, endpoint)) =
          (asked == endpoint) := by
      simp
    rw [hSame]
    omega
  · rw [if_neg (mt hAllowed.mp hGranted), if_neg hGranted]

/- A request of another key does not matter. -/
theorem count_step_other
    (now : Timespec)
    (history : EndpointHistory)
    {key other : String}
    (hOther : other ≠ key)
    (asked endpoint : Option String)
    (rest : List (String × Option String)) :
    (history.step now (other, asked)).allowed.count
          (key, endpoint) +
        ((history.step now (other, asked)).limiter.granted key
          now rest).count endpoint =
      history.allowed.count (key, endpoint) +
        (history.limiter.granted key now
          ((other, asked) :: rest)).count endpoint := by
  obtain ⟨_, hLimiter⟩ :=
    history.limiter.check_eq other asked now
  have hLater :
      (history.step now (other, asked)).limiter.granted key
          now rest =
        history.limiter.granted key now
          ((other, asked) :: rest) := by
    change
      (history.limiter.check other asked now
        now).2.granted key now rest = _
    have hBucket :
        (history.limiter.check other asked now
            now).2.buckets.lookup key =
          history.limiter.buckets.lookup key := by
      rw [hLimiter]
      exact Finmap.lookup_insert_of_ne _ hOther.symm
    have hConfig :
        (history.limiter.check other asked now
            now).2.configFor =
          history.limiter.configFor := by
      rw [hLimiter]
      rfl
    rw [RateLimiter.granted_congr hBucket hConfig]
    unfold RateLimiter.granted
    rw [RateLimiter.endpointsOf_cons_of_ne hOther]
  rw [hLater]
  congr 1
  unfold step
  dsimp only
  split
  · have hPair : (other, asked) ≠ (key, endpoint) := by
      intro hEq
      exact hOther (Prod.ext_iff.mp hEq).1
    rw [List.count_append, List.count_singleton,
      if_neg (by simpa using hPair), Nat.add_zero]
  · rfl

/-
  While no time passes, the allowed requests of a key are
  those at the positions that its bucket grants.
-/
theorem count_allowed_run
    (now : Timespec)
    (history : EndpointHistory)
    (requests : List (String × Option String))
    (key : String)
    (endpoint : Option String) :
    (Runs.run (step now) history requests).allowed.count
        (key, endpoint) =
      history.allowed.count (key, endpoint) +
        (history.limiter.granted key now requests).count
          endpoint := by
  induction requests generalizing history with
  | nil => rfl
  | cons request rest ih =>
      rw [Runs.run_cons, ih]
      obtain ⟨other, asked⟩ := request
      by_cases hKey : other = key
      · subst hKey
        exact
          count_step_self now history other asked endpoint rest
      · exact
          count_step_other now history hKey asked endpoint rest

/-
  While no time passes, a key gets no more requests to an
  endpoint allowed than its configuration says exactly when
  no more of those are at positions that the bucket of the
  key grants.
-/
theorem allowed_le_iff
    (limiter : RateLimiter)
    (now : Timespec)
    (requests : List (String × Option String))
    (key : String)
    (endpoint : Option String) :
    (Runs.run (step now) (start limiter)
          requests).allowed.count (key, endpoint) ≤
        (limiter.configFor endpoint).maxTokens.toNat ↔
      (limiter.granted key now requests).count endpoint ≤
        (limiter.configFor endpoint).maxTokens.toNat := by
  rw [count_allowed_run]
  change 0 + _ ≤ _ ↔ _
  rw [Nat.zero_add]
  rfl

/- A stricter limit for one endpoint. -/
def sampleLimiter : RateLimiter :=
  (RateLimiter.new RateLimitConfig.default).setEndpointLimit
    "/api/expensive" ⟨2, F32.ofRat (1 / 10), 60⟩

/-
  The stricter limit does not bind after a request to an
  endpoint without one.
-/
theorem allowed_le_expensive :
    ¬ ((Runs.run (step ⟨0, by decide⟩) (start sampleLimiter)
          [("user-1", some "/api/normal"),
            ("user-1", some "/api/expensive"),
            ("user-1", some "/api/expensive"),
            ("user-1",
              some "/api/expensive")]).allowed.count
          ("user-1", some "/api/expensive") ≤
        (sampleLimiter.configFor
          (some "/api/expensive")).maxTokens.toNat) := by
  decide +kernel

end EndpointHistory

end IsaWorkspace
