import IsaWorkspace.RateLimit.ExactBucket

/-
  The rate limiter with exact numbers.

  It is the limiter of the source over buckets that round
  nothing, together with the cleanup of idle buckets.  What
  a bucket answers to calls for one token follows from its
  level, the tokens that it has after a refill.

  Main declarations:
    * `ExactLimiter`, `ExactLimiter.check`, `cleanup`
    * `LimiterCall`, `ExactLimiter.step`
    * `ExactLimiter.CleanupHarmless`
    * `ExactBucket.level`, `ExactBucket.consume`
    * `ExactBucket.tryConsume_iterate`, `consume_iterate`
    * `ExactBucket.level_emptied`, `full_of_idle`
-/

------------------------------------------------------------
-- The Limiter
------------------------------------------------------------

namespace IsaWorkspace

/- The time in seconds. -/
def Duration.asSecs
    (duration : Duration) : Rat :=
  duration.nanos / 10 ^ 9

theorem Duration.asSecs_nonneg
    (duration : Duration) :
    0 ≤ duration.asSecs :=
  div_nonneg (Nat.cast_nonneg _) (by decide +kernel)

/- Rate limit configuration, without rounding. -/
@[ext]
structure ExactConfig where
  maxTokens : UInt32
  refillRate : Rat
deriving DecidableEq

/- Rate limiter with per-key buckets, without rounding. -/
structure ExactLimiter where
  defaultConfig : ExactConfig
  buckets : HashMap String ExactBucket
  endpointConfigs : HashMap String ExactConfig

namespace ExactLimiter

/- A limiter that no key has asked yet. -/
def new
    (defaultConfig : ExactConfig)
    (endpointConfigs : HashMap String ExactConfig) :
    ExactLimiter where
  defaultConfig := defaultConfig
  buckets := ∅
  endpointConfigs := endpointConfigs

/- Get config for endpoint or default. -/
def configFor
    (limiter : ExactLimiter) :
    Option String → ExactConfig
| some endpoint =>
    (limiter.endpointConfigs.lookup endpoint).getD
      limiter.defaultConfig
| none => limiter.defaultConfig

/- Get or create bucket. -/
def bucketFor
    (key : String)
    (endpoint : Option String)
    (created : Rat)
    (limiter : ExactLimiter) : ExactBucket :=
  let config := limiter.configFor endpoint
  (limiter.buckets.lookup key).getD
    (ExactBucket.new config.maxTokens config.refillRate
      created)

/- Check if request is allowed. -/
def check
    (key : String)
    (endpoint : Option String)
    (created now : Rat)
    (limiter : ExactLimiter) : Bool × ExactLimiter :=
  let consumed :=
    (limiter.bucketFor key endpoint created).tryConsume 1 now
  (consumed.1,
    { limiter with
      buckets := limiter.buckets.insert key consumed.2 })

/- Cleanup old buckets. -/
def cleanup
    (maxAge : Duration)
    (now : Rat)
    (limiter : ExactLimiter) : ExactLimiter :=
  { limiter with
    buckets :=
      limiter.buckets.retain fun _ bucket =>
        decide
          (max 0 (now - bucket.lastRefill) <
            maxAge.asSecs) }

end ExactLimiter

------------------------------------------------------------
-- Runs of Calls
------------------------------------------------------------

/- A call on the limiter, with its readings of the clock. -/
inductive LimiterCall where
  | check
      (key : String) (endpoint : Option String)
      (created now : Rat)
  | cleanup (now : Rat)
deriving DecidableEq

namespace LimiterCall

/- The first reading of the clock. -/
def first : LimiterCall → Rat
| .check _ _ created _ => created
| .cleanup now => now

/- The last reading of the clock. -/
def last : LimiterCall → Rat
| .check _ _ _ now => now
| .cleanup now => now

def isCheck : LimiterCall → Bool
| .check _ _ _ _ => true
| .cleanup _ => false

/- The clock does not go back, within calls and between. -/
def InOrder
    (calls : List LimiterCall) : Prop :=
  (∀ call ∈ calls, call.first ≤ call.last) ∧
    calls.Pairwise fun earlier later =>
      earlier.last ≤ later.first

instance
    (calls : List LimiterCall) :
    Decidable (InOrder calls) :=
  inferInstanceAs (Decidable (_ ∧ _))

end LimiterCall

namespace ExactLimiter

def step
    (maxAge : Duration)
    (limiter : ExactLimiter) : LimiterCall → ExactLimiter
| .check key endpoint created now =>
    (limiter.check key endpoint created now).2
| .cleanup now => limiter.cleanup maxAge now

/-
  In every run, a check that is allowed after cleanups is
  allowed as well without them.
-/
def CleanupHarmless
    (maxAge : Duration)
    (limiter : ExactLimiter) : Prop :=
  ∀ calls key endpoint created now,
    LimiterCall.InOrder
        (calls ++ [.check key endpoint created now]) →
      ((Runs.run (step maxAge) limiter calls).check key
          endpoint created now).1 = true →
        ((Runs.run (step maxAge) limiter
            (calls.filter LimiterCall.isCheck)).check key
          endpoint created now).1 = true

/- A bucket stays if it was refilled within the age. -/
theorem lookup_cleanup
    {maxAge : Duration}
    {now : Rat}
    {limiter : ExactLimiter}
    {key : String}
    {bucket : ExactBucket} :
    (limiter.cleanup maxAge now).buckets.lookup key =
        some bucket ↔
      limiter.buckets.lookup key = some bucket ∧
        max 0 (now - bucket.lastRefill) < maxAge.asSecs := by
  unfold cleanup
  dsimp only
  rw [HashMap.lookup_retain, decide_eq_true_iff]

/- The configurations stay what they are. -/
def HasConfigs
    (start limiter : ExactLimiter) : Prop :=
  ∀ endpoint,
    limiter.configFor endpoint = start.configFor endpoint

theorem hasConfigs_step
    (maxAge : Duration)
    (start limiter : ExactLimiter)
    (call : LimiterCall)
    (hConfigs : HasConfigs start limiter) :
    HasConfigs start (limiter.step maxAge call) := by
  cases call with
  | check key endpoint created now => exact hConfigs
  | cleanup now => exact hConfigs

/- The readings of a longer run are in order before. -/
theorem inOrder_append
    {earlier later : List LimiterCall} :
    LimiterCall.InOrder (earlier ++ later) ↔
      LimiterCall.InOrder earlier ∧
        LimiterCall.InOrder later ∧
          ∀ call ∈ earlier, ∀ next ∈ later,
            call.last ≤ next.first := by
  unfold LimiterCall.InOrder
  rw [List.forall_mem_append, List.pairwise_append]
  tauto

end ExactLimiter

------------------------------------------------------------
-- Checks in a Row
------------------------------------------------------------

namespace ExactBucket

/- The tokens after a refill. -/
def level
    (bucket : ExactBucket)
    (now : Rat) : Rat :=
  (bucket.refill now).tokens

/- What a call for one token leaves. -/
def consume
    (now : Rat)
    (bucket : ExactBucket) : ExactBucket :=
  (bucket.tryConsume 1 now).2

theorem tryConsume_one_iff
    (bucket : ExactBucket)
    (now : Rat) :
    (bucket.tryConsume 1 now).1 = true ↔
      1 ≤ bucket.level now := by
  have hOne : ((1 : UInt32).toNat : Rat) = 1 := Nat.cast_one
  unfold tryConsume level
  dsimp only
  rw [hOne]
  split
  · next hEnough => exact iff_of_true rfl hEnough
  · next hShort => exact iff_of_false nofun hShort

/- A call leaves the refilled bucket, less the token. -/
theorem consume_eq
    (bucket : ExactBucket)
    (now : Rat) :
    bucket.consume now =
      { bucket.refill now with
        tokens :=
          if 1 ≤ bucket.level now then bucket.level now - 1
          else bucket.level now } := by
  have hOne : ((1 : UInt32).toNat : Rat) = 1 := Nat.cast_one
  unfold consume tryConsume level
  dsimp only
  rw [hOne]
  split
  · rfl
  · rfl

/- A refill fills up to the maximum. -/
theorem level_le
    (bucket : ExactBucket)
    (now : Rat) :
    bucket.level now ≤ bucket.maxTokens.toNat :=
  min_le_right _ _

/- A refill at the time of the last one adds nothing. -/
theorem refill_lastRefill
    {bucket : ExactBucket}
    (hTokens : bucket.tokens ≤ bucket.maxTokens.toNat) :
    bucket.refill bucket.lastRefill = bucket := by
  unfold refill
  dsimp only
  rw [sub_self, max_self, zero_mul, add_zero,
    min_eq_left hTokens]

theorem refill_consume
    (bucket : ExactBucket)
    (now : Rat) :
    (bucket.consume now).refill now =
      bucket.consume now := by
  have hLevel := bucket.level_le now
  rw [consume_eq]
  apply refill_lastRefill
  change (if _ then _ else _) ≤ (bucket.maxTokens.toNat : Rat)
  split
  · linarith
  · exact hLevel

@[simp] theorem maxTokens_consume
    (bucket : ExactBucket)
    (now : Rat) :
    (bucket.consume now).maxTokens = bucket.maxTokens :=
  (bucket.tryConsume_spec 1 now).maxTokens

/- The tokens are the refilled ones, less the token. -/
theorem level_consume
    (bucket : ExactBucket)
    (now : Rat) :
    (bucket.consume now).level now =
      if 1 ≤ bucket.level now then bucket.level now - 1
      else bucket.level now := by
  unfold level
  rw [refill_consume, consume_eq]
  rfl

/- A token is there for as many calls as there are tokens. -/
theorem tryConsume_iterate
    (bucket : ExactBucket)
    (now : Rat)
    (count : Nat) :
    (((consume now)^[count] bucket).tryConsume 1 now).1 =
        true ↔
      (count + 1 : Rat) ≤ bucket.level now := by
  induction count generalizing bucket with
  | zero =>
      rw [Function.iterate_zero_apply, tryConsume_one_iff,
        Nat.cast_zero, zero_add]
  | succ count ih =>
      rw [Function.iterate_succ_apply, ih, level_consume]
      push_cast
      have hCount : (0 : Rat) ≤ count := Nat.cast_nonneg _
      split
      · constructor
        · intro hEnough
          linarith
        · intro hEnough
          linarith
      · next hShort =>
          rw [not_le] at hShort
          constructor
          · intro hEnough
            linarith
          · intro hEnough
            linarith

theorem one_le_level_iterate
    (bucket : ExactBucket)
    (now : Rat)
    (count : Nat) :
    1 ≤ ((consume now)^[count] bucket).level now ↔
      (count + 1 : Rat) ≤ bucket.level now :=
  (tryConsume_one_iff _ now).symm.trans
    (bucket.tryConsume_iterate now count)

/- What so many calls leave, where there is enough. -/
theorem consume_iterate
    (bucket : ExactBucket)
    (now : Rat)
    (count : Nat)
    (hEnough : (count + 1 : Rat) ≤ bucket.level now) :
    (consume now)^[count + 1] bucket =
      { bucket.refill now with
        tokens := bucket.level now - (count + 1) } := by
  induction count generalizing bucket with
  | zero =>
      rw [Nat.cast_zero, zero_add] at hEnough
      rw [Function.iterate_one, consume_eq,
        if_pos hEnough, Nat.cast_zero, zero_add]
  | succ count ih =>
      push_cast at hEnough
      have hCount : (0 : Rat) ≤ count := Nat.cast_nonneg _
      have hOne : 1 ≤ bucket.level now := by linarith
      have hLevel := level_consume bucket now
      rw [if_pos hOne] at hLevel
      have hRest :
          (count + 1 : Rat) ≤
            (bucket.consume now).level now := by
        linarith
      rw [Function.iterate_succ_apply, ih _ hRest,
        refill_consume, hLevel, consume_eq]
      push_cast
      rw [sub_sub, add_comm (1 : Rat)]

/- A call sees a bucket only through its refill. -/
theorem tryConsume_congr
    {bucket other : ExactBucket}
    {now : Rat}
    (hRefill : bucket.refill now = other.refill now)
    (tokens : UInt32) :
    bucket.tryConsume tokens now =
      other.tryConsume tokens now := by
  unfold tryConsume
  rw [hRefill]

/- What a rate that is not negative fills stays full. -/
theorem level_mono
    {bucket : ExactBucket}
    (hRate : 0 ≤ bucket.refillRate)
    {earlier later : Rat}
    (hLater : earlier ≤ later) :
    bucket.level earlier ≤ bucket.level later := by
  have hElapsed :
      max 0 (earlier - bucket.lastRefill) ≤
        max 0 (later - bucket.lastRefill) :=
    max_le_max_left 0 (sub_le_sub_right hLater _)
  have hRefilled :=
    mul_le_mul_of_nonneg_right hElapsed hRate
  exact
    min_le_min_right _
      (add_le_add_right hRefilled bucket.tokens)

/- A new bucket is full at any time. -/
theorem level_new
    (maxTokens : UInt32)
    {refillRate : Rat}
    (hRate : 0 ≤ refillRate)
    (created now : Rat) :
    (new maxTokens refillRate created).level now =
      maxTokens.toNat := by
  apply min_eq_right
  change
    (maxTokens.toNat : Rat) ≤
      maxTokens.toNat + max 0 (now - created) * refillRate
  exact
    le_add_of_nonneg_right
      (mul_nonneg (le_max_left _ _) hRate)

/- It is full when it is made, whatever its rate. -/
theorem level_new_created
    (maxTokens : UInt32)
    (refillRate created : Rat) :
    (new maxTokens refillRate created).level created =
      maxTokens.toNat := by
  have hRefill :
      (new maxTokens refillRate created).refill created =
        new maxTokens refillRate created :=
    refill_lastRefill le_rfl
  unfold level
  rw [hRefill]
  rfl

/- What has flowed into a bucket that was emptied. -/
theorem level_emptied
    {bucket : ExactBucket}
    {now later : Rat}
    (hSome : 1 ≤ bucket.maxTokens.toNat)
    (hFull : bucket.maxTokens.toNat ≤ bucket.level now)
    (hLater : now ≤ later) :
    ((consume now)^[bucket.maxTokens.toNat]
        bucket).level later =
      min ((later - now) * bucket.refillRate)
        bucket.maxTokens.toNat := by
  obtain ⟨count, hCount⟩ := Nat.exists_eq_add_of_le' hSome
  have hTokens := le_antisymm (bucket.level_le now) hFull
  rw [hCount] at hTokens
  push_cast at hTokens
  rw [hCount,
    consume_iterate bucket now count hTokens.symm.le,
    hTokens, sub_self]
  change
    min (0 + max 0 (later - now) * bucket.refillRate)
        (bucket.maxTokens.toNat : Rat) =
      _
  rw [zero_add, max_eq_right (sub_nonneg.mpr hLater),
    hCount]

/- Two full buckets with the same settings are the same. -/
theorem refill_eq_of_full
    {bucket other : ExactBucket}
    {now : Rat}
    (hMaximum : bucket.maxTokens = other.maxTokens)
    (hRate : bucket.refillRate = other.refillRate)
    (hFull : bucket.maxTokens.toNat ≤ bucket.level now)
    (hOther : other.maxTokens.toNat ≤ other.level now) :
    bucket.refill now = other.refill now := by
  have hTokens := le_antisymm (bucket.level_le now) hFull
  have hOtherTokens := le_antisymm (other.level_le now) hOther
  have hSame :
      (bucket.refill now).tokens =
        (other.refill now).tokens := by
    change bucket.level now = other.level now
    rw [hTokens, hOtherTokens, hMaximum]
  have hLeft :
      bucket.refill now =
        { bucket with
          tokens := (bucket.refill now).tokens
          lastRefill := now } := rfl
  rw [hLeft, hSame, hMaximum, hRate]
  rfl

/- A bucket that is idle for the age has been filled. -/
theorem full_of_idle
    {bucket : ExactBucket}
    {maxAge : Duration}
    {now : Rat}
    (hTokens : 0 ≤ bucket.tokens)
    (hRate : 0 ≤ bucket.refillRate)
    (hFills :
      (bucket.maxTokens.toNat : Rat) ≤
        bucket.refillRate * maxAge.asSecs)
    (hIdle :
      maxAge.asSecs ≤ max 0 (now - bucket.lastRefill)) :
    bucket.maxTokens.toNat ≤ bucket.level now := by
  apply le_min
  · calc (bucket.maxTokens.toNat : Rat)
        ≤ bucket.refillRate * maxAge.asSecs := hFills
      _ ≤ bucket.refillRate *
            max 0 (now - bucket.lastRefill) :=
          mul_le_mul_of_nonneg_left hIdle hRate
      _ = max 0 (now - bucket.lastRefill) *
            bucket.refillRate := mul_comm _ _
      _ ≤ bucket.tokens +
            max 0 (now - bucket.lastRefill) *
              bucket.refillRate :=
          le_add_of_nonneg_left hTokens
  · exact le_rfl

/- A bucket that was asked at zero is full at the age. -/
theorem full_consume
    {bucket : ExactBucket}
    {maxAge : Duration}
    (hTokens : 0 ≤ bucket.tokens)
    (hRate : 0 ≤ bucket.refillRate)
    (hFills :
      (bucket.maxTokens.toNat : Rat) ≤
        bucket.refillRate * maxAge.asSecs) :
    ((bucket.consume 0).maxTokens.toNat : Rat) ≤
      (bucket.consume 0).level maxAge.asSecs := by
  have hSpec := bucket.tryConsume_spec 1 0
  have hCapacity :=
    inCapacity_tryConsume 1 0 hRate hTokens
  have hMaximum :
      (bucket.consume 0).maxTokens = bucket.maxTokens :=
    hSpec.maxTokens
  have hRefill :
      (bucket.consume 0).refillRate = bucket.refillRate :=
    hSpec.refillRate
  have hLast : (bucket.consume 0).lastRefill = 0 :=
    hSpec.lastRefill
  have hAge :
      maxAge.asSecs ≤
        max 0
          (maxAge.asSecs - (bucket.consume 0).lastRefill) := by
    rw [hLast, sub_zero]
    exact le_max_right _ _
  rw [← hRefill] at hRate
  rw [← hRefill, ← hMaximum] at hFills
  exact full_of_idle hCapacity.1 hRate hFills hAge

/- It is emptied then, and fills up again. -/
theorem level_consume_emptied
    {bucket : ExactBucket}
    {later : Rat}
    {maxAge : Duration}
    (hTokens : 0 ≤ bucket.tokens)
    (hSome : 1 ≤ bucket.maxTokens.toNat)
    (hRate : 0 ≤ bucket.refillRate)
    (hFills :
      (bucket.maxTokens.toNat : Rat) ≤
        bucket.refillRate * maxAge.asSecs)
    (hLater : maxAge.asSecs ≤ later) :
    ((consume
        maxAge.asSecs)^[bucket.maxTokens.toNat]
        (bucket.consume 0)).level later =
      min ((later - maxAge.asSecs) * bucket.refillRate)
        bucket.maxTokens.toNat := by
  have hSpec := bucket.tryConsume_spec 1 0
  have hMaximum :
      (bucket.consume 0).maxTokens = bucket.maxTokens :=
    hSpec.maxTokens
  have hRefill :
      (bucket.consume 0).refillRate = bucket.refillRate :=
    hSpec.refillRate
  have hFull := full_consume hTokens hRate hFills
  have hSomeOf : 1 ≤ (bucket.consume 0).maxTokens.toNat := by
    rw [hMaximum]
    exact hSome
  have hLevel :=
    level_emptied hSomeOf hFull hLater
  rw [hMaximum, hRefill] at hLevel
  exact hLevel

end ExactBucket

end IsaWorkspace
