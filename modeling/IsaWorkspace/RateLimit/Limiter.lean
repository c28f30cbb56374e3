import IsaWorkspace.Foundations.HashMap
import IsaWorkspace.Foundations.SinglePrecision
import Mathlib.Data.String.Basic

/-
  Rate limits on requests.

  A token bucket holds single-precision tokens, which flow
  in with time and of which each request takes one.  The
  rate limiter has a bucket for each key.  The alternative
  is a sliding window, which keeps the times of the requests
  that it allowed.

  Readings of the monotonic clock are arguments, one for
  each reading of the source.

  Main declarations:
    * `Duration`, `Timespec`
    * `RateLimitConfig`, `RateLimitResult`
    * `TokenBucket`, `RateLimiter.check`
    * `RateLimiter.getStatus`, `reset`, `remove`, `cleanup`
    * `SlidingWindowLimiter.check`
-/

------------------------------------------------------------
-- Time
------------------------------------------------------------

namespace IsaWorkspace

/- A duration in nanoseconds, of seconds in a word. -/
structure Duration where
  nanos : Nat
  inRange : nanos < 2 ^ 64 * 10 ^ 9
deriving DecidableEq

/-
  An instant of the monotonic clock in nanoseconds, of
  seconds in a signed word.
-/
structure Timespec where
  nanos : Int
  inRange :
    -(2 ^ 63 * 10 ^ 9) ≤ nanos ∧ nanos < 2 ^ 63 * 10 ^ 9
deriving DecidableEq

namespace Duration

def zero : Duration :=
  ⟨0, by decide⟩

/- A duration of whole seconds. -/
def fromSecs
    (secs : UInt64) : Duration where
  nanos := secs.toNat * 10 ^ 9
  inRange :=
    Nat.mul_lt_mul_of_pos_right secs.toNat_lt (by decide)

/- The seconds and their fraction, each rounded. -/
def asSecsF32
    (duration : Duration) : F32 :=
  (F32.ofNat (duration.nanos / 10 ^ 9)).add
    ((F32.ofNat (duration.nanos % 10 ^ 9)).div
      (F32.ofNat (10 ^ 9)))

/-
  The nearest number of nanoseconds; `none` is the panic on
  a negative number, no number, or one out of range.
-/
def fromSecsF32 : F32 → Option Duration
| .finite value _ =>
    let nanos := (roundHalfEven (value * 10 ^ 9)).toNat
    if value < 0 then
      none
    else if hRange : nanos < 2 ^ 64 * 10 ^ 9 then
      some ⟨nanos, hRange⟩
    else
      none
| _ => none

end Duration

namespace Timespec

instance : LE Timespec where
  le earlier later := earlier.nanos ≤ later.nanos

instance
    (earlier later : Timespec) :
    Decidable (earlier ≤ later) :=
  inferInstanceAs
    (Decidable (earlier.nanos ≤ later.nanos))

instance : LT Timespec where
  lt earlier later := earlier.nanos < later.nanos

instance
    (earlier later : Timespec) :
    Decidable (earlier < later) :=
  inferInstanceAs
    (Decidable (earlier.nanos < later.nanos))

/- The instant of a nanosecond count, if it is in range. -/
def ofNanos?
    (nanos : Int) : Option Timespec :=
  if hRange :
      -(2 ^ 63 * 10 ^ 9) ≤ nanos ∧
        nanos < 2 ^ 63 * 10 ^ 9 then
    some ⟨nanos, hRange⟩
  else
    none

/- An instant later by a duration; `none` is a panic. -/
def add
    (instant : Timespec)
    (duration : Duration) : Option Timespec :=
  ofNanos? (instant.nanos + duration.nanos)

/- An instant earlier by a duration; `none` is a panic. -/
def sub
    (instant : Timespec)
    (duration : Duration) : Option Timespec :=
  ofNanos? (instant.nanos - duration.nanos)

/- The time since an instant, and zero before it. -/
def durationSince
    (instant earlier : Timespec) : Duration where
  nanos := (instant.nanos - earlier.nanos).toNat
  inRange := by
    have hEarlier := earlier.inRange
    have hInstant := instant.inRange
    omega

end Timespec

end IsaWorkspace

------------------------------------------------------------
-- Results
------------------------------------------------------------

namespace IsaWorkspace

/- Rate limit configuration. -/
structure RateLimitConfig where
  maxTokens : UInt32
  refillRate : F32
  windowSecs : UInt64
deriving DecidableEq

def RateLimitConfig.default : RateLimitConfig where
  maxTokens := 100
  refillRate := F32.ofRat 10
  windowSecs := 60

/- Rate limit check result. -/
inductive RateLimitResult where
  | allowed
  | limited
      (retryAfter : Duration) (limit remaining : UInt32)
deriving DecidableEq

/- Rate limit status. -/
structure LimitStatus where
  limit : UInt32
  remaining : UInt32
  reset : Duration
deriving DecidableEq

end IsaWorkspace

------------------------------------------------------------
-- Token Buckets
------------------------------------------------------------

namespace IsaWorkspace

/- Token bucket for rate limiting. -/
structure TokenBucket where
  maxTokens : UInt32
  tokens : F32
  lastRefill : Timespec
  refillRate : F32
deriving DecidableEq

namespace TokenBucket

/- A full bucket. -/
def new
    (maxTokens : UInt32)
    (refillRate : F32)
    (now : Timespec) : TokenBucket where
  maxTokens := maxTokens
  tokens := F32.ofNat maxTokens.toNat
  lastRefill := now
  refillRate := refillRate

/- Refill tokens based on elapsed time. -/
def refill
    (now : Timespec)
    (bucket : TokenBucket) : TokenBucket :=
  let elapsed := (now.durationSince bucket.lastRefill).asSecsF32
  let newTokens := elapsed.mul bucket.refillRate
  { bucket with
    tokens :=
      (bucket.tokens.add newTokens).min
        (F32.ofNat bucket.maxTokens.toNat)
    lastRefill := now }

/- Try to consume tokens. -/
def tryConsume
    (tokens : UInt32)
    (now : Timespec)
    (bucket : TokenBucket) : Bool × TokenBucket :=
  let bucket := bucket.refill now
  let wanted := F32.ofNat tokens.toNat
  if wanted.le bucket.tokens then
    (true, { bucket with tokens := bucket.tokens.sub wanted })
  else
    (false, bucket)

/- Get current token count. -/
def currentTokens
    (bucket : TokenBucket) : UInt32 :=
  bucket.tokens.toU32

/- Get time until next token; `none` is a panic. -/
def timeUntilToken
    (bucket : TokenBucket) : Option Duration :=
  if (F32.ofNat 1).le bucket.tokens then
    some Duration.zero
  else
    let needed := (F32.ofNat 1).sub bucket.tokens
    let secs := needed.div bucket.refillRate
    Duration.fromSecsF32 secs

end TokenBucket

/- Rate limiter with per-key buckets. -/
structure RateLimiter where
  defaultConfig : RateLimitConfig
  buckets : HashMap String TokenBucket
  endpointConfigs : HashMap String RateLimitConfig
deriving DecidableEq

namespace RateLimiter

def new
    (defaultConfig : RateLimitConfig) : RateLimiter where
  defaultConfig := defaultConfig
  buckets := ∅
  endpointConfigs := ∅

/- Set rate limit for a specific endpoint. -/
def setEndpointLimit
    (endpoint : String)
    (config : RateLimitConfig)
    (limiter : RateLimiter) : RateLimiter :=
  { limiter with
    endpointConfigs :=
      limiter.endpointConfigs.insert endpoint config }

/- Get config for endpoint or default. -/
def configFor
    (limiter : RateLimiter) :
    Option String → RateLimitConfig
| some endpoint =>
    (limiter.endpointConfigs.lookup endpoint).getD
      limiter.defaultConfig
| none => limiter.defaultConfig

/-
  Check if request is allowed; `none` is a panic.  A bucket
  that is missing is created, by a clock reading of its own.
-/
def check
    (key : String)
    (endpoint : Option String)
    (created now : Timespec)
    (limiter : RateLimiter) :
    Option RateLimitResult × RateLimiter :=
  let config := limiter.configFor endpoint
  let found :=
    (limiter.buckets.lookup key).getD
      (TokenBucket.new config.maxTokens config.refillRate
        created)
  let consumed := found.tryConsume 1 now
  let bucket := consumed.2
  let limiter :=
    { limiter with
      buckets := limiter.buckets.insert key bucket }
  if consumed.1 then
    (some .allowed, limiter)
  else
    (bucket.timeUntilToken.map fun retryAfter =>
        .limited retryAfter config.maxTokens
          bucket.currentTokens,
      limiter)

/- Get current limit status for a key; `none` is a panic. -/
def getStatus
    (key : String)
    (limiter : RateLimiter) : Option (Option LimitStatus) :=
  match limiter.buckets.lookup key with
  | none => some none
  | some bucket =>
      bucket.timeUntilToken.map fun reset =>
        some
          { limit := bucket.maxTokens
            remaining := bucket.currentTokens
            reset := reset }

/- Reset limit for a key. -/
def reset
    (key : String)
    (now : Timespec)
    (limiter : RateLimiter) : RateLimiter :=
  match limiter.buckets.lookup key with
  | none => limiter
  | some bucket =>
      { limiter with
        buckets :=
          limiter.buckets.insert key
            { bucket with
              tokens := F32.ofNat bucket.maxTokens.toNat
              lastRefill := now } }

/- Remove limit for a key. -/
def remove
    (key : String)
    (limiter : RateLimiter) : RateLimiter :=
  { limiter with buckets := limiter.buckets.erase key }

/- Cleanup old buckets. -/
def cleanup
    (maxAge : Duration)
    (now : Timespec)
    (limiter : RateLimiter) : RateLimiter :=
  { limiter with
    buckets :=
      limiter.buckets.retain fun _ bucket =>
        decide
          ((now.durationSince bucket.lastRefill).nanos <
            maxAge.nanos) }

end RateLimiter

end IsaWorkspace

------------------------------------------------------------
-- Sliding Windows
------------------------------------------------------------

namespace IsaWorkspace

/- Sliding window rate limiter. -/
structure SlidingWindowLimiter where
  windowSecs : UInt64
  maxRequests : UInt32
  requests : HashMap String (List Timespec)
deriving DecidableEq

namespace SlidingWindowLimiter

def new
    (windowSecs : UInt64)
    (maxRequests : UInt32) : SlidingWindowLimiter where
  windowSecs := windowSecs
  maxRequests := maxRequests
  requests := ∅

/-
  Check if a request is allowed; `none` is a panic, and one
  at the start of the window leaves the requests alone.
-/
def check
    (key : String)
    (now : Timespec)
    (limiter : SlidingWindowLimiter) :
    Option RateLimitResult × SlidingWindowLimiter :=
  let window := Duration.fromSecs limiter.windowSecs
  match now.sub window with
  | none => (none, limiter)
  | some windowStart =>
      -- Remove old timestamps.
      let timestamps :=
        ((limiter.requests.lookup key).getD []).dropWhile
          fun timestamp => decide (timestamp < windowStart)
      let store (kept : List Timespec) :=
        { limiter with
          requests := limiter.requests.insert key kept }
      if timestamps.length < limiter.maxRequests.toNat then
        (some .allowed, store (timestamps ++ [now]))
      else
        let retryAfter :=
          timestamps.head?.bind fun oldest =>
            (oldest.add window).map fun expiry =>
              expiry.durationSince now
        (retryAfter.map fun retryAfter =>
            .limited retryAfter limiter.maxRequests 0,
          store timestamps)

end SlidingWindowLimiter

end IsaWorkspace
