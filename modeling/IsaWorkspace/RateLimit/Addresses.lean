import IsaWorkspace.Foundations.Text
import IsaWorkspace.RateLimit.Endpoints

/-
  Rate limits of clients, by their keys and addresses.

  A key is answered as if no other key were used.  A client
  is limited by its address only as long as it cannot choose
  the address: proxy headers that are trusted let it be a
  new client with every request.

  Main declarations:
    * `RateLimitCall`, `RateLimiter.step`
    * `RateLimiter.observed_eq_answers`
    * `IpRateLimiter.extractIp`, `IpRateLimiter.check`
    * `IpRateLimiter.exists_forged`
    * `IpRateLimiter.limits_iff`
-/

------------------------------------------------------------
-- Calls on a Limiter
------------------------------------------------------------

namespace IsaWorkspace

/- A call on a limiter, with its readings of the clock. -/
inductive RateLimitCall where
  | check
      (key : String) (endpoint : Option String)
      (created now : Timespec)
  | setEndpointLimit
      (endpoint : String) (config : RateLimitConfig)
  | getStatus (key : String)
  | reset (key : String) (now : Timespec)
  | remove (key : String)
  | cleanup (maxAge : Duration) (now : Timespec)

/- What a call returns. -/
inductive RateLimitAnswer where
  | checked (result : Option RateLimitResult)
  | status (found : Option (Option LimitStatus))
  | done
deriving DecidableEq

namespace RateLimitCall

/- The key that a call names. -/
def key? : RateLimitCall → Option String
| check key _ _ _ => some key
| getStatus key => some key
| reset key _ => some key
| remove key => some key
| setEndpointLimit _ _ | cleanup _ _ => none

/- A call names the key, or it is about all keys. -/
def concerns
    (key : String)
    (call : RateLimitCall) : Bool :=
  match call.key? with
  | some named => decide (named = key)
  | none => true

end RateLimitCall

namespace RateLimiter

/- The limiter after a call. -/
def step
    (limiter : RateLimiter) : RateLimitCall → RateLimiter
| .check key endpoint created now =>
    (limiter.check key endpoint created now).2
| .setEndpointLimit endpoint config =>
    limiter.setEndpointLimit endpoint config
| .getStatus _ => limiter
| .reset key now => limiter.reset key now
| .remove key => limiter.remove key
| .cleanup maxAge now => limiter.cleanup maxAge now

/- What a call returns. -/
def answer
    (limiter : RateLimiter) : RateLimitCall → RateLimitAnswer
| .check key endpoint created now =>
    .checked (limiter.check key endpoint created now).1
| .getStatus key => .status (limiter.getStatus key)
| .setEndpointLimit _ _ | .reset _ _ | .remove _
| .cleanup _ _ => .done

------------------------------------------------------------
-- Keys Apart
------------------------------------------------------------

/- Two limiters do the same for a key. -/
structure Alike
    (key : String)
    (limiter other : RateLimiter) : Prop where
  defaultConfig : limiter.defaultConfig = other.defaultConfig
  endpointConfigs :
    limiter.endpointConfigs = other.endpointConfigs
  bucket :
    limiter.buckets.lookup key = other.buckets.lookup key

variable {key : String} {limiter other : RateLimiter}

theorem Alike.refl
    (key : String)
    (limiter : RateLimiter) :
    Alike key limiter limiter :=
  ⟨rfl, rfl, rfl⟩

theorem Alike.configFor
    (hAlike : Alike key limiter other)
    (endpoint : Option String) :
    limiter.configFor endpoint = other.configFor endpoint := by
  cases endpoint with
  | none => exact hAlike.defaultConfig
  | some endpoint =>
      unfold RateLimiter.configFor
      rw [hAlike.defaultConfig, hAlike.endpointConfigs]

/- A check enters one bucket, and changes nothing else. -/
theorem check_snd
    (limiter : RateLimiter)
    (key : String)
    (endpoint : Option String)
    (created now : Timespec) :
    (limiter.check key endpoint created now).2 =
      { limiter with
        buckets :=
          limiter.buckets.insert key
            ((limiter.bucketFor key endpoint
              created).tryConsume 1 now).2 } := by
  unfold check bucketFor
  dsimp only
  split <;> rfl

/- A call that names a key changes only its bucket. -/
theorem step_of_named
    {call : RateLimitCall}
    {named : String}
    (hNamed : call.key? = some named)
    (limiter : RateLimiter) :
    ∃ buckets,
      limiter.step call = { limiter with buckets } ∧
        ∀ other, other ≠ named →
          buckets.lookup other =
            limiter.buckets.lookup other := by
  cases call with
  | check key endpoint created now =>
      cases hNamed
      refine
        ⟨_, limiter.check_snd named endpoint created now, ?_⟩
      intro other hOther
      exact Finmap.lookup_insert_of_ne _ hOther
  | getStatus key =>
      exact ⟨limiter.buckets, rfl, fun other _ => rfl⟩
  | reset key now =>
      cases hNamed
      unfold step reset
      dsimp only
      cases limiter.buckets.lookup named with
      | none => exact ⟨limiter.buckets, rfl, fun _ _ => rfl⟩
      | some bucket =>
          refine ⟨_, rfl, ?_⟩
          intro other hOther
          exact Finmap.lookup_insert_of_ne _ hOther
  | remove key =>
      cases hNamed
      refine ⟨_, rfl, ?_⟩
      intro other hOther
      exact Finmap.lookup_erase_ne hOther
  | setEndpointLimit endpoint config => cases hNamed
  | cleanup maxAge now => cases hNamed

/- A call that names another key does not matter. -/
theorem Alike.step_of_not_concerns
    {call : RateLimitCall}
    (hAlike : Alike key limiter other)
    (hOther : call.concerns key = false) :
    Alike key (limiter.step call) other := by
  unfold RateLimitCall.concerns at hOther
  cases hNamed : call.key? with
  | none =>
      rw [hNamed] at hOther
      cases hOther
  | some named =>
      rw [hNamed] at hOther
      have hKey : key ≠ named := by
        intro hSame
        exact of_decide_eq_false hOther hSame.symm
      rcases step_of_named hNamed limiter with
        ⟨buckets, hStep, hKept⟩
      rw [hStep]
      exact
        ⟨hAlike.defaultConfig, hAlike.endpointConfigs,
          (hKept key hKey).trans hAlike.bucket⟩

/- What is read after a cut depends on what was there. -/
theorem lookup_retain_congr
    {buckets others : HashMap String TokenBucket}
    (hSame : buckets.lookup key = others.lookup key)
    (keep : String → TokenBucket → Bool) :
    (buckets.retain keep).lookup key =
      (others.retain keep).lookup key := by
  apply Option.ext
  intro bucket
  rw [HashMap.lookup_retain, HashMap.lookup_retain, hSame]

/- The same bucket is entered. -/
theorem Alike.insert
    (hAlike : Alike key limiter other)
    (bucket : TokenBucket) :
    Alike key
      { limiter with
        buckets := limiter.buckets.insert key bucket }
      { other with
        buckets := other.buckets.insert key bucket } where
  defaultConfig := hAlike.defaultConfig
  endpointConfigs := hAlike.endpointConfigs
  bucket := by
    dsimp only
    rw [Finmap.lookup_insert, Finmap.lookup_insert]

/- A check meets the same bucket. -/
theorem Alike.bucketFor
    (hAlike : Alike key limiter other)
    (endpoint : Option String)
    (created : Timespec) :
    limiter.bucketFor key endpoint created =
      other.bucketFor key endpoint created := by
  unfold RateLimiter.bucketFor
  rw [hAlike.bucket, hAlike.configFor endpoint]

/- What a check answers, by the bucket that it meets. -/
theorem Alike.check_fst
    (hAlike : Alike key limiter other)
    (endpoint : Option String)
    (created now : Timespec) :
    (limiter.check key endpoint created now).1 =
      (other.check key endpoint created now).1 := by
  unfold check
  rw [hAlike.bucket, hAlike.configFor endpoint]
  dsimp only
  split <;> rfl

/- A call that concerns the key does the same to both. -/
theorem Alike.step_of_concerns
    {call : RateLimitCall}
    (hAlike : Alike key limiter other)
    (hConcerns : call.concerns key = true) :
    limiter.answer call = other.answer call ∧
      Alike key (limiter.step call) (other.step call) := by
  cases call with
  | check named endpoint created now =>
      cases of_decide_eq_true hConcerns
      refine ⟨?_, ?_⟩
      · exact
          congrArg RateLimitAnswer.checked
            (hAlike.check_fst endpoint created now)
      · unfold step
        dsimp only
        rw [check_snd, check_snd,
          hAlike.bucketFor endpoint created]
        exact
          hAlike.insert
            ((other.bucketFor key endpoint
              created).tryConsume 1 now).2
  | getStatus named =>
      cases of_decide_eq_true hConcerns
      refine ⟨?_, hAlike⟩
      unfold answer getStatus
      dsimp only
      rw [hAlike.bucket]
  | reset named now =>
      cases of_decide_eq_true hConcerns
      refine ⟨rfl, ?_⟩
      unfold step reset
      dsimp only
      rw [← hAlike.bucket]
      cases limiter.buckets.lookup key with
      | none => exact hAlike
      | some bucket =>
          exact
            hAlike.insert
              { bucket with
                tokens := F32.ofNat bucket.maxTokens.toNat
                lastRefill := now }
  | remove named =>
      cases of_decide_eq_true hConcerns
      refine
        ⟨rfl, hAlike.defaultConfig, hAlike.endpointConfigs,
          ?_⟩
      change
        (limiter.buckets.erase key).lookup key =
          (other.buckets.erase key).lookup key
      rw [Finmap.lookup_erase, Finmap.lookup_erase]
  | setEndpointLimit endpoint config =>
      refine ⟨rfl, hAlike.defaultConfig, ?_, hAlike.bucket⟩
      exact
        congrArg (fun configs => configs.insert endpoint config)
          hAlike.endpointConfigs
  | cleanup maxAge now =>
      refine
        ⟨rfl, hAlike.defaultConfig, hAlike.endpointConfigs,
          ?_⟩
      exact lookup_retain_congr hAlike.bucket _

/-
  In every run of calls, what the limiter answers to those
  about a key is what it answers when they are the only
  ones: no use of other keys can be told from it.
-/
theorem observed_eq_answers
    (limiter : RateLimiter)
    (key : String)
    (calls : List RateLimitCall) :
    Runs.observed step answer (RateLimitCall.concerns key)
        limiter calls =
      Runs.answers step answer limiter
        (calls.filter (RateLimitCall.concerns key)) := by
  have hHidden :
      ∀ state other call, Alike key state other →
        RateLimitCall.concerns key call = false →
          Alike key (step state call) other :=
    fun state other call hAlike hOther =>
      hAlike.step_of_not_concerns hOther
  apply Runs.observed_eq_answers_filter hHidden
  · intro state other call hAlike hConcerns
    exact hAlike.step_of_concerns hConcerns
  · exact Alike.refl key limiter

end RateLimiter

end IsaWorkspace

------------------------------------------------------------
-- Addresses of Clients
------------------------------------------------------------

namespace IsaWorkspace

/- The headers of a request, by their names in lower case. -/
structure HeaderMap where
  entries : List (String × Bytes)

/- The first value of a header. -/
def HeaderMap.get
    (name : String)
    (headers : HeaderMap) : Option Bytes :=
  (headers.entries.find? fun entry =>
    decide (entry.1 = name)).map Prod.snd

/- A character that a header value has as text. -/
def isVisibleAscii
    (byte : UInt8) : Bool :=
  decide ((32 ≤ byte ∧ byte < 127) ∨ byte = 9)

/- The text of a header value, if it is all visible. -/
def headerToStr
    (value : Bytes) : Option (List Char) :=
  if value.all isVisibleAscii then
    some (value.map fun byte => Char.ofNat byte.toNat)
  else
    none

/- IP-based rate limiter. -/
structure IpRateLimiter where
  limiter : RateLimiter
  trustProxy : Bool
deriving DecidableEq

/- A request, with the readings of the clock. -/
structure IpRequest where
  headers : HeaderMap
  remoteAddr : String
  endpoint : Option String
  created : Timespec
  now : Timespec

namespace IpRateLimiter

def new
    (config : RateLimitConfig) : IpRateLimiter where
  limiter := RateLimiter.new config
  trustProxy := false

def withTrustedProxy
    (trust : Bool)
    (limiter : IpRateLimiter) : IpRateLimiter :=
  { limiter with trustProxy := trust }

/- Extract IP from request headers. -/
def extractIp
    (headers : HeaderMap)
    (remoteAddr : String)
    (limiter : IpRateLimiter) : String :=
  if limiter.trustProxy then
    match (headers.get "x-forwarded-for").bind
        headerToStr with
    | some forwarded =>
        -- First IP in the list is the client.
        String.ofList
          (Text.trim (forwarded.takeWhile fun char =>
            decide (char ≠ ',')))
    | none =>
        match (headers.get "x-real-ip").bind
            headerToStr with
        | some realIp => String.ofList (Text.trim realIp)
        | none => remoteAddr
  else
    remoteAddr

def check
    (ip : String)
    (endpoint : Option String)
    (created now : Timespec)
    (limiter : IpRateLimiter) :
    Option RateLimitResult × IpRateLimiter :=
  let checked :=
    limiter.limiter.check ip endpoint created now
  (checked.1, { limiter with limiter := checked.2 })

/- The address that a request is limited by. -/
def addressOf
    (limiter : IpRateLimiter)
    (request : IpRequest) : String :=
  limiter.extractIp request.headers request.remoteAddr

/- The limiter after a request. -/
def step
    (limiter : IpRateLimiter)
    (request : IpRequest) : IpRateLimiter :=
  (limiter.check (limiter.addressOf request)
    request.endpoint request.created request.now).2

/- Whether a request is allowed. -/
def allows
    (limiter : IpRateLimiter)
    (request : IpRequest) : Bool :=
  decide
    ((limiter.check (limiter.addressOf request)
        request.endpoint request.created request.now).1 =
      some .allowed)

/- A header that makes the client another one each time. -/
def forgedHeaders
    (number : Nat) : HeaderMap where
  entries :=
    [("x-forwarded-for", List.replicate (number + 1) 49)]

end IpRateLimiter

------------------------------------------------------------
-- New Buckets
------------------------------------------------------------

/- Time that has passed is not negative. -/
theorem Duration.notNegative_asSecsF32
    (duration : Duration) :
    duration.asSecsF32.NotNegative := by
  unfold Duration.asSecsF32
  apply F32.NotNegative.add (F32.notNegative_ofNat _)
  exact
    (F32.notNegative_ofNat _).div (F32.notNegative_ofNat _)

namespace TokenBucket

/- A new bucket is full whenever it is first asked. -/
theorem tokens_refill_new
    {refillRate : F32}
    (hRate : refillRate.NotNegative)
    (maxTokens : UInt32)
    (created now : Timespec) :
    ((new maxTokens refillRate created).refill now).tokens =
      F32.ofNat maxTokens.toNat := by
  obtain ⟨hSingle, hMax⟩ :=
    F32.ofNat_eq_finite maxTokens.toNat_lt
  have hNonneg : (F32.ofNat maxTokens.toNat).NotNegative :=
    F32.notNegative_ofNat _
  unfold refill new
  dsimp only
  rw [hMax] at hNonneg ⊢
  apply F32.min_add_of_notNegative hSingle hNonneg
  exact (Duration.notNegative_asSecsF32 _).mul hRate

/- A bucket for one token or more has one when it is new. -/
theorem one_le_ofNat
    {maxTokens : UInt32}
    (hTokens : 1 ≤ maxTokens.toNat) :
    (F32.ofNat 1).le (F32.ofNat maxTokens.toNat) = true := by
  obtain ⟨hSingle, hMax⟩ :=
    F32.ofNat_eq_finite maxTokens.toNat_lt
  rw [hMax, F32.ofNat_of_le (by norm_num)]
  have hOne : ((1 : Nat) : Rat) ≤ maxTokens.toNat := by
    exact_mod_cast hTokens
  apply decide_eq_true
  exact
    le_nearestSingle_of_form
      (F32.isSingle_natCast (by norm_num)).form
      (Nat.cast_nonneg 1) hOne

end TokenBucket

/- A key without a bucket is served, at whatever times. -/
theorem RateLimiter.check_of_lookup_none
    {limiter : RateLimiter}
    {key : String}
    {endpoint : Option String}
    (hNew : limiter.buckets.lookup key = none)
    (hTokens : 1 ≤ (limiter.configFor endpoint).maxTokens.toNat)
    (hRate :
      (limiter.configFor endpoint).refillRate.NotNegative)
    (created now : Timespec) :
    (limiter.check key endpoint created now).1 =
      some .allowed := by
  have hFull :=
    TokenBucket.tokens_refill_new hRate
      (limiter.configFor endpoint).maxTokens created now
  have hConsumed :
      ((TokenBucket.new
          (limiter.configFor endpoint).maxTokens
          (limiter.configFor endpoint).refillRate
          created).tryConsume 1 now).1 = true := by
    unfold TokenBucket.tryConsume
    dsimp only
    rw [hFull]
    have hOne := TokenBucket.one_le_ofNat hTokens
    split
    · rfl
    · next hRefused => exact absurd hOne hRefused
  unfold check
  dsimp only
  rw [hNew, Option.getD_none, if_pos hConsumed]

end IsaWorkspace

------------------------------------------------------------
-- Forged Addresses
------------------------------------------------------------

namespace IsaWorkspace

/- The request with other headers. -/
def IpRequest.withHeaders
    (request : IpRequest)
    (headers : HeaderMap) : IpRequest :=
  { request with headers := headers }

namespace IpRateLimiter

/- The address that forged headers name. -/
def forgedIp
    (number : Nat) : String :=
  String.ofList (List.replicate (number + 1) '1')

/- It has one configuration for all endpoints. -/
structure HasConfig
    (config : RateLimitConfig)
    (trust : Bool)
    (limiter : IpRateLimiter) : Prop where
  trustProxy : limiter.trustProxy = trust
  configFor :
    ∀ endpoint, limiter.limiter.configFor endpoint = config

variable {config : RateLimitConfig} {trust : Bool}
variable {limiter : IpRateLimiter} {request : IpRequest}

/- A request enters the bucket of its address. -/
theorem step_eq
    (limiter : IpRateLimiter)
    (request : IpRequest) :
    limiter.step request =
      { limiter with
        limiter :=
          { limiter.limiter with
            buckets :=
              limiter.limiter.buckets.insert
                (limiter.addressOf request)
                ((limiter.limiter.bucketFor
                  (limiter.addressOf request)
                  request.endpoint
                  request.created).tryConsume 1
                    request.now).2 } } := by
  unfold step check
  dsimp only
  rw [RateLimiter.check_snd]

theorem hasConfig_new
    (config : RateLimitConfig)
    (trust : Bool) :
    HasConfig config trust
      ((new config).withTrustedProxy trust) where
  trustProxy := rfl
  configFor endpoint := by
    cases endpoint with
    | none => rfl
    | some endpoint => rfl

theorem HasConfig.step
    (hConfig : HasConfig config trust limiter)
    (request : IpRequest) :
    HasConfig config trust (limiter.step request) := by
  rw [step_eq]
  exact ⟨hConfig.trustProxy, hConfig.configFor⟩

theorem HasConfig.run
    (hConfig : HasConfig config trust limiter)
    (requests : List IpRequest) :
    HasConfig config trust
      (Runs.run IpRateLimiter.step limiter requests) :=
  Runs.run_of_invariant
    (fun _ request hKept => hKept.step request) requests
    hConfig

/- From a number on, no forged address has a bucket. -/
def FreshFrom
    (number : Nat)
    (limiter : IpRateLimiter) : Prop :=
  ∀ later, number ≤ later →
    limiter.limiter.buckets.lookup (forgedIp later) = none

/- Addresses that are longer than all keys have none. -/
theorem exists_freshFrom
    (limiter : IpRateLimiter) :
    ∃ number, FreshFrom number limiter := by
  refine
    ⟨limiter.limiter.buckets.keys.sup String.length, ?_⟩
  intro later hLater
  rw [Finmap.lookup_eq_none, ← Finmap.mem_keys]
  intro hKey
  have hLength :
      (forgedIp later).length ≤
        limiter.limiter.buckets.keys.sup String.length :=
    Finset.le_sup hKey
  unfold forgedIp at hLength
  rw [String.length_ofList, List.length_replicate] at hLength
  omega

theorem forgedIp_injective :
    Function.Injective forgedIp := by
  intro first second hSame
  have hLength := congrArg String.length hSame
  unfold forgedIp at hLength
  rw [String.length_ofList, String.length_ofList,
    List.length_replicate, List.length_replicate] at hLength
  omega

/- Trusted headers name the client. -/
theorem extractIp_forged
    (hTrust : limiter.trustProxy = true)
    (number : Nat)
    (remoteAddr : String) :
    limiter.extractIp (forgedHeaders number) remoteAddr =
      forgedIp number := by
  have hValue :
      (forgedHeaders number).get "x-forwarded-for" =
        some (List.replicate (number + 1) 49) := rfl
  have hText :
      headerToStr (List.replicate (number + 1) 49) =
        some (List.replicate (number + 1) '1') := by
    unfold headerToStr
    rw [List.map_replicate, if_pos]
    · rfl
    · rw [List.all_replicate]
      rfl
  have hFirst :
      (List.replicate (number + 1) '1').takeWhile
          (fun char => decide (char ≠ ',')) =
        List.replicate (number + 1) '1' := by
    rw [List.takeWhile_replicate, if_pos (by decide)]
  have hTrimmed :
      Text.trim (List.replicate (number + 1) '1') =
        List.replicate (number + 1) '1' := by
    have hKept :
        (List.replicate (number + 1) '1').dropWhile
            Text.isWhitespace =
          List.replicate (number + 1) '1' := by
      rw [List.dropWhile_replicate, if_neg (by decide)]
    unfold Text.trim List.rdropWhile
    rw [hKept, List.reverse_replicate, hKept,
      List.reverse_replicate]
  unfold extractIp
  rw [if_pos hTrust, hValue, Option.bind_some, hText]
  dsimp only
  rw [hFirst, hTrimmed]
  rfl

/- A forged request uses up one new address. -/
theorem FreshFrom.step
    {number : Nat}
    (hFresh : FreshFrom number limiter)
    (hTrust : limiter.trustProxy = true)
    (request : IpRequest) :
    FreshFrom (number + 1)
      (limiter.step
        (request.withHeaders (forgedHeaders number))) := by
  intro later hLater
  have hAddress :
      limiter.addressOf
          (request.withHeaders (forgedHeaders number)) =
        forgedIp number :=
    extractIp_forged hTrust number request.remoteAddr
  have hOther : forgedIp later ≠ forgedIp number := by
    intro hSame
    have hEq := forgedIp_injective hSame
    omega
  rw [step_eq, hAddress]
  exact
    (Finmap.lookup_insert_of_ne _ hOther).trans
      (hFresh later (by omega))

/- With new addresses, every request is allowed. -/
theorem alongRun_forged
    {number : Nat}
    (hConfig : HasConfig config true limiter)
    (hFresh : FreshFrom number limiter)
    (hTokens : 1 ≤ config.maxTokens.toNat)
    (hRate : config.refillRate.NotNegative)
    (later : List IpRequest) :
    Runs.AlongRun IpRateLimiter.step
      (fun limiter request => limiter.allows request = true)
      limiter
      (List.zipWith IpRequest.withHeaders later
        ((List.range' number later.length).map
          forgedHeaders)) := by
  induction later generalizing number limiter with
  | nil => trivial
  | cons request rest ih =>
      rw [List.length_cons, List.range'_succ, List.map_cons,
        List.zipWith_cons_cons]
      refine
        ⟨?_,
          ih (hConfig.step _)
            (hFresh.step hConfig.trustProxy request)⟩
      have hAddress :
          limiter.addressOf
              (request.withHeaders (forgedHeaders number)) =
            forgedIp number :=
        extractIp_forged hConfig.trustProxy number
          request.remoteAddr
      unfold allows check
      dsimp only
      rw [hAddress]
      apply decide_eq_true
      apply
        RateLimiter.check_of_lookup_none
          (hFresh number le_rfl)
      · rw [hConfig.configFor]
        exact hTokens
      · rw [hConfig.configFor]
        exact hRate

/-
  Where proxy headers are trusted, the limiter limits no
  client: after whatever requests, there are headers with
  which all of any further requests are allowed, from
  whatever addresses and at whatever times they come.
-/
theorem exists_forged
    (config : RateLimitConfig)
    (hTokens : 1 ≤ config.maxTokens.toNat)
    (hRate : config.refillRate.NotNegative)
    (earlier later : List IpRequest) :
    ∃ headers : List HeaderMap,
      headers.length = later.length ∧
        Runs.AlongRun IpRateLimiter.step
          (fun limiter request =>
            limiter.allows request = true)
          (Runs.run IpRateLimiter.step
            ((new config).withTrustedProxy true) earlier)
          (List.zipWith IpRequest.withHeaders later
            headers) := by
  have hConfig := (hasConfig_new config true).run earlier
  rcases exists_freshFrom
      (Runs.run IpRateLimiter.step
        ((new config).withTrustedProxy true) earlier)
    with ⟨number, hFresh⟩
  refine
    ⟨(List.range' number later.length).map forgedHeaders,
      ?_, ?_⟩
  · rw [List.length_map, List.length_range']
  · exact
      alongRun_forged hConfig hFresh hTokens hRate later

/- A client behind a proxy. -/
def sampleRequest : IpRequest where
  headers := ⟨[("x-real-ip", asBytes "203.0.113.1")]⟩
  remoteAddr := "127.0.0.1"
  endpoint := some "/api"
  created := ⟨0, by decide⟩
  now := ⟨0, by decide⟩

/- The default configuration, and a hundred requests. -/
theorem exists_forged_sample :
    ∃ headers : List HeaderMap,
      headers.length =
          (List.replicate 100 sampleRequest).length ∧
        Runs.AlongRun IpRateLimiter.step
          (fun limiter request =>
            limiter.allows request = true)
          (Runs.run IpRateLimiter.step
            ((new RateLimitConfig.default).withTrustedProxy
              true)
            [sampleRequest])
          (List.zipWith IpRequest.withHeaders
            (List.replicate 100 sampleRequest) headers) :=
  exists_forged RateLimitConfig.default (by decide)
    (by decide +kernel) [sampleRequest]
    (List.replicate 100 sampleRequest)

end IpRateLimiter

end IsaWorkspace

------------------------------------------------------------
-- Bursts
------------------------------------------------------------

namespace IsaWorkspace

namespace IpRateLimiter

/- How many requests from a remote address are allowed. -/
def allowedFrom
    (remoteAddr : String)
    (limiter : IpRateLimiter)
    (requests : List IpRequest) : Nat :=
  (Runs.answers step
    (fun limiter request =>
      decide (request.remoteAddr = remoteAddr) &&
        limiter.allows request)
    limiter requests).count true

/- All requests come at one instant. -/
def AllAt
    (now : Timespec)
    (requests : List IpRequest) : Prop :=
  ∀ request ∈ requests,
    request.created = now ∧ request.now = now

/- After some requests of an address, the rest is left. -/
def HasTaken
    (config : RateLimitConfig)
    (now : Timespec)
    (ip : String)
    (taken : Nat)
    (limiter : IpRateLimiter) : Prop :=
  ∀ endpoint position,
    ((limiter.limiter.bucketFor ip endpoint now).refill
        now).grants position =
      decide (position + taken < config.maxTokens.toNat)

variable {config : RateLimitConfig} {trust : Bool}
variable {limiter : IpRateLimiter} {request : IpRequest}
variable {now : Timespec} {ip : String} {taken : Nat}

theorem allowedFrom_cons
    (remoteAddr : String)
    (limiter : IpRateLimiter)
    (request : IpRequest)
    (rest : List IpRequest) :
    allowedFrom remoteAddr limiter (request :: rest) =
      (if request.remoteAddr = remoteAddr ∧
            limiter.allows request = true then 1 else 0) +
        allowedFrom remoteAddr (limiter.step request)
          rest := by
  unfold allowedFrom
  rw [Runs.answers, List.count_cons, Nat.add_comm]
  congr 1
  simp only [beq_iff_eq, Bool.and_eq_true, decide_eq_true_eq]

/- A new limiter has all tokens left for every address. -/
theorem hasTaken_new
    (hRate : config.refillRate.isFinite = true)
    (hExact : config.maxTokens.toNat ≤ 2 ^ 24)
    (trust : Bool)
    (now : Timespec)
    (ip : String) :
    HasTaken config now ip 0
      ((new config).withTrustedProxy trust) := by
  intro endpoint position
  have hBucket :
      ((new config).withTrustedProxy
          trust).limiter.bucketFor ip endpoint now =
        TokenBucket.new config.maxTokens config.refillRate
          now := by
    unfold RateLimiter.bucketFor
    rw [(hasConfig_new config trust).configFor]
    rfl
  rw [hBucket, TokenBucket.grants_new now hRate hExact]
  rfl

/- A request of an address takes what is next. -/
theorem HasTaken.step_self
    (hTaken :
      HasTaken config now (limiter.addressOf request) taken
        limiter)
    (hCreated : request.created = now)
    (hNow : request.now = now) :
    HasTaken config now (limiter.addressOf request)
      (taken + 1) (limiter.step request) := by
  intro endpoint position
  have hBucket :
      (limiter.step request).limiter.bucketFor
          (limiter.addressOf request) endpoint now =
        ((limiter.limiter.bucketFor
          (limiter.addressOf request) request.endpoint
          now).tryConsume 1 now).2 := by
    rw [step_eq, hCreated, hNow]
    unfold RateLimiter.bucketFor
    dsimp only
    rw [Finmap.lookup_insert]
    rfl
  rw [hBucket, TokenBucket.grants_next,
    hTaken request.endpoint (position + 1)]
  apply decide_eq_decide.mpr
  omega

/- A request of another address takes nothing. -/
theorem HasTaken.step_other
    (hTaken : HasTaken config now ip taken limiter)
    (hOther : limiter.addressOf request ≠ ip) :
    HasTaken config now ip taken (limiter.step request) := by
  intro endpoint position
  have hBucket :
      (limiter.step request).limiter.bucketFor ip endpoint
          now =
        limiter.limiter.bucketFor ip endpoint now := by
    rw [step_eq]
    unfold RateLimiter.bucketFor
    dsimp only
    rw [Finmap.lookup_insert_of_ne _ hOther.symm]
    rfl
  rw [hBucket]
  exact hTaken endpoint position

/- A request is allowed as long as something is left. -/
theorem HasTaken.allows_iff
    (hTaken :
      HasTaken config now (limiter.addressOf request) taken
        limiter)
    (hCreated : request.created = now)
    (hNow : request.now = now) :
    limiter.allows request = true ↔
      taken < config.maxTokens.toNat := by
  have hAllowed :=
    (limiter.limiter.check_eq (limiter.addressOf request)
      request.endpoint now).1
  rw [hTaken request.endpoint 0, Nat.zero_add] at hAllowed
  unfold allows check
  rw [hCreated, hNow]
  dsimp only
  rw [decide_eq_true_iff, hAllowed, decide_eq_true_iff]

/- Not trusting headers, an address gets what is left. -/
theorem allowedFrom_le
    (hConfig : HasConfig config false limiter)
    {requests : List IpRequest}
    (hAll : AllAt now requests)
    {remoteAddr : String}
    (hTaken : HasTaken config now remoteAddr taken limiter) :
    allowedFrom remoteAddr limiter requests ≤
      config.maxTokens.toNat - taken := by
  induction requests generalizing limiter taken with
  | nil => exact Nat.zero_le _
  | cons request rest ih =>
      obtain ⟨hCreated, hNow⟩ :=
        hAll request List.mem_cons_self
      have hRest : AllAt now rest :=
        fun other hOther =>
          hAll other (List.mem_cons_of_mem _ hOther)
      have hAddress :
          limiter.addressOf request = request.remoteAddr := by
        unfold addressOf extractIp
        rw [hConfig.trustProxy]
        rfl
      rw [allowedFrom_cons]
      by_cases hClient : request.remoteAddr = remoteAddr
      · rw [← hClient, ← hAddress] at hTaken
        have hNext := hTaken.step_self hCreated hNow
        rw [hAddress, hClient] at hNext
        have hLater := ih (hConfig.step request) hRest hNext
        have hAllows := hTaken.allows_iff hCreated hNow
        split
        · next hAllowed =>
            have hLeft := hAllows.mp hAllowed.2
            omega
        · omega
      · have hOther : limiter.addressOf request ≠ remoteAddr :=
          fun hSame => hClient (hAddress.symm.trans hSame)
        have hLater :=
          ih (hConfig.step request) hRest
            (hTaken.step_other hOther)
        rw [if_neg fun hBoth => hClient hBoth.1, Nat.zero_add]
        exact hLater

/- Without tokens, no request is allowed. -/
theorem allowedFrom_of_no_tokens
    (hNone : config.maxTokens.toNat = 0)
    {requests : List IpRequest}
    (hAll : AllAt now requests)
    (hTaken : ∀ ip, HasTaken config now ip 0 limiter)
    (remoteAddr : String) :
    allowedFrom remoteAddr limiter requests = 0 := by
  induction requests generalizing limiter with
  | nil => rfl
  | cons request rest ih =>
      obtain ⟨hCreated, hNow⟩ :=
        hAll request List.mem_cons_self
      have hAddress := hTaken (limiter.addressOf request)
      have hAllows := hAddress.allows_iff hCreated hNow
      have hNext :
          ∀ ip, HasTaken config now ip 0
            (limiter.step request) := by
        intro ip
        by_cases hOther : limiter.addressOf request = ip
        · rw [← hOther]
          intro endpoint position
          rw [hAddress.step_self hCreated hNow endpoint
            position]
          apply decide_eq_decide.mpr
          omega
        · exact (hTaken ip).step_other hOther
      rw [allowedFrom_cons, if_neg, Nat.zero_add]
      · exact
          ih
            (fun other hOther =>
              hAll other (List.mem_cons_of_mem _ hOther))
            hNext
      · intro hBoth
        have hLeft := hAllows.mp hBoth.2
        omega

/- All of some requests from one address are allowed. -/
theorem allowedFrom_of_alongRun
    {remoteAddr : String}
    {requests : List IpRequest}
    (hFrom :
      ∀ request ∈ requests, request.remoteAddr = remoteAddr)
    (hAllowed :
      Runs.AlongRun step
        (fun limiter request => limiter.allows request = true)
        limiter requests) :
    allowedFrom remoteAddr limiter requests =
      requests.length := by
  induction requests generalizing limiter with
  | nil => rfl
  | cons request rest ih =>
      rw [allowedFrom_cons,
        if_pos
          ⟨hFrom request List.mem_cons_self, hAllowed.1⟩,
        ih
          (fun other hOther =>
            hFrom other (List.mem_cons_of_mem _ hOther))
          hAllowed.2,
        List.length_cons, Nat.add_comm]

/-
  A remote address gets no more requests allowed at one
  instant than the limiter has tokens, whatever headers they
  have and whatever else comes, if and only if proxy headers
  are not trusted, or there are no tokens at all.
-/
theorem limits_iff
    (config : RateLimitConfig)
    (trust : Bool)
    (hRate : config.refillRate.isFinite = true)
    (hNotNegative : config.refillRate.NotNegative)
    (hExact : config.maxTokens.toNat ≤ 2 ^ 24) :
    (∀ now remoteAddr requests, AllAt now requests →
        allowedFrom remoteAddr
            ((new config).withTrustedProxy trust) requests ≤
          config.maxTokens.toNat) ↔
      trust = false ∨ config.maxTokens = 0 := by
  constructor
  · intro hLimits
    by_contra hNeither
    obtain ⟨hTrust, hSome⟩ := not_or.mp hNeither
    rw [Bool.not_eq_false] at hTrust
    subst hTrust
    have hTokens : 1 ≤ config.maxTokens.toNat := by
      by_contra hNone
      apply hSome
      apply UInt32.toNat.inj
      change config.maxTokens.toNat = 0
      omega
    let now : Timespec := ⟨0, by decide⟩
    let request : IpRequest :=
      ⟨⟨[]⟩, "", none, now, now⟩
    let later :=
      List.replicate (config.maxTokens.toNat + 1) request
    obtain ⟨headers, hLength, hAllowed⟩ :=
      exists_forged config hTokens hNotNegative [] later
    have hForged :
        ∀ forged ∈
            List.zipWith IpRequest.withHeaders later headers,
          forged.remoteAddr = "" ∧ forged.created = now ∧
            forged.now = now := by
      intro forged hMember
      rw [List.mem_iff_getElem] at hMember
      obtain ⟨position, hPosition, rfl⟩ := hMember
      rw [List.getElem_zipWith, List.getElem_replicate]
      exact ⟨rfl, rfl, rfl⟩
    have hCount :=
      allowedFrom_of_alongRun
        (fun forged hMember => (hForged forged hMember).1)
        hAllowed
    have hBound :=
      hLimits now "" _
        (fun forged hMember => (hForged forged hMember).2)
    rw [Runs.run_nil] at hCount
    rw [hCount, List.length_zipWith, hLength,
      List.length_replicate] at hBound
    omega
  · intro hEither now remoteAddr requests hAll
    have hTaken :=
      hasTaken_new hRate hExact trust now
    rcases hEither with rfl | hNone
    · exact
        allowedFrom_le (hasConfig_new config false) hAll
          (hTaken remoteAddr)
    · have hZero : config.maxTokens.toNat = 0 := by
        rw [hNone]
        rfl
      rw [allowedFrom_of_no_tokens hZero hAll hTaken]
      exact Nat.zero_le _

theorem limits_sample :
    (∀ now remoteAddr requests, AllAt now requests →
        allowedFrom remoteAddr
            ((new RateLimitConfig.default).withTrustedProxy
              true)
            requests ≤
          RateLimitConfig.default.maxTokens.toNat) ↔
      true = false ∨ RateLimitConfig.default.maxTokens = 0 :=
  limits_iff RateLimitConfig.default true
    (by decide +kernel) (by decide +kernel) (by decide)

end IpRateLimiter

end IsaWorkspace
