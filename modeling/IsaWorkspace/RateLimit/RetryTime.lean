import IsaWorkspace.RateLimit.SlidingWindow

/-
  The time after which a sliding window says to retry.

  A limited check names the delay after which the oldest
  kept time is as old as the window is long.  The check at
  that instant still keeps it, since only times that are
  older are dropped, so the named delay is one nanosecond
  too short.

  Main declarations:
    * `SlidingWindowLimiter.step`, `WithinMax`
    * `AtLimit`, `check_eq_limited_iff`
    * `allowedAfter_iff`
    * `RetryWorks`, `retryWorks_iff`
-/

------------------------------------------------------------
-- Runs of Checks
------------------------------------------------------------

namespace IsaWorkspace

namespace SlidingWindowLimiter

/- One check of a key, for the state that it leaves. -/
def step
    (limiter : SlidingWindowLimiter)
    (request : String × Timespec) : SlidingWindowLimiter :=
  (limiter.check request.1 request.2).2

/- No key has more kept times than the maximum. -/
def WithinMax
    (limiter : SlidingWindowLimiter) : Prop :=
  ∀ key,
    (limiter.timestamps key).length ≤
      limiter.maxRequests.toNat

theorem withinMax_new
    (windowSecs : UInt64)
    (maxRequests : UInt32) :
    (new windowSecs maxRequests).WithinMax := by
  intro key
  exact Nat.zero_le _

theorem withinMax_step
    (limiter : SlidingWindowLimiter)
    (request : String × Timespec)
    (hWithin : limiter.WithinMax) :
    (limiter.step request).WithinMax := by
  have hSpec := limiter.check_spec request.1 request.2
  intro key
  have hBefore := hWithin key
  unfold step
  rw [hSpec.maxRequests]
  by_cases hKey : key = request.1
  · obtain ⟨dropped, kept, hTimes, _, hAfter, hRoom⟩ :=
      hSpec.kept
    rw [hKey, hTimes, List.length_append] at hBefore
    rw [hKey, hAfter, List.length_append]
    split
    · next hAllowed =>
        have hFew := hRoom hAllowed
        rw [List.length_singleton]
        omega
    · rw [List.length_nil]
      omega
  · rw [hSpec.others key hKey]
    exact hBefore

/- Checks of other keys leave the times of a key alone. -/
theorem unchanged_run
    {key : String}
    (limiter : SlidingWindowLimiter)
    (others : List (String × Timespec))
    (hOthers : ∀ request ∈ others, request.1 ≠ key) :
    (Runs.run step limiter others).timestamps key =
        limiter.timestamps key ∧
      (Runs.run step limiter others).windowSecs =
        limiter.windowSecs ∧
      (Runs.run step limiter others).maxRequests =
        limiter.maxRequests := by
  induction others generalizing limiter with
  | nil => exact ⟨rfl, rfl, rfl⟩
  | cons request rest ih =>
      have hSpec := limiter.check_spec request.1 request.2
      have hFirst : key ≠ request.1 :=
        (hOthers request List.mem_cons_self).symm
      have hRest :=
        ih (limiter.step request)
          fun other hOther =>
            hOthers other (List.mem_cons_of_mem _ hOther)
      rw [Runs.run_cons]
      exact
        ⟨hRest.1.trans (hSpec.others key hFirst),
          hRest.2.1.trans hSpec.windowSecs,
          hRest.2.2.trans hSpec.maxRequests⟩

------------------------------------------------------------
-- Limited Checks
------------------------------------------------------------

/- The times of a key that a check keeps. -/
def keptTimes
    (limiter : SlidingWindowLimiter)
    (key : String)
    (windowStart : Timespec) : List Timespec :=
  (limiter.timestamps key).dropWhile fun timestamp =>
    decide (timestamp < windowStart)

/-
  A key is at its limit: no fewer times than the maximum are
  not older than the window, and the oldest of them leaves
  the window at an instant of the clock.
-/
structure LimitedBy
    (limiter : SlidingWindowLimiter)
    (key : String)
    (now windowStart oldest expiry : Timespec) : Prop where
  start :
    now.sub (Duration.fromSecs limiter.windowSecs) =
      some windowStart
  front :
    (limiter.keptTimes key windowStart).head? = some oldest
  leaves :
    oldest.add (Duration.fromSecs limiter.windowSecs) =
      some expiry
  full :
    limiter.maxRequests.toNat ≤
      (limiter.keptTimes key windowStart).length

/- The same, of some times. -/
def AtLimit
    (limiter : SlidingWindowLimiter)
    (key : String)
    (now : Timespec) : Prop :=
  ∃ windowStart oldest expiry,
    limiter.LimitedBy key now windowStart oldest expiry

/- The time is later by exactly the duration. -/
theorem nanos_of_add
    {instant later : Timespec}
    {duration : Duration}
    (hAdd : instant.add duration = some later) :
    later.nanos = instant.nanos + duration.nanos := by
  unfold Timespec.add Timespec.ofNanos? at hAdd
  split at hAdd
  · cases hAdd
    rfl
  · cases hAdd

/- There is an instant between two others. -/
theorem exists_sub
    {earlier instant difference : Timespec}
    {duration : Duration}
    (hSub : earlier.sub duration = some difference)
    (hLater : earlier.nanos ≤ instant.nanos) :
    ∃ later, instant.sub duration = some later := by
  have hNanos := nanos_of_sub hSub
  have hLower := difference.inRange
  have hUpper := instant.inRange
  have hRange :
      -(2 ^ 63 * 10 ^ 9) ≤ instant.nanos - duration.nanos ∧
        instant.nanos - duration.nanos <
          2 ^ 63 * 10 ^ 9 := by
    omega
  unfold Timespec.sub Timespec.ofNanos?
  rw [dif_pos hRange]
  exact ⟨_, rfl⟩

theorem check_eq_allowed_iff
    {limiter : SlidingWindowLimiter}
    {key : String}
    {now windowStart : Timespec}
    (hStart :
      now.sub (Duration.fromSecs limiter.windowSecs) =
        some windowStart) :
    (limiter.check key now).1 = some .allowed ↔
      (limiter.keptTimes key windowStart).length <
        limiter.maxRequests.toNat := by
  unfold check keptTimes timestamps
  dsimp only
  rw [hStart]
  dsimp only
  split
  · next hBelow => exact iff_of_true rfl hBelow
  · next hFull =>
      refine iff_of_false ?_ hFull
      intro hAllowed
      obtain ⟨retryAfter, _, hLimited⟩ :=
        Option.map_eq_some_iff.mp hAllowed
      cases hLimited

/-
  At the limit, a check names the time until the oldest kept
  time leaves the window, and stores what it kept.
-/
theorem check_of_limitedBy
    {limiter : SlidingWindowLimiter}
    {key : String}
    {now windowStart oldest expiry : Timespec}
    (hLimited :
      limiter.LimitedBy key now windowStart oldest expiry) :
    limiter.check key now =
      (some
          (.limited (expiry.durationSince now)
            limiter.maxRequests 0),
        { limiter with
          requests :=
            limiter.requests.insert key
              (limiter.keptTimes key windowStart) }) := by
  have hOldest := hLimited.front
  have hFull := hLimited.full
  unfold keptTimes timestamps at hOldest hFull
  unfold check keptTimes timestamps
  dsimp only
  rw [hLimited.start]
  dsimp only
  rw [if_neg (Nat.not_lt.mpr hFull), hOldest,
    Option.bind_some, hLimited.leaves, Option.map_some,
    Option.map_some]

/- A check is limited at the limit only. -/
theorem atLimit_of_check_limited
    {limiter : SlidingWindowLimiter}
    {key : String}
    {now : Timespec}
    {retryAfter : Duration}
    {limit remaining : UInt32}
    (hLimited :
      (limiter.check key now).1 =
        some (.limited retryAfter limit remaining)) :
    limiter.AtLimit key now := by
  unfold check at hLimited
  dsimp only at hLimited
  split at hLimited
  · cases hLimited
  · next windowStart hStart =>
      split at hLimited
      · cases hLimited
      · next hFull =>
          obtain ⟨_, hRetry, _⟩ :=
            Option.map_eq_some_iff.mp hLimited
          obtain ⟨oldest, hOldest, hExpiry⟩ :=
            Option.bind_eq_some_iff.mp hRetry
          obtain ⟨expiry, hAdd, _⟩ :=
            Option.map_eq_some_iff.mp hExpiry
          exact
            ⟨windowStart, oldest, expiry, hStart, hOldest,
              hAdd, Nat.not_lt.mp hFull⟩

------------------------------------------------------------
-- The Named Delay
------------------------------------------------------------

/- A check of the key after some delay is allowed. -/
def AllowedAfter
    (limiter : SlidingWindowLimiter)
    (key : String)
    (now : Timespec)
    (delay : Duration) : Prop :=
  ∃ later,
    now.add delay = some later ∧
      (limiter.check key later).1 = some .allowed

/-
  The delay that a limited check names is enough, and no
  shorter one is, whatever other keys are checked meanwhile.
-/
def RetryWorks
    (limiter : SlidingWindowLimiter)
    (key : String)
    (now : Timespec) : Prop :=
  ∀ retryAfter limit remaining,
    (limiter.check key now).1 =
        some (.limited retryAfter limit remaining) →
      ∀ others : List (String × Timespec),
        (∀ request ∈ others, request.1 ≠ key) →
          let waited :=
            Runs.run step (limiter.check key now).2 others
          waited.AllowedAfter key now retryAfter ∧
            ∀ shorter : Duration,
              shorter.nanos < retryAfter.nanos →
                ¬ waited.AllowedAfter key now shorter

/-
  After a limited check, the delays that are enough are the
  ones longer than the one it names.
-/
theorem check_later_iff
    {limiter waited : SlidingWindowLimiter}
    {key : String}
    {now windowStart oldest expiry later : Timespec}
    (hWithin : limiter.WithinMax)
    (hLimited :
      limiter.LimitedBy key now windowStart oldest expiry)
    (hTimes :
      waited.timestamps key =
        limiter.keptTimes key windowStart)
    (hWindow : waited.windowSecs = limiter.windowSecs)
    (hMaximum : waited.maxRequests = limiter.maxRequests)
    (hLater : now.nanos ≤ later.nanos) :
    (waited.check key later).1 = some .allowed ↔
      expiry.nanos < later.nanos := by
  obtain ⟨laterStart, hLaterStart⟩ :=
    exists_sub hLimited.start hLater
  have hNanos := nanos_of_sub hLaterStart
  have hExpiry := nanos_of_add hLimited.leaves
  obtain ⟨rest, hKept⟩ :=
    List.head?_eq_some_iff.mp hLimited.front
  have hStored :
      (limiter.keptTimes key windowStart).length ≤
        limiter.maxRequests.toNat :=
    (List.length_dropWhile_le _ _).trans (hWithin key)
  have hFull := hLimited.full
  rw [hKept, List.length_cons] at hStored hFull
  rw [← hWindow] at hLaterStart
  rw [check_eq_allowed_iff hLaterStart, keptTimes, hTimes,
    hKept, hMaximum]
  by_cases hOld : oldest < laterStart
  · have hBefore : oldest.nanos < laterStart.nanos := hOld
    have hFewer :
        (rest.dropWhile fun timestamp =>
          decide (timestamp < laterStart)).length ≤
          rest.length :=
      List.length_dropWhile_le _ _
    rw [List.dropWhile_cons, if_pos (decide_eq_true hOld)]
    apply iff_of_true
    · omega
    · omega
  · have hNotBefore : ¬ oldest.nanos < laterStart.nanos :=
      hOld
    have hKeeps :
        ¬ decide (oldest < laterStart) = true := by
      rw [decide_eq_true_iff]
      exact hOld
    rw [List.dropWhile_cons, if_neg hKeeps,
      List.length_cons]
    apply iff_of_false
    · omega
    · omega

/- The oldest kept time has not left the window before. -/
theorem le_of_limitedBy
    {limiter : SlidingWindowLimiter}
    {key : String}
    {now windowStart oldest expiry : Timespec}
    (hLimited :
      limiter.LimitedBy key now windowStart oldest expiry) :
    now.nanos ≤ expiry.nanos := by
  have hStart := nanos_of_sub hLimited.start
  have hExpiry := nanos_of_add hLimited.leaves
  have hKept :=
    List.head?_dropWhile_not
      (fun timestamp => decide (timestamp < windowStart))
      (limiter.timestamps key)
  have hFront := hLimited.front
  unfold keptTimes at hFront
  rw [hFront] at hKept
  have hNotBefore : ¬ oldest.nanos < windowStart.nanos :=
    of_decide_eq_false hKept
  omega

/-
  However other keys are checked after a limited check, only
  a longer delay than the one it names is enough.
-/
theorem allowedAfter_iff
    {limiter : SlidingWindowLimiter}
    {key : String}
    {now windowStart oldest expiry : Timespec}
    (hWithin : limiter.WithinMax)
    (hLimited :
      limiter.LimitedBy key now windowStart oldest expiry)
    (others : List (String × Timespec))
    (hOthers : ∀ request ∈ others, request.1 ≠ key)
    (delay : Duration) :
    (Runs.run step (limiter.check key now).2
          others).AllowedAfter key now delay ↔
      (expiry.durationSince now).nanos < delay.nanos ∧
        (now.add delay).isSome := by
  obtain ⟨hTimes, hWindow, hMaximum⟩ :=
    unchanged_run (limiter.check key now).2 others hOthers
  rw [check_of_limitedBy hLimited] at hTimes hWindow hMaximum ⊢
  rw [timestamps_insert, if_pos rfl] at hTimes
  have hNotBefore := le_of_limitedBy hLimited
  have hNanos :
      ((expiry.durationSince now).nanos : Int) =
        expiry.nanos - now.nanos :=
    Int.toNat_of_nonneg (by omega)
  unfold AllowedAfter
  cases hLater : now.add delay with
  | none => simp
  | some later =>
      have hDelay := nanos_of_add hLater
      have hIff :=
        check_later_iff hWithin hLimited hTimes hWindow
          hMaximum (by omega : now.nanos ≤ later.nanos)
      constructor
      · rintro ⟨_, hSame, hAllowed⟩
        cases hSame
        have hAfter := hIff.mp hAllowed
        exact ⟨by omega, rfl⟩
      · rintro ⟨hLonger, _⟩
        exact ⟨later, rfl, hIff.mpr (by omega)⟩

/- The named delay works where there is none to be named. -/
theorem retryWorks_of_not_atLimit
    {limiter : SlidingWindowLimiter}
    {key : String}
    {now : Timespec}
    (hRoom : ¬ limiter.AtLimit key now) :
    limiter.RetryWorks key now := by
  intro retryAfter limit remaining hLimited
  exact absurd (atLimit_of_check_limited hLimited) hRoom

theorem not_retryWorks_of_atLimit
    {limiter : SlidingWindowLimiter}
    {key : String}
    {now : Timespec}
    (hWithin : limiter.WithinMax)
    (hLimit : limiter.AtLimit key now) :
    ¬ limiter.RetryWorks key now := by
  obtain ⟨windowStart, oldest, expiry, hLimited⟩ := hLimit
  intro hWorks
  have hNamed :=
    congrArg Prod.fst (check_of_limitedBy hLimited)
  have hEnough :=
    (hWorks _ _ _ hNamed [] (List.forall_mem_nil _)).1
  have hLonger :=
    (allowedAfter_iff hWithin hLimited []
      (List.forall_mem_nil _) _).mp hEnough
  exact Nat.lt_irrefl _ hLonger.1

/-
  In every state that checks lead to, the delay that a check
  names works exactly if the check is not at the limit, so
  that it names none.
-/
theorem retryWorks_iff
    (windowSecs : UInt64)
    (maxRequests : UInt32)
    (requests : List (String × Timespec))
    (key : String)
    (now : Timespec) :
    (Runs.run step (new windowSecs maxRequests)
        requests).RetryWorks key now ↔
      ¬ (Runs.run step (new windowSecs maxRequests)
        requests).AtLimit key now := by
  have hWithin :
      (Runs.run step (new windowSecs maxRequests)
        requests).WithinMax :=
    Runs.run_of_invariant withinMax_step requests
      (withinMax_new windowSecs maxRequests)
  constructor
  · intro hWorks hLimit
    exact not_retryWorks_of_atLimit hWithin hLimit hWorks
  · exact retryWorks_of_not_atLimit

/-
  One request in a minute: the second asks a second after
  the first, and has to wait for longer than the 59 seconds
  that it is told to.
-/
theorem not_retryWorks_sample :
    ¬ (Runs.run step (new 60 1)
        [("user-1", ⟨0, by decide⟩)]).RetryWorks "user-1"
        ⟨1000000000, by decide⟩ := by
  intro hWorks
  have hEnough :=
    (hWorks ⟨59000000000, by decide⟩ 1 0 (by decide +kernel)
      [] (List.forall_mem_nil _)).1
  obtain ⟨later, hLater, hAllowed⟩ := hEnough
  have hInstant : later = ⟨60000000000, by decide⟩ := by
    have hSum :
        Timespec.add ⟨1000000000, by decide⟩
            ⟨59000000000, by decide⟩ =
          some ⟨60000000000, by decide⟩ := by
      decide
    exact Option.some.inj (hLater.symm.trans hSum)
  subst hInstant
  revert hAllowed
  decide +kernel

end SlidingWindowLimiter

end IsaWorkspace
