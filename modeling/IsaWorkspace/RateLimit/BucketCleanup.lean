import IsaWorkspace.RateLimit.ExactLimiter

/-
  The cleanup of idle buckets, with exact numbers.

  A bucket that is dropped is made anew, and full, by the
  next check of its key.  Where the idle time fills each
  bucket and all configurations are the same, a run without
  cleanups simulates the run with them, up to buckets that
  are full by the clock.  Everywhere else some run tells
  the cleanup.

  Main declarations:
    * `ExactLimiter.Related`, `related_step`
    * `ExactLimiter.NoTokens`, `noTokens_step`
    * `ExactLimiter.FillsWithin`
    * `ExactLimiter.checksAroundCleanup`
    * `ExactLimiter.level_of_cleanupHarmless`
    * `ExactLimiter.cleanupHarmless_iff`
-/

------------------------------------------------------------
-- Runs With and Without Cleanups
------------------------------------------------------------

namespace IsaWorkspace

namespace ExactLimiter

/-
  A run with cleanups against one without: each bucket is
  the same, or was dropped while the other is full.
-/
structure Related
    (config : ExactConfig)
    (clock : Rat)
    (cleaned kept : ExactLimiter) : Prop where
  cleanedConfig :
    ∀ endpoint, cleaned.configFor endpoint = config
  keptConfig :
    ∀ endpoint, kept.configFor endpoint = config
  settings :
    ∀ key bucket,
      kept.buckets.lookup key = some bucket →
        bucket.maxTokens = config.maxTokens ∧
          bucket.refillRate = config.refillRate ∧
          0 ≤ bucket.tokens
  buckets :
    ∀ key,
      cleaned.buckets.lookup key = kept.buckets.lookup key ∨
        cleaned.buckets.lookup key = none ∧
          ∃ bucket,
            kept.buckets.lookup key = some bucket ∧
              bucket.maxTokens.toNat ≤ bucket.level clock

section Simulation

variable {config : ExactConfig} {clock : Rat}
variable {cleaned kept : ExactLimiter}

/- A full bucket is as good as a new one. -/
theorem refill_of_related
    (hRate : 0 ≤ config.refillRate)
    (hRelated : Related config clock cleaned kept)
    (key : String)
    (endpoint : Option String)
    {created now : Rat}
    (hClock : clock ≤ now) :
    (cleaned.bucketFor key endpoint created).refill now =
      (kept.bucketFor key endpoint created).refill now := by
  unfold bucketFor
  dsimp only
  rw [hRelated.cleanedConfig, hRelated.keptConfig]
  rcases hRelated.buckets key with
    hSame | ⟨hDropped, bucket, hKept, hFull⟩
  · rw [hSame]
  · obtain ⟨hMaximum, hRefill, _⟩ :=
      hRelated.settings key bucket hKept
    rw [hDropped, hKept, Option.getD_none, Option.getD_some]
    apply ExactBucket.refill_eq_of_full
    · exact hMaximum.symm
    · exact hRefill.symm
    · rw [ExactBucket.level_new _ hRate]
      exact le_rfl
    · rw [← hRefill] at hRate
      exact hFull.trans (ExactBucket.level_mono hRate hClock)

/- A check answers the same in both runs. -/
theorem tryConsume_of_related
    (hRate : 0 ≤ config.refillRate)
    (hRelated : Related config clock cleaned kept)
    (key : String)
    (endpoint : Option String)
    {created now : Rat}
    (hClock : clock ≤ now) :
    (cleaned.bucketFor key endpoint created).tryConsume 1
        now =
      (kept.bucketFor key endpoint created).tryConsume 1
        now :=
  ExactBucket.tryConsume_congr
    (refill_of_related hRate hRelated key endpoint hClock) 1

/- The clock alone only makes buckets fuller. -/
theorem Related.later
    (hRate : 0 ≤ config.refillRate)
    (hRelated : Related config clock cleaned kept)
    {now : Rat}
    (hClock : clock ≤ now) :
    Related config now cleaned kept := by
  refine
    ⟨hRelated.cleanedConfig, hRelated.keptConfig,
      hRelated.settings, ?_⟩
  intro key
  rcases hRelated.buckets key with
    hSame | ⟨hDropped, bucket, hKept, hFull⟩
  · exact Or.inl hSame
  · have hBucket := (hRelated.settings key bucket hKept).2.1
    rw [← hBucket] at hRate
    exact
      Or.inr
        ⟨hDropped, bucket, hKept,
          hFull.trans (ExactBucket.level_mono hRate hClock)⟩

/- A bucket that is found has the common settings. -/
theorem settings_bucketFor
    (hRelated : Related config clock cleaned kept)
    (key : String)
    (endpoint : Option String)
    (created : Rat) :
    (kept.bucketFor key endpoint created).maxTokens =
        config.maxTokens ∧
      (kept.bucketFor key endpoint created).refillRate =
        config.refillRate ∧
      0 ≤ (kept.bucketFor key endpoint created).tokens := by
  unfold bucketFor
  dsimp only
  rw [hRelated.keptConfig]
  cases hLookup : kept.buckets.lookup key with
  | none => exact ⟨rfl, rfl, Nat.cast_nonneg _⟩
  | some bucket =>
      exact hRelated.settings key bucket hLookup

theorem related_check
    (hRate : 0 ≤ config.refillRate)
    (hRelated : Related config clock cleaned kept)
    (key : String)
    (endpoint : Option String)
    {created now : Rat}
    (hClock : clock ≤ now) :
    Related config now
      (cleaned.check key endpoint created now).2
      (kept.check key endpoint created now).2 := by
  have hLater := hRelated.later hRate hClock
  have hSame :
      (cleaned.bucketFor key endpoint created).tryConsume 1
          now =
        (kept.bucketFor key endpoint created).tryConsume 1
          now :=
    tryConsume_of_related hRate hRelated key endpoint hClock
  refine ⟨hLater.cleanedConfig, hLater.keptConfig, ?_, ?_⟩
  · intro other bucket hLookup
    unfold check at hLookup
    dsimp only at hLookup
    rw [HashMap.lookup_insert_eq_ite] at hLookup
    split at hLookup
    · cases hLookup
      obtain ⟨hMaximum, hRefill, hTokens⟩ :=
        settings_bucketFor hRelated key endpoint created
      have hSpec :=
        (kept.bucketFor key endpoint
          created).tryConsume_spec 1 now
      have hCapacity :=
        ExactBucket.inCapacity_tryConsume 1 now
          (hRefill ▸ hRate) hTokens
      exact
        ⟨hSpec.maxTokens.trans hMaximum,
          hSpec.refillRate.trans hRefill, hCapacity.1⟩
    · exact hLater.settings other bucket hLookup
  · intro other
    unfold check
    dsimp only
    rw [HashMap.lookup_insert_eq_ite,
      HashMap.lookup_insert_eq_ite, hSame]
    split
    · exact Or.inl rfl
    · exact hLater.buckets other

/- What a cleanup drops has been filled by then. -/
theorem related_cleanup
    {maxAge : Duration}
    (hRate : 0 ≤ config.refillRate)
    (hFills :
      (config.maxTokens.toNat : Rat) ≤
        config.refillRate * maxAge.asSecs)
    (hRelated : Related config clock cleaned kept)
    {now : Rat}
    (hClock : clock ≤ now) :
    Related config now (cleaned.cleanup maxAge now)
      kept := by
  have hLater := hRelated.later hRate hClock
  refine
    ⟨hLater.cleanedConfig, hLater.keptConfig,
      hLater.settings, ?_⟩
  intro key
  cases hRetained :
      (cleaned.cleanup maxAge now).buckets.lookup key with
  | some bucket =>
      obtain ⟨hStored, _⟩ :=
        lookup_cleanup.mp hRetained
      rcases hLater.buckets key with hSame | ⟨hDropped, _⟩
      · exact Or.inl (hStored.symm.trans hSame)
      · cases hStored.symm.trans hDropped
  | none =>
      rcases hLater.buckets key with hSame | ⟨_, hFull⟩
      · cases hKept : kept.buckets.lookup key with
        | none => exact Or.inl rfl
        | some bucket =>
            obtain ⟨hMaximum, hRefill, hTokens⟩ :=
              hRelated.settings key bucket hKept
            have hIdle :
                ¬ max 0 (now - bucket.lastRefill) <
                    maxAge.asSecs := by
              intro hRecent
              have hStays :=
                lookup_cleanup.mpr
                  ⟨hSame.trans hKept, hRecent⟩
              cases hRetained.symm.trans hStays
            rw [← hMaximum, ← hRefill] at hFills
            rw [← hRefill] at hRate
            exact
              Or.inr
                ⟨rfl, bucket, rfl,
                  ExactBucket.full_of_idle hTokens hRate hFills
                    (not_lt.mp hIdle)⟩
      · exact Or.inr ⟨rfl, hFull⟩

/- One call, which the run without cleanups may leave out. -/
theorem related_step
    {maxAge : Duration}
    (hRate : 0 ≤ config.refillRate)
    (hFills :
      (config.maxTokens.toNat : Rat) ≤
        config.refillRate * maxAge.asSecs)
    (hRelated : Related config clock cleaned kept)
    (call : LimiterCall)
    (hClock : clock ≤ call.first)
    (hCall : call.first ≤ call.last) :
    Related config call.last (cleaned.step maxAge call)
      (if call.isCheck then kept.step maxAge call
        else kept) := by
  cases call with
  | check key endpoint created now =>
      exact
        related_check hRate hRelated key endpoint
          (hClock.trans hCall)
  | cleanup now =>
      exact related_cleanup hRate hFills hRelated hClock

/- The runs stay related, and answer the next check alike. -/
theorem check_run_of_related
    {maxAge : Duration}
    (hRate : 0 ≤ config.refillRate)
    (hFills :
      (config.maxTokens.toNat : Rat) ≤
        config.refillRate * maxAge.asSecs)
    (hRelated : Related config clock cleaned kept)
    (calls : List LimiterCall)
    (key : String)
    (endpoint : Option String)
    (created now : Rat)
    (hOrder :
      LimiterCall.InOrder
        (calls ++ [.check key endpoint created now]))
    (hClock :
      ∀ call ∈ calls ++ [.check key endpoint created now],
        clock ≤ call.first) :
    ((Runs.run (step maxAge) cleaned calls).check key
        endpoint created now).1 =
      ((Runs.run (step maxAge) kept
          (calls.filter LimiterCall.isCheck)).check key
        endpoint created now).1 := by
  induction calls generalizing clock cleaned kept with
  | nil =>
      have hFirst := hClock _ List.mem_cons_self
      have hLast := hOrder.1 _ List.mem_cons_self
      have hNow : clock ≤ now := hFirst.trans hLast
      have hSame :
          (cleaned.bucketFor key endpoint created).tryConsume
              1 now =
            (kept.bucketFor key endpoint created).tryConsume
              1 now :=
        tryConsume_of_related hRate hRelated key endpoint hNow
      have hAnswer := congrArg Prod.fst hSame
      exact hAnswer
  | cons call rest ih =>
      rw [List.cons_append] at hOrder hClock
      obtain ⟨hEach, hPairs⟩ := hOrder
      obtain ⟨hLater, hRest⟩ := List.pairwise_cons.mp hPairs
      have hNext :=
        related_step hRate hFills hRelated call
          (hClock call List.mem_cons_self)
          (hEach call List.mem_cons_self)
      have hTail :
          LimiterCall.InOrder
            (rest ++ [.check key endpoint created now]) :=
        ⟨fun other hOther =>
            hEach other (List.mem_cons_of_mem _ hOther),
          hRest⟩
      have hAlike := ih hNext hTail hLater
      rw [Runs.run_cons, hAlike, List.filter_cons]
      split
      · rfl
      · rfl

end Simulation

------------------------------------------------------------
-- Limiters Without Tokens
------------------------------------------------------------

/- No bucket can ever hold a token. -/
structure NoTokens
    (limiter : ExactLimiter) : Prop where
  configs :
    ∀ endpoint, (limiter.configFor endpoint).maxTokens = 0
  buckets :
    ∀ key bucket,
      limiter.buckets.lookup key = some bucket →
        bucket.maxTokens = 0

theorem maxTokens_bucketFor
    {limiter : ExactLimiter}
    (hNone : NoTokens limiter)
    (key : String)
    (endpoint : Option String)
    (created : Rat) :
    (limiter.bucketFor key endpoint created).maxTokens =
      0 := by
  unfold bucketFor
  cases hLookup : limiter.buckets.lookup key with
  | none => exact hNone.configs endpoint
  | some bucket => exact hNone.buckets key bucket hLookup

theorem noTokens_step
    (maxAge : Duration)
    (limiter : ExactLimiter)
    (call : LimiterCall)
    (hNone : NoTokens limiter) :
    NoTokens (limiter.step maxAge call) := by
  cases call with
  | check key endpoint created now =>
      refine ⟨hNone.configs, ?_⟩
      intro other bucket hLookup
      unfold step check at hLookup
      dsimp only at hLookup
      rw [HashMap.lookup_insert_eq_ite] at hLookup
      split at hLookup
      · cases hLookup
        have hSpec :=
          (limiter.bucketFor key endpoint
            created).tryConsume_spec 1 now
        exact
          hSpec.maxTokens.trans
            (maxTokens_bucketFor hNone key endpoint created)
      · exact hNone.buckets other bucket hLookup
  | cleanup now =>
      refine ⟨hNone.configs, ?_⟩
      intro key bucket hLookup
      exact
        hNone.buckets key bucket (lookup_cleanup.mp hLookup).1

/- A check takes one token of the refilled bucket. -/
theorem check_iff
    (limiter : ExactLimiter)
    (key : String)
    (endpoint : Option String)
    (created now : Rat) :
    (limiter.check key endpoint created now).1 = true ↔
      1 ≤ (limiter.bucketFor key endpoint created).level
        now :=
  ExactBucket.tryConsume_one_iff _ now

theorem not_check_of_noTokens
    {limiter : ExactLimiter}
    (hNone : NoTokens limiter)
    (key : String)
    (endpoint : Option String)
    (created now : Rat) :
    ¬ (limiter.check key endpoint created now).1 = true := by
  have hMaximum :=
    maxTokens_bucketFor hNone key endpoint created
  have hLevel :=
    (limiter.bucketFor key endpoint created).level_le now
  have hZero : ((0 : UInt32).toNat : Rat) = 0 := Nat.cast_zero
  rw [hMaximum, hZero] at hLevel
  rw [check_iff]
  intro hEnough
  linarith

------------------------------------------------------------
-- When Cleanups are Harmless
------------------------------------------------------------

/-
  There are no tokens at all, or all configurations are the
  same one, which fills its bucket within the age.
-/
def FillsWithin
    (maxAge : Duration)
    (limiter : ExactLimiter) : Prop :=
  (∀ endpoint, (limiter.configFor endpoint).maxTokens = 0) ∨
    (∀ endpoint,
        limiter.configFor endpoint = limiter.defaultConfig) ∧
      (limiter.defaultConfig.maxTokens.toNat : Rat) ≤
        limiter.defaultConfig.refillRate * maxAge.asSecs

/- A run starts at some time. -/
theorem exists_le_first
    (calls : List LimiterCall) :
    ∃ clock, ∀ call ∈ calls, clock ≤ call.first := by
  induction calls with
  | nil => exact ⟨0, List.forall_mem_nil _⟩
  | cons call rest ih =>
      obtain ⟨clock, hRest⟩ := ih
      refine
        ⟨min call.first clock,
          List.forall_mem_cons.mpr ⟨min_le_left _ _, ?_⟩⟩
      intro other hOther
      exact (min_le_right _ _).trans (hRest other hOther)

theorem cleanupHarmless_of_fillsWithin
    {maxAge : Duration}
    {defaultConfig : ExactConfig}
    {endpointConfigs : HashMap String ExactConfig}
    (hFills :
      (new defaultConfig endpointConfigs).FillsWithin
        maxAge) :
    (new defaultConfig endpointConfigs).CleanupHarmless
      maxAge := by
  intro calls key endpoint created now hOrder hAllowed
  by_cases hNone :
      ∀ endpoint,
        ((new defaultConfig endpointConfigs).configFor
          endpoint).maxTokens = 0
  · have hEmpty :
        NoTokens
          (Runs.run (step maxAge)
            (new defaultConfig endpointConfigs) calls) :=
      Runs.run_of_invariant (noTokens_step maxAge) calls
        ⟨hNone, nofun⟩
    exact
      absurd hAllowed
        (not_check_of_noTokens hEmpty key endpoint created
          now)
  · obtain ⟨hConfigs, hFull⟩ :=
      hFills.resolve_left hNone
    have hSome : (1 : Rat) ≤ defaultConfig.maxTokens.toNat := by
      have hPositive : defaultConfig.maxTokens.toNat ≠ 0 := by
        intro hZero
        apply hNone
        intro other
        rw [hConfigs other]
        exact UInt32.toNat_inj.mp hZero
      exact_mod_cast Nat.one_le_iff_ne_zero.mpr hPositive
    have hRate : 0 ≤ defaultConfig.refillRate := by
      by_contra hNegative
      have hFlow :
          defaultConfig.refillRate * maxAge.asSecs ≤ 0 :=
        mul_nonpos_of_nonpos_of_nonneg
          (not_le.mp hNegative).le maxAge.asSecs_nonneg
      have hNothing := hSome.trans (hFull.trans hFlow)
      linarith
    obtain ⟨clock, hClock⟩ :=
      exists_le_first
        (calls ++ [.check key endpoint created now])
    have hRelated :
        Related defaultConfig clock
          (new defaultConfig endpointConfigs)
          (new defaultConfig endpointConfigs) :=
      ⟨hConfigs, hConfigs, nofun, fun _ => Or.inl rfl⟩
    have hAlike :=
      check_run_of_related hRate hFull hRelated calls key
        endpoint created now hOrder hClock
    exact hAlike.symm.trans hAllowed

------------------------------------------------------------
-- Runs that Tell Cleanups
------------------------------------------------------------

/- A check stores what the next one finds. -/
theorem bucketFor_check
    (limiter : ExactLimiter)
    (key : String)
    (endpoint other : Option String)
    (created now later : Rat) :
    (limiter.check key endpoint created now).2.bucketFor key
        other later =
      (limiter.bucketFor key endpoint created).consume
        now := by
  unfold bucketFor check
  dsimp only
  rw [HashMap.lookup_insert_eq_ite, if_pos rfl]
  rfl

/- Checks of a key at one instant. -/
theorem bucketFor_replicate
    (maxAge : Duration)
    (limiter : ExactLimiter)
    (key : String)
    (endpoint : Option String)
    (now : Rat)
    (count : Nat) :
    (Runs.run (step maxAge) limiter
        (List.replicate count
          (.check key endpoint now now))).bucketFor key
        endpoint now =
      (ExactBucket.consume now)^[count]
        (limiter.bucketFor key endpoint now) := by
  induction count generalizing limiter with
  | zero => rfl
  | succ count ih =>
      rw [List.replicate_succ, Runs.run_cons, ih,
        Function.iterate_succ_apply]
      congr 1
      exact
        bucketFor_check limiter key endpoint endpoint now now
          now

/- After a check, it matters no more who asked for it. -/
theorem bucketFor_replicate_succ
    (maxAge : Duration)
    (limiter : ExactLimiter)
    (key : String)
    (endpoint other : Option String)
    (now later : Rat)
    (count : Nat) :
    (Runs.run (step maxAge) limiter
        (List.replicate (count + 1)
          (.check key endpoint now now))).bucketFor key
        other later =
      (ExactBucket.consume now)^[count + 1]
        (limiter.bucketFor key endpoint now) := by
  rw [List.replicate_succ', Runs.run_concat,
    Function.iterate_succ_apply', ← bucketFor_replicate]
  exact bucketFor_check _ key endpoint other now now later

/- A key that never asked gets a new bucket. -/
theorem bucketFor_new
    (defaultConfig : ExactConfig)
    (endpointConfigs : HashMap String ExactConfig)
    (key : String)
    (endpoint : Option String)
    (created : Rat) :
    (new defaultConfig endpointConfigs).bucketFor key
        endpoint created =
      ExactBucket.new
        ((new defaultConfig endpointConfigs).configFor
          endpoint).maxTokens
        ((new defaultConfig endpointConfigs).configFor
          endpoint).refillRate
        created := rfl

/- All buckets were refilled at this time. -/
def RefilledAt
    (now : Rat)
    (limiter : ExactLimiter) : Prop :=
  ∀ key bucket,
    limiter.buckets.lookup key = some bucket →
      bucket.lastRefill = now

theorem refilledAt_replicate
    (maxAge : Duration)
    {limiter : ExactLimiter}
    (key : String)
    (endpoint : Option String)
    {now : Rat}
    (count : Nat)
    (hRefilled : RefilledAt now limiter) :
    RefilledAt now
      (Runs.run (step maxAge) limiter
        (List.replicate count
          (.check key endpoint now now))) := by
  induction count generalizing limiter with
  | zero => exact hRefilled
  | succ count ih =>
      apply ih
      intro other bucket hLookup
      unfold step check at hLookup
      dsimp only at hLookup
      rw [HashMap.lookup_insert_eq_ite] at hLookup
      split at hLookup
      · cases hLookup
        exact
          ((limiter.bucketFor key endpoint
            now).tryConsume_spec 1 now).lastRefill
      · exact hRefilled other bucket hLookup

/- At the age of its buckets, a cleanup drops them all. -/
theorem lookup_cleanup_of_refilledAt
    (maxAge : Duration)
    {limiter : ExactLimiter}
    (hRefilled : RefilledAt 0 limiter)
    (key : String) :
    (limiter.cleanup maxAge maxAge.asSecs).buckets.lookup
        key =
      none := by
  cases hLookup :
      (limiter.cleanup maxAge maxAge.asSecs).buckets.lookup
        key with
  | none => rfl
  | some bucket =>
      obtain ⟨hStored, hRecent⟩ := lookup_cleanup.mp hLookup
      rw [hRefilled key bucket hStored, sub_zero] at hRecent
      exact
        absurd hRecent (not_lt.mpr (le_max_right _ _))

/- Calls at one instant are in order. -/
theorem inOrder_replicate
    (key : String)
    (endpoint : Option String)
    (now : Rat)
    (count : Nat) :
    LimiterCall.InOrder
      (List.replicate count
        (.check key endpoint now now)) := by
  constructor
  · intro call hCall
    rw [List.eq_of_mem_replicate hCall]
    exact le_rfl
  · exact List.pairwise_replicate.mpr (Or.inr le_rfl)

/-
  A key asks some times at once, and again, after a cleanup,
  at another time.
-/
def checksAroundCleanup
    (key : String)
    (first second : Option String)
    (asked count : Nat)
    (now : Rat) : List LimiterCall :=
  List.replicate asked (.check key first 0 0) ++
    .cleanup now ::
      List.replicate count (.check key second now now)

/- Without the cleanup, the checks are left. -/
theorem filter_checksAroundCleanup
    (key : String)
    (first second : Option String)
    (asked count : Nat)
    (now : Rat) :
    (checksAroundCleanup key first second asked count
        now).filter LimiterCall.isCheck =
      List.replicate asked (.check key first 0 0) ++
        List.replicate count
          (.check key second now now) := by
  unfold checksAroundCleanup
  rw [List.filter_append,
    List.filter_cons_of_neg Bool.false_ne_true,
    List.filter_replicate_of_pos rfl,
    List.filter_replicate_of_pos rfl]

/- They are in order, also with a later check. -/
theorem inOrder_checksAroundCleanup
    {now later : Rat}
    (hNow : 0 ≤ now)
    (key : String)
    (first second : Option String)
    (asked count : Nat)
    (hLater : now ≤ later) :
    LimiterCall.InOrder
      (checksAroundCleanup key first second asked count
          now ++
        [.check key second now later]) := by
  unfold checksAroundCleanup
  rw [List.append_assoc]
  have hFirst :
      ∀ call ∈
        LimiterCall.cleanup now ::
            List.replicate count
              (.check key second now now) ++
          [.check key second now later],
        call.first = now := by
    intro call hCall
    rcases List.mem_append.mp hCall with hCall | hCall
    · rcases List.mem_cons.mp hCall with rfl | hCall
      · rfl
      · rw [List.eq_of_mem_replicate hCall]
        rfl
    · rw [List.mem_singleton.mp hCall]
      rfl
  have hLast :
      LimiterCall.InOrder
        [.check key second now later] :=
    ⟨List.forall_mem_singleton.mpr hLater,
      List.pairwise_singleton _ _⟩
  have hLate :
      LimiterCall.InOrder
        (List.replicate count (.check key second now now) ++
          [.check key second now later]) := by
    refine
      inOrder_append.mpr
        ⟨inOrder_replicate key second now count, hLast, ?_⟩
    intro call hCall next hNext
    rw [List.eq_of_mem_replicate hCall,
      List.mem_singleton.mp hNext]
    exact le_rfl
  refine
    inOrder_append.mpr
      ⟨inOrder_replicate key first 0 asked, ⟨?_, ?_⟩, ?_⟩
  · exact List.forall_mem_cons.mpr ⟨le_rfl, hLate.1⟩
  · refine List.pairwise_cons.mpr ⟨?_, hLate.2⟩
    intro call hCall
    exact (hFirst call (List.mem_cons_of_mem _ hCall)).ge
  · intro call hCall next hNext
    rw [List.eq_of_mem_replicate hCall, hFirst next hNext]
    exact hNow

section Runs

variable {maxAge : Duration}
variable {defaultConfig : ExactConfig}
variable {endpointConfigs : HashMap String ExactConfig}

/- After a cleanup at that age the key has a new bucket. -/
theorem bucketFor_checksAroundCleanup
    (maxAge : Duration)
    (defaultConfig : ExactConfig)
    (endpointConfigs : HashMap String ExactConfig)
    (key : String)
    (first second : Option String)
    (asked count : Nat) :
    let start := new defaultConfig endpointConfigs
    (Runs.run (step maxAge) start
        (checksAroundCleanup key first second asked count
          maxAge.asSecs)).bucketFor key second
        maxAge.asSecs =
      (ExactBucket.consume maxAge.asSecs)^[count]
        (ExactBucket.new
          (start.configFor second).maxTokens
          (start.configFor second).refillRate
          maxAge.asSecs) := by
  intro start
  let asks :=
    Runs.run (step maxAge) start
      (List.replicate asked (.check key first 0 0))
  have hRefilled : RefilledAt 0 asks :=
    refilledAt_replicate maxAge key first asked nofun
  have hDropped :=
    lookup_cleanup_of_refilledAt maxAge hRefilled key
  have hConfig :
      asks.configFor second = start.configFor second :=
    Runs.run_of_invariant (hasConfigs_step maxAge start)
      (List.replicate asked (.check key first 0 0))
      (fun _ => rfl) second
  unfold checksAroundCleanup
  rw [Runs.run_append, Runs.run_cons, bucketFor_replicate]
  congr 1
  change
    ((asks.cleanup maxAge maxAge.asSecs).buckets.lookup
        key).getD
        (ExactBucket.new (asks.configFor second).maxTokens
          (asks.configFor second).refillRate
          maxAge.asSecs) =
      _
  rw [hDropped, Option.getD_none, hConfig]

/-
  A key asks at once, and again at the age for a cleanup:
  what a new bucket has for the last check there must have
  been in the old bucket too.
-/
theorem level_of_cleanupHarmless
    (hHarmless :
      (new defaultConfig endpointConfigs).CleanupHarmless
        maxAge)
    (key : String)
    (first second : Option String)
    (asked count : Nat)
    {later : Rat}
    (hLater : maxAge.asSecs ≤ later)
    (hNew :
      let config :=
        (new defaultConfig endpointConfigs).configFor second
      1 ≤
        ((ExactBucket.consume maxAge.asSecs)^[count]
          (ExactBucket.new config.maxTokens config.refillRate
            maxAge.asSecs)).level later) :
    1 ≤
      ((ExactBucket.consume maxAge.asSecs)^[count]
        ((Runs.run (step maxAge)
            (new defaultConfig endpointConfigs)
            (List.replicate asked
              (.check key first 0 0))).bucketFor key second
          maxAge.asSecs)).level later := by
  have hAllowed :
      ((Runs.run (step maxAge)
          (new defaultConfig endpointConfigs)
          (checksAroundCleanup key first second asked count
            maxAge.asSecs)).check key second
        maxAge.asSecs later).1 = true := by
    rw [check_iff, bucketFor_checksAroundCleanup]
    exact hNew
  have hAnswer :=
    hHarmless
      (checksAroundCleanup key first second asked count
        maxAge.asSecs)
      key second maxAge.asSecs later
      (inOrder_checksAroundCleanup maxAge.asSecs_nonneg key
        first second asked count hLater)
      hAllowed
  rw [check_iff, filter_checksAroundCleanup, Runs.run_append,
    bucketFor_replicate] at hAnswer
  exact hAnswer

/- A configuration that does not fill its bucket is told. -/
theorem fills_of_cleanupHarmless
    (hHarmless :
      (new defaultConfig endpointConfigs).CleanupHarmless
        maxAge)
    (endpoint : Option String)
    (hSome :
      1 ≤
        ((new defaultConfig endpointConfigs).configFor
          endpoint).maxTokens.toNat) :
    (((new defaultConfig endpointConfigs).configFor
        endpoint).maxTokens.toNat : Rat) ≤
      ((new defaultConfig endpointConfigs).configFor
        endpoint).refillRate * maxAge.asSecs := by
  let config :=
    (new defaultConfig endpointConfigs).configFor endpoint
  let made :=
    ExactBucket.new config.maxTokens config.refillRate 0
  obtain ⟨count, hCount⟩ := Nat.exists_eq_add_of_le' hSome
  have hTokens :
      (config.maxTokens.toNat : Rat) = count + 1 := by
    rw [hCount]
    push_cast
    rfl
  have hKept :=
    level_of_cleanupHarmless hHarmless "" endpoint endpoint
      (count + 1) count le_rfl
      ((ExactBucket.one_le_level_iterate _ _ _).mpr
        (by
          rw [ExactBucket.level_new_created, ← hTokens]))
  rw [ExactBucket.one_le_level_iterate,
    bucketFor_replicate_succ, bucketFor_new, ← hCount,
    ← hTokens] at hKept
  have hLevel :
      ((ExactBucket.consume 0)^[made.maxTokens.toNat]
          made).level maxAge.asSecs =
        min ((maxAge.asSecs - 0) * made.refillRate)
          made.maxTokens.toNat :=
    ExactBucket.level_emptied hSome
      (ExactBucket.level_new_created _ _ _).ge
      maxAge.asSecs_nonneg
  have hFlow := (hKept.trans hLevel.le).trans (min_le_left _ _)
  rw [sub_zero, mul_comm] at hFlow
  exact hFlow

/- A configuration of fewer tokens than another is told. -/
theorem maxTokens_le_of_cleanupHarmless
    (hHarmless :
      (new defaultConfig endpointConfigs).CleanupHarmless
        maxAge)
    (first second : Option String) :
    ((new defaultConfig endpointConfigs).configFor
        second).maxTokens.toNat ≤
      ((new defaultConfig endpointConfigs).configFor
        first).maxTokens.toNat := by
  by_contra hMore
  rw [not_le, ← Nat.succ_le_iff] at hMore
  have hKept :=
    level_of_cleanupHarmless hHarmless "" first second 1
      ((new defaultConfig endpointConfigs).configFor
        first).maxTokens.toNat
      le_rfl
      ((ExactBucket.one_le_level_iterate _ _ _).mpr
        (by
          rw [ExactBucket.level_new_created]
          exact_mod_cast hMore))
  rw [ExactBucket.one_le_level_iterate,
    bucketFor_replicate_succ _ _ _ _ _ _ _ 0, bucketFor_new,
    Function.iterate_one] at hKept
  have hLevel :=
    hKept.trans (ExactBucket.level_le _ maxAge.asSecs)
  rw [ExactBucket.maxTokens_consume] at hLevel
  change
    (((new defaultConfig endpointConfigs).configFor
        first).maxTokens.toNat + 1 : Rat) ≤
      ((new defaultConfig endpointConfigs).configFor
        first).maxTokens.toNat
    at hLevel
  linarith

/- A configuration that is slower than another is told. -/
theorem refillRate_le_of_cleanupHarmless
    (hHarmless :
      (new defaultConfig endpointConfigs).CleanupHarmless
        maxAge)
    (first second : Option String)
    (hSome :
      1 ≤
        ((new defaultConfig endpointConfigs).configFor
          first).maxTokens.toNat) :
    ((new defaultConfig endpointConfigs).configFor
        second).refillRate ≤
      ((new defaultConfig endpointConfigs).configFor
        first).refillRate := by
  let slow :=
    (new defaultConfig endpointConfigs).configFor first
  let fast :=
    (new defaultConfig endpointConfigs).configFor second
  have hTokens : fast.maxTokens.toNat = slow.maxTokens.toNat :=
    Nat.le_antisymm
      (maxTokens_le_of_cleanupHarmless hHarmless first second)
      (maxTokens_le_of_cleanupHarmless hHarmless second first)
  have hFills :
      (slow.maxTokens.toNat : Rat) ≤
        slow.refillRate * maxAge.asSecs :=
    fills_of_cleanupHarmless hHarmless first hSome
  have hOne : (1 : Rat) ≤ slow.maxTokens.toNat := by
    exact_mod_cast hSome
  have hPositive : 0 < slow.refillRate := by
    by_contra hNegative
    have hFlow : slow.refillRate * maxAge.asSecs ≤ 0 :=
      mul_nonpos_of_nonpos_of_nonneg (not_lt.mp hNegative)
        maxAge.asSecs_nonneg
    linarith
  by_contra hSlower
  rw [not_le] at hSlower
  have hFast : 0 < fast.refillRate := hPositive.trans hSlower
  -- The time in which the fast one gets a single token.
  let later := maxAge.asSecs + 1 / fast.refillRate
  have hLater : maxAge.asSecs ≤ later :=
    le_add_of_nonneg_right (one_div_pos.mpr hFast).le
  have hWait : later - maxAge.asSecs = 1 / fast.refillRate :=
    add_sub_cancel_left _ _
  have hNew :
      1 ≤
        ((ExactBucket.consume
            maxAge.asSecs)^[fast.maxTokens.toNat]
          (ExactBucket.new fast.maxTokens fast.refillRate
            maxAge.asSecs)).level later := by
    have hSomeOf : 1 ≤ fast.maxTokens.toNat := by
      rw [hTokens]
      exact hSome
    have hLevel :=
      @ExactBucket.level_emptied
        (ExactBucket.new fast.maxTokens fast.refillRate
          maxAge.asSecs)
        _ _ hSomeOf
        (ExactBucket.level_new_created _ _ _).ge hLater
    have hFlow :
        (later - maxAge.asSecs) * fast.refillRate = 1 := by
      rw [hWait, one_div_mul_cancel hFast.ne']
    refine le_trans (le_min ?_ ?_) hLevel.ge
    · exact hFlow.ge
    · change (1 : Rat) ≤ fast.maxTokens.toNat
      rw [hTokens]
      exact hOne
  have hToken :=
    level_of_cleanupHarmless hHarmless "" first second 1
      fast.maxTokens.toNat hLater hNew
  rw [bucketFor_replicate_succ _ _ _ _ _ _ _ 0,
    bucketFor_new, Function.iterate_one, hTokens] at hToken
  have hLevel :=
    @ExactBucket.level_consume_emptied
      (ExactBucket.new slow.maxTokens slow.refillRate 0) _ _
      (Nat.cast_nonneg _) hSome hPositive.le hFills hLater
  have hFlow :
      1 ≤ (later - maxAge.asSecs) * slow.refillRate :=
    (hToken.trans hLevel.le).trans (min_le_left _ _)
  rw [hWait, one_div_mul_eq_div, one_le_div hFast] at hFlow
  linarith

theorem fillsWithin_of_cleanupHarmless
    (hHarmless :
      (new defaultConfig endpointConfigs).CleanupHarmless
        maxAge) :
    (new defaultConfig endpointConfigs).FillsWithin
      maxAge := by
  by_cases hNone :
      ∀ endpoint,
        ((new defaultConfig endpointConfigs).configFor
          endpoint).maxTokens = 0
  · exact Or.inl hNone
  · obtain ⟨asker, hAsker⟩ := not_forall.mp hNone
    have hPositive :
        1 ≤
          ((new defaultConfig endpointConfigs).configFor
            asker).maxTokens.toNat := by
      rw [Nat.one_le_iff_ne_zero]
      intro hZero
      exact hAsker (UInt32.toNat_inj.mp hZero)
    have hSome (endpoint : Option String) :
        1 ≤
          ((new defaultConfig endpointConfigs).configFor
            endpoint).maxTokens.toNat :=
      hPositive.trans
        (maxTokens_le_of_cleanupHarmless hHarmless endpoint
          asker)
    refine
      Or.inr
        ⟨?_, fills_of_cleanupHarmless hHarmless none
          (hSome none)⟩
    intro endpoint
    have hTokens :
        ((new defaultConfig endpointConfigs).configFor
            endpoint).maxTokens =
          defaultConfig.maxTokens :=
      UInt32.toNat_inj.mp
        (Nat.le_antisymm
          (maxTokens_le_of_cleanupHarmless hHarmless none
            endpoint)
          (maxTokens_le_of_cleanupHarmless hHarmless endpoint
            none))
    have hRate :
        ((new defaultConfig endpointConfigs).configFor
            endpoint).refillRate =
          defaultConfig.refillRate :=
      le_antisymm
        (refillRate_le_of_cleanupHarmless hHarmless none
          endpoint (hSome none))
        (refillRate_le_of_cleanupHarmless hHarmless endpoint
          none (hSome endpoint))
    exact ExactConfig.ext hTokens hRate

end Runs

/-
  Cleanups never widen a limit exactly where there are no
  tokens at all, or where all configurations are the same
  one and it fills its bucket within the age.
-/
theorem cleanupHarmless_iff
    (maxAge : Duration)
    (defaultConfig : ExactConfig)
    (endpointConfigs : HashMap String ExactConfig) :
    (new defaultConfig endpointConfigs).CleanupHarmless
        maxAge ↔
      (new defaultConfig endpointConfigs).FillsWithin
        maxAge := by
  constructor
  · exact fillsWithin_of_cleanupHarmless
  · exact cleanupHarmless_of_fillsWithin

/-
  Five tokens and one a second: after a cleanup of the age
  of a second, a key that has used up its tokens gets two
  more at once.
-/
theorem not_cleanupHarmless_sample :
    ¬ (new ⟨5, 1⟩ ∅).CleanupHarmless
        (Duration.fromSecs 1) := by
  intro hHarmless
  have hAllowed :=
    hHarmless
      (List.replicate 5 (.check "user-1" none 0 0) ++
        [.cleanup 1, .check "user-1" none 1 1])
      "user-1" none 1 1 (by decide +kernel)
      (by decide +kernel)
  revert hAllowed
  decide +kernel

end ExactLimiter

end IsaWorkspace
