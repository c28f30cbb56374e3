import IsaWorkspace.Foundations.InflowBound
import IsaWorkspace.Foundations.Runs
import IsaWorkspace.RateLimit.Limiter

/-
  The token bucket with exact numbers.

  Tokens, the refill rate and the time are rational numbers
  here, so that nothing is rounded.  Each call is a draw on
  the bucket, and the bound on what is drawn in an interval
  of time holds for every run of calls.

  Main declarations:
    * `ExactBucket`, `ExactBucket.tryConsume`
    * `ExactBucket.tryConsume_spec`
    * `ConsumeHistory`, `ConsumeHistory.totalIn`
    * `ExactBucket.draws`, `ExactBucket.follows_draws`
    * `ConsumeHistory.totalIn_le`
-/

------------------------------------------------------------
-- Buckets
------------------------------------------------------------

namespace IsaWorkspace

/- Token bucket for rate limiting, without rounding. -/
structure ExactBucket where
  maxTokens : UInt32
  tokens : Rat
  lastRefill : Rat
  refillRate : Rat
deriving DecidableEq

namespace ExactBucket

/- A full bucket. -/
def new
    (maxTokens : UInt32)
    (refillRate now : Rat) : ExactBucket where
  maxTokens := maxTokens
  tokens := maxTokens.toNat
  lastRefill := now
  refillRate := refillRate

/-
  Refill tokens based on elapsed time, which is zero for a
  clock that went back.
-/
def refill
    (now : Rat)
    (bucket : ExactBucket) : ExactBucket :=
  let elapsed := max 0 (now - bucket.lastRefill)
  let newTokens := elapsed * bucket.refillRate
  { bucket with
    tokens :=
      min (bucket.tokens + newTokens) bucket.maxTokens.toNat
    lastRefill := now }

/- Try to consume tokens. -/
def tryConsume
    (tokens : UInt32)
    (now : Rat)
    (bucket : ExactBucket) : Bool × ExactBucket :=
  let bucket := bucket.refill now
  if (tokens.toNat : Rat) ≤ bucket.tokens then
    (true,
      { bucket with tokens := bucket.tokens - tokens.toNat })
  else
    (false, bucket)

/- The tokens are between none and the maximum. -/
def InCapacity
    (bucket : ExactBucket) : Prop :=
  0 ≤ bucket.tokens ∧ bucket.tokens ≤ bucket.maxTokens.toNat

/- What a call draws on the bucket. -/
def drawOf
    (tokens : UInt32)
    (now : Rat)
    (bucket : ExactBucket) : Draw Rat where
  time := now
  taken :=
    if (bucket.tryConsume tokens now).1 then tokens.toNat
    else 0
  left := (bucket.tryConsume tokens now).2.tokens

/-
  What a call does: it splits what there is after a refill
  into what it takes and what it leaves.
-/
structure ConsumeSpec
    (now : Rat)
    (before after : ExactBucket)
    (draw : Draw Rat) : Prop where
  maxTokens : after.maxTokens = before.maxTokens
  refillRate : after.refillRate = before.refillRate
  lastRefill : after.lastRefill = now
  split :
    draw.taken + draw.left =
      min
        (before.tokens +
          max 0 (now - before.lastRefill) *
            before.refillRate)
        before.maxTokens.toNat
  taken_nonneg : 0 ≤ draw.taken
  left_nonneg :
    0 ≤ before.tokens → 0 ≤ before.refillRate →
      0 ≤ draw.left

theorem tryConsume_spec
    (tokens : UInt32)
    (now : Rat)
    (bucket : ExactBucket) :
    ConsumeSpec now bucket (bucket.tryConsume tokens now).2
      (bucket.drawOf tokens now) := by
  unfold drawOf tryConsume
  dsimp only
  split
  · next hEnough =>
      exact
        { maxTokens := rfl
          refillRate := rfl
          lastRefill := rfl
          split := add_sub_cancel _ _
          taken_nonneg := Nat.cast_nonneg _
          left_nonneg := fun _ _ => sub_nonneg.mpr hEnough }
  · exact
      { maxTokens := rfl
        refillRate := rfl
        lastRefill := rfl
        split := zero_add _
        taken_nonneg := le_rfl
        left_nonneg := fun hTokens hRate =>
          le_min
            (add_nonneg hTokens
              (mul_nonneg (le_max_left _ _) hRate))
            (Nat.cast_nonneg _) }

variable {bucket : ExactBucket}

/- A call draws within the capacity of the bucket. -/
theorem within_drawOf
    (tokens : UInt32)
    (now : Rat)
    (hRate : 0 ≤ bucket.refillRate)
    (hTokens : 0 ≤ bucket.tokens) :
    (bucket.drawOf tokens now).Within
      (bucket.maxTokens.toNat : Rat) := by
  have hSpec := bucket.tryConsume_spec tokens now
  constructor
  · exact hSpec.left_nonneg hTokens hRate
  · rw [hSpec.split]
    exact min_le_right _ _

theorem inCapacity_tryConsume
    (tokens : UInt32)
    (now : Rat)
    (hRate : 0 ≤ bucket.refillRate)
    (hTokens : 0 ≤ bucket.tokens) :
    (bucket.tryConsume tokens now).2.InCapacity := by
  have hSpec := bucket.tryConsume_spec tokens now
  have hDraw := within_drawOf tokens now hRate hTokens
  constructor
  · exact hDraw.left_nonneg
  · rw [hSpec.maxTokens]
    calc (bucket.drawOf tokens now).left
        ≤ (bucket.drawOf tokens now).taken +
            (bucket.drawOf tokens now).left :=
          le_add_of_nonneg_left hSpec.taken_nonneg
      _ ≤ bucket.maxTokens.toNat := hDraw.total_le

end ExactBucket

end IsaWorkspace

------------------------------------------------------------
-- Runs of Calls
------------------------------------------------------------

namespace IsaWorkspace

/- A bucket and the calls on it that were successful. -/
structure ConsumeHistory where
  bucket : ExactBucket
  consumed : List (UInt32 × Rat)

namespace ConsumeHistory

def start
    (maxTokens : UInt32)
    (refillRate now : Rat) : ConsumeHistory where
  bucket := ExactBucket.new maxTokens refillRate now
  consumed := []

/- A call for some tokens, with its reading of the clock. -/
def step
    (history : ConsumeHistory)
    (call : UInt32 × Rat) : ConsumeHistory :=
  let tried := history.bucket.tryConsume call.1 call.2
  { bucket := tried.2
    consumed :=
      if tried.1 then history.consumed ++ [call]
      else history.consumed }

/- All tokens that were consumed in a closed interval. -/
def totalIn
    (history : ConsumeHistory)
    (first last : Rat) : Nat :=
  ((history.consumed.filter fun call =>
      decide (first ≤ call.2 ∧ call.2 ≤ last)).map
    fun call => call.1.toNat).sum

end ConsumeHistory

namespace ExactBucket

/- What the calls of a run draw, one after the other. -/
def draws :
    ExactBucket → List (UInt32 × Rat) → List (Draw Rat)
| _, [] => []
| bucket, call :: rest =>
    bucket.drawOf call.1 call.2 ::
      draws (bucket.tryConsume call.1 call.2).2 rest

variable {bucket : ExactBucket}
variable {calls : List (UInt32 × Rat)}

theorem within_draws
    (hRate : 0 ≤ bucket.refillRate)
    (hTokens : 0 ≤ bucket.tokens) :
    ∀ draw ∈ bucket.draws calls,
      draw.Within (bucket.maxTokens.toNat : Rat) := by
  induction calls generalizing bucket with
  | nil =>
      intro draw hDraw
      cases hDraw
  | cons call rest ih =>
      have hSpec := bucket.tryConsume_spec call.1 call.2
      have hKept :=
        inCapacity_tryConsume call.1 call.2 hRate hTokens
      intro draw hDraw
      rcases List.mem_cons.mp hDraw with rfl | hLater
      · exact within_drawOf call.1 call.2 hRate hTokens
      · rw [← hSpec.maxTokens]
        apply ih _ hKept.1 draw hLater
        rw [hSpec.refillRate]
        exact hRate

/- By a clock that does not go back, draws follow the rate. -/
theorem follows_draws
    (hRate : 0 ≤ bucket.refillRate)
    (hClock :
      calls.Pairwise fun earlier later =>
        earlier.2 ≤ later.2) :
    (bucket.draws calls).IsChain
      (Draw.Follows bucket.refillRate) := by
  induction calls generalizing bucket with
  | nil => exact List.isChain_nil
  | cons call rest ih =>
      rcases List.pairwise_cons.mp hClock with
        ⟨hLater, hRest⟩
      have hSpec := bucket.tryConsume_spec call.1 call.2
      have hChain := ih (hSpec.refillRate ▸ hRate) hRest
      rw [hSpec.refillRate] at hChain
      cases rest with
      | nil => exact List.isChain_singleton _
      | cons next rest =>
          refine List.isChain_cons_cons.mpr ⟨?_, hChain⟩
          have hNow : call.2 ≤ next.2 :=
            hLater next List.mem_cons_self
          have hNext :=
            (bucket.tryConsume call.1
              call.2).2.tryConsume_spec next.1 next.2
          constructor
          · exact hNow
          · rw [hNext.split, hSpec.lastRefill,
              hSpec.refillRate,
              max_eq_right (sub_nonneg.mpr hNow),
              mul_comm]
            exact min_le_left _ _

end ExactBucket

namespace ConsumeHistory

/- What is consumed in an interval is what is drawn in it. -/
theorem totalIn_run
    (first last : Rat)
    (history : ConsumeHistory)
    (calls : List (UInt32 × Rat)) :
    ((Runs.run step history calls).totalIn first last : Rat) =
      history.totalIn first last +
        Draw.takenIn first last
          (history.bucket.draws calls) := by
  induction calls generalizing history with
  | nil => exact (add_zero _).symm
  | cons call rest ih =>
      have hStep :
          ((history.step call).totalIn first last : Rat) =
            history.totalIn first last +
              Draw.takenIn first last
                [history.bucket.drawOf call.1 call.2] := by
        unfold step totalIn Draw.takenIn Draw.isIn
          ExactBucket.drawOf
        by_cases hTaken :
            (history.bucket.tryConsume call.1 call.2).1 = true
        · by_cases hIn : first ≤ call.2 ∧ call.2 ≤ last
          · simp [hTaken, hIn, List.filter_append]
          · simp [hTaken, hIn, List.filter_append]
        · by_cases hIn : first ≤ call.2 ∧ call.2 ≤ last
          · simp [hTaken, hIn]
          · simp [hTaken, hIn]
      rw [Runs.run_cons, ih, hStep, add_assoc]
      congr 1
      change
        _ =
          Draw.takenIn first last
            (history.bucket.drawOf call.1 call.2 ::
              (history.step call).bucket.draws rest)
      rw [Draw.takenIn_cons, Draw.takenIn_cons, add_assoc]
      congr 1
      exact zero_add _

/- The bucket has these settings and is within its range. -/
structure InRange
    (maxTokens : UInt32)
    (refillRate : Rat)
    (history : ConsumeHistory) : Prop where
  maxTokens : history.bucket.maxTokens = maxTokens
  refillRate : history.bucket.refillRate = refillRate
  inCapacity : history.bucket.InCapacity

theorem inRange_step
    {maxTokens : UInt32}
    {refillRate : Rat}
    (hRate : 0 ≤ refillRate)
    (history : ConsumeHistory)
    (call : UInt32 × Rat)
    (hRange : InRange maxTokens refillRate history) :
    InRange maxTokens refillRate (history.step call) := by
  have hSpec :=
    history.bucket.tryConsume_spec call.1 call.2
  constructor
  · exact hSpec.maxTokens.trans hRange.maxTokens
  · exact hSpec.refillRate.trans hRange.refillRate
  · apply
      ExactBucket.inCapacity_tryConsume _ _ _
        hRange.inCapacity.1
    rw [hRange.refillRate]
    exact hRate

/-
  In every run of calls by a clock that does not go back,
  the tokens consumed in an interval are at most the maximum
  and what flows in meanwhile, and the tokens stay between
  none and the maximum.
-/
theorem totalIn_le
    (maxTokens : UInt32)
    (refillRate now : Rat)
    (calls : List (UInt32 × Rat))
    (hRate : 0 ≤ refillRate)
    (hClock :
      calls.Pairwise fun earlier later =>
        earlier.2 ≤ later.2) :
    (∀ first last, first ≤ last →
      ((Runs.run step (start maxTokens refillRate now)
          calls).totalIn first last : Rat) ≤
        maxTokens.toNat + refillRate * (last - first)) ∧
      Runs.Throughout step
        (fun history => history.bucket.InCapacity)
        (start maxTokens refillRate now) calls := by
  have hFull :
      InRange maxTokens refillRate
        (start maxTokens refillRate now) :=
    ⟨rfl, rfl, Nat.cast_nonneg _, le_rfl⟩
  constructor
  · intro first last hInterval
    have hWithin :=
      @ExactBucket.within_draws
        (start maxTokens refillRate now).bucket calls hRate
        hFull.inCapacity.1
    have hFollows :=
      @ExactBucket.follows_draws
        (start maxTokens refillRate now).bucket calls hRate
        hClock
    have hNone :
        ((start maxTokens refillRate now).totalIn first
          last : Rat) = 0 := Nat.cast_zero
    rw [totalIn_run, hNone, zero_add]
    exact
      Draw.takenIn_le hRate (Nat.cast_nonneg _) hFollows
        hWithin hInterval
  · exact
      (Runs.throughout_of_step (inRange_step hRate) calls
        hFull).mono
        fun _ hRange => hRange.inCapacity

/- A full bucket is emptied, and filled again by the end. -/
theorem totalIn_le_sample :
    ((Runs.run step (start 2 1 0)
        [(2, 0), (1, 1), (1, 3 / 2),
          (1, 2)]).totalIn 0 2 : Rat) ≤
      (2 : UInt32).toNat + 1 * (2 - 0) :=
  (totalIn_le 2 1 0 [(2, 0), (1, 1), (1, 3 / 2), (1, 2)]
    (by decide) (by decide +kernel)).1 0 2 (by decide)

end ConsumeHistory

end IsaWorkspace
