import IsaWorkspace.Foundations.Runs
import IsaWorkspace.RateLimit.Limiter
import Mathlib.Data.List.TakeWhile

/-
  The bound of a sliding window, at every position.

  The limiter sees only the windows that end at a check.  It
  keeps every allowed request that can still lie in such a
  window, so the bound at the last allowed request of any
  other window carries over to that window.

  Main declarations:
    * `SlidingHistory`, `SlidingHistory.step`
    * `SlidingWindowLimiter.check_spec`
    * `SlidingHistory.Covers`, `covers_step`
    * `SlidingHistory.WithinWindows`, `withinWindows_step`
    * `SlidingHistory.allowedWithin_run`
-/

------------------------------------------------------------
-- One Check
------------------------------------------------------------

namespace IsaWorkspace

namespace SlidingWindowLimiter

/- The kept request times of a key. -/
def timestamps
    (limiter : SlidingWindowLimiter)
    (key : String) : List Timespec :=
  (limiter.requests.lookup key).getD []

/- The length of the window in nanoseconds. -/
def windowNanos
    (limiter : SlidingWindowLimiter) : Int :=
  limiter.windowSecs.toNat * 10 ^ 9

/-
  What a check does: it forgets times that are older than
  the window, and keeps its own time if it is allowed, which
  takes that fewer than the maximum were left.
-/
structure CheckSpec
    (key : String)
    (now : Timespec)
    (before : SlidingWindowLimiter)
    (result : Option RateLimitResult)
    (after : SlidingWindowLimiter) : Prop where
  windowSecs : after.windowSecs = before.windowSecs
  maxRequests : after.maxRequests = before.maxRequests
  others :
    ∀ other, other ≠ key →
      after.timestamps other = before.timestamps other
  kept :
    ∃ dropped kept,
      before.timestamps key = dropped ++ kept ∧
        (∀ timestamp ∈ dropped,
          timestamp.nanos + before.windowNanos < now.nanos) ∧
        after.timestamps key =
          kept ++
            (if result = some .allowed then [now] else []) ∧
        (result = some .allowed →
          kept.length < before.maxRequests.toNat)

/- Storing the times of one key leaves the others alone. -/
theorem timestamps_insert
    (limiter : SlidingWindowLimiter)
    (key other : String)
    (kept : List Timespec) :
    timestamps
        { limiter with
          requests := limiter.requests.insert key kept }
        other =
      if other = key then kept
      else limiter.timestamps other := by
  unfold timestamps
  rw [HashMap.lookup_insert_eq_ite]
  split <;> rfl

/- An instant that there is has the exact difference. -/
theorem nanos_of_sub
    {instant difference : Timespec}
    {duration : Duration}
    (hSub : instant.sub duration = some difference) :
    difference.nanos = instant.nanos - duration.nanos := by
  unfold Timespec.sub Timespec.ofNanos? at hSub
  split at hSub
  · cases hSub
    rfl
  · cases hSub

theorem check_spec
    (key : String)
    (now : Timespec)
    (limiter : SlidingWindowLimiter) :
    CheckSpec key now limiter
      (limiter.check key now).1 (limiter.check key now).2 := by
  unfold check
  dsimp only
  split
  · refine
      ⟨rfl, rfl, fun _ _ => rfl, [],
        limiter.timestamps key, rfl, List.forall_mem_nil _,
        ?_, nofun⟩
    rw [if_neg nofun, List.append_nil]
  · next windowStart hStart =>
      have hNanos := nanos_of_sub hStart
      let old (timestamp : Timespec) : Bool :=
        decide (timestamp < windowStart)
      have hSplit :=
        List.takeWhile_append_dropWhile (p := old)
          (l := limiter.timestamps key)
      have hDropped :
          ∀ timestamp ∈ (limiter.timestamps key).takeWhile old,
            timestamp.nanos + limiter.windowNanos <
              now.nanos := by
        intro timestamp hTimestamp
        have hOld : old timestamp = true :=
          List.mem_takeWhile_imp hTimestamp
        have hBefore : timestamp.nanos < windowStart.nanos :=
          of_decide_eq_true hOld
        rw [hNanos] at hBefore
        change
          timestamp.nanos +
              (limiter.windowSecs.toNat * 10 ^ 9 : Int) <
            now.nanos
        change
          timestamp.nanos <
            now.nanos -
              ((limiter.windowSecs.toNat * 10 ^ 9 : Nat) :
                Int)
          at hBefore
        push_cast at hBefore
        omega
      split
      · next hBelow =>
          refine
            ⟨rfl, rfl, ?_, _, _, hSplit.symm, hDropped, ?_,
              fun _ => hBelow⟩
          · intro other hOther
            rw [timestamps_insert, if_neg hOther]
          · rw [timestamps_insert, if_pos rfl, if_pos rfl]
            rfl
      · next hFull =>
          have hLimited :
              ∀ retryAfter : Option Duration,
                retryAfter.map (fun retryAfter =>
                    RateLimitResult.limited retryAfter
                      limiter.maxRequests 0) ≠
                  some .allowed := by
            intro retryAfter
            cases retryAfter with
            | none => nofun
            | some duration => nofun
          refine
            ⟨rfl, rfl, ?_, _, _, hSplit.symm, hDropped, ?_,
              fun hAllowed =>
                absurd hAllowed (hLimited _)⟩
          · intro other hOther
            rw [timestamps_insert, if_neg hOther]
          · rw [timestamps_insert, if_pos rfl,
              if_neg (hLimited _), List.append_nil]
            rfl

end SlidingWindowLimiter

------------------------------------------------------------
-- Runs of Checks
------------------------------------------------------------

/- A limiter and the requests that it has allowed. -/
structure SlidingHistory where
  limiter : SlidingWindowLimiter
  allowed : List (String × Timespec)

namespace SlidingHistory

def start
    (windowSecs : UInt64)
    (maxRequests : UInt32) : SlidingHistory where
  limiter := SlidingWindowLimiter.new windowSecs maxRequests
  allowed := []

/- One check of a key, with its reading of the clock. -/
def step
    (history : SlidingHistory)
    (request : String × Timespec) : SlidingHistory :=
  let checked := history.limiter.check request.1 request.2
  { limiter := checked.2
    allowed :=
      if checked.1 = some .allowed then
        history.allowed ++ [request]
      else
        history.allowed }

/- The request is one of the key, in a closed interval. -/
def isWithin
    (key : String)
    (first last : Int)
    (request : String × Timespec) : Bool :=
  decide
    (request.1 = key ∧ first ≤ request.2.nanos ∧
      request.2.nanos ≤ last)

/- The allowed requests of a key in a closed interval. -/
def allowedWithin
    (history : SlidingHistory)
    (key : String)
    (first last : Int) : List (String × Timespec) :=
  history.allowed.filter (isWithin key first last)

/- No window, closed at both ends, has too many. -/
def WithinWindows
    (history : SlidingHistory) : Prop :=
  ∀ key first,
    (history.allowedWithin key first
        (first + history.limiter.windowNanos)).length ≤
      history.limiter.maxRequests.toNat

/-
  The kept times of a key are its allowed ones, except for
  some that are older than a window that ends at `clock`.
-/
def Covers
    (history : SlidingHistory)
    (clock : Int) : Prop :=
  ∀ key,
    ∃ dropped,
      (history.allowed.filter fun request =>
            decide (request.1 = key)).map Prod.snd =
          dropped ++ history.limiter.timestamps key ∧
        ∀ timestamp ∈ dropped,
          timestamp.nanos + history.limiter.windowNanos <
            clock

theorem covers_start
    (windowSecs : UInt64)
    (maxRequests : UInt32)
    (clock : Int) :
    (start windowSecs maxRequests).Covers clock := by
  intro key
  exact ⟨[], rfl, List.forall_mem_nil _⟩

theorem withinWindows_start
    (windowSecs : UInt64)
    (maxRequests : UInt32) :
    (start windowSecs maxRequests).WithinWindows := by
  intro key first
  exact Nat.zero_le _

section Steps

variable {history : SlidingHistory} {clock : Int}
variable {request : String × Timespec}

theorem windowNanos_step
    (history : SlidingHistory)
    (request : String × Timespec) :
    (history.step request).limiter.windowNanos =
      history.limiter.windowNanos := by
  have hSpec :=
    history.limiter.check_spec request.1 request.2
  change
    ((history.limiter.check request.1
      request.2).2.windowSecs.toNat * 10 ^ 9 : Int) = _
  rw [hSpec.windowSecs]
  rfl

theorem maxRequests_step
    (history : SlidingHistory)
    (request : String × Timespec) :
    (history.step request).limiter.maxRequests =
      history.limiter.maxRequests :=
  (history.limiter.check_spec request.1
    request.2).maxRequests

/- The limiter has these limits. -/
def HasConfig
    (windowSecs : UInt64)
    (maxRequests : UInt32)
    (history : SlidingHistory) : Prop :=
  history.limiter.windowNanos =
      windowSecs.toNat * 10 ^ 9 ∧
    history.limiter.maxRequests = maxRequests

theorem hasConfig_step
    {windowSecs : UInt64}
    {maxRequests : UInt32}
    (history : SlidingHistory)
    (request : String × Timespec)
    (hConfig : HasConfig windowSecs maxRequests history) :
    HasConfig windowSecs maxRequests
      (history.step request) :=
  ⟨(windowNanos_step history request).trans hConfig.1,
    (maxRequests_step history request).trans hConfig.2⟩

/- A step appends its request if that is allowed. -/
theorem allowed_step
    (history : SlidingHistory)
    (request : String × Timespec) :
    (history.step request).allowed =
      history.allowed ++
        (if
            (history.limiter.check request.1
              request.2).1 = some .allowed then
          [request]
        else
          []) := by
  unfold step
  dsimp only
  split
  · rfl
  · exact (List.append_nil _).symm

/- A check at a later time keeps what is still covered. -/
theorem covers_step
    (hCovers : history.Covers clock)
    (hClock : clock ≤ request.2.nanos) :
    (history.step request).Covers request.2.nanos := by
  intro key
  obtain ⟨dropped, hTimes, hOld⟩ := hCovers key
  have hSpec :=
    history.limiter.check_spec request.1 request.2
  rw [windowNanos_step, allowed_step, List.filter_append,
    List.map_append, hTimes]
  change
    ∃ dropped',
      _ = dropped' ++
          (history.limiter.check request.1
            request.2).2.timestamps key ∧ _
  by_cases hKey : key = request.1
  · obtain ⟨forgotten, kept, hBefore, hForgotten, hAfter, _⟩ :=
      hSpec.kept
    refine ⟨dropped ++ forgotten, ?_, ?_⟩
    · rw [hKey, hAfter, hBefore]
      split
      · simp
      · simp
    · intro timestamp hTimestamp
      rcases List.mem_append.mp hTimestamp with
        hDropped | hMember
      · have hBound := hOld timestamp hDropped
        omega
      · exact hForgotten timestamp hMember
  · refine ⟨dropped, ?_, ?_⟩
    · rw [hSpec.others key hKey]
      split
      · simp [Ne.symm hKey]
      · simp
    · intro timestamp hTimestamp
      have hBound := hOld timestamp hTimestamp
      omega

/-
  Where the kept times cover a window that the new request
  is in, they are at least as many as the window holds.
-/
theorem length_allowedWithin_le
    (hCovers : history.Covers clock)
    {key : String}
    {kept dropped : List Timespec}
    (hKept :
      history.limiter.timestamps key = dropped ++ kept)
    {first last : Int}
    (hClock : clock ≤ first + history.limiter.windowNanos)
    (hDropped :
      ∀ timestamp ∈ dropped, timestamp.nanos < first) :
    (history.allowedWithin key first last).length ≤
      kept.length := by
  obtain ⟨earlier, hTimes, hOld⟩ := hCovers key
  let inside (timestamp : Timespec) : Bool :=
    decide
      (first ≤ timestamp.nanos ∧ timestamp.nanos ≤ last)
  have hEarlier :
      ∀ timestamp ∈ earlier ++ dropped,
        ¬ inside timestamp = true := by
    intro timestamp hTimestamp
    rw [decide_eq_true_iff]
    rcases List.mem_append.mp hTimestamp with
      hMember | hMember
    · have hBound := hOld timestamp hMember
      omega
    · have hBound := hDropped timestamp hMember
      omega
  have hWithin :
      (history.allowedWithin key first last).map Prod.snd =
        kept.filter inside := by
    calc (history.allowedWithin key first last).map Prod.snd
        = ((history.allowed.filter fun request =>
              decide (request.1 = key)).map Prod.snd).filter
            inside := by
          rw [List.filter_map, List.filter_filter]
          unfold allowedWithin
          congr 1
          apply List.filter_congr
          intro request _
          rw [Bool.and_comm]
          simp [isWithin, inside]
      _ = ((earlier ++ dropped) ++ kept).filter inside := by
          rw [hTimes, hKept, List.append_assoc]
      _ = kept.filter inside := by
          rw [List.filter_append,
            List.filter_eq_nil_iff.mpr hEarlier,
            List.nil_append]
  calc (history.allowedWithin key first last).length
      = ((history.allowedWithin key first last).map
          Prod.snd).length := (List.length_map Prod.snd).symm
    _ = (kept.filter inside).length := by rw [hWithin]
    _ ≤ kept.length := List.length_filter_le inside kept

/-
  A request is allowed into a window only while the window
  has room.
-/
theorem withinWindows_step
    (hCovers : history.Covers clock)
    (hWithin : history.WithinWindows)
    (hClock : clock ≤ request.2.nanos) :
    (history.step request).WithinWindows := by
  intro key first
  have hBefore := hWithin key first
  unfold allowedWithin at hBefore ⊢
  rw [windowNanos_step, maxRequests_step, allowed_step,
    List.filter_append, List.length_append]
  split
  · next hAllowed =>
      by_cases hInside :
          isWithin key first
              (first + history.limiter.windowNanos)
              request =
            true
      · have hBounds :
            request.1 = key ∧ first ≤ request.2.nanos ∧
              request.2.nanos ≤
                first + history.limiter.windowNanos :=
          of_decide_eq_true hInside
        obtain ⟨dropped, kept, hTimes, hDropped, _, hRoom⟩ :=
          (history.limiter.check_spec request.1
            request.2).kept
        have hFew := hRoom hAllowed
        rw [hBounds.1] at hTimes
        have hOld :
            ∀ timestamp ∈ dropped,
              timestamp.nanos < first := by
          intro timestamp hTimestamp
          have hBound := hDropped timestamp hTimestamp
          omega
        have hLength :
            (history.allowedWithin key first
                (first + history.limiter.windowNanos)).length ≤
              kept.length :=
          length_allowedWithin_le hCovers hTimes
            (hClock.trans hBounds.2.2) hOld
        unfold allowedWithin at hLength
        rw [List.filter_cons_of_pos hInside,
          List.filter_nil, List.length_singleton]
        omega
      · rw [List.filter_cons_of_neg hInside]
        exact hBefore
  · exact hBefore

end Steps

------------------------------------------------------------
-- Every Window
------------------------------------------------------------

/-
  The bound is kept by every run that goes on from covered
  windows, by a clock that does not go back.
-/
theorem withinWindows_of_covers
    {history : SlidingHistory}
    {clock : Int}
    {requests : List (String × Timespec)}
    (hCovers : history.Covers clock)
    (hWithin : history.WithinWindows)
    (hLater :
      ∀ request ∈ requests, clock ≤ request.2.nanos)
    (hClock :
      requests.Pairwise fun earlier later =>
        earlier.2 ≤ later.2) :
    (Runs.run step history requests).WithinWindows := by
  induction requests generalizing history clock with
  | nil => exact hWithin
  | cons request rest ih =>
      obtain ⟨hFirst, hRest⟩ := List.pairwise_cons.mp hClock
      have hNow := hLater request List.mem_cons_self
      exact
        ih (covers_step hCovers hNow)
          (withinWindows_step hCovers hWithin hNow) hFirst
          hRest

/-
  In every run of checks by a clock that does not go back,
  no closed window of the configured length has more
  allowed requests of a key than the maximum.
-/
theorem allowedWithin_run
    (windowSecs : UInt64)
    (maxRequests : UInt32)
    (requests : List (String × Timespec))
    (hClock :
      requests.Pairwise fun earlier later =>
        earlier.2 ≤ later.2)
    (key : String)
    (first : Int) :
    ((Runs.run step (start windowSecs maxRequests)
        requests).allowedWithin key first
        (first + windowSecs.toNat * 10 ^ 9)).length ≤
      maxRequests.toNat := by
  have hWithin :
      (Runs.run step (start windowSecs maxRequests)
        requests).WithinWindows := by
    cases requests with
    | nil => exact withinWindows_start windowSecs maxRequests
    | cons request rest =>
        apply
          withinWindows_of_covers
            (covers_start windowSecs maxRequests
              request.2.nanos)
            (withinWindows_start windowSecs maxRequests) _
            hClock
        intro other hOther
        rcases List.mem_cons.mp hOther with rfl | hRest
        · exact Int.le_refl other.2.nanos
        · exact (List.pairwise_cons.mp hClock).1 other hRest
  have hConfig :
      HasConfig windowSecs maxRequests
        (Runs.run step (start windowSecs maxRequests)
          requests) :=
    Runs.run_of_invariant hasConfig_step requests ⟨rfl, rfl⟩
  have hBound := hWithin key first
  rw [hConfig.1, hConfig.2] at hBound
  exact hBound

/- A request as old as the window is long still counts. -/
theorem allowedWithin_boundary :
    ((Runs.run step (start 60 1)
        [("user-1", ⟨0, by decide⟩),
          ("user-1", ⟨60000000000, by decide⟩)]).allowedWithin
        "user-1" 0
        (0 + (60 : UInt64).toNat * 10 ^ 9)).length ≤
      (1 : UInt32).toNat :=
  allowedWithin_run 60 1 _ (by decide) "user-1" 0

end SlidingHistory

end IsaWorkspace
