import IsaWorkspace.Externals
import IsaWorkspace.Foundations.SinglePrecision

/-
  The capture loop of the UI streamer.

  The loop counts the frames of the running second, to tell
  the frame rate, and shows that same count as the number of
  frames captured.  The count starts again with each second,
  while the numbers of frames sent and dropped go on.  An
  iteration whose counts overflow ends the loop in a build
  that checks, and is never completed.

  Main declarations:
    * `StreamingStats`, `UiStreamer.CaptureLoop`
    * `CaptureLoop.tick`, `CaptureLoop.runTicks`
    * `handled_run`, `frameCount_run_lt`
    * `framesCaptured_run`
    * `FramesAddUp`, `NoneAfterSecond`
    * `framesAddUp_iff`
-/

------------------------------------------------------------
-- Streaming Statistics
------------------------------------------------------------

namespace IsaWorkspace

/- UI streaming statistics, as far as the loop keeps them. -/
structure StreamingStats where
  framesCaptured : UInt64
  framesEncoded : UInt64
  framesSent : UInt64
  framesDropped : UInt64
  currentFps : F32
  avgEncodeTimeMs : F32
deriving DecidableEq

def StreamingStats.new : StreamingStats where
  framesCaptured := 0
  framesEncoded := 0
  framesSent := 0
  framesDropped := 0
  currentFps := F32.ofRat 0
  avgEncodeTimeMs := F32.ofRat 0

namespace UiStreamer

/-
  What becomes of a captured frame; a frame that is sent
  comes with the seconds that its encoding took.
-/
inductive FrameOutcome where
  | notEncoded
  | notSent
  | sent (encodeTime : F32)
deriving DecidableEq

/-
  One iteration of the loop; a capture comes with the
  seconds since the frame count was last set to zero.
-/
inductive Tick where
  | notCaptured
  | captured (outcome : FrameOutcome) (elapsed : F32)
deriving DecidableEq

/- The variables of the capture loop. -/
structure CaptureLoop where
  frameCount : UInt64
  stats : StreamingStats
deriving DecidableEq

------------------------------------------------------------
-- The Capture Loop
------------------------------------------------------------

section Capturing

variable [BuildProfile]

/- Account for a frame that was captured. -/
def recordFrame
    (stats : StreamingStats) :
    FrameOutcome → Option StreamingStats
| .notEncoded => do
    let framesDropped ← checkedAdd stats.framesDropped 1
    some { stats with framesDropped := framesDropped }
| .notSent => do
    let framesDropped ← checkedAdd stats.framesDropped 1
    some { stats with framesDropped := framesDropped }
| .sent encodeTime => do
    let framesEncoded ← checkedAdd stats.framesEncoded 1
    let framesSent ← checkedAdd stats.framesSent 1
    some
      { stats with
        framesEncoded := framesEncoded
        framesSent := framesSent
        avgEncodeTimeMs := encodeTime.mul (F32.ofRat 1000) }

namespace CaptureLoop

/- The loop before its first iteration. -/
def new : CaptureLoop where
  frameCount := 0
  stats := StreamingStats.new

omit [BuildProfile] in
/- Tell the frame rate when a second is complete. -/
def updateFps
    (loop : CaptureLoop)
    (elapsed : F32) : CaptureLoop :=
  if (F32.ofRat 1).le elapsed then
    { frameCount := 0
      stats :=
        { loop.stats with
          currentFps :=
            (F32.ofNat loop.frameCount.toNat).div elapsed } }
  else
    loop

/- One iteration of the loop; `none` is a panic. -/
def tick
    (loop : CaptureLoop) : Tick → Option CaptureLoop
| .notCaptured => some loop
| .captured outcome elapsed => do
    let frameCount ← checkedAdd loop.frameCount 1
    let stats ← recordFrame loop.stats outcome
    some
      (updateFps
        { frameCount := frameCount
          stats := { stats with framesCaptured := frameCount } }
        elapsed)

/- The loop after all these iterations, if none panicked. -/
def runTicks
    (ticks : List Tick) : Option CaptureLoop :=
  ticks.foldlM tick new

end CaptureLoop

end Capturing

------------------------------------------------------------
-- One Iteration
------------------------------------------------------------

/- Whether a frame is captured. -/
def Tick.captures : Tick → Bool
| .notCaptured => false
| .captured _ _ => true

/- Whether a frame is captured that completes a second. -/
def Tick.completesSecond : Tick → Bool
| .notCaptured => false
| .captured _ elapsed => (F32.ofRat 1).le elapsed

theorem Tick.captures_of_completesSecond
    {tick : Tick}
    (hSecond : tick.completesSecond = true) :
    tick.captures = true := by
  cases tick with
  | notCaptured => exact hSecond
  | captured outcome elapsed => rfl

/- The number of frames captured in a run. -/
def captures
    (ticks : List Tick) : Nat :=
  ticks.countP Tick.captures

theorem captures_concat
    (earlier : List Tick)
    (tick : Tick) :
    captures (earlier ++ [tick]) =
      captures earlier + captures [tick] := by
  exact List.countP_append

theorem captures_singleton
    (tick : Tick) :
    captures [tick] = if tick.captures then 1 else 0 := by
  exact List.countP_singleton

/- The frames sent, and those dropped. -/
def handled
    (stats : StreamingStats) : Nat :=
  stats.framesSent.toNat + stats.framesDropped.toNat

section Recording

variable [BuildProfile]

theorem toNat_of_next
    {count next : UInt64}
    (hNext : checkedAdd count 1 = some next)
    (hFew : count.toNat + 1 < 2 ^ 64) :
    next.toNat = count.toNat + 1 := by
  exact toNat_of_checkedAdd hNext (Or.inr hFew)

/- A captured frame is either sent or dropped. -/
theorem handled_recordFrame
    {stats after : StreamingStats}
    {outcome : FrameOutcome}
    (hRecord : recordFrame stats outcome = some after)
    (hFew : handled stats + 1 < 2 ^ 64) :
    handled after = handled stats + 1 := by
  unfold handled at hFew ⊢
  cases outcome with
  | notEncoded =>
      obtain ⟨dropped, hDropped, hAfter⟩ :=
        Option.bind_eq_some_iff.mp hRecord
      have hNext := toNat_of_next hDropped (by omega)
      cases hAfter
      dsimp only
      omega
  | notSent =>
      obtain ⟨dropped, hDropped, hAfter⟩ :=
        Option.bind_eq_some_iff.mp hRecord
      have hNext := toNat_of_next hDropped (by omega)
      cases hAfter
      dsimp only
      omega
  | sent encodeTime =>
      obtain ⟨encoded, -, hEncoded⟩ :=
        Option.bind_eq_some_iff.mp hRecord
      obtain ⟨sent, hSent, hAfter⟩ :=
        Option.bind_eq_some_iff.mp hEncoded
      have hNext := toNat_of_next hSent (by omega)
      cases hAfter
      dsimp only
      omega

namespace CaptureLoop

omit [BuildProfile] in
/- The frame rate is all that changes in the statistics. -/
theorem updateFps_stats
    (loop : CaptureLoop)
    (elapsed : F32) :
    ∃ fps,
      (loop.updateFps elapsed).stats =
        { loop.stats with currentFps := fps } := by
  unfold updateFps
  split
  · exact ⟨(F32.ofNat loop.frameCount.toNat).div elapsed, rfl⟩
  · exact ⟨loop.stats.currentFps, rfl⟩

omit [BuildProfile] in
theorem updateFps_frameCount
    (loop : CaptureLoop)
    (elapsed : F32) :
    (loop.updateFps elapsed).frameCount =
      if (F32.ofRat 1).le elapsed then 0
      else loop.frameCount := by
  unfold updateFps
  split
  · rfl
  · rfl

/- What an iteration does that captures a frame. -/
theorem tick_captured
    {loop after : CaptureLoop}
    {outcome : FrameOutcome}
    {elapsed : F32}
    (hTick :
      loop.tick (.captured outcome elapsed) = some after) :
    ∃ stats fps,
      recordFrame loop.stats outcome = some stats ∧
      after.stats =
        { stats with
          framesCaptured := loop.frameCount + 1
          currentFps := fps } ∧
      after.frameCount =
        if (F32.ofRat 1).le elapsed then 0
        else loop.frameCount + 1 := by
  obtain ⟨frameCount, hCount, hRest⟩ :=
    Option.bind_eq_some_iff.mp hTick
  obtain ⟨stats, hStats, hAfter⟩ :=
    Option.bind_eq_some_iff.mp hRest
  obtain rfl := eq_add_of_checkedAdd hCount
  obtain rfl := Option.some.inj hAfter
  obtain ⟨fps, hFps⟩ :=
    updateFps_stats
      { frameCount := loop.frameCount + 1
        stats :=
          { stats with
            framesCaptured := loop.frameCount + 1 } }
      elapsed
  exact
    ⟨stats, fps, hStats, hFps, updateFps_frameCount _ _⟩

/- An iteration sends or drops the frame it captures. -/
theorem handled_tick
    {loop after : CaptureLoop}
    {tick : Tick}
    (hTick : loop.tick tick = some after)
    (hFew : handled loop.stats + captures [tick] < 2 ^ 64) :
    handled after.stats =
      handled loop.stats + captures [tick] := by
  cases tick with
  | notCaptured =>
      cases hTick
      rfl
  | captured outcome elapsed =>
      obtain ⟨stats, fps, hStats, hAfter, -⟩ :=
        tick_captured hTick
      have hHandled : handled after.stats = handled stats := by
        rw [hAfter]
        rfl
      rw [hHandled]
      exact handled_recordFrame hStats hFew

/- The number shown is the count of the running second. -/
theorem framesCaptured_tick
    {loop after : CaptureLoop}
    {tick : Tick}
    (hTick : loop.tick tick = some after) :
    after.stats.framesCaptured =
      if tick.captures then loop.frameCount + 1
      else loop.stats.framesCaptured := by
  cases tick with
  | notCaptured =>
      cases hTick
      rfl
  | captured outcome elapsed =>
      obtain ⟨stats, fps, -, hAfter, -⟩ :=
        tick_captured hTick
      rw [hAfter]
      rfl

/- The count starts again when a second is complete. -/
theorem frameCount_tick
    {loop after : CaptureLoop}
    {tick : Tick}
    (hTick : loop.tick tick = some after) :
    after.frameCount =
      if tick.completesSecond then 0
      else if tick.captures then loop.frameCount + 1
      else loop.frameCount := by
  cases tick with
  | notCaptured =>
      cases hTick
      rfl
  | captured outcome elapsed =>
      obtain ⟨stats, fps, -, -, hCount⟩ :=
        tick_captured hTick
      exact hCount

omit [BuildProfile] in
/- A word never grows by more than what is added. -/
theorem toNat_next_le
    (count : UInt64) :
    (count + 1).toNat ≤ count.toNat + 1 := by
  rw [UInt64.toNat_add]
  exact Nat.mod_le _ _

end CaptureLoop

end Recording

------------------------------------------------------------
-- Runs of the Loop
------------------------------------------------------------

namespace CaptureLoop

variable [BuildProfile]
variable {ticks : List Tick} {loop : CaptureLoop}

/- A run is completed by its last iteration. -/
theorem runTicks_concat
    {earlier : List Tick}
    {last : Tick} :
    runTicks (earlier ++ [last]) = some loop ↔
      ∃ before,
        runTicks earlier = some before ∧
          before.tick last = some loop := by
  unfold runTicks
  rw [List.foldlM_append, Option.bind_eq_bind,
    Option.bind_eq_some_iff]
  simp

/- Every captured frame of a run is sent or dropped. -/
theorem handled_run
    (hRun : runTicks ticks = some loop)
    (hFew : captures ticks < 2 ^ 64) :
    handled loop.stats = captures ticks := by
  induction ticks using List.reverseRecOn
    generalizing loop with
  | nil =>
      cases hRun
      rfl
  | append_singleton earlier last ih =>
      obtain ⟨before, hBefore, hLast⟩ :=
        runTicks_concat.mp hRun
      rw [captures_concat] at hFew ⊢
      have hEarlier :=
        ih hBefore
          (Nat.lt_of_le_of_lt (Nat.le_add_right _ _) hFew)
      rw [handled_tick hLast (hEarlier ▸ hFew), hEarlier]

/-
  Once a second is complete, the count stays behind the
  number of all frames captured.
-/
theorem frameCount_run_lt
    (hRun : runTicks ticks = some loop)
    (hSecond : ∃ tick ∈ ticks, tick.completesSecond = true) :
    loop.frameCount.toNat < captures ticks := by
  induction ticks using List.reverseRecOn
    generalizing loop with
  | nil =>
      obtain ⟨tick, hTick, -⟩ := hSecond
      cases hTick
  | append_singleton earlier last ih =>
      obtain ⟨before, hBefore, hLast⟩ :=
        runTicks_concat.mp hRun
      have hNext := toNat_next_le before.frameCount
      rw [frameCount_tick hLast, captures_concat,
        captures_singleton]
      by_cases hAgain : last.completesSecond = true
      · rw [if_pos hAgain,
          if_pos (Tick.captures_of_completesSecond hAgain)]
        exact Nat.succ_pos _
      · obtain ⟨tick, hTick, hDone⟩ := hSecond
        rcases List.mem_append.mp hTick with hIn | hIn
        · have hEarlier := ih hBefore ⟨tick, hIn, hDone⟩
          rw [if_neg hAgain]
          split
          · omega
          · exact hEarlier
        · obtain rfl := List.mem_singleton.mp hIn
          exact absurd hDone hAgain

end CaptureLoop

/- No frame is captured after a second is complete. -/
def NoneAfterSecond
    (ticks : List Tick) : Prop :=
  ticks.Pairwise fun earlier later =>
    earlier.completesSecond = true → later.captures = false

instance decidableNoneAfterSecond
    (ticks : List Tick) :
    Decidable (NoneAfterSecond ticks) :=
  inferInstanceAs (Decidable (ticks.Pairwise _))

/- One more frame after seconds that are not complete. -/
theorem noneAfterSecond_concat
    {earlier : List Tick}
    {last : Tick} :
    NoneAfterSecond (earlier ++ [last]) ↔
      NoneAfterSecond earlier ∧
        (last.captures = true →
          ∀ tick ∈ earlier, tick.completesSecond = false) := by
  unfold NoneAfterSecond
  rw [List.pairwise_append]
  constructor
  · rintro ⟨hEarlier, -, hLast⟩
    refine ⟨hEarlier, fun hCaptures tick hTick => ?_⟩
    by_contra hSecond
    have hNot :=
      hLast tick hTick last (List.mem_singleton_self last)
        (Bool.eq_true_of_not_eq_false hSecond)
    exact Bool.false_ne_true (hNot.symm.trans hCaptures)
  · rintro ⟨hEarlier, hLast⟩
    refine
      ⟨hEarlier, List.pairwise_singleton _ _, ?_⟩
    intro tick hTick later hLater hSecond
    obtain rfl := List.mem_singleton.mp hLater
    by_contra hCaptures
    have hNoSecond :=
      hLast (Bool.eq_true_of_not_eq_false hCaptures) tick
        hTick
    exact Bool.false_ne_true (hNoSecond.symm.trans hSecond)

namespace CaptureLoop

variable [BuildProfile]
variable {ticks : List Tick} {loop : CaptureLoop}

/-
  With no frame captured after a second is complete, the
  number shown is that of all frames captured, and so is the
  count as long as no second is complete.
-/
theorem framesCaptured_run
    (hRun : runTicks ticks = some loop)
    (hNone : NoneAfterSecond ticks)
    (hFew : captures ticks < 2 ^ 64) :
    loop.stats.framesCaptured.toNat = captures ticks ∧
      ((∀ tick ∈ ticks, tick.completesSecond = false) →
        loop.frameCount.toNat = captures ticks) := by
  induction ticks using List.reverseRecOn
    generalizing loop with
  | nil =>
      cases hRun
      exact ⟨rfl, fun _ => rfl⟩
  | append_singleton earlier last ih =>
      obtain ⟨before, hBefore, hLast⟩ :=
        runTicks_concat.mp hRun
      obtain ⟨hEarlier, hAlone⟩ :=
        noneAfterSecond_concat.mp hNone
      rw [captures_concat, captures_singleton] at hFew ⊢
      obtain ⟨ihShown, ihCount⟩ :=
        ih hBefore hEarlier
          (Nat.lt_of_le_of_lt (Nat.le_add_right _ _) hFew)
      rw [framesCaptured_tick hLast, frameCount_tick hLast]
      by_cases hCaptures : last.captures = true
      · -- a captured frame was counted by itself so far
        have hCount := ihCount (hAlone hCaptures)
        rw [if_pos hCaptures] at hFew
        have hNext :
            (before.frameCount + 1).toNat =
              captures earlier + 1 := by
          rw [UInt64.toNat_add, hCount]
          exact Nat.mod_eq_of_lt hFew
        rw [if_pos hCaptures, if_pos hCaptures, hNext]
        refine ⟨rfl, fun hNoSecond => ?_⟩
        have hLastNot :=
          hNoSecond last
            (List.mem_append_right _
              (List.mem_singleton_self last))
        rw [hLastNot, if_neg Bool.false_ne_true,
          if_pos hCaptures, hNext]
      · rw [if_neg hCaptures, if_neg hCaptures]
        refine ⟨ihShown, fun hNoSecond => ?_⟩
        have hLastNot :=
          hNoSecond last
            (List.mem_append_right _
              (List.mem_singleton_self last))
        rw [hLastNot, if_neg Bool.false_ne_true,
          if_neg hCaptures]
        exact ihCount fun tick hTick =>
          hNoSecond tick (List.mem_append_left _ hTick)

------------------------------------------------------------
-- Adding Up
------------------------------------------------------------

omit [BuildProfile] in
/-
  An iteration does not lower the number of frames captured
  that is shown, and it is then the number of those sent or
  dropped, and of the captures that succeeded.
-/
structure AddsUp
    (before after : CaptureLoop)
    (captured : Nat) : Prop where
  notLower :
    before.stats.framesCaptured ≤ after.stats.framesCaptured
  handled :
    after.stats.framesCaptured.toNat =
      after.stats.framesSent.toNat +
        after.stats.framesDropped.toNat
  counted : after.stats.framesCaptured.toNat = captured

end CaptureLoop

open CaptureLoop

section AddingUp

variable [BuildProfile]

/- The statistics add up after every completed iteration. -/
def FramesAddUp
    (ticks : List Tick) : Prop :=
  ∀ earlier last before after,
    earlier ++ [last] <+: ticks →
    runTicks earlier = some before →
    before.tick last = some after →
      AddsUp before after (captures (earlier ++ [last]))

theorem FramesAddUp.of_prefix
    {earlier ticks : List Tick}
    (hAdds : FramesAddUp ticks)
    (hPrefix : earlier <+: ticks) :
    FramesAddUp earlier := by
  intro first last before after hFirst
  exact hAdds first last before after (hFirst.trans hPrefix)

/-
  Where all adds up, no capture follows a full second, and
  the frames can be counted in a word.
-/
theorem FramesAddUp.noneAfterSecond
    {ticks : List Tick}
    {loop : CaptureLoop}
    (hAdds : FramesAddUp ticks)
    (hRun : runTicks ticks = some loop) :
    NoneAfterSecond ticks ∧ captures ticks < 2 ^ 64 := by
  induction ticks using List.reverseRecOn
    generalizing loop with
  | nil => exact ⟨List.Pairwise.nil, by decide⟩
  | append_singleton earlier last ih =>
      obtain ⟨before, hBefore, hLast⟩ :=
        runTicks_concat.mp hRun
      obtain ⟨hEarlier, -⟩ :=
        ih (hAdds.of_prefix (List.prefix_append _ _)) hBefore
      have hCounted :=
        (hAdds earlier last before loop List.prefix_rfl
          hBefore hLast).counted
      have hFew : captures (earlier ++ [last]) < 2 ^ 64 :=
        hCounted ▸ UInt64.toNat_lt _
      refine
        ⟨noneAfterSecond_concat.mpr
          ⟨hEarlier, fun hCaptures tick hTick => ?_⟩, hFew⟩
      by_contra hSecond
      have hBehind :=
        frameCount_run_lt hBefore
          ⟨tick, hTick, Bool.eq_true_of_not_eq_false hSecond⟩
      have hNext := toNat_next_le before.frameCount
      rw [framesCaptured_tick hLast, if_pos hCaptures,
        captures_concat, captures_singleton,
        if_pos hCaptures] at hCounted
      omega

/-
  The statistics add up after every iteration of a run of
  completed iterations exactly when no frame is captured
  after a capture that completed a second, and fewer than
  2 ^ 64 frames are captured.
-/
theorem framesAddUp_iff
    (ticks : List Tick)
    (hCompleted : (runTicks ticks).isSome = true) :
    FramesAddUp ticks ↔
      NoneAfterSecond ticks ∧ captures ticks < 2 ^ 64 := by
  obtain ⟨loop, hRun⟩ := Option.isSome_iff_exists.mp hCompleted
  constructor
  · exact fun hAdds => hAdds.noneAfterSecond hRun
  · rintro ⟨hNone, hFew⟩ earlier last before after hPrefix
      hBefore hLast
    have hAfter := runTicks_concat.mpr ⟨before, hBefore, hLast⟩
    have hNoneUpTo :
        NoneAfterSecond (earlier ++ [last]) :=
      List.Pairwise.sublist hPrefix.sublist hNone
    have hFewUpTo : captures (earlier ++ [last]) < 2 ^ 64 :=
      Nat.lt_of_le_of_lt
        (List.Sublist.countP_le hPrefix.sublist) hFew
    have hFewBefore : captures earlier < 2 ^ 64 :=
      Nat.lt_of_le_of_lt
        (List.Sublist.countP_le
          (List.sublist_append_left _ _)) hFewUpTo
    have hShown :=
      (framesCaptured_run hAfter hNoneUpTo hFewUpTo).1
    have hShownBefore :=
      (framesCaptured_run hBefore
        (noneAfterSecond_concat.mp hNoneUpTo).1
        hFewBefore).1
    refine ⟨?_, ?_, hShown⟩
    · rw [UInt64.le_iff_toNat_le, hShown, hShownBefore,
        captures_concat]
      exact Nat.le_add_right _ _
    · rw [hShown]
      exact (handled_run hAfter hFewUpTo).symm

end AddingUp

/-
  A frame that is sent, a capture that fails, and a frame
  that is dropped and completes a second.
-/
theorem framesAddUp_sample :
    @FramesAddUp ⟨true⟩
      [.captured (.sent (F32.ofRat 0)) (F32.ofRat 0),
        .notCaptured,
        .captured .notSent (F32.ofRat 1)] := by
  exact
    (@framesAddUp_iff ⟨true⟩
      [.captured (.sent (F32.ofRat 0)) (F32.ofRat 0),
        .notCaptured,
        .captured .notSent (F32.ofRat 1)]
      (by decide +kernel)).mpr
      ⟨by decide +kernel, by decide +kernel⟩

/-
  Two frames, both sent: the first completes a second, and
  one frame captured is shown after the second.
-/
theorem not_framesAddUp_sample :
    ¬ @FramesAddUp ⟨true⟩
      [.captured (.sent (F32.ofRat 0)) (F32.ofRat 1),
        .captured (.sent (F32.ofRat 0)) (F32.ofRat 0)] := by
  intro hAdds
  have hCounted :=
    (hAdds
      [.captured (.sent (F32.ofRat 0)) (F32.ofRat 1)]
      (.captured (.sent (F32.ofRat 0)) (F32.ofRat 0))
      { frameCount := 0
        stats := ⟨1, 1, 1, 0, F32.ofRat 1, F32.ofRat 0⟩ }
      { frameCount := 1
        stats := ⟨1, 2, 2, 0, F32.ofRat 1, F32.ofRat 0⟩ }
      List.prefix_rfl (by decide +kernel)
      (by decide +kernel)).counted
  revert hCounted
  decide

end UiStreamer

end IsaWorkspace
