import IsaWorkspace.Foundations.Runs
import IsaWorkspace.Tracing.SyscallInterceptor
import IsaWorkspace.Tracing.SyscallTracer

/-
  Two tracers of the same stops.

  The stops at system calls are entries and exits in turn,
  and the first one is an entry.  The interceptor logs the
  entries; the tracer toggles its flag before it reads it
  and takes every entry for an exit, and every exit for an
  entry.

  Main declarations:
    * `RecordsEntry`, `RecordsExit`, `DecodesError`
    * `TracedProcess`, `TracedProcess.stopsAt`
    * `TracedProcess.LabelsRight`, `TracersAgree`
    * `TracedProcess.Swapped`, `swapped_step`
    * `TracedProcess.entries_swapped`
    * `errorCode_decodes_iff`
    * `tracersAgree_iff`
-/

------------------------------------------------------------
-- What Is to Be Recorded
------------------------------------------------------------

namespace IsaWorkspace

/- What comes of a call of the tracer. -/
abbrev TracerAnswer : Type :=
  Outcome SyscallTracerError
    (Option SyscallTracer.SyscallInfo)

/- The stop has been labelled an entry. -/
def IsEntry
    (answer : TracerAnswer) : Prop :=
  ∃ info,
    answer = .ok (some info) ∧ info.eventType = .entry

/- An entry has been recorded with its arguments. -/
def RecordsEntry
    (regs : UserRegs)
    (answer : TracerAnswer) : Prop :=
  ∃ info,
    answer = .ok (some info) ∧
      info.eventType = .entry ∧
      info.args = regs.arguments

/- The code is the error that the kernel has returned. -/
def DecodesError
    (rax : UInt64)
    (code : Option Int32) : Prop :=
  ∀ error : Int32,
    code = some error ↔
      1 ≤ error.toInt ∧ error.toInt ≤ 4095 ∧
        rax.toInt64.toInt = -error.toInt

/- An exit has been recorded with its return value. -/
def RecordsExit
    (regs : UserRegs)
    (answer : TracerAnswer) : Prop :=
  ∃ info,
    answer = .ok (some info) ∧
      info.eventType = .exit ∧
      info.returnValue = regs.rax.toInt64 ∧
      DecodesError regs.rax info.errorCode

/-
  A traced process as each of the tracers knows it, and the
  number of its stops at system calls so far.
-/
structure TracedProcess where
  tracer : SyscallTracer
  interceptor : TraceLoop
  syscallStops : Nat

namespace TracedProcess

/- A process to which both have just attached. -/
def attached
    (config : TracerConfig)
    (pid : Int32) : TracedProcess where
  tracer := SyscallTracer.attached config pid
  interceptor := TraceLoop.new
  syscallStops := 0

/- What the tracer answers at a stop. -/
def answer
    (process : TracedProcess)
    (stop : PtraceStop) : TracerAnswer :=
  (SyscallTracer.nextSyscall stop.reply stop.now
    process.tracer).1

/- The process stops, and both tracers look at it. -/
def stopsAt
    (hasRuntime : Bool)
    (process : TracedProcess)
    (stop : PtraceStop) : TracedProcess where
  tracer :=
    (SyscallTracer.nextSyscall stop.reply stop.now
      process.tracer).2
  interceptor :=
    process.interceptor.turn hasRuntime stop.loopTurn
  syscallStops :=
    if stop.atSyscall then
      process.syscallStops + 1
    else
      process.syscallStops

/- The interceptor logs the stop. -/
def Logs
    (hasRuntime : Bool)
    (process : TracedProcess)
    (stop : PtraceStop) : Prop :=
  (process.interceptor.turn hasRuntime
      stop.loopTurn).events ≠
    process.interceptor.events

/-
  The tracer records the stop as what it is, and labels it
  an entry if and only if the interceptor logs it.
-/
structure LabelsRight
    (hasRuntime : Bool)
    (process : TracedProcess)
    (stop : PtraceStop) : Prop where
  entry :
    stop.atSyscall = true →
      process.syscallStops % 2 = 0 →
        RecordsEntry stop.regs (process.answer stop)
  exit :
    stop.atSyscall = true →
      process.syscallStops % 2 = 1 →
        RecordsExit stop.regs (process.answer stop)
  logged :
    IsEntry (process.answer stop) ↔
      process.Logs hasRuntime stop

end TracedProcess

/- Both tracers agree on a sequence of stops. -/
def TracersAgree
    (hasRuntime : Bool)
    (config : TracerConfig)
    (pid : Int32)
    (stops : List PtraceStop) : Prop :=
  Runs.AlongRun (TracedProcess.stopsAt hasRuntime)
    (TracedProcess.LabelsRight hasRuntime)
    (TracedProcess.attached config pid) stops

------------------------------------------------------------
-- The Flags Along a Run
------------------------------------------------------------

namespace TracedProcess

/-
  Before every stop the flag of the tracer says what the
  last stop was, and that of the interceptor what the next
  one is.
-/
structure Swapped
    (hasRuntime : Bool)
    (config : TracerConfig)
    (pid : Int32)
    (process : TracedProcess) : Prop where
  pid : process.tracer.pid = some pid
  config : process.tracer.config = config
  tracer :
    process.tracer.expectingExit =
      decide (process.syscallStops % 2 = 1)
  interceptor :
    hasRuntime = true →
      process.interceptor.finished = false ∧
        process.interceptor.atSyscallEntry =
          decide (process.syscallStops % 2 = 0)

variable {hasRuntime : Bool} {config : TracerConfig}
variable {pid : Int32} {process : TracedProcess}
variable {stop : PtraceStop}

theorem swapped_attached
    (hasRuntime : Bool)
    (config : TracerConfig)
    (pid : Int32) :
    Swapped hasRuntime config pid
      (attached config pid) where
  pid := rfl
  config := rfl
  tracer := rfl
  interceptor := fun _ => ⟨rfl, rfl⟩

/- The tracer after a stop at a system call. -/
private theorem tracer_syscallStop
    (hSwapped : Swapped hasRuntime config pid process)
    (hSyscall : stop.atSyscall = true) :
    ∃ syscalls,
      (process.stopsAt hasRuntime stop).tracer =
        { process.tracer.toggled with
          syscalls := syscalls } := by
  rcases SyscallTracer.syscallStop_cases stop.regs
    with ⟨syscalls, hState, _⟩
  refine ⟨syscalls, ?_⟩
  rw [stopsAt,
    SyscallTracer.nextSyscall_at_stop hSwapped.pid,
    if_pos hSyscall]
  exact hState

/- The tracer after a stop by a signal. -/
private theorem tracer_signalStop
    (hSwapped : Swapped hasRuntime config pid process)
    (hSignal : stop.atSyscall = false) :
    ∃ syscalls,
      (process.stopsAt hasRuntime stop).tracer =
        { process.tracer with syscalls := syscalls } := by
  rcases SyscallTracer.signalStop_cases
      (wStopSig stop.status)
    with ⟨syscalls, hState, _⟩
  refine ⟨syscalls, ?_⟩
  rw [stopsAt,
    SyscallTracer.nextSyscall_at_stop hSwapped.pid,
    if_neg (ne_true_of_eq_false hSignal)]
  exact hState

/- A stop at a system call toggles both flags. -/
private theorem swapped_syscallStop
    (hSwapped : Swapped hasRuntime config pid process)
    (hSyscall : stop.atSyscall = true) :
    Swapped hasRuntime config pid
      (process.stopsAt hasRuntime stop) := by
  rcases tracer_syscallStop hSwapped hSyscall
    with ⟨syscalls, hTracer⟩
  have hStops :
      (process.stopsAt hasRuntime stop).syscallStops =
        process.syscallStops + 1 := if_pos hSyscall
  refine ⟨?_, ?_, ?_, ?_⟩
  · rw [hTracer]
    exact hSwapped.pid
  · rw [hTracer]
    exact hSwapped.config
  · rw [hTracer, hStops]
    change (!process.tracer.expectingExit) = _
    rw [hSwapped.tracer, ← decide_not]
    exact decide_eq_decide.mpr (by omega)
  · intro hRuntime
    subst hRuntime
    rcases hSwapped.interceptor rfl with
      ⟨hGoesOn, hEntry⟩
    rcases TraceLoop.atSyscallStop_of_runtime stop.regs
        hGoesOn
      with ⟨hFinished, hNext, _⟩
    have hTurn :
        (process.stopsAt true stop).interceptor =
          process.interceptor.atSyscallStop true
            (some stop.regs) := by
      rw [stopsAt, TraceLoop.turn_at_stop, hGoesOn,
        if_neg Bool.false_ne_true, if_pos hSyscall]
    rw [hTurn, hStops]
    refine ⟨hFinished, ?_⟩
    rw [hNext, hEntry, ← decide_not]
    exact decide_eq_decide.mpr (by omega)

/- A stop by a signal leaves both flags alone. -/
private theorem swapped_signalStop
    (hSwapped : Swapped hasRuntime config pid process)
    (hSignal : stop.atSyscall = false) :
    Swapped hasRuntime config pid
      (process.stopsAt hasRuntime stop) := by
  rcases tracer_signalStop hSwapped hSignal
    with ⟨syscalls, hTracer⟩
  have hNot : ¬stop.atSyscall = true :=
    ne_true_of_eq_false hSignal
  have hStops :
      (process.stopsAt hasRuntime stop).syscallStops =
        process.syscallStops := if_neg hNot
  have hTurn :
      (process.stopsAt hasRuntime stop).interceptor =
        process.interceptor := by
    rw [stopsAt, TraceLoop.turn_at_stop, if_neg hNot,
      ite_self]
  refine ⟨?_, ?_, ?_, ?_⟩
  · rw [hTracer]
    exact hSwapped.pid
  · rw [hTracer]
    exact hSwapped.config
  · rw [hTracer, hStops]
    exact hSwapped.tracer
  · rw [hTurn, hStops]
    exact hSwapped.interceptor

/- Every stop keeps the flags as they are. -/
theorem swapped_step
    (process : TracedProcess)
    (stop : PtraceStop)
    (hSwapped : Swapped hasRuntime config pid process) :
    Swapped hasRuntime config pid
      (process.stopsAt hasRuntime stop) := by
  cases hKind : stop.atSyscall with
  | true => exact swapped_syscallStop hSwapped hKind
  | false => exact swapped_signalStop hSwapped hKind

------------------------------------------------------------
-- Labels at One Stop
------------------------------------------------------------

/- What the tracer says at a stop at a system call. -/
theorem answer_syscallStop
    (hSwapped : Swapped hasRuntime config pid process)
    (hSyscall : stop.atSyscall = true) :
    process.answer stop = .panicked ∨
      ∃ timestampNs,
        process.answer stop =
          .ok (some
            (process.tracer.toggled.syscallInfo pid
              stop.regs timestampNs)) := by
  rcases SyscallTracer.syscallStop_cases stop.regs
    with ⟨_, _, hAnswer⟩
  rw [answer,
    SyscallTracer.nextSyscall_at_stop hSwapped.pid,
    if_pos hSyscall]
  exact hAnswer

/- An entry is labelled an exit, and an exit an entry. -/
theorem eventType_swapped
    (hSwapped : Swapped hasRuntime config pid process)
    (regs : UserRegs)
    (timestampNs : UInt64) :
    (process.tracer.toggled.syscallInfo pid regs
        timestampNs).eventType =
      if process.syscallStops % 2 = 0 then .exit
      else .entry := by
  have hFlag :
      process.tracer.toggled.expectingExit =
        !decide (process.syscallStops % 2 = 1) :=
    congrArg Bool.not hSwapped.tracer
  rw [SyscallTracer.syscallInfo, hFlag, ← decide_not]
  by_cases hEven : process.syscallStops % 2 = 0
  · rw [if_pos hEven,
      if_pos (decide_eq_true (by omega))]
    rfl
  · rw [if_neg hEven,
      if_neg (by rw [decide_eq_true_eq]; omega)]
    rfl

/- No stop at a system call is labelled right. -/
theorem not_labelsRight_of_syscallStop
    (hSwapped : Swapped hasRuntime config pid process)
    (hSyscall : stop.atSyscall = true) :
    ¬process.LabelsRight hasRuntime stop := by
  intro hRight
  have hAnswer := answer_syscallStop hSwapped hSyscall
  by_cases hEven : process.syscallStops % 2 = 0
  · rcases hRight.entry hSyscall hEven with
      ⟨info, hInfo, hEntry, _⟩
    rw [hInfo] at hAnswer
    rcases hAnswer with hPanic | ⟨timestampNs, hSame⟩
    · cases hPanic
    · cases hSame
      rw [eventType_swapped hSwapped, if_pos hEven]
        at hEntry
      cases hEntry
  · have hOdd : process.syscallStops % 2 = 1 := by omega
    rcases hRight.exit hSyscall hOdd with
      ⟨info, hInfo, hExit, _⟩
    rw [hInfo] at hAnswer
    rcases hAnswer with hPanic | ⟨timestampNs, hSame⟩
    · cases hPanic
    · cases hSame
      rw [eventType_swapped hSwapped, if_neg hEven]
        at hExit
      cases hExit

/- Both tracers pass over the stops by signals. -/
theorem labelsRight_of_signalStop
    (hSwapped : Swapped hasRuntime config pid process)
    (hSignal : stop.atSyscall = false) :
    process.LabelsRight hasRuntime stop := by
  have hNot : ¬stop.atSyscall = true :=
    ne_true_of_eq_false hSignal
  refine ⟨?_, ?_, ?_⟩
  · intro hSyscall
    exact absurd hSyscall hNot
  · intro hSyscall
    exact absurd hSyscall hNot
  · constructor
    · rintro ⟨info, hInfo, hEntry⟩
      rcases SyscallTracer.signalStop_cases
          (wStopSig stop.status)
        with ⟨_, _, hAnswer⟩
      rw [answer,
        SyscallTracer.nextSyscall_at_stop hSwapped.pid,
        if_neg hNot] at hInfo
      rw [hInfo] at hAnswer
      rcases hAnswer with
        hPanic | hNone | ⟨timestampNs, hSame⟩
      · cases hPanic
      · cases hNone
      · cases hSame
        cases hEntry
    · intro hLogs
      unfold Logs at hLogs
      rw [TraceLoop.turn_at_stop, if_neg hNot,
        ite_self] at hLogs
      exact absurd rfl hLogs

/- The interceptor logs the entries. -/
theorem logs_iff
    (hSwapped : Swapped true config pid process)
    (hSyscall : stop.atSyscall = true) :
    process.Logs true stop ↔
      process.syscallStops % 2 = 0 := by
  rcases hSwapped.interceptor rfl with ⟨hGoesOn, hEntry⟩
  rcases TraceLoop.atSyscallStop_of_runtime stop.regs
      hGoesOn
    with ⟨_, _, hEvents⟩
  unfold Logs
  rw [TraceLoop.turn_at_stop, hGoesOn,
    if_neg Bool.false_ne_true, if_pos hSyscall, hEvents,
    hEntry]
  by_cases hEven : process.syscallStops % 2 = 0
  · simp [hEven]
  · simp [hEven]

/-
  The tracer labels an entry exactly what the interceptor
  does not log.
-/
theorem isEntry_iff_not_logs
    (hSwapped : Swapped true config pid process)
    (hRoom : 0 < config.maxBuffered)
    (hClock : 0 ≤ stop.now.nanos)
    (hSyscall : stop.atSyscall = true) :
    IsEntry (process.answer stop) ↔
      ¬process.Logs true stop := by
  have hBuffered :
      0 < process.tracer.config.maxBuffered := by
    rw [hSwapped.config]
    exact hRoom
  rcases @SyscallTracer.syscallStop_ok pid stop.now
      process.tracer stop.regs hBuffered hClock
    with ⟨timestampNs, hAnswer⟩
  rw [logs_iff hSwapped hSyscall, answer,
    SyscallTracer.nextSyscall_at_stop hSwapped.pid,
    if_pos hSyscall, hAnswer]
  have hType :=
    eventType_swapped hSwapped stop.regs timestampNs
  constructor
  · rintro ⟨info, hInfo, hEntry⟩ hEven
    cases hInfo
    rw [hType, if_pos hEven] at hEntry
    cases hEntry
  · intro hOdd
    rw [if_neg hOdd] at hType
    exact ⟨_, rfl, hType⟩

/-
  On every sequence of stops the labels of the tracer are
  swapped: its entries are the stops at system calls that
  the interceptor does not log.
-/
theorem entries_swapped
    (config : TracerConfig)
    (pid : Int32)
    (stops : List PtraceStop)
    (hRoom : 0 < config.maxBuffered)
    (hClock : ∀ stop ∈ stops, 0 ≤ stop.now.nanos) :
    Runs.AlongRun (stopsAt true)
      (fun process stop =>
        stop.atSyscall = true →
          (IsEntry (process.answer stop) ↔
            ¬process.Logs true stop))
      (attached config pid) stops := by
  have hAlong :
      Runs.AlongRun (stopsAt true)
        (fun _ stop => 0 ≤ stop.now.nanos)
        (attached config pid) stops :=
    Runs.alongRun_of_forall_mem
      fun stop hStop _ => hClock stop hStop
  refine
    Runs.alongRun_of_invariant
      (fun process stop hSwapped _ =>
        swapped_step process stop hSwapped)
      ?_ (swapped_attached true config pid) hAlong
  intro process stop hSwapped hAfter hSyscall
  exact
    isEntry_iff_not_logs hSwapped hRoom hAfter hSyscall

end TracedProcess

------------------------------------------------------------
-- Error Codes
------------------------------------------------------------

/- A word as a signed number. -/
private theorem toInt_toInt64
    (word : UInt64) :
    word.toInt64.toInt =
      if 2 * word.toNat < 2 ^ 64 then
        (word.toNat : Int)
      else
        (word.toNat : Int) - (2 ^ 64 : Nat) := by
  change word.toBitVec.toInt = _
  exact BitVec.toInt_eq_toNat_cond word.toBitVec

/- The returns from which an error code is read. -/
private theorem threshold_lt_iff
    (rax : UInt64) :
    0xffff_ffff_ffff_0000 < rax ↔
      -65535 ≤ rax.toInt64.toInt ∧
        rax.toInt64.toInt < 0 := by
  have hWord : rax.toNat < 2 ^ 64 := rax.toNat_lt
  have hThreshold :
      UInt64.toNat 0xffff_ffff_ffff_0000 =
        18446744073709486080 := rfl
  rw [UInt64.lt_iff_toNat_lt, toInt_toInt64, hThreshold]
  split <;> omega

/- The code that is read is one minus the error. -/
theorem errorCode_of_error
    {rax : UInt64}
    {error : Int}
    (hRax : rax.toInt64.toInt = -error)
    (hPositive : 1 ≤ error)
    (hRange : error ≤ 65535) :
    SyscallTracer.errorCode rax =
      some (Int32.ofInt (1 - error)) := by
  have hWord : rax.toInt64 = Int64.ofInt (-error) := by
    rw [← hRax, Int64.ofInt_toInt]
  have hNext :
      -(rax.toInt64 ^^^ -1) = Int64.ofInt (1 - error) := by
    have hSum : 1 - error = -error + 1 := by omega
    rw [Int64.xor_neg_one, Int64.not_eq_neg_add, hWord,
      hSum, Int64.ofInt_add]
    grind
  have hAbove : 0xffff_ffff_ffff_0000 < rax := by
    rw [threshold_lt_iff, hRax]
    omega
  rw [SyscallTracer.errorCode, if_pos hAbove, hNext,
    Int64.toInt32_ofInt]

/-
  The tracer reads the right error code off a return value
  exactly when there is none to be read.
-/
theorem errorCode_decodes_iff
    (rax : UInt64) :
    DecodesError rax (SyscallTracer.errorCode rax) ↔
      ¬(-65535 ≤ rax.toInt64.toInt ∧
        rax.toInt64.toInt < 0) := by
  constructor
  · rintro hDecodes ⟨hLow, hNegative⟩
    have hCode :=
      errorCode_of_error (neg_neg rax.toInt64.toInt).symm
        (by omega) (by omega)
    have hPositive := ((hDecodes _).mp hCode).1
    rw [Int32.toInt_ofInt_of_le (by omega) (by omega)]
      at hPositive
    omega
  · intro hNoError error
    rw [SyscallTracer.errorCode,
      if_neg fun hAbove =>
        hNoError ((threshold_lt_iff rax).mp hAbove)]
    constructor
    · intro hNone
      cases hNone
    · rintro ⟨hPositive, hRange, hRax⟩
      exact absurd ⟨by omega, by omega⟩ hNoError

------------------------------------------------------------
-- Agreement
------------------------------------------------------------

/-
  The tracers agree on a sequence of stops exactly when it
  has no stop at a system call.
-/
theorem tracersAgree_iff
    (hasRuntime : Bool)
    (config : TracerConfig)
    (pid : Int32)
    (stops : List PtraceStop) :
    TracersAgree hasRuntime config pid stops ↔
      ∀ stop ∈ stops, stop.atSyscall = false := by
  have hStart :=
    TracedProcess.swapped_attached hasRuntime config pid
  constructor
  · intro hAgree
    have hSignals :
        Runs.AlongRun (TracedProcess.stopsAt hasRuntime)
          (fun _ stop => stop.atSyscall = false)
          (TracedProcess.attached config pid) stops := by
      refine
        Runs.alongRun_of_invariant
          (fun process stop hSwapped _ =>
            TracedProcess.swapped_step process stop
              hSwapped)
          ?_ hStart hAgree
      intro process stop hSwapped hRight
      rw [← Bool.not_eq_true]
      intro hSyscall
      exact
        TracedProcess.not_labelsRight_of_syscallStop
          hSwapped hSyscall hRight
    refine Runs.forall_mem_of_alongRun ?_ hSignals
    intro process stop hSignal
    exact hSignal
  · intro hSignals
    exact
      Runs.alongRun_of_invariant
        (fun process stop hSwapped _ =>
          TracedProcess.swapped_step process stop hSwapped)
        (fun process stop hSwapped hSignal =>
          TracedProcess.labelsRight_of_signalStop hSwapped
            hSignal)
        hStart
        (Runs.alongRun_of_forall_mem
          fun stop hStop _ => hSignals stop hStop)

end IsaWorkspace

------------------------------------------------------------
-- A Traced Process
------------------------------------------------------------

namespace IsaWorkspace

namespace TracingSample

/- The first stop of a process that asks for its id. -/
def getpidEntry : PtraceStop where
  status := 0x857f
  stopped := by decide
  regs :=
    { origRax := 39, rax := -38, rdi := 0, rsi := 0
      rdx := 0, r10 := 0, r8 := 0, r9 := 0
      rip := 0x401000, rsp := 0x7ffff000 }
  now := DateTime.unixEpoch

end TracingSample

open TracingSample

/- The entry of the first system call is not an entry. -/
theorem tracersAgree_getpid :
    ¬TracersAgree true TracerConfig.default 7
      [getpidEntry] := by
  rintro ⟨hRight, _⟩
  exact
    TracedProcess.not_labelsRight_of_syscallStop
      (TracedProcess.swapped_attached true
        TracerConfig.default 7)
      rfl hRight

end IsaWorkspace
