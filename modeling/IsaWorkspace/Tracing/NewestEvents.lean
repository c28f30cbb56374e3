import IsaWorkspace.Foundations.Runs
import IsaWorkspace.Tracing.SyscallTracer

/-
  The events that the tracer has buffered.

  Which events there are is read off the stops and the flag
  alone; the configuration says which of them qualify for
  recording.  Both paths of `nextSyscall` buffer what
  qualifies in the same way, so that the buffer always has
  the newest qualifying events.

  Main declarations:
    * `PtraceReply.stop`, `SyscallTracer.eventAt`
    * `SyscallTracer.events`, `TracerConfig.qualifies`
    * `SyscallTracer.qualifyingEvents`
    * `SyscallTracer.signalStop_state`
    * `SyscallTracer.syscallStop_state`
    * `SyscallTracer.next_eq`, `SyscallTracer.syscalls_run`
    * `SyscallTracer.buffer_eq_newest`
-/

------------------------------------------------------------
-- Events
------------------------------------------------------------

namespace IsaWorkspace

/-
  What has stopped the process: a signal, or a system call,
  with the registers if they can be read.
-/
inductive StopCause where
  | signal (sig : UInt32)
  | syscall (regs? : Option UserRegs)
deriving DecidableEq

/- The stop that a reply tells of, if it tells of one. -/
def PtraceReply.stop
    (reply : PtraceReply) : Option StopCause :=
  if reply.resumed && reply.waited &&
      wifStopped reply.status then
    if isSyscallStop reply.status then
      some (.syscall reply.regs)
    else
      some (.signal (wStopSig reply.status))
  else
    none

/- Whether events of a kind are to be recorded. -/
def TracerConfig.qualifies
    (config : TracerConfig)
    (event : SyscallTracer.SyscallInfo) : Bool :=
  match event.eventType with
  | .signal => config.traceSignals
  | .entry => config.traceEntry
  | .exit => config.traceExit
  | .processEvent => false

namespace SyscallTracer

/- What the kernel answers to a call, and the clock. -/
abbrev Call : Type :=
  PtraceReply × DateTime

/- The stop of a traced process that a call handles. -/
def stopAt
    (tracer : SyscallTracer)
    (call : Call) : Option (Int32 × StopCause) :=
  tracer.pid.bind fun pid =>
    call.1.stop.map fun cause => (pid, cause)

/-
  The event that a stop is, as the flag labels it: there is
  none without registers, or with the clock before the epoch.
-/
def eventOf
    (tracer : SyscallTracer)
    (pid : Int32)
    (now : DateTime) :
    StopCause → Option SyscallInfo
| .signal sig =>
    (getTimestampNs now).map (signalInfo pid sig)
| .syscall regs? =>
    regs?.bind fun regs =>
      (getTimestampNs now).map
        (tracer.toggled.syscallInfo pid regs)

@[simp] theorem eventOf_signal
    (tracer : SyscallTracer)
    (pid : Int32)
    (now : DateTime)
    (sig : UInt32) :
    tracer.eventOf pid now (.signal sig) =
      (getTimestampNs now).map (signalInfo pid sig) := rfl

@[simp] theorem eventOf_syscall
    (tracer : SyscallTracer)
    (pid : Int32)
    (now : DateTime)
    (regs : UserRegs) :
    tracer.eventOf pid now (.syscall (some regs)) =
      (getTimestampNs now).map
        (tracer.toggled.syscallInfo pid regs) := rfl

/- The event that a call handles. -/
def eventAt
    (tracer : SyscallTracer)
    (call : Call) : Option SyscallInfo :=
  (tracer.stopAt call).bind fun stop =>
    tracer.eventOf stop.1 call.2 stop.2

/- The tracer with the flag as it is after a stop. -/
def afterStop
    (tracer : SyscallTracer)
    (call : Call) : SyscallTracer :=
  match tracer.stopAt call with
  | some (_, .syscall _) => tracer.toggled
  | _ => tracer

/- The events of a run, whether recorded or not. -/
def events :
    SyscallTracer → List Call → List SyscallInfo
| _, [] => []
| tracer, call :: rest =>
    (tracer.eventAt call).toList ++
      events (tracer.afterStop call) rest

/- The events of a run that qualify for recording. -/
def qualifyingEvents
    (tracer : SyscallTracer)
    (calls : List Call) : List SyscallInfo :=
  (tracer.events calls).filter tracer.config.qualifies

/- One call, for the tracer that it leaves. -/
def next
    (tracer : SyscallTracer)
    (call : Call) : SyscallTracer :=
  (nextSyscall call.1 call.2 tracer).2

------------------------------------------------------------
-- Buffering
------------------------------------------------------------

variable {tracer : SyscallTracer} {pid : Int32}
variable {now : DateTime}

/- A stop by a signal is buffered if signals are traced. -/
theorem signalStop_state
    (hRoom : 1 ≤ tracer.config.maxBuffered)
    (sig : UInt32) :
    (signalStop pid sig now tracer).2 =
      tracer.buffered
        ((tracer.eventOf pid now (.signal sig)).toList.filter
          tracer.config.qualifies) := by
  unfold signalStop
  rw [Exec.read_bind_apply, eventOf_signal]
  cases getTimestampNs now with
  | none =>
      split
      · rfl
      · rfl
  | some timestampNs =>
      rw [Option.map_some, Option.toList_some,
        List.filter_singleton]
      by_cases hSignals : tracer.config.traceSignals = true
      · have hQualifies :
            tracer.config.qualifies
                (signalInfo pid sig timestampNs) = true :=
          hSignals
        rw [if_pos hSignals, hQualifies, Exec.orPanic_some,
          Exec.pure_bind_apply,
          Exec.bind_of_ok (bufferSyscall_eq hRoom _)]
        rfl
      · have hQualifies :
            tracer.config.qualifies
                (signalInfo pid sig timestampNs) = false :=
          Bool.eq_false_of_not_eq_true hSignals
        rw [if_neg hSignals, hQualifies]
        rfl

@[simp] theorem toggled_config
    (tracer : SyscallTracer) :
    tracer.toggled.config = tracer.config := rfl

/- At a system call both tests for recording are one. -/
theorem qualifies_syscallInfo
    (config : TracerConfig)
    (tracer : SyscallTracer)
    (pid : Int32)
    (regs : UserRegs)
    (timestampNs : UInt64) :
    config.qualifies
        (tracer.syscallInfo pid regs timestampNs) =
      traces config
        (tracer.syscallInfo pid regs timestampNs) := by
  unfold TracerConfig.qualifies traces syscallInfo
  cases tracer.expectingExit with
  | true => simp [exitInfo]
  | false => simp [entryInfo]

/- A stop at a system call is buffered if it is traced. -/
theorem syscallStop_state
    (hRoom : 1 ≤ tracer.config.maxBuffered)
    (regs? : Option UserRegs) :
    (syscallStop pid regs? now tracer).2 =
      tracer.toggled.buffered
        ((tracer.eventOf pid now
          (.syscall regs?)).toList.filter
            tracer.config.qualifies) := by
  cases regs? with
  | none => rfl
  | some regs =>
      rw [syscallStop_some, eventOf_syscall]
      cases getTimestampNs now with
      | none => rfl
      | some timestampNs =>
          rw [Exec.orPanic_some, Exec.pure_bind_apply,
            Exec.read_bind_apply, Option.map_some,
            Option.toList_some, List.filter_singleton,
            qualifies_syscallInfo]
          dsimp only
          by_cases hTraces :
              traces tracer.config
                  (tracer.toggled.syscallInfo pid regs
                    timestampNs) = true
          · have hBuffer :=
              @bufferSyscall_eq tracer.toggled hRoom
                (tracer.toggled.syscallInfo pid regs
                  timestampNs)
            rw [toggled_config, if_pos hTraces, hTraces,
              Exec.bind_of_ok hBuffer]
            rfl
          · rw [toggled_config, if_neg hTraces,
              Bool.eq_false_of_not_eq_true hTraces]
            rfl

------------------------------------------------------------
-- One Call
------------------------------------------------------------

variable {call : Call} {cause : StopCause}

/- A wait that reports a stop tells of one. -/
theorem stop_of_stopped
    {reply : PtraceReply}
    (hResumed : ¬ (!reply.resumed) = true)
    (hWaited : ¬ (!reply.waited) = true)
    (hStopped : ¬ (!wifStopped reply.status) = true) :
    reply.stop =
      some
        (if isSyscallStop reply.status then
          .syscall reply.regs
        else
          .signal (wStopSig reply.status)) := by
  unfold PtraceReply.stop
  rw [Bool.not_eq_true', Bool.not_eq_false]
    at hResumed hWaited hStopped
  rw [hResumed, hWaited, hStopped]
  split
  · split
    · rfl
    · rfl
  · next hNot => exact absurd rfl hNot

/- A call that handles no stop leaves the buffer alone. -/
theorem next_of_no_stop
    (hStop : tracer.stopAt call = none) :
    ∃ running,
      tracer.next call =
        { tracer with running := running } := by
  obtain ⟨config, traced, syscalls, names, running, flag⟩ :=
    tracer
  unfold next nextSyscall
  rw [Exec.read_bind_apply]
  cases traced with
  | none => exact ⟨running, rfl⟩
  | some pid =>
      have hNoStop : call.1.stop = none :=
        Option.map_eq_none_iff.mp hStop
      dsimp only
      split
      · exact ⟨running, rfl⟩
      · next hResumed =>
          split
          · exact ⟨running, rfl⟩
          · next hWaited =>
              split
              · exact ⟨false, rfl⟩
              · split
                · exact ⟨running, rfl⟩
                · next hStopped =>
                    rw [stop_of_stopped hResumed hWaited
                      hStopped] at hNoStop
                    cases hNoStop

/- What a call does that handles a stop. -/
theorem next_of_stop
    (hStop : tracer.stopAt call = some (pid, cause)) :
    tracer.next call =
      match cause with
      | .signal sig =>
          (signalStop pid sig call.2 tracer).2
      | .syscall regs? =>
          (syscallStop pid regs? call.2 tracer).2 := by
  unfold stopAt at hStop
  obtain ⟨traced, hPid, hMap⟩ :=
    Option.bind_eq_some_iff.mp hStop
  obtain ⟨found, hCause, hPair⟩ :=
    Option.map_eq_some_iff.mp hMap
  obtain ⟨rfl, rfl⟩ := Prod.mk.inj hPair
  unfold PtraceReply.stop at hCause
  split at hCause
  · next hSeen =>
      rw [Bool.and_eq_true, Bool.and_eq_true] at hSeen
      obtain ⟨⟨hResumed, hWaited⟩, hStopped⟩ := hSeen
      unfold next
      rw [nextSyscall_of_stopped hPid hResumed hWaited
        hStopped]
      split at hCause
      · next hSyscall =>
          obtain rfl := Option.some.inj hCause
          rw [if_pos hSyscall]
      · next hSignal =>
          obtain rfl := Option.some.inj hCause
          rw [if_neg hSignal]
  · cases hCause

/-
  After a call the flag is as the stop has left it, and the
  event has been buffered if it qualifies.
-/
theorem next_eq
    (hRoom : 1 ≤ tracer.config.maxBuffered)
    (call : Call) :
    ∃ running,
      tracer.next call =
        { (tracer.afterStop call).buffered
            ((tracer.eventAt call).toList.filter
              tracer.config.qualifies) with
          running := running } := by
  unfold afterStop eventAt
  cases hStop : tracer.stopAt call with
  | none =>
      obtain ⟨running, hNext⟩ := next_of_no_stop hStop
      exact ⟨running, hNext⟩
  | some stop =>
      obtain ⟨pid, cause⟩ := stop
      rw [next_of_stop hStop]
      cases cause with
      | signal sig =>
          exact ⟨_, signalStop_state hRoom sig⟩
      | syscall regs? =>
          exact ⟨_, syscallStop_state hRoom regs?⟩

------------------------------------------------------------
-- Runs of Calls
------------------------------------------------------------

@[simp] theorem afterStop_config
    (tracer : SyscallTracer)
    (call : Call) :
    (tracer.afterStop call).config = tracer.config := by
  unfold afterStop
  split
  · rfl
  · rfl

@[simp] theorem afterStop_syscalls
    (tracer : SyscallTracer)
    (call : Call) :
    (tracer.afterStop call).syscalls = tracer.syscalls := by
  unfold afterStop
  split
  · rfl
  · rfl

/- The flag does not depend on what has been buffered. -/
theorem afterStop_update
    (tracer : SyscallTracer)
    (syscalls : List SyscallInfo)
    (running : Bool)
    (call : Call) :
    afterStop
        { tracer with
          syscalls := syscalls
          running := running } call =
      { tracer.afterStop call with
        syscalls := syscalls
        running := running } := by
  have hStop :
      stopAt
          { tracer with
            syscalls := syscalls
            running := running } call =
        tracer.stopAt call := rfl
  unfold afterStop
  rw [hStop]
  split
  · rfl
  · rfl

/- Neither do the events. -/
theorem events_update
    (tracer : SyscallTracer)
    (syscalls : List SyscallInfo)
    (running : Bool)
    (calls : List Call) :
    events
        { tracer with
          syscalls := syscalls
          running := running } calls =
      tracer.events calls := by
  induction calls generalizing tracer with
  | nil => rfl
  | cons call rest ih =>
      unfold events
      rw [afterStop_update, ih]
      rfl

theorem next_config
    (hRoom : 1 ≤ tracer.config.maxBuffered)
    (call : Call) :
    (tracer.next call).config = tracer.config := by
  obtain ⟨running, hNext⟩ := next_eq hRoom call
  rw [hNext]
  exact tracer.afterStop_config call

theorem next_syscalls
    (hRoom : 1 ≤ tracer.config.maxBuffered)
    (call : Call) :
    (tracer.next call).syscalls =
      Newest.pushAll tracer.config.maxBuffered
        tracer.syscalls
        ((tracer.eventAt call).toList.filter
          tracer.config.qualifies) := by
  obtain ⟨running, hNext⟩ := next_eq hRoom call
  rw [hNext]
  unfold buffered
  rw [afterStop_config, afterStop_syscalls]

theorem events_next
    (hRoom : 1 ≤ tracer.config.maxBuffered)
    (call : Call)
    (rest : List Call) :
    (tracer.next call).events rest =
      (tracer.afterStop call).events rest := by
  obtain ⟨running, hNext⟩ := next_eq hRoom call
  rw [hNext]
  exact
    events_update (tracer.afterStop call)
      ((tracer.afterStop call).buffered _).syscalls running
      rest

/- What qualifies has been buffered, one after the other. -/
theorem syscalls_run
    (hRoom : 1 ≤ tracer.config.maxBuffered)
    (calls : List Call) :
    (Runs.run next tracer calls).syscalls =
      Newest.pushAll tracer.config.maxBuffered
        tracer.syscalls (tracer.qualifyingEvents calls) := by
  induction calls generalizing tracer with
  | nil => rfl
  | cons call rest ih =>
      have hConfig := next_config hRoom call
      have hRest :
          1 ≤ (tracer.next call).config.maxBuffered := by
        rw [hConfig]
        exact hRoom
      rw [Runs.run_cons, ih hRest, hConfig,
        next_syscalls hRoom]
      unfold qualifyingEvents
      rw [hConfig, events_next hRoom, events,
        List.filter_append, Newest.pushAll_append]

/-
  After every run of calls the buffer has the last of the
  events that have qualified, in order, as many of them as
  it has room for.
-/
theorem buffer_eq_newest
    (config : TracerConfig)
    (pid : Int32)
    (calls : List Call)
    (hRoom : 1 ≤ config.maxBuffered) :
    (Runs.run next (attached config pid) calls).syscalls =
      let qualifying :=
        (attached config pid).qualifyingEvents calls
      qualifying.rtake
        (min qualifying.length config.maxBuffered) := by
  have hRun := @syscalls_run (attached config pid) hRoom calls
  rw [hRun]
  exact Newest.pushAll_nil_eq hRoom _

/- A call that handles a stop at the epoch. -/
def sampleCall
    (status : UInt32)
    (regs : Option UserRegs) : Call :=
  ({ resumed := true
     waited := true
     status := status
     regs := regs },
    DateTime.unixEpoch)

/- The registers at a call of `openat2`. -/
def openRegs : UserRegs where
  origRax := 437
  rax := 3
  rdi := 4
  rsi := 0x1000
  rdx := 0x2000
  r10 := 24
  r8 := 0
  r9 := 0
  rip := 0x400000
  rsp := 0x7fff0000

/- A signal, two stops at a system call, and a signal. -/
def sampleCalls : List Call :=
  [sampleCall 0x057f none, sampleCall 0x857f (some openRegs),
    sampleCall 0x857f (some openRegs),
    sampleCall 0x0c7f none]

/-
  With room for three, the first of four events is gone.  The
  first stop at a system call is labelled as an exit.
-/
theorem buffer_eq_newest_sample :
    (Runs.run next
        (attached
          { TracerConfig.default with maxBuffered := 3 } 7)
        sampleCalls).syscalls =
      [exitInfo 7 "openat2" openRegs 0,
        entryInfo 7 "openat2" openRegs 0,
        signalInfo 7 12 0] := by
  have hNewest :=
    buffer_eq_newest
      { TracerConfig.default with maxBuffered := 3 } 7
      sampleCalls (by decide)
  rw [hNewest]
  decide +kernel

end SyscallTracer

end IsaWorkspace
