import IsaWorkspace.Model
import IsaWorkspace.Tracing.Ptrace

/-
  The syscall interceptor.

  `TraceLoop.turn` is one turn of the loop that waits for a
  stop, logs the system calls that are entered, and resumes
  the process.  The list of events is written through the
  runtime of the current thread; without one the thread
  unwinds.

  Main declarations:
    * `syscallName`
    * `TraceLoop`, `TraceLoop.new`, `LoopTurn`
    * `TraceLoop.atSyscallStop`, `TraceLoop.turn`
    * `TraceLoop.turn_at_stop`
-/

------------------------------------------------------------
-- Syscall Names
------------------------------------------------------------

namespace IsaWorkspace

/- The system calls that have a name here. -/
def namedSyscalls : List (UInt64 × String) :=
  [(0, "read"), (1, "write"), (2, "open"), (3, "close"),
    (4, "stat"), (5, "fstat"), (6, "lstat"), (7, "poll"),
    (8, "lseek"), (9, "mmap"), (10, "mprotect"),
    (11, "munmap"), (12, "brk"), (13, "rt_sigaction"),
    (14, "rt_sigprocmask"), (15, "rt_sigreturn"),
    (16, "ioctl"), (17, "pread64"), (18, "pwrite64"),
    (19, "readv"), (20, "writev"), (21, "access"),
    (22, "pipe"), (23, "select"), (24, "sched_yield"),
    (25, "mremap"), (26, "msync"), (27, "mincore"),
    (28, "madvise"), (32, "dup"), (33, "dup2"),
    (34, "pause"), (35, "nanosleep"), (39, "getpid"),
    (41, "socket"), (42, "connect"), (43, "accept"),
    (44, "sendto"), (45, "recvfrom"), (46, "sendmsg"),
    (47, "recvmsg"), (49, "bind"), (50, "listen"),
    (56, "clone"), (57, "fork"), (58, "vfork"),
    (59, "execve"), (60, "exit"), (61, "wait4"),
    (62, "kill"), (63, "uname"), (87, "waitpid"),
    (101, "ptrace"), (102, "getuid"), (104, "getgid"),
    (157, "prctl"), (158, "arch_prctl"),
    (217, "getdents64"), (218, "set_tid_address"),
    (228, "clock_gettime"), (231, "exit_group"),
    (257, "openat"), (302, "prlimit64"), (318, "getrandom"),
    (334, "rseq")]

/- Syscall number to name mapping. -/
def syscallName
    (num : UInt64) : String :=
  (namedSyscalls.lookup num).getD "unknown"

------------------------------------------------------------
-- The Tracing Loop
------------------------------------------------------------

/- The locals of the loop, and the events it has logged. -/
structure TraceLoop where
  atSyscallEntry : Bool
  syscallNr : UInt64
  syscallArgs : Vector UInt64 6
  events : List DeterministicEvent
  finished : Bool
deriving DecidableEq

/- What one turn reads: the running flag, and the kernel. -/
structure LoopTurn where
  running : Bool
  reply : PtraceReply
deriving DecidableEq

/- The turn of a running loop at a stop of the process. -/
def PtraceStop.loopTurn
    (stop : PtraceStop) : LoopTurn where
  running := true
  reply := stop.reply

namespace TraceLoop

/- The loop before its first turn. -/
def new : TraceLoop where
  atSyscallEntry := true
  syscallNr := 0
  syscallArgs := Vector.replicate 6 0
  events := []
  finished := false

/- Log a system call that is entered. -/
def logEntry
    (hasRuntime : Bool)
    (regs : UserRegs)
    (loop : TraceLoop) : TraceLoop :=
  let loop :=
    { loop with
      syscallNr := regs.rax
      syscallArgs := regs.arguments }
  if hasRuntime then
    { loop with
      events :=
        loop.events ++
          [.syscall (syscallName loop.syscallNr)] }
  else
    { loop with finished := true }

/- What is done at a stop at a system call. -/
def atSyscallStop
    (hasRuntime : Bool)
    (regs? : Option UserRegs)
    (loop : TraceLoop) : TraceLoop :=
  let loop :=
    match loop.atSyscallEntry, regs? with
    | true, some regs => loop.logEntry hasRuntime regs
    | true, none => loop
    -- At an exit the return value is only traced.
    | false, _ => loop
  if loop.finished then
    loop
  else
    { loop with atSyscallEntry := !loop.atSyscallEntry }

/- One turn of the loop. -/
def turn
    (hasRuntime : Bool)
    (input : LoopTurn)
    (loop : TraceLoop) : TraceLoop :=
  if loop.finished then
    loop
  else if !input.running || !input.reply.waited then
    { loop with finished := true }
  else
    let status := input.reply.status
    let stopped := wifStopped status
    let loop :=
      if stopped && isSyscallStop status then
        loop.atSyscallStop hasRuntime input.reply.regs
      else
        loop
    if stopped && !input.reply.resumed then
      { loop with finished := true }
    else if wifExited status || wifSignaled status then
      { loop with finished := true }
    else
      loop

/- What a turn does when the process stops. -/
theorem turn_at_stop
    (hasRuntime : Bool)
    (stop : PtraceStop)
    (loop : TraceLoop) :
    loop.turn hasRuntime stop.loopTurn =
      if loop.finished then
        loop
      else if stop.atSyscall then
        loop.atSyscallStop hasRuntime (some stop.regs)
      else
        loop := by
  simp only [turn, PtraceStop.loopTurn, PtraceStop.reply,
    PtraceStop.atSyscall,
    not_exited_of_stopped stop.stopped,
    not_signaled_of_stopped stop.stopped, stop.stopped,
    Bool.not_true, Bool.or_false, Bool.and_false,
    Bool.true_and, Bool.false_eq_true, if_false]
  rfl

/-
  A stop at a system call is logged when an entry is due,
  and the next one is of the other kind.
-/
theorem atSyscallStop_of_runtime
    (regs : UserRegs)
    {loop : TraceLoop}
    (hGoesOn : loop.finished = false) :
    (loop.atSyscallStop true (some regs)).finished =
        false ∧
      (loop.atSyscallStop true (some regs)).atSyscallEntry =
        !loop.atSyscallEntry ∧
      (loop.atSyscallStop true (some regs)).events =
        if loop.atSyscallEntry then
          loop.events ++ [.syscall (syscallName regs.rax)]
        else
          loop.events := by
  rcases loop with ⟨_ | _, _, _, _, _⟩
  · cases hGoesOn
    exact ⟨rfl, rfl, rfl⟩
  · cases hGoesOn
    exact ⟨rfl, rfl, rfl⟩

end TraceLoop

end IsaWorkspace
