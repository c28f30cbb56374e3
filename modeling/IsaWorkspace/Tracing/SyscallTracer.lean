import IsaWorkspace.Foundations.Exec
import IsaWorkspace.Foundations.HashMap
import IsaWorkspace.Foundations.Newest
import IsaWorkspace.Tracing.Ptrace

/-
  The syscall tracer.

  `nextSyscall` resumes the process, waits for its next stop
  and reports what it takes the stop for.  Stops at system
  calls are labelled in turn: the flag that says which label
  is next is toggled before it is read.

  Main declarations:
    * `SyscallTracer`, `SyscallTracer.SyscallInfo`
    * `SyscallTracer.new`, `SyscallTracer.attachToProcess`
    * `SyscallTracer.bufferSyscall`
    * `SyscallTracer.buffered`, `bufferSyscall_eq`
    * `SyscallTracer.syscallStop`
    * `SyscallTracer.nextSyscall`
    * `SyscallTracer.syscallStop_cases`
    * `SyscallTracer.signalStop_cases`
-/

------------------------------------------------------------
-- Configuration and Records
------------------------------------------------------------

namespace IsaWorkspace

/- Syscall tracer configuration. -/
structure TracerConfig where
  traceEntry : Bool
  traceExit : Bool
  traceSignals : Bool
  maxBuffered : Nat
deriving DecidableEq

/- The default configuration. -/
def TracerConfig.default : TracerConfig where
  traceEntry := true
  traceExit := true
  traceSignals := true
  maxBuffered := 100000

/- Syscall event type. -/
inductive SyscallEventType where
  | entry
  | exit
  | signal
  | processEvent
deriving DecidableEq

/- Syscall information, in full. -/
structure SyscallTracer.SyscallInfo where
  number : UInt64
  name : String
  args : Vector UInt64 6
  returnValue : Int64
  errorCode : Option Int32
  timestampNs : UInt64
  tid : UInt32
  pid : UInt32
  instructionPointer : UInt64
  stackPointer : UInt64
  eventType : SyscallEventType
deriving DecidableEq

/- Syscall tracer errors. -/
inductive SyscallTracerError where
  | noProcess
  | ptraceError (request : String)
  | waitError
deriving DecidableEq

/- Syscall tracer using ptrace. -/
structure SyscallTracer where
  config : TracerConfig
  pid : Option Int32
  syscalls : List SyscallTracer.SyscallInfo
  syscallNames : HashMap UInt64 String
  running : Bool
  expectingExit : Bool

------------------------------------------------------------
-- Syscall Names
------------------------------------------------------------

/- The names of the system calls from number 0 on. -/
def syscallNamesFrom0 : List String :=
  ["read", "write", "open", "close", "stat", "fstat",
    "lstat", "poll", "lseek", "mmap", "mprotect", "munmap",
    "brk", "rt_sigaction", "rt_sigprocmask", "rt_sigreturn",
    "ioctl", "pread64", "pwrite64", "readv", "writev",
    "access", "pipe", "select", "sched_yield", "mremap",
    "msync", "mincore", "madvise", "shmget", "shmat",
    "shmctl", "dup", "dup2", "pause", "nanosleep",
    "getitimer", "alarm", "setitimer", "getpid", "sendfile",
    "socket", "connect", "accept", "sendto", "recvfrom",
    "sendmsg", "recvmsg", "shutdown", "bind", "listen",
    "getsockname", "getpeername", "socketpair",
    "setsockopt", "getsockopt", "clone", "fork", "vfork",
    "execve", "exit", "wait4", "kill", "uname", "semget",
    "semop", "semctl", "shmdt", "msgget", "msgsnd",
    "msgrcv", "msgctl", "fcntl", "flock", "fsync",
    "fdatasync", "truncate", "ftruncate", "getdents",
    "getcwd", "chdir", "fchdir", "rename", "mkdir", "rmdir",
    "creat", "link", "unlink", "symlink", "readlink",
    "chmod", "fchmod", "chown", "fchown", "lchown", "umask",
    "gettimeofday", "getrlimit", "getrusage", "sysinfo",
    "times", "ptrace", "getuid", "syslog", "getgid",
    "setuid", "setgid", "geteuid", "getegid", "setpgid",
    "getppid", "getpgrp", "setsid", "setreuid", "setregid",
    "getgroups", "setgroups", "setresuid", "getresuid",
    "setresgid", "getresgid", "getpgid", "setfsuid",
    "setfsgid", "getsid", "capget", "capset",
    "rt_sigpending", "rt_sigtimedwait", "rt_sigqueueinfo",
    "rt_sigsuspend", "sigaltstack", "utime", "mknod",
    "uselib", "personality", "ustat", "statfs", "fstatfs",
    "sysfs", "getpriority", "setpriority", "sched_setparam",
    "sched_getparam", "sched_setscheduler",
    "sched_getscheduler", "sched_get_priority_max",
    "sched_get_priority_min", "sched_rr_get_interval",
    "mlock", "munlock", "mlockall", "munlockall", "vhangup",
    "modify_ldt", "pivot_root", "_sysctl", "prctl",
    "arch_prctl", "adjtimex", "setrlimit", "chroot", "sync",
    "acct", "settimeofday", "mount", "umount2", "swapon",
    "swapoff", "reboot", "sethostname", "setdomainname",
    "iopl", "ioperm", "create_module", "init_module",
    "delete_module", "get_kernel_syms", "query_module",
    "quotactl", "nfsservctl", "getpmsg", "putpmsg",
    "afs_syscall", "tuxcall", "security", "gettid",
    "readahead", "setxattr", "lsetxattr", "fsetxattr",
    "getxattr", "lgetxattr", "fgetxattr", "listxattr",
    "llistxattr", "flistxattr", "removexattr",
    "lremovexattr", "fremovexattr", "tkill", "time",
    "futex", "sched_setaffinity", "sched_getaffinity",
    "set_thread_area", "io_setup", "io_destroy",
    "io_getevents", "io_submit", "io_cancel",
    "get_thread_area", "lookup_dcookie", "epoll_create",
    "epoll_ctl_old", "epoll_wait_old", "remap_file_pages",
    "getdents64", "set_tid_address", "restart_syscall",
    "semtimedop", "fadvise64", "timer_create",
    "timer_settime", "timer_gettime", "timer_getoverrun",
    "timer_delete", "clock_settime", "clock_gettime",
    "clock_getres", "clock_nanosleep", "exit_group",
    "epoll_wait", "epoll_ctl", "tgkill", "utimes",
    "vserver", "mbind", "set_mempolicy", "get_mempolicy",
    "mq_open", "mq_unlink", "mq_timedsend",
    "mq_timedreceive", "mq_notify", "mq_getsetattr",
    "kexec_load", "waitid", "add_key", "request_key",
    "keyctl", "ioprio_set", "ioprio_get", "inotify_init",
    "inotify_add_watch", "inotify_rm_watch",
    "migrate_pages", "openat", "mkdirat", "mknodat",
    "fchownat", "futimesat", "newfstatat", "unlinkat",
    "renameat", "linkat", "symlinkat", "readlinkat",
    "fchmodat", "faccessat", "pselect6", "ppoll", "unshare",
    "set_robust_list", "get_robust_list", "splice", "tee",
    "sync_file_range", "vmsplice", "move_pages",
    "utimensat", "epoll_pwait", "signalfd",
    "timerfd_create", "eventfd", "fallocate",
    "timerfd_settime", "timerfd_gettime", "accept4",
    "signalfd4", "eventfd2", "epoll_create1", "dup3",
    "pipe2", "inotify_init1", "preadv", "pwritev",
    "rt_tgsigqueueinfo", "perf_event_open", "recvmmsg",
    "fanotify_init", "fanotify_mark", "prlimit64",
    "name_to_handle_at", "open_by_handle_at",
    "clock_adjtime", "syncfs", "sendmmsg", "setns",
    "getcpu", "process_vm_readv", "process_vm_writev",
    "kcmp", "finit_module", "sched_setattr",
    "sched_getattr", "renameat2", "seccomp", "getrandom",
    "memfd_create", "kexec_file_load", "bpf", "execveat",
    "userfaultfd", "membarrier", "mlock2",
    "copy_file_range", "preadv2", "pwritev2",
    "pkey_mprotect", "pkey_alloc", "pkey_free", "statx",
    "io_pgetevents", "rseq"]

/- The names of the system calls from number 424 on. -/
def syscallNamesFrom424 : List String :=
  ["pidfd_send_signal", "io_uring_setup", "io_uring_enter",
    "io_uring_register", "open_tree", "move_mount",
    "fsopen", "fsconfig", "fsmount", "fspick", "pidfd_open",
    "clone3", "close_range", "openat2", "pidfd_getfd",
    "faccessat2", "process_madvise", "epoll_pwait2",
    "mount_setattr", "quotactl_fd",
    "landlock_create_ruleset", "landlock_add_rule",
    "landlock_restrict_self", "memfd_secret",
    "process_mrelease", "futex_waitv",
    "set_mempolicy_home_node"]

/- Enter names under consecutive numbers. -/
def insertSyscallNames
    (first : Nat)
    (names : List String)
    (table : HashMap UInt64 String) :
    HashMap UInt64 String :=
  (names.zipIdx first).foldl
    (fun table entry =>
      table.insert (UInt64.ofNat entry.2) entry.1)
    table

/- The lookup table of syscall names. -/
def initSyscallNames : HashMap UInt64 String :=
  insertSyscallNames 424 syscallNamesFrom424
    (insertSyscallNames 0 syscallNamesFrom0 ∅)

------------------------------------------------------------
-- Creation and Attachment
------------------------------------------------------------

namespace SyscallTracer

/- Create a new syscall tracer. -/
def new
    (config : TracerConfig) : SyscallTracer where
  config := config
  pid := none
  syscalls := []
  syscallNames := initSyscallNames
  running := false
  expectingExit := false

/- Get syscall name from number. -/
def getSyscallName
    (tracer : SyscallTracer)
    (number : UInt64) : String :=
  (tracer.syscallNames.lookup number).getD
    ("syscall_" ++ toString number.toNat)

/-
  Attach to an existing process.  The flags say whether the
  kernel grants the two requests.
-/
def attachToProcess
    (pid : Int32)
    (attached optionsSet : Bool) :
    Exec SyscallTracer SyscallTracerError Unit :=
  if !attached then
    Exec.fail (.ptraceError "ATTACH")
  else if !optionsSet then
    Exec.fail (.ptraceError "SETOPTIONS")
  else
    Exec.update fun tracer =>
      { tracer with
        pid := some pid
        running := true }

/- A tracer that has just attached to a process. -/
def attached
    (config : TracerConfig)
    (pid : Int32) : SyscallTracer :=
  (attachToProcess pid true true (new config)).2

end SyscallTracer

------------------------------------------------------------
-- Syscall Records
------------------------------------------------------------

/- The clock in nanoseconds; `none` is a panic. -/
def getTimestampNs
    (now : DateTime) : Option UInt64 :=
  if 0 ≤ now.nanos then
    some (UInt64.ofNat now.nanos.toNat)
  else
    none

namespace SyscallTracer

/- What is recorded of a signal. -/
def signalInfo
    (pid : Int32)
    (sig : UInt32)
    (timestampNs : UInt64) : SyscallInfo where
  number := 0
  name := "signal"
  args := Vector.replicate 6 0
  returnValue := sig.toUInt64.toInt64
  errorCode := none
  timestampNs := timestampNs
  tid := pid.toUInt32
  pid := pid.toUInt32
  instructionPointer := 0
  stackPointer := 0
  eventType := .signal

/- The error code that is read off a return value. -/
def errorCode
    (rax : UInt64) : Option Int32 :=
  if 0xffff_ffff_ffff_0000 < rax then
    some (-(rax.toInt64 ^^^ -1)).toInt32
  else
    none

/- What is recorded at an exit: the return value. -/
def exitInfo
    (pid : Int32)
    (name : String)
    (regs : UserRegs)
    (timestampNs : UInt64) : SyscallInfo where
  number := regs.origRax
  name := name
  args := Vector.replicate 6 0
  returnValue := regs.rax.toInt64
  errorCode := errorCode regs.rax
  timestampNs := timestampNs
  tid := pid.toUInt32
  pid := pid.toUInt32
  instructionPointer := regs.rip
  stackPointer := regs.rsp
  eventType := .exit

/- What is recorded at an entry: the arguments. -/
def entryInfo
    (pid : Int32)
    (name : String)
    (regs : UserRegs)
    (timestampNs : UInt64) : SyscallInfo where
  number := regs.origRax
  name := name
  args := regs.arguments
  returnValue := 0
  errorCode := none
  timestampNs := timestampNs
  tid := pid.toUInt32
  pid := pid.toUInt32
  instructionPointer := regs.rip
  stackPointer := regs.rsp
  eventType := .entry

------------------------------------------------------------
-- The Next Stop
------------------------------------------------------------

/- Buffer a record; the oldest makes room. -/
def bufferSyscall
    (syscall : SyscallInfo) :
    Exec SyscallTracer SyscallTracerError Unit := do
  let tracer ← Exec.read
  let syscalls ←
    if tracer.config.maxBuffered ≤ tracer.syscalls.length
    then Exec.orPanic tracer.syscalls.tail?
    else pure tracer.syscalls
  Exec.update fun tracer =>
    { tracer with syscalls := syscalls ++ [syscall] }

/- What is done at a stop by a signal. -/
def signalStop
    (pid : Int32)
    (sig : UInt32)
    (now : DateTime) :
    Exec SyscallTracer SyscallTracerError
      (Option SyscallInfo) := do
  let tracer ← Exec.read
  if tracer.config.traceSignals then
    let timestampNs ← Exec.orPanic (getTimestampNs now)
    let syscall := signalInfo pid sig timestampNs
    bufferSyscall syscall
    pure (some syscall)
  else
    pure none

/- What a stop at a system call is taken for. -/
def syscallInfo
    (tracer : SyscallTracer)
    (pid : Int32)
    (regs : UserRegs)
    (timestampNs : UInt64) : SyscallInfo :=
  let name := tracer.getSyscallName regs.origRax
  if tracer.expectingExit then
    exitInfo pid name regs timestampNs
  else
    entryInfo pid name regs timestampNs

/- Whether a record is to be buffered. -/
def traces
    (config : TracerConfig)
    (syscall : SyscallInfo) : Bool :=
  config.traceEntry && syscall.eventType = .entry ||
    config.traceExit && syscall.eventType = .exit

/- What is done at a stop at a system call. -/
def syscallStop
    (pid : Int32)
    (regs? : Option UserRegs)
    (now : DateTime) :
    Exec SyscallTracer SyscallTracerError
      (Option SyscallInfo) := do
  -- The flag is toggled before it is read.
  Exec.update fun tracer =>
    { tracer with expectingExit := !tracer.expectingExit }
  match regs? with
  | none => Exec.fail (.ptraceError "GETREGS")
  | some regs => do
      let timestampNs ← Exec.orPanic (getTimestampNs now)
      let tracer ← Exec.read
      let syscall := tracer.syscallInfo pid regs timestampNs
      if traces tracer.config syscall then
        bufferSyscall syscall
      pure (some syscall)

/- Get next syscall event. -/
def nextSyscall
    (reply : PtraceReply)
    (now : DateTime) :
    Exec SyscallTracer SyscallTracerError
      (Option SyscallInfo) := do
  let tracer ← Exec.read
  match tracer.pid with
  | none => Exec.fail .noProcess
  | some pid =>
      if !reply.resumed then
        Exec.fail (.ptraceError "SYSCALL")
      else if !reply.waited then
        Exec.fail .waitError
      else if wifExited reply.status ||
          wifSignaled reply.status then
        Exec.update fun tracer =>
          { tracer with running := false }
        pure none
      else if !wifStopped reply.status then
        pure none
      else if isSyscallStop reply.status then
        syscallStop pid reply.regs now
      else
        signalStop pid (wStopSig reply.status) now

------------------------------------------------------------
-- What a Call Does
------------------------------------------------------------

variable {pid : Int32} {now : DateTime}
variable {tracer : SyscallTracer}

/- Buffering changes the buffer, or it panics before. -/
theorem bufferSyscall_cases
    (syscall : SyscallInfo) :
    bufferSyscall syscall tracer = (.panicked, tracer) ∨
      ∃ syscalls,
        bufferSyscall syscall tracer =
          (.ok (), { tracer with syscalls := syscalls }) := by
  unfold bufferSyscall
  rw [Exec.read_bind_apply]
  split
  · cases hRest : tracer.syscalls.tail? with
    | none => exact Or.inl rfl
    | some syscalls =>
        exact Or.inr ⟨syscalls ++ [syscall], rfl⟩
  · exact Or.inr ⟨tracer.syscalls ++ [syscall], rfl⟩

/- A tracer that has buffered records. -/
def buffered
    (tracer : SyscallTracer)
    (records : List SyscallInfo) : SyscallTracer :=
  { tracer with
    syscalls :=
      Newest.pushAll tracer.config.maxBuffered
        tracer.syscalls records }

/- With room for records, buffering keeps the newest. -/
theorem bufferSyscall_eq
    (hRoom : 1 ≤ tracer.config.maxBuffered)
    (syscall : SyscallInfo) :
    bufferSyscall syscall tracer =
      (.ok (), tracer.buffered [syscall]) := by
  unfold bufferSyscall buffered Newest.pushAll
  rw [Exec.read_bind_apply, List.foldl_cons,
    List.foldl_nil, Newest.push]
  by_cases hFull :
      tracer.config.maxBuffered ≤ tracer.syscalls.length
  · rw [if_pos hFull, if_pos hFull]
    cases hStored : tracer.syscalls with
    | nil =>
        rw [hStored] at hFull
        exact absurd (hRoom.trans hFull) (by decide)
    | cons oldest rest => rfl
  · rw [if_neg hFull, if_neg hFull]
    rfl

/- What comes of a stop by a signal. -/
theorem signalStop_cases
    (sig : UInt32) :
    ∃ syscalls,
      (signalStop pid sig now tracer).2 =
          { tracer with syscalls := syscalls } ∧
        ((signalStop pid sig now tracer).1 = .panicked ∨
          (signalStop pid sig now tracer).1 = .ok none ∨
          ∃ timestampNs,
            (signalStop pid sig now tracer).1 =
              .ok (some
                (signalInfo pid sig timestampNs))) := by
  unfold signalStop
  rw [Exec.read_bind_apply]
  split
  · cases getTimestampNs now with
    | none =>
        exact ⟨tracer.syscalls, rfl, Or.inl rfl⟩
    | some timestampNs =>
        rw [Exec.orPanic_some, Exec.pure_bind_apply]
        rcases bufferSyscall_cases
            (signalInfo pid sig timestampNs)
          with hBuffer | ⟨syscalls, hBuffer⟩
        · rw [Exec.bind_of_panicked hBuffer]
          exact ⟨tracer.syscalls, rfl, Or.inl rfl⟩
        · rw [Exec.bind_of_ok hBuffer]
          exact
            ⟨syscalls, rfl,
              Or.inr (Or.inr ⟨timestampNs, rfl⟩)⟩
  · exact ⟨tracer.syscalls, rfl, Or.inr (Or.inl rfl)⟩

/- A tracer that has toggled its flag. -/
def toggled
    (tracer : SyscallTracer) : SyscallTracer :=
  { tracer with expectingExit := !tracer.expectingExit }

/- A stop at a system call begins with the toggled flag. -/
theorem syscallStop_some
    (regs : UserRegs) :
    syscallStop pid (some regs) now tracer =
      (do
        let timestampNs ← Exec.orPanic (getTimestampNs now)
        let tracer ← Exec.read
        let syscall :=
          tracer.syscallInfo pid regs timestampNs
        if traces tracer.config syscall then
          bufferSyscall syscall
        pure (some syscall) :
        Exec SyscallTracer SyscallTracerError
          (Option SyscallInfo)) tracer.toggled := rfl

/- What comes of a stop at a system call. -/
theorem syscallStop_cases
    (regs : UserRegs) :
    ∃ syscalls,
      (syscallStop pid (some regs) now tracer).2 =
          { tracer.toggled with syscalls := syscalls } ∧
        ((syscallStop pid (some regs) now tracer).1 =
            .panicked ∨
          ∃ timestampNs,
            (syscallStop pid (some regs) now tracer).1 =
              .ok (some
                (tracer.toggled.syscallInfo pid regs
                  timestampNs))) := by
  rw [syscallStop_some]
  cases getTimestampNs now with
  | none => exact ⟨tracer.syscalls, rfl, Or.inl rfl⟩
  | some timestampNs =>
      rw [Exec.orPanic_some, Exec.pure_bind_apply,
        Exec.read_bind_apply]
      split
      · rcases bufferSyscall_cases
            (tracer.toggled.syscallInfo pid regs
              timestampNs)
          with hBuffer | ⟨syscalls, hBuffer⟩
        · rw [Exec.bind_of_panicked hBuffer]
          exact ⟨tracer.syscalls, rfl, Or.inl rfl⟩
        · rw [Exec.bind_of_ok hBuffer]
          exact
            ⟨syscalls, rfl, Or.inr ⟨timestampNs, rfl⟩⟩
      · exact
          ⟨tracer.syscalls, rfl,
            Or.inr ⟨timestampNs, rfl⟩⟩

/-
  With room in the buffer, and a clock after the epoch, a
  stop at a system call is reported.
-/
theorem syscallStop_ok
    (regs : UserRegs)
    (hRoom : 0 < tracer.config.maxBuffered)
    (hClock : 0 ≤ now.nanos) :
    ∃ timestampNs,
      (syscallStop pid (some regs) now tracer).1 =
        .ok (some
          (tracer.toggled.syscallInfo pid regs
            timestampNs)) := by
  refine ⟨UInt64.ofNat now.nanos.toNat, ?_⟩
  rw [syscallStop_some, getTimestampNs, if_pos hClock,
    Exec.orPanic_some, Exec.pure_bind_apply,
    Exec.read_bind_apply]
  split
  · have hBuffer :=
      @bufferSyscall_eq tracer.toggled hRoom
        (tracer.toggled.syscallInfo pid regs
          (UInt64.ofNat now.nanos.toNat))
    rw [Exec.bind_of_ok hBuffer]
    rfl
  · rfl

/- What a call does once the wait reports a stop. -/
theorem nextSyscall_of_stopped
    {reply : PtraceReply}
    (hPid : tracer.pid = some pid)
    (hResumed : reply.resumed = true)
    (hWaited : reply.waited = true)
    (hStopped : wifStopped reply.status = true) :
    nextSyscall reply now tracer =
      if isSyscallStop reply.status then
        syscallStop pid reply.regs now tracer
      else
        signalStop pid (wStopSig reply.status) now
          tracer := by
  unfold nextSyscall
  rw [Exec.read_bind_apply, hPid]
  simp only [hResumed, hWaited,
    not_exited_of_stopped hStopped,
    not_signaled_of_stopped hStopped, hStopped,
    Bool.not_true, Bool.or_false, Bool.false_eq_true,
    if_false]
  by_cases hKind : isSyscallStop reply.status = true
  · rw [if_pos hKind, if_pos hKind]
  · rw [if_neg hKind, if_neg hKind]

/- What a call does when the process stops. -/
theorem nextSyscall_at_stop
    (hPid : tracer.pid = some pid)
    (stop : PtraceStop) :
    nextSyscall stop.reply now tracer =
      if stop.atSyscall then
        syscallStop pid (some stop.regs) now tracer
      else
        signalStop pid (wStopSig stop.status) now
          tracer := by
  exact nextSyscall_of_stopped hPid rfl rfl stop.stopped

end SyscallTracer

end IsaWorkspace
