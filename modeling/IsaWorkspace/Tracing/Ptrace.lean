import IsaWorkspace.Externals

/-
  What a tracer sees of the process it traces.

  The status word of a wait says whether the process has
  stopped, and by which signal; system calls are marked by a
  bit that no signal has.  What the kernel answers to the
  requests of a tracer is data here.

  Main declarations:
    * `wifStopped`, `wStopSig`, `isSyscallStop`
    * `UserRegs`, `PtraceReply`
    * `PtraceStop`, `PtraceStop.reply`
-/

------------------------------------------------------------
-- Wait Statuses
------------------------------------------------------------

namespace IsaWorkspace

/- Whether the process has stopped. -/
def wifStopped
    (status : UInt32) : Bool :=
  status &&& 0xff = 0x7f

/- The signal that has stopped the process. -/
def wStopSig
    (status : UInt32) : UInt32 :=
  (status >>> 8) &&& 0xff

/- Whether the process has exited. -/
def wifExited
    (status : UInt32) : Bool :=
  status &&& 0x7f = 0

/- Whether a signal has terminated the process. -/
def wifSignaled
    (status : UInt32) : Bool :=
  2 ≤ ((status &&& 0x7f) + 1).toUInt8.toInt8

/- Whether a stop is one at a system call. -/
def isSyscallStop
    (status : UInt32) : Bool :=
  wStopSig status &&& 0x80 ≠ 0

/- The low bits of the status of a process that stopped. -/
private theorem low_bits_of_stopped
    {status : UInt32}
    (hStopped : wifStopped status = true) :
    status &&& 0x7f = 0x7f := by
  have hLow : status &&& 0xff = 0x7f :=
    of_decide_eq_true hStopped
  calc
    status &&& 0x7f = status &&& (0xff &&& 0x7f) := rfl
    _ = (status &&& 0xff) &&& 0x7f :=
      (UInt32.and_assoc status 0xff 0x7f).symm
    _ = 0x7f := by rw [hLow]; rfl

/- A process that has stopped has not ended. -/
theorem not_exited_of_stopped
    {status : UInt32}
    (hStopped : wifStopped status = true) :
    wifExited status = false := by
  rw [wifExited, low_bits_of_stopped hStopped]
  decide

theorem not_signaled_of_stopped
    {status : UInt32}
    (hStopped : wifStopped status = true) :
    wifSignaled status = false := by
  rw [wifSignaled, low_bits_of_stopped hStopped]
  decide

end IsaWorkspace

------------------------------------------------------------
-- Replies
------------------------------------------------------------

namespace IsaWorkspace

/- The registers of the process that the tracers read. -/
structure UserRegs where
  origRax : UInt64
  rax : UInt64
  rdi : UInt64
  rsi : UInt64
  rdx : UInt64
  r10 : UInt64
  r8 : UInt64
  r9 : UInt64
  rip : UInt64
  rsp : UInt64
deriving DecidableEq

/- The registers in which a system call has its arguments. -/
def UserRegs.arguments
    (regs : UserRegs) : Vector UInt64 6 :=
  #v[regs.rdi, regs.rsi, regs.rdx, regs.r10, regs.r8,
    regs.r9]

/-
  What the kernel answers around one wait: whether the
  process was resumed, whether the wait returned, with what
  status, and the registers, if they can be read.
-/
structure PtraceReply where
  resumed : Bool
  waited : Bool
  status : UInt32
  regs : Option UserRegs
deriving DecidableEq

/- A stop of the process, and when it is looked at. -/
structure PtraceStop where
  status : UInt32
  stopped : wifStopped status = true
  regs : UserRegs
  now : DateTime
deriving DecidableEq

namespace PtraceStop

/- What the kernel answers when the process stops. -/
def reply
    (stop : PtraceStop) : PtraceReply where
  resumed := true
  waited := true
  status := stop.status
  regs := some stop.regs

/- Whether the process has stopped at a system call. -/
def atSyscall
    (stop : PtraceStop) : Bool :=
  isSyscallStop stop.status

end PtraceStop

end IsaWorkspace
