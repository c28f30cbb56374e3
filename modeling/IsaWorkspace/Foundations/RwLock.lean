import Mathlib.Data.Nat.Basic

/-
  A readers-writer lock.

  Any number of read guards can be held at a time, or one
  write guard alone.  A task whose guard is not to be had
  waits: `tryRead` and `tryWrite` are `none`.

  Main declarations:
    * `RwLock`, `RwLock.readers`
    * `RwLock.tryRead`, `RwLock.tryWrite`
    * `RwLock.tryWrite_eq_none_of_readers`
-/

------------------------------------------------------------
-- Locks
------------------------------------------------------------

namespace IsaWorkspace

/- What is held of a lock: read guards, or the write guard. -/
inductive RwLock where
  | read (guards : Nat)
  | write
deriving DecidableEq

namespace RwLock

/- No guard is held. -/
def free : RwLock := .read 0

def readers : RwLock → Nat
| .read guards => guards
| .write => 0

/- One read guard more, unless there is a writer. -/
def tryRead : RwLock → Option RwLock
| .read guards => some (.read (guards + 1))
| .write => none

/- The write guard, unless any guard is held. -/
def tryWrite : RwLock → Option RwLock
| .read 0 => some .write
| .read (_ + 1) => none
| .write => none

def dropRead : RwLock → RwLock
| .read guards => .read (guards - 1)
| .write => .write

def dropWrite : RwLock → RwLock
| .read guards => .read guards
| .write => free

/- No writer comes in while there is a reader. -/
theorem tryWrite_eq_none_of_readers
    {lock : RwLock}
    (hReaders : 0 < lock.readers) :
    lock.tryWrite = none := by
  cases lock with
  | read guards =>
      cases guards with
      | zero => exact absurd hReaders (Nat.lt_irrefl 0)
      | succ guards => rfl
  | write => rfl

end RwLock

end IsaWorkspace
