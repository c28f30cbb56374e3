import Mathlib.Data.Vector.Basic

/-
  Segment registers of a virtual CPU.

  KVM hands over the special registers of a virtual CPU in
  records of its own.  They are captured in records that can
  be serialized, and written back from these.

  Main declarations:
    * `KvmSegment`, `KvmDtable`, `KvmSregs`
    * `SegmentDescriptor.fromKvm`, `SegmentDescriptor.toKvm`
    * `SegmentRegisters.fromKvm`, `SegmentRegisters.toKvm`
-/

------------------------------------------------------------
-- Records of KVM
------------------------------------------------------------

namespace IsaWorkspace

/- A segment. -/
structure KvmSegment where
  base : UInt64
  limit : UInt32
  selector : UInt16
  type_ : UInt8
  present : UInt8
  dpl : UInt8
  db : UInt8
  s : UInt8
  l : UInt8
  g : UInt8
  avl : UInt8
  unusable : UInt8
  padding : UInt8
deriving DecidableEq

/- A descriptor table. -/
structure KvmDtable where
  base : UInt64
  limit : UInt16
  padding : Vector UInt16 3
deriving DecidableEq

/- The special registers, with the pending interrupts. -/
structure KvmSregs where
  cs : KvmSegment
  ds : KvmSegment
  es : KvmSegment
  fs : KvmSegment
  gs : KvmSegment
  ss : KvmSegment
  tr : KvmSegment
  ldt : KvmSegment
  gdt : KvmDtable
  idt : KvmDtable
  cr0 : UInt64
  cr2 : UInt64
  cr3 : UInt64
  cr4 : UInt64
  cr8 : UInt64
  efer : UInt64
  apicBase : UInt64
  interruptBitmap : Vector UInt64 4
deriving DecidableEq

/- The records as they are after their memory is zeroed. -/
def KvmSegment.zeroed : KvmSegment where
  base := 0
  limit := 0
  selector := 0
  type_ := 0
  present := 0
  dpl := 0
  db := 0
  s := 0
  l := 0
  g := 0
  avl := 0
  unusable := 0
  padding := 0

def KvmDtable.zeroed : KvmDtable where
  base := 0
  limit := 0
  padding := Vector.replicate 3 0

def KvmSregs.zeroed : KvmSregs where
  cs := KvmSegment.zeroed
  ds := KvmSegment.zeroed
  es := KvmSegment.zeroed
  fs := KvmSegment.zeroed
  gs := KvmSegment.zeroed
  ss := KvmSegment.zeroed
  tr := KvmSegment.zeroed
  ldt := KvmSegment.zeroed
  gdt := KvmDtable.zeroed
  idt := KvmDtable.zeroed
  cr0 := 0
  cr2 := 0
  cr3 := 0
  cr4 := 0
  cr8 := 0
  efer := 0
  apicBase := 0
  interruptBitmap := Vector.replicate 4 0

------------------------------------------------------------
-- Captured Records
------------------------------------------------------------

/- A captured segment. -/
structure SegmentDescriptor where
  base : UInt64
  limit : UInt16
  selector : UInt16
  type_ : UInt8
  present : UInt8
  dpl : UInt8
  db : UInt8
  s : UInt8
  l : UInt8
  g : UInt8
  avl : UInt8
  unusable : UInt8
deriving DecidableEq

/- A captured descriptor table. -/
structure DescriptorTable where
  base : UInt64
  limit : UInt16
deriving DecidableEq

/- Segment registers. -/
structure SegmentRegisters where
  cs : SegmentDescriptor
  ds : SegmentDescriptor
  es : SegmentDescriptor
  fs : SegmentDescriptor
  gs : SegmentDescriptor
  ss : SegmentDescriptor
  tr : SegmentDescriptor
  ldt : SegmentDescriptor
  gdt : DescriptorTable
  idt : DescriptorTable
  cr0 : UInt64
  cr2 : UInt64
  cr3 : UInt64
  cr4 : UInt64
  cr8 : UInt64
  efer : UInt64
  apicBase : UInt64
deriving DecidableEq

------------------------------------------------------------
-- Conversions
------------------------------------------------------------

namespace SegmentDescriptor

/- Capture a segment.  The limit is narrowed. -/
def fromKvm
    (seg : KvmSegment) : SegmentDescriptor where
  base := seg.base
  limit := seg.limit.toUInt16
  selector := seg.selector
  type_ := seg.type_
  present := seg.present
  dpl := seg.dpl
  db := seg.db
  s := seg.s
  l := seg.l
  g := seg.g
  avl := seg.avl
  unusable := if seg.unusable ≠ 0 then 1 else 0

/- Write a segment back. -/
def toKvm
    (seg : SegmentDescriptor) : KvmSegment where
  base := seg.base
  limit := seg.limit.toUInt32
  selector := seg.selector
  type_ := seg.type_
  present := seg.present
  dpl := seg.dpl
  db := seg.db
  s := seg.s
  l := seg.l
  g := seg.g
  avl := seg.avl
  unusable := (decide (seg.unusable ≠ 0)).toUInt8
  padding := 0

end SegmentDescriptor

namespace SegmentRegisters

/- Capture the segment registers. -/
def fromKvm
    (sregs : KvmSregs) : SegmentRegisters where
  cs := SegmentDescriptor.fromKvm sregs.cs
  ds := SegmentDescriptor.fromKvm sregs.ds
  es := SegmentDescriptor.fromKvm sregs.es
  fs := SegmentDescriptor.fromKvm sregs.fs
  gs := SegmentDescriptor.fromKvm sregs.gs
  ss := SegmentDescriptor.fromKvm sregs.ss
  tr := SegmentDescriptor.fromKvm sregs.tr
  ldt := SegmentDescriptor.fromKvm sregs.ldt
  gdt :=
    { base := sregs.gdt.base
      limit := sregs.gdt.limit }
  idt :=
    { base := sregs.idt.base
      limit := sregs.idt.limit }
  cr0 := sregs.cr0
  cr2 := sregs.cr2
  cr3 := sregs.cr3
  cr4 := sregs.cr4
  cr8 := sregs.cr8
  efer := sregs.efer
  apicBase := sregs.apicBase

/- Write the segment registers back into zeroed memory. -/
def toKvm
    (regs : SegmentRegisters) : KvmSregs :=
  { KvmSregs.zeroed with
    cs := regs.cs.toKvm
    ds := regs.ds.toKvm
    es := regs.es.toKvm
    fs := regs.fs.toKvm
    gs := regs.gs.toKvm
    ss := regs.ss.toKvm
    tr := regs.tr.toKvm
    ldt := regs.ldt.toKvm
    gdt :=
      { KvmDtable.zeroed with
        base := regs.gdt.base
        limit := regs.gdt.limit }
    idt :=
      { KvmDtable.zeroed with
        base := regs.idt.base
        limit := regs.idt.limit }
    cr0 := regs.cr0
    cr2 := regs.cr2
    cr3 := regs.cr3
    cr4 := regs.cr4
    cr8 := regs.cr8
    efer := regs.efer
    apicBase := regs.apicBase }

end SegmentRegisters

end IsaWorkspace
