import IsaWorkspace.Kvm.SegmentRegisters
import Mathlib.Tactic.MkIffOfInductiveProp

/-
  Segment registers that are captured and written back.

  What a captured record can hold comes back as it was: a
  limit of sixteen bits, a flag that is zero or one, and
  padding and pending interrupts that are zero.  All other
  registers are changed by the round trip, once: what has
  been captured survives any further one.

  Main declarations:
    * `KvmSegment.Fits`, `KvmDtable.Fits`, `KvmSregs.Fits`
    * `SegmentDescriptor.toKvm_fromKvm_eq_iff`
    * `SegmentRegisters.toKvm_fromKvm_iff`
    * `SegmentRegisters.fromKvm_toKvm_iff`
    * `SegmentRegisters.captured_again`
    * `SegmentRegisters.fits_toKvm`
-/

------------------------------------------------------------
-- What Fits
------------------------------------------------------------

namespace IsaWorkspace

/- A segment that fits into a captured one. -/
structure KvmSegment.Fits
    (seg : KvmSegment) : Prop where
  limit : seg.limit.toNat < 2 ^ 16
  unusable : seg.unusable.toNat ≤ 1
  padding : seg.padding = 0

/- A descriptor table that fits into a captured one. -/
def KvmDtable.Fits
    (table : KvmDtable) : Prop :=
  table.padding = Vector.replicate 3 0

namespace KvmSregs

/- The segments among the special registers. -/
def segments
    (sregs : KvmSregs) : List KvmSegment :=
  [sregs.cs, sregs.ds, sregs.es, sregs.fs, sregs.gs,
    sregs.ss, sregs.tr, sregs.ldt]

/- The descriptor tables among the special registers. -/
def tables
    (sregs : KvmSregs) : List KvmDtable :=
  [sregs.gdt, sregs.idt]

/- Special registers that fit into captured ones. -/
@[mk_iff]
structure Fits
    (sregs : KvmSregs) : Prop where
  segments : ∀ seg ∈ sregs.segments, seg.Fits
  tables : ∀ table ∈ sregs.tables, table.Fits
  interrupts :
    sregs.interruptBitmap = Vector.replicate 4 0

end KvmSregs

------------------------------------------------------------
-- Narrowed Fields
------------------------------------------------------------

/- A word survives narrowing when it has sixteen bits. -/
private theorem toUInt32_toUInt16_iff
    (word : UInt32) :
    word.toUInt16.toUInt32 = word ↔
      word.toNat < 2 ^ 16 := by
  rw [← UInt32.toNat_inj, UInt16.toNat_toUInt32,
    UInt32.toNat_toUInt16]
  exact Nat.mod_eq_iff_lt (by decide)

/- A byte survives as a flag when it is zero or one. -/
private theorem flag_eq_iff
    (byte : UInt8) :
    (decide (byte ≠ 0)).toUInt8 = byte ↔
      byte.toNat ≤ 1 := by
  by_cases hZero : byte = 0
  · subst hZero
    decide
  · rw [decide_eq_true hZero, ← UInt8.toNat_inj]
    have hPositive : byte.toNat ≠ 0 := by
      intro hNat
      exact hZero (UInt8.toNat_inj.mp hNat)
    have hOne : true.toUInt8.toNat = 1 := rfl
    omega

/- Capturing a flag keeps whether it is set. -/
private theorem captured_ne_zero
    (byte : UInt8) :
    (if byte ≠ 0 then (1 : UInt8) else 0) ≠ 0 ↔
      byte ≠ 0 := by
  by_cases hZero : byte = 0
  · simp [hZero]
  · simp [hZero]

namespace SegmentDescriptor

/- A segment comes back exactly when it fits. -/
theorem toKvm_fromKvm_eq_iff
    (seg : KvmSegment) :
    (fromKvm seg).toKvm = seg ↔ seg.Fits := by
  rcases seg with
    ⟨base, limit, selector, type_, present, dpl, db, s, l,
      g, avl, unusable, padding⟩
  simp only [fromKvm, toKvm, KvmSegment.mk.injEq,
    toUInt32_toUInt16_iff, captured_ne_zero, flag_eq_iff,
    true_and]
  constructor
  · rintro ⟨hLimit, hUnusable, hPadding⟩
    exact ⟨hLimit, hUnusable, hPadding.symm⟩
  · rintro ⟨hLimit, hUnusable, hPadding⟩
    exact ⟨hLimit, hUnusable, hPadding.symm⟩

/- A captured segment comes back when it has a flag. -/
theorem fromKvm_toKvm_iff
    (seg : SegmentDescriptor) :
    fromKvm seg.toKvm = seg ↔ seg.unusable.toNat ≤ 1 := by
  rw [← flag_eq_iff]
  rcases seg with
    ⟨base, limit, selector, type_, present, dpl, db, s, l,
      g, avl, unusable⟩
  by_cases hZero : unusable = 0
  · simp [fromKvm, toKvm, hZero, Bool.toUInt8]
  · simp [fromKvm, toKvm, hZero, Bool.toUInt8]

/- Every segment is captured with a flag. -/
theorem unusable_fromKvm
    (seg : KvmSegment) :
    (fromKvm seg).unusable.toNat ≤ 1 := by
  by_cases hZero : seg.unusable = 0
  · simp [fromKvm, hZero]
  · simp [fromKvm, hZero]

/- Every segment that is written back fits. -/
theorem fits_toKvm
    (seg : SegmentDescriptor) :
    seg.toKvm.Fits where
  limit := by
    change seg.limit.toUInt32.toNat < 2 ^ 16
    rw [UInt16.toNat_toUInt32]
    exact seg.limit.toNat_lt
  unusable := by
    change (decide (seg.unusable ≠ 0)).toUInt8.toNat ≤ 1
    cases decide (seg.unusable ≠ 0) with
    | false => decide
    | true => decide
  padding := rfl

end SegmentDescriptor

/- A descriptor table comes back exactly when it fits. -/
private theorem dtable_eq_iff
    (table : KvmDtable) :
    { base := table.base
      limit := table.limit
      padding := KvmDtable.zeroed.padding } = table ↔
      table.Fits := by
  rcases table with ⟨base, limit, padding⟩
  simp only [KvmDtable.zeroed, KvmDtable.Fits,
    KvmDtable.mk.injEq, true_and]
  exact eq_comm

------------------------------------------------------------
-- Round Trips
------------------------------------------------------------

namespace SegmentRegisters

/-
  The special registers come back as they were captured
  exactly when they fit into a captured record.
-/
theorem toKvm_fromKvm_iff
    (sregs : KvmSregs) :
    (fromKvm sregs).toKvm = sregs ↔ sregs.Fits := by
  rcases sregs with
    ⟨cs, ds, es, fs, gs, ss, tr, ldt, gdt, idt, cr0, cr2,
      cr3, cr4, cr8, efer, apicBase, interruptBitmap⟩
  simp only [fromKvm, toKvm, KvmSregs.zeroed,
    KvmSregs.mk.injEq, dtable_eq_iff,
    SegmentDescriptor.toKvm_fromKvm_eq_iff, true_and]
  rw [KvmSregs.fits_iff, @eq_comm _ _ interruptBitmap]
  simp [KvmSregs.segments, KvmSregs.tables, and_assoc]

/- The segments of the segment registers. -/
def segments
    (regs : SegmentRegisters) : List SegmentDescriptor :=
  [regs.cs, regs.ds, regs.es, regs.fs, regs.gs, regs.ss,
    regs.tr, regs.ldt]

/-
  Segment registers that are written to a virtual CPU are
  captured from it again when their flags are.
-/
theorem fromKvm_toKvm_iff
    (regs : SegmentRegisters) :
    fromKvm regs.toKvm = regs ↔
      ∀ seg ∈ regs.segments, seg.unusable.toNat ≤ 1 := by
  rcases regs with
    ⟨cs, ds, es, fs, gs, ss, tr, ldt, gdt, idt, cr0, cr2,
      cr3, cr4, cr8, efer, apicBase⟩
  simp [fromKvm, toKvm, segments,
    SegmentDescriptor.fromKvm_toKvm_iff]

/-
  What has been captured is captured again, however often it
  is written back.
-/
theorem captured_again
    (sregs : KvmSregs) :
    fromKvm (fromKvm sregs).toKvm = fromKvm sregs := by
  rw [fromKvm_toKvm_iff]
  simp [segments, fromKvm,
    SegmentDescriptor.unusable_fromKvm]

/- What is written back fits into a captured record. -/
theorem fits_toKvm
    (regs : SegmentRegisters) :
    regs.toKvm.Fits where
  segments := by
    simp [KvmSregs.segments, toKvm,
      SegmentDescriptor.fits_toKvm]
  tables := by
    simp [KvmSregs.tables, toKvm, KvmDtable.Fits,
      KvmDtable.zeroed]
  interrupts := rfl

end SegmentRegisters

end IsaWorkspace

------------------------------------------------------------
-- A Flat Code Segment
------------------------------------------------------------

namespace IsaWorkspace

namespace KvmSample

/- The registers of a CPU with a flat code segment. -/
def flat : KvmSregs :=
  { KvmSregs.zeroed with
    cs :=
      { KvmSegment.zeroed with
        limit := 0xffffffff
        selector := 0x10
        type_ := 11
        present := 1
        s := 1
        l := 1
        g := 1 }
    cr0 := 0x80050033
    efer := 0xd01 }

end KvmSample

open KvmSample

/- A flat code segment comes back with a small limit. -/
theorem SegmentRegisters.toKvm_fromKvm_flat :
    ¬(SegmentRegisters.fromKvm flat).toKvm = flat := by
  intro hSame
  have hLimit : (0xffff : UInt32) = 0xffffffff :=
    congrArg (fun sregs => sregs.cs.limit) hSame
  exact absurd hLimit (by decide)

end IsaWorkspace
