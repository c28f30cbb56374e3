import IsaWorkspace.Memory.Equations
import IsaWorkspace.Qssp.Transfer

/-
  The offsets under which the pages of a snapshot are sent.

  A snapshot returns the dirty pages of a region in order and
  leaves out all others.  The sender numbers the pages it is
  given one after another, so a page behind a gap is sent
  under the offset of an earlier one.

  Main declarations:
    * `QSSPSender.pageMessages`, `QSSPSender.sendPagesFrom_eq`
    * `QSSPSender.Addressed`, `QSSPSender.Consecutive`
    * `QSSPSender.pagesAddressed_iff`
-/

------------------------------------------------------------
-- The Messages of a Call
------------------------------------------------------------

namespace IsaWorkspace

namespace QSSPSender

section Addresses

variable [BuildProfile]

/- The messages that the loop makes, up to an overflow. -/
def pageMessages
    (regionId : String)
    (baseOffset : UInt64) :
    Nat → List MemoryPage → List MemoryPageMessage
| _, [] => []
| index, page :: rest =>
    match checkedAdd baseOffset (UInt64.ofNat index) with
    | some pageOffset =>
        MemoryPageMessage.fromPage page regionId pageOffset ::
          pageMessages regionId baseOffset (index + 1) rest
    | none => []

section Sending

variable {C : Type} [UniStreams C]
variable [SerdeJson MemoryPageMessage]

/- Write one message and count its page. -/
def sendPageMessage
    (stream : Nat)
    (isHot : Bool)
    (message : MemoryPageMessage) :
    Exec (QSSPSender C) QSSPError Unit := do
  let payload ←
    Exec.ofExcept
      (fun error => .serializationError ("Page: " ++ error))
      (SerdeJson.toVec message)
  onConnection .ioError
    (UniStreams.writeAll stream
      (Message.new .memoryPage payload).serialize)
  onStats do
    TransferStats.countBytes message.data.length
    TransferStats.countPage
    if isHot then
      TransferStats.countHotPage
    else
      TransferStats.countWarmPage

def sendPageMessages
    (stream : Nat)
    (isHot : Bool) :
    List MemoryPageMessage →
      Exec (QSSPSender C) QSSPError Unit
| [] => pure ()
| message :: rest => do
    sendPageMessage stream isHot message
    sendPageMessages stream isHot rest

/-
  The loop writes these messages, and panics after them where
  there are fewer of them than pages.
-/
theorem sendPagesFrom_eq
    (stream : Nat)
    (regionId : String)
    (baseOffset : UInt64)
    (isHot : Bool)
    (index : Nat)
    (pages : List MemoryPage) :
    (sendPagesFrom stream regionId baseOffset isHot index
        pages :
      Exec (QSSPSender C) QSSPError Unit) =
      (do
        sendPageMessages stream isHot
          (pageMessages regionId baseOffset index pages)
        if (pageMessages regionId baseOffset index
              pages).length =
            pages.length then
          pure ()
        else
          Exec.panic) := by
  induction pages generalizing index with
  | nil => rfl
  | cons page rest ih =>
      unfold sendPagesFrom pageMessages
      cases checkedAdd baseOffset (UInt64.ofNat index) with
      | none => rfl
      | some pageOffset =>
          funext sender
          rw [Exec.orPanic_some, Exec.pure_bind_apply, ih]
          simp only [sendPageMessages, Exec.bind_assoc,
            List.length_cons, Nat.succ_inj]
          rfl

end Sending

------------------------------------------------------------
-- Messages by Position
------------------------------------------------------------

/- The message at a position is made, and not a panic. -/
def IsMade
    (baseOffset : UInt64)
    (index : Nat) : Prop :=
  BuildProfile.overflowChecks = false ∨
    baseOffset.toNat + index < 2 ^ 64

instance
    (baseOffset : UInt64)
    (index : Nat) :
    Decidable (IsMade baseOffset index) :=
  inferInstanceAs (Decidable (_ ∨ _))

/- An offset within a machine word is added as it is. -/
theorem checkedAdd_ofNat
    (baseOffset : UInt64)
    {index : Nat}
    (hIndex : index < 2 ^ 64) :
    checkedAdd baseOffset (UInt64.ofNat index) =
      if IsMade baseOffset index then
        some (baseOffset + UInt64.ofNat index)
      else
        none := by
  have hToNat : (UInt64.ofNat index).toNat = index :=
    UInt64.toNat_ofNat_of_lt' hIndex
  unfold checkedAdd
  rw [hToNat]
  by_cases hRange : baseOffset.toNat + index < 2 ^ 64
  · have hMade : IsMade baseOffset index := Or.inr hRange
    rw [if_pos hRange, if_pos hMade]
  · rw [if_neg hRange]
    by_cases hChecks : BuildProfile.overflowChecks = true
    · have hNot : ¬ IsMade baseOffset index := by
        rintro (hUnchecked | hInRange)
        · rw [hChecks] at hUnchecked
          cases hUnchecked
        · exact hRange hInRange
      rw [if_pos hChecks, if_neg hNot]
    · have hMade : IsMade baseOffset index :=
        Or.inl (Bool.not_eq_true _ ▸ hChecks)
      rw [if_neg hChecks, if_pos hMade]

/- The message at a position carries the page there. -/
theorem pageMessages_getElem?
    (regionId : String)
    (baseOffset : UInt64)
    {index : Nat}
    {pages : List MemoryPage}
    (hRange : index + pages.length < 2 ^ 64)
    {position : Nat}
    {page : MemoryPage}
    (hPage : pages[position]? = some page) :
    (pageMessages regionId baseOffset index pages)[
        position]? =
      if IsMade baseOffset (index + position) then
        some
          (MemoryPageMessage.fromPage page regionId
            (baseOffset + UInt64.ofNat (index + position)))
      else
        none := by
  induction pages generalizing index position with
  | nil => cases hPage
  | cons first rest ih =>
      rw [List.length_cons] at hRange
      unfold pageMessages
      rw [checkedAdd_ofNat baseOffset (by omega)]
      cases position with
      | zero =>
          rw [List.getElem?_cons_zero] at hPage
          cases hPage
          by_cases hMade : IsMade baseOffset index
          · rw [if_pos hMade]
            exact (if_pos hMade).symm
          · rw [if_neg hMade]
            exact (if_neg hMade).symm
      | succ position =>
          rw [List.getElem?_cons_succ] at hPage
          have hRest :=
            @ih (index + 1) (by omega) position hPage
          have hIndex :
              index + 1 + position =
                index + (position + 1) := by
            omega
          rw [hIndex] at hRest
          by_cases hMade : IsMade baseOffset index
          · rw [if_pos hMade]
            dsimp only
            rw [List.getElem?_cons_succ]
            exact hRest
          · have hNext :
                ¬ IsMade baseOffset
                  (index + (position + 1)) := by
              unfold IsMade at hMade ⊢
              rintro (hChecks | hLater)
              · exact hMade (Or.inl hChecks)
              · exact hMade (Or.inr (by omega))
            rw [if_neg hMade, if_neg hNext]
            rfl

omit [BuildProfile] in
/- An entry of an increasing list is as far up as it is in. -/
theorem headD_add_le
    {numbers : List Nat}
    (hIncreasing : numbers.Pairwise (· < ·))
    {position number : Nat}
    (hNumber : numbers[position]? = some number) :
    numbers.headD 0 + position ≤ number := by
  induction position generalizing number with
  | zero =>
      rw [← List.head?_eq_getElem?] at hNumber
      rw [List.headD_eq_head?_getD, hNumber]
      exact Nat.le_refl _
  | succ position ih =>
      rcases List.getElem?_eq_some_iff.mp hNumber with
        ⟨hLength, rfl⟩
      have hBefore : position < numbers.length := by
        omega
      have hLess :=
        List.pairwise_iff_getElem.mp hIncreasing position
          (position + 1) hBefore hLength
          (Nat.lt_succ_self position)
      have hFirst := ih (List.getElem?_eq_getElem hBefore)
      omega

------------------------------------------------------------
-- Addresses
------------------------------------------------------------

/- The image has the bytes of every page of the region. -/
def Covers
    (tracker : DirtyPageTracker)
    (memoryData : Bytes) : Prop :=
  tracker.dirtyBitmap.length * pageSize ≤ memoryData.length

omit [BuildProfile] in
/- No dirty page lies beyond such an image. -/
theorem filter_pageFits_of_covers
    {tracker : DirtyPageTracker}
    {memoryData : Bytes}
    (hCovers : Covers tracker memoryData) :
    tracker.getDirtyPages.filter (PageFits memoryData) =
      tracker.getDirtyPages := by
  apply List.filter_eq_self.mpr
  intro pageOffset hDirty
  apply decide_eq_true
  have hInside :
      pageOffset < tracker.dirtyBitmap.length :=
    (List.getElem?_eq_some_iff.mp
      (DirtyPageTracker.mem_getDirtyPages.mp hDirty)).1
  unfold PageFits
  unfold Covers at hCovers
  rw [← Nat.succ_mul]
  exact
    Nat.le_trans (Nat.mul_le_mul_right pageSize hInside)
      hCovers

omit [BuildProfile] in
theorem length_getDirtyPages_le
    (tracker : DirtyPageTracker) :
    tracker.getDirtyPages.length ≤
      tracker.dirtyBitmap.length := by
  unfold DirtyPageTracker.getDirtyPages
  rw [List.length_map]
  refine Nat.le_trans (List.length_filter_le _ _) ?_
  rw [List.length_zipIdx]

/-
  Every message carries the base offset and the distance of
  its page from the first dirty page.
-/
def Addressed
    (dirtyPages : List Nat)
    (baseOffset : UInt64)
    (messages : List MemoryPageMessage) : Prop :=
  ∀ (position pageOffset : Nat)
      (message : MemoryPageMessage),
    dirtyPages[position]? = some pageOffset →
      messages[position]? = some message →
        message.pageOffset.toNat =
          baseOffset.toNat +
            (pageOffset - dirtyPages.headD 0)

/-
  As far as messages are made, the dirty pages follow each
  other without a gap, and their offsets fit a word.
-/
def Consecutive
    (dirtyPages : List Nat)
    (baseOffset : UInt64) : Prop :=
  ∀ position pageOffset : Nat,
    dirtyPages[position]? = some pageOffset →
      IsMade baseOffset position →
        pageOffset = dirtyPages.headD 0 + position ∧
          baseOffset.toNat + position < 2 ^ 64

/- Messages of increasing pages are addressed if no gap is. -/
theorem addressed_iff
    {dirtyPages : List Nat}
    (hIncreasing : dirtyPages.Pairwise (· < ·))
    {pages : List MemoryPage}
    (hLength : dirtyPages.length = pages.length)
    (hRange : pages.length < 2 ^ 64)
    (regionId : String)
    (baseOffset : UInt64) :
    Addressed dirtyPages baseOffset
        (pageMessages regionId baseOffset 0 pages) ↔
      Consecutive dirtyPages baseOffset := by
  have hMessage :
      ∀ position page, pages[position]? = some page →
        (pageMessages regionId baseOffset 0 pages)[
            position]? =
          if IsMade baseOffset position then
            some
              (MemoryPageMessage.fromPage page regionId
                (baseOffset + UInt64.ofNat position))
          else
            none := by
    intro position page hPage
    have hFound :=
      pageMessages_getElem? regionId baseOffset
        (by omega : 0 + pages.length < 2 ^ 64) hPage
    rw [Nat.zero_add] at hFound
    exact hFound
  have hOffset :
      ∀ position, position < pages.length →
        (baseOffset + UInt64.ofNat position).toNat =
          (baseOffset.toNat + position) % 2 ^ 64 := by
    intro position hInside
    have hWord : position < 2 ^ 64 := by
      omega
    rw [UInt64.toNat_add, UInt64.toNat_ofNat_of_lt' hWord]
  constructor
  · intro hAddressed position pageOffset hDirty hMade
    have hInside : position < pages.length := by
      rw [← hLength]
      exact (List.getElem?_eq_some_iff.mp hDirty).1
    have hCarried :=
      hMessage position _ (List.getElem?_eq_getElem hInside)
    rw [if_pos hMade] at hCarried
    have hValue :=
      hAddressed position pageOffset _ hDirty hCarried
    change (baseOffset + UInt64.ofNat position).toNat = _
      at hValue
    rw [hOffset position hInside] at hValue
    have hFar := headD_add_le hIncreasing hDirty
    omega
  · intro hConsecutive position pageOffset message hDirty
      hCarried
    have hInside : position < pages.length := by
      rw [← hLength]
      exact (List.getElem?_eq_some_iff.mp hDirty).1
    rw [hMessage position _
      (List.getElem?_eq_getElem hInside)] at hCarried
    by_cases hMade : IsMade baseOffset position
    · rw [if_pos hMade] at hCarried
      cases hCarried
      rcases hConsecutive position pageOffset hDirty
          hMade with
        ⟨hOffsetEq, hFits⟩
      change (baseOffset + UInt64.ofNat position).toNat = _
      rw [hOffset position hInside, Nat.mod_eq_of_lt hFits,
        hOffsetEq]
      omega
    · rw [if_neg hMade] at hCarried
      cases hCarried

section Snapshots

open MemorySnapshotManager

variable [Sha256] [Compressors]

/-
  The pages of a snapshot are those of the dirty pages in
  order, and their messages carry the addresses of these
  exactly if there is no gap between them.
-/
theorem pagesAddressed_iff
    {manager : MemorySnapshotManager}
    {regionId : String}
    {tracker : DirtyPageTracker}
    {memoryData : Bytes}
    {pages : List MemoryPage}
    (hRegion :
      manager.regions.lookup regionId = some tracker)
    (hCovers : Covers tracker memoryData)
    (hImage : memoryData.length < 2 ^ 64)
    (hSnapshot :
      (snapshotDirty regionId memoryData manager).1 =
        .ok pages)
    (messageRegion : String)
    (baseOffset : UInt64) :
    List.Forall₂
        (fun pageOffset page =>
          page.compression.compress
              (pageSlice memoryData pageOffset) =
            .ok page.data)
        tracker.getDirtyPages pages ∧
      (Addressed tracker.getDirtyPages baseOffset
          (pageMessages messageRegion baseOffset 0 pages) ↔
        Consecutive tracker.getDirtyPages baseOffset) := by
  rcases (snapshotDirty_spec regionId memoryData
      manager).2 pages hSnapshot with
    ⟨_, found, temperatureMap, hFound, hMade⟩
  rw [hRegion] at hFound
  cases hFound
  have hPages :=
    makePages_forall₂ manager temperatureMap memoryData
      hMade
  rw [filter_pageFits_of_covers hCovers] at hPages
  have hIncreasing := tracker.getDirtyPages_pairwise
  have hCount := length_getDirtyPages_le tracker
  have hRange : pages.length < 2 ^ 64 := by
    rw [← hPages.length_eq]
    unfold Covers pageSize at hCovers
    omega
  exact
    ⟨hPages.imp fun _ _ hPage => hPage.compressed,
      addressed_iff hIncreasing hPages.length_eq hRange
        messageRegion baseOffset⟩

end Snapshots

end Addresses

------------------------------------------------------------
-- Sample Regions
------------------------------------------------------------

/- A region of three pages, some of them dirty. -/
namespace AddressingSample

open scoped SnapshotSample

def manager
    (dirtyPages : List Nat) : MemorySnapshotManager :=
  dirtyPages.foldl (·.markPageDirty "ram" ·)
    (MemorySnapshotManager.new.registerRegion "ram" 0 12288)

def tracker
    (dirtyBitmap : List Bool) : DirtyPageTracker :=
  ⟨0, 12288, dirtyBitmap, [0, 0, 0]⟩

/- All of its pages are warm. -/
theorem classifyTemperature_tracker :
    (tracker [false, true, true]).classifyTemperature =
        some ⟨∅, {0, 1, 2}, ∅⟩ ∧
      (tracker [true, false, true]).classifyTemperature =
        some ⟨∅, {0, 1, 2}, ∅⟩ := by
  decide +kernel

def page : MemoryPage :=
  MemorySnapshotManager.pageOf .lz4 SnapshotSample.packed

theorem covers_image
    {dirtyBitmap : List Bool}
    (hLength : dirtyBitmap.length = 3) :
    Covers (tracker dirtyBitmap)
      (SnapshotSample.image 3) := by
  unfold Covers
  rw [SnapshotSample.image_length]
  exact (congrArg (· * pageSize) hLength).le

end AddressingSample

open AddressingSample
open scoped SnapshotSample

/- Two neighbouring pages are sent under their offsets. -/
theorem pagesAddressed_sample :
    Addressed [1, 2] 0
      (pageMessages "ram" 0 0 [page, page]) := by
  have hConsecutive : Consecutive [1, 2] 0 := by
    intro position pageOffset hDirty _
    match position with
    | 0 =>
        cases hDirty
        decide
    | 1 =>
        cases hDirty
        decide
    | position + 2 => cases hDirty
  have hSnapshot :=
    @SnapshotSample.snapshotDirty_image
      (manager [1, 2]) "ram"
      (tracker [false, true, true]) _ 3
      (by decide +kernel) classifyTemperature_tracker.1
      (by decide) (by decide +kernel)
  have hRegion :
      (manager [1, 2]).regions.lookup "ram" =
        some (tracker [false, true, true]) := by
    decide +kernel
  have hLength :
      (SnapshotSample.image 3).length < 2 ^ 64 := by
    rw [SnapshotSample.image_length]
    decide
  exact
    (pagesAddressed_iff hRegion (covers_image rfl) hLength
      hSnapshot "ram" 0).2.mpr hConsecutive

/-
  The third page is sent under the offset of the second, as
  the first and the third are dirty.
-/
theorem pagesAddressed_gap :
    (manager [0, 2]).regions.lookup "ram" =
        some (tracker [true, false, true]) ∧
      Covers (tracker [true, false, true])
        (SnapshotSample.image 3) ∧
      (MemorySnapshotManager.snapshotDirty "ram"
          (SnapshotSample.image 3) (manager [0, 2])).1 =
        .ok [page, page] ∧
      ¬ Addressed
          (tracker [true, false, true]).getDirtyPages 0
          (pageMessages "ram" 0 0 [page, page]) := by
  refine
    ⟨by decide +kernel, covers_image rfl,
      SnapshotSample.snapshotDirty_image (by decide +kernel)
        classifyTemperature_tracker.2 (by decide)
        (by decide +kernel), ?_⟩
  intro hAddressed
  have hThird :
      (1 : UInt64).toNat = (0 : UInt64).toNat + (2 - 0) :=
    hAddressed 1 2
      (MemoryPageMessage.fromPage page "ram" 1)
      (by decide) (by decide)
  cases hThird

end QSSPSender

end IsaWorkspace
