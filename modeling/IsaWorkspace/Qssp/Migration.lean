import IsaWorkspace.Memory.Fidelity
import IsaWorkspace.Qssp.Sessions

/-
  Moving a state to another host.

  The pages of a snapshot are sent, with the CPU state and
  the manifest, in a session of the transport.  Once all
  tasks of the receiver have run, in whatever order, it has
  the dirty pages of the image exactly when no call had more
  than one page to send.

  Main declarations:
    * `length_firstPages_eq_iff`
    * `MemorySnapshotManager.originalSize_of_snapshotDirty`
    * `HoldsPages`
    * `migrated_iff`
-/

------------------------------------------------------------
-- First Pages
------------------------------------------------------------

namespace IsaWorkspace

namespace SenderCall

theorem length_firstPage
    (call : SenderCall) :
    call.firstPage.length = min 1 call.pages.length := by
  unfold firstPage
  rw [List.length_map, List.length_take]

/- A single page whose size fits its field is all of them. -/
theorem firstPage_eq_pages
    {call : SenderCall}
    (hSizes : ∀ page ∈ call.pages, page.originalSize < 2 ^ 32)
    (hSingle : call.pages.length ≤ 1) :
    call.firstPage = call.pages := by
  unfold firstPage
  rw [List.take_of_length_le hSingle]
  calc
    call.pages.map _ = call.pages.map id := by
      apply List.map_congr_left
      intro page hPage
      exact cutSize_eq_iff.mpr (hSizes page hPage)
    _ = call.pages := List.map_id _

end SenderCall

open SenderCall (firstPage pages)

theorem length_firstPages_le
    (calls : List SenderCall) :
    (calls.flatMap firstPage).length ≤
      (calls.flatMap pages).length := by
  induction calls with
  | nil => exact Nat.le_refl _
  | cons call rest ih =>
      rw [List.flatMap_cons, List.flatMap_cons,
        List.length_append, List.length_append,
        call.length_firstPage]
      omega

/- No page is left out where no call has more than one. -/
theorem length_firstPages_eq_iff
    (calls : List SenderCall) :
    (calls.flatMap firstPage).length =
        (calls.flatMap pages).length ↔
      ∀ call ∈ calls, call.pages.length ≤ 1 := by
  induction calls with
  | nil =>
      refine iff_of_true rfl ?_
      intro call hCall
      cases hCall
  | cons call rest ih =>
      have hRest := length_firstPages_le rest
      rw [List.flatMap_cons, List.flatMap_cons,
        List.length_append, List.length_append,
        call.length_firstPage, List.forall_mem_cons, ← ih]
      omega

theorem firstPages_eq_pages
    {calls : List SenderCall}
    (hSizes :
      ∀ page ∈ calls.flatMap pages,
        page.originalSize < 2 ^ 32)
    (hSingle : ∀ call ∈ calls, call.pages.length ≤ 1) :
    calls.flatMap firstPage = calls.flatMap pages := by
  apply List.flatMap_congr
  intro call hCall
  apply SenderCall.firstPage_eq_pages _ (hSingle call hCall)
  intro page hPage
  exact
    hSizes page
      (List.mem_flatMap.mpr ⟨call, hCall, hPage⟩)

end IsaWorkspace

------------------------------------------------------------
-- Sizes of Pages
------------------------------------------------------------

namespace IsaWorkspace

namespace MemorySnapshotManager

variable [Sha256] [Compressors]

/- Every page made has the size of a page. -/
theorem originalSize_of_makePages
    (manager : MemorySnapshotManager)
    (temperatureMap : MemoryTemperatureMap)
    (memoryData : Bytes)
    (pageOffsets : List Nat) :
    ∀ page ∈
        (makePages manager temperatureMap memoryData
          pageOffsets).1,
      page.originalSize = pageSize := by
  induction pageOffsets with
  | nil =>
      intro page hPage
      cases hPage
  | cons pageOffset rest ih =>
      unfold makePages
      by_cases hFits : PageFits memoryData pageOffset
      · rw [if_pos hFits]
        dsimp only
        cases hCompress :
            (manager.compressionFor temperatureMap
              pageOffset).compress
                (pageSlice memoryData pageOffset) with
        | error error =>
            intro page hPage
            cases hPage
        | ok compressedData =>
            intro page hPage
            rcases List.mem_cons.mp hPage with rfl | hRest
            · rfl
            · exact ih page hRest
      · rw [if_neg hFits]
        exact ih

theorem originalSize_of_snapshotDirty
    [BuildProfile]
    {manager : MemorySnapshotManager}
    {regionId : String}
    {memoryData : Bytes}
    {pages : List MemoryPage}
    (hOk :
      (snapshotDirty regionId memoryData manager).1 =
        .ok pages) :
    ∀ page ∈ pages, page.originalSize = pageSize := by
  rcases (snapshotDirty_spec regionId memoryData
      manager).2 pages hOk with
    ⟨_, tracker, temperatureMap, _, hMade⟩
  have hSizes :=
    originalSize_of_makePages manager temperatureMap
      memoryData tracker.getDirtyPages
  rw [hMade] at hSizes
  exact hSizes

end MemorySnapshotManager

end IsaWorkspace

------------------------------------------------------------
-- Migration
------------------------------------------------------------

namespace IsaWorkspace

section Migration

open MemorySnapshotManager (snapshotDirty dirtyWithin)
open QSSPSender (performAll)

/- The only value sent is the last one received. -/
theorem getLast?_of_perm
    {α : Type}
    {value : α}
    {sent received : List α}
    (hSent : sent = [value])
    (hPerm : received.Perm sent) :
    received.getLast?.or none = some value := by
  subst hSent
  rw [List.perm_singleton.mp hPerm]
  rfl

variable [BuildProfile]
variable [SerdeJson CPUState] [SerdeJson MemoryPageMessage]
variable [SerdeJson MemoryManifest]

variable {C : Type} [SeparateUniStreams C]

/-
  When every stream of a session has been handled, its calls
  are those handled, in some order.
-/
theorem TasksOf.perm
    {calls : List SenderCall}
    {sender sender' : QSSPSender C}
    {handled : List StreamTask}
    (hTasks : TasksOf calls sender sender' handled)
    (hOk : performAll calls sender = (.ok (), sender'))
    (hAll : handled.length = calls.length) :
    (handled.map StreamTask.call).Perm calls := by
  apply (hTasks.subperm hOk).perm_of_length_le
  rw [List.length_map]
  exact hAll.ge

variable [Sha256] [Compressors]

/-
  Pages that decompress to those of the image at the given
  offsets, one for each, in some order.
-/
def HoldsPages
    (memoryData : Bytes)
    (pageOffsets : List Nat)
    (pages : List MemoryPage) : Prop :=
  ∃ order : List Nat,
    order.Perm pageOffsets ∧
      List.Forall₂
        (fun pageOffset page =>
          page.compression.decompress page.data =
            .ok (pageSlice memoryData pageOffset))
        order pages

omit [BuildProfile] [SerdeJson CPUState]
  [SerdeJson MemoryPageMessage]
  [SerdeJson MemoryManifest] [Sha256] in
theorem HoldsPages.length_eq
    {memoryData : Bytes}
    {pageOffsets : List Nat}
    {pages : List MemoryPage}
    (hHolds : HoldsPages memoryData pageOffsets pages) :
    pages.length = pageOffsets.length := by
  rcases hHolds with ⟨order, hPerm, hEach⟩
  rw [← hEach.length_eq, hPerm.length_eq]

/- Pages of the image are held in whatever order they come. -/
omit [BuildProfile] [SerdeJson CPUState]
  [SerdeJson MemoryPageMessage]
  [SerdeJson MemoryManifest] in
theorem holdsPages_of_perm
    (hLawful : LawfulCompressors)
    {memoryData : Bytes}
    {pageOffsets : List Nat}
    {pages received : List MemoryPage}
    (hPages :
      List.Forall₂
        (fun pageOffset page =>
          IsPageOf (pageSlice memoryData pageOffset) page)
        pageOffsets pages)
    (hPerm : received.Perm pages) :
    HoldsPages memoryData pageOffsets received := by
  rcases List.perm_comp_forall₂ hPerm hPages.flip with
    ⟨order, hOrder, hSame⟩
  refine ⟨order, hSame, ?_⟩
  exact
    hOrder.flip.imp fun _ _ hPage => hPage.decompress hLawful

/-
  Take a snapshot at any point of the life of a manager, and
  send its pages, the CPU state and the manifest in any
  division into calls.  When all streams have been handled,
  in any order, the receiver has the CPU state and the
  manifest, and it has the dirty pages of the image exactly
  when no call had more than one page.
-/
theorem migrated_iff
    (hLawful : LawfulCompressors)
    (hRoundTrip : MessagesRoundTrip)
    (ops : List SnapshotOp)
    (regionId : String)
    (memoryData : Bytes)
    (pages : List MemoryPage)
    (hSnapshot :
      (snapshotDirty regionId memoryData
          (Runs.run SnapshotHistory.step SnapshotHistory.new
            ops).manager).1 =
        .ok pages)
    (calls : List SenderCall)
    (cpuState : CPUState)
    (manifest : MemoryManifest)
    (hPages : calls.flatMap SenderCall.pages = pages)
    (hCpuState :
      calls.filterMap SenderCall.cpuState? = [cpuState])
    (hManifest :
      calls.filterMap SenderCall.manifest? = [manifest])
    (hFits : ∀ call ∈ calls, call.Fits)
    (sender sender' : QSSPSender C)
    (hOk : performAll calls sender = (.ok (), sender'))
    (handled : List StreamTask)
    (hTasks : TasksOf calls sender sender' handled)
    (hAll : handled.length = calls.length) :
    (Runs.run QSSPReceiver.receive QSSPReceiver.new
          handled).cpuState = some cpuState ∧
      (Runs.run QSSPReceiver.receive QSSPReceiver.new
          handled).manifest = some manifest ∧
      (HoldsPages memoryData
          (dirtyWithin
            (Runs.run SnapshotHistory.step
              SnapshotHistory.new ops).manager
            regionId memoryData)
          (Runs.run QSSPReceiver.receive QSSPReceiver.new
            handled).memoryPages ↔
        ∀ call ∈ calls, call.pages.length ≤ 1) := by
  have hKept :=
    Runs.run_of_invariant SnapshotHistory.kept_step ops
      SnapshotHistory.kept_new
  have hImage :=
    MemorySnapshotManager.snapshotDirty_forall₂ hKept.default
      hSnapshot
  have hSizes :
      ∀ page ∈ calls.flatMap SenderCall.pages,
        page.originalSize < 2 ^ 32 := by
    intro page hPage
    rw [hPages] at hPage
    rw [MemorySnapshotManager.originalSize_of_snapshotDirty
      hSnapshot page hPage]
    decide
  have hReceived :
      Received (handled.map StreamTask.call)
        QSSPReceiver.new
        (Runs.run QSSPReceiver.receive QSSPReceiver.new
          handled) :=
    received_run hRoundTrip QSSPReceiver.new
      (fun task hTask =>
        hFits task.call (hTasks.call_mem task hTask))
      (hTasks.arrivesFor hOk)
  have hPerm := hTasks.perm hOk hAll
  have hFirsts :
      (Runs.run QSSPReceiver.receive QSSPReceiver.new
        handled).memoryPages.Perm
          (calls.flatMap SenderCall.firstPage) := by
    rw [hReceived.memoryPages]
    exact hPerm.flatMap_right _
  refine ⟨?_, ?_, ?_⟩
  · rw [hReceived.cpuState]
    exact getLast?_of_perm hCpuState (hPerm.filterMap _)
  · rw [hReceived.manifest]
    exact getLast?_of_perm hManifest (hPerm.filterMap _)
  · constructor
    · intro hHolds
      apply (length_firstPages_eq_iff calls).mp
      rw [← hFirsts.length_eq, hHolds.length_eq, hPages]
      exact hImage.length_eq
    · intro hSingle
      rw [firstPages_eq_pages hSizes hSingle, hPages]
        at hFirsts
      exact holdsPages_of_perm hLawful hImage hFirsts

end Migration

end IsaWorkspace

------------------------------------------------------------
-- A Sample Migration
------------------------------------------------------------

namespace IsaWorkspace

/- A page in a call of its own, handled before the rest. -/
namespace MigrationSample

open SnapshotSample
open TransferSample (Outbox)

scoped instance : SeparateUniStreams Outbox :=
  TransferSample.instSeparateUniStreamsOutbox

def beforeSnapshot : List SnapshotOp :=
  [.registerRegion "test" 0x1000 4096,
    .markPageDirty "test" 0]

def memoryPage : MemoryPage :=
  MemorySnapshotManager.pageOf .lz4 packed

def cpuState : CPUState :=
  ⟨"x86_64", .null⟩

def manifest : MemoryManifest :=
  ⟨[]⟩

def cpuText : Bytes :=
  asBytes
    "\x7b\"arch\":\"x86_64\",\"registers\":null\x7d"

def manifestText : Bytes :=
  asBytes "\x7b\"regions\":[]\x7d"

def pageMessage : MemoryPageMessage :=
  .fromPage memoryPage "test" 0

def pageText : Bytes :=
  asBytes
    ("\x7b\"region_id\":\"test\",\"page_offset\":0" ++
      ",\"page_hash\":\"" ++ memoryPage.pageHash ++
      "\",\"compression\":1,\"original_size\":4096" ++
      ",\"data\":[" ++
      ",".intercalate
        (packed.map fun byte => byte.toNat.repr) ++
      "]\x7d")

scoped instance : SerdeJson CPUState where
  toVec
  | ⟨"x86_64", .null⟩ => .ok cpuText
  | _ => .error "not in the sample"
  fromSlice data :=
    if data = cpuText then
      .ok cpuState
    else
      .error "not in the sample"

scoped instance : SerdeJson MemoryManifest where
  toVec value :=
    if value = manifest then
      .ok manifestText
    else
      .error "not in the sample"
  fromSlice data :=
    if data = manifestText then
      .ok manifest
    else
      .error "not in the sample"

scoped instance : SerdeJson MemoryPageMessage where
  toVec message :=
    if message = pageMessage then
      .ok pageText
    else
      .error "not in the sample"
  fromSlice data :=
    if data = pageText then
      .ok pageMessage
    else
      .error "not in the sample"

theorem of_toVec_cpuState
    {state : CPUState}
    {payload : Bytes}
    (hJson : SerdeJson.toVec state = .ok payload) :
    state = cpuState ∧ payload = cpuText := by
  unfold SerdeJson.toVec instSerdeJsonCPUState at hJson
  dsimp only at hJson
  split at hJson
  · cases hJson
    exact ⟨rfl, rfl⟩
  · cases hJson

theorem of_toVec_manifest
    {value : MemoryManifest}
    {payload : Bytes}
    (hJson : SerdeJson.toVec value = .ok payload) :
    value = manifest ∧ payload = manifestText := by
  change (if value = manifest then _ else _) = _ at hJson
  split at hJson
  · next hValue =>
      cases hJson
      exact ⟨hValue, rfl⟩
  · cases hJson

theorem of_toVec_page
    {message : MemoryPageMessage}
    {payload : Bytes}
    (hJson : SerdeJson.toVec message = .ok payload) :
    message = pageMessage ∧ payload = pageText := by
  change (if message = pageMessage then _ else _) = _ at hJson
  split at hJson
  · next hMessage =>
      cases hJson
      exact ⟨hMessage, rfl⟩
  · cases hJson

theorem messagesRoundTrip : MessagesRoundTrip where
  cpuState := by
    intro state payload hJson
    rcases of_toVec_cpuState hJson with ⟨rfl, rfl⟩
    exact if_pos rfl
  pages := by
    intro message payload hJson
    rcases of_toVec_page hJson with ⟨rfl, rfl⟩
    exact if_pos rfl
  manifest := by
    intro value payload hJson
    rcases of_toVec_manifest hJson with ⟨rfl, rfl⟩
    exact if_pos rfl

def calls : List SenderCall :=
  [.sendCpuState cpuState,
    .sendMemoryPages 0 [memoryPage] "test" 0 true,
    .sendManifest manifest, .sendTransferComplete 9]

def sender : QSSPSender Outbox :=
  QSSPSender.new ⟨[]⟩

def afterCalls : QSSPSender Outbox :=
  (QSSPSender.performAll calls sender).2

def arrived
    (stream : Nat) : RecvStream :=
  ⟨[LawfulUniStreams.sent afterCalls.connection stream],
    none⟩

def taskOf
    (call : SenderCall)
    (stream : Nat) : StreamTask :=
  ⟨call, stream, 5, arrived stream⟩

def handled : List StreamTask :=
  [taskOf (.sendMemoryPages 0 [memoryPage] "test" 0 true) 1,
    taskOf (.sendTransferComplete 9) 3,
    taskOf (.sendCpuState cpuState) 0,
    taskOf (.sendManifest manifest) 2]

theorem streamsOf_calls :
    QSSPSender.streamsOf calls sender = [0, 1, 2, 3] := by
  decide +kernel

theorem fits_calls :
    ∀ call ∈ calls, call.Fits := by
  unfold calls
  rw [List.forall_mem_cons, List.forall_mem_cons,
    List.forall_mem_cons, List.forall_mem_singleton]
  refine ⟨?_, ?_, ?_, trivial⟩
  · intro payload hJson
    rw [(of_toVec_cpuState hJson).2]
    decide +kernel
  · rintro page hPage payload ⟨pageOffset, hJson⟩
    rw [(of_toVec_page hJson).2]
    decide +kernel
  · intro payload hJson
    rw [(of_toVec_manifest hJson).2]
    decide +kernel

theorem tasksOf_handled :
    TasksOf calls sender afterCalls handled where
  apart := by decide
  opened := by
    rw [streamsOf_calls]
    unfold handled calls taskOf
    simp
  intact := by
    unfold handled taskOf
    simp only [List.forall_mem_cons, List.not_mem_nil,
      false_implies, implies_true, and_true]
    exact
      ⟨List.append_nil _, List.append_nil _,
        List.append_nil _, List.append_nil _⟩
  header := by
    unfold handled taskOf
    simp only [List.forall_mem_cons, List.not_mem_nil,
      false_implies, implies_true, and_true]
    refine ⟨?_, ?_, ?_, ?_⟩
    all_goals
      intro _
      decide +kernel

end MigrationSample

open MigrationSample SnapshotSample

theorem migrated_sample :
    (Runs.run QSSPReceiver.receive QSSPReceiver.new
          handled).cpuState = some cpuState ∧
      (Runs.run QSSPReceiver.receive QSSPReceiver.new
          handled).manifest = some manifest ∧
      (HoldsPages (image 1)
          (MemorySnapshotManager.dirtyWithin
            (Runs.run SnapshotHistory.step
              SnapshotHistory.new beforeSnapshot).manager
            "test" (image 1))
          (Runs.run QSSPReceiver.receive QSSPReceiver.new
            handled).memoryPages ↔
        ∀ call ∈ calls, call.pages.length ≤ 1) := by
  have hOk :
      QSSPSender.performAll calls sender =
        (.ok (), afterCalls) := by
    apply Prod.ext
    · decide +kernel
    · rfl
  have hSnapshot :
      (MemorySnapshotManager.snapshotDirty "test" (image 1)
          (Runs.run SnapshotHistory.step
            SnapshotHistory.new beforeSnapshot).manager).1 =
        .ok [memoryPage] :=
    snapshotDirty_image lookup_tracker
      classifyTemperature_tracker (by decide)
      (by decide +kernel)
  exact
    migrated_iff lawfulCompressors messagesRoundTrip
      beforeSnapshot "test" (image 1) [memoryPage] hSnapshot
      calls cpuState manifest rfl rfl rfl fits_calls sender
      afterCalls hOk handled tasksOf_handled rfl

end IsaWorkspace
