import IsaWorkspace.Externals
import IsaWorkspace.Foundations.Alignment
import IsaWorkspace.Foundations.Exec

/-
  The ranges that page faults are handled for.

  The kernel takes whole pages.  The start of a range is
  rounded down and its length is rounded up, one without the
  other, so a range that starts inside a page can lose the
  page of its last bytes.

  Main declarations:
    * `Userfaultfd`, `Userfaultfd.alignedRange`
    * `Userfaultfd.register`, `unregister`, `wake`
    * `UffdCall`, `Userfaultfd.perform`
    * `Userfaultfd.PassesCover`
    * `Userfaultfd.passesCover_iff`
-/

------------------------------------------------------------
-- Requests
------------------------------------------------------------

namespace IsaWorkspace

/- Linux userfaultfd wrapper, for pages of a power of two. -/
structure Userfaultfd where
  fd : Int32
  pageSize : UInt64
  isPowerOfTwo : ∃ k, pageSize.toNat = 2 ^ k

structure UserfaultfdRange where
  start : UInt64
  len : UInt64
deriving DecidableEq

/- What the kernel is asked to do. -/
inductive UffdRequest where
  | register
      (range : UserfaultfdRange) (mode ioctls : UInt64)
  | unregister (range : UserfaultfdRange)
  | wake (range : UserfaultfdRange)
deriving DecidableEq

def UffdRequest.range : UffdRequest → UserfaultfdRange
| register range _ _ => range
| unregister range => range
| wake range => range

/- Userfaultfd errors, with the text of the system's error. -/
inductive UserfaultfdError where
  | registerError (message : String)
  | unregisterError (message : String)
  | wakeError (message : String)
deriving DecidableEq

/- What the kernel answers to a request on a descriptor. -/
abbrev UffdKernel : Type :=
  Int32 → UffdRequest → Except String Unit

/- The mode in which missing pages are faults. -/
def uffdioRegisterModeMissing : UInt64 :=
  0x1

namespace Userfaultfd

/- A computation that notes its requests to the kernel. -/
abbrev Requesting : Type :=
  Exec (List UffdRequest) UserfaultfdError Unit

/- Pass a request to the kernel. -/
def ioctl
    (kernel : UffdKernel)
    (uffd : Userfaultfd)
    (request : UffdRequest)
    (wrap : String → UserfaultfdError) : Requesting := do
  Exec.update fun requests => requests ++ [request]
  Exec.ofExcept wrap (kernel uffd.fd request)

variable [BuildProfile]

/- Align to page boundary; `none` is a panic. -/
def alignedRange
    (uffd : Userfaultfd)
    (start len : UInt64) : Option UserfaultfdRange :=
  let mask := uffd.pageSize - 1
  ((checkedAdd len uffd.pageSize).bind fun sum =>
      checkedSub sum 1).map fun padded =>
    { start := start &&& ~~~ mask
      len := padded &&& ~~~ mask }

/- Register a memory region for userfaultfd handling. -/
def register
    (kernel : UffdKernel)
    (start len : UInt64)
    (uffd : Userfaultfd) : Requesting := do
  let range ← Exec.orPanic (uffd.alignedRange start len)
  uffd.ioctl kernel
    (.register range uffdioRegisterModeMissing 0)
    .registerError
  -- The end of the range, for the log.
  let _ ← Exec.orPanic (checkedAdd range.start range.len)
  pure ()

/- Unregister a memory region. -/
def unregister
    (kernel : UffdKernel)
    (start len : UInt64)
    (uffd : Userfaultfd) : Requesting := do
  let range ← Exec.orPanic (uffd.alignedRange start len)
  uffd.ioctl kernel (.unregister range) .unregisterError

/- Wake blocked threads on a memory range. -/
def wake
    (kernel : UffdKernel)
    (start len : UInt64)
    (uffd : Userfaultfd) : Requesting := do
  let range ← Exec.orPanic (uffd.alignedRange start len)
  uffd.ioctl kernel (.wake range) .wakeError

end Userfaultfd

/- The calls that pass a range to the kernel. -/
inductive UffdCall where
  | register
  | unregister
  | wake
deriving DecidableEq

namespace Userfaultfd

variable [BuildProfile]

def perform
    (kernel : UffdKernel)
    (start len : UInt64)
    (uffd : Userfaultfd) : UffdCall → Requesting
| .register => uffd.register kernel start len
| .unregister => uffd.unregister kernel start len
| .wake => uffd.wake kernel start len

/- What a call asks for with a range. -/
def request
    (range : UserfaultfdRange) : UffdCall → UffdRequest
| .register =>
    .register range uffdioRegisterModeMissing 0
| .unregister => .unregister range
| .wake => .wake range

omit [BuildProfile] in
theorem requests_ioctl
    (kernel : UffdKernel)
    (uffd : Userfaultfd)
    (request : UffdRequest)
    (wrap : String → UserfaultfdError)
    (earlier : List UffdRequest) :
    (uffd.ioctl kernel request wrap earlier).2 =
      earlier ++ [request] := by
  unfold ioctl
  rw [Exec.update_bind_apply, Exec.ofExcept_state]

/- The end of the range is added after the request. -/
theorem requests_register
    (kernel : UffdKernel)
    {uffd : Userfaultfd}
    {start len : UInt64}
    {range : UserfaultfdRange}
    (hRange : uffd.alignedRange start len = some range)
    (earlier : List UffdRequest) :
    (uffd.register kernel start len earlier).2 =
      earlier ++
        [.register range uffdioRegisterModeMissing 0] := by
  unfold register
  rw [hRange, Exec.orPanic_some, Exec.pure_bind_apply]
  refine
    Exec.bind_state
      (fun requests =>
        requests =
          earlier ++
            [.register range uffdioRegisterModeMissing 0])
      (requests_ioctl kernel uffd _ _ earlier) ?_
  rintro _ requests rfl
  cases checkedAdd range.start range.len with
  | none =>
      exact congrArg Prod.snd (Exec.bind_of_panicked rfl)
  | some last => rfl

/- A call makes the one request for its aligned range. -/
theorem requests_perform
    (kernel : UffdKernel)
    (call : UffdCall)
    (start len : UInt64)
    (uffd : Userfaultfd)
    (earlier : List UffdRequest) :
    (uffd.perform kernel start len call earlier).2 =
      earlier ++
        ((uffd.alignedRange start len).map fun range =>
            request range call).toList := by
  cases hRange : uffd.alignedRange start len with
  | none =>
      rw [Option.map_none, Option.toList_none,
        List.append_nil]
      cases call with
      | register =>
          unfold perform register
          rw [hRange]
          exact congrArg Prod.snd (Exec.bind_of_panicked rfl)
      | unregister =>
          unfold perform unregister
          rw [hRange]
          exact congrArg Prod.snd (Exec.bind_of_panicked rfl)
      | wake =>
          unfold perform wake
          rw [hRange]
          exact congrArg Prod.snd (Exec.bind_of_panicked rfl)
  | some range =>
      rw [Option.map_some, Option.toList_some]
      cases call with
      | register =>
          exact requests_register kernel hRange earlier
      | unregister =>
          unfold perform unregister
          rw [hRange]
          exact requests_ioctl kernel uffd _ _ earlier
      | wake =>
          unfold perform wake
          rw [hRange]
          exact requests_ioctl kernel uffd _ _ earlier

------------------------------------------------------------
-- What a Range Covers
------------------------------------------------------------

omit [BuildProfile] in
theorem pageSize_pos
    (uffd : Userfaultfd) :
    0 < uffd.pageSize.toNat := by
  obtain ⟨k, hPageSize⟩ := uffd.isPowerOfTwo
  rw [hPageSize]
  exact Nat.two_pow_pos k

/-
  Whole pages that hold every byte of the range asked for,
  and less than a page more on either side.
-/
structure Covers
    (pageSize start len : UInt64)
    (range : UserfaultfdRange) : Prop where
  startAligned : pageSize.toNat ∣ range.start.toNat
  lenAligned : pageSize.toNat ∣ range.len.toNat
  contains :
    ∀ byte, start.toNat ≤ byte →
      byte < start.toNat + len.toNat →
        range.start.toNat ≤ byte ∧
          byte < range.start.toNat + range.len.toNat
  before :
    start.toNat < range.start.toNat + pageSize.toNat
  after :
    range.start.toNat + range.len.toNat <
      start.toNat + len.toNat + pageSize.toNat

/- A call passes one range to the kernel, which covers. -/
def PassesCover
    (kernel : UffdKernel)
    (call : UffdCall)
    (start len : UInt64)
    (uffd : Userfaultfd) : Prop :=
  ∃ request,
    (uffd.perform kernel start len call []).2 = [request] ∧
      Covers uffd.pageSize start len request.range

/- The length is padded as long as the sum is in range. -/
theorem padded_eq_some
    {uffd : Userfaultfd}
    {len : UInt64}
    (hBuild :
      BuildProfile.overflowChecks = false ∨
        len.toNat + uffd.pageSize.toNat < 2 ^ 64) :
    ((checkedAdd len uffd.pageSize).bind fun sum =>
        checkedSub sum 1) =
      some (len + uffd.pageSize - 1) := by
  have hPageSize := uffd.pageSize_pos
  have hSome :
      BuildProfile.overflowChecks = false ∨
        1 ≤ len + uffd.pageSize := by
    apply hBuild.imp_right
    intro hRange
    apply UInt64.le_iff_toNat_le.mpr
    rw [UInt64.toNat_add, Nat.mod_eq_of_lt hRange,
      UInt64.toNat_one]
    omega
  rw [checkedAdd_eq_some hBuild, Option.bind_some,
    checkedSub_eq_some hSome]

/- The bounds are rounded, each by itself. -/
theorem alignedRange_eq_some
    {uffd : Userfaultfd}
    {start len : UInt64}
    (hLen : len.toNat + uffd.pageSize.toNat ≤ 2 ^ 64)
    (hBuild :
      BuildProfile.overflowChecks = false ∨
        len.toNat + uffd.pageSize.toNat < 2 ^ 64) :
    ∃ range,
      uffd.alignedRange start len = some range ∧
        range.start.toNat =
          Alignment.roundDown start.toNat
            uffd.pageSize.toNat ∧
        range.len.toNat =
          Alignment.roundUp len.toNat
            uffd.pageSize.toNat := by
  obtain ⟨k, hPageSize⟩ := uffd.isPowerOfTwo
  have hPositive := uffd.pageSize_pos
  have hPadded :
      (len + uffd.pageSize - 1).toNat =
        len.toNat + uffd.pageSize.toNat - 1 := by
    rw [UInt64.toNat_sub, UInt64.toNat_add,
      UInt64.toNat_one]
    omega
  unfold alignedRange
  rw [padded_eq_some hBuild]
  refine ⟨_, rfl, ?_, ?_⟩
  · exact Alignment.toNat_and_not_low start hPageSize
  · have hRounded :=
      Alignment.toNat_and_not_low
        (len + uffd.pageSize - 1) hPageSize
    rw [hPadded] at hRounded
    exact hRounded

/- Otherwise a build that checks sums panics. -/
theorem alignedRange_eq_none
    {uffd : Userfaultfd}
    {start len : UInt64}
    (hBuild :
      ¬ (BuildProfile.overflowChecks = false ∨
        len.toNat + uffd.pageSize.toNat < 2 ^ 64)) :
    uffd.alignedRange start len = none := by
  rw [not_or, Bool.not_eq_false] at hBuild
  unfold alignedRange checkedAdd
  rw [if_neg hBuild.2, if_pos hBuild.1]
  rfl

/- A rounded end below the last address leaves a page. -/
omit [BuildProfile] in
theorem len_le_of_fits
    {uffd : Userfaultfd}
    {start len : UInt64}
    (hFits :
      Alignment.roundUp (start.toNat + len.toNat)
          uffd.pageSize.toNat <
        2 ^ 64) :
    len.toNat + uffd.pageSize.toNat ≤ 2 ^ 64 := by
  obtain ⟨k, hPageSize⟩ := uffd.isPowerOfTwo
  have hPositive := uffd.pageSize_pos
  have hWord := uffd.pageSize.toNat_lt
  have hUp :=
    @Alignment.le_roundUp (start.toNat + len.toNat)
      uffd.pageSize.toNat hPositive
  have hSpace : uffd.pageSize.toNat ∣ 2 ^ 64 := by
    rw [hPageSize] at hWord ⊢
    have hBits := (Nat.pow_lt_pow_iff_right Nat.one_lt_two).mp hWord
    exact Nat.pow_dvd_pow 2 hBits.le
  have hRest :=
    Nat.dvd_sub hSpace
      (Nat.dvd_mul_left uffd.pageSize.toNat
        ((start.toNat + len.toNat + uffd.pageSize.toNat -
            1) /
          uffd.pageSize.toNat))
  have hPage := Nat.le_of_dvd (Nat.sub_pos_of_lt hFits) hRest
  unfold Alignment.roundUp at hUp hFits hPage
  omega

omit [BuildProfile] in
theorem range_request
    (range : UserfaultfdRange)
    (call : UffdCall) :
    (request range call).range = range := by
  cases call with
  | register => rfl
  | unregister => rfl
  | wake => rfl

/- A rounded range is always aligned and never too wide. -/
omit [BuildProfile] in
theorem covers_iff
    {pageSize start len : UInt64}
    {range : UserfaultfdRange}
    (hPositive : 0 < pageSize.toNat)
    (hStart :
      range.start.toNat =
        Alignment.roundDown start.toNat pageSize.toNat)
    (hLen :
      range.len.toNat =
        Alignment.roundUp len.toNat pageSize.toNat) :
    Covers pageSize start len range ↔
      ∀ byte, start.toNat ≤ byte →
        byte < start.toNat + len.toNat →
          Alignment.roundDown start.toNat pageSize.toNat ≤
              byte ∧
            byte <
              Alignment.roundDown start.toNat
                  pageSize.toNat +
                Alignment.roundUp len.toNat
                  pageSize.toNat := by
  rw [← hStart, ← hLen]
  constructor
  · exact fun hCovers => hCovers.contains
  · intro hContains
    have hRest :=
      Alignment.roundDown_add_mod start.toNat
        pageSize.toNat
    have hMod := Nat.mod_lt start.toNat hPositive
    have hUp :=
      @Alignment.roundUp_lt len.toNat pageSize.toNat
        hPositive
    rw [← hStart] at hRest
    rw [← hLen] at hUp
    exact
      { startAligned := by
          rw [hStart]
          exact Nat.dvd_mul_left _ _
        lenAligned := by
          rw [hLen]
          exact Nat.dvd_mul_left _ _
        contains := hContains
        before := by omega
        after := by omega }

/-
  Where the end rounds up within the address space, a call
  passes a range that covers the one asked for exactly if
  the last byte of its length lies no further in a page than
  its start leaves room for.  A build that checks sums also
  has to add the page to the length within a word.
-/
theorem passesCover_iff
    (kernel : UffdKernel)
    (call : UffdCall)
    (start len : UInt64)
    (uffd : Userfaultfd)
    (hFits :
      Alignment.roundUp (start.toNat + len.toNat)
          uffd.pageSize.toNat <
        2 ^ 64) :
    uffd.PassesCover kernel call start len ↔
      (BuildProfile.overflowChecks = false ∨
          len.toNat + uffd.pageSize.toNat < 2 ^ 64) ∧
        (len.toNat = 0 ∨
          start.toNat % uffd.pageSize.toNat +
              (len.toNat - 1) % uffd.pageSize.toNat <
            uffd.pageSize.toNat) := by
  have hPositive := uffd.pageSize_pos
  have hRequests :=
    requests_perform kernel call start len uffd []
  unfold PassesCover
  rw [hRequests, List.nil_append]
  by_cases hBuild :
      BuildProfile.overflowChecks = false ∨
        len.toNat + uffd.pageSize.toNat < 2 ^ 64
  · obtain ⟨range, hRange, hStart, hLen⟩ :=
      @alignedRange_eq_some _ uffd start len
        (len_le_of_fits hFits) hBuild
    rw [hRange, Option.map_some, Option.toList_some,
      and_iff_right hBuild,
      ← Alignment.contains_iff hPositive,
      ← covers_iff hPositive hStart hLen]
    constructor
    · rintro ⟨passed, hPassed, hCovers⟩
      cases hPassed
      rw [range_request] at hCovers
      exact hCovers
    · intro hCovers
      refine ⟨request range call, rfl, ?_⟩
      rw [range_request]
      exact hCovers
  · rw [alignedRange_eq_none hBuild]
    apply iff_of_false
    · rintro ⟨request, hNone, _⟩
      cases hNone
    · rintro ⟨hRange, _⟩
      exact hBuild hRange

end Userfaultfd

------------------------------------------------------------
-- Sample Ranges
------------------------------------------------------------

namespace Userfaultfd

/- A wrapper for the usual pages. -/
def sample : Userfaultfd where
  fd := 3
  pageSize := 4096
  isPowerOfTwo := ⟨12, rfl⟩

/- A page and a half, from the start of a page. -/
theorem passesCover_sample :
    @PassesCover ⟨true⟩ (fun _ _ => .ok ()) .register 0x1000
      0x1800 sample :=
  (@passesCover_iff ⟨true⟩ (fun _ _ => .ok ()) .register
    0x1000 0x1800 sample (by decide)).mpr
    ⟨Or.inr (by decide), Or.inr (by decide)⟩

/-
  One page, from the middle of a page: its second half is
  left out.
-/
theorem not_passesCover_sample :
    ¬ @PassesCover ⟨true⟩ (fun _ _ => .ok ()) .register
        0x1800 0x1000 sample := by
  rintro ⟨passed, hPassed, hCovers⟩
  have hRequest :
      (@perform ⟨true⟩ (fun _ _ => .ok ()) 0x1800 0x1000
          sample .register []).2 =
        [.register ⟨0x1000, 0x1000⟩ 1 0] := by
    decide +kernel
  rw [hRequest] at hPassed
  cases hPassed
  have hLast :=
    (hCovers.contains 0x2000 (by decide) (by decide)).2
  revert hLast
  decide

end Userfaultfd

end IsaWorkspace
