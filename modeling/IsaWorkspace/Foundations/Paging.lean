import Mathlib.Data.List.Basic

/-
  Lists that are handed out in pages.

  A page is as many items as fit on one, from a multiple of
  that number on.  The pages of a list, as many as the
  quotient rounded up, are full but for the last one, and
  in a row they are the list.

  Main declarations:
    * `Paging.page`, `Paging.pageCount`
    * `Paging.lt_pageCount_iff`, `Paging.length_page`
    * `Paging.flatMap_page`
-/

------------------------------------------------------------
-- Pages
------------------------------------------------------------

namespace IsaWorkspace

namespace Paging

variable {α : Type}

/- The items of a page. -/
def page
    (size : Nat)
    (items : List α)
    (number : Nat) : List α :=
  (items.drop (number * size)).take size

/- The number of pages of so many items. -/
def pageCount
    (size total : Nat) : Nat :=
  (total + size - 1) / size

variable {size number total : Nat} {items : List α}

/- The items between two bounds, the second cut to fit. -/
theorem take_sub_min
    (items : List α)
    (start size : Nat) :
    (items.drop start).take
        (min (start + size) items.length - start) =
      (items.drop start).take size := by
  have hBound :
      min (start + size) items.length - start =
        min size (items.drop start).length := by
    rw [List.length_drop]
    omega
  rw [hBound]
  exact List.take_eq_take_min.symm

/- Behind the last item the pages are empty. -/
theorem page_eq_nil
    (hPast : items.length ≤ number * size) :
    page size items number = [] := by
  unfold page
  rw [List.drop_eq_nil_of_le hPast, List.take_nil]

/- Rounded up, the pages hold all items, and no fewer do. -/
theorem lt_pageCount_iff
    (hSize : 1 ≤ size) :
    number < pageCount size total ↔
      number * size < total := by
  unfold pageCount
  rw [Nat.lt_iff_add_one_le, Nat.le_div_iff_mul_le hSize,
    Nat.add_mul]
  omega

/- Each page but the last one is full. -/
theorem length_page
    (hSize : 1 ≤ size)
    (hNumber :
      number + 1 < pageCount size items.length) :
    (page size items number).length = size := by
  have hNext := (lt_pageCount_iff hSize).mp hNumber
  rw [Nat.add_mul] at hNext
  unfold page
  rw [List.length_take, List.length_drop]
  omega

/- The pages before one hold the items before it. -/
theorem flatMap_range_page
    (size : Nat)
    (items : List α)
    (count : Nat) :
    (List.range count).flatMap (page size items) =
      items.take (count * size) := by
  induction count with
  | zero => simp
  | succ count ih =>
      rw [List.range_succ, List.flatMap_append, ih,
        Nat.add_mul, List.take_add]
      simp [page]

/- In a row the pages are the list. -/
theorem flatMap_page
    (hSize : 1 ≤ size) :
    (List.range (pageCount size items.length)).flatMap
        (page size items) =
      items := by
  rw [flatMap_range_page]
  apply List.take_of_length_le
  by_contra hShort
  have hLess :=
    (lt_pageCount_iff hSize).mpr (Nat.lt_of_not_le hShort)
  exact Nat.lt_irrefl _ hLess

end Paging

end IsaWorkspace
