import Mathlib.Data.List.DropRight
import Mathlib.Tactic.Common

/-
  Lists of bounded length that keep what came last.

  An item goes to the end of the list, and the first item
  makes room for it in a list that is full.  What is kept of
  all items that came is then their end, as long as the list
  has room for it.

  Main declarations:
    * `Newest.push`, `Newest.pushAll`
    * `Newest.push_rtake`, `Newest.pushAll_rtake`
    * `Newest.pushAll_nil_eq`
-/

------------------------------------------------------------
-- Keeping the Newest
------------------------------------------------------------

namespace IsaWorkspace

namespace Newest

variable {α : Type}

/- Append an item; the first item makes room in a full list. -/
def push
    (capacity : Nat)
    (kept : List α)
    (item : α) : List α :=
  if capacity ≤ kept.length then
    kept.tail ++ [item]
  else
    kept ++ [item]

/- Append items one after the other. -/
def pushAll
    (capacity : Nat)
    (kept items : List α) : List α :=
  items.foldl (push capacity) kept

variable {capacity : Nat}

theorem pushAll_append
    (kept earlier later : List α) :
    pushAll capacity kept (earlier ++ later) =
      pushAll capacity (pushAll capacity kept earlier)
        later := by
  exact List.foldl_append

/- The end of a list, after one more item has come. -/
theorem push_rtake
    (hCapacity : 1 ≤ capacity)
    (items : List α)
    (item : α) :
    push capacity (items.rtake capacity) item =
      (items ++ [item]).rtake capacity := by
  obtain ⟨room, rfl⟩ := Nat.exists_eq_add_of_le' hCapacity
  rw [List.rtake_concat_succ]
  unfold push List.rtake
  rw [List.length_drop]
  by_cases hFull : room + 1 ≤ items.length
  · have hNext :
        items.length - (room + 1) + 1 =
          items.length - room := by
      omega
    rw [if_pos (by omega), List.tail_drop, hNext]
  · have hNone : items.length - (room + 1) = 0 := by
      omega
    have hNoneNext : items.length - room = 0 := by
      omega
    rw [if_neg (by omega), hNone, hNoneNext]

/- The end of a list, after more items have come. -/
theorem pushAll_rtake
    (hCapacity : 1 ≤ capacity)
    (items later : List α) :
    pushAll capacity (items.rtake capacity) later =
      (items ++ later).rtake capacity := by
  induction later using List.reverseRecOn with
  | nil =>
      rw [List.append_nil]
      rfl
  | append_singleton earlier item ih =>
      rw [pushAll_append, ih, ← List.append_assoc]
      exact push_rtake hCapacity _ item

/- There is not more to take from the end than all. -/
theorem rtake_min_length
    (items : List α)
    (count : Nat) :
    items.rtake (min items.length count) =
      items.rtake count := by
  unfold List.rtake
  congr 1
  omega

/- What an empty list keeps is the end of what came. -/
theorem pushAll_nil_eq
    (hCapacity : 1 ≤ capacity)
    (items : List α) :
    pushAll capacity [] items =
      items.rtake (min items.length capacity) := by
  have hAll := pushAll_rtake hCapacity [] items
  rw [List.rtake_nil, List.nil_append] at hAll
  rw [hAll, rtake_min_length]

end Newest

end IsaWorkspace
