import Mathlib.Data.List.Basic
import Mathlib.Data.List.Infix
import Mathlib.Data.Set.Finite.Basic

/-
  Walks through a tree of named places.

  A place is the list of the names that lead to it from the
  root.  Moves go down to a name or up to the place above,
  where the root is above itself.  Moves that never go above
  their start lead to the same names from every start, and
  moves that do lead out of a start whose name they do not
  know.

  Main declarations:
    * `PathWalk.walk`, `PathWalk.reach`
    * `PathWalk.walk_of_reach`
    * `PathWalk.notMem_walk_of_reach_none`
    * `PathWalk.exists_fresh`
-/

------------------------------------------------------------
-- Moves
------------------------------------------------------------

namespace IsaWorkspace

namespace PathWalk

inductive Move (ν : Type) where
  | up
  | down (name : ν)
deriving DecidableEq

variable {ν : Type}

def step
    (place : List ν) : Move ν → List ν
| .up => place.dropLast
| .down name => place ++ [name]

/- Where moves lead from a place. -/
def walk
    (place : List ν)
    (moves : List (Move ν)) : List ν :=
  moves.foldl step place

/-
  The names below the start that moves lead to, from such
  names and without going above the start.
-/
def reach
    (names : List ν) : List (Move ν) → Option (List ν)
| [] => some names
| .down name :: rest => reach (names ++ [name]) rest
| .up :: rest =>
    if names = [] then none
    else reach names.dropLast rest

@[simp]
theorem walk_nil
    (place : List ν) : walk place [] = place := rfl

theorem walk_append
    (place : List ν)
    (moves others : List (Move ν)) :
    walk place (moves ++ others) =
      walk (walk place moves) others :=
  List.foldl_append

------------------------------------------------------------
-- Starts
------------------------------------------------------------

/- Moves that stay below the start are the same anywhere. -/
theorem walk_of_reach
    {moves : List (Move ν)}
    {names reached : List ν}
    (start : List ν)
    (hReach : reach names moves = some reached) :
    walk (start ++ names) moves = start ++ reached := by
  induction moves generalizing names with
  | nil =>
      cases hReach
      rfl
  | cons move rest ih =>
      cases move with
      | down name =>
          have hRest := ih hReach
          rw [← List.append_assoc] at hRest
          exact hRest
      | up =>
          unfold reach at hReach
          split at hReach
          · cases hReach
          · next hSome =>
              have hRest := ih hReach
              rw [← List.dropLast_append_of_ne_nil hSome]
                at hRest
              exact hRest

/- A name that no move goes down to is not come upon. -/
theorem notMem_walk
    {moves : List (Move ν)}
    {name : ν}
    {place : List ν}
    (hMoves : .down name ∉ moves)
    (hPlace : name ∉ place) : name ∉ walk place moves := by
  induction moves generalizing place with
  | nil => exact hPlace
  | cons move rest ih =>
      have hRest : .down name ∉ rest := fun hMem =>
        hMoves (List.mem_cons_of_mem _ hMem)
      cases move with
      | up =>
          exact ih hRest fun hMem =>
            hPlace (List.mem_of_mem_dropLast hMem)
      | down other =>
          have hOther : name ≠ other := by
            rintro rfl
            exact hMoves List.mem_cons_self
          apply ih hRest
          unfold step
          rw [List.mem_append, List.mem_singleton]
          exact not_or.mpr ⟨hPlace, hOther⟩

/- A start that is left is not entered again by chance. -/
theorem notMem_walk_of_reach_none
    {moves : List (Move ν)}
    {name : ν}
    {names : List ν}
    (hMoves : .down name ∉ moves)
    (hReach : reach names moves = none) :
    name ∉ walk (name :: names) moves := by
  induction moves generalizing names with
  | nil => cases hReach
  | cons move rest ih =>
      have hRest : .down name ∉ rest := fun hMem =>
        hMoves (List.mem_cons_of_mem _ hMem)
      cases move with
      | down other => exact ih hRest hReach
      | up =>
          unfold reach at hReach
          split at hReach
          · next hNone =>
              rw [hNone]
              change name ∉ walk [] rest
              exact notMem_walk hRest List.not_mem_nil
          · next hSome =>
              have hOut := ih hRest hReach
              rw [← List.dropLast_cons_of_ne_nil hSome]
                at hOut
              exact hOut

/- Among infinitely many names some are not gone down to. -/
theorem exists_fresh
    [Infinite ν]
    (moves : List (Move ν)) :
    ∃ name, .down name ∉ moves := by
  by_contra hAll
  have hDown :
      Function.Injective (Move.down : ν → Move ν) :=
    fun _ _ hSame => Move.down.inj hSame
  have hFinite : (Set.range (Move.down : ν → _)).Finite := by
    apply moves.finite_toSet.subset
    rintro _ ⟨name, rfl⟩
    by_contra hMem
    exact hAll ⟨name, hMem⟩
  exact Set.infinite_range_of_injective hDown hFinite

end PathWalk

end IsaWorkspace
