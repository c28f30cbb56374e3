import Mathlib.Data.List.Basic
import Mathlib.Data.List.Forall2

/-
  Reading from a stream that arrives in chunks.

  A stream is the list of its chunks.  One read returns the
  first chunk, or as much of it as was asked for.  Reading
  on until a number of items have come depends only on the
  items of the stream, not on its chunks.  One list can be
  cut into chunks in many ways, but in one way only for what
  its chunks are to come to.

  Main declarations:
    * `Chunks.read`, `Chunks.readAll`
    * `Chunks.read_cons`, `Chunks.flatten_of_read`
    * `Chunks.forall_ne_nil_of_read`, `Chunks.readAll_eq`
    * `Chunks.readAll_spec`
    * `Chunks.IsBoundary`, `Chunks.Leaves`
    * `Chunks.leaves_readAll`
    * `Chunks.eq_of_flatMap_eq`, `Chunks.eq_of_fronts`
    * `Chunks.forall_mem_iff_of_forall₂`
    * `Chunks.isChain_iff_of_forall₂`
    * `Chunks.forall_mem_of_forall₂`
    * `Chunks.isChain_of_forall₂`
-/

------------------------------------------------------------
-- Reads
------------------------------------------------------------

namespace IsaWorkspace

namespace Chunks

variable {α : Type}

/- One read; at the end of the stream there is nothing. -/
def read
    (capacity : Nat) :
    List (List α) → Option (List α × List (List α))
| [] => none
| chunk :: rest =>
    if chunk.length ≤ capacity then
      some (chunk, rest)
    else
      some (chunk.take capacity, chunk.drop capacity :: rest)

/-
  Reads until a number of items have come.  Where the stream
  ends before, there is no result.
-/
def readAll :
    List (List α) → Nat → Option (List α) × List (List α)
| chunks, 0 => (some [], chunks)
| [], _ + 1 => (none, [])
| chunk :: rest, missing + 1 =>
    if chunk.length ≤ missing + 1 then
      let others := readAll rest (missing + 1 - chunk.length)
      (others.1.map (chunk ++ ·), others.2)
    else
      (some (chunk.take (missing + 1)),
        chunk.drop (missing + 1) :: rest)

/- A read takes from the first chunk. -/
theorem read_cons
    (capacity : Nat)
    (chunk : List α)
    (others : List (List α)) :
    ∃ rest,
      read capacity (chunk :: others) =
          some (chunk.take capacity, rest) ∧
        rest.flatten =
          chunk.drop capacity ++ others.flatten := by
  by_cases hFits : chunk.length ≤ capacity
  · refine ⟨others, ?_, ?_⟩
    · rw [read, if_pos hFits, List.take_of_length_le hFits]
    · rw [List.drop_of_length_le hFits, List.nil_append]
  · refine ⟨chunk.drop capacity :: others, ?_, ?_⟩
    · rw [read, if_neg hFits]
    · rw [List.flatten_cons]

/- What a read returns comes off the front. -/
theorem flatten_of_read
    {capacity : Nat}
    {chunks rest : List (List α)}
    {piece : List α}
    (hRead : read capacity chunks = some (piece, rest)) :
    chunks.flatten = piece ++ rest.flatten := by
  cases chunks with
  | nil => cases hRead
  | cons chunk others =>
      rcases read_cons capacity chunk others with
        ⟨left, hTaken, hLeft⟩
      rw [hTaken] at hRead
      cases hRead
      rw [hLeft, ← List.append_assoc,
        List.take_append_drop, List.flatten_cons]

/- Where no chunk is empty, none is after a read. -/
theorem forall_ne_nil_of_read
    {capacity : Nat}
    {chunks rest : List (List α)}
    {piece : List α}
    (hChunks : ∀ chunk ∈ chunks, chunk ≠ [])
    (hRead : read capacity chunks = some (piece, rest)) :
    ∀ chunk ∈ rest, chunk ≠ [] := by
  cases chunks with
  | nil => cases hRead
  | cons first others =>
      have hOthers : ∀ chunk ∈ others, chunk ≠ [] :=
        fun chunk hChunk =>
          hChunks chunk (List.mem_cons_of_mem _ hChunk)
      rw [read] at hRead
      split at hRead
      · cases hRead
        exact hOthers
      · rename_i hLong
        cases hRead
        intro chunk hChunk
        rcases List.mem_cons.mp hChunk with rfl | hRest
        · intro hNil
          exact hLong (List.drop_eq_nil_iff.mp hNil)
        · exact hOthers chunk hRest

/- A read returns at most what was asked for. -/
theorem read_length_le
    {capacity : Nat}
    {chunks rest : List (List α)}
    {piece : List α}
    (hRead : read capacity chunks = some (piece, rest)) :
    piece.length ≤ capacity := by
  cases chunks with
  | nil => cases hRead
  | cons chunk others =>
      rcases read_cons capacity chunk others with
        ⟨left, hTaken, _⟩
      rw [hTaken] at hRead
      cases hRead
      rw [List.length_take]
      exact Nat.min_le_left _ _

@[simp] theorem readAll_zero
    (chunks : List (List α)) :
    readAll chunks 0 = (some [], chunks) := by
  unfold readAll
  rfl

/-
  While items are missing, the next read asks for all of
  them, and the others are read after it.
-/
theorem readAll_eq
    (chunks : List (List α))
    {missing : Nat}
    (hMissing : 0 < missing) :
    readAll chunks missing =
      match read missing chunks with
      | none => (none, chunks)
      | some (piece, rest) =>
          let others := readAll rest (missing - piece.length)
          (others.1.map (piece ++ ·), others.2) := by
  cases missing with
  | zero => exact absurd hMissing (Nat.lt_irrefl 0)
  | succ missing =>
      cases chunks with
      | nil => rfl
      | cons chunk rest =>
          rw [readAll, read]
          by_cases hFits : chunk.length ≤ missing + 1
          · rw [if_pos hFits, if_pos hFits]
          · have hLength :
                (chunk.take (missing + 1)).length =
                  missing + 1 :=
              List.length_take_of_le
                (Nat.le_of_not_le hFits)
            rw [if_neg hFits, if_neg hFits]
            dsimp only
            rw [hLength, Nat.sub_self, readAll_zero,
              Option.map_some, List.append_nil]

/-
  A stream that holds the items gives them, in whatever
  chunks they come, and keeps the ones after them.
-/
theorem readAll_spec
    (chunks : List (List α))
    {missing : Nat}
    (hEnough : missing ≤ chunks.flatten.length) :
    ∃ rest,
      readAll chunks missing =
          (some (chunks.flatten.take missing), rest) ∧
        rest.flatten = chunks.flatten.drop missing := by
  induction chunks generalizing missing with
  | nil =>
      have hNone : missing = 0 :=
        Nat.le_zero.mp hEnough
      subst hNone
      exact ⟨[], rfl, rfl⟩
  | cons chunk others ih =>
      cases missing with
      | zero =>
          refine ⟨chunk :: others, ?_, ?_⟩
          · rw [readAll_zero, List.take_zero]
          · rw [List.drop_zero]
      | succ missing =>
          rw [List.flatten_cons, List.length_append]
            at hEnough
          rw [List.flatten_cons, readAll]
          by_cases hFits : chunk.length ≤ missing + 1
          · have hOthers :
                missing + 1 - chunk.length ≤
                  others.flatten.length := by
              omega
            rcases ih hOthers with ⟨rest, hRead, hRest⟩
            refine ⟨rest, ?_, ?_⟩
            · rw [if_pos hFits, hRead, List.take_append,
                List.take_of_length_le hFits]
              rfl
            · rw [hRest, List.drop_append,
                List.drop_of_length_le hFits,
                List.nil_append]
          · have hPart : missing + 1 ≤ chunk.length :=
              Nat.le_of_not_le hFits
            refine ⟨chunk.drop (missing + 1) :: others,
              ?_, ?_⟩
            · rw [if_neg hFits,
                List.take_append_of_le_length hPart]
            · rw [List.flatten_cons,
                List.drop_append_of_le_length hPart]

/- What was read on for is as long as was asked. -/
theorem length_of_readAll
    {chunks rest : List (List α)}
    {missing : Nat}
    {items : List α}
    (hRead : readAll chunks missing = (some items, rest)) :
    items.length = missing := by
  induction chunks generalizing missing items rest with
  | nil =>
      cases missing with
      | zero =>
          cases hRead
          rfl
      | succ missing => cases hRead
  | cons chunk others ih =>
      cases missing with
      | zero =>
          cases hRead
          rfl
      | succ missing =>
          rw [readAll] at hRead
          by_cases hFits : chunk.length ≤ missing + 1
          · rw [if_pos hFits] at hRead
            rcases Prod.mk.inj hRead with ⟨hItems, _⟩
            rcases Option.map_eq_some_iff.mp hItems with
              ⟨tail, hTail, rfl⟩
            have hLength :=
              ih (Prod.ext hTail rfl :
                readAll others (missing + 1 - chunk.length) =
                  (some tail, _))
            rw [List.length_append, hLength]
            omega
          · rw [if_neg hFits] at hRead
            cases hRead
            exact
              List.length_take_of_le (Nat.le_of_not_le hFits)

------------------------------------------------------------
-- Boundaries
------------------------------------------------------------

/- A chunk ends, or the stream begins, at a position. -/
def IsBoundary
    (chunks : List (List α))
    (position : Nat) : Prop :=
  ∃ before, before <+: chunks ∧
    before.flatten.length = position

theorem isBoundary_cons
    {chunk : List α}
    {rest : List (List α)}
    {position : Nat} :
    IsBoundary (chunk :: rest) position ↔
      position = 0 ∨
        ∃ later, IsBoundary rest later ∧
          position = chunk.length + later := by
  constructor
  · rintro ⟨before, hPrefix, rfl⟩
    cases before with
    | nil => exact Or.inl rfl
    | cons first before =>
        rcases List.cons_prefix_cons.mp hPrefix with
          ⟨rfl, hBefore⟩
        right
        refine
          ⟨before.flatten.length, ⟨before, hBefore, rfl⟩,
            ?_⟩
        rw [List.flatten_cons, List.length_append]
  · rintro (rfl | ⟨later, ⟨before, hPrefix, rfl⟩, rfl⟩)
    · exact ⟨[], List.nil_prefix, rfl⟩
    · refine
        ⟨chunk :: before,
          List.cons_prefix_cons.mpr ⟨rfl, hPrefix⟩, ?_⟩
      rw [List.flatten_cons, List.length_append]

/-
  What is left of a stream after a number of items: its
  chunks are not empty, and its boundaries are those that
  come later, besides its start.
-/
structure Leaves
    (chunks : List (List α))
    (count : Nat)
    (rest : List (List α)) : Prop where
  nonempty : ∀ chunk ∈ rest, chunk ≠ []
  boundary :
    ∀ position,
      IsBoundary rest position ↔
        position = 0 ∨
          IsBoundary chunks (count + position)

/- Nothing is taken of a stream. -/
theorem Leaves.zero
    {chunks : List (List α)}
    (hNonempty : ∀ chunk ∈ chunks, chunk ≠ []) :
    Leaves chunks 0 chunks where
  nonempty := hNonempty
  boundary := by
    intro position
    rw [Nat.zero_add]
    constructor
    · exact Or.inr
    · rintro (rfl | hBoundary)
      · exact ⟨[], List.nil_prefix, rfl⟩
      · exact hBoundary

/- Taking some items, and then some more. -/
theorem Leaves.trans
    {chunks middle rest : List (List α)}
    {count others : Nat}
    (hFirst : Leaves chunks count middle)
    (hThen : Leaves middle others rest) :
    Leaves chunks (count + others) rest where
  nonempty := hThen.nonempty
  boundary := by
    intro position
    rw [hThen.boundary, hFirst.boundary, Nat.add_assoc]
    constructor
    · rintro (hStart | hStart | hBoundary)
      · exact Or.inl hStart
      · exact Or.inl (Nat.add_eq_zero_iff.mp hStart).2
      · exact Or.inr hBoundary
    · rintro (hStart | hBoundary)
      · exact Or.inl hStart
      · exact Or.inr (Or.inr hBoundary)

/- Taking the first chunk. -/
theorem leaves_cons
    {chunk : List α}
    {rest : List (List α)}
    (hNonempty : ∀ other ∈ rest, other ≠ []) :
    Leaves (chunk :: rest) chunk.length rest where
  nonempty := hNonempty
  boundary := by
    intro position
    rw [isBoundary_cons]
    constructor
    · intro hBoundary
      exact Or.inr (Or.inr ⟨position, hBoundary, rfl⟩)
    · rintro (rfl | hStart | ⟨later, hLater, hPosition⟩)
      · exact ⟨[], List.nil_prefix, rfl⟩
      · rw [(Nat.add_eq_zero_iff.mp hStart).2]
        exact ⟨[], List.nil_prefix, rfl⟩
      · rw [Nat.add_left_cancel hPosition]
        exact hLater

/- Taking a part of the first chunk. -/
theorem leaves_drop
    {chunk : List α}
    {rest : List (List α)}
    {count : Nat}
    (hNonempty : ∀ other ∈ rest, other ≠ [])
    (hPart : count < chunk.length) :
    Leaves (chunk :: rest) count
      (chunk.drop count :: rest) where
  nonempty := by
    intro other hOther
    rcases List.mem_cons.mp hOther with rfl | hRest
    · rw [List.ne_nil_iff_length_pos, List.length_drop]
      omega
    · exact hNonempty other hRest
  boundary := by
    intro position
    rw [isBoundary_cons, isBoundary_cons, List.length_drop]
    constructor
    · rintro (hStart | ⟨later, hLater, hPosition⟩)
      · exact Or.inl hStart
      · refine Or.inr (Or.inr ⟨later, hLater, ?_⟩)
        omega
    · rintro (hStart | hStart | ⟨later, hLater, hPosition⟩)
      · exact Or.inl hStart
      · exact Or.inl (Nat.add_eq_zero_iff.mp hStart).2
      · refine Or.inr ⟨later, hLater, ?_⟩
        omega

/- One read takes what it returns. -/
theorem leaves_read
    {capacity : Nat}
    {chunks rest : List (List α)}
    {piece : List α}
    (hNonempty : ∀ chunk ∈ chunks, chunk ≠ [])
    (hRead : read capacity chunks = some (piece, rest)) :
    Leaves chunks piece.length rest := by
  cases chunks with
  | nil => cases hRead
  | cons chunk others =>
      have hOthers : ∀ other ∈ others, other ≠ [] :=
        fun other hOther =>
          hNonempty other (List.mem_cons_of_mem _ hOther)
      rw [read] at hRead
      by_cases hFits : chunk.length ≤ capacity
      · rw [if_pos hFits] at hRead
        cases hRead
        exact leaves_cons hOthers
      · rw [if_neg hFits] at hRead
        cases hRead
        have hPart : capacity < chunk.length :=
          Nat.lt_of_not_le hFits
        rw [List.length_take_of_le (Nat.le_of_lt hPart)]
        exact leaves_drop hOthers hPart

/- Reads until a number of items have come take so many. -/
theorem leaves_readAll
    {chunks rest : List (List α)}
    {missing : Nat}
    {items : List α}
    (hNonempty : ∀ chunk ∈ chunks, chunk ≠ [])
    (hRead : readAll chunks missing = (some items, rest)) :
    Leaves chunks missing rest := by
  induction chunks generalizing missing items rest with
  | nil =>
      cases missing with
      | zero =>
          rw [readAll_zero] at hRead
          cases hRead
          exact Leaves.zero hNonempty
      | succ missing => cases hRead
  | cons chunk others ih =>
      have hOthers : ∀ other ∈ others, other ≠ [] :=
        fun other hOther =>
          hNonempty other (List.mem_cons_of_mem _ hOther)
      cases missing with
      | zero =>
          rw [readAll_zero] at hRead
          cases hRead
          exact Leaves.zero hNonempty
      | succ missing =>
          rw [readAll] at hRead
          split at hRead
          · next hFits =>
              rcases hLater :
                  readAll others
                    (missing + 1 - chunk.length) with
                ⟨later, left⟩
              rw [hLater] at hRead
              cases later with
              | none => cases hRead
              | some found =>
                  cases hRead
                  have hTaken :=
                    (@leaves_cons α chunk others hOthers).trans
                      (ih hOthers hLater)
                  rw [Nat.add_sub_cancel' hFits] at hTaken
                  exact hTaken
          · next hLong =>
              cases hRead
              exact
                leaves_drop hOthers (Nat.lt_of_not_le hLong)

------------------------------------------------------------
-- Cutting a List
------------------------------------------------------------

/- Items that come to something do not come to nothing. -/
theorem eq_nil_of_flatMap
    {β : Type}
    {f : α → List β}
    {items : List α}
    (hSome : ∀ item ∈ items, f item ≠ [])
    (hNothing : items.flatMap f = []) :
    items = [] := by
  cases items with
  | nil => rfl
  | cons item rest =>
      rw [List.flatMap_cons] at hNothing
      exact
        absurd (List.append_eq_nil_iff.mp hNothing).1
          (hSome item List.mem_cons_self)

/-
  Two ways of cutting a list are one if their chunks come to
  the same, and every item comes to something.
-/
theorem eq_of_flatMap_eq
    {β : Type}
    {f : α → List β}
    {left right : List (List α)}
    (hSome : ∀ item ∈ left.flatten, f item ≠ [])
    (hFlatten : left.flatten = right.flatten)
    (hSame :
      left.map (List.flatMap f) =
        right.map (List.flatMap f)) :
    left = right := by
  induction left generalizing right with
  | nil => exact (List.map_eq_nil_iff.mp hSame.symm).symm
  | cons chunk rest ih =>
      cases right with
      | nil => cases hSame
      | cons other others =>
          rcases List.cons.inj hSame with ⟨hChunk, hRest⟩
          rw [List.flatten_cons] at hSome
          rw [List.flatten_cons, List.flatten_cons]
            at hFlatten
          -- What one of the chunks has more is nothing.
          have hEqual : chunk = other := by
            rcases List.append_eq_append_iff.mp hFlatten with
              ⟨more, rfl, hLater⟩ | ⟨more, rfl, _⟩
            · rw [List.flatMap_append,
                List.self_eq_append_right] at hChunk
              rw [eq_nil_of_flatMap ?_ hChunk,
                List.append_nil]
              intro item hItem
              apply hSome
              rw [hLater]
              exact
                List.mem_append_right _
                  (List.mem_append_left _ hItem)
            · rw [List.flatMap_append,
                List.append_right_eq_self] at hChunk
              rw [eq_nil_of_flatMap ?_ hChunk,
                List.append_nil]
              intro item hItem
              exact
                hSome item
                  (List.mem_append_left _
                    (List.mem_append_right _ hItem))
          subst hEqual
          have hTail :=
            ih
              (fun item hItem =>
                hSome item (List.mem_append_right _ hItem))
              (List.append_cancel_left hFlatten) hRest
          rw [hTail]

/- Fronts that come to as much as the wholes are those. -/
theorem eq_of_fronts
    {fronts wholes : List (List α)}
    (hFronts : List.Forall₂ (· <+: ·) fronts wholes)
    (hLength :
      wholes.flatten.length ≤ fronts.flatten.length) :
    fronts = wholes := by
  have hShorter :
      ∀ {others theirs : List (List α)},
        List.Forall₂ (· <+: ·) others theirs →
          others.flatten.length ≤ theirs.flatten.length := by
    intro others theirs hOthers
    induction hOthers with
    | nil => exact Nat.le_refl _
    | cons hFront _ ih =>
        rw [List.flatten_cons, List.flatten_cons,
          List.length_append, List.length_append]
        exact Nat.add_le_add hFront.length_le ih
  induction hFronts with
  | nil => rfl
  | @cons front whole rest others hFront hRest ih =>
      rw [List.flatten_cons, List.flatten_cons,
        List.length_append, List.length_append] at hLength
      have hHead := hFront.length_le
      have hTail := hShorter hRest
      rw [hFront.eq_of_length (by omega), ih (by omega)]

/- Lists side by side have properties that go together. -/
theorem forall_mem_iff_of_forall₂
    {β : Type}
    {R : α → β → Prop}
    {P : α → Prop}
    {Q : β → Prop}
    {items : List α}
    {others : List β}
    (hSide : List.Forall₂ R items others)
    (hIff : ∀ item other, R item other → (P item ↔ Q other)) :
    (∀ item ∈ items, P item) ↔ ∀ other ∈ others, Q other := by
  induction hSide with
  | nil => exact iff_of_true nofun nofun
  | cons hHead _ ih =>
      rw [List.forall_mem_cons, List.forall_mem_cons,
        hIff _ _ hHead, ih]

/- So do relations between neighbours. -/
theorem isChain_iff_of_forall₂
    {β : Type}
    {R : α → β → Prop}
    {S : α → α → Prop}
    {T : β → β → Prop}
    {items : List α}
    {others : List β}
    (hSide : List.Forall₂ R items others)
    (hIff :
      ∀ item other next following,
        R item other → R next following →
          (S item next ↔ T other following)) :
    items.IsChain S ↔ others.IsChain T := by
  induction hSide with
  | nil => exact iff_of_true .nil .nil
  | cons hHead hRest ih =>
      cases hRest with
      | nil => exact iff_of_true (.singleton _) (.singleton _)
      | cons hNext _ =>
          rw [List.isChain_cons_cons, List.isChain_cons_cons,
            hIff _ _ _ _ hHead hNext, ih]

/- A property that one list gives to the other. -/
theorem forall_mem_of_forall₂
    {β : Type}
    {R : α → β → Prop}
    {Q : β → Prop}
    {items : List α}
    {others : List β}
    (hSide : List.Forall₂ R items others)
    (hGives : ∀ item other, R item other → Q other) :
    ∀ other ∈ others, Q other :=
  (forall_mem_iff_of_forall₂ hSide fun item other hSame =>
    iff_of_true trivial (hGives item other hSame)).mp
    fun _ _ => True.intro

/- A relation between neighbours that one list gives. -/
theorem isChain_of_forall₂
    {β : Type}
    {R : α → β → Prop}
    {T : β → β → Prop}
    {items : List α}
    {others : List β}
    (hSide : List.Forall₂ R items others)
    (hGives :
      ∀ item other next following,
        R item other → R next following →
          T other following) :
    others.IsChain T := by
  have hTrue : items.IsChain fun _ _ => True :=
    List.isChain_iff_getElem.mpr fun _ _ => trivial
  refine (isChain_iff_of_forall₂ hSide ?_).mp hTrue
  intro item other next following hFirst hSecond
  exact
    iff_of_true trivial
      (hGives item other next following hFirst hSecond)

end Chunks

end IsaWorkspace
