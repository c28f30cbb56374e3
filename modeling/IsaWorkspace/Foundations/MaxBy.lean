import Mathlib.Data.List.Basic
import Mathlib.Order.Lattice

/-
  The greatest item of a list, by a partial comparison.

  The comparison may leave items unranked, as it does with
  floating-point numbers that are not numbers.  The search
  goes through the list and keeps the greater one of two
  items, the later one if they are equal.  It breaks off, a
  panic of the source, at two items that do not compare.

  Main declarations:
    * `IsRanking`, `IsRanking.of_rank`
    * `partialCmp`, `maxBy`
    * `IsMax`, `IsMax.le_of_mem`
    * `Outranks`, `isMax_iff_not_outranked`
    * `maxBy_eq_some_iff`
    * `exists_isMax`, `exists_isMax_of_covered`
-/

------------------------------------------------------------
-- The Search
------------------------------------------------------------

namespace IsaWorkspace

variable {α β : Type}

/- An order of the items that compare with themselves. -/
structure IsRanking
    (le : α → α → Bool) : Prop where
  trans :
    ∀ {first second third},
      le first second = true → le second third = true →
        le first third = true
  total :
    ∀ {first second},
      le first first = true → le second second = true →
        le first second = true ∨ le second first = true
  left :
    ∀ {first second},
      le first second = true → le first first = true
  right :
    ∀ {first second},
      le first second = true → le second second = true

/- How two items compare, if they do. -/
def partialCmp
    (le : α → α → Bool)
    (first second : α) : Option Ordering :=
  if le first second then
    if le second first then some .eq else some .lt
  else if le second first then
    some .gt
  else
    none

/- The greater one of two items, else the later one. -/
def better
    (compare : α → α → Option Ordering)
    (best next : α) : Option α :=
  (compare best next).map fun order =>
    if order = .gt then best else next

/- The greatest item of a list; `none` is a panic. -/
def maxBy
    (compare : α → α → Option Ordering) :
    List α → Option (Option α)
| [] => some none
| first :: rest =>
    (rest.foldlM (better compare) first).map some

/-
  An item of the list that all earlier ones are below, or
  equal to, and that all later ones are strictly below.
-/
def IsMax
    (le : α → α → Bool)
    (items : List α)
    (item : α) : Prop :=
  ∃ before after,
    items = before ++ item :: after ∧
      (∀ other ∈ before, le other item = true) ∧
        ∀ other ∈ after,
          le other item = true ∧ le item other = false

/- A ranking of what items are mapped to ranks the items. -/
theorem IsRanking.comap
    {le : β → β → Bool}
    (hRanking : IsRanking le)
    (score : α → β) :
    IsRanking fun first second =>
      le (score first) (score second) where
  trans := hRanking.trans
  total := hRanking.total
  left := hRanking.left
  right := hRanking.right

/-
  Items that have a rank compare as their ranks do, and the
  others do not compare.
-/
theorem IsRanking.of_rank
    {K : Type}
    [LinearOrder K]
    {le : α → α → Bool}
    (rank : α → Option K)
    (hRank :
      ∀ first second,
        le first second = true ↔
          ∃ low high, rank first = some low ∧
            rank second = some high ∧ low ≤ high) :
    IsRanking le where
  trans := by
    intro first second third hLeft hRight
    rcases (hRank _ _).mp hLeft with
      ⟨low, middle, hLow, hMiddle, hLess⟩
    rcases (hRank _ _).mp hRight with
      ⟨middle', high, hMiddle', hHigh, hMore⟩
    rw [hMiddle] at hMiddle'
    cases hMiddle'
    exact
      (hRank _ _).mpr
        ⟨low, high, hLow, hHigh, le_trans hLess hMore⟩
  total := by
    intro first second hFirst hSecond
    rcases (hRank _ _).mp hFirst with ⟨one, _, hOne, _⟩
    rcases (hRank _ _).mp hSecond with ⟨two, _, hTwo, _⟩
    rcases le_total one two with hUp | hDown
    · exact
        Or.inl ((hRank _ _).mpr ⟨one, two, hOne, hTwo, hUp⟩)
    · exact
        Or.inr
          ((hRank _ _).mpr ⟨two, one, hTwo, hOne, hDown⟩)
  left := by
    intro first second hLe
    rcases (hRank _ _).mp hLe with ⟨low, _, hLow, _⟩
    exact (hRank _ _).mpr ⟨low, low, hLow, hLow, le_rfl⟩
  right := by
    intro first second hLe
    rcases (hRank _ _).mp hLe with ⟨_, high, _, hHigh, _⟩
    exact (hRank _ _).mpr ⟨high, high, hHigh, hHigh, le_rfl⟩

------------------------------------------------------------
-- What Is Found
------------------------------------------------------------

variable {le : α → α → Bool}
variable {items rest : List α} {best next item : α}

theorem IsMax.mem
    (hMax : IsMax le items item) :
    item ∈ items := by
  rcases hMax with ⟨before, after, rfl, _⟩
  exact List.mem_append_right before List.mem_cons_self

/- The greatest of the items is the first, or a later one. -/
theorem isMax_cons_iff :
    IsMax le (best :: rest) item ↔
      (item = best ∧
          ∀ other ∈ rest,
            le other best = true ∧ le best other = false) ∨
        (le best item = true ∧ IsMax le rest item) := by
  constructor
  · rintro ⟨before, after, hItems, hBefore, hAfter⟩
    cases before with
    | nil =>
        cases hItems
        exact Or.inl ⟨rfl, hAfter⟩
    | cons first before =>
        cases hItems
        exact
          Or.inr
            ⟨hBefore _ List.mem_cons_self, before, after, rfl,
              fun other hOther =>
                hBefore other (List.mem_cons_of_mem _ hOther),
              hAfter⟩
  · rintro
      (⟨rfl, hAfter⟩ |
        ⟨hBest, before, after, rfl, hBefore, hAfter⟩)
    · exact
        ⟨[], rest, rfl, List.forall_mem_nil _, hAfter⟩
    · exact
        ⟨best :: before, after, rfl,
          List.forall_mem_cons.mpr ⟨hBest, hBefore⟩, hAfter⟩

instance decidableIsMax
    [DecidableEq α] :
    (items : List α) → Decidable (IsMax le items item)
| [] =>
    isFalse fun hMax => nomatch hMax.mem
| _ :: rest =>
    have := decidableIsMax rest
    decidable_of_iff _ isMax_cons_iff.symm

/- The other items are below the greatest one. -/
theorem IsMax.le_of_mem
    (hMax : IsMax le items item)
    {other : α}
    (hOther : other ∈ items)
    (hNe : other ≠ item) :
    le other item = true := by
  rcases hMax with ⟨before, after, rfl, hBefore, hAfter⟩
  rcases List.mem_append.mp hOther with hEarlier | hLater
  · exact hBefore other hEarlier
  · rcases List.mem_cons.mp hLater with hSame | hLater
    · exact absurd hSame hNe
    · exact (hAfter other hLater).1

/-
  One item of the list keeps another from being the greatest:
  an earlier one that is not below or equal to it, or a later
  one that is not strictly below it.
-/
def Outranks
    (le : α → α → Bool)
    (items : List α)
    (other item : α) : Prop :=
  ∃ before after,
    items = before ++ item :: after ∧
      ((other ∈ before ∧ le other item = false) ∨
        (other ∈ after ∧
          (le other item = false ∨ le item other = true)))

/- The greatest item is the one that none outranks. -/
theorem isMax_iff_not_outranked
    (hNodup : items.Nodup) :
    IsMax le items item ↔
      item ∈ items ∧
        ∀ other, ¬ Outranks le items other item := by
  constructor
  · intro hMax
    refine ⟨hMax.mem, ?_⟩
    rcases hMax with ⟨before, after, rfl, hBefore, hAfter⟩
    rintro other ⟨before', after', hSame, hOutranks⟩
    rcases List.nodup_append.mp hNodup with
      ⟨_, hTail, hApart⟩
    have hNotBefore : item ∉ before := fun hItem =>
      hApart item hItem item List.mem_cons_self rfl
    have hNotAfter : item ∉ after :=
      (List.nodup_cons.mp hTail).1
    rcases (List.append_cons_inj_of_notMem hNotBefore
        hNotAfter).mp hSame with
      ⟨rfl, _, rfl⟩
    rcases hOutranks with
      ⟨hOther, hNot⟩ | ⟨hOther, hNot | hEqual⟩
    · rw [hBefore other hOther] at hNot
      cases hNot
    · rw [(hAfter other hOther).1] at hNot
      cases hNot
    · rw [(hAfter other hOther).2] at hEqual
      cases hEqual
  · rintro ⟨hItem, hNone⟩
    rcases List.append_of_mem hItem with
      ⟨before, after, hItems⟩
    refine ⟨before, after, hItems, ?_, ?_⟩
    · intro other hOther
      by_contra hNot
      rw [Bool.not_eq_true] at hNot
      exact
        hNone other
          ⟨before, after, hItems, Or.inl ⟨hOther, hNot⟩⟩
    · intro other hOther
      refine ⟨?_, ?_⟩
      · by_contra hNot
        rw [Bool.not_eq_true] at hNot
        exact
          hNone other
            ⟨before, after, hItems,
              Or.inr ⟨hOther, Or.inl hNot⟩⟩
      · by_contra hEqual
        rw [Bool.not_eq_false] at hEqual
        exact
          hNone other
            ⟨before, after, hItems,
              Or.inr ⟨hOther, Or.inr hEqual⟩⟩

/- An item that is beaten by the next one is passed over. -/
theorem isMax_cons_cons_of_le
    (hRanking : IsRanking le)
    (hLe : le best next = true) :
    IsMax le (best :: next :: rest) item ↔
      IsMax le (next :: rest) item := by
  rw [isMax_cons_iff]
  constructor
  · rintro (⟨rfl, hLater⟩ | ⟨_, hMax⟩)
    · rw [(hLater next List.mem_cons_self).2] at hLe
      cases hLe
    · exact hMax
  · intro hMax
    refine Or.inr ⟨?_, hMax⟩
    rcases isMax_cons_iff.mp hMax with ⟨rfl, _⟩ | ⟨hNext, _⟩
    · exact hLe
    · exact hRanking.trans hLe hNext

/- An item that beats the next one is kept instead of it. -/
theorem isMax_cons_cons_of_lt
    (hRanking : IsRanking le)
    (hLe : le next best = true)
    (hLt : le best next = false) :
    IsMax le (best :: next :: rest) item ↔
      IsMax le (best :: rest) item := by
  refine isMax_cons_iff.trans (Iff.trans ?_ isMax_cons_iff.symm)
  constructor
  · rintro (⟨rfl, hLater⟩ | ⟨hBest, hMax⟩)
    · exact
        Or.inl
          ⟨rfl, fun other hOther =>
            hLater other (List.mem_cons_of_mem _ hOther)⟩
    · rcases isMax_cons_iff.mp hMax with
        ⟨rfl, _⟩ | ⟨_, hRest⟩
      · rw [hLt] at hBest
        cases hBest
      · exact Or.inr ⟨hBest, hRest⟩
  · rintro (⟨rfl, hLater⟩ | ⟨hBest, hMax⟩)
    · exact
        Or.inl
          ⟨rfl,
            List.forall_mem_cons.mpr ⟨⟨hLe, hLt⟩, hLater⟩⟩
    · exact
        Or.inr
          ⟨hBest,
            isMax_cons_iff.mpr
              (Or.inr ⟨hRanking.trans hLe hBest, hMax⟩)⟩

/- Items that do not compare have no greatest one. -/
theorem not_isMax_cons_cons
    (hRanking : IsRanking le)
    (hBest : le best next = false)
    (hNext : le next best = false) :
    ¬ IsMax le (best :: next :: rest) item := by
  intro hMax
  rcases isMax_cons_iff.mp hMax with
    ⟨rfl, hLater⟩ | ⟨hBestItem, hRest⟩
  · rw [(hLater next List.mem_cons_self).1] at hNext
    cases hNext
  · rcases isMax_cons_iff.mp hRest with
      ⟨rfl, _⟩ | ⟨hNextItem, _⟩
    · rw [hBestItem] at hBest
      cases hBest
    · rcases
          hRanking.total (hRanking.left hBestItem)
            (hRanking.left hNextItem) with
        hLe | hLe
      · rw [hBest] at hLe
        cases hLe
      · rw [hNext] at hLe
        cases hLe

/- The search of a list that has been entered. -/
theorem foldlM_better_iff
    (hRanking : IsRanking le) :
    rest.foldlM (better (partialCmp le)) best = some item ↔
      IsMax le (best :: rest) item := by
  induction rest generalizing best with
  | nil =>
      rw [isMax_cons_iff]
      constructor
      · intro hFound
        cases hFound
        exact Or.inl ⟨rfl, List.forall_mem_nil _⟩
      · rintro (⟨rfl, _⟩ | ⟨_, _, _, hNil, _⟩)
        · rfl
        · cases List.append_eq_nil_iff.mp hNil.symm |>.2
  | cons next rest ih =>
      rw [List.foldlM_cons]
      cases hBest : le best next with
      | true =>
          have hBetter :
              better (partialCmp le) best next =
                some next := by
            unfold better partialCmp
            rw [hBest]
            cases le next best <;> rfl
          rw [hBetter, isMax_cons_cons_of_le hRanking hBest]
          exact ih
      | false =>
          cases hNext : le next best with
          | true =>
              have hBetter :
                  better (partialCmp le) best next =
                    some best := by
                unfold better partialCmp
                rw [hBest, hNext]
                rfl
              rw [hBetter,
                isMax_cons_cons_of_lt hRanking hNext hBest]
              exact ih
          | false =>
              have hBetter :
                  better (partialCmp le) best next = none := by
                unfold better partialCmp
                rw [hBest, hNext]
                rfl
              rw [hBetter]
              exact
                iff_of_false nofun
                  (not_isMax_cons_cons hRanking hBest hNext)

theorem maxBy_cons
    (compare : α → α → Option Ordering)
    (first : α)
    (rest : List α) :
    maxBy compare (first :: rest) =
      (rest.foldlM (better compare) first).map some := rfl

/- What is found is the greatest item. -/
theorem maxBy_eq_some_iff
    (hRanking : IsRanking le) :
    maxBy (partialCmp le) items = some (some item) ↔
      IsMax le items item := by
  cases items with
  | nil =>
      refine iff_of_false nofun ?_
      rintro ⟨before, after, hNil, _⟩
      cases (List.append_eq_nil_iff.mp hNil.symm).2
  | cons first rest =>
      rw [← foldlM_better_iff hRanking, maxBy_cons]
      generalize
        rest.foldlM (better (partialCmp le)) first = found
      cases found with
      | none =>
          constructor
          · intro hFound
            cases hFound
          · intro hFound
            cases hFound
      | some found =>
          rw [Option.map_some, Option.some.injEq]

/- Items that compare with each other have a greatest one. -/
theorem exists_isMax
    (hRanking : IsRanking le)
    (hRanked : ∀ other ∈ best :: rest, le other other = true) :
    ∃ item, IsMax le (best :: rest) item := by
  induction rest generalizing best with
  | nil =>
      exact
        ⟨best, [], [], rfl, List.forall_mem_nil _,
          List.forall_mem_nil _⟩
  | cons next rest ih =>
      rcases List.forall_mem_cons.mp hRanked with
        ⟨hBest, hOthers⟩
      cases hLe : le best next with
      | true =>
          rcases ih hOthers with ⟨item, hItem⟩
          exact
            ⟨item,
              (isMax_cons_cons_of_le hRanking hLe).mpr hItem⟩
      | false =>
          rcases List.forall_mem_cons.mp hOthers with
            ⟨hNext, hRest⟩
          have hGe : le next best = true := by
            rcases hRanking.total hBest hNext with hUp | hDown
            · rw [hLe] at hUp
              cases hUp
            · exact hDown
          rcases
              ih (List.forall_mem_cons.mpr ⟨hBest, hRest⟩)
            with ⟨item, hItem⟩
          exact
            ⟨item,
              (isMax_cons_cons_of_lt hRanking hGe
                hLe).mpr hItem⟩

/-
  Items without repetition have a greatest one if each is
  the greatest of a list that has all of them.
-/
theorem exists_isMax_of_covered
    (hRanking : IsRanking le)
    (hItems : items ≠ [])
    (hNodup : items.Nodup)
    (hCovered :
      ∀ item ∈ items, ∃ others,
        IsMax le others item ∧ items ⊆ others) :
    ∃ found, IsMax le items found := by
  cases items with
  | nil => exact absurd rfl hItems
  | cons first rest =>
      cases rest with
      | nil =>
          -- one item alone need not compare with itself
          exact
            ⟨first, [], [], rfl, List.forall_mem_nil _,
              List.forall_mem_nil _⟩
      | cons second rest =>
          apply exists_isMax hRanking
          intro item hItem
          have hTwo : first ≠ second := by
            rintro rfl
            exact
              (List.nodup_cons.mp hNodup).1
                List.mem_cons_self
          rcases hCovered item hItem with
            ⟨others, hMax, hSubset⟩
          have hFirst := hSubset List.mem_cons_self
          have hSecond :=
            hSubset
              (List.mem_cons_of_mem _ List.mem_cons_self)
          by_cases hSame : first = item
          · exact
              hRanking.right
                (hMax.le_of_mem hSecond
                  (hSame ▸ hTwo.symm))
          · exact
              hRanking.right (hMax.le_of_mem hFirst hSame)

end IsaWorkspace
