import IsaWorkspace.Search.Index
import IsaWorkspace.Foundations.Paging

/-
  When a search returns.

  A page of results is cut out of all matching entries by
  32-bit arithmetic on what the client asks for.  A search
  returns in every build exactly if that arithmetic fits and
  the page starts within the matches.

  Main declarations:
    * `StateSearchIndex.Selects`, `selected`
    * `SearchQuery.InRange`
    * `StateSearchIndex.ReturnsNormally`
    * `StateSearchIndex.returnsNormally_iff`
-/

------------------------------------------------------------
-- Matching Entries
------------------------------------------------------------

namespace IsaWorkspace

namespace StateSearchIndex

variable [Unicode]

/- An entry passes all filters of a query. -/
structure Selects
    (index : StateSearchIndex)
    (query : SearchQuery)
    (entry : StateIndexEntry) : Prop where
  text :
    ∀ text ∈ query.query,
      ∃ word ∈ tokenize text, word ∈ tokenize entry.label
  tags :
    ∀ tags ∈ query.tags, ∀ tag ∈ tags,
      tag ∈ entry.tags ∨
        entry.stateId ∈ InvertedIndex.ids index.tagIndex tag
  after :
    ∀ after ∈ query.createdAfter, after ≤ entry.createdAt
  before :
    ∀ before ∈ query.createdBefore,
      entry.createdAt ≤ before

instance
    (index : StateSearchIndex)
    (query : SearchQuery)
    (entry : StateIndexEntry) :
    Decidable (index.Selects query entry) :=
  decidable_of_iff
    ((∀ text ∈ query.query,
        ∃ word ∈ tokenize text,
          word ∈ tokenize entry.label) ∧
      (∀ tags ∈ query.tags, ∀ tag ∈ tags,
        tag ∈ entry.tags ∨
          entry.stateId ∈
            InvertedIndex.ids index.tagIndex tag) ∧
      (∀ after ∈ query.createdAfter,
        after ≤ entry.createdAt) ∧
      ∀ before ∈ query.createdBefore,
        entry.createdAt ≤ before)
    ⟨fun ⟨hText, hTags, hAfter, hBefore⟩ =>
        ⟨hText, hTags, hAfter, hBefore⟩,
      fun hSelects =>
        ⟨hSelects.text, hSelects.tags, hSelects.after,
          hSelects.before⟩⟩

/- The entries that pass, in the order of the visit. -/
def selected
    (index : StateSearchIndex)
    (order : HashMap.Iteration index.entries)
    (query : SearchQuery) : List StateIndexEntry :=
  (order.entries.map (·.2)).filter fun entry =>
    decide (index.Selects query entry)

variable {index : StateSearchIndex}
variable {order : HashMap.Iteration index.entries}
variable {query : SearchQuery}

/- The filters, one after the other, leave these. -/
theorem filtered_eq_selected :
    dateMatches query
        (index.tagMatches query
          (textMatches query (order.entries.map (·.2)))) =
      index.selected order query := by
  have hText :
      textMatches query (order.entries.map (·.2)) =
        (order.entries.map (·.2)).filter fun entry =>
          decide
            (∀ text ∈ query.query,
              ∃ word ∈ tokenize text,
                word ∈ tokenize entry.label) := by
    unfold textMatches
    cases query.query with
    | none => simp
    | some text => simp [List.any_eq]
  have hTags :
      ∀ entries : List StateIndexEntry,
        index.tagMatches query entries =
          entries.filter fun entry =>
            decide
              (∀ tags ∈ query.tags, ∀ tag ∈ tags,
                tag ∈ entry.tags ∨
                  entry.stateId ∈
                    InvertedIndex.ids index.tagIndex
                      tag) := by
    intro entries
    unfold tagMatches
    cases query.tags with
    | none => simp
    | some tags => simp [List.all_eq]
  unfold dateMatches selected
  rw [hText, hTags, List.filter_filter, List.filter_filter]
  apply List.filter_congr
  intro entry _
  rw [Bool.eq_iff_iff]
  simp only [Bool.and_eq_true, decide_eq_true_eq,
    Option.all_eq_true]
  constructor
  · rintro ⟨⟨⟨hAfter, hBefore⟩, hTag⟩, hWord⟩
    exact ⟨hWord, hTag, hAfter, hBefore⟩
  · intro hSelects
    exact
      ⟨⟨⟨hSelects.after, hSelects.before⟩, hSelects.tags⟩,
        hSelects.text⟩

/- All that pass match, in the order of the query. -/
theorem matching_perm :
    (index.matching order query).Perm
      (index.selected order query) := by
  unfold matching
  rw [filtered_eq_selected]
  exact List.mergeSort_perm _ _

theorem length_matching :
    (index.matching order query).length =
      (index.selected order query).length :=
  matching_perm.length_eq

end StateSearchIndex

------------------------------------------------------------
-- The Arithmetic of a Page
------------------------------------------------------------

/-
  A page has room for something, the sum and the product of
  its arithmetic fit 32 bits, and it starts within so many
  matches.
-/
structure SearchQuery.InRange
    (query : SearchQuery)
    (total : Nat) : Prop where
  size : 1 ≤ query.pageSize.toNat
  sum : total % 2 ^ 32 + query.pageSize.toNat < 2 ^ 32
  product :
    query.page.toNat * query.pageSize.toNat < 2 ^ 32
  start : query.page.toNat * query.pageSize.toNat ≤ total

namespace StateSearchIndex

/- What fits is computed in every build. -/
theorem checked32_of_fits
    [BuildProfile]
    {exact : Nat}
    (hFits : exact < 2 ^ 32) :
    checked32 exact = some (UInt32.ofNat exact) := by
  have hBounds : (0 : Int) ≤ exact ∧ (exact : Int) < 2 ^ 32 :=
    by omega
  have hValue :
      ((exact : Int) % 2 ^ 32).toNat = exact := by
    omega
  unfold checked32
  rw [if_pos (Or.inl hBounds), UInt32.ofInt, hValue]

/- A build that checks computes nothing else. -/
theorem of_checked32
    {exact : Int}
    {value : UInt32}
    (hValue :
      @checked32 ⟨true⟩ exact = some value) :
    0 ≤ exact ∧ exact < 2 ^ 32 ∧
      (value.toNat : Int) = exact := by
  unfold checked32 at hValue
  split at hValue
  · rename_i hEither
    rcases hEither with ⟨hLow, hHigh⟩ | hChecks
    · refine ⟨hLow, hHigh, ?_⟩
      rw [← Option.some.inj hValue, UInt32.ofInt,
        UInt32.toNat_ofNat']
      omega
    · cases hChecks
  · cases hValue

variable [Unicode]
variable {index : StateSearchIndex}
variable {order : HashMap.Iteration index.entries}
variable {query : SearchQuery}

/- A search is four steps, each of which may panic. -/
theorem search_eq
    [BuildProfile]
    (index : StateSearchIndex)
    (order : HashMap.Iteration index.entries)
    (query : SearchQuery) :
    index.search order query =
      (checked32
          (((index.selected order query).length % 2 ^ 32 +
              query.pageSize.toNat : Nat) : Int)).bind
        fun sum =>
      (checked32 ((sum.toNat : Int) - 1)).bind fun rounded =>
      if query.pageSize = 0 then
        none
      else
        (checked32
            ((query.page.toNat * query.pageSize.toNat :
              Nat) : Int)).bind fun first =>
        if (index.selected order query).length <
            first.toNat then
          none
        else
          some
            { total := (index.selected order query).length
              page := query.page
              pageSize := query.pageSize
              totalPages := rounded / query.pageSize
              results :=
                ((index.matching order query).drop
                    first.toNat).take
                  query.pageSize.toNat } := by
  have hTotal :
      (UInt32.ofNat
          (index.selected order query).length).toNat =
        (index.selected order query).length % 2 ^ 32 :=
    UInt32.toNat_ofNat'
  unfold search
  dsimp only
  rw [length_matching, hTotal, ← Int.natCast_add,
    ← Int.natCast_mul]
  refine congrArg _ ?_
  funext sum
  refine congrArg _ ?_
  funext rounded
  by_cases hZero : query.pageSize = 0
  · rw [if_pos hZero, if_pos hZero]
    rfl
  · rw [if_neg hZero, if_neg hZero]
    refine congrArg _ ?_
    funext first
    have hStop :
        min (first.toNat + query.pageSize.toNat)
              (index.selected order query).length <
            first.toNat ↔
          (index.selected order query).length <
            first.toNat := by
      omega
    by_cases hPast :
        (index.selected order query).length < first.toNat
    · rw [if_pos (hStop.mpr hPast), if_pos hPast]
      rfl
    · rw [if_neg (fun hLess => hPast (hStop.mp hLess)),
        if_neg hPast, ← length_matching,
        Paging.take_sub_min]
      rfl

/- The number of pages as the arithmetic has it. -/
def totalPagesOf
    (query : SearchQuery)
    (total : Nat) : UInt32 :=
  UInt32.ofNat
      (total % 2 ^ 32 + query.pageSize.toNat - 1) /
    query.pageSize

/- A page in range is returned in every build. -/
theorem search_of_inRange
    [BuildProfile]
    (hRange :
      query.InRange (index.selected order query).length) :
    index.search order query =
      some
        { total := (index.selected order query).length
          page := query.page
          pageSize := query.pageSize
          totalPages :=
            totalPagesOf query
              (index.selected order query).length
          results :=
            Paging.page query.pageSize.toNat
              (index.matching order query)
              query.page.toNat } := by
  rcases hRange with ⟨hSize, hSum, hProduct, hStart⟩
  have hNotZero : query.pageSize ≠ 0 := by
    intro hZero
    rw [hZero] at hSize
    exact absurd hSize (by decide)
  have hLess :
      (((index.selected order query).length % 2 ^ 32 +
              query.pageSize.toNat : Nat) : Int) - 1 =
        (((index.selected order query).length % 2 ^ 32 +
          query.pageSize.toNat - 1 : Nat) : Int) := by
    omega
  rw [search_eq, checked32_of_fits hSum, Option.bind_some,
    UInt32.toNat_ofNat_of_lt' hSum, hLess,
    checked32_of_fits (by omega), Option.bind_some,
    if_neg hNotZero, checked32_of_fits hProduct,
    Option.bind_some, UInt32.toNat_ofNat_of_lt' hProduct,
    if_neg (Nat.not_lt.mpr hStart)]
  rfl

/- A build that checks returns no other page. -/
theorem inRange_of_search
    {result : SearchResult}
    (hSearch :
      @search _ ⟨true⟩ index order query = some result) :
    query.InRange (index.selected order query).length := by
  rw [@search_eq _ ⟨true⟩] at hSearch
  rcases Option.bind_eq_some_iff.mp hSearch with
    ⟨sum, hSum, hRest⟩
  rcases Option.bind_eq_some_iff.mp hRest with
    ⟨rounded, hRounded, hPages⟩
  by_cases hZero : query.pageSize = 0
  · rw [if_pos hZero] at hPages
    cases hPages
  · rw [if_neg hZero] at hPages
    rcases Option.bind_eq_some_iff.mp hPages with
      ⟨first, hFirst, hResult⟩
    rcases of_checked32 hSum with ⟨_, hSumFits, _⟩
    rcases of_checked32 hFirst with
      ⟨_, hProductFits, hValue⟩
    have hSize : query.pageSize.toNat ≠ 0 := by
      intro hNone
      apply hZero
      exact UInt32.toNat_inj.mp hNone
    have hStart :
        ¬ (index.selected order query).length <
          first.toNat := by
      intro hPast
      rw [if_pos hPast] at hResult
      cases hResult
    constructor
    · omega
    · omega
    · omega
    · omega

------------------------------------------------------------
-- When a Search Returns
------------------------------------------------------------

/-
  In every build the search returns, and a page behind the
  last match is empty and tells the number of matches.
-/
structure ReturnsNormally
    (index : StateSearchIndex)
    (order : HashMap.Iteration index.entries)
    (query : SearchQuery) : Prop where
  returns :
    ∀ profile : BuildProfile, ∃ result,
      @search _ profile index order query = some result
  pastEnd :
    ∀ (profile : BuildProfile) result,
      @search _ profile index order query = some result →
        (index.selected order query).length ≤
            query.page.toNat * query.pageSize.toNat →
          result.results = [] ∧
            result.total =
              (index.selected order query).length

theorem returnsNormally_iff
    (index : StateSearchIndex)
    (order : HashMap.Iteration index.entries)
    (query : SearchQuery) :
    index.ReturnsNormally order query ↔
      query.InRange
        (index.selected order query).length := by
  constructor
  · intro hNormal
    rcases hNormal.returns ⟨true⟩ with ⟨result, hSearch⟩
    exact inRange_of_search hSearch
  · intro hRange
    constructor
    · intro profile
      exact ⟨_, search_of_inRange hRange⟩
    · intro profile result hSearch hPast
      rw [search_of_inRange hRange] at hSearch
      cases hSearch
      refine ⟨Paging.page_eq_nil ?_, rfl⟩
      rw [length_matching]
      exact hPast

end StateSearchIndex

------------------------------------------------------------
-- A Sample Query
------------------------------------------------------------

namespace PaginationSample

scoped instance : Unicode where
  toLowercase := fun text =>
    String.ofList (text.toList.map Char.toLower)
  isAlphanumeric := Char.isAlphanum

/- The second page, of twenty entries each. -/
def secondPage : SearchQuery :=
  { SearchQuery.default with page := 1 }

end PaginationSample

open PaginationSample in
/- The second page of an empty index is asked for. -/
theorem StateSearchIndex.returnsNormally_secondPage :
    ¬ new.ReturnsNormally HashMap.Iteration.empty
      secondPage := by
  intro hNormal
  rcases hNormal.returns ⟨true⟩ with ⟨result, hSearch⟩
  have hRange := inRange_of_search hSearch
  exact absurd hRange.start (by decide +kernel)

end IsaWorkspace
