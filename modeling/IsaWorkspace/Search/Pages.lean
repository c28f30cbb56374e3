import IsaWorkspace.Search.Pagination

/-
  The pages of a query.

  For a page size that fits 32 bits together with the number
  of matches, the pages in a row are the matches, each once
  and in the order of the query, and all but the last page
  are full.

  Main declarations:
    * `SortField.NotAfter`, `SearchQuery.InOrder`
    * `StateSearchIndex.matching_pairwise`
    * `StateSearchIndex.Partition`
    * `StateSearchIndex.partition_pages`
-/

------------------------------------------------------------
-- The Order of the Matches
------------------------------------------------------------

namespace IsaWorkspace

/- One entry is not behind another in a field. -/
def SortField.NotAfter :
    SortField → StateIndexEntry → StateIndexEntry → Prop
| createdAt, first, second =>
    first.createdAt ≤ second.createdAt
| label, first, second => first.label ≤ second.label
| size, first, second => first.sizeBytes ≤ second.sizeBytes

/- Two entries follow each other as the query asks. -/
def SearchQuery.InOrder
    (query : SearchQuery)
    (first second : StateIndexEntry) : Prop :=
  match query.sortOrder with
  | .asc => query.sortBy.NotAfter first second
  | .desc => query.sortBy.NotAfter second first

theorem SortField.notAfter_trans
    (field : SortField)
    {first second third : StateIndexEntry}
    (hFirst : field.NotAfter first second)
    (hSecond : field.NotAfter second third) :
    field.NotAfter first third := by
  cases field with
  | createdAt => exact Int.le_trans hFirst hSecond
  | label => exact String.le_trans hFirst hSecond
  | size => exact UInt64.le_trans hFirst hSecond

theorem SortField.notAfter_total
    (field : SortField)
    (first second : StateIndexEntry) :
    field.NotAfter first second ∨
      field.NotAfter second first := by
  cases field with
  | createdAt => exact Int.le_total _ _
  | label => exact String.le_total _ _
  | size => exact UInt64.le_total _ _

theorem SearchQuery.inOrder_trans
    (query : SearchQuery)
    {first second third : StateIndexEntry}
    (hFirst : query.InOrder first second)
    (hSecond : query.InOrder second third) :
    query.InOrder first third := by
  unfold InOrder at hFirst hSecond ⊢
  revert hFirst hSecond
  cases query.sortOrder with
  | asc => exact query.sortBy.notAfter_trans
  | desc =>
      intro hFirst hSecond
      exact query.sortBy.notAfter_trans hSecond hFirst

theorem SearchQuery.inOrder_total
    (query : SearchQuery)
    (first second : StateIndexEntry) :
    query.InOrder first second ∨
      query.InOrder second first := by
  unfold InOrder
  cases query.sortOrder with
  | asc => exact query.sortBy.notAfter_total first second
  | desc => exact query.sortBy.notAfter_total second first

namespace StateSearchIndex

/- Labels compare as they are ordered. -/
theorem isLE_compare_label
    (first second : String) :
    (compare first second).isLE = true ↔ first ≤ second :=
  isLE_compareOfLessAndEq String.le_antisymm String.not_le
    String.le_total

/- The comparison of the sort tells that order. -/
theorem isLE_compareEntries_iff
    (query : SearchQuery)
    (first second : StateIndexEntry) :
    (compareEntries query first second).isLE = true ↔
      query.InOrder first second := by
  unfold compareEntries SearchQuery.InOrder
  cases query.sortOrder with
  | asc =>
      cases query.sortBy with
      | createdAt => exact Std.isLE_compare
      | label => exact isLE_compare_label _ _
      | size => exact Std.isLE_compare
  | desc =>
      have hSwap :
          ∀ {α : Type} [Ord α] [Std.OrientedOrd α]
              (one other : α),
            (compare one other).swap = compare other one :=
        fun _ _ => Std.OrientedOrd.eq_swap.symm
      cases query.sortBy with
      | createdAt =>
          dsimp only
          rw [hSwap]
          exact Std.isLE_compare
      | label =>
          dsimp only
          rw [hSwap]
          exact isLE_compare_label _ _
      | size =>
          dsimp only
          rw [hSwap]
          exact Std.isLE_compare

------------------------------------------------------------
-- The Pages of a Query
------------------------------------------------------------

variable [Unicode]
variable {index : StateSearchIndex}
variable {order : HashMap.Iteration index.entries}
variable {query : SearchQuery}

/- The matches come in the order of the query. -/
theorem matching_pairwise :
    (index.matching order query).Pairwise
      query.InOrder := by
  have hSorted :
      (index.matching order query).Pairwise
        fun first second =>
          (compareEntries query first second).isLE =
            true := by
    unfold matching
    apply List.pairwise_mergeSort
    · intro first second third hFirst hSecond
      rw [isLE_compareEntries_iff] at hFirst hSecond ⊢
      exact query.inOrder_trans hFirst hSecond
    · intro first second
      rw [Bool.or_eq_true, isLE_compareEntries_iff,
        isLE_compareEntries_iff]
      exact query.inOrder_total first second
  refine hSorted.imp ?_
  intro first second hLE
  exact (isLE_compareEntries_iff query first second).mp hLE

/- The query for another page. -/
def onPage
    (query : SearchQuery)
    (number : Nat) : SearchQuery :=
  { query with page := UInt32.ofNat number }

/-
  Results that are those of the pages of a query, as many as
  each of them tells: in a row they are the matches, each
  once and in order, and all but the last page are full.
-/
structure Partition
    [BuildProfile]
    (index : StateSearchIndex)
    (order : HashMap.Iteration index.entries)
    (query : SearchQuery)
    (pages : List SearchResult) : Prop where
  searched :
    ∀ number, (hNumber : number < pages.length) →
      index.search order (onPage query number) =
        some (pages.get ⟨number, hNumber⟩)
  first : (index.search order (onPage query 0)).isSome = true
  counted :
    ∀ page result,
      index.search order { query with page := page } =
          some result →
        result.total =
            (index.selected order query).length ∧
          result.totalPages.toNat = pages.length
  complete :
    (pages.flatMap (·.results)).Perm
      (index.selected order query)
  ordered :
    (pages.flatMap (·.results)).Pairwise query.InOrder
  full :
    ∀ number, (hNumber : number + 1 < pages.length) →
      (pages.get
          ⟨number, Nat.lt_of_succ_lt hNumber⟩).results.length =
        query.pageSize.toNat

/- The filters do not look at the page. -/
theorem selected_page
    (page : UInt32) :
    index.selected order { query with page := page } =
      index.selected order query := by
  unfold selected
  apply List.filter_congr
  intro entry _
  rw [decide_eq_decide]
  constructor
  · intro hSelects
    exact
      ⟨hSelects.text, hSelects.tags, hSelects.after,
        hSelects.before⟩
  · intro hSelects
    exact
      ⟨hSelects.text, hSelects.tags, hSelects.after,
        hSelects.before⟩

/- What is returned of a page that starts in range. -/
def pageResult
    (index : StateSearchIndex)
    (order : HashMap.Iteration index.entries)
    (query : SearchQuery)
    (number : Nat) : SearchResult where
  total := (index.selected order query).length
  page := UInt32.ofNat number
  pageSize := query.pageSize
  totalPages :=
    totalPagesOf query (index.selected order query).length
  results :=
    Paging.page query.pageSize.toNat
      (index.matching order query) number

/- The results of all pages. -/
def pageResults
    (index : StateSearchIndex)
    (order : HashMap.Iteration index.entries)
    (query : SearchQuery) : List SearchResult :=
  (List.range
      (Paging.pageCount query.pageSize.toNat
        (index.selected order query).length)).map
    (index.pageResult order query)

theorem length_pageResults :
    (index.pageResults order query).length =
      Paging.pageCount query.pageSize.toNat
        (index.selected order query).length := by
  unfold pageResults
  rw [List.length_map, List.length_range]

theorem get_pageResults
    {number : Nat}
    (hNumber :
      number < (index.pageResults order query).length) :
    (index.pageResults order query).get ⟨number, hNumber⟩ =
      index.pageResult order query number := by
  simp [pageResults]

/- In a row the results are the matches. -/
theorem flatMap_pageResults
    (hSize : 1 ≤ query.pageSize.toNat) :
    (index.pageResults order query).flatMap (·.results) =
      index.matching order query := by
  unfold pageResults
  rw [List.flatMap_map, ← length_matching]
  exact Paging.flatMap_page hSize

section Partition

variable
  (hSize : 1 ≤ query.pageSize.toNat)
  (hSum :
    (index.selected order query).length +
        query.pageSize.toNat <
      2 ^ 32)
include hSize hSum

/- The number of pages is the quotient rounded up. -/
theorem toNat_totalPagesOf :
    (totalPagesOf query
        (index.selected order query).length).toNat =
      Paging.pageCount query.pageSize.toNat
        (index.selected order query).length := by
  have hTotal :
      (index.selected order query).length % 2 ^ 32 =
        (index.selected order query).length :=
    Nat.mod_eq_of_lt (by omega)
  have hFits :
      (index.selected order query).length +
          query.pageSize.toNat - 1 <
        2 ^ 32 := by
    omega
  unfold totalPagesOf Paging.pageCount
  rw [UInt32.toNat_div, hTotal,
    UInt32.toNat_ofNat_of_lt' hFits]

/- A page that starts within the matches is in range. -/
theorem search_onPage
    [BuildProfile]
    {number : Nat}
    (hStart :
      number * query.pageSize.toNat ≤
        (index.selected order query).length) :
    index.search order (onPage query number) =
      some (index.pageResult order query number) := by
  have hFits : number < 2 ^ 32 := by
    have hLess : number ≤ number * query.pageSize.toNat :=
      Nat.le_mul_of_pos_right number hSize
    omega
  have hNumber : (onPage query number).page.toNat = number :=
    UInt32.toNat_ofNat_of_lt' hFits
  have hTotal :
      (index.selected order query).length % 2 ^ 32 =
        (index.selected order query).length :=
    Nat.mod_eq_of_lt (by omega)
  have hSelected :
      index.selected order (onPage query number) =
        index.selected order query :=
    selected_page (UInt32.ofNat number)
  have hRange :
      (onPage query number).InRange
        (index.selected order query).length := by
    constructor
    · exact hSize
    · rw [hTotal]
      exact hSum
    · rw [hNumber]
      exact hStart.trans_lt (by omega)
    · rw [hNumber]
      exact hStart
  rw [← hSelected] at hRange
  rw [search_of_inRange hRange, hSelected, hNumber]
  rfl

/- Whatever page is returned, it tells the same numbers. -/
theorem counts_of_search
    [BuildProfile]
    {page : UInt32}
    {result : SearchResult}
    (hSearch :
      index.search order { query with page := page } =
        some result) :
    result.total = (index.selected order query).length ∧
      result.totalPages =
        totalPagesOf query
          (index.selected order query).length := by
  have hTotal :
      (index.selected order query).length % 2 ^ 32 =
        (index.selected order query).length :=
    Nat.mod_eq_of_lt (by omega)
  have hLess :
      (((index.selected order query).length +
              query.pageSize.toNat : Nat) : Int) - 1 =
        (((index.selected order query).length +
          query.pageSize.toNat - 1 : Nat) : Int) := by
    omega
  rw [search_eq, selected_page, hTotal,
    checked32_of_fits hSum, Option.bind_some,
    UInt32.toNat_ofNat_of_lt' hSum, hLess,
    checked32_of_fits (by omega), Option.bind_some]
    at hSearch
  split at hSearch
  · cases hSearch
  · rcases Option.bind_eq_some_iff.mp hSearch with
      ⟨first, _, hResult⟩
    split at hResult
    · cases hResult
    · cases hResult
      refine ⟨rfl, ?_⟩
      unfold totalPagesOf
      rw [hTotal]

end Partition

/-
  Where the number of matches and a page fit 32 bits, the
  pages of a query partition the matches.
-/
theorem partition_pages
    [BuildProfile]
    (index : StateSearchIndex)
    (order : HashMap.Iteration index.entries)
    (query : SearchQuery)
    (hSize : 1 ≤ query.pageSize.toNat)
    (hSum :
      (index.selected order query).length +
          query.pageSize.toNat <
        2 ^ 32) :
    ∃ pages, Partition index order query pages := by
  refine ⟨index.pageResults order query, ?_⟩
  constructor
  · intro number hNumber
    have hStart :
        number * query.pageSize.toNat <
          (index.selected order query).length := by
      rw [length_pageResults] at hNumber
      exact (Paging.lt_pageCount_iff hSize).mp hNumber
    rw [get_pageResults]
    exact search_onPage hSize hSum hStart.le
  · rw [search_onPage hSize hSum (by omega)]
    rfl
  · intro page found hSearch
    rcases counts_of_search hSize hSum hSearch with
      ⟨hTotal, hPages⟩
    refine ⟨hTotal, ?_⟩
    rw [hPages, length_pageResults]
    exact toNat_totalPagesOf hSize hSum
  · rw [flatMap_pageResults hSize]
    exact matching_perm
  · rw [flatMap_pageResults hSize]
    exact matching_pairwise
  · intro number hNumber
    rw [get_pageResults]
    apply Paging.length_page hSize
    rw [length_matching, ← length_pageResults]
    exact hNumber

end StateSearchIndex

------------------------------------------------------------
-- Sample Pages
------------------------------------------------------------

/- Two entries, one on a page. -/
namespace PaginationSample

scoped instance : BuildProfile :=
  ⟨true⟩

def entryOf
    (stateId : String)
    (sizeBytes : UInt64) : StateIndexEntry where
  stateId := ⟨stateId⟩
  label := "label"
  tags := []
  createdAt := DateTime.unixEpoch
  sizeBytes := sizeBytes
  owner := "owner"

def small : StateIndexEntry :=
  entryOf "state-1" 1024

def large : StateIndexEntry :=
  entryOf "state-2" 4096

def twoEntries : StateSearchIndex :=
  { StateSearchIndex.new with
    entries :=
      ((∅ : HashMap StateId StateIndexEntry).insert
          small.stateId small).insert
        large.stateId large }

def order : HashMap.Iteration twoEntries.entries :=
  (HashMap.Iteration.single small.stateId small).cons
    large.stateId large (by decide)

/- The small one first. -/
def onePerPage : SearchQuery :=
  { SearchQuery.default with
    sortBy := .size
    sortOrder := .asc
    pageSize := 1 }

end PaginationSample

open PaginationSample in
theorem StateSearchIndex.partition_onePerPage :
    ∃ pages,
      Partition twoEntries PaginationSample.order onePerPage
        pages :=
  partition_pages twoEntries PaginationSample.order onePerPage
    (by decide) (by decide +kernel)

end IsaWorkspace
