import IsaWorkspace.Model
import IsaWorkspace.Foundations.InvertedIndex
import IsaWorkspace.Foundations.KeyedList

/-
  The search index of states.

  Entries are kept under their ids, and two inverted indexes
  tell in which entries a word or a tag occurs.  Indexing
  and removing are made of the steps between which their
  locks are released.  What the standard library knows about
  letters is a parameter.

  Main declarations:
    * `Unicode`
    * `SearchQuery`, `SearchResult`, `StateIndexEntry`
    * `StateSearchIndex`
    * `StateSearchIndex.tokenize`
    * `StateSearchIndex.indexState`, `removeState`
    * `StateSearchIndex.search`
-/

------------------------------------------------------------
-- Records
------------------------------------------------------------

namespace IsaWorkspace

/- Letter case and letters, as the standard library has it. -/
class Unicode where
  toLowercase : String → String
  isAlphanumeric : Char → Bool

/- Sort fields. -/
inductive SortField where
  | createdAt
  | label
  | size
deriving DecidableEq

/- Sort order. -/
inductive SortOrder where
  | asc
  | desc
deriving DecidableEq

/- Search query parameters. -/
structure SearchQuery where
  query : Option String
  tags : Option (List String)
  createdAfter : Option DateTime
  createdBefore : Option DateTime
  sortBy : SortField
  sortOrder : SortOrder
  page : UInt32
  pageSize : UInt32

/- The query that selects everything. -/
def SearchQuery.default : SearchQuery where
  query := none
  tags := none
  createdAfter := none
  createdBefore := none
  sortBy := .createdAt
  sortOrder := .desc
  page := 0
  pageSize := 20

/- Indexed state entry. -/
structure StateIndexEntry where
  stateId : StateId
  label : String
  tags : List String
  createdAt : DateTime
  sizeBytes : UInt64
  owner : String
deriving DecidableEq

/- Search result. -/
structure SearchResult where
  total : Nat
  page : UInt32
  pageSize : UInt32
  totalPages : UInt32
  results : List StateIndexEntry
deriving DecidableEq

/- Search index for fast state queries. -/
structure StateSearchIndex where
  entries : HashMap StateId StateIndexEntry
  labelIndex : InvertedIndex String StateId
  tagIndex : InvertedIndex String StateId

namespace StateSearchIndex

/- Create a new search index. -/
def new : StateSearchIndex where
  entries := ∅
  labelIndex := ∅
  tagIndex := ∅

------------------------------------------------------------
-- Words
------------------------------------------------------------

section Words

variable [Unicode]

/- Tokenize text into searchable words. -/
def tokenize
    (text : String) : List String :=
  let parts :=
    (Unicode.toLowercase text).toList.splitOnP fun c =>
      !Unicode.isAlphanumeric c
  (parts.map String.ofList).filter fun word =>
    decide (word ≠ "" ∧ 2 ≤ word.utf8ByteSize)

end Words

------------------------------------------------------------
-- Atomic Steps
------------------------------------------------------------

/- The entry that is stored. -/
def oldEntry
    (index : StateSearchIndex)
    (stateId : StateId) : Option StateIndexEntry :=
  index.entries.lookup stateId

/- Remove from tag index. -/
def unlistTags
    (stateId : StateId)
    (entry : StateIndexEntry)
    (index : StateSearchIndex) : StateSearchIndex :=
  { index with
    tagIndex :=
      InvertedIndex.unlistAll stateId entry.tags
        index.tagIndex }

/- Remove entry. -/
def removeEntry
    (stateId : StateId)
    (index : StateSearchIndex) : StateSearchIndex :=
  { index with entries := index.entries.erase stateId }

/- Add new entry. -/
def insertEntry
    (entry : StateIndexEntry)
    (index : StateSearchIndex) : StateSearchIndex :=
  { index with
    entries := index.entries.insert entry.stateId entry }

/- Index tags. -/
def listTags
    (entry : StateIndexEntry)
    (index : StateSearchIndex) : StateSearchIndex :=
  { index with
    tagIndex :=
      InvertedIndex.listAll entry.stateId entry.tags
        index.tagIndex }

section Calls

variable [Unicode]

/- Remove from label index. -/
def unlistWords
    (stateId : StateId)
    (entry : StateIndexEntry)
    (index : StateSearchIndex) : StateSearchIndex :=
  { index with
    labelIndex :=
      InvertedIndex.unlistAll stateId (tokenize entry.label)
        index.labelIndex }

/- Index label words. -/
def listWords
    (entry : StateIndexEntry)
    (index : StateSearchIndex) : StateSearchIndex :=
  { index with
    labelIndex :=
      InvertedIndex.listAll entry.stateId
        (tokenize entry.label) index.labelIndex }

------------------------------------------------------------
-- Calls
------------------------------------------------------------

/- Remove a state from the index. -/
def removeState
    (stateId : StateId)
    (index : StateSearchIndex) : StateSearchIndex :=
  match index.oldEntry stateId with
  | none => index
  | some entry =>
      ((index.unlistWords stateId entry).unlistTags stateId
        entry).removeEntry stateId

/- Add or update a state in the index. -/
def indexState
    (entry : StateIndexEntry)
    (index : StateSearchIndex) : StateSearchIndex :=
  (((index.removeState entry.stateId).insertEntry
    entry).listWords entry).listTags entry

/- Filter by query text. -/
def textMatches
    (query : SearchQuery)
    (entries : List StateIndexEntry) :
    List StateIndexEntry :=
  match query.query with
  | some text =>
      entries.filter fun entry =>
        (tokenize text).any fun word =>
          decide (word ∈ tokenize entry.label)
  | none => entries

/- Filter by tags. -/
def tagMatches
    (index : StateSearchIndex)
    (query : SearchQuery)
    (entries : List StateIndexEntry) :
    List StateIndexEntry :=
  match query.tags with
  | some tags =>
      entries.filter fun entry =>
        tags.all fun tag =>
          decide
            (tag ∈ entry.tags ∨
              entry.stateId ∈
                InvertedIndex.ids index.tagIndex tag)
  | none => entries

/- Filter by date range. -/
def dateMatches
    (query : SearchQuery)
    (entries : List StateIndexEntry) :
    List StateIndexEntry :=
  entries.filter fun entry =>
    query.createdAfter.all (fun after =>
        decide (after ≤ entry.createdAt)) &&
      query.createdBefore.all fun before =>
        decide (entry.createdAt ≤ before)

/- How two entries compare in a query. -/
def compareEntries
    (query : SearchQuery)
    (first second : StateIndexEntry) : Ordering :=
  let cmp :=
    match query.sortBy with
    | .createdAt =>
        compare first.createdAt.nanos second.createdAt.nanos
    | .label => compare first.label second.label
    | .size => compare first.sizeBytes second.sizeBytes
  match query.sortOrder with
  | .asc => cmp
  | .desc => cmp.swap

/- The matching entries in the order of a query. -/
def matching
    (index : StateSearchIndex)
    (order : HashMap.Iteration index.entries)
    (query : SearchQuery) : List StateIndexEntry :=
  let filtered :=
    dateMatches query
      (index.tagMatches query
        (textMatches query (order.entries.map (·.2))))
  filtered.mergeSort fun first second =>
    (compareEntries query first second).isLE

/- Arithmetic as the build does it; `none` is a panic. -/
def checked32
    [BuildProfile]
    (exact : Int) : Option UInt32 :=
  if (0 ≤ exact ∧ exact < 2 ^ 32) ∨
      BuildProfile.overflowChecks = false then
    some (UInt32.ofInt exact)
  else
    none

/- Search for states; `none` is a panic. -/
def search
    [BuildProfile]
    (index : StateSearchIndex)
    (order : HashMap.Iteration index.entries)
    (query : SearchQuery) : Option SearchResult := do
  let found := index.matching order query
  let total := found.length
  let sum ←
    checked32
      ((UInt32.ofNat total).toNat + query.pageSize.toNat)
  let rounded ← checked32 ((sum.toNat : Int) - 1)
  if query.pageSize = 0 then
    none
  let totalPages := rounded / query.pageSize
  let first ←
    checked32 (query.page.toNat * query.pageSize.toNat)
  let start := first.toNat
  let stop := min (start + query.pageSize.toNat) total
  if stop < start then
    none
  return {
    total := total
    page := query.page
    pageSize := query.pageSize
    totalPages := totalPages
    results := (found.drop start).take (stop - start) }

end Calls

end StateSearchIndex

end IsaWorkspace
