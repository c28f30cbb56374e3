import IsaWorkspace.Foundations.HashMap

/-
  Inverted indexes: for each key, the items it occurs in.

  An index is edited key by key.  A set that loses its last
  item is dropped, so that no empty set is kept.

  Main declarations:
    * `InvertedIndex`, `InvertedIndex.ids`
    * `InvertedIndex.list`, `InvertedIndex.unlist`
    * `InvertedIndex.mem_ids_listAll`
    * `InvertedIndex.mem_ids_unlistAll`
    * `InvertedIndex.NoEmpty`
-/

------------------------------------------------------------
-- Indexes
------------------------------------------------------------

namespace IsaWorkspace

/- The sets of items under their keys. -/
abbrev InvertedIndex (K I : Type) : Type :=
  HashMap K (Finset I)

namespace InvertedIndex

variable {K I : Type} [DecidableEq K] [DecidableEq I]

/- The items under a key. -/
def ids
    (index : InvertedIndex K I)
    (key : K) : Finset I :=
  (index.lookup key).getD ∅

/- Put an item under a key. -/
def list
    (id : I)
    (index : InvertedIndex K I)
    (key : K) : InvertedIndex K I :=
  index.insert key (insert id (ids index key))

/- Take an item from under a key, and an empty set with it. -/
def unlist
    (id : I)
    (index : InvertedIndex K I)
    (key : K) : InvertedIndex K I :=
  match index.lookup key with
  | none => index
  | some found =>
      if found.erase id = ∅ then
        index.erase key
      else
        index.insert key (found.erase id)

/- Put an item under each of some keys. -/
def listAll
    (id : I)
    (keys : List K)
    (index : InvertedIndex K I) : InvertedIndex K I :=
  keys.foldl (list id) index

/- Take an item from under each of some keys. -/
def unlistAll
    (id : I)
    (keys : List K)
    (index : InvertedIndex K I) : InvertedIndex K I :=
  keys.foldl (unlist id) index

/- No set is kept empty. -/
def NoEmpty
    (index : InvertedIndex K I) : Prop :=
  ∀ key, index.lookup key ≠ some ∅

variable {index : InvertedIndex K I}
variable {id other : I} {key sought : K} {keys : List K}

------------------------------------------------------------
-- One Key
------------------------------------------------------------

omit [DecidableEq I] in
/- What is under a key of an empty index. -/
theorem ids_empty :
    ids (∅ : InvertedIndex K I) sought = ∅ := rfl

/- One item more is under the key. -/
theorem mem_ids_list :
    other ∈ ids (list id index key) sought ↔
      other ∈ ids index sought ∨
        other = id ∧ sought = key := by
  unfold ids list
  rw [HashMap.lookup_insert_eq_ite]
  by_cases hKey : sought = key
  · subst hKey
    simp [ids, or_comm]
  · simp [hKey]

/- One item less is under the key. -/
theorem mem_ids_unlist :
    other ∈ ids (unlist id index key) sought ↔
      other ∈ ids index sought ∧
        ¬ (other = id ∧ sought = key) := by
  unfold unlist
  cases hLookup : index.lookup key with
  | none =>
      constructor
      · intro hOther
        refine ⟨hOther, ?_⟩
        rintro ⟨_, rfl⟩
        simp [ids, hLookup] at hOther
      · exact And.left
  | some found =>
      by_cases hKey : sought = key
      · subst hKey
        have hFound : ids index sought = found := by
          simp [ids, hLookup]
        have hLeft :
            other ∈ found.erase id ↔
              other ∈ ids index sought ∧
                ¬ (other = id ∧ sought = sought) := by
          rw [hFound, Finset.mem_erase]
          simp [and_comm]
        dsimp only
        split
        · next hEmpty =>
            rw [← hLeft, hEmpty]
            simp [ids]
        · rw [← hLeft]
          simp [ids]
      · dsimp only
        split
        · simp [ids, hKey]
        · simp [ids, hKey]

omit [DecidableEq I] in
theorem noEmpty_empty :
    NoEmpty (∅ : InvertedIndex K I) := by
  intro key
  simp

/- An index with an item more keeps no empty set. -/
theorem NoEmpty.list
    (hBefore : NoEmpty index) :
    NoEmpty (list id index key) := by
  intro sought
  unfold InvertedIndex.list
  rw [HashMap.lookup_insert_eq_ite]
  split
  · intro hEmpty
    have hNone := Option.some.inj hEmpty
    exact Finset.insert_ne_empty id (ids index key) hNone
  · exact hBefore sought

/- An index with an item less keeps no empty set. -/
theorem NoEmpty.unlist
    (hBefore : NoEmpty index) :
    NoEmpty (unlist id index key) := by
  intro sought
  unfold InvertedIndex.unlist
  cases hLookup : index.lookup key with
  | none => exact hBefore sought
  | some found =>
      dsimp only
      split
      · rw [HashMap.lookup_erase_eq_ite]
        split
        · simp
        · exact hBefore sought
      · next hLeft =>
          rw [HashMap.lookup_insert_eq_ite]
          split
          · intro hEmpty
            exact hLeft (Option.some.inj hEmpty)
          · exact hBefore sought

------------------------------------------------------------
-- Several Keys
------------------------------------------------------------

/- The item is put under the keys, however often listed. -/
theorem mem_ids_listAll :
    other ∈ ids (listAll id keys index) sought ↔
      other ∈ ids index sought ∨
        other = id ∧ sought ∈ keys := by
  unfold listAll
  induction keys generalizing index with
  | nil => simp
  | cons key rest ih =>
      rw [List.foldl_cons, ih, mem_ids_list, or_assoc,
        ← and_or_left, List.mem_cons]

/- The item is taken from under the keys. -/
theorem mem_ids_unlistAll :
    other ∈ ids (unlistAll id keys index) sought ↔
      other ∈ ids index sought ∧
        ¬ (other = id ∧ sought ∈ keys) := by
  unfold unlistAll
  induction keys generalizing index with
  | nil => simp
  | cons key rest ih =>
      rw [List.foldl_cons, ih, mem_ids_unlist, and_assoc,
        ← not_or, ← and_or_left, List.mem_cons]

theorem NoEmpty.listAll
    (hBefore : NoEmpty index) :
    NoEmpty (listAll id keys index) := by
  unfold InvertedIndex.listAll
  induction keys generalizing index with
  | nil => exact hBefore
  | cons key rest ih => exact ih hBefore.list

theorem NoEmpty.unlistAll
    (hBefore : NoEmpty index) :
    NoEmpty (unlistAll id keys index) := by
  unfold InvertedIndex.unlistAll
  induction keys generalizing index with
  | nil => exact hBefore
  | cons key rest ih => exact ih hBefore.unlist

end InvertedIndex

end IsaWorkspace
