import IsaWorkspace.Foundations.HashMap

/-
  Lists of items that are told apart by a key.

  Such a list stands for the partial map from keys to items
  that `find` reads from it.  Each operation on lists is
  described by what `find` reads after it, and lists with
  unique keys that read alike are equal up to order.

  Main declarations:
    * `KeyedList.Unique`, `KeyedList.find`
    * `KeyedList.perm_iff_find`
    * `KeyedList.without`, `KeyedList.find_without`
    * `KeyedList.pushAll`, `KeyedList.find_pushAll`
    * `KeyedList.replaceAll`, `KeyedList.find_replaceAll`
    * `KeyedList.find_replaceAll_reverse`
    * `KeyedList.index`, `HashMap.Iteration`
    * `HashMap.Iteration.exists_last`
    * `KeyedList.find_visited`, `KeyedList.find_renewed`
-/

------------------------------------------------------------
-- Reading by Key
------------------------------------------------------------

namespace IsaWorkspace

namespace KeyedList

variable {α K : Type} (key : α → K)

/- No two items have the same key. -/
def Unique
    (items : List α) : Prop :=
  (items.map key).Nodup

instance
    [DecidableEq K]
    (items : List α) :
    Decidable (Unique key items) :=
  inferInstanceAs (Decidable (items.map key).Nodup)

variable [DecidableEq K]

/- The first item that has a key. -/
def find
    (sought : K)
    (items : List α) : Option α :=
  items.find? fun item => decide (key item = sought)

variable {key}

theorem find_cons_self
    (item : α)
    (items : List α) :
    find key (key item) (item :: items) = some item :=
  List.find?_cons_of_pos (decide_eq_true rfl)

theorem find_cons_of_ne
    {item : α}
    {sought : K}
    (hKey : key item ≠ sought)
    (items : List α) :
    find key sought (item :: items) =
      find key sought items :=
  List.find?_cons_of_neg (by simpa using hKey)

/- What is found is in the list and has the key. -/
theorem of_find
    {items : List α}
    {sought : K}
    {item : α}
    (hFind : find key sought items = some item) :
    item ∈ items ∧ key item = sought := by
  unfold find at hFind
  have hKey := List.find?_some hFind
  exact
    ⟨List.mem_of_find?_eq_some hFind,
      of_decide_eq_true hKey⟩

theorem find_eq_none_iff
    {items : List α}
    {sought : K} :
    find key sought items = none ↔
      ∀ item ∈ items, key item ≠ sought := by
  unfold find
  rw [List.find?_eq_none]
  exact
    forall₂_congr fun _ _ => by
      rw [decide_eq_true_iff]

/- The first item's key is not found behind it. -/
theorem Unique.find_tail
    {item : α}
    {rest : List α}
    (hUnique : Unique key (item :: rest)) :
    find key (key item) rest = none := by
  apply find_eq_none_iff.mpr
  intro other hOther hSame
  apply (List.nodup_cons.mp hUnique).1
  rw [← hSame]
  exact List.mem_map_of_mem hOther

/- Every item of the list is found if keys are unique. -/
theorem find_of_mem
    {items : List α}
    (hUnique : Unique key items)
    {item : α}
    (hItem : item ∈ items) :
    find key (key item) items = some item := by
  induction items with
  | nil => cases hItem
  | cons first rest ih =>
      have hNodup := List.nodup_cons.mp hUnique
      rcases List.mem_cons.mp hItem with rfl | hRest
      · exact find_cons_self item rest
      · have hKey : key first ≠ key item := fun hEq =>
          find_eq_none_iff.mp hUnique.find_tail item hRest
            hEq.symm
        rw [find_cons_of_ne hKey]
        exact ih hNodup.2 hRest

theorem find_eq_some_iff
    {items : List α}
    (hUnique : Unique key items)
    {sought : K}
    {item : α} :
    find key sought items = some item ↔
      item ∈ items ∧ key item = sought := by
  constructor
  · exact of_find
  · rintro ⟨hItem, rfl⟩
    exact find_of_mem hUnique hItem

/- An item is in the list if it is found under its key. -/
theorem mem_iff_find
    {items : List α}
    (hUnique : Unique key items)
    {item : α} :
    item ∈ items ↔ find key (key item) items = some item := by
  rw [find_eq_some_iff hUnique]
  exact (and_iff_left rfl).symm

omit [DecidableEq K] in
theorem Unique.nodup
    {items : List α}
    (hUnique : Unique key items) :
    items.Nodup :=
  List.Nodup.of_map key hUnique

/- Lists that read alike are the same up to order. -/
theorem perm_iff_find
    {left right : List α}
    (hLeft : Unique key left)
    (hRight : Unique key right) :
    left.Perm right ↔
      ∀ sought,
        find key sought left = find key sought right := by
  rw [List.perm_ext_iff_of_nodup hLeft.nodup hRight.nodup]
  constructor
  · intro hMem sought
    apply Option.ext
    intro item
    rw [find_eq_some_iff hLeft, find_eq_some_iff hRight,
      hMem item]
  · intro hFind item
    have hSame := hFind (key item)
    constructor
    · intro hItem
      rw [find_of_mem hLeft hItem] at hSame
      exact (of_find hSame.symm).1
    · intro hItem
      rw [find_of_mem hRight hItem] at hSame
      exact (of_find hSame).1

------------------------------------------------------------
-- Removing
------------------------------------------------------------

/- Remove the items that have the key of another list's. -/
def without
    (key : α → K)
    (gone items : List α) : List α :=
  items.filter fun item =>
    !gone.any fun other => decide (key other = key item)

theorem find_without
    (gone items : List α)
    (sought : K) :
    find key sought (without key gone items) =
      if find key sought gone = none then
        find key sought items
      else
        none := by
  unfold without
  induction items with
  | nil =>
      split
      · rfl
      · rfl
  | cons item rest ih =>
      by_cases hGone :
          gone.any (fun other =>
            decide (key other = key item)) = true
      · rw [List.filter_cons_of_neg (by simp [hGone]), ih]
        by_cases hKey : key item = sought
        · subst hKey
          have hFound : find key (key item) gone ≠ none := by
            intro hNone
            rcases List.any_eq_true.mp hGone with
              ⟨other, hOther, hSame⟩
            exact
              find_eq_none_iff.mp hNone other hOther
                (of_decide_eq_true hSame)
          rw [if_neg hFound, if_neg hFound]
        · rw [find_cons_of_ne hKey]
      · rw [List.filter_cons_of_pos (by simp [hGone])]
        by_cases hKey : key item = sought
        · subst hKey
          have hNone : find key (key item) gone = none := by
            apply find_eq_none_iff.mpr
            intro other hOther hSame
            apply hGone
            exact
              List.any_eq_true.mpr
                ⟨other, hOther, decide_eq_true hSame⟩
          rw [if_pos hNone, find_cons_self, find_cons_self]
        · rw [find_cons_of_ne hKey, find_cons_of_ne hKey]
          exact ih

theorem Unique.without
    {items : List α}
    (hUnique : Unique key items)
    (gone : List α) :
    Unique key (without key gone items) :=
  List.Nodup.sublist (List.filter_sublist.map key) hUnique

------------------------------------------------------------
-- Adding
------------------------------------------------------------

/- Add an item at the end unless there is one of its key. -/
def pushNew
    (key : α → K)
    (items : List α)
    (item : α) : List α :=
  if items.any fun other => decide (key other = key item) then
    items
  else
    items ++ [item]

/- There is an item of the key. -/
theorem any_key_iff
    {items : List α}
    {item : α} :
    items.any (fun other =>
        decide (key other = key item)) = true ↔
      find key (key item) items ≠ none := by
  rw [Ne, find_eq_none_iff, List.any_eq_true]
  constructor
  · rintro ⟨other, hOther, hSame⟩ hNone
    exact hNone other hOther (of_decide_eq_true hSame)
  · intro hSome
    by_contra hNone
    apply hSome
    intro other hOther hSame
    exact hNone ⟨other, hOther, decide_eq_true hSame⟩

theorem find_append
    (left right : List α)
    (sought : K) :
    find key sought (left ++ right) =
      (find key sought left).or (find key sought right) :=
  List.find?_append

theorem find_pushNew
    (items : List α)
    (item : α)
    (sought : K) :
    find key sought (pushNew key items item) =
      (find key sought items).or
        (find key sought [item]) := by
  unfold pushNew
  split
  · rename_i hAny
    by_cases hKey : key item = sought
    · subst hKey
      cases hFind : find key (key item) items with
      | none => exact absurd hFind (any_key_iff.mp hAny)
      | some found => rfl
    · have hOther : find key sought [item] = none :=
        find_cons_of_ne hKey []
      rw [hOther, Option.or_none]
  · exact find_append items [item] sought

theorem Unique.pushNew
    {items : List α}
    (hUnique : Unique key items)
    (item : α) :
    Unique key (pushNew key items item) := by
  unfold KeyedList.pushNew
  split
  · exact hUnique
  · rename_i hAny
    unfold Unique
    rw [List.map_append, List.nodup_append]
    refine ⟨hUnique, List.nodup_singleton _, ?_⟩
    intro one hOne other hOther hSame
    rcases List.mem_map.mp hOne with ⟨found, hFound, rfl⟩
    rcases List.mem_singleton.mp hOther with rfl
    apply hAny
    exact
      List.any_eq_true.mpr
        ⟨found, hFound, decide_eq_true hSame⟩

/- Add items one after another. -/
def pushAll
    (key : α → K)
    (items added : List α) : List α :=
  added.foldl (pushNew key) items

theorem find_pushAll
    (items added : List α)
    (sought : K) :
    find key sought (pushAll key items added) =
      (find key sought items).or
        (find key sought added) := by
  unfold pushAll
  induction added generalizing items with
  | nil => exact (Option.or_none).symm
  | cons item rest ih =>
      have hCons :
          find key sought (item :: rest) =
            (find key sought [item]).or
              (find key sought rest) :=
        find_append [item] rest sought
      rw [List.foldl_cons, ih, find_pushNew, hCons,
        Option.or_assoc]

theorem Unique.pushAll
    {items : List α}
    (hUnique : Unique key items)
    (added : List α) :
    Unique key (pushAll key items added) := by
  unfold KeyedList.pushAll
  induction added generalizing items with
  | nil => exact hUnique
  | cons item rest ih => exact ih (hUnique.pushNew item)

------------------------------------------------------------
-- Replacing
------------------------------------------------------------

/- Put an item in the place of the first one of its key. -/
def replace
    (key : α → K) :
    List α → α → List α
| [], _ => []
| first :: rest, item =>
    if key first = key item then
      item :: rest
    else
      first :: replace key rest item

theorem find_replace
    (items : List α)
    (item : α)
    (sought : K) :
    find key sought (replace key items item) =
      (find key sought items).map fun found =>
        (find key sought [item]).getD found := by
  induction items with
  | nil => rfl
  | cons first rest ih =>
      unfold replace
      by_cases hKey : key item = sought
      · subst hKey
        have hItem : find key (key item) [item] = some item :=
          find_cons_self item []
        rw [hItem] at ih ⊢
        by_cases hFirst : key first = key item
        · rw [if_pos hFirst, find_cons_self, ← hFirst,
            find_cons_self]
          rfl
        · rw [if_neg hFirst, find_cons_of_ne hFirst,
            find_cons_of_ne hFirst]
          exact ih
      · have hItem : find key sought [item] = none :=
          find_cons_of_ne hKey []
        rw [hItem] at ih ⊢
        by_cases hFirst : key first = key item
        · have hOther : key first ≠ sought := by
            rw [hFirst]
            exact hKey
          rw [if_pos hFirst, find_cons_of_ne hKey,
            find_cons_of_ne hOther]
          simp
        · rw [if_neg hFirst]
          by_cases hSought : key first = sought
          · subst hSought
            rw [find_cons_self, find_cons_self]
            rfl
          · rw [find_cons_of_ne hSought,
              find_cons_of_ne hSought]
            exact ih

/- The keys stay as they are. -/
theorem map_key_replace
    (items : List α)
    (item : α) :
    (replace key items item).map key = items.map key := by
  induction items with
  | nil => rfl
  | cons first rest ih =>
      unfold replace
      split
      · rename_i hKey
        rw [List.map_cons, List.map_cons, hKey]
      · rw [List.map_cons, List.map_cons, ih]

/- Replace items one after another. -/
def replaceAll
    (key : α → K)
    (items changed : List α) : List α :=
  changed.foldl (replace key) items

/- No item is found twice, so each replacement is the last. -/
theorem find_replaceAll
    (items : List α)
    {changed : List α}
    (hChanged : Unique key changed)
    (sought : K) :
    find key sought (replaceAll key items changed) =
      (find key sought items).map fun found =>
        (find key sought changed).getD found := by
  unfold replaceAll
  induction changed generalizing items with
  | nil =>
      change find key sought items = _
      cases find key sought items with
      | none => rfl
      | some found => rfl
  | cons item rest ih =>
      have hNodup := List.nodup_cons.mp hChanged
      rw [List.foldl_cons, ih _ hNodup.2, find_replace]
      by_cases hKey : key item = sought
      · subst hKey
        have hRest := hChanged.find_tail
        have hItem : find key (key item) [item] = some item :=
          find_cons_self item []
        rw [hRest, hItem, find_cons_self]
        cases find key (key item) items with
        | none => rfl
        | some found => rfl
      · have hItem : find key sought [item] = none :=
          find_cons_of_ne hKey []
        rw [hItem, find_cons_of_ne hKey]
        cases find key sought items with
        | none => rfl
        | some found => rfl

/- With repeated keys the last replacement is the one left. -/
theorem find_replaceAll_reverse
    (items changed : List α)
    (sought : K) :
    find key sought (replaceAll key items changed) =
      (find key sought items).map fun found =>
        (find key sought changed.reverse).getD found := by
  unfold replaceAll
  induction changed generalizing items with
  | nil => exact Option.map_id'.symm
  | cons item rest ih =>
      rw [List.foldl_cons, ih, find_replace,
        List.reverse_cons, find_append, Option.map_map]
      refine Option.map_congr fun found _ => ?_
      cases find key sought rest.reverse with
      | none => rfl
      | some last => rfl

theorem Unique.replaceAll
    {items : List α}
    (hUnique : Unique key items)
    (changed : List α) :
    Unique key (replaceAll key items changed) := by
  unfold KeyedList.replaceAll
  induction changed generalizing items with
  | nil => exact hUnique
  | cons item rest ih =>
      apply ih
      unfold Unique
      rw [map_key_replace]
      exact hUnique

------------------------------------------------------------
-- Maps of Items
------------------------------------------------------------

/- The items under their keys. -/
def index
    (key : α → K)
    (items : List α) : HashMap K α :=
  items.foldl
    (fun map item => map.insert (key item) item) ∅

theorem lookup_index
    {items : List α}
    (hUnique : Unique key items)
    (sought : K) :
    (index key items).lookup sought =
      find key sought items := by
  have hFold :
      ∀ map : HashMap K α,
        (items.foldl
            (fun map item => map.insert (key item) item)
            map).lookup sought =
          (find key sought items).or (map.lookup sought) := by
    induction items with
    | nil =>
        intro map
        rfl
    | cons item rest ih =>
        intro map
        have hNodup := List.nodup_cons.mp hUnique
        rw [List.foldl_cons, ih hNodup.2,
          HashMap.lookup_insert_eq_ite]
        by_cases hKey : key item = sought
        · subst hKey
          have hRest := hUnique.find_tail
          rw [if_pos rfl, hRest, find_cons_self]
          rfl
        · rw [if_neg (Ne.symm hKey), find_cons_of_ne hKey]
  unfold index
  rw [hFold ∅, Finmap.lookup_empty, Option.or_none]

end KeyedList

------------------------------------------------------------
-- Visiting Maps
------------------------------------------------------------

variable {α K V : Type} [DecidableEq K]

/- An order in which the entries of a map are visited. -/
structure HashMap.Iteration
    (map : HashMap K V) where
  entries : List (K × V)
  nodup : (entries.map (·.1)).Nodup
  mem_iff :
    ∀ key value,
      (key, value) ∈ entries ↔ map.lookup key = some value

/- An empty map has nothing to visit. -/
def HashMap.Iteration.empty :
    HashMap.Iteration (∅ : HashMap K V) where
  entries := []
  nodup := List.nodup_nil
  mem_iff := by
    intro key value
    rw [Finmap.lookup_empty]
    exact ⟨nofun, nofun⟩

/- A new entry is visited before the others. -/
def HashMap.Iteration.cons
    {map : HashMap K V}
    (order : HashMap.Iteration map)
    (key : K)
    (value : V)
    (hNew : map.lookup key = none) :
    HashMap.Iteration (map.insert key value) where
  entries := (key, value) :: order.entries
  nodup := by
    rw [List.map_cons, List.nodup_cons]
    refine ⟨?_, order.nodup⟩
    intro hKey
    rcases List.mem_map.mp hKey with ⟨entry, hEntry, hSame⟩
    have hLookup := (order.mem_iff _ _).mp hEntry
    rw [hSame, hNew] at hLookup
    cases hLookup
  mem_iff := by
    intro other found
    rw [List.mem_cons, order.mem_iff, Prod.mk.injEq,
      HashMap.lookup_insert_eq_ite]
    by_cases hKey : other = key
    · rw [if_pos hKey, hKey, hNew]
      simp [eq_comm]
    · rw [if_neg hKey]
      simp [hKey]

/- The only entry of a map is visited. -/
def HashMap.Iteration.single
    (key : K)
    (value : V) :
    HashMap.Iteration ((∅ : HashMap K V).insert key value) :=
  cons .empty key value (Finmap.lookup_empty key)

/- Every map can be visited. -/
theorem HashMap.Iteration.nonempty
    (map : HashMap K V) :
    Nonempty (HashMap.Iteration map) := by
  rcases map with ⟨entries, hNodup⟩
  induction entries using Quotient.inductionOn with
  | h list =>
      refine
        ⟨{ entries := list.map fun entry => (entry.1, entry.2)
           nodup := ?_
           mem_iff := ?_ }⟩
      · rw [List.map_map]
        exact hNodup
      · intro key value
        rw [Finmap.lookup_eq_some_iff, List.mem_map]
        constructor
        · rintro ⟨entry, hEntry, hSame⟩
          cases hSame
          exact hEntry
        · intro hEntry
          exact ⟨_, hEntry, rfl⟩

/- An entry of a map can be visited after all the others. -/
theorem HashMap.Iteration.exists_last
    {map : HashMap K V}
    {key : K}
    {value : V}
    (hLookup : map.lookup key = some value) :
    ∃ (order : HashMap.Iteration map) (others : _),
      order.entries = others ++ [(key, value)] := by
  rcases HashMap.Iteration.nonempty (map.erase key) with
    ⟨others⟩
  refine
    ⟨{ entries := others.entries ++ [(key, value)]
       nodup := ?_
       mem_iff := ?_ }, others.entries, rfl⟩
  · rw [List.map_append]
    refine
      List.nodup_append.mpr
        ⟨others.nodup, List.nodup_singleton _, ?_⟩
    rintro other hOther _ hKey rfl
    rcases List.mem_map.mp hOther with ⟨entry, hEntry, hSame⟩
    rcases List.mem_singleton.mp hKey with hKey
    have hErased := (others.mem_iff _ _).mp hEntry
    rw [hSame, show other = key from hKey,
      Finmap.lookup_erase] at hErased
    cases hErased
  · intro other found
    rw [List.mem_append, List.mem_singleton, others.mem_iff,
      HashMap.lookup_erase_eq_ite, Prod.mk.injEq]
    by_cases hKey : other = key
    · rw [if_pos hKey, hKey, hLookup]
      simp [eq_comm]
    · rw [if_neg hKey]
      simp [hKey]

/- Nothing is visited only where there is nothing. -/
theorem HashMap.Iteration.entries_eq_nil_iff
    {map : HashMap K V}
    (order : HashMap.Iteration map) :
    order.entries = [] ↔ map = ∅ := by
  constructor
  · intro hNil
    apply Finmap.ext_lookup
    intro key
    rw [Finmap.lookup_empty]
    cases hLookup : map.lookup key with
    | none => rfl
    | some value =>
        have hEntry := (order.mem_iff key value).mpr hLookup
        rw [hNil] at hEntry
        cases hEntry
  · intro hEmpty
    apply List.eq_nil_iff_forall_not_mem.mpr
    rintro ⟨key, value⟩ hEntry
    have hLookup := (order.mem_iff key value).mp hEntry
    rw [hEmpty, Finmap.lookup_empty] at hLookup
    cases hLookup

namespace KeyedList

variable {key : α → K} {items : List α}

/- The items with a key that meets a condition, in order. -/
def visited
    (order : HashMap.Iteration (index key items))
    (condition : K → Bool) : List α :=
  (order.entries.filter fun entry => condition entry.1).map
    (·.2)

/- Items with unique keys may be visited as they are listed. -/
def iteration
    (hUnique : Unique key items) :
    HashMap.Iteration (index key items) where
  entries := items.map fun item => (key item, item)
  nodup := by
    rw [List.map_map]
    exact hUnique
  mem_iff := by
    intro sought item
    rw [lookup_index hUnique, find_eq_some_iff hUnique,
      List.mem_map]
    constructor
    · rintro ⟨found, hFound, hEntry⟩
      cases hEntry
      exact ⟨hFound, rfl⟩
    · rintro ⟨hItem, rfl⟩
      exact ⟨item, hItem, rfl⟩

/- Visited items are under their keys. -/
theorem key_of_mem_entries
    (hUnique : Unique key items)
    {order : HashMap.Iteration (index key items)}
    {entry : K × α}
    (hEntry : entry ∈ order.entries) :
    entry.2 ∈ items ∧ key entry.2 = entry.1 := by
  have hLookup := (order.mem_iff entry.1 entry.2).mp hEntry
  rw [lookup_index hUnique] at hLookup
  exact of_find hLookup

theorem unique_visited
    (hUnique : Unique key items)
    (order : HashMap.Iteration (index key items))
    (condition : K → Bool) :
    Unique key (visited order condition) := by
  have hKeys :
      (visited order condition).map key =
        (order.entries.filter fun entry =>
          condition entry.1).map (·.1) := by
    unfold visited
    rw [List.map_map]
    apply List.map_congr_left
    intro entry hEntry
    exact
      (key_of_mem_entries hUnique
        (List.mem_filter.mp hEntry).1).2
  unfold Unique
  rw [hKeys]
  exact
    List.Nodup.sublist (List.filter_sublist.map _)
      order.nodup

/- In any order, the items of these keys are visited. -/
theorem find_visited
    (hUnique : Unique key items)
    (order : HashMap.Iteration (index key items))
    (condition : K → Bool)
    (sought : K) :
    find key sought (visited order condition) =
      if condition sought = true then
        find key sought items
      else
        none := by
  apply Option.ext
  intro item
  rw [find_eq_some_iff
    (unique_visited hUnique order condition)]
  have hVisited :
      item ∈ visited order condition ↔
        item ∈ items ∧ condition (key item) = true := by
    unfold visited
    rw [List.mem_map]
    constructor
    · rintro ⟨entry, hEntry, rfl⟩
      rcases List.mem_filter.mp hEntry with
        ⟨hThere, hMeets⟩
      rcases key_of_mem_entries hUnique hThere with
        ⟨hItem, hKey⟩
      rw [hKey]
      exact ⟨hItem, hMeets⟩
    · rintro ⟨hItem, hMeets⟩
      have hLookup :
          (index key items).lookup (key item) =
            some item := by
        rw [lookup_index hUnique]
        exact find_of_mem hUnique hItem
      exact
        ⟨(key item, item),
          List.mem_filter.mpr
            ⟨(order.mem_iff _ _).mpr hLookup, hMeets⟩,
          rfl⟩
  rw [hVisited]
  by_cases hMeets : condition sought = true
  · rw [if_pos hMeets, find_eq_some_iff hUnique]
    constructor
    · rintro ⟨⟨hItem, _⟩, hKey⟩
      exact ⟨hItem, hKey⟩
    · rintro ⟨hItem, rfl⟩
      exact ⟨⟨hItem, hMeets⟩, rfl⟩
  · rw [if_neg hMeets]
    constructor
    · rintro ⟨⟨_, hHolds⟩, rfl⟩
      exact absurd hHolds hMeets
    · intro hNone
      cases hNone

/- The items of another list with the keys of this one. -/
def renewed
    (order : HashMap.Iteration (index key items))
    (others : List α) : List α :=
  order.entries.filterMap fun entry =>
    (index key others).lookup entry.1

variable {others : List α}

theorem mem_renewed_iff
    (hUnique : Unique key items)
    (hOthers : Unique key others)
    (order : HashMap.Iteration (index key items))
    (item : α) :
    item ∈ renewed order others ↔
      item ∈ others ∧ find key (key item) items ≠ none := by
  unfold renewed
  rw [List.mem_filterMap]
  constructor
  · rintro ⟨entry, hEntry, hLookup⟩
    rcases key_of_mem_entries hUnique hEntry with
      ⟨hItem, hKey⟩
    rw [lookup_index hOthers] at hLookup
    rcases of_find hLookup with ⟨hOther, hSame⟩
    refine ⟨hOther, ?_⟩
    rw [hSame, ← hKey, find_of_mem hUnique hItem]
    exact Option.some_ne_none _
  · rintro ⟨hOther, hFound⟩
    rcases Option.ne_none_iff_exists'.mp hFound with
      ⟨old, hOld⟩
    refine ⟨(key item, old), ?_, ?_⟩
    · rw [order.mem_iff, lookup_index hUnique]
      exact hOld
    · rw [lookup_index hOthers]
      exact find_of_mem hOthers hOther

theorem unique_renewed
    (hOthers : Unique key others)
    (order : HashMap.Iteration (index key items)) :
    Unique key (renewed order others) := by
  have hKeys :
      (renewed order others).map key =
        (order.entries.filter fun entry =>
          decide (find key entry.1 others ≠ none)).map
            (·.1) := by
    unfold renewed
    induction order.entries with
    | nil => rfl
    | cons entry rest ih =>
        rw [List.filterMap_cons, lookup_index hOthers]
        cases hFind : find key entry.1 others with
        | none =>
            rw [List.filter_cons_of_neg (by simp [hFind])]
            exact ih
        | some other =>
            rw [List.filter_cons_of_pos (by simp [hFind]),
              List.map_cons, List.map_cons,
              (of_find hFind).2]
            exact congrArg (entry.1 :: ·) ih
  unfold Unique
  rw [hKeys]
  exact
    List.Nodup.sublist (List.filter_sublist.map _)
      order.nodup

/- Common keys are read in the other list. -/
theorem find_renewed
    (hUnique : Unique key items)
    (hOthers : Unique key others)
    (order : HashMap.Iteration (index key items))
    (sought : K) :
    find key sought (renewed order others) =
      if find key sought items = none then none
      else find key sought others := by
  apply Option.ext
  intro item
  rw [find_eq_some_iff (unique_renewed hOthers order),
    mem_renewed_iff hUnique hOthers]
  by_cases hNone : find key sought items = none
  · rw [if_pos hNone]
    constructor
    · rintro ⟨⟨_, hFound⟩, rfl⟩
      exact absurd hNone hFound
    · intro hItem
      cases hItem
  · rw [if_neg hNone, find_eq_some_iff hOthers]
    constructor
    · rintro ⟨⟨hOther, _⟩, hKey⟩
      exact ⟨hOther, hKey⟩
    · rintro ⟨hOther, rfl⟩
      exact ⟨⟨hOther, hNone⟩, rfl⟩

end KeyedList

end IsaWorkspace
