import Mathlib.Data.Finmap
import Mathlib.Algebra.BigOperators.Group.Multiset.Basic

/-
  Finite maps with their size and their total weight.

  `HashMap K V` is a finite map compared by its contents: a
  hash map's iteration order is not part of its value.

  Main declarations:
    * `HashMap`
    * `HashMap.SubMap`, `HashMap.subMap_insert_iff`
    * `HashMap.len`
    * `HashMap.len_insert_le`, `HashMap.len_erase_le`
    * `HashMap.retain`, `HashMap.lookup_retain`
    * `HashMap.mapValues`, `HashMap.lookup_mapValues`
    * `HashMap.insertAll`, `HashMap.lookup_insertAll_iff`
    * `HashMap.weight`
    * `HashMap.weight_insert`, `HashMap.weight_eq_card`
    * `HashMap.weight_le_of_subMap`
-/

------------------------------------------------------------
-- Finite Maps
------------------------------------------------------------

namespace IsaWorkspace

/- A finite map from keys to values. -/
abbrev HashMap (K V : Type) : Type :=
  Finmap fun _ : K => V

namespace HashMap

variable {K V : Type}

/- The number of entries. -/
def len
    (map : HashMap K V) : Nat :=
  map.keys.card

/- The sum of a size over all stored values. -/
def weight
    (size : V → Nat)
    (map : HashMap K V) : Nat :=
  (map.entries.map fun entry => size entry.2).sum

/- Drop the entries that do not meet a condition. -/
def retain
    (keep : K → V → Bool)
    (map : HashMap K V) : HashMap K V where
  entries :=
    map.entries.filter fun entry => keep entry.1 entry.2
  nodupKeys := by
    rcases map with ⟨entries, hNodup⟩
    induction entries using Quotient.inductionOn with
    | h list =>
        exact
          List.NodupKeys.sublist List.filter_sublist hNodup

/- Change every stored value. -/
def mapValues
    (change : V → V)
    (map : HashMap K V) : HashMap K V where
  entries :=
    map.entries.map fun entry => ⟨entry.1, change entry.2⟩
  nodupKeys := by
    rcases map with ⟨entries, hNodup⟩
    induction entries using Quotient.inductionOn with
    | h list =>
        have hKeys :
            (list.map fun entry =>
                (⟨entry.1, change entry.2⟩ :
                  Sigma fun _ : K => V)).keys =
              list.keys := by
          simp [List.keys, Function.comp_def]
        change List.Nodup _
        rw [hKeys]
        exact hNodup

variable [DecidableEq K]

/- Enter a list of pairs, one after the other. -/
def insertAll
    (entries : List (K × V))
    (map : HashMap K V) : HashMap K V :=
  entries.foldl
    (fun map entry => map.insert entry.1 entry.2) map

------------------------------------------------------------
-- Lookups After Updates
------------------------------------------------------------

/- Reading after an insertion, by whether the keys agree. -/
theorem lookup_insert_eq_ite
    (map : HashMap K V)
    (key other : K)
    (value : V) :
    (map.insert key value).lookup other =
      if other = key then some value
      else map.lookup other := by
  by_cases hKey : other = key
  · subst hKey
    simp
  · simp [hKey]

/- Reading after a removal, by whether the keys agree. -/
theorem lookup_erase_eq_ite
    (map : HashMap K V)
    (key other : K) :
    (map.erase key).lookup other =
      if other = key then none
      else map.lookup other := by
  by_cases hKey : other = key
  · subst hKey
    simp
  · simp [hKey]

/- Pairs with different keys are all that can be read. -/
theorem lookup_insertAll_iff
    {entries : List (K × V)}
    (hKeys : (entries.map Prod.fst).Nodup)
    (key : K)
    (value : V) :
    (insertAll entries ∅).lookup key = some value ↔
      (key, value) ∈ entries := by
  induction entries using List.reverseRecOn with
  | nil =>
      constructor
      · intro hLookup
        cases hLookup
      · intro hMem
        cases hMem
  | append_singleton earlier entry ih =>
      rw [List.map_append, List.nodup_append] at hKeys
      obtain ⟨hEarlier, -, hNew⟩ := hKeys
      have hIh := ih hEarlier
      unfold insertAll at hIh ⊢
      rw [List.foldl_append, List.foldl_cons,
        List.foldl_nil, lookup_insert_eq_ite,
        List.mem_append, List.mem_singleton]
      by_cases hKey : key = entry.1
      · -- no earlier pair has the key of the last one
        have hNotEarlier : (key, value) ∉ earlier := by
          intro hMem
          exact hNew key (List.mem_map_of_mem hMem) entry.1
            (List.mem_singleton_self _) hKey
        rw [if_pos hKey, Option.some.injEq]
        constructor
        · intro hValue
          exact Or.inr (Prod.ext hKey hValue.symm)
        · rintro (hMem | hEntry)
          · exact absurd hMem hNotEarlier
          · exact (congrArg Prod.snd hEntry).symm
      · have hNotLast : (key, value) ≠ entry := by
          intro hEntry
          exact hKey (congrArg Prod.fst hEntry)
        rw [if_neg hKey, hIh, or_iff_left hNotLast]

/- What is read after a cut was there and has been kept. -/
theorem lookup_retain
    (keep : K → V → Bool)
    (map : HashMap K V)
    (key : K)
    (value : V) :
    (retain keep map).lookup key = some value ↔
      map.lookup key = some value ∧
        keep key value = true := by
  rw [Finmap.lookup_eq_some_iff,
    Finmap.lookup_eq_some_iff]
  exact Multiset.mem_filter

/- What is read after a change of all values. -/
theorem lookup_mapValues
    (change : V → V)
    (map : HashMap K V)
    (key : K) :
    (mapValues change map).lookup key =
      (map.lookup key).map change := by
  apply Option.ext
  intro value
  rw [Finmap.lookup_eq_some_iff, Option.map_eq_some_iff]
  change _ ∈ map.entries.map _ ↔ _
  rw [Multiset.mem_map]
  constructor
  · rintro ⟨⟨other, stored⟩, hEntry, hSame⟩
    cases hSame
    exact
      ⟨stored, Finmap.lookup_eq_some_iff.mpr hEntry, rfl⟩
  · rintro ⟨stored, hLookup, rfl⟩
    exact
      ⟨⟨key, stored⟩,
        Finmap.lookup_eq_some_iff.mp hLookup, rfl⟩

/- Reading without an update, by whether the keys agree. -/
theorem lookup_eq_ite
    {map : HashMap K V}
    {key : K}
    {found : Option V}
    (hLookup : map.lookup key = found)
    (other : K) :
    map.lookup other =
      if other = key then found
      else map.lookup other := by
  by_cases hKey : other = key
  · subst hKey
    simp [hLookup]
  · simp [hKey]

/- Removing what an insertion will replace changes nothing. -/
theorem insert_erase
    (map : HashMap K V)
    (key : K)
    (value : V) :
    (map.erase key).insert key value =
      map.insert key value := by
  apply Finmap.ext_lookup
  intro other
  by_cases hKey : other = key
  · subst hKey
    simp
  · simp [hKey]

/- Putting a value back where it was changes nothing. -/
theorem insert_lookup
    {map : HashMap K V}
    {key : K}
    {value : V}
    (hLookup : map.lookup key = some value) :
    map.insert key value = map := by
  apply Finmap.ext_lookup
  intro other
  by_cases hKey : other = key
  · subst hKey
    simp [hLookup]
  · simp [hKey]

/- Removing an absent key changes nothing. -/
theorem erase_of_lookup_none
    {map : HashMap K V}
    {key : K}
    (hLookup : map.lookup key = none) :
    map.erase key = map := by
  apply Finmap.ext_lookup
  intro other
  by_cases hKey : other = key
  · subst hKey
    simp [hLookup]
  · simp [hKey]

/- Removing a present key does change the map. -/
theorem erase_ne_of_lookup_some
    {map : HashMap K V}
    {key : K}
    {value : V}
    (hLookup : map.lookup key = some value) :
    map.erase key ≠ map := by
  intro hEq
  have hGone : (map.erase key).lookup key = none :=
    Finmap.lookup_erase key map
  rw [hEq, hLookup] at hGone
  cases hGone

------------------------------------------------------------
-- Maps Inside Maps
------------------------------------------------------------

/- Every entry of the smaller map is one of the larger. -/
def SubMap
    (small large : HashMap K V) : Prop :=
  ∀ key value,
    small.lookup key = some value →
      large.lookup key = some value

instance
    [DecidableEq V]
    (small large : HashMap K V) :
    Decidable (SubMap small large) :=
  decidable_of_iff
    (∀ key ∈ small.keys, ∀ value ∈ small.lookup key,
      large.lookup key = some value)
    ⟨fun hSub key value hLookup =>
      hSub key
        (Finmap.mem_keys.mpr
          (Finmap.mem_of_lookup_eq_some hLookup))
        value hLookup,
      fun hSub key _ value hValue => hSub key value hValue⟩

variable {small middle large : HashMap K V}

theorem SubMap.refl
    (map : HashMap K V) :
    SubMap map map :=
  fun _ _ hLookup => hLookup

theorem SubMap.trans
    (hLeft : SubMap small middle)
    (hRight : SubMap middle large) :
    SubMap small large := by
  intro key value hLookup
  exact hRight key value (hLeft key value hLookup)

/- Removing an entry leaves a map inside the old one. -/
theorem subMap_erase
    (map : HashMap K V)
    (key : K) :
    SubMap (map.erase key) map := by
  intro other value hLookup
  rw [lookup_erase_eq_ite] at hLookup
  split at hLookup
  · cases hLookup
  · exact hLookup

/- The smaller map may take over an entry of the larger. -/
theorem SubMap.insert_small
    (hSub : SubMap small large)
    {key : K}
    {value : V}
    (hLookup : large.lookup key = some value) :
    SubMap (small.insert key value) large := by
  intro other found hFound
  rw [lookup_insert_eq_ite] at hFound
  split at hFound
  · next hKey =>
      cases hFound
      rw [hKey]
      exact hLookup
  · exact hSub other found hFound

/- Both maps may take the same entry. -/
theorem SubMap.insert_both
    (hSub : SubMap small large)
    (key : K)
    (value : V) :
    SubMap (small.insert key value)
      (large.insert key value) := by
  intro other found hFound
  rw [lookup_insert_eq_ite] at hFound ⊢
  split
  · next hKey =>
      rw [if_pos hKey] at hFound
      exact hFound
  · next hKey =>
      rw [if_neg hKey] at hFound
      exact hSub other found hFound

/- Cutting a map leaves one inside the old one. -/
theorem subMap_retain
    (keep : K → V → Bool)
    (map : HashMap K V) :
    SubMap (retain keep map) map := by
  intro key value hLookup
  exact ((lookup_retain keep map key value).mp hLookup).1

/- Both maps may lose the same entry. -/
theorem SubMap.erase_both
    (hSub : SubMap small large)
    (key : K) :
    SubMap (small.erase key) (large.erase key) := by
  intro other found hFound
  rw [lookup_erase_eq_ite] at hFound ⊢
  split
  · next hKey =>
      rw [if_pos hKey] at hFound
      exact hFound
  · next hKey =>
      rw [if_neg hKey] at hFound
      exact hSub other found hFound

/-
  An insertion into the larger map alone agrees with the
  smaller map exactly when that has no other value there.
-/
theorem subMap_insert_iff
    (hSub : SubMap small large)
    (key : K)
    (value : V) :
    SubMap small (large.insert key value) ↔
      small.lookup key = none ∨
        small.lookup key = some value := by
  constructor
  · intro hAfter
    cases hFound : small.lookup key with
    | none => exact Or.inl rfl
    | some found =>
        have hNew := hAfter key found hFound
        rw [Finmap.lookup_insert] at hNew
        exact Or.inr hNew.symm
  · intro hKey other found hFound
    rw [lookup_insert_eq_ite]
    split
    · next hSame =>
        rw [hSame] at hFound
        rcases hKey with hNone | hSome
        · rw [hNone] at hFound
          cases hFound
        · rw [← hSome]
          exact hFound
    · exact hSub other found hFound

/-
  A removal from the larger map alone agrees with the
  smaller map exactly when that has nothing there.
-/
theorem subMap_erase_iff
    (hSub : SubMap small large)
    (key : K) :
    SubMap small (large.erase key) ↔
      small.lookup key = none := by
  constructor
  · intro hAfter
    cases hFound : small.lookup key with
    | none => rfl
    | some found =>
        have hGone := hAfter key found hFound
        rw [Finmap.lookup_erase] at hGone
        cases hGone
  · intro hNone other found hFound
    rw [lookup_erase_eq_ite]
    split
    · next hSame =>
        rw [hSame, hNone] at hFound
        cases hFound
    · exact hSub other found hFound

------------------------------------------------------------
-- Sizes
------------------------------------------------------------

/- An insertion adds at most one entry. -/
theorem len_insert_le
    (map : HashMap K V)
    (key : K)
    (value : V) :
    len (map.insert key value) ≤ len map + 1 := by
  have hKeys :
      (map.insert key value).keys ⊆
        insert key map.keys := by
    intro other hOther
    rw [Finmap.mem_keys, Finmap.mem_insert] at hOther
    rw [Finset.mem_insert, Finmap.mem_keys]
    exact hOther
  exact
    (Finset.card_le_card hKeys).trans
      (Finset.card_insert_le _ _)

/- A removal adds no entry. -/
theorem len_erase_le
    (map : HashMap K V)
    (key : K) :
    len (map.erase key) ≤ len map := by
  rw [len, Finmap.keys_erase]
  exact Finset.card_le_card (Finset.erase_subset _ _)

------------------------------------------------------------
-- Weights
------------------------------------------------------------

/- Inserting a new key adds the weight of its value. -/
theorem weight_insert_of_lookup_none
    (size : V → Nat)
    {map : HashMap K V}
    {key : K}
    (value : V)
    (hLookup : map.lookup key = none) :
    weight size (map.insert key value) =
      weight size map + size value := by
  have hNew : key ∉ map :=
    Finmap.lookup_eq_none.mp hLookup
  rw [weight, Finmap.entries_insert_of_notMem hNew]
  simp [weight, Nat.add_comm]

/-
  An insertion weighs the other entries plus the new value,
  whether or not it replaces one.
-/
theorem weight_insert
    (size : V → Nat)
    (map : HashMap K V)
    (key : K)
    (value : V) :
    weight size (map.insert key value) =
      weight size (map.erase key) + size value := by
  rw [← insert_erase]
  exact weight_insert_of_lookup_none size value
    (Finmap.lookup_erase key map)

/- A map inside another weighs no more than that. -/
theorem weight_le_of_subMap
    (size : V → Nat)
    (hSub : SubMap small large) :
    weight size small ≤ weight size large := by
  have hSubset : small.entries ⊆ large.entries := by
    rintro ⟨key, value⟩ hEntry
    exact
      Finmap.mem_lookup_iff.mp
        (hSub key value (Finmap.mem_lookup_iff.mpr hEntry))
  have hNodup : small.entries.Nodup :=
    small.nodupKeys.nodup
  rcases Multiset.le_iff_exists_add.mp
      ((Multiset.le_iff_subset hNodup).mpr hSubset) with
    ⟨others, hEntries⟩
  unfold weight
  rw [hEntries, Multiset.map_add, Multiset.sum_add]
  exact Nat.le_add_right _ _

/- Values without a size weigh nothing. -/
theorem weight_eq_zero
    {size : V → Nat}
    {map : HashMap K V}
    (hZero :
      ∀ key value,
        map.lookup key = some value → size value = 0) :
    weight size map = 0 := by
  unfold weight
  apply Multiset.sum_eq_zero
  intro amount hAmount
  rcases Multiset.mem_map.mp hAmount with
    ⟨⟨key, value⟩, hEntry, rfl⟩
  exact hZero key value (Finmap.mem_lookup_iff.mpr hEntry)

/- Entries that weigh one are counted by their keys. -/
theorem weight_eq_card
    (keep : V → Bool)
    (map : HashMap K V) :
    weight (fun value => if keep value then 1 else 0) map =
      (map.keys.filter fun key =>
        (map.lookup key).any keep).card := by
  have hCount (entries : Multiset (Sigma fun _ : K => V)) :
      (entries.map fun entry =>
          if keep entry.2 then 1 else 0).sum =
        (entries.filter fun entry => keep entry.2).card := by
    induction entries using Multiset.induction_on with
    | empty => rfl
    | cons entry rest ih =>
        rw [Multiset.map_cons, Multiset.sum_cons, ih,
          Multiset.filter_cons, Multiset.card_add]
        split
        · rfl
        · rfl
  unfold weight
  rw [hCount]
  change
    _ =
      (Multiset.filter
        (fun key => (map.lookup key).any keep = true)
        (map.entries.map Sigma.fst)).card
  rw [Multiset.filter_map, Multiset.card_map]
  congr 1
  apply Multiset.filter_congr
  rintro ⟨key, value⟩ hEntry
  have hLookup : map.lookup key = some value :=
    Finmap.mem_lookup_iff.mpr hEntry
  rw [Function.comp_apply, hLookup, Option.any_some]

/- Removing a key never adds weight. -/
theorem weight_erase_le
    (size : V → Nat)
    (map : HashMap K V)
    (key : K) :
    weight size (map.erase key) ≤ weight size map := by
  exact weight_le_of_subMap size (subMap_erase map key)

end HashMap

end IsaWorkspace
