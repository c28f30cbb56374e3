import IsaWorkspace.Foundations.HashMap

/-
  A map from an attribute of records to the keys of records.

  Several records may have one attribute, of which the index
  has one key.  The index is sound if each of its keys is of
  a record with the attribute, and it covers the records if
  the attribute of each of them has an entry.

  Main declarations:
    * `SecondaryIndex.Sound`, `SecondaryIndex.Covers`
    * `SecondaryIndex.Sound.insert`
    * `SecondaryIndex.Sound.erase`
    * `SecondaryIndex.Covers.insert`
    * `SecondaryIndex.covers_erase_iff`
-/

------------------------------------------------------------
-- Sound Indices
------------------------------------------------------------

namespace IsaWorkspace

namespace SecondaryIndex

variable {K V A : Type} [DecidableEq K] [DecidableEq A]

/- Every entry is for a record that has the attribute. -/
def Sound
    (records : K → Option V)
    (attrOf : V → A)
    (index : HashMap A K) : Prop :=
  ∀ value key, index.lookup value = some key →
    ∃ record, records key = some record ∧
      attrOf record = value

/- The attribute of every record has an entry. -/
def Covers
    (records : K → Option V)
    (attrOf : V → A)
    (index : HashMap A K) : Prop :=
  ∀ key record, records key = some record →
    index.lookup (attrOf record) ≠ none

variable {records others : K → Option V}
variable {attrOf : V → A} {index : HashMap A K}
variable {key : K} {record : V}

/- A new record and its entry are put in. -/
theorem Sound.insert
    (hSound : Sound records attrOf index)
    (hFresh : records key = none)
    (hOthers :
      ∀ other, others other =
        if other = key then some record
        else records other) :
    Sound others attrOf
      (index.insert (attrOf record) key) := by
  intro value found hLookup
  rw [HashMap.lookup_insert_eq_ite] at hLookup
  rw [hOthers]
  split at hLookup
  · rename_i hValue
    cases hLookup
    exact ⟨record, if_pos rfl, hValue.symm⟩
  · rcases hSound value found hLookup with
      ⟨stored, hStored, hValue⟩
    have hNe : found ≠ key := by
      rintro rfl
      rw [hFresh] at hStored
      cases hStored
    exact ⟨stored, (if_neg hNe).trans hStored, hValue⟩

/- A record and the entry of its attribute are taken out. -/
theorem Sound.erase
    (hSound : Sound records attrOf index)
    (hRecord : records key = some record)
    (hOthers :
      ∀ other, others other =
        if other = key then none else records other) :
    Sound others attrOf
      (index.erase (attrOf record)) := by
  intro value found hLookup
  rw [HashMap.lookup_erase_eq_ite] at hLookup
  rw [hOthers]
  split at hLookup
  · cases hLookup
  · rename_i hValue
    rcases hSound value found hLookup with
      ⟨stored, hStored, hStoredValue⟩
    have hNe : found ≠ key := by
      rintro rfl
      rw [hRecord] at hStored
      cases hStored
      exact hValue hStoredValue.symm
    exact
      ⟨stored, (if_neg hNe).trans hStored, hStoredValue⟩

------------------------------------------------------------
-- Covering Indices
------------------------------------------------------------

/- A record that is put in is covered with the others. -/
theorem Covers.insert
    (hCovers : Covers records attrOf index)
    (hOthers :
      ∀ other, others other =
        if other = key then some record
        else records other) :
    Covers others attrOf
      (index.insert (attrOf record) key) := by
  intro found stored hStored
  rw [hOthers] at hStored
  rw [HashMap.lookup_insert_eq_ite]
  split
  · exact Option.some_ne_none key
  · rename_i hValue
    split at hStored
    · cases hStored
      exact absurd rfl hValue
    · exact hCovers found stored hStored

/- Without an entry, no other record has its attribute. -/
theorem covers_erase_iff
    (hCovers : Covers records attrOf index)
    (hOthers :
      ∀ other, others other =
        if other = key then none else records other)
    {value : A} :
    Covers others attrOf (index.erase value) ↔
      ∀ other stored, other ≠ key →
        records other = some stored →
          attrOf stored ≠ value := by
  constructor
  · intro hAfter other stored hNe hStored hValue
    apply hAfter other stored
    · rw [hOthers, if_neg hNe]
      exact hStored
    · rw [HashMap.lookup_erase_eq_ite, if_pos hValue]
  · intro hApart other stored hStored
    rw [hOthers] at hStored
    split at hStored
    · cases hStored
    · rename_i hNe
      rw [HashMap.lookup_erase_eq_ite,
        if_neg (hApart other stored hNe hStored)]
      exact hCovers other stored hStored

end SecondaryIndex

end IsaWorkspace
