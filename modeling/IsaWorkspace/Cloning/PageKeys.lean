import IsaWorkspace.Cloning.Pages
import IsaWorkspace.Foundations.Text

/-
  Whose page a write touches.

  The key of a page joins the identifiers of a state and of
  a region by a dash.  Identifiers may hold dashes too, so
  two places can have one key, and a write to one of them
  is then a write to the other.

  Main declarations:
    * `StateCloner.Collide`, `StateCloner.pageKey_eq_iff`
    * `StateCloner.contents`, `StateCloner.TouchesOnePage`
    * `StateCloner.touchesOnePage_iff`
-/

------------------------------------------------------------
-- Keys
------------------------------------------------------------

namespace IsaWorkspace

namespace StateCloner

/-
  One state's identifier goes on, after a dash, with what
  the other's region starts with before a dash.
-/
def Collide
    (place other : StateId × String) : Prop :=
  ∃ middle,
    other.1.id = place.1.id ++ "-" ++ middle ∧
      place.2 = middle ++ "-" ++ other.2

theorem collide_iff
    (place other : StateId × String) :
    Collide place other ↔
      ∃ middle,
        other.1.id.toList =
            place.1.id.toList ++ '-' :: middle ∧
          place.2.toList =
            middle ++ '-' :: other.2.toList := by
  constructor
  · rintro ⟨middle, hState, hRegion⟩
    refine ⟨middle.toList, ?_, ?_⟩
    · rw [hState]
      simp
    · rw [hRegion]
      simp
  · rintro ⟨middle, hState, hRegion⟩
    refine ⟨String.ofList middle, ?_, ?_⟩
    · apply String.toList_inj.mp
      rw [hState]
      simp
    · apply String.toList_inj.mp
      rw [hRegion]
      simp

theorem not_collide_self
    (place : StateId × String) :
    ¬ Collide place place := by
  rw [collide_iff]
  rintro ⟨middle, hState, _⟩
  have hLength := congrArg List.length hState
  rw [List.length_append, List.length_cons] at hLength
  omega

/- Two places have one key if one of them runs into the other. -/
theorem pageKey_eq_iff
    (place other : StateId × String) :
    pageKey place.1 place.2 = pageKey other.1 other.2 ↔
      place = other ∨ Collide place other ∨
        Collide other place := by
  have hList (first second : StateId × String) :
      pageKey first.1 first.2 = pageKey second.1 second.2 ↔
        first.1.id.toList ++ '-' :: first.2.toList =
          second.1.id.toList ++ '-' :: second.2.toList := by
    unfold pageKey
    rw [← String.toList_inj]
    simp
  have hSame :
      place = other ↔
        place.1.id.toList = other.1.id.toList ∧
          place.2.toList = other.2.toList := by
    obtain ⟨⟨id⟩, regionId⟩ := place
    obtain ⟨⟨id'⟩, regionId'⟩ := other
    simp [String.toList_inj]
  rw [hList, Text.append_separator_eq_iff, hSame, collide_iff,
    collide_iff]

------------------------------------------------------------
-- Writes
------------------------------------------------------------

variable {B : Type}

/- The data and the reference count of a place's page. -/
def contents
    (cloner : StateCloner B)
    (place : StateId × String) : Option (Bytes × Nat) :=
  (cloner.pages.lookup (pageKey place.1 place.2)).map
    fun page => (page.data, page.refCount)

/- A write to one place leaves the page of another alone. -/
def TouchesOnePage
    (cloner : StateCloner B)
    (place other : StateId × String)
    (newData : Bytes) : Prop :=
  place ≠ other →
    (modifyPage place.1 place.2 newData cloner).2.contents
        other =
      cloner.contents other

/- A write changes what is there under its key alone. -/
theorem contents_modifyPage
    (cloner : StateCloner B)
    (place other : StateId × String)
    (newData : Bytes) :
    (modifyPage place.1 place.2 newData cloner).2.contents
        other =
      if pageKey other.1 other.2 = pageKey place.1 place.2
      then some (newData, 1)
      else cloner.contents other := by
  obtain ⟨page, hCount, hData, hLookup⟩ :=
    lookup_modifyPage place.1 place.2 newData cloner
  unfold contents
  rw [hLookup]
  split
  · rw [Option.map_some, hCount, hData]
  · rfl

/-
  A write touches one page exactly where neither place runs
  into the other, or the page holds the data already, with
  one reference.
-/
theorem touchesOnePage_iff
    (cloner : StateCloner B)
    (place other : StateId × String)
    (newData : Bytes) :
    cloner.TouchesOnePage place other newData ↔
      ¬ (Collide place other ∨ Collide other place) ∨
        cloner.contents other = some (newData, 1) := by
  have hKeys := pageKey_eq_iff other place
  unfold TouchesOnePage
  rw [contents_modifyPage]
  by_cases hSame : place = other
  · subst hSame
    apply iff_of_true
    · intro hOther
      exact absurd rfl hOther
    · refine Or.inl ?_
      rw [or_self]
      exact not_collide_self place
  · have hOther : other ≠ place := Ne.symm hSame
    rw [or_iff_right hOther, or_comm] at hKeys
    by_cases hCollide :
        Collide place other ∨ Collide other place
    · rw [if_pos (hKeys.mpr hCollide)]
      constructor
      · intro hUntouched
        exact Or.inr (hUntouched hSame).symm
      · rintro (hApart | hHeld)
        · exact absurd hCollide hApart
        · exact fun _ => hHeld.symm
    · rw [if_neg fun hKey => hCollide (hKeys.mp hKey)]
      exact iff_of_true (fun _ => rfl) (Or.inl hCollide)

end StateCloner

------------------------------------------------------------
-- Sample Writes
------------------------------------------------------------

/-
  The region "1-ram" of a state "vm" and the region "ram" of
  a state "vm-1": a write to the second changes the first.
-/
theorem not_touchesOnePage_sample :
    ¬ (StateCloner.modifyPage ⟨"vm"⟩ "1-ram" [0x11]
        (StateCloner.new .default
          (StateStore.new ⟨2⟩
            MemoryBackend.new))).2.TouchesOnePage
        (⟨"vm-1"⟩, "ram") (⟨"vm"⟩, "1-ram") [0x22] := by
  intro hUntouched
  have hContents := hUntouched (by decide)
  revert hContents
  decide +kernel

end IsaWorkspace
