import Mathlib.Data.Set.Basic

/-
  Codes that tell where a word ends.

  A code is prefix-free on a set when no code word of a
  member begins the code word of another.  A word followed
  by anything then still determines its member, so that the
  words of several fields may be joined without separators.

  Main declarations:
    * `PrefixFreeOn`
    * `PrefixFreeOn.append_inj`
    * `prefixFreeOn_of_length`
-/

------------------------------------------------------------
-- Prefix-Free Codes
------------------------------------------------------------

namespace IsaWorkspace

variable {α β : Type}

/- No code word begins the code word of another member. -/
def PrefixFreeOn
    (code : α → List β)
    (used : Set α) : Prop :=
  ∀ value ∈ used, ∀ other ∈ used,
    code value <+: code other → value = other

variable {code : α → List β} {used : Set α}

/-
  What follows a code word does not blur it: of two code
  words that begin one list, one begins the other.
-/
theorem PrefixFreeOn.append_inj
    (hFree : PrefixFreeOn code used)
    {value other : α}
    (hValue : value ∈ used)
    (hOther : other ∈ used)
    {rest rest' : List β}
    (hEq : code value ++ rest = code other ++ rest') :
    value = other ∧ rest = rest' := by
  have hSame : value = other := by
    have hBegins :
        code value <+: code other ++ rest' := by
      rw [← hEq]
      exact List.prefix_append _ _
    have hBegins' :
        code other <+: code other ++ rest' :=
      List.prefix_append _ _
    rcases List.prefix_or_prefix_of_prefix hBegins
        hBegins' with
      hPrefix | hPrefix
    · exact hFree value hValue other hOther hPrefix
    · exact (hFree other hOther value hValue hPrefix).symm
  subst hSame
  exact ⟨rfl, List.append_cancel_left hEq⟩

/- One member alone has nothing to be mistaken for. -/
theorem prefixFreeOn_of_forall_eq
    {only : α}
    (hOnly : ∀ value ∈ used, value = only) :
    PrefixFreeOn code used := by
  intro value hValue other hOther _
  rw [hOnly value hValue, hOnly other hOther]

/- An injective code of one length is prefix-free. -/
theorem prefixFreeOn_of_length
    {count : Nat}
    (hLength : ∀ value, (code value).length = count)
    (hInjective : Function.Injective code) :
    PrefixFreeOn code used := by
  intro value _ other _ hPrefix
  apply hInjective
  apply hPrefix.eq_of_length
  rw [hLength, hLength]

end IsaWorkspace
