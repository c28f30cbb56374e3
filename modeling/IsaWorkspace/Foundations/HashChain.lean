import Mathlib.Data.List.Induction

/-
  Chains of entries linked by hashes.

  Each entry stores its own hash and the hash of the entry
  before it.  `verifyFrom` walks a list of entries and checks
  both against the hashes it expects, the first against a
  given start.  What is left of a verified chain after its
  front is dropped verifies from the hash the front ended in.

  Main declarations:
    * `HashLinks`
    * `HashLinks.verifyFrom`, `HashLinks.tip`
    * `HashLinks.verifyFrom_append`
    * `HashLinks.verifyFrom_set_iff`
    * `HashLinks.linked_of_verified`
    * `HashLinks.verifyFrom_suffix_iff`
    * `HashLinks.tip_eq_iff`
-/

------------------------------------------------------------
-- Linked Entries
------------------------------------------------------------

namespace IsaWorkspace

/- The three hashes of an entry of a chain. -/
structure HashLinks (E H : Type) where
  previous : E → H
  stored : E → H
  calculated : E → H

namespace HashLinks

variable {E H : Type} [DecidableEq H]

/- Check the links of a chain that starts at a hash. -/
def verifyFrom
    (links : HashLinks E H) :
    H → List E → Bool
| _, [] => true
| expected, entry :: rest =>
    decide (links.previous entry = expected) &&
      decide (links.calculated entry = links.stored entry) &&
        verifyFrom links (links.stored entry) rest

/- The hash the next entry of a chain must refer to. -/
omit [DecidableEq H] in
def tip
    (links : HashLinks E H)
    (start : H)
    (entries : List E) : H :=
  entries.foldl (fun _ entry => links.stored entry) start

variable {links : HashLinks E H}
variable {start other : H}

omit [DecidableEq H] in
@[simp] theorem tip_nil :
    links.tip start [] = start := rfl

omit [DecidableEq H] in
theorem tip_concat
    (entries : List E)
    (entry : E) :
    links.tip start (entries ++ [entry]) =
      links.stored entry := by
  unfold tip
  rw [List.foldl_append]
  rfl

@[simp] theorem verifyFrom_nil :
    links.verifyFrom start [] = true := rfl

theorem verifyFrom_cons_iff
    {entry : E}
    {rest : List E} :
    links.verifyFrom start (entry :: rest) = true ↔
      links.previous entry = start ∧
        links.calculated entry = links.stored entry ∧
          links.verifyFrom (links.stored entry) rest =
            true := by
  rw [verifyFrom, Bool.and_eq_true, Bool.and_eq_true,
    decide_eq_true_iff, decide_eq_true_iff, and_assoc]

/- A chain verifies when its two parts do, in turn. -/
theorem verifyFrom_append
    (earlier later : List E) :
    links.verifyFrom start (earlier ++ later) = true ↔
      links.verifyFrom start earlier = true ∧
        links.verifyFrom (links.tip start earlier) later =
          true := by
  induction earlier generalizing start with
  | nil => simp
  | cons entry rest ih =>
      rw [List.cons_append, verifyFrom_cons_iff,
        verifyFrom_cons_iff, ih]
      constructor
      · rintro ⟨hPrevious, hStored, hRest, hLater⟩
        exact ⟨⟨hPrevious, hStored, hRest⟩, hLater⟩
      · rintro ⟨⟨hPrevious, hStored, hRest⟩, hLater⟩
        exact ⟨hPrevious, hStored, hRest, hLater⟩

/- A verified chain may be extended by a linked entry. -/
theorem verifyFrom_concat
    {entries : List E}
    {entry : E}
    (hVerified : links.verifyFrom start entries = true)
    (hPrevious :
      links.previous entry = links.tip start entries)
    (hStored :
      links.calculated entry = links.stored entry) :
    links.verifyFrom start (entries ++ [entry]) = true := by
  rw [verifyFrom_append]
  refine ⟨hVerified, ?_⟩
  rw [verifyFrom_cons_iff]
  exact ⟨hPrevious, hStored, rfl⟩

/- In a verified chain every entry stores its own hash. -/
theorem stored_of_verified
    {entries : List E}
    {entry : E}
    (hVerified : links.verifyFrom start entries = true)
    (hEntry : entry ∈ entries) :
    links.calculated entry = links.stored entry := by
  induction entries generalizing start with
  | nil => cases hEntry
  | cons first rest ih =>
      rw [verifyFrom_cons_iff] at hVerified
      rcases List.mem_cons.mp hEntry with rfl | hRest
      · exact hVerified.2.1
      · exact ih hVerified.2.2 hRest

/- Two entries in a row of a verified chain are linked. -/
theorem linked_of_verified
    {entries : List E}
    {earlier entry : E}
    {index : Nat}
    (hVerified : links.verifyFrom start entries = true)
    (hEarlier : entries[index]? = some earlier)
    (hEntry : entries[index + 1]? = some entry) :
    links.previous entry = links.stored earlier := by
  induction entries generalizing start index with
  | nil => cases hEarlier
  | cons first rest ih =>
      rw [verifyFrom_cons_iff] at hVerified
      cases index with
      | succ index => exact ih hVerified.2.2 hEarlier hEntry
      | zero =>
          cases hEarlier
          cases rest with
          | nil => cases hEntry
          | cons second others =>
              cases hEntry
              have hRest := hVerified.2.2
              rw [verifyFrom_cons_iff] at hRest
              exact hRest.1

/- Whether a chain verifies with a new last entry. -/
theorem verifyFrom_concat_iff
    {entries : List E}
    {entry : E} :
    links.verifyFrom start (entries ++ [entry]) = true ↔
      links.verifyFrom start entries = true ∧
        links.previous entry = links.tip start entries ∧
          links.calculated entry = links.stored entry := by
  rw [verifyFrom_append, verifyFrom_cons_iff,
    verifyFrom_nil]
  simp only [and_true]

/-
  With one entry of a verified chain replaced by one that
  stores the same hash, the rest of the chain still is in
  order; only the new entry's own links count.
-/
theorem verifyFrom_set_iff
    {entries : List E}
    {entry replaced : E}
    {index : Nat}
    (hVerified : links.verifyFrom start entries = true)
    (hEntry : entries[index]? = some entry)
    (hStored : links.stored replaced = links.stored entry) :
    links.verifyFrom start (entries.set index replaced) =
        true ↔
      links.previous replaced = links.previous entry ∧
        links.calculated replaced =
          links.calculated entry := by
  induction entries generalizing start index with
  | nil => simp at hEntry
  | cons first rest ih =>
      rw [verifyFrom_cons_iff] at hVerified
      rcases hVerified with ⟨hPrevious, hCalculated, hRest⟩
      cases index with
      | zero =>
          cases hEntry
          rw [List.set_cons_zero, verifyFrom_cons_iff,
            hStored, hPrevious, hCalculated]
          constructor
          · rintro ⟨hStart, hOwn, _⟩
            exact ⟨hStart, hOwn⟩
          · rintro ⟨hStart, hOwn⟩
            exact ⟨hStart, hOwn, hRest⟩
      | succ index =>
          rw [List.set_cons_succ, verifyFrom_cons_iff,
            ih hRest hEntry]
          constructor
          · rintro ⟨_, _, hOwn⟩
            exact hOwn
          · intro hOwn
            exact ⟨hPrevious, hCalculated, hOwn⟩

------------------------------------------------------------
-- Dropped Fronts
------------------------------------------------------------

/-
  What is left of a verified chain verifies from a hash
  exactly when nothing is left, or the dropped front ended
  in that hash.
-/
theorem verifyFrom_suffix_iff
    {dropped kept : List E}
    (hVerified :
      links.verifyFrom start (dropped ++ kept) = true) :
    links.verifyFrom other kept = true ↔
      kept = [] ∨ links.tip start dropped = other := by
  have hKept :=
    ((verifyFrom_append dropped kept).mp hVerified).2
  cases kept with
  | nil => simp
  | cons entry rest =>
      rw [verifyFrom_cons_iff] at hKept ⊢
      rcases hKept with ⟨hPrevious, hStored, hRest⟩
      constructor
      · rintro ⟨hOther, _⟩
        exact Or.inr (hPrevious.symm.trans hOther)
      · rintro (hNil | hTip)
        · cases hNil
        · exact ⟨hPrevious.trans hTip, hStored, hRest⟩

/-
  A verified chain ends in a hash no entry can have exactly
  when it is empty and starts there.
-/
theorem tip_eq_iff
    {entries : List E}
    (hVerified : links.verifyFrom start entries = true)
    (hNever : ∀ entry, links.calculated entry ≠ other) :
    links.tip start entries = other ↔
      entries = [] ∧ start = other := by
  induction entries using List.reverseRecOn with
  | nil => simp
  | append_singleton earlier entry _ =>
      have hEntry :=
        ((verifyFrom_append earlier [entry]).mp
          hVerified).2
      rw [verifyFrom_cons_iff] at hEntry
      rw [tip_concat]
      constructor
      · intro hStored
        exact
          absurd (hEntry.2.1.trans hStored) (hNever entry)
      · rintro ⟨hNil, _⟩
        simp at hNil

end HashLinks

end IsaWorkspace
