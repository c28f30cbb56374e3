import IsaWorkspace.Search.Index
import Mathlib.Data.Set.Basic

/-
  What the index holds of one state.

  A view is the entry of a state with the words and the tags
  under which the state is found.  Each atomic step changes
  the view of its own state in one way, and no other view.

  Main declarations:
    * `IndexView`, `StateSearchIndex.view`
    * `IndexView.Exact`
    * `StateSearchIndex.view_unlistWords`, ...
    * `StateSearchIndex.Tidy`
-/

------------------------------------------------------------
-- Views
------------------------------------------------------------

namespace IsaWorkspace

/- The entry of a state, and where the state is found. -/
@[ext] structure IndexView where
  entry : Option StateIndexEntry
  words : Set String
  tags : Set String

namespace StateIndexEntry

variable [Unicode]

/- The words of the label of an entry. -/
def wordSet
    (entry : StateIndexEntry) : Set String :=
  {word | word ∈ StateSearchIndex.tokenize entry.label}

omit [Unicode] in
/- The tags of an entry. -/
def tagSet
    (entry : StateIndexEntry) : Set String :=
  {tag | tag ∈ entry.tags}

end StateIndexEntry

/- A state is found under its words and tags only. -/
structure IndexView.Exact
    [Unicode]
    (view : IndexView) : Prop where
  words :
    view.words =
      view.entry.elim ∅ StateIndexEntry.wordSet
  tags :
    view.tags = view.entry.elim ∅ StateIndexEntry.tagSet

namespace StateSearchIndex

open StateIndexEntry

variable {index : StateSearchIndex}
variable {stateId other : StateId}
variable {entry : StateIndexEntry}

/- What the index holds of a state. -/
def view
    (index : StateSearchIndex)
    (stateId : StateId) : IndexView where
  entry := index.oldEntry stateId
  words :=
    {word | stateId ∈
      InvertedIndex.ids index.labelIndex word}
  tags :=
    {tag | stateId ∈ InvertedIndex.ids index.tagIndex tag}

/- A new index holds nothing. -/
theorem view_new :
    new.view stateId = ⟨none, ∅, ∅⟩ := by
  refine IndexView.ext rfl ?_ ?_
  · simp [view, new, InvertedIndex.ids_empty]
  · simp [view, new, InvertedIndex.ids_empty]

------------------------------------------------------------
-- What a Step Leaves of a View
------------------------------------------------------------

theorem view_unlistTags :
    (index.unlistTags stateId entry).view other =
      if other = stateId then
        { index.view other with
          tags := (index.view other).tags \ entry.tagSet }
      else
        index.view other := by
  have hTags :
      ((index.unlistTags stateId entry).view other).tags =
        {tag | tag ∈ (index.view other).tags ∧
          ¬ (other = stateId ∧ tag ∈ entry.tags)} := by
    ext tag
    exact InvertedIndex.mem_ids_unlistAll
  split
  · next hSame =>
      refine IndexView.ext rfl rfl ?_
      rw [hTags]
      ext tag
      simp [hSame, tagSet]
  · next hOther =>
      refine IndexView.ext rfl rfl ?_
      rw [hTags]
      simp [hOther]

theorem view_listTags :
    (index.listTags entry).view other =
      if other = entry.stateId then
        { index.view other with
          tags := (index.view other).tags ∪ entry.tagSet }
      else
        index.view other := by
  have hTags :
      ((index.listTags entry).view other).tags =
        {tag | tag ∈ (index.view other).tags ∨
          other = entry.stateId ∧ tag ∈ entry.tags} := by
    ext tag
    exact InvertedIndex.mem_ids_listAll
  split
  · next hSame =>
      refine IndexView.ext rfl rfl ?_
      rw [hTags]
      ext tag
      simp [hSame, tagSet]
  · next hOther =>
      refine IndexView.ext rfl rfl ?_
      rw [hTags]
      simp [hOther]

theorem view_removeEntry :
    (index.removeEntry stateId).view other =
      if other = stateId then
        { index.view other with entry := none }
      else
        index.view other := by
  have hEntry :
      ((index.removeEntry stateId).view other).entry =
        if other = stateId then none
        else (index.view other).entry :=
    HashMap.lookup_erase_eq_ite _ _ _
  split
  · next hSame =>
      rw [if_pos hSame] at hEntry
      exact IndexView.ext hEntry rfl rfl
  · next hOther =>
      rw [if_neg hOther] at hEntry
      exact IndexView.ext hEntry rfl rfl

theorem view_insertEntry :
    (index.insertEntry entry).view other =
      if other = entry.stateId then
        { index.view other with entry := some entry }
      else
        index.view other := by
  have hEntry :
      ((index.insertEntry entry).view other).entry =
        if other = entry.stateId then some entry
        else (index.view other).entry :=
    HashMap.lookup_insert_eq_ite _ _ _ _
  split
  · next hSame =>
      rw [if_pos hSame] at hEntry
      exact IndexView.ext hEntry rfl rfl
  · next hOther =>
      rw [if_neg hOther] at hEntry
      exact IndexView.ext hEntry rfl rfl

section Words

variable [Unicode]

theorem view_unlistWords :
    (index.unlistWords stateId entry).view other =
      if other = stateId then
        { index.view other with
          words := (index.view other).words \ entry.wordSet }
      else
        index.view other := by
  have hWords :
      ((index.unlistWords stateId entry).view other).words =
        {word | word ∈ (index.view other).words ∧
          ¬ (other = stateId ∧
            word ∈ tokenize entry.label)} := by
    ext word
    exact InvertedIndex.mem_ids_unlistAll
  split
  · next hSame =>
      refine IndexView.ext rfl ?_ rfl
      rw [hWords]
      ext word
      simp [hSame, wordSet]
  · next hOther =>
      refine IndexView.ext rfl ?_ rfl
      rw [hWords]
      simp [hOther]

theorem view_listWords :
    (index.listWords entry).view other =
      if other = entry.stateId then
        { index.view other with
          words := (index.view other).words ∪ entry.wordSet }
      else
        index.view other := by
  have hWords :
      ((index.listWords entry).view other).words =
        {word | word ∈ (index.view other).words ∨
          other = entry.stateId ∧
            word ∈ tokenize entry.label} := by
    ext word
    exact InvertedIndex.mem_ids_listAll
  split
  · next hSame =>
      refine IndexView.ext rfl ?_ rfl
      rw [hWords]
      ext word
      simp [hSame, wordSet]
  · next hOther =>
      refine IndexView.ext rfl ?_ rfl
      rw [hWords]
      simp [hOther]

end Words

------------------------------------------------------------
-- Tidy Indexes
------------------------------------------------------------

/- Entries are under their ids; no set is kept empty. -/
structure Tidy
    (index : StateSearchIndex) : Prop where
  keyed :
    ∀ stateId entry,
      index.oldEntry stateId = some entry →
        entry.stateId = stateId
  noEmptyWords : InvertedIndex.NoEmpty index.labelIndex
  noEmptyTags : InvertedIndex.NoEmpty index.tagIndex

theorem tidy_new : new.Tidy where
  keyed := by
    intro stateId entry hEntry
    cases hEntry
  noEmptyWords := InvertedIndex.noEmpty_empty
  noEmptyTags := InvertedIndex.noEmpty_empty

namespace Tidy

theorem unlistTags
    (hTidy : index.Tidy) :
    (index.unlistTags stateId entry).Tidy where
  keyed := hTidy.keyed
  noEmptyWords := hTidy.noEmptyWords
  noEmptyTags := hTidy.noEmptyTags.unlistAll

theorem listTags
    (hTidy : index.Tidy) :
    (index.listTags entry).Tidy where
  keyed := hTidy.keyed
  noEmptyWords := hTidy.noEmptyWords
  noEmptyTags := hTidy.noEmptyTags.listAll

theorem removeEntry
    (hTidy : index.Tidy) :
    (index.removeEntry stateId).Tidy where
  keyed := by
    intro other found hFound
    exact
      hTidy.keyed other found
        (HashMap.subMap_erase _ _ other found hFound)
  noEmptyWords := hTidy.noEmptyWords
  noEmptyTags := hTidy.noEmptyTags

theorem insertEntry
    (hTidy : index.Tidy) :
    (index.insertEntry entry).Tidy where
  keyed := by
    intro other found hFound
    have hEntry :=
      (HashMap.lookup_insert_eq_ite index.entries
        entry.stateId other entry).symm.trans hFound
    split at hEntry
    · next hSame =>
        cases hEntry
        exact hSame.symm
    · exact hTidy.keyed other found hEntry
  noEmptyWords := hTidy.noEmptyWords
  noEmptyTags := hTidy.noEmptyTags

variable [Unicode]

theorem unlistWords
    (hTidy : index.Tidy) :
    (index.unlistWords stateId entry).Tidy where
  keyed := hTidy.keyed
  noEmptyWords := hTidy.noEmptyWords.unlistAll
  noEmptyTags := hTidy.noEmptyTags

theorem listWords
    (hTidy : index.Tidy) :
    (index.listWords entry).Tidy where
  keyed := hTidy.keyed
  noEmptyWords := hTidy.noEmptyWords.listAll
  noEmptyTags := hTidy.noEmptyTags

end Tidy

end StateSearchIndex

end IsaWorkspace
