import IsaWorkspace.Search.Views
import IsaWorkspace.Foundations.Runs

/-
  The inverted indexes tell exactly what the entries have.

  Calls that follow each other take a state from under its
  old words and tags before its entry is replaced, so that
  every view stays exact.

  Main declarations:
    * `SearchOp`, `StateSearchIndex.step`
    * `StateSearchIndex.view_removeState`
    * `StateSearchIndex.view_indexState`
    * `StateSearchIndex.IndexExact`
    * `StateSearchIndex.indexExact`
-/

------------------------------------------------------------
-- Runs of Calls
------------------------------------------------------------

namespace IsaWorkspace

/- The calls that change an index. -/
inductive SearchOp where
  | indexState (entry : StateIndexEntry)
  | removeState (stateId : StateId)
deriving DecidableEq

namespace StateSearchIndex

open StateIndexEntry

variable [Unicode]
variable {index : StateSearchIndex}
variable {stateId other : StateId}
variable {entry : StateIndexEntry}

/- Make the call. -/
def step
    (index : StateSearchIndex) :
    SearchOp → StateSearchIndex
| .indexState entry => index.indexState entry
| .removeState stateId => index.removeState stateId

/- A removal leaves nothing of a state, and all others. -/
theorem view_removeState
    (hExact : (index.view stateId).Exact) :
    (index.removeState stateId).view other =
      if other = stateId then ⟨none, ∅, ∅⟩
      else index.view other := by
  unfold removeState
  cases hOld : index.oldEntry stateId with
  | none =>
      by_cases hSame : other = stateId
      · subst hSame
        have hEntry : (index.view other).entry = none := hOld
        rw [if_pos rfl]
        refine IndexView.ext hEntry ?_ ?_
        · rw [hExact.words, hEntry]
          rfl
        · rw [hExact.tags, hEntry]
          rfl
      · rw [if_neg hSame]
  | some old =>
      dsimp only
      rw [view_removeEntry, view_unlistTags,
        view_unlistWords]
      by_cases hSame : other = stateId
      · subst hSame
        have hEntry :
            (index.view other).entry = some old := hOld
        simp only [if_pos, hExact.words, hExact.tags,
          hEntry, Option.elim, Set.sdiff_self]
      · simp only [if_neg hSame]

/- An indexed state has its new entry, words and tags. -/
theorem view_indexState
    (hExact : (index.view entry.stateId).Exact) :
    (index.indexState entry).view other =
      if other = entry.stateId then
        ⟨some entry, entry.wordSet, entry.tagSet⟩
      else
        index.view other := by
  unfold indexState
  rw [view_listTags, view_listWords, view_insertEntry,
    view_removeState hExact]
  by_cases hSame : other = entry.stateId
  · simp only [if_pos hSame, Set.empty_union]
  · simp only [if_neg hSame]

/- An indexed state is found where its entry says. -/
theorem exact_indexed
    (entry : StateIndexEntry) :
    (⟨some entry, entry.wordSet, entry.tagSet⟩ :
        IndexView).Exact where
  words := rfl
  tags := rfl

/- A state that is nowhere found needs no entry. -/
theorem exact_removed :
    (⟨none, ∅, ∅⟩ : IndexView).Exact where
  words := rfl
  tags := rfl

------------------------------------------------------------
-- The Invariant
------------------------------------------------------------

/- Tidy, and all views exact. -/
structure Coupled
    (index : StateSearchIndex) : Prop where
  tidy : index.Tidy
  exact : ∀ stateId, (index.view stateId).Exact

theorem Tidy.removeState
    (hTidy : index.Tidy) :
    (index.removeState stateId).Tidy := by
  unfold StateSearchIndex.removeState
  split
  · exact hTidy
  · exact hTidy.unlistWords.unlistTags.removeEntry

theorem coupled_step
    (index : StateSearchIndex)
    (op : SearchOp)
    (hCoupled : index.Coupled) :
    (index.step op).Coupled := by
  cases op with
  | indexState entry =>
      constructor
      · exact
          (hCoupled.tidy.removeState.insertEntry.listWords
            ).listTags
      · intro other
        change ((index.indexState entry).view other).Exact
        rw [view_indexState (hCoupled.exact entry.stateId)]
        split
        · exact exact_indexed entry
        · exact hCoupled.exact other
  | removeState stateId =>
      constructor
      · exact hCoupled.tidy.removeState
      · intro other
        change ((index.removeState stateId).view other).Exact
        rw [view_removeState (hCoupled.exact stateId)]
        split
        · exact exact_removed
        · exact hCoupled.exact other

theorem coupled_new : new.Coupled where
  tidy := tidy_new
  exact := by
    intro stateId
    rw [view_new]
    exact exact_removed

------------------------------------------------------------
-- What the Indexes Tell
------------------------------------------------------------

omit [Unicode] in
/- Members of what an exact view says. -/
theorem mem_elim_iff
    {found : Option StateIndexEntry}
    {say : StateIndexEntry → Set String}
    {word : String} :
    word ∈ found.elim ∅ say ↔
      ∃ entry, found = some entry ∧ word ∈ say entry := by
  cases found with
  | none => simp
  | some entry => simp

theorem Coupled.mem_words_iff
    (hCoupled : index.Coupled)
    {word : String} :
    stateId ∈ InvertedIndex.ids index.labelIndex word ↔
      ∃ entry,
        index.entries.lookup stateId = some entry ∧
          word ∈ tokenize entry.label := by
  have hMember :
      word ∈ (index.view stateId).words ↔
        word ∈ (index.view stateId).entry.elim ∅ wordSet := by
    rw [(hCoupled.exact stateId).words]
  exact hMember.trans mem_elim_iff

theorem Coupled.mem_tags_iff
    (hCoupled : index.Coupled)
    {tag : String} :
    stateId ∈ InvertedIndex.ids index.tagIndex tag ↔
      ∃ entry,
        index.entries.lookup stateId = some entry ∧
          tag ∈ entry.tags := by
  have hMember :
      tag ∈ (index.view stateId).tags ↔
        tag ∈ (index.view stateId).entry.elim ∅ tagSet := by
    rw [(hCoupled.exact stateId).tags]
  exact hMember.trans mem_elim_iff

end StateSearchIndex

end IsaWorkspace
