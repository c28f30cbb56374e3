import IsaWorkspace.Foundations.Reachability

/-
  When the links of nodes make a forest.

  Links that go down in some rank never lead back, so that
  each chain ends; giving a node a link to one that does not
  descend from it keeps a rank, and a link to one that does
  makes a cycle, on which no chain ends.  Where all parents
  are there, two nodes with a common ancestor have a nearest
  one: the first node of one chain that is on the other.

  Main declarations:
    * `Links.Ranked`, `Links.Ranked.relink`
    * `Links.not_chain_of_cycle`
    * `Links.Complete`, `Links.Nearest`
    * `Links.nearest_of_find`, `Links.Nearest.unique`
    * `Links.IsRoot`, `Links.IsRoot.unique`
-/

------------------------------------------------------------
-- Ranks and Cycles
------------------------------------------------------------

namespace IsaWorkspace

namespace Links

open Relation (ReflTransGen TransGen)

variable {α : Type}
variable {link link' : α → Option (Option α)}

/- Links go down in some rank. -/
def Ranked
    (link : α → Option (Option α)) : Prop :=
  ∃ rank : α → Nat,
    ∀ node next, link node = some (some next) →
      rank next < rank node

/- Every chain ends, and repeats no node. -/
theorem Ranked.exists_nodup_chain
    (hRanked : Ranked link)
    (start : Option α) :
    ∃ chain, Chain link start chain ∧ chain.Nodup := by
  rcases hRanked with ⟨rank, hDown⟩
  rcases exists_chain rank hDown start with ⟨chain, hChain⟩
  exact ⟨chain, hChain, hChain.nodup hDown⟩

/- A link to a node that does not descend from its own. -/
theorem Ranked.relink
    (hRanked : Ranked link)
    {node : α}
    {parent : Option α}
    (hNode : link' node = some parent)
    (hOthers :
      ∀ other, other ≠ node → link' other = link other)
    (hApart :
      ∀ above ∈ parent,
        ¬ ReflTransGen (Parent link) node above) :
    Ranked link' := by
  classical
  rcases hRanked with ⟨rank, hDown⟩
  -- all that descends from the node is lifted over its
  -- new parent
  let lift : Nat :=
    (parent.map fun above => rank above + 1).getD 0
  refine
    ⟨fun other =>
      if ReflTransGen (Parent link) node other then
        rank other + lift
      else
        rank other, ?_⟩
  intro other next hLink
  by_cases hSame : other = node
  · subst hSame
    rw [hNode] at hLink
    have hParent : parent = some next :=
      Option.some.inj hLink
    have hNot := hApart next hParent
    have hLift : lift = rank next + 1 := by
      subst hParent
      rfl
    simp only [if_pos ReflTransGen.refl, if_neg hNot, hLift]
    omega
  · rw [hOthers other hSame] at hLink
    have hLess := hDown other next hLink
    by_cases hNext : ReflTransGen (Parent link) node next
    · have hOther :
          ReflTransGen (Parent link) node other :=
        hNext.tail hLink
      simp only [if_pos hNext, if_pos hOther]
      omega
    · simp only [if_neg hNext]
      split
      · omega
      · exact hLess

/- On a cycle no chain ends. -/
theorem not_chain_of_cycle
    {node : α}
    (hCycle : TransGen (Parent link) node node)
    (chain : List α) :
    ¬ Chain link (some node) chain := by
  intro hChain
  generalize hStart : some node = start at hChain
  induction hChain generalizing node with
  | ended => cases hStart
  | @missing other hLink =>
      cases hStart
      rcases TransGen.tail'_iff.mp hCycle with
        ⟨parent, _, hParent⟩
      unfold Parent at hParent
      rw [hLink] at hParent
      cases hParent
  | @linked other next rest hLink hRest ih =>
      cases hStart
      rcases TransGen.tail'_iff.mp hCycle with
        ⟨parent, hDescends, hParent⟩
      have hNext : some parent = next := by
        unfold Parent at hParent
        rw [hLink] at hParent
        exact (Option.some.inj hParent).symm
      exact ih (TransGen.head' hParent hDescends) hNext

------------------------------------------------------------
-- Ancestors
------------------------------------------------------------

/- Every parent is there. -/
def Complete
    (link : α → Option (Option α)) : Prop :=
  ∀ node next, link node = some (some next) →
    link next ≠ none

/- The ancestors of a node that is there are there, too. -/
theorem Complete.there
    (hComplete : Complete link)
    {ancestor node : α}
    (hThere : link node ≠ none)
    (hDescends :
      ReflTransGen (Parent link) ancestor node) :
    link ancestor ≠ none := by
  rcases ReflTransGen.cases_head hDescends with
    rfl | ⟨child, hParent, _⟩
  · exact hThere
  · exact hComplete child ancestor hParent

/- A chain has the ancestors of its start. -/
theorem Complete.mem_chain_iff
    (hComplete : Complete link)
    {node target : α}
    {chain : List α}
    (hThere : link node ≠ none)
    (hChain : Chain link (some node) chain) :
    target ∈ chain ↔
      ReflTransGen (Parent link) target node := by
  rw [hChain.mem_iff]
  exact
    and_iff_right_of_imp fun hDescends =>
      hComplete.there hThere hDescends

/- From each of its nodes on, a chain is one itself. -/
theorem Chain.of_append
    {start : Option α}
    {earlier later : List α}
    {node : α}
    (hChain : Chain link start (earlier ++ node :: later)) :
    Chain link (some node) (node :: later) := by
  induction earlier generalizing start with
  | nil =>
      cases hChain with
      | linked hLink hRest => exact .linked hLink hRest
  | cons first rest ih =>
      cases hChain with
      | linked hLink hRest => exact ih hRest

/- Two ancestors of a node are one above the other. -/
theorem ancestors_total
    {one other node : α}
    (hOne : ReflTransGen (Parent link) one node)
    (hOther : ReflTransGen (Parent link) other node) :
    ReflTransGen (Parent link) one other ∨
      ReflTransGen (Parent link) other one := by
  have hUnique :
      Relator.RightUnique (Function.swap (Parent link)) := by
    intro child parent parent' hParent hParent'
    unfold Function.swap Parent at hParent hParent'
    rw [hParent] at hParent'
    exact Option.some.inj (Option.some.inj hParent')
  have hTotal :=
    ReflTransGen.total_of_right_unique hUnique
      (Relation.reflTransGen_swap.mpr hOne)
      (Relation.reflTransGen_swap.mpr hOther)
  rcases hTotal with hDown | hUp
  · exact Or.inr (Relation.reflTransGen_swap.mp hDown)
  · exact Or.inl (Relation.reflTransGen_swap.mp hUp)

/- Nodes that are above each other are the same. -/
theorem Ranked.ancestors_antisymm
    (hRanked : Ranked link)
    {one other : α}
    (hUp : ReflTransGen (Parent link) one other)
    (hDown : ReflTransGen (Parent link) other one) :
    one = other := by
  rcases hRanked with ⟨rank, hLess⟩
  by_contra hOther
  have hAbove :=
    rank_lt_of_descends hLess
      ((descends_iff hLess).mpr ⟨hOther, hUp⟩)
  have hBelow :=
    rank_lt_of_descends hLess
      ((descends_iff hLess).mpr ⟨Ne.symm hOther, hDown⟩)
  exact Nat.lt_asymm hAbove hBelow

------------------------------------------------------------
-- Nearest Common Ancestors
------------------------------------------------------------

/- A common ancestor that all others are ancestors of. -/
structure Nearest
    (link : α → Option (Option α))
    (one other nearest : α) : Prop where
  ofOne : ReflTransGen (Parent link) nearest one
  ofOther : ReflTransGen (Parent link) nearest other
  above :
    ∀ ancestor,
      ReflTransGen (Parent link) ancestor one →
        ReflTransGen (Parent link) ancestor other →
          ReflTransGen (Parent link) ancestor nearest

variable {one other nearest nearest' : α}

theorem Nearest.symm
    (hNearest : Nearest link one other nearest) :
    Nearest link other one nearest where
  ofOne := hNearest.ofOther
  ofOther := hNearest.ofOne
  above := fun ancestor hOther hOne =>
    hNearest.above ancestor hOne hOther

theorem Nearest.unique
    (hRanked : Ranked link)
    (hNearest : Nearest link one other nearest)
    (hNearest' : Nearest link one other nearest') :
    nearest = nearest' :=
  hRanked.ancestors_antisymm
    (hNearest'.above nearest hNearest.ofOne
      hNearest.ofOther)
    (hNearest.above nearest' hNearest'.ofOne
      hNearest'.ofOther)

variable [DecidableEq α] {chain chain' : List α}

/- The first node of one chain that is on the other. -/
theorem nearest_of_find
    (hComplete : Complete link)
    (hOne : link one ≠ none)
    (hOther : link other ≠ none)
    (hChain : Chain link (some one) chain)
    (hChain' : Chain link (some other) chain')
    (hFind :
      (chain.find? fun node => decide (node ∈ chain')) =
        some nearest) :
    Nearest link one other nearest := by
  have hMem : nearest ∈ chain :=
    List.mem_of_find?_eq_some hFind
  have hMem' : nearest ∈ chain' := by
    simpa using List.find?_some hFind
  have hThere : link nearest ≠ none :=
    (hChain.mem_iff.mp hMem).1
  rcases List.find?_eq_some_iff_append.mp hFind with
    ⟨_, earlier, later, rfl, hEarlier⟩
  refine
    ⟨(hComplete.mem_chain_iff hOne hChain).mp hMem,
      (hComplete.mem_chain_iff hOther hChain').mp hMem', ?_⟩
  intro ancestor hAbove hAbove'
  have hOn :=
    (hComplete.mem_chain_iff hOne hChain).mpr hAbove
  have hOn' :=
    (hComplete.mem_chain_iff hOther hChain').mpr hAbove'
  rcases List.mem_append.mp hOn with hBefore | hFrom
  · have hNot := hEarlier ancestor hBefore
    simp [hOn'] at hNot
  · exact
      (hComplete.mem_chain_iff hThere hChain.of_append).mp
        hFrom

/- Nothing is found where there is no common ancestor. -/
theorem find_eq_none_iff
    (hComplete : Complete link)
    (hOne : link one ≠ none)
    (hOther : link other ≠ none)
    (hChain : Chain link (some one) chain)
    (hChain' : Chain link (some other) chain') :
    (chain.find? fun node => decide (node ∈ chain')) =
        none ↔
      ∀ ancestor,
        ReflTransGen (Parent link) ancestor one →
          ¬ ReflTransGen (Parent link) ancestor other := by
  rw [List.find?_eq_none]
  refine forall_congr' fun ancestor => ?_
  rw [hComplete.mem_chain_iff hOne hChain,
    decide_eq_true_iff,
    hComplete.mem_chain_iff hOther hChain']

------------------------------------------------------------
-- Roots
------------------------------------------------------------

/- An ancestor that has no parent. -/
structure IsRoot
    (link : α → Option (Option α))
    (root node : α) : Prop where
  top : link root = some none
  above : ReflTransGen (Parent link) root node

variable {root root' node : α}

omit [DecidableEq α] in
/- Nothing is above a root. -/
theorem IsRoot.eq_of_above
    (hRoot : IsRoot link root node)
    {ancestor : α}
    (hAbove : ReflTransGen (Parent link) ancestor root) :
    ancestor = root := by
  rcases ReflTransGen.cases_tail hAbove with
    hSame | ⟨parent, _, hParent⟩
  · exact hSame.symm
  · unfold Parent at hParent
    rw [hRoot.top] at hParent
    cases hParent

omit [DecidableEq α] in
theorem IsRoot.unique
    (hRoot : IsRoot link root node)
    (hRoot' : IsRoot link root' node) :
    root = root' := by
  rcases ancestors_total hRoot.above hRoot'.above with
    hAbove | hBelow
  · exact hRoot'.eq_of_above hAbove
  · exact (hRoot.eq_of_above hBelow).symm

omit [DecidableEq α] in
/- A chain leads to a root. -/
theorem exists_root
    (hComplete : Complete link)
    (hThere : link node ≠ none)
    (hChain : Chain link (some node) chain) :
    ∃ root, IsRoot link root node := by
  generalize hStart : some node = start at hChain
  induction hChain generalizing node with
  | ended => cases hStart
  | missing hLink =>
      cases hStart
      exact absurd hLink hThere
  | @linked other next rest hLink hRest ih =>
      cases hStart
      cases next with
      | none => exact ⟨other, hLink, .refl⟩
      | some parent =>
          rcases ih (hComplete other parent hLink) rfl with
            ⟨root, hTop, hAbove⟩
          exact ⟨root, hTop, hAbove.tail hLink⟩

end Links

end IsaWorkspace
