import IsaWorkspace.Foundations.Loops
import Mathlib.Data.Finset.Card
import Mathlib.Logic.Relation

/-
  Two loops over the nodes of a graph.

  `Links` follows the one link that each node has, and lists
  the nodes on the way.  `Reachability` keeps a stack of the
  nodes that are still to be visited, and lists the nodes it
  has found.  The first ends with the chain of its start if
  there is one; the second ends on every finite graph, with
  each node that can be reached in one step or more.

  Main declarations:
    * `Links.round`, `Links.Chain`, `Links.ends_iff_chain`
    * `Links.exists_chain`, `Links.Chain.nodup`
    * `Links.Parent`, `Links.Chain.mem_iff`
    * `Reachability.round`
    * `Reachability.ends_with_reachable`
-/

------------------------------------------------------------
-- Following Links
------------------------------------------------------------

namespace IsaWorkspace

namespace Links

variable {α : Type}

/-
  The node to look at next, if any, and the nodes seen.  A
  node that is not there ends the loop.
-/
def round
    (link : α → Option (Option α))
    (state : Option α × List α) :
    Round (Option α × List α) (List α) :=
  match state.1 with
  | none => .done state.2
  | some node =>
      match link node with
      | none => .done state.2
      | some next => .again (next, state.2 ++ [node])

/- The nodes on the way from a node to its last one. -/
inductive Chain
    (link : α → Option (Option α)) :
    Option α → List α → Prop where
  | ended : Chain link none []
  | missing
      {node : α}
      (hLink : link node = none) :
      Chain link (some node) []
  | linked
      {node : α}
      {next : Option α}
      {rest : List α}
      (hLink : link node = some next)
      (hRest : Chain link next rest) :
      Chain link (some node) (node :: rest)

variable {link : α → Option (Option α)}
variable {start : Option α} {seen chain : List α}

/- With a chain the loop ends, with the chain at the end. -/
theorem Chain.ends
    (hChain : Chain link start chain) :
    Loop.Ends (round link) (start, seen) (seen ++ chain) := by
  induction hChain generalizing seen with
  | ended =>
      rw [List.append_nil]
      exact Loop.ends_of_done rfl
  | missing hLink =>
      rw [List.append_nil]
      apply Loop.ends_of_done
      simp only [round, hLink]
  | @linked node next rest hLink hRest ih =>
      have hRound :
          round link (some node, seen) =
            .again (next, seen ++ [node]) := by
        simp only [round, hLink]
      have hLater := @ih (seen ++ [node])
      rw [List.append_assoc, List.singleton_append] at hLater
      exact (Loop.ends_again_iff hRound).mpr hLater

/- A loop that has ended has seen a chain. -/
theorem chain_of_ends
    {result : List α}
    (hEnds : Loop.Ends (round link) (start, seen) result) :
    ∃ chain,
      result = seen ++ chain ∧ Chain link start chain := by
  rcases Loop.ends_iff.mp hEnds with ⟨rounds, hRun⟩
  clear hEnds
  induction rounds generalizing start seen with
  | zero => cases hRun
  | succ rounds ih =>
      unfold Loop.run round at hRun
      cases start with
      | none =>
          cases hRun
          exact ⟨[], (List.append_nil _).symm, .ended⟩
      | some node =>
          dsimp only at hRun
          cases hLink : link node with
          | none =>
              rw [hLink] at hRun
              cases hRun
              exact
                ⟨[], (List.append_nil _).symm,
                  .missing hLink⟩
          | some next =>
              rw [hLink] at hRun
              rcases ih hRun with ⟨rest, hResult, hRest⟩
              refine ⟨node :: rest, ?_, .linked hLink hRest⟩
              rw [hResult, List.append_assoc,
                List.singleton_append]

/- The loop ends with the chain of its start, if at all. -/
theorem ends_iff_chain :
    Loop.Ends (round link) (start, []) chain ↔
      Chain link start chain := by
  constructor
  · intro hEnds
    rcases chain_of_ends hEnds with ⟨found, rfl, hChain⟩
    exact hChain
  · intro hChain
    exact hChain.ends

/- Links that go down in a rank lead to an end. -/
theorem exists_chain
    (rank : α → Nat)
    (hDown :
      ∀ node next, link node = some (some next) →
        rank next < rank node)
    (start : Option α) :
    ∃ chain, Chain link start chain := by
  cases start with
  | none => exact ⟨[], .ended⟩
  | some node =>
      induction hRank : rank node
          using Nat.strongRecOn generalizing node with
      | ind size ih =>
          cases hLink : link node with
          | none => exact ⟨[], .missing hLink⟩
          | some next =>
              cases next with
              | none => exact ⟨[node], .linked hLink .ended⟩
              | some parent =>
                  have hLess := hDown node parent hLink
                  rw [hRank] at hLess
                  rcases ih _ hLess parent rfl with
                    ⟨rest, hRest⟩
                  exact ⟨node :: rest, .linked hLink hRest⟩

/- A node links to its parent. -/
def Parent
    (link : α → Option (Option α))
    (parent child : α) : Prop :=
  link child = some (some parent)

/- A chain has the nodes from which its start descends. -/
theorem Chain.mem_iff
    {node target : α}
    (hChain : Chain link (some node) chain) :
    target ∈ chain ↔
      link target ≠ none ∧
        Relation.ReflTransGen (Parent link) target node := by
  generalize hStart : some node = start at hChain
  induction hChain generalizing node with
  | ended => cases hStart
  | @missing other hLink =>
      cases hStart
      constructor
      · intro hMember
        cases hMember
      · rintro ⟨hThere, hDescends⟩
        rcases Relation.ReflTransGen.cases_tail hDescends
          with hSame | ⟨parent, _, hParent⟩
        · exact absurd (hSame ▸ hLink) hThere
        · unfold Parent at hParent
          rw [hLink] at hParent
          cases hParent
  | @linked other next rest hLink hRest ih =>
      cases hStart
      rw [List.mem_cons]
      constructor
      · rintro (rfl | hMember)
        · exact ⟨by simp [hLink], Relation.ReflTransGen.refl⟩
        · cases next with
          | none =>
              cases hRest
              cases hMember
          | some parent =>
              have hParent := (ih rfl).mp hMember
              exact ⟨hParent.1, hParent.2.tail hLink⟩
      · rintro ⟨hThere, hDescends⟩
        rcases Relation.ReflTransGen.cases_tail hDescends
          with hSame | ⟨parent, hParent, hNode⟩
        · exact Or.inl hSame.symm
        · unfold Parent at hNode
          rw [hLink] at hNode
          cases hNode
          exact Or.inr ((ih rfl).mpr ⟨hThere, hParent⟩)

section Ranked

variable {rank : α → Nat}
variable
  (hDown :
    ∀ node next, link node = some (some next) →
      rank next < rank node)
include hDown

/- A descendant ranks higher. -/
theorem rank_lt_of_descends
    {ancestor node : α}
    (hDescends :
      Relation.TransGen (Parent link) ancestor node) :
    rank ancestor < rank node := by
  induction hDescends with
  | single hParent => exact hDown _ _ hParent
  | tail _ hParent ih => exact ih.trans (hDown _ _ hParent)

/- No node descends from itself. -/
theorem descends_iff
    {ancestor node : α} :
    Relation.TransGen (Parent link) ancestor node ↔
      ancestor ≠ node ∧
        Relation.ReflTransGen (Parent link) ancestor
          node := by
  constructor
  · intro hDescends
    refine ⟨?_, hDescends.to_reflTransGen⟩
    rintro rfl
    exact
      Nat.lt_irrefl _ (rank_lt_of_descends hDown hDescends)
  · rintro ⟨hOther, hDescends⟩
    rcases Relation.reflTransGen_iff_eq_or_transGen.mp
        hDescends with hSame | hTrans
    · exact absurd hSame.symm hOther
    · exact hTrans

/- A chain along which ranks go down repeats no node. -/
theorem Chain.nodup
    (hChain : Chain link start chain) :
    chain.Nodup := by
  induction hChain with
  | ended => exact List.nodup_nil
  | missing hLink => exact List.nodup_nil
  | @linked node next rest hLink hRest ih =>
      refine List.nodup_cons.mpr ⟨?_, ih⟩
      intro hMember
      cases next with
      | none =>
          cases hRest
          cases hMember
      | some parent =>
          have hDescends :
              Relation.TransGen (Parent link) node node :=
            Relation.TransGen.tail' (hRest.mem_iff.mp hMember).2
              hLink
          exact
            Nat.lt_irrefl _
              (rank_lt_of_descends hDown hDescends)

end Ranked

end Links

------------------------------------------------------------
-- Searching a Graph
------------------------------------------------------------

namespace Reachability

variable {α : Type} [DecidableEq α]

/- The nodes to visit, the last one first, and those found. -/
structure Search (α : Type) where
  toVisit : List α
  found : List α

/- A node that is new is found, and visited later. -/
def visit
    (search : Search α)
    (child : α) : Search α :=
  if child ∈ search.found then
    search
  else
    { toVisit := child :: search.toVisit
      found := search.found ++ [child] }

/- Visit the children of the last node to visit. -/
def round
    (children : α → List α)
    (search : Search α) : Round (Search α) (List α) :=
  match search.toVisit with
  | [] => .done search.found
  | node :: rest =>
      .again
        ((children node).foldl visit ⟨rest, search.found⟩)

/- What can be reached in one step or more. -/
def Reaches
    (children : α → List α)
    (node target : α) : Prop :=
  Relation.TransGen
    (fun parent child => child ∈ children parent) node target

/-
  What has been found has been reached, and the children of
  the start and of the nodes found have been found, but for
  those of the nodes that are still to be visited.
-/
structure Searched
    (children : α → List α)
    (start : α)
    (search : Search α) : Prop where
  nodup : search.found.Nodup
  reached :
    ∀ node ∈ search.found, Reaches children start node
  visits :
    ∀ node ∈ search.toVisit,
      node = start ∨ node ∈ search.found
  closed :
    ∀ node, node = start ∨ node ∈ search.found →
      node ∈ search.toVisit ∨
        ∀ child ∈ children node, child ∈ search.found

/- What one visit after another adds. -/
structure Visited
    (children : List α)
    (before after : Search α) : Prop where
  found :
    ∀ node,
      node ∈ after.found ↔
        node ∈ before.found ∨ node ∈ children
  toVisit :
    ∀ node,
      node ∈ after.toVisit ↔
        node ∈ before.toVisit ∨
          node ∈ children ∧ node ∉ before.found
  nodup : before.found.Nodup → after.found.Nodup
  balance :
    after.toVisit.length + before.found.length =
      before.toVisit.length + after.found.length

theorem visited_foldl
    (children : List α)
    (search : Search α) :
    Visited children search
      (children.foldl visit search) := by
  induction children generalizing search with
  | nil =>
      exact
        { found := by simp
          toVisit := by simp
          nodup := id
          balance := rfl }
  | cons child rest ih =>
      rw [List.foldl_cons]
      have hRest := ih (visit search child)
      unfold visit at hRest ⊢
      by_cases hFound : child ∈ search.found
      · rw [if_pos hFound] at hRest ⊢
        constructor
        · intro node
          rw [hRest.found, List.mem_cons]
          constructor
          · rintro (hOld | hNew)
            · exact Or.inl hOld
            · exact Or.inr (Or.inr hNew)
          · rintro (hOld | rfl | hNew)
            · exact Or.inl hOld
            · exact Or.inl hFound
            · exact Or.inr hNew
        · intro node
          rw [hRest.toVisit, List.mem_cons]
          constructor
          · rintro (hOld | ⟨hNew, hNot⟩)
            · exact Or.inl hOld
            · exact Or.inr ⟨Or.inr hNew, hNot⟩
          · rintro (hOld | ⟨rfl | hNew, hNot⟩)
            · exact Or.inl hOld
            · exact absurd hFound hNot
            · exact Or.inr ⟨hNew, hNot⟩
        · exact hRest.nodup
        · exact hRest.balance
      · rw [if_neg hFound] at hRest ⊢
        constructor
        · intro node
          rw [hRest.found, List.mem_append,
            List.mem_singleton, List.mem_cons, or_assoc]
        · intro node
          rw [hRest.toVisit]
          dsimp only
          rw [List.mem_cons, List.mem_cons, List.mem_append,
            List.mem_singleton, not_or]
          by_cases hNode : node = child
          · subst hNode
            simp [hFound]
          · simp [hNode]
        · intro hNodup
          apply hRest.nodup
          refine List.nodup_append.mpr
            ⟨hNodup, List.nodup_singleton _, ?_⟩
          intro node hNode other hOther hSame
          rcases List.mem_singleton.mp hOther with rfl
          exact hFound (hSame ▸ hNode)
        · have hBalance := hRest.balance
          rw [List.length_cons, List.length_append,
            List.length_singleton] at hBalance
          omega

/- Nothing has been found at the start. -/
omit [DecidableEq α] in
theorem searched_start
    (children : α → List α)
    (start : α) :
    Searched children start ⟨[start], []⟩ where
  nodup := List.nodup_nil
  reached := by
    intro node hNode
    cases hNode
  visits := by
    intro node hNode
    exact Or.inl (List.mem_singleton.mp hNode)
  closed := by
    rintro node (rfl | hNode)
    · exact Or.inl (List.mem_singleton_self _)
    · cases hNode

variable {children : α → List α} {start : α}

/- Visiting a node keeps what is known of the search. -/
theorem Searched.step
    {node : α}
    {rest found : List α}
    (hSearched :
      Searched children start ⟨node :: rest, found⟩) :
    Searched children start
      ((children node).foldl visit ⟨rest, found⟩) := by
  have hVisited := visited_foldl (children node) ⟨rest, found⟩
  have hNode : node = start ∨ node ∈ found :=
    hSearched.visits node List.mem_cons_self
  generalize
    (children node).foldl visit ⟨rest, found⟩ = after
    at hVisited ⊢
  constructor
  · exact hVisited.nodup hSearched.nodup
  · intro other hOther
    rcases (hVisited.found other).mp hOther with hOld | hNew
    · exact hSearched.reached other hOld
    · rcases hNode with rfl | hFound
      · exact Relation.TransGen.single hNew
      · exact (hSearched.reached node hFound).tail hNew
  · intro other hOther
    rcases (hVisited.toVisit other).mp hOther with
      hOld | ⟨hNew, _⟩
    · rcases hSearched.visits other
          (List.mem_cons_of_mem _ hOld) with hStart | hFound
      · exact Or.inl hStart
      · exact Or.inr ((hVisited.found other).mpr (Or.inl hFound))
    · exact Or.inr ((hVisited.found other).mpr (Or.inr hNew))
  · intro other hOther
    by_cases hKnown : other = start ∨ other ∈ found
    · rcases hSearched.closed other hKnown with hStill | hDone
      · rcases List.mem_cons.mp hStill with rfl | hRest
        · right
          intro child hChild
          exact (hVisited.found child).mpr (Or.inr hChild)
        · exact
            Or.inl
              ((hVisited.toVisit other).mpr (Or.inl hRest))
      · right
        intro child hChild
        exact
          (hVisited.found child).mpr
            (Or.inl (hDone child hChild))
    · -- a node found in this round is still to be visited
      left
      rw [not_or] at hKnown
      rcases hOther with rfl | hFound
      · exact absurd rfl hKnown.1
      · rcases (hVisited.found other).mp hFound with
          hOld | hNew
        · exact absurd hOld hKnown.2
        · exact
            (hVisited.toVisit other).mpr
              (Or.inr ⟨hNew, hKnown.2⟩)

/- With nothing left to visit all that is reached is found. -/
omit [DecidableEq α] in
theorem Searched.found_iff
    {found : List α}
    (hSearched : Searched children start ⟨[], found⟩)
    {target : α} :
    target ∈ found ↔ Reaches children start target := by
  have hClosed :
      ∀ node, node = start ∨ node ∈ found →
        ∀ child ∈ children node, child ∈ found := by
    intro node hNode
    rcases hSearched.closed node hNode with hStill | hDone
    · cases hStill
    · exact hDone
  constructor
  · exact hSearched.reached target
  · intro hReaches
    induction hReaches with
    | single hChild =>
        exact hClosed start (Or.inl rfl) _ hChild
    | tail _ hChild ih =>
        exact hClosed _ (Or.inr ih) _ hChild

/-
  On a finite graph the search ends, and it has found each
  node that can be reached exactly once.
-/
theorem ends_with_reachable
    (children : α → List α)
    (nodes : Finset α)
    (hNodes :
      ∀ node, ∀ child ∈ children node, child ∈ nodes)
    (start : α) :
    ∃ found,
      Loop.Ends (round children) ⟨[start], []⟩ found ∧
        found.Nodup ∧
        ∀ target,
          target ∈ found ↔ Reaches children start target := by
  let Inv : Search α → Prop := fun search =>
    Searched children start search ∧
      ∀ node ∈ search.found, node ∈ nodes
  -- each round takes one node off the stack, and puts one
  -- there for each node it finds
  let measure : Search α → Nat := fun search =>
    search.toVisit.length + (nodes.card - search.found.length)
  have hBound :
      ∀ search : Search α, search.found.Nodup →
        (∀ node ∈ search.found, node ∈ nodes) →
          search.found.length ≤ nodes.card := by
    intro search hNodup hInside
    rw [← List.toFinset_card_of_nodup hNodup]
    apply Finset.card_le_card
    intro node hNode
    exact hInside node (List.mem_toFinset.mp hNode)
  refine
    Loop.ends_of_measure Inv measure ?_ ?_ _
      ⟨searched_start children start, fun _ h => nomatch h⟩
  · rintro ⟨toVisit, found⟩ next ⟨hSearched, hInside⟩ hRound
    cases toVisit with
    | nil => cases hRound
    | cons node rest =>
        cases hRound
        have hVisited :=
          visited_foldl (children node) ⟨rest, found⟩
        have hNext := hSearched.step
        have hNextInside :
            ∀ other ∈
                ((children node).foldl visit
                  ⟨rest, found⟩).found,
              other ∈ nodes := by
          intro other hOther
          rcases (hVisited.found other).mp hOther with
            hOld | hNew
          · exact hInside other hOld
          · exact hNodes node other hNew
        refine ⟨⟨hNext, hNextInside⟩, ?_⟩
        have hBalance := hVisited.balance
        have hMost :=
          hBound _ hNext.nodup hNextInside
        dsimp only [measure] at hBalance ⊢
        rw [List.length_cons]
        omega
  · rintro ⟨toVisit, found⟩ result ⟨hSearched, _⟩ hRound
    cases toVisit with
    | cons node rest => cases hRound
    | nil =>
        cases hRound
        exact
          ⟨hSearched.nodup, fun _ => hSearched.found_iff⟩

end Reachability

end IsaWorkspace
