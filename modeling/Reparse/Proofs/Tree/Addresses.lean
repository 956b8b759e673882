import Reparse.Proofs.Tree.Preorder

/-!
# Addresses in a tree

Equal nodes may stand at several places of a tree, so a place is told by its address: which of the
nodes right below to take, step after step.

Main statements: `map_snd_addressed` and `pairwise_addressed`.
-/

namespace Reparse

abbrev Address := List Nat

/-- The inner place lies below the outer one. -/
def Above (outer inner : Address) : Prop := outer <+: inner ∧ outer ≠ inner

instance : DecidableRel Above := fun outer inner =>
  inferInstanceAs (Decidable (outer <+: inner ∧ outer ≠ inner))

@[simp]
theorem not_above_nil (outer : Address) : ¬ Above outer [] := by
  simp [Above]

@[simp]
theorem nil_above_cons (index : Nat) (rest : Address) : Above [] (index :: rest) := by
  simp [Above]

@[simp]
theorem cons_above_cons {index index' : Nat} {outer inner : Address} :
    Above (index :: outer) (index' :: inner) ↔ index = index' ∧ Above outer inner := by
  simp only [Above, List.cons_prefix_cons, ne_eq, List.cons.injEq, not_and, and_assoc]
  exact and_congr_right fun same => and_congr_right fun _ => forall_prop_of_true same

/-! ## Numbered lists of places -/

section Numbered

variable {α : Type}

def numbered : Nat → List (List (Address × α)) → List (Address × α)
  | _, [] => []
  | index, places :: rest =>
      (places.map fun place => (index :: place.1, place.2)) ++ numbered (index + 1) rest

theorem numbered_append (index : Nat) (first second : List (List (Address × α))) :
    numbered index (first ++ second) =
      numbered index first ++ numbered (index + first.length) second := by
  induction first generalizing index with
  | nil => rfl
  | cons places rest induction =>
      simp only [List.cons_append, numbered, induction, List.append_assoc, List.length_cons]
      congr 3
      omega

theorem mem_numbered {index : Nat} {lists : List (List (Address × α))} {place : Address × α} :
    place ∈ numbered index lists ↔
      ∃ count places rest, lists[count]? = some places ∧ (rest, place.2) ∈ places ∧
        place.1 = (index + count) :: rest := by
  obtain ⟨address, label⟩ := place
  induction lists generalizing index with
  | nil => simp [numbered]
  | cons first others induction =>
      simp only [numbered, List.mem_append, List.mem_map, Prod.mk.injEq, induction]
      constructor
      · rintro (⟨place, member, rfl, rfl⟩ | ⟨count, places, rest, found, member, rfl⟩)
        · exact ⟨0, first, place.1, rfl, member, rfl⟩
        · exact ⟨count + 1, places, rest, found, member, by congr 1; omega⟩
      · rintro ⟨count, places, rest, found, member, rfl⟩
        cases count with
        | zero =>
            obtain rfl : first = places := by simpa using found
            exact .inl ⟨(rest, label), member, rfl, rfl⟩
        | succ count =>
            exact .inr ⟨count, places, rest, found, member, by congr 1; omega⟩

theorem nil_above_of_numbered {index : Nat} {lists : List (List (Address × α))}
    {place : Address × α} (member : place ∈ numbered index lists) : Above [] place.1 := by
  obtain ⟨count, _, rest, -, -, address⟩ := mem_numbered.mp member
  exact address ▸ nil_above_cons _ _

/-- Places below different indices are not above one another. -/
theorem not_above_of_numbered {index : Nat} {first second : List (List (Address × α))}
    {place other : Address × α} (member : place ∈ numbered index first)
    (member' : other ∈ numbered (index + first.length) second) :
    ¬ Above place.1 other.1 ∧ ¬ Above other.1 place.1 := by
  obtain ⟨count, _, rest, found, -, address⟩ := mem_numbered.mp member
  obtain ⟨count', _, rest', -, -, address'⟩ := mem_numbered.mp member'
  have before : count < first.length := (List.getElem?_eq_some_iff.mp found).1
  rw [address, address', cons_above_cons, cons_above_cons]
  exact ⟨by omega, by omega⟩

theorem map_snd_numbered (index : Nat) (lists : List (List (Address × α))) :
    (numbered index lists).map Prod.snd = lists.flatMap (·.map Prod.snd) := by
  induction lists generalizing index with
  | nil => rfl
  | cons places rest induction =>
      simp [numbered, induction, Function.comp_def]

theorem pairwise_numbered {related : Address × α → Address × α → Prop}
    {lists : List (List (Address × α))} (index : Nat)
    (within : ∀ places ∈ lists, ∀ index : Nat,
      (places.map fun place => (index :: place.1, place.2)).Pairwise related)
    (across : lists.Pairwise fun first second => ∀ place ∈ first, ∀ other ∈ second,
      ∀ index index' : Nat, index < index' →
        related (index :: place.1, place.2) (index' :: other.1, other.2)) :
    (numbered index lists).Pairwise related := by
  induction lists generalizing index with
  | nil => exact .nil
  | cons places rest induction =>
      obtain ⟨first, across⟩ := List.pairwise_cons.mp across
      rw [numbered, List.pairwise_append]
      refine ⟨within places List.mem_cons_self index,
        induction (index + 1) (fun later member => within later (.tail _ member)) across, ?_⟩
      intro place member other member'
      obtain ⟨place, listed, rfl⟩ := List.mem_map.mp member
      obtain ⟨count, later, tail, found, listed', address⟩ := mem_numbered.mp member'
      obtain ⟨_, label⟩ := other
      subst address
      exact first later (List.mem_of_getElem? found) place listed _ listed' _ _ (by omega)

end Numbered

namespace Tree

def subnodes (node : Tree) : List Tree := node.children.flatten

@[simp]
theorem flatten_part (child : List Tree) : (part child).flatten = child := by
  cases child <;> simp [part]

theorem chainSteps_pos (chain : List Tree) : 0 < chainSteps chain := by
  induction chain with
  | nil => simp [chainSteps]
  | cons node next induction =>
      rw [chainSteps]
      omega

theorem steps_lt_of_mem_chain {chain : List Tree} {node : Tree} (member : node ∈ chain) :
    node.steps < chainSteps chain := by
  induction chain with
  | nil => cases member
  | cons head next induction =>
      have positive := chainSteps_pos next
      rw [chainSteps]
      rcases List.mem_cons.mp member with rfl | later
      · omega
      · have := induction later
        omega

theorem steps_lt_of_mem_subnodes {node below : Tree} (member : below ∈ node.subnodes) :
    below.steps < node.steps := by
  obtain ⟨chain, part, member⟩ := List.mem_flatten.mp member
  have within : chainSteps chain ≤ stackSteps node.children := by
    obtain ⟨before, after, split⟩ := List.append_of_mem part
    rw [split, stackSteps_append, stackSteps]
    omega
  have := steps_lt_of_mem_chain member
  have := stackSteps_children_lt node
  omega

@[elab_as_elim]
theorem subnode_induction {motive : Tree → Prop}
    (step : ∀ node : Tree, (∀ below ∈ node.subnodes, motive below) → motive node) (node : Tree) :
    motive node :=
  step node fun below _ => subnode_induction step below
termination_by node.steps
decreasing_by exact steps_lt_of_mem_subnodes ‹_›

theorem chainPreorder_eq_flatMap (chain : List Tree) :
    chainPreorder chain = chain.flatMap preorder := by
  induction chain with
  | nil => simp [chainPreorder]
  | cons node next induction => simp [chainPreorder, induction]

theorem chainsPreorder_eq_flatten (chains : List (List Tree)) :
    chainsPreorder chains = chainPreorder chains.flatten := by
  induction chains with
  | nil => simp [chainsPreorder, chainPreorder]
  | cons chain rest induction => simp [chainsPreorder, induction]

theorem walk_eq_cons (node : Tree) : node.walk = node :: node.subnodes.flatMap walk := by
  simp only [funext walk_eq_preorder, ← chainPreorder_eq_flatMap, subnodes]
  rw [preorder_eq_cons, chainsPreorder_eq_flatten]

theorem tokens_eq (node : Tree) :
    node.tokens = node.ownToken?.toList ++ node.subnodes.flatMap tokens := by
  rw [tokens, walk_eq_cons, List.filterMap_cons, List.filterMap_flatMap]
  cases node.ownToken? <;> rfl

theorem subnodes_of_isLeaf {node : Tree} (leaf : node.isLeaf = true) : node.subnodes = [] := by
  cases node with
  | token | missing => rfl
  | nonTerminal | empty | optional | alternation | repetition => cases leaf

theorem tokens_of_isLeaf {node : Tree} (leaf : node.isLeaf = true) :
    node.tokens = node.ownToken?.toList := by
  rw [tokens_eq, subnodes_of_isLeaf leaf, List.flatMap_nil, List.append_nil]

theorem mem_tokens_token (expr : ExprId) (id : TokenId) : id ∈ (Tree.token expr id).tokens := by
  rw [tokens_of_isLeaf rfl]
  exact List.mem_singleton_self id

theorem walk_sublist_of_mem_walk {node below : Tree} (member : below ∈ node.walk) :
    below.walk.Sublist node.walk := by
  induction node using subnode_induction with
  | step node induction =>
      rw [walk_eq_cons] at member
      rcases List.mem_cons.mp member with rfl | member
      · exact List.Sublist.refl _
      · obtain ⟨middle, right_below, member⟩ := List.mem_flatMap.mp member
        have within : middle.walk.Sublist (node.subnodes.flatMap walk) :=
          List.sublist_flatten_of_mem (List.mem_map_of_mem right_below)
        rw [walk_eq_cons node]
        exact ((induction middle right_below member).trans within).cons _

theorem tokens_sublist_of_mem_walk {node below : Tree} (member : below ∈ node.walk) :
    below.tokens.Sublist node.tokens :=
  (walk_sublist_of_mem_walk member).filterMap ownToken?

theorem mem_walk_of_mem_subnodes {node below : Tree} (member : below ∈ node.subnodes) :
    below ∈ node.walk := by
  rw [walk_eq_cons]
  refine List.mem_cons_of_mem _ (List.mem_flatMap.mpr ⟨below, member, ?_⟩)
  rw [walk_eq_cons]
  exact List.mem_cons_self

/-- All tokens of the first node are related to those of the second one. -/
def TokensRelate (relation : TokenId → TokenId → Prop) (first second : Tree) : Prop :=
  ∀ id ∈ first.tokens, ∀ id' ∈ second.tokens, relation id id'

/-- A relation along the tokens of a node holds along those of each node right below, and from one
of them to the next ones. -/
theorem pairwise_tokens {relation : TokenId → TokenId → Prop} {node : Tree}
    (ordered : node.tokens.Pairwise relation) :
    (∀ below ∈ node.subnodes, below.tokens.Pairwise relation) ∧
      node.subnodes.Pairwise (TokensRelate relation) := by
  rw [tokens_eq, List.pairwise_append, List.pairwise_flatMap] at ordered
  exact ordered.2.1

/-! ## Places -/

/-- The places of a tree in preorder, each with its address. -/
def addressed (node : Tree) : List (Address × Tree) :=
  ([], node) :: numbered 0 (node.subnodes.attach.map fun below => below.1.addressed)
termination_by node.steps
decreasing_by exact steps_lt_of_mem_subnodes below.2

theorem addressed_eq (node : Tree) :
    node.addressed = ([], node) :: numbered 0 (node.subnodes.map addressed) := by
  rw [addressed, @List.attach_map_val _ _ _ addressed]

def at? : Tree → Address → Option Tree
  | node, [] => some node
  | node, index :: rest => node.subnodes[index]?.bind (·.at? rest)

theorem map_snd_addressed (node : Tree) : node.addressed.map Prod.snd = node.walk := by
  induction node using subnode_induction with
  | step node induction =>
      rw [addressed_eq, walk_eq_cons, List.map_cons, map_snd_numbered, List.flatMap_map,
        List.flatMap_def, List.flatMap_def, List.map_congr_left induction]

theorem mem_addressed {root : Tree} {place : Address × Tree} :
    place ∈ root.addressed ↔ root.at? place.1 = some place.2 := by
  obtain ⟨address, node⟩ := place
  induction address generalizing root with
  | nil =>
      rw [addressed_eq, List.mem_cons, mem_numbered]
      simp [at?, eq_comm]
  | cons index rest induction =>
      rw [addressed_eq, List.mem_cons, mem_numbered]
      simp only [Prod.mk.injEq, reduceCtorEq, false_and, false_or, List.getElem?_map,
        Option.map_eq_some_iff, Nat.zero_add, List.cons.injEq, at?, Option.bind_eq_some_iff]
      constructor
      · rintro ⟨count, places, rest', ⟨below, found, rfl⟩, member, rfl, rfl⟩
        exact ⟨below, found, induction.mp member⟩
      · rintro ⟨below, found, reached⟩
        exact ⟨index, _, rest, ⟨below, found, rfl⟩, induction.mpr reached, rfl, rfl⟩

theorem at?_append (root : Tree) (first second : Address) :
    root.at? (first ++ second) = (root.at? first).bind (·.at? second) := by
  induction first generalizing root with
  | nil => rfl
  | cons index rest induction =>
      simp only [List.cons_append, at?, Option.bind_assoc, induction]

theorem mem_walk_of_mem_addressed {root : Tree} {place : Address × Tree}
    (member : place ∈ root.addressed) : place.2 ∈ root.walk := by
  rw [← map_snd_addressed]
  exact List.mem_map_of_mem member

theorem mem_walk_of_above {root : Tree} {place other : Address × Tree}
    (member : place ∈ root.addressed) (member' : other ∈ root.addressed)
    (above : Above place.1 other.1) : other.2 ∈ place.2.subnodes.flatMap walk := by
  obtain ⟨⟨rest, split⟩, ne⟩ := above
  have found := mem_addressed.mp member'
  rw [← split, at?_append, mem_addressed.mp member, Option.bind_some] at found
  cases rest with
  | nil => exact (ne (by simpa using split)).elim
  | cons index rest =>
      obtain ⟨below, right_below, found⟩ := Option.bind_eq_some_iff.mp found
      have listed : (rest, other.2) ∈ below.addressed := mem_addressed.mpr found
      have walked := mem_walk_of_mem_addressed listed
      exact List.mem_flatMap.mpr ⟨below, List.mem_of_getElem? right_below, walked⟩

theorem tokens_subset_of_above {root : Tree} {place other : Address × Tree}
    (member : place ∈ root.addressed) (member' : other ∈ root.addressed)
    (above : Above place.1 other.1) : other.2.tokens ⊆ place.2.tokens := by
  apply List.Sublist.subset
  apply tokens_sublist_of_mem_walk
  rw [walk_eq_cons]
  exact List.mem_cons_of_mem _ (mem_walk_of_above member member' above)

/-- Of two places the first is above the second one unless its tokens come first. -/
theorem pairwise_addressed {relation : TokenId → TokenId → Prop} {node : Tree}
    (ordered : node.tokens.Pairwise relation) :
    node.addressed.Pairwise fun place later =>
      Above place.1 later.1 ∨ TokensRelate relation place.2 later.2 := by
  induction node using subnode_induction with
  | step node induction =>
      obtain ⟨within, across⟩ := pairwise_tokens ordered
      rw [addressed_eq, List.pairwise_cons]
      refine ⟨fun later member => .inl (nil_above_of_numbered member),
        pairwise_numbered 0 ?within ?across⟩
      case within =>
        intro places member index
        obtain ⟨below, right_below, rfl⟩ := List.mem_map.mp member
        rw [List.pairwise_map]
        simpa only [cons_above_cons, true_and] using
          induction below right_below (within below right_below)
      case across =>
        rw [List.pairwise_map]
        refine across.imp fun {first second} relates place member other member' _ _ _ => .inr ?_
        have tokens := tokens_sublist_of_mem_walk (mem_walk_of_mem_addressed member)
        have tokens' := tokens_sublist_of_mem_walk (mem_walk_of_mem_addressed member')
        exact fun id token id' token' =>
          relates id (tokens.subset token) id' (tokens'.subset token')

end Tree

end Reparse
