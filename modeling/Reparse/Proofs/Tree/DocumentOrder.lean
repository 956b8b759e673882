import Reparse.Parse.Basic
import Reparse.Proofs.Tree.Addresses

/-!
# The walk goes in document order

A place comes before those below it, and of two nodes right below a place the earlier one comes with
all that lies below it.  A walk comes by all places in this order.
-/

namespace Reparse

namespace Tree

/-- The node at an address that begins with a node of the chain. -/
def among? (chain : List Tree) : Address → Option Tree
  | [] => none
  | index :: rest => chain[index]?.bind (·.at? rest)

/-- The places are all those below a chain, in the order of their addresses. -/
structure ListsPlaces (chain : List Tree) (places : List (Address × Tree)) : Prop where
  ascends : places.Pairwise fun place later => place.1 < later.1
  mem_iff : ∀ place, place ∈ places ↔ among? chain place.1 = some place.2

theorem ascends_numbered {lists : List (List (Address × Tree))} (index : Nat)
    (each : ∀ places ∈ lists, places.Pairwise fun place later => place.1 < later.1) :
    (numbered index lists).Pairwise fun place later => place.1 < later.1 := by
  apply pairwise_numbered
  · intro places member index
    rw [List.pairwise_map]
    simpa using each places member
  · refine List.pairwise_of_forall fun first second place _ other _ index index' before => ?_
    exact List.cons_lt_cons_iff.mpr (.inl before)

theorem ascends_addressed (node : Tree) :
    node.addressed.Pairwise fun place later => place.1 < later.1 := by
  induction node using subnode_induction with
  | step node induction =>
      rw [addressed_eq, List.pairwise_cons]
      constructor
      · intro later member
        obtain ⟨_, _, _, -, -, address⟩ := mem_numbered.mp member
        rw [address]
        exact List.nil_lt_cons _ _
      · apply ascends_numbered
        intro places member
        obtain ⟨below, right_below, rfl⟩ := List.mem_map.mp member
        exact induction below right_below

/-- The places below a chain, in preorder. -/
def chainPlaces (chain : List Tree) : List (Address × Tree) := numbered 0 (chain.map addressed)

theorem listsPlaces_chainPlaces (chain : List Tree) : ListsPlaces chain (chainPlaces chain) where
  ascends := by
    apply ascends_numbered
    intro places member
    obtain ⟨node, -, rfl⟩ := List.mem_map.mp member
    exact ascends_addressed node
  mem_iff := by
    rintro ⟨address, node⟩
    simp only [chainPlaces, mem_numbered, List.getElem?_map, Option.map_eq_some_iff, Nat.zero_add]
    constructor
    · rintro ⟨index, _, rest, ⟨top, found, rfl⟩, member, rfl⟩
      simp [among?, found, mem_addressed.mp member]
    · intro found
      cases address with
      | nil => cases found
      | cons index rest =>
          obtain ⟨top, at_index, found⟩ := Option.bind_eq_some_iff.mp found
          exact ⟨index, _, rest, ⟨top, at_index, rfl⟩, mem_addressed.mpr found, rfl⟩

theorem map_snd_chainPlaces (chain : List Tree) :
    (chainPlaces chain).map Prod.snd = walkChain chain := by
  rw [chainPlaces, map_snd_numbered, List.flatMap_map, walkChain]
  simp only [map_snd_addressed]

/-- A walk visits every place of a parse once, in the order of the document. -/
theorem walks_inDocumentOrder :
    (∀ node : Tree, node.walkLinks = (node, []) :: node.linksBelow ∧
      ∀ fuel, stackSteps [[node]] ≤ fuel → visit fuel [[node]] = node.walkLinks) ∧
    (∀ chain : List Tree, ∃ places, ListsPlaces chain places ∧
      walkChain chain = places.map Prod.snd ∧
      missingNodes chain = (places.filter fun place => place.2.isMissing).map Prod.snd) ∧
    ∀ parse : Parse, parse.nodes = walkChain [parse.tree] ∧
      parse.missingNodes = missingNodes [parse.tree] := by
  refine ⟨fun node => ?_, fun chain => ?_, fun parse => ⟨?_, rfl⟩⟩
  · have visits : ∀ fuel, stackSteps [[node]] ≤ fuel →
        visit fuel [[node]] = (node, []) :: node.linksBelow := by
      intro fuel enough
      rw [visit_eq_chainsLinks fuel _ enough]
      simp [chainsLinks, chainLinks]
    have walks := visits _ (Nat.le_refl _)
    exact ⟨walks, fun fuel enough => (visits fuel enough).trans walks.symm⟩
  · refine ⟨chainPlaces chain, listsPlaces_chainPlaces chain, (map_snd_chainPlaces chain).symm, ?_⟩
    rw [missingNodes, ← map_snd_chainPlaces, List.filter_map]
    rfl
  · rw [Parse.nodes, walkChain, List.flatMap_singleton]

end Tree

end Reparse
