import Reparse.Parse.Covering
import Reparse.Proofs.Parse.Reached
import Reparse.Proofs.Parser.Containment

/-!
# No covering node is missed

The search goes on below the first node that covers the span.  Tokens of nodes side by side do not
overlap when none is missing, so no other one covers it.

Main statement: `Reached.findsCovering`.
-/

namespace Reparse

open Reparse.Tree

namespace Tree

def ancestors (root : Tree) (address : Address) : List Tree :=
  (root.addressed.filter fun place => Above place.1 address).map Prod.snd

end Tree

namespace Parse

variable {document : Document} {span : Span} {node : Tree}

theorem nodeCovers_iff :
    nodeCovers document span node = true ↔
      ∃ wide, node.tokenSpan? document = some wide ∧ wide.contains span = true := by
  simp [nodeCovers, Option.any_eq_true]

theorem nodeCovers_of_mem_walk {below : Tree} (spread : node.Spread document)
    (member : below ∈ node.walk) (covers : nodeCovers document span below = true) :
    nodeCovers document span node = true := by
  obtain ⟨narrow, found, contains⟩ := nodeCovers_iff.mp covers
  obtain ⟨wide, found', larger⟩ := spread.exists_tokenSpan?_contains_of_reaches
    (reaches_of_tokenSpan? found) (tokens_sublist_of_mem_walk member).subset
  exact nodeCovers_iff.mpr ⟨wide, found', Span.contains_trans larger contains⟩

/-- Where the tokens of one node come first, only one of two nodes covers a span. -/
theorem not_nodeCovers_of_before {first second : Tree} (forward : span.start < span.stop)
    (spread : second.Spread document) (before : TokensRelate (· < ·) first second)
    (covers : nodeCovers document span first = true) :
    nodeCovers document span second = false := by
  rw [← Bool.not_eq_true]
  intro covers'
  obtain ⟨wide, found, contains⟩ := nodeCovers_iff.mp covers
  obtain ⟨wide', found', contains'⟩ := nodeCovers_iff.mp covers'
  have apart := spread.scanned.stop_le_start_of_before (reaches_of_tokenSpan? found)
    (reaches_of_tokenSpan? found') spread.inside before
  have ends := (Span.contains_iff.mp contains).2
  have begins := (Span.contains_iff.mp contains').1
  omega

/-! ## The search -/

theorem coveringChain_append (first second : List Tree) :
    coveringChain document span (first ++ second) =
      if (coveringChain document span first).isEmpty then coveringChain document span second
      else coveringChain document span first := by
  induction first with
  | nil => simp [coveringChain]
  | cons node next induction =>
      rw [List.cons_append, coveringChain, coveringChain]
      cases coveringNode document span node with
      | nil => exact induction
      | cons => rfl

theorem coveringChains_eq_flatten (chains : List (List Tree)) :
    coveringChains document span chains = coveringChain document span chains.flatten := by
  induction chains with
  | nil => simp [coveringChains, coveringChain]
  | cons chain rest induction =>
      rw [coveringChains, List.flatten_cons, coveringChain_append, induction]
      cases coveringChain document span chain <;> rfl

theorem coveringNode_eq (node : Tree) :
    coveringNode document span node =
      if nodeCovers document span node then
        coveringChain document span node.subnodes ++ [node]
      else [] := by
  cases node with
  | nonTerminal | optional | alternation => simp [coveringNode, subnodes, children]
  | repetition => simp [coveringNode, subnodes, children, coveringChains_eq_flatten]
  | token | empty | missing => simp [coveringNode, subnodes, children, coveringChain]

theorem coveringChain_cons (node : Tree) (next : List Tree) :
    coveringChain document span (node :: next) =
      if nodeCovers document span node then coveringNode document span node
      else coveringChain document span next := by
  rw [coveringChain]
  cases covers : nodeCovers document span node with
  | true =>
      rw [coveringNode_eq, covers, if_pos rfl, if_pos rfl]
      split <;> simp_all
  | false => simp [coveringNode_eq, covers]

theorem filter_walk_eq_nil (spread : node.Spread document)
    (misses : nodeCovers document span node = false) :
    node.walk.filter (nodeCovers document span) = [] := by
  refine List.filter_eq_nil_iff.mpr fun below member covers => ?_
  exact Bool.false_ne_true (misses.symm.trans (nodeCovers_of_mem_walk spread member covers))

/-- In a chain where at most one node covers the span, the search finds what there is. -/
theorem coveringChain_eq_reverse {chain : List Tree}
    (each : ∀ node ∈ chain,
      coveringNode document span node = (node.walk.filter (nodeCovers document span)).reverse)
    (spread : ∀ node ∈ chain, node.Spread document)
    (alone : chain.Pairwise fun first later =>
      nodeCovers document span first = true → nodeCovers document span later = false) :
    coveringChain document span chain =
      ((chain.flatMap walk).filter (nodeCovers document span)).reverse := by
  induction chain with
  | nil => simp [coveringChain]
  | cons node next induction =>
      obtain ⟨others, alone⟩ := List.pairwise_cons.mp alone
      have rest := induction (fun node member => each node (.tail _ member))
        (fun node member => spread node (.tail _ member)) alone
      rw [coveringChain_cons, List.flatMap_cons, List.filter_append, List.reverse_append]
      split
      · rename_i covers
        have none_later : (next.flatMap walk).filter (nodeCovers document span) = [] := by
          rw [List.filter_flatMap]
          exact List.flatMap_eq_nil_iff.mpr fun later member =>
            filter_walk_eq_nil (spread later (.tail _ member)) (others later member covers)
        rw [each node List.mem_cons_self, none_later, List.reverse_nil, List.nil_append]
      · rename_i misses
        rw [rest, filter_walk_eq_nil (spread node List.mem_cons_self) (by simpa using misses),
          List.reverse_nil, List.append_nil]

theorem coveringNode_eq_reverse (forward : span.start < span.stop) (spread : node.Spread document)
    (ascends : node.tokens.Pairwise (· < ·)) :
    coveringNode document span node =
      (node.walk.filter (nodeCovers document span)).reverse := by
  induction node using subnode_induction with
  | step node induction =>
      obtain ⟨within, across⟩ := pairwise_tokens ascends
      have spread' : ∀ below ∈ node.subnodes, below.Spread document := fun below member =>
        spread.of_mem_walk (mem_walk_of_mem_subnodes member)
      -- The tokens of one part come before those of the next, so at most one part covers the span.
      have alone : node.subnodes.Pairwise fun first later =>
          nodeCovers document span first = true → nodeCovers document span later = false :=
        across.imp_of_mem fun _ member before =>
          not_nodeCovers_of_before forward (spread' _ member) before
      cases covers : nodeCovers document span node with
      | false => simp [coveringNode_eq, covers, filter_walk_eq_nil spread covers]
      | true =>
          rw [coveringNode_eq, covers, if_pos rfl, walk_eq_cons, List.filter_cons_of_pos covers,
            List.reverse_cons, coveringChain_eq_reverse
              (fun below member => induction below member (spread' below member)
                (within below member)) spread' alone]

/-! ## The way down to a token -/

def coveringPlaces (parse : Parse) (span : Span) : List (Address × Tree) :=
  parse.tree.addressed.filter fun place => nodeCovers parse.document span place.2

theorem map_snd_coveringPlaces (parse : Parse) (span : Span) :
    (parse.coveringPlaces span).map Prod.snd =
      parse.nodes.filter (nodeCovers parse.document span) := by
  rw [nodes, ← map_snd_addressed, List.filter_map]
  rfl

theorem find?_reverse_map_snd (places : List (Address × Tree)) (test : Tree → Bool) :
    (places.map Prod.snd).reverse.find? test =
      ((places.filter fun place => test place.2).map Prod.snd).getLast? := by
  rw [← List.head?_filter, List.filter_reverse, List.head?_reverse, List.filter_map]
  rfl

def innermostBlock? (grammar : Grammar) (root : Tree) (address : Address) : Option Tree :=
  (root.ancestors address).reverse.find? fun node => (block? grammar node).isSome

/-- The nodes around a span are found, and lead down to it. -/
structure FindsCovering (parse : Parse) : Prop where
  /-- All nodes that cover a span are found, those further down first. -/
  finds : ∀ span : Span, span.start < span.stop →
    parse.coveringNodes span =
      (parse.nodes.filter (nodeCovers parse.document span)).reverse
  places : ∀ span : Span, span.start < span.stop →
    parse.coveringNodes span = ((parse.coveringPlaces span).map Prod.snd).reverse
  /-- Each one lies below those found after it. -/
  nested : ∀ span : Span, span.start < span.stop →
    (parse.coveringPlaces span).Pairwise fun outer inner => Above outer.1 inner.1
  /-- The block around a token is the innermost one above it. -/
  innermost : ∀ (grammar : Grammar) (address : Address) (expr : ExprId) (id : TokenId),
    (address, Tree.token expr id) ∈ parse.tree.addressed →
      parse.blockSpan grammar id =
        (innermostBlock? grammar parse.tree address).bind (·.tokenSpan? parse.document)
  /-- If there is such a block it has a span. -/
  bounded : ∀ (grammar : Grammar) (address : Address) (expr : ExprId) (id : TokenId),
    (address, Tree.token expr id) ∈ parse.tree.addressed →
      (parse.blockSpan grammar id).isSome = (innermostBlock? grammar parse.tree address).isSome

namespace Reached

variable {parse : Parse}

theorem coveringNodes_eq (reached : parse.Reached) (complete : parse.hasErrors = false)
    (forward : span.start < span.stop) :
    parse.coveringNodes span =
      (parse.nodes.filter (nodeCovers parse.document span)).reverse := by
  have found := coveringNode_eq_reverse forward reached.spread (reached.ascends complete)
  rw [coveringNodes, coveringChain_cons, coveringChain, found, nodes]
  split
  · rfl
  · rename_i misses
    rw [filter_walk_eq_nil reached.spread (by simpa using misses), List.reverse_nil]

theorem spread_of_mem (reached : parse.Reached) {place : Address × Tree}
    (member : place ∈ parse.tree.addressed) : place.2.Spread parse.document :=
  reached.spread.of_mem_walk (mem_walk_of_mem_addressed member)

theorem nested_coveringPlaces (reached : parse.Reached) (complete : parse.hasErrors = false)
    (forward : span.start < span.stop) :
    (parse.coveringPlaces span).Pairwise fun outer inner => Above outer.1 inner.1 := by
  rw [coveringPlaces, List.pairwise_filter]
  refine (pairwise_addressed (reached.ascends complete)).imp_of_mem ?_
  intro place later _ member related covers covers'
  rcases related with above | before
  · exact above
  · have misses := not_nodeCovers_of_before forward (reached.spread_of_mem member) before covers
    exact (Bool.false_ne_true (misses.symm.trans covers')).elim

section Token

variable {address : Address} {expr : ExprId} {id : TokenId}

theorem nodeCovers_of_above (reached : parse.Reached)
    (member : (address, Tree.token expr id) ∈ parse.tree.addressed) {place : Address × Tree}
    (listed : place ∈ parse.tree.addressed) (above : Above place.1 address) :
    nodeCovers parse.document (parse.document.tokenSpan id) place.2 = true :=
  nodeCovers_iff.mpr ((reached.spread_of_mem listed).exists_tokenSpan?_contains
    (tokens_subset_of_above listed member above (mem_tokens_token expr id)))

theorem above_of_nodeCovers (reached : parse.Reached) (complete : parse.hasErrors = false)
    (member : (address, Tree.token expr id) ∈ parse.tree.addressed) {place : Address × Tree}
    (listed : place ∈ parse.tree.addressed) (other : place ≠ (address, .token expr id))
    (covers : nodeCovers parse.document (parse.document.tokenSpan id) place.2 = true) :
    Above place.1 address := by
  have own := mem_tokens_token expr id
  have spread := reached.spread_of_mem member
  have forward := spread.scanned.tokenSpan_forward (spread.inside id own)
  have ownCovers := nodeCovers_iff.mpr (spread.exists_tokenSpan?_contains own)
  have symmetric : Std.Symm fun place other : Address × Tree =>
      Above place.1 other.1 ∨ Above other.1 place.1 := ⟨fun _ _ => Or.symm⟩
  have comparable : (parse.coveringPlaces (parse.document.tokenSpan id)).Pairwise
      fun place other => Above place.1 other.1 ∨ Above other.1 place.1 :=
    (reached.nested_coveringPlaces complete forward).imp Or.inl
  rcases comparable.forall (List.mem_filter.mpr ⟨listed, covers⟩)
    (List.mem_filter.mpr ⟨member, ownCovers⟩) other with above | below
  · exact above
  · -- Nothing lies below a token.
    have walked := mem_walk_of_above member listed below
    rw [subnodes_of_isLeaf rfl] at walked
    cases walked

theorem blockSpan_eq (reached : parse.Reached) (complete : parse.hasErrors = false)
    (grammar : Grammar) (member : (address, Tree.token expr id) ∈ parse.tree.addressed) :
    parse.blockSpan grammar id =
      (innermostBlock? grammar parse.tree address).bind (·.tokenSpan? parse.document) := by
  have spread := reached.spread_of_mem member
  have forward := spread.scanned.tokenSpan_forward (spread.inside id (mem_tokens_token expr id))
  have same : ((parse.coveringPlaces (parse.document.tokenSpan id)).filter fun place =>
      (block? grammar place.2).isSome) =
        (parse.tree.addressed.filter fun place => Above place.1 address).filter fun place =>
          (block? grammar place.2).isSome := by
    rw [coveringPlaces, List.filter_filter, List.filter_filter]
    refine List.filter_congr fun place listed => ?_
    rw [Bool.eq_iff_iff]
    simp only [Bool.and_eq_true, decide_eq_true_eq]
    refine and_congr_right fun block =>
      ⟨fun covers => ?_, reached.nodeCovers_of_above member listed⟩
    refine reached.above_of_nodeCovers complete member listed ?_ covers
    rintro rfl
    cases block
  rw [blockSpan, reached.coveringNodes_eq complete forward, ← map_snd_coveringPlaces,
    innermostBlock?, ancestors, find?_reverse_map_snd, find?_reverse_map_snd, same]

theorem isSome_blockSpan (reached : parse.Reached) (complete : parse.hasErrors = false)
    (grammar : Grammar) (member : (address, Tree.token expr id) ∈ parse.tree.addressed) :
    (parse.blockSpan grammar id).isSome =
      (innermostBlock? grammar parse.tree address).isSome := by
  rw [reached.blockSpan_eq complete grammar member]
  cases block : innermostBlock? grammar parse.tree address with
  | none => rfl
  | some node =>
      have above := List.mem_reverse.mp (List.mem_of_find?_eq_some block)
      obtain ⟨place, listed, rfl⟩ := List.mem_map.mp above
      obtain ⟨listed, above⟩ := List.mem_filter.mp listed
      have covers := reached.nodeCovers_of_above member listed (of_decide_eq_true above)
      obtain ⟨span, found, -⟩ := nodeCovers_iff.mp covers
      rw [Option.bind_some, found]
      rfl

end Token

/-- Without errors the nodes around a span are found, whatever was skipped. -/
theorem findsCovering (reached : parse.Reached) (complete : parse.hasErrors = false) :
    parse.FindsCovering where
  finds _ forward := reached.coveringNodes_eq complete forward
  places span forward := by
    rw [map_snd_coveringPlaces, reached.coveringNodes_eq complete forward]
  nested _ forward := reached.nested_coveringPlaces complete forward
  innermost grammar _ _ _ member := reached.blockSpan_eq complete grammar member
  bounded grammar _ _ _ member := reached.isSome_blockSpan complete grammar member

/-- A bracket behind the list was skipped. -/
theorem findsCovering_brackets :
    ∃ run, Parser.run? ⟨Parser.bracketBlocks, Parser.bracketBlocks.predict,
        .ofText Parser.brackets "[ [] ] ]".toList, .standard⟩ 0 false = some run ∧
      run.parse.skipped = [4] ∧ run.parse.hasErrors = false ∧ run.parse.FindsCovering := by
  let parser : Parser := ⟨Parser.bracketBlocks, Parser.bracketBlocks.predict,
    .ofText Parser.brackets "[ [] ] ]".toList, .standard⟩
  have told : (parser.run? 0 false).map (fun run => (run.parse.skipped, run.parse.hasErrors)) =
      some ([4], false) := by decide +kernel
  obtain ⟨run, done, told⟩ := Option.map_eq_some_iff.mp told
  obtain ⟨skipped, complete⟩ := Prod.mk.inj told
  exact ⟨run, done, skipped, complete,
    findsCovering (@Reached.run parser _ _ run (.ofText _ _) done) complete⟩

end Reached

end Parse

end Reparse
