import Mathlib.Data.List.Zip
import Reparse.Parse.Outline
import Reparse.Proofs.Parse.Reached
import Reparse.Proofs.Parser.Containment

/-!
# The outline mirrors the blocks of the tree

The outline leaves out what is no block or has no tokens, and hoists what lies below it.  So its
items are the other blocks in preorder.
-/

namespace Reparse

open Reparse.Tree

/-! ## Lists of places that tell the same -/

section Mirrors

variable {α : Type}

/-- The labels of the places are the same, in the same order, and the places lie below one another
alike. -/
structure Mirrors (places others : List (Address × α)) : Prop where
  labels : places.map Prod.snd = others.map Prod.snd
  nests : ∀ pair ∈ places.zip others, ∀ pair' ∈ places.zip others,
    (Above pair.1.1 pair'.1.1 ↔ Above pair.2.1 pair'.2.1)

namespace Mirrors

variable {places others places' others' : List (Address × α)}

theorem nil : Mirrors ([] : List (Address × α)) [] := ⟨rfl, by simp⟩

theorem length_eq (mirrors : Mirrors places others) : places.length = others.length := by
  simpa using congrArg List.length mirrors.labels

theorem append (first : Mirrors places others) (second : Mirrors places' others')
    (apart : ∀ place ∈ places, ∀ place' ∈ places',
      ¬ Above place.1 place'.1 ∧ ¬ Above place'.1 place.1)
    (apart' : ∀ other ∈ others, ∀ other' ∈ others',
      ¬ Above other.1 other'.1 ∧ ¬ Above other'.1 other.1) :
    Mirrors (places ++ places') (others ++ others') where
  labels := by simp only [List.map_append, first.labels, second.labels]
  nests := by
    rw [List.zip_append first.length_eq]
    have across : ∀ pair ∈ places.zip others, ∀ pair' ∈ places'.zip others',
        (Above pair.1.1 pair'.1.1 ↔ Above pair.2.1 pair'.2.1) ∧
          (Above pair'.1.1 pair.1.1 ↔ Above pair'.2.1 pair.2.1) := by
      intro pair member pair' member'
      obtain ⟨left, right⟩ := List.of_mem_zip member
      obtain ⟨left', right'⟩ := List.of_mem_zip member'
      have none_left := apart _ left _ left'
      have none_right := apart' _ right _ right'
      exact ⟨iff_of_false none_left.1 none_right.1, iff_of_false none_left.2 none_right.2⟩
    intro pair member pair' member'
    rcases List.mem_append.mp member with member | member <;>
      rcases List.mem_append.mp member' with member' | member'
    · exact first.nests pair member pair' member'
    · exact (across pair member pair' member').1
    · exact (across pair' member' pair member).2
    · exact second.nests pair member pair' member'

theorem below (mirrors : Mirrors places others) (index : Nat) :
    Mirrors (places.map fun place => (index :: place.1, place.2)) others where
  labels := by simpa [Function.comp_def] using mirrors.labels
  nests := by
    simp only [List.zip_map_left, List.mem_map, Prod.map]
    rintro _ ⟨pair, member, rfl⟩ _ ⟨pair', member', rfl⟩
    simpa using mirrors.nests pair member pair' member'

theorem symm (mirrors : Mirrors places others) : Mirrors others places where
  labels := mirrors.labels.symm
  nests := by
    rw [← List.zip_swap]
    simp only [List.mem_map]
    rintro _ ⟨pair, member, rfl⟩ _ ⟨pair', member', rfl⟩
    exact (mirrors.nests pair member pair' member').symm

theorem under (mirrors : Mirrors places others) (label : α)
    (proper : ∀ place ∈ places, Above [] place.1) (proper' : ∀ other ∈ others, Above [] other.1) :
    Mirrors (([], label) :: places) (([], label) :: others) where
  labels := by simp [mirrors.labels]
  nests := by
    rw [List.zip_cons_cons]
    intro pair member pair' member'
    rcases List.mem_cons.mp member with rfl | member <;>
      rcases List.mem_cons.mp member' with rfl | member'
    · exact Iff.rfl
    · obtain ⟨left, right⟩ := List.of_mem_zip member'
      exact iff_of_true (proper _ left) (proper' _ right)
    · exact iff_of_false (not_above_nil _) (not_above_nil _)
    · exact mirrors.nests pair member pair' member'

end Mirrors

end Mirrors

/-! ## The places of an outline -/

namespace OutlineItem

def span : OutlineItem → Span
  | .mk _ span _ => span

/-- The places of an item and those below it in preorder, each with its address. -/
def places : OutlineItem → List (Address × NonTerminalId × Span)
  | .mk id span children => ([], id, span) :: numbered 0 (children.map fun item => item.places)

/-- The items below lie within the span, and so on; those side by side begin in order. -/
inductive Tidy : OutlineItem → Prop where
  | mk {id : NonTerminalId} {span : Span} {children : List OutlineItem} :
      (∀ child ∈ children, span.contains child.span = true) →
      (children.Pairwise fun child later => child.span.start ≤ later.span.start) →
      (∀ child ∈ children, child.Tidy) → Tidy (.mk id span children)

end OutlineItem

namespace Parse

def itemPlaces (index : Nat) (items : List OutlineItem) : List (Address × NonTerminalId × Span) :=
  numbered index (items.map OutlineItem.places)

theorem itemPlaces_append (index : Nat) (first second : List OutlineItem) :
    itemPlaces index (first ++ second) =
      itemPlaces index first ++ itemPlaces (index + first.length) second := by
  rw [itemPlaces, List.map_append, numbered_append, List.length_map, itemPlaces, itemPlaces]

def shownBlock? (grammar : Grammar) (document : Document) (node : Tree) :
    Option (NonTerminalId × Span) := do
  let id ← block? grammar node
  let span ← node.tokenSpan? document
  return (id, span)

/-- The places of the blocks that an outline shows. -/
def shownPlaces (grammar : Grammar) (document : Document) (node : Tree) :
    List (Address × NonTerminalId × Span) :=
  node.addressed.filterMap fun place =>
    (shownBlock? grammar document place.2).map fun shown => (place.1, shown)

section Outline

variable {grammar : Grammar} {document : Document} {node : Tree}

theorem outlineOver_eq (below : List OutlineItem) :
    outlineOver grammar document node below =
      match shownBlock? grammar document node with
      | some (id, span) => [.mk id span below]
      | none => below := by
  unfold outlineOver shownBlock?
  cases block? grammar node <;> cases node.tokenSpan? document <;> rfl

theorem outlineChain_eq_flatMap (chain : List Tree) :
    outlineChain grammar document chain = chain.flatMap (outlineNode grammar document) := by
  induction chain with
  | nil => simp [outlineChain]
  | cons node next induction => simp [outlineChain, induction]

theorem outlineChains_eq_flatten (chains : List (List Tree)) :
    outlineChains grammar document chains = outlineChain grammar document chains.flatten := by
  induction chains with
  | nil => simp [outlineChains, outlineChain]
  | cons chain rest induction => simp [outlineChains, induction, outlineChain_eq_flatMap]

theorem outlineNode_eq (node : Tree) :
    outlineNode grammar document node =
      outlineOver grammar document node
        (node.subnodes.flatMap (outlineNode grammar document)) := by
  rw [← outlineChain_eq_flatMap]
  cases node with
  | nonTerminal => simp [outlineNode, subnodes, children]
  | optional | alternation => simp [outlineNode, subnodes, children, outlineOver, block?]
  | repetition =>
      simp [outlineNode, subnodes, children, outlineOver, block?, outlineChains_eq_flatten]
  | token | empty | missing =>
      simp [outlineNode, subnodes, children, outlineOver, block?, outlineChain]

theorem filterMap_numbered (index : Nat) (chain : List Tree) :
    (numbered index (chain.map addressed)).filterMap (fun place =>
        (shownBlock? grammar document place.2).map fun shown => (place.1, shown)) =
      numbered index (chain.map (shownPlaces grammar document)) := by
  induction chain generalizing index with
  | nil => rfl
  | cons node next induction =>
      simp only [List.map_cons, numbered, List.filterMap_append, induction, shownPlaces,
        List.filterMap_map, List.map_filterMap, Function.comp_def, Option.map_map]

theorem shownPlaces_eq (node : Tree) :
    shownPlaces grammar document node =
      ((shownBlock? grammar document node).map fun shown => (([] : Address), shown)).toList ++
        numbered 0 (node.subnodes.map (shownPlaces grammar document)) := by
  rw [shownPlaces, addressed_eq, List.filterMap_cons, filterMap_numbered]
  cases shownBlock? grammar document node <;> rfl

theorem map_snd_shownPlaces (grammar : Grammar) (document : Document) (node : Tree) :
    (shownPlaces grammar document node).map Prod.snd =
      node.walk.filterMap (shownBlock? grammar document) := by
  rw [shownPlaces, List.map_filterMap, ← map_snd_addressed, List.filterMap_map]
  simp [Function.comp_def]

theorem mirrors_outlineChain {chain : List Tree}
    (each : ∀ node ∈ chain, ∀ index,
      Mirrors (itemPlaces index (outlineNode grammar document node))
        (shownPlaces grammar document node)) (index index' : Nat) :
    Mirrors (itemPlaces index (chain.flatMap (outlineNode grammar document)))
      (numbered index' (chain.map (shownPlaces grammar document))) := by
  induction chain generalizing index index' with
  | nil => exact .nil
  | cons node next induction =>
      have first := ((each node List.mem_cons_self index).symm.below index').symm
      have rest := induction (fun node member => each node (.tail _ member))
        (index + (outlineNode grammar document node).length) (index' + 1)
      rw [List.flatMap_cons, itemPlaces_append, List.map_cons, numbered]
      -- The items of the first node stand at indices of their own, however many they are.
      apply first.append rest
      · intro place member place' member'
        exact not_above_of_numbered member (by simpa [itemPlaces] using member')
      · intro place member place' member'
        have alone : place ∈ numbered index' [shownPlaces grammar document node] := by
          simpa [numbered] using member
        exact not_above_of_numbered alone member'

theorem mirrors_outlineNode (node : Tree) (index : Nat) :
    Mirrors (itemPlaces index (outlineNode grammar document node))
      (shownPlaces grammar document node) := by
  induction node using subnode_induction generalizing index with
  | step node induction =>
      have below := mirrors_outlineChain induction
      rw [outlineNode_eq, outlineOver_eq, shownPlaces_eq]
      cases shownBlock? grammar document node with
      | none => exact below index 0
      | some shown =>
          have whole := (below 0 0).under shown (fun _ => nil_above_of_numbered)
            (fun _ => nil_above_of_numbered)
          simpa [itemPlaces, numbered, OutlineItem.places] using whole.below index

/-! ## The spans of an outline -/

/-- The items are tidy, begin in order and reach between some tokens. -/
structure Arranged (document : Document) (ids : List TokenId) (items : List OutlineItem) :
    Prop where
  reaches : ∀ item ∈ items, document.Reaches ids item.span
  starts : items.Pairwise fun item later => item.span.start ≤ later.span.start
  tidy : ∀ item ∈ items, item.Tidy

theorem Arranged.mono {ids others : List TokenId} {items : List OutlineItem}
    (arranged : Arranged document ids items) (subset : ids ⊆ others) :
    Arranged document others items where
  reaches item member := (arranged.reaches item member).mono subset
  starts := arranged.starts
  tidy := arranged.tidy

theorem arranged_outlineChain {chain : List Tree}
    (each : ∀ node ∈ chain, Arranged document node.tokens (outlineNode grammar document node))
    (spread : ∀ node ∈ chain, node.Spread document)
    (ordered : chain.Pairwise (TokensRelate (· ≤ ·))) :
    Arranged document (chain.flatMap tokens) (chain.flatMap (outlineNode grammar document)) where
  reaches item member := by
    obtain ⟨node, member, listed⟩ := List.mem_flatMap.mp member
    exact ((each node member).reaches item listed).mono fun id token =>
      List.mem_flatMap.mpr ⟨node, member, token⟩
  starts := by
    refine List.pairwise_flatMap.mpr ⟨fun node member => (each node member).starts, ?_⟩
    refine ordered.imp_of_mem fun {first second} member member' before => ?_
    intro item listed item' listed'
    have spread := spread second member'
    exact spread.scanned.start_le_start ((each first member).reaches item listed)
      ((each second member').reaches item' listed') spread.inside before
  tidy item member := by
    obtain ⟨node, member, listed⟩ := List.mem_flatMap.mp member
    exact (each node member).tidy item listed

/-- The items of a node are tidy, as spans of nodes lie within one another as the nodes do. -/
theorem arranged_outlineNode (spread : node.Spread document) :
    Arranged document node.tokens (outlineNode grammar document node) := by
  induction node using subnode_induction with
  | step node induction =>
      have spread' : ∀ below ∈ node.subnodes, below.Spread document := fun below member =>
        spread.of_mem_walk (mem_walk_of_mem_subnodes member)
      have subset : node.subnodes.flatMap tokens ⊆ node.tokens := by
        rw [tokens_eq node]
        exact List.subset_append_right _ _
      have below := (arranged_outlineChain
        (fun below member => induction below member (spread' below member)) spread'
        (pairwise_tokens spread.ordered).2).mono subset
      rw [outlineNode_eq, outlineOver_eq]
      cases shown : shownBlock? grammar document node with
      | none => exact below
      | some pair =>
          obtain ⟨id, span⟩ := pair
          obtain ⟨name, block, shown⟩ := Option.bind_eq_some_iff.mp shown
          obtain ⟨wide, found, shown⟩ := Option.bind_eq_some_iff.mp shown
          obtain ⟨rfl, rfl⟩ := Prod.mk.inj (Option.some.inj shown)
          have holds : ∀ item ∈ node.subnodes.flatMap (outlineNode grammar document),
              wide.contains item.span = true := by
            intro item member
            obtain ⟨wide', found', contains⟩ := spread.exists_tokenSpan?_contains_of_reaches
              (below.reaches item member) (List.Subset.refl _)
            obtain rfl : wide = wide' := Option.some.inj (found.symm.trans found')
            exact contains
          refine ⟨?_, List.pairwise_singleton .., ?_⟩
          · simpa [OutlineItem.span] using reaches_of_tokenSpan? found
          · simpa using OutlineItem.Tidy.mk holds below.starts below.tidy

end Outline

/-- The outline of a parse mirrors its blocks with tokens, and its spans lie within one another. -/
structure Outlines (grammar : Grammar) (parse : Parse) : Prop where
  /-- The items in preorder are the blocks with tokens of all nodes. -/
  shows : (itemPlaces 0 (parse.outline grammar)).map Prod.snd =
    parse.nodes.filterMap (shownBlock? grammar parse.document)
  mirrors : Mirrors (itemPlaces 0 (parse.outline grammar))
    (shownPlaces grammar parse.document parse.tree)
  starts : (parse.outline grammar).Pairwise fun item later => item.span.start ≤ later.span.start
  tidy : ∀ item ∈ parse.outline grammar, item.Tidy

namespace Reached

/-- The outline mirrors the blocks of a parse, with or without errors. -/
theorem outlines {parse : Parse} (reached : parse.Reached) (grammar : Grammar) :
    parse.Outlines grammar where
  shows := by
    rw [outline, (mirrors_outlineNode parse.tree 0).labels, map_snd_shownPlaces, nodes]
  mirrors := mirrors_outlineNode parse.tree 0
  starts := (arranged_outlineNode reached.spread).starts
  tidy := (arranged_outlineNode reached.spread).tidy

/-- The inner list lacks its end, and the comma found instead counts for it. -/
theorem outlines_brackets :
    ∃ run, Parser.run? ⟨Parser.bracketBlocks, Parser.bracketBlocks.predict,
        .ofText Parser.brackets "[ [ , ] ]".toList, ⟨true, false⟩⟩ 0 false = some run ∧
      run.parse.hasErrors = true ∧
      (run.parse.outline Parser.bracketBlocks).map OutlineItem.span = [⟨0, 7⟩] ∧
      run.parse.Outlines Parser.bracketBlocks := by
  let parser : Parser := ⟨Parser.bracketBlocks, Parser.bracketBlocks.predict,
    .ofText Parser.brackets "[ [ , ] ]".toList, ⟨true, false⟩⟩
  have told : (parser.run? 0 false).map (fun run =>
      (run.parse.hasErrors, (run.parse.outline Parser.bracketBlocks).map OutlineItem.span)) =
        some (true, [⟨0, 7⟩]) := by decide +kernel
  obtain ⟨run, done, told⟩ := Option.map_eq_some_iff.mp told
  obtain ⟨incomplete, shown⟩ := Prod.mk.inj told
  have reached : run.parse.Reached := @Reached.run parser _ _ run (.ofText _ _) done
  exact ⟨run, done, incomplete, shown, reached.outlines Parser.bracketBlocks⟩

end Reached

end Parse

end Reparse
