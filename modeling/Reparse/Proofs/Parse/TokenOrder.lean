import Reparse.Proofs.Parse.Reached
import Reparse.Proofs.Parser.Containment

/-!
# The order of the tokens of a node

A token that was found for a missing one may be found again until it is taken.  So only the last
occurrence takes it, and first and last token of a node bound all of its tokens.
-/

namespace Reparse

open Reparse.Tree

namespace Span

variable {wide first : Span} {rest : List Span}

def hullOf? : List Span → Option Span
  | [] => none
  | first :: rest => some (rest.foldl hull first)

theorem contains_hull_iff {left right : Span} :
    wide.contains (left.hull right) = true ↔
      wide.contains left = true ∧ wide.contains right = true := by
  simp only [contains_iff, hull]
  omega

theorem contains_foldl_hull_iff :
    wide.contains (rest.foldl hull first) = true ↔
      ∀ span ∈ first :: rest, wide.contains span = true := by
  induction rest generalizing first with
  | nil => simp
  | cons next rest induction =>
      rw [List.foldl_cons, induction]
      simp only [List.forall_mem_cons, contains_hull_iff, and_assoc]

theorem contains_antisymm {left right : Span} (larger : left.contains right = true)
    (smaller : right.contains left = true) : left = right := by
  obtain ⟨start_le, le_stop⟩ := contains_iff.mp larger
  obtain ⟨le_start, stop_le⟩ := contains_iff.mp smaller
  obtain ⟨start, stop⟩ := left
  obtain ⟨start', stop'⟩ := right
  obtain rfl : start = start' := Nat.le_antisymm start_le le_start
  obtain rfl : stop = stop' := Nat.le_antisymm stop_le le_stop
  rfl

theorem hullOf?_eq_some {spans : List Span} {span : Span} (nonempty : spans ≠ [])
    (holds : ∀ other ∈ spans, span.contains other = true)
    (least : ∀ wide : Span, (∀ other ∈ spans, wide.contains other = true) →
      wide.contains span = true) : hullOf? spans = some span := by
  cases spans with
  | nil => exact (nonempty rfl).elim
  | cons first rest =>
      have within : ∀ other ∈ first :: rest, (rest.foldl hull first).contains other = true :=
        contains_foldl_hull_iff.mp (contains_refl _)
      exact congrArg some
        (contains_antisymm (least _ within) (contains_foldl_hull_iff.mpr holds))

end Span

namespace Tree

/-- If the nodes have the same token it is only found by the first one. -/
def GivesWay (first later : Tree) : Prop :=
  ∀ id, first.ownToken? = some id → later.ownToken? = some id → first.isMissing = true

/-- The tokens of a node stand in the order of the text, which bounds its span and those below. -/
structure OrdersTokens (document : Document) (node : Tree) : Prop where
  ascends : node.tokens.Pairwise (· ≤ ·)
  /-- Of the nodes with the same token all but the last one are missing. -/
  givesWay : node.walk.Pairwise GivesWay
  /-- The span is that of all tokens, not only of the first and the last one. -/
  hull : node.tokenSpan? document = Span.hullOf? (node.tokens.map document.tokenSpan)
  /-- The span holds those of the nodes below. -/
  holds : ∀ below ∈ node.walk, Includes (node.tokenSpan? document) (below.tokenSpan? document)
  /-- The nodes right below stand one behind the other, whether in one chain or not. -/
  siblings : node.subnodes.Pairwise fun earlier later =>
    ∀ id ∈ earlier.lastToken?, ∀ id' ∈ later.firstToken?, id ≤ id'

variable {document : Document} {node : Tree}

namespace Spread

theorem tokenSpan?_eq_hullOf? (spread : node.Spread document) :
    node.tokenSpan? document = Span.hullOf? (node.tokens.map document.tokenSpan) := by
  have holds : ∀ id ∈ node.tokens, ∃ span, node.tokenSpan? document = some span ∧
      span.contains (document.tokenSpan id) = true := fun _ => spread.exists_tokenSpan?_contains
  cases found : node.tokenSpan? document with
  | none =>
      have nothing : node.tokens = [] := by
        refine List.eq_nil_iff_forall_not_mem.mpr fun id member => ?_
        obtain ⟨span, found', -⟩ := holds id member
        cases found.symm.trans found'
      rw [nothing]
      rfl
  | some span =>
      have reaches := reaches_of_tokenSpan? found
      refine (Span.hullOf?_eq_some ?nonempty ?holds ?least).symm
      case nonempty =>
        obtain ⟨first, member, -⟩ := reaches
        exact List.ne_nil_of_mem (List.mem_map_of_mem member)
      case holds =>
        refine List.forall_mem_map.mpr fun id member => ?_
        obtain ⟨span', found', contains⟩ := holds id member
        obtain rfl : span = span' := Option.some.inj (found.symm.trans found')
        exact contains
      case least => exact fun wide all => reaches.within (List.forall_mem_map.mp all)

theorem includes_of_mem_walk {below : Tree} (spread : node.Spread document)
    (member : below ∈ node.walk) :
    Includes (node.tokenSpan? document) (below.tokenSpan? document) := fun _ found =>
  spread.exists_tokenSpan?_contains_of_reaches (reaches_of_tokenSpan? found)
    (tokens_sublist_of_mem_walk member).subset

/-- What orders the tokens of a node and lets none be found once it is taken orders its parts. -/
theorem orders (spread : node.Spread document) (givesWay : node.walk.Pairwise GivesWay) :
    node.OrdersTokens document where
  ascends := spread.ordered
  givesWay := givesWay
  hull := spread.tokenSpan?_eq_hullOf?
  holds _ member := spread.includes_of_mem_walk member
  siblings := (pairwise_tokens spread.ordered).2.imp fun before id last id' first =>
    before id (List.mem_of_getLast? last) id' (List.mem_of_head? first)

end Spread

theorem isLeaf_of_ownToken? {id : TokenId} (own : node.ownToken? = some id) :
    node.isLeaf = true := by
  cases node with
  | token | missing => rfl
  | nonTerminal | empty | optional | alternation | repetition => cases own

theorem givesWay_walk (leaves : (leavesIn [[node]]).Pairwise GivesWay) :
    node.walk.Pairwise GivesWay := by
  rw [leavesIn_eq_filter_walk, List.pairwise_filter] at leaves
  refine leaves.imp fun among id own own' => ?_
  exact among (isLeaf_of_ownToken? own) (isLeaf_of_ownToken? own') id own own'

end Tree

namespace Parser

variable {parser : Parser} {state after : ParseState}

/-- Behind a token that was taken only later ones are found. -/
theorem Reads.givesWay {leaves : List Tree} (reads : parser.Reads state leaves after) :
    leaves.Pairwise GivesWay := by
  induction reads with
  | stays | skips => exact .nil
  | takes | misses => exact List.pairwise_singleton ..
  | @append _ middle _ first second before behind induction induction' =>
      refine List.pairwise_append.mpr ⟨induction, induction', ?_⟩
      intro node member later member' id own own'
      have later_from : middle.cursor ≤ id :=
        (behind.ordered.between id (List.mem_filterMap.mpr ⟨later, member', own'⟩)).1
      cases node with
      | missing => rfl
      | token expr =>
          obtain ⟨skipped, spans⟩ := before.spans
          have taken : id ∈ first.filterMap consumed? := List.mem_filterMap.mpr ⟨_, member, own⟩
          have up_to : id < middle.cursor := ((spans.covers.mem_iff id).mp (.inl taken)).2
          exact (Nat.not_le_of_lt up_to later_from).elim
      | nonTerminal | empty | optional | alternation | repetition => cases own

theorem Finishes.givesWay {start : NonTerminalId} {announced : Bool} {run : Parser.Run}
    (finishes : parser.Finishes start announced run) : run.parse.nodes.Pairwise GivesWay := by
  apply givesWay_walk
  cases finishes with
  | parsed descent =>
      have leaves := (descent.reads trivial).givesWay
      exact (leavesIn_nonTerminal ..).symm ▸ leaves
  | aborted => exact List.pairwise_singleton ..

end Parser

namespace Parse.Reached

variable {parse : Parse}

theorem givesWay (reached : parse.Reached) : parse.nodes.Pairwise GivesWay := by
  induction reached with
  | run _ done => exact (Parser.run?_eq_some_iff.mp done).givesWay
  | forgetEdits _ induction => exact induction

/-- The tokens of every node of a parse stand in order, those found for missing ones included. -/
theorem ordersTokens {node : Tree} (reached : parse.Reached) (member : node ∈ parse.nodes) :
    node.OrdersTokens parse.document :=
  (reached.spread.of_mem_walk member).orders
    (reached.givesWay.sublist (walk_sublist_of_mem_walk member))

/-- The comma is found instead of the end of the inner list and is taken after it. -/
theorem ordersTokens_brackets :
    ∃ run, Parser.run? ⟨Parser.bracketBlocks, Parser.bracketBlocks.predict,
        .ofText Parser.brackets "[ [ , ] ]".toList, ⟨true, false⟩⟩ 0 false = some run ∧
      run.parse.tree.tokens = [0, 1, 2, 2, 3] ∧
      ∀ node ∈ run.parse.nodes, node.OrdersTokens run.parse.document := by
  let parser : Parser := ⟨Parser.bracketBlocks, Parser.bracketBlocks.predict,
    .ofText Parser.brackets "[ [ , ] ]".toList, ⟨true, false⟩⟩
  have told : (parser.run? 0 false).map (·.parse.tree.tokens) = some [0, 1, 2, 2, 3] := by
    decide +kernel
  obtain ⟨run, done, tokens⟩ := Option.map_eq_some_iff.mp told
  have reached : run.parse.Reached := @Reached.run parser _ _ run (.ofText _ _) done
  exact ⟨run, done, tokens, fun node member => ordersTokens reached member⟩

end Parse.Reached

end Reparse
