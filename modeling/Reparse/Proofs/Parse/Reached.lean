import Reparse.Proofs.Document.Separation
import Reparse.Proofs.Parser.Determinism
import Reparse.Proofs.Parser.Coverage
import Reparse.Proofs.Tree.TokenSpans

/-!
# The tokens of a parse stand in the order of the text

A missing node holds the current token, which may then be taken or skipped, or be held again.  So
the tokens along a tree never fall, and they rise if none is missing.
-/

namespace Reparse

open Reparse.Tree

/-- Tokens of a document that do not fall, from one place to another. -/
structure Ordered (size : Nat) (ids : List TokenId) (start stop : TokenId) : Prop where
  le : start ≤ stop
  between : ∀ id ∈ ids, start ≤ id ∧ id ≤ stop
  inside : ∀ id ∈ ids, id < size
  ordered : ids.Pairwise (· ≤ ·)

namespace Ordered

variable {size : Nat}

theorem nothing {start stop : TokenId} (le : start ≤ stop) : Ordered size [] start stop :=
  ⟨le, by simp, by simp, .nil⟩

theorem one {start stop : TokenId} (le : start ≤ stop) (inside : start < size) :
    Ordered size [start] start stop :=
  ⟨le, by simpa using le, by simpa using inside, List.pairwise_singleton ..⟩

theorem append {ids ids' : List TokenId} {start middle stop : TokenId}
    (first : Ordered size ids start middle) (second : Ordered size ids' middle stop) :
    Ordered size (ids ++ ids') start stop where
  le := first.le.trans second.le
  between id member := by
    rcases List.mem_append.mp member with member | member
    · exact ⟨(first.between id member).1, (first.between id member).2.trans second.le⟩
    · exact ⟨first.le.trans (second.between id member).1, (second.between id member).2⟩
  inside id member := (List.mem_append.mp member).elim (first.inside id) (second.inside id)
  ordered := List.pairwise_append.mpr ⟨first.ordered, second.ordered, fun id member id' member' =>
    (first.between id member).2.trans (second.between id' member').1⟩

end Ordered

namespace Parser

variable {parser : Parser} {state after : ParseState}

theorem ordered_currentId? (parser : Parser) (state : ParseState) :
    Ordered parser.document.size (parser.currentId? state).toList state.cursor state.cursor := by
  unfold currentId?
  split
  · exact .one (Nat.le_refl _) ‹_›
  · exact .nothing (Nat.le_refl _)

theorem Reads.ordered {leaves : List Tree} (reads : parser.Reads state leaves after) :
    Ordered parser.document.size (leaves.filterMap ownToken?) state.cursor after.cursor := by
  induction reads with
  | stays same => exact .nothing same.cursor.ge
  | @takes state kind id current =>
      have inside := cursor_lt_of_currentKind? current
      have moved := (samePlace_advance inside).cursor
      exact .one (by rw [moved]; exact Nat.le_succ _) inside
  | @misses state id =>
      have held : [Tree.missing id (parser.currentId? state)].filterMap ownToken? =
          (parser.currentId? state).toList := by
        cases parser.currentId? state <;> rfl
      rw [held]
      exact parser.ordered_currentId? state
  | @skips state kind skipsUnknown current =>
      have moved := (samePlace_skip (cursor_lt_of_currentKind? current)).cursor
      exact .nothing (by rw [moved]; exact Nat.le_succ _)
  | append _ _ first second =>
      rw [List.filterMap_append]
      exact first.append second

theorem tokens_eq_leavesIn (node : Tree) :
    node.tokens = (leavesIn [[node]]).filterMap ownToken? := by
  rw [tokens, walk_eq_preorder, leavesIn, List.filterMap_filter]
  simp only [chainsPreorder, chainPreorder, List.append_nil]
  congr 1
  funext below
  cases below <;> rfl

theorem Finishes.spread {start : NonTerminalId} {announced : Bool} {run : Parser.Run}
    (finishes : parser.Finishes start announced run) (scanned : parser.document.Scanned) :
    run.parse.tree.Spread run.parse.document := by
  cases finishes with
  | @parsed child after descent =>
      have ordered := (descent.reads trivial).ordered
      have tokens_eq : (finish parser (.nonTerminal (parser.grammar.ruleOf start) start child)
          (parser.sweep (parser.closeFrame start false after))).parse.tree.tokens =
            (leavesIn [child]).filterMap ownToken? := by
        rw [tokens_eq_leavesIn]
        exact congrArg _ (leavesIn_nonTerminal _ _ _)
      exact ⟨scanned, fun id member => ordered.inside id (tokens_eq ▸ member),
        tokens_eq ▸ ordered.ordered⟩
  | @aborted expr found after descent =>
      obtain ⟨-, rfl⟩ := descent.aborted_at rfl
      have ordered := parser.ordered_currentId? after
      have tokens_eq : (Tree.missing expr (parser.currentId? after)).tokens =
          (parser.currentId? after).toList := tokens_of_isLeaf rfl
      exact ⟨scanned, fun id member => ordered.inside id (tokens_eq ▸ member),
        tokens_eq ▸ ordered.ordered⟩

theorem Finishes.ascends {start : NonTerminalId} {announced : Bool} {run : Parser.Run}
    (finishes : parser.Finishes start announced run) :
    (run.parse.nodes.filterMap consumed?).Pairwise (· < ·) := by
  cases finishes with
  | parsed descent => exact (tokensDivided_of_runs descent).consumedAscends
  | aborted =>
      simp only [Parse.nodes, finish, walk_eq_preorder, preorder]
      exact .nil

end Parser

namespace Parse

/-- The parses that come about: those of documents that come about, also with the edits of the
document forgotten. -/
inductive Reached : Parse → Prop where
  | run {parser : Parser} {start : NonTerminalId} {announced : Bool} {run : Parser.Run} :
      parser.document.Reached → parser.run? start announced = some run → Reached run.parse
  | forgetEdits {parse : Parse} : Reached parse → Reached parse.forgetEdits

namespace Reached

variable {parse : Parse}

/-- The tokens along the tree of a parse do not fall. -/
theorem spread (reached : parse.Reached) : parse.tree.Spread parse.document := by
  induction reached with
  | run reached done =>
      exact (Parser.run?_eq_some_iff.mp done).spread reached.faithful.scanned
  | forgetEdits _ induction => exact ⟨induction.scanned, induction.inside, induction.ordered⟩

theorem tokens_eq_consumed (complete : parse.hasErrors = false) :
    parse.tree.tokens = parse.nodes.filterMap consumed? := by
  refine List.filterMap_congr fun node member => ?_
  have present : node.isMissing = false := by
    rw [hasErrors, Tree.hasErrors, walkChain, List.flatMap_singleton] at complete
    simpa using List.any_eq_false.mp complete node member
  cases node with
  | missing => cases present
  | token | nonTerminal | empty | optional | alternation | repetition => rfl

/-- The tokens along the tree of a parse without errors rise. -/
theorem ascends (reached : parse.Reached) (complete : parse.hasErrors = false) :
    parse.tree.tokens.Pairwise (· < ·) := by
  rw [tokens_eq_consumed complete]
  induction reached with
  | run _ done => exact (Parser.run?_eq_some_iff.mp done).ascends
  | forgetEdits _ induction => exact induction complete

end Reached

end Parse

end Reparse
