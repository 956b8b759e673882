import Reparse.Proofs.Parser.Coverage

/-!
# One token of lookahead is exact

What holds here holds at every state of a tolerant parse, whether the input is hidden or not and
whatever non-terminals are under way.

Main statement: `parseChain_foresees`.
-/

namespace Reparse

open Reparse.Tree

namespace Parser

variable {parser : Parser} {state after : ParseState} {id : ExprId} {follow : KindSet}

theorem parseChain_returns {depth : Nat} (follow : KindSet)
    (tolerant : parser.leniency.toleratesErrors = true) (predictive : parser.Predictive)
    (terminating : ¬ parser.grammar.LeftRecursive) (within : id < parser.grammar.exprs.size)
    (inside : state.cursor ≤ parser.document.size) (enough : parser.depthLimit ≤ depth) :
    ∃ nodes after, parser.parseChain depth id follow state = .ok nodes after ∧
      parser.Runs depth (.chain id follow) state (.chain nodes) after := by
  have follows := parser.follows_parseChain depth
  have room : parser.Room depth (.chain id follow) state parser.grammar.exprs.size [] :=
    room_of_depthLimit_le within inside enough
  cases done : parser.parseChain depth id follow state with
  | ok nodes after => exact ⟨nodes, after, rfl, follows.of_ok done⟩
  | error stop after =>
      have run := follows.of_error done
      cases stop with
      | aborted expr found =>
          have strict := run.not_tolerant rfl
          exact (Bool.false_ne_true (strict.symm.trans tolerant)).elim
      | endless => exact (run.finite predictive terminating room rfl).elim

theorem within_of_nullable {grammar : Grammar}
    (nullable : (grammar.predict.firstOf id).nullable = true) : id < grammar.exprs.size := by
  by_contra outside
  simp [Grammar.firstOf_of_size_le (Nat.le_of_not_lt outside)] at nullable

/-- The first leaf of the chain is the token that was the current one, and no token before it was
skipped. -/
structure TakesCurrent (state : ParseState) (nodes : List Tree) (after : ParseState) : Prop where
  moves : state.cursor < after.cursor
  first : ∃ expr, (walkChain nodes).find? isLeaf = some (.token expr state.cursor)
  skipped : ∃ skipped, after.skipped = state.skipped ++ skipped ∧
    ∀ id ∈ skipped, state.cursor < id

/-- The chain has neither tokens nor missing nodes, and the parser stays where it was. -/
structure TakesNothing (state : ParseState) (nodes : List Tree) (after : ParseState) : Prop where
  leafless : ∀ node ∈ walkChain nodes, node.isLeaf = false
  cursor : after.cursor = state.cursor
  skipped : after.skipped = state.skipped

theorem walkChain_filter_isLeaf (nodes : List Tree) :
    (walkChain nodes).filter isLeaf = leavesIn [nodes] := by
  rw [walkChain_eq_chainPreorder, leavesIn]
  simp [chainsPreorder]

theorem Runs.takesCurrent {depth : Nat} {nodes : List Tree} {kind : TokenKind}
    (run : parser.Runs depth (.chain id follow) state (.chain nodes) after)
    (predictive : parser.Predictive) (within : id < parser.grammar.exprs.size)
    (current : parser.currentKind? state = some kind)
    (starts : kind ∈ (parser.grammar.predict.firstOf id).tokens) :
    TakesCurrent state nodes after := by
  obtain ⟨expr, rest, leaves⟩ := run.takes_current predictive within current starts trivial
  obtain ⟨skipped, spans⟩ := run.spans trivial
  have taken : state.cursor ∈ consumedIn [nodes] := by
    rw [consumedIn]
    change state.cursor ∈ (leavesIn (Outcome.chain nodes).chains).filterMap consumed?
    rw [leaves]
    exact List.mem_cons_self
  constructor
  · exact run.cursor_lt predictive within ⟨kind, current, starts⟩ trivial
  · refine ⟨expr, ?_⟩
    rw [← List.head?_filter, walkChain_filter_isLeaf]
    change (leavesIn (Outcome.chain nodes).chains).head? = _
    rw [leaves, List.head?_cons]
  · refine ⟨skipped, spans.skipped_eq, ?_⟩
    intro other member
    have from_cursor := ((spans.covers.mem_iff other).mp (.inr member)).1
    apply Nat.lt_of_le_of_ne from_cursor
    intro same
    exact spans.covers.disjoint state.cursor taken (same ▸ member)

theorem Runs.takesNothing {depth : Nat} {nodes : List Tree}
    (run : parser.Runs depth (.chain id follow) state (.chain nodes) after)
    (predictive : parser.Predictive) (within : id < parser.grammar.exprs.size)
    (passes : parser.Passes state (.chain id follow)) : TakesNothing state nodes after := by
  have quiet := run.quiet predictive within passes (by simp)
  constructor
  · have leafless : (walkChain nodes).filter isLeaf = [] :=
      (walkChain_filter_isLeaf nodes).trans quiet.leaves
    simpa using List.filter_eq_nil_iff.mp leafless
  · exact quiet.unmoved.cursor
  · rw [quiet.unmoved]

/-- At every state of a tolerant parse, a chain that the current token starts takes it first, and a
chain that may be left out there does nothing. -/
theorem parseChain_foresees (grammar : Grammar) (document : Document) (skipsUnknown : Bool)
    (built : grammar.Built) (terminating : ¬ grammar.LeftRecursive)
    (state : ParseState) (inside : state.cursor ≤ document.size) (id : ExprId)
    (follow : KindSet) :
    let parser : Parser := ⟨grammar, grammar.predict, document, ⟨true, skipsUnknown⟩⟩
    let first := grammar.predict.firstOf id
    ∀ depth, parser.depthLimit ≤ depth →
      (∀ kind, parser.currentKind? state = some kind → kind ∈ first.tokens →
        ∃ nodes after, parser.parseChain depth id follow state = .ok nodes after ∧
          TakesCurrent state nodes after) ∧
      (first.nullable = true →
        (∀ kind, parser.currentKind? state = some kind →
          kind ∈ follow ∧ ¬ kind ∈ first.tokens) →
        ∃ nodes after, parser.parseChain depth id follow state = .ok nodes after ∧
          TakesNothing state nodes after) := by
  intro parser first depth enough
  have predictive : parser.Predictive := ⟨built.ordered, rfl⟩
  constructor
  · intro kind current starts
    have within : id < parser.grammar.exprs.size := within_of_starts starts
    obtain ⟨nodes, after, done, run⟩ := parser.parseChain_returns follow rfl predictive
      terminating within inside enough
    exact ⟨nodes, after, done, run.takesCurrent predictive within current starts⟩
  · intro nullable other
    have within : id < parser.grammar.exprs.size := within_of_nullable nullable
    obtain ⟨nodes, after, done, run⟩ := parser.parseChain_returns follow rfl predictive
      terminating within inside enough
    refine ⟨nodes, after, done, run.takesNothing predictive within ⟨nullable, ?_, ?_⟩⟩
    · exact fun kind current => (other kind current).2
    · exact fun _ kind current => (other kind current).1

/-- Before the first closing bracket the rest of a list takes the bracket, and lists within it are
left out. -/
theorem parseChain_foresees_bracketDocument :
    let parser : Parser :=
      ⟨Grammar.bracketLists, Grammar.bracketLists.predict, bracketDocument, ⟨true, true⟩⟩
    let state := { ParseState.initial false with cursor := 2 }
    (∃ nodes after, parser.parseChain parser.depthLimit 7 .empty state = .ok nodes after ∧
      TakesCurrent state nodes after) ∧
    ∃ nodes after, parser.parseChain parser.depthLimit 6 (.singleton 1) state = .ok nodes after ∧
      TakesNothing state nodes after := by
  intro parser state
  have foresees := fun id follow => parseChain_foresees Grammar.bracketLists bracketDocument true
    Grammar.built_bracketLists Grammar.not_leftRecursive_bracketLists state (by decide) id follow
    parser.depthLimit (Nat.le_refl _)
  have current : parser.currentKind? state = some 1 := by decide +kernel
  constructor
  · exact (foresees 7 .empty).1 1 current (by decide +kernel)
  · apply (foresees 6 (.singleton 1)).2 (by decide +kernel)
    intro kind current'
    obtain rfl := Option.some.inj (current.symm.trans current')
    decide +kernel

end Parser

end Reparse
