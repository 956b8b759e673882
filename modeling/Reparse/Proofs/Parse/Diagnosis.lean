import Reparse.Parse.Diagnostic
import Reparse.Proofs.Parse.Reached
import Reparse.Proofs.Parser.Missing
import Reparse.Proofs.Parser.Strictness

/-!
# Diagnostics tell the truth

An error names the kinds that start the chain of a missing expression, although the descent looked
at one element only.  In a document without a changed region the kind that was found starts no chain
with that element.

Main statement: `Parser.run?_truthful`.
-/

namespace Reparse

open Reparse.Tree

/-- Where a node stands among the tokens: at its own one, or at the end of the text. -/
def Tree.placeIn (document : Document) (node : Tree) : TokenId :=
  node.ownToken?.getD document.size

namespace Diagnostic

/-- The error of a missing node: what could stand there, and what does. -/
structure ReportsMissing (grammar : Grammar) (document : Document) (node : Tree)
    (diagnostic : Diagnostic) : Prop where
  severity : diagnostic.severity = .error
  expected : diagnostic.expected = (grammar.predict.firstOf node.expr).tokens.toList
  found : diagnostic.found = node.ownToken?.bind document.kind?
  unexpected : ∀ kind, diagnostic.found = some kind → ¬ kind ∈ diagnostic.expected
  span : diagnostic.span =
    match node.ownToken? with
    | some id => document.tokenSpan id
    | none => .point (Text.byteSize document.source)

/-- The hint of a skipped token. -/
structure ReportsSkipped (document : Document) (id : TokenId) (diagnostic : Diagnostic) :
    Prop where
  severity : diagnostic.severity = .hint
  expected : diagnostic.expected = []
  found : diagnostic.found = document.kind? id
  span : diagnostic.span = document.tokenSpan id

end Diagnostic

theorem forall₂_filterMap {α β : Type} {related : α → β → Prop} {function : α → Option β}
    {items : List α} (all : ∀ item ∈ items, ∃ made, function item = some made ∧ related item made) :
    List.Forall₂ related items (items.filterMap function) := by
  induction items with
  | nil => exact .nil
  | cons item items induction =>
      obtain ⟨made, made_eq, holds⟩ := all item List.mem_cons_self
      rw [List.filterMap_cons_some made_eq]
      exact .cons holds (induction fun other member => all other (List.mem_cons_of_mem _ member))

namespace Parse

variable {grammar : Grammar} {parse : Parse}

/-- The token found does not start what is missing. -/
def Unexpected (grammar : Grammar) (document : Document) (expr : ExprId)
    (found : Option TokenId) : Prop :=
  ∀ id, found = some id → ∃ kind, document.kind? id = some kind ∧
    ¬ kind ∈ (grammar.predict.firstOf expr).tokens

theorem reportsMissing_missingDiagnostic {expr : ExprId} {found : Option TokenId}
    (unexpected : Unexpected grammar parse.document expr found) :
    Diagnostic.ReportsMissing grammar parse.document (.missing expr found)
      (parse.missingDiagnostic grammar grammar.predict expr found) := by
  unfold missingDiagnostic
  cases found with
  | none =>
      exact { severity := rfl, expected := rfl, found := rfl, unexpected := nofun, span := rfl }
  | some id =>
      obtain ⟨kind, kind_eq, apart⟩ := unexpected id rfl
      obtain ⟨token, token_eq, rfl⟩ := Option.map_eq_some_iff.mp kind_eq
      simp only [Option.bind_some, token_eq]
      refine ⟨rfl, rfl, kind_eq.symm, ?_, ?_⟩
      · rintro _ ⟨⟩ member
        exact apart (KindSet.mem_toList.mp member)
      · simp only [Tree.ownToken?, Document.tokenSpan, token_eq]

theorem mem_nodes_of_mem_missingNodes {node : Tree} (member : node ∈ parse.missingNodes) :
    node ∈ parse.nodes := by
  rw [missingNodes, Tree.missingNodes, walkChain, List.flatMap_singleton] at member
  exact (List.mem_filter.mp member).1

/-- One error for every missing node is followed by one hint for every skipped token. -/
theorem exists_diagnostics_eq
    (unexpected : ∀ expr found, .missing expr found ∈ parse.missingNodes →
      Unexpected grammar parse.document expr found)
    (inside : ∀ id ∈ parse.skipped, id < parse.document.size) :
    ∃ errors hints, parse.diagnostics grammar grammar.predict = errors ++ hints ∧
      List.Forall₂ (Diagnostic.ReportsMissing grammar parse.document) parse.missingNodes errors ∧
      List.Forall₂ (Diagnostic.ReportsSkipped parse.document) parse.skipped hints := by
  refine ⟨_, _, rfl, forall₂_filterMap ?_, List.forall₂_map_right_iff.mpr (forall₂_filterMap ?_)⟩
  · intro node member
    cases node with
    | missing expr found =>
        exact ⟨_, rfl, reportsMissing_missingDiagnostic (unexpected expr found member)⟩
    | token | nonTerminal | empty | optional | alternation | repetition =>
        exact absurd (List.mem_filter.mp member).2 (by simp [Tree.isMissing])
  · intro id member
    obtain ⟨token, token_eq, -⟩ := Document.exists_token? (inside id member)
    refine ⟨token, token_eq, rfl, rfl, ?_, ?_⟩
    · simp only [Document.kind?, token_eq, skippedDiagnostic, Option.map_some]
    · simp only [Document.tokenSpan, token_eq, skippedDiagnostic]

end Parse

namespace Parser

variable {parser : Parser} {start : NonTerminalId} {announced : Bool}
  {state after : ParseState}

/-! ## Skipped tokens -/

theorem Step.skipped_inside (step : parser.Step start state after)
    (inside : ∀ id ∈ state.skipped, id < parser.document.size) :
    ∀ id ∈ after.skipped, id < parser.document.size := by
  have more : state.cursor < parser.document.size →
      ∀ id ∈ state.skipped ++ [state.cursor], id < parser.document.size := fun current id member =>
    (List.mem_append.mp member).elim (inside id) fun last => List.mem_singleton.mp last ▸ current
  cases step with
  | observes announced => rwa [(parser.samePlace_observe _).skipped]
  | starts announced => exact inside
  | tells unmoved => rwa [unmoved]
  | takes _ current => rwa [(samePlace_advance (cursor_lt_of_currentKind? current)).skipped]
  | skips _ _ current =>
      have current := cursor_lt_of_currentKind? current
      rw [(samePlace_skip current).skipped]
      exact more current
  | enters => exact inside
  | returns cutShort => rwa [(parser.samePlace_closeFrame _ cutShort _).skipped]
  | trails _ _ current => exact more current

theorem Finishes.skipped_inside {run : Parser.Run}
    (finishes : parser.Finishes start announced run) :
    ∀ id ∈ run.parse.skipped, id < parser.document.size := by
  obtain ⟨last, reachable, -, run_eq⟩ := finishes.path
  rw [run_eq]
  change ∀ id ∈ last.skipped, id < parser.document.size
  clear run_eq
  induction reachable with
  | refl => simp [ParseState.initial]
  | tail _ step induction => exact step.skipped_inside induction

/-! ## The places of missing nodes -/

theorem Reads.places {leaves : List Tree} (reads : parser.Reads state leaves after)
    (inside : state.cursor ≤ parser.document.size) :
    Ordered (parser.document.size + 1)
      ((leaves.filter isMissing).map (placeIn parser.document)) state.cursor after.cursor := by
  induction reads with
  | stays same => exact .nothing same.cursor.ge
  | takes _ current =>
      have moved := (samePlace_advance (cursor_lt_of_currentKind? current)).cursor
      exact .nothing (by rw [moved]; exact Nat.le_succ _)
  | @misses state id =>
      have place : (parser.currentId? state).getD parser.document.size = state.cursor := by
        unfold currentId?
        split
        · rfl
        · exact Nat.le_antisymm (Nat.le_of_not_lt ‹_›) inside
      have listed : ([Tree.missing id (parser.currentId? state)].filter isMissing).map
          (placeIn parser.document) = [state.cursor] := congrArg (fun place => [place]) place
      rw [listed]
      exact .one (Nat.le_refl _) (Nat.lt_succ_of_le inside)
  | skips _ current =>
      have moved := (samePlace_skip (cursor_lt_of_currentKind? current)).cursor
      exact .nothing (by rw [moved]; exact Nat.le_succ _)
  | append first _ firstPlaces secondPlaces =>
      rw [List.filter_append, List.map_append]
      exact (firstPlaces inside).append (secondPlaces (first.inside inside))

/-! ## Parses -/

/-- What the missing nodes and the diagnostics of a parse say is so. -/
structure Truthful (parser : Parser) (start : NonTerminalId) (announced : Bool) (parse : Parse) :
    Prop where
  /-- What is missing has to match something, and does not start with what was found. -/
  missing : ∀ expr found, .missing expr found ∈ parse.nodes →
    (parser.grammar.expr expr).element.MayBeMissing ∧
      (parser.grammar.predict.firstOf expr).nullable = false ∧
      Parse.Unexpected parser.grammar parse.document expr found
  /-- Where nothing was found the descent was behind all tokens, which it had taken or skipped. -/
  ended : ∀ expr, .missing expr none ∈ parse.nodes →
    ∃ follow place leaves,
      Relation.ReflTransGen parser.Calls
        (.chain (parser.grammar.ruleOf start) .empty, parser.startState start announced)
        (.element expr follow (parser.grammar.expr expr).element, place) ∧
      parser.Reads (parser.startState start announced) leaves place ∧
      ∀ id < parse.document.size, id ∈ leaves.filterMap consumed? ∨ id ∈ place.skipped
  /-- In a tree the tokens taken are those of the nodes before the missing one. -/
  behind : parse.tree.isMissing = false → ∀ earlier expr later,
    parse.nodes = earlier ++ .missing expr none :: later →
    ∀ id < parse.document.size, id ∈ earlier.filterMap consumed? ∨ id ∈ parse.skipped
  ordered : (parse.missingNodes.map (placeIn parse.document)).Pairwise (· ≤ ·)
  reported : ∃ errors hints,
    parse.diagnostics parser.grammar parser.grammar.predict = errors ++ hints ∧
      List.Forall₂ (Diagnostic.ReportsMissing parser.grammar parse.document)
        parse.missingNodes errors ∧
      List.Forall₂ (Diagnostic.ReportsSkipped parse.document) parse.skipped hints

/-- The descent comes to all missing nodes of a parse. -/
theorem Finishes.comesToMiss {run : Parser.Run} (finishes : parser.Finishes start announced run)
    (unedited : parser.document.hasChanges = false) {expr : ExprId} {found : Option TokenId}
    (member : .missing expr found ∈ run.parse.nodes) :
    parser.ComesToMiss (.chain (parser.grammar.ruleOf start) .empty)
      (parser.startState start announced) expr found := by
  have visible : (parser.startState start announced).hiddenUntil = none :=
    (bothSee_startState parser parser start announced announced).visible
  have leaf : .missing expr found ∈ leavesIn [[run.parse.tree]] := by
    rw [leavesIn_eq_filter_walk]
    exact List.mem_filter.mpr ⟨member, rfl⟩
  cases finishes with
  | @parsed child after descent =>
      have below : .missing expr found ∈ leavesIn [child] := leavesIn_nonTerminal _ _ child ▸ leaf
      exact descent.comesToMiss unedited visible trivial below
  | @aborted only held after descent =>
      have same : Tree.missing expr found = .missing only held :=
        List.mem_singleton.mp (leavesIn_missing only held ▸ leaf)
      cases same
      exact descent.comesToMiss unedited visible trivial rfl

/-- The tokens before a missing node that found nothing are all tokens but the skipped ones. -/
theorem Finishes.behind {run : Parser.Run} (finishes : parser.Finishes start announced run)
    (parsed : run.parse.tree.isMissing = false) {earlier later : List Tree} {expr : ExprId}
    (split : run.parse.nodes = earlier ++ .missing expr none :: later) :
    ∀ id < parser.document.size, id ∈ earlier.filterMap consumed? ∨ id ∈ run.parse.skipped := by
  intro id inside
  cases finishes with
  | aborted => cases parsed
  | @parsed child after descent =>
      have leaves_eq : leavesIn [child] =
          earlier.filter isLeaf ++ .missing expr none :: later.filter isLeaf := by
        have leaves := congrArg (List.filter isLeaf) split
        rwa [Parse.nodes, ← leavesIn_eq_filter_walk, finish, leavesIn_nonTerminal,
          List.filter_append, List.filter_cons_of_pos rfl] at leaves
      obtain ⟨place, reads, ended, rest⟩ := (descent.reads trivial).exists_place leaves_eq
      rw [← filterMap_consumed?_filter_isLeaf]
      refine (reads.exhausts ended.symm id inside).imp_right fun skipped => ?_
      obtain ⟨others, spans⟩ := rest.spans
      have placeInside := (descent.reads trivial).inside
        ((startState_cursor ..).trans_le (Nat.zero_le _))
      have closed := parser.samePlace_closeFrame start false after
      obtain ⟨swept, sweeps, -⟩ := spans_sweep (parser.closeFrame start false after)
        (closed.cursor.trans_le placeInside)
      change id ∈ (parser.sweep (parser.closeFrame start false after)).skipped
      rw [sweeps.skipped_eq, closed.skipped, spans.skipped_eq]
      exact List.mem_append_left _ (List.mem_append_left _ skipped)

theorem Finishes.places {run : Parser.Run} (finishes : parser.Finishes start announced run) :
    (run.parse.missingNodes.map (placeIn run.parse.document)).Pairwise (· ≤ ·) := by
  rw [Parse.missingNodes, missingNodes_eq_filter_leavesIn]
  cases finishes with
  | @parsed child after descent =>
      rw [finish, leavesIn_nonTerminal]
      exact ((descent.reads trivial).places
        ((startState_cursor ..).trans_le (Nat.zero_le _))).ordered
  | aborted =>
      rw [finish, leavesIn_missing]
      exact List.pairwise_singleton ..

/-- In a document without a changed region the diagnostics tell the truth. -/
theorem run?_truthful (grammar : Grammar) (document : Document) (leniency : Leniency)
    (start : NonTerminalId) (announced : Bool) (built : grammar.Built)
    (terminating : ¬ grammar.LeftRecursive) (unchanged : document.changedRegion = none) :
    ∃ run, Parser.run? ⟨grammar, grammar.predict, document, leniency⟩ start announced =
        some run ∧
      Truthful ⟨grammar, grammar.predict, document, leniency⟩ start announced run.parse := by
  have predictive : Predictive ⟨grammar, grammar.predict, document, leniency⟩ :=
    ⟨built.ordered, rfl⟩
  have unedited : document.hasChanges = false := by simp [Document.hasChanges, unchanged]
  obtain ⟨run, done, finishes⟩ := run?_finishes predictive terminating start announced
  have document_eq : run.parse.document = document := by cases finishes <;> rfl
  have unexpected : ∀ expr found, .missing expr found ∈ run.parse.nodes →
      Parse.Unexpected grammar run.parse.document expr found := by
    rintro expr _ member id rfl
    obtain ⟨_, _, _, misses⟩ := finishes.comesToMiss unedited member
    exact document_eq ▸ misses.unexpected predictive
  refine ⟨run, done, ?_, ?_, ?_, finishes.places, ?_⟩
  · intro expr found member
    obtain ⟨_, _, _, misses⟩ := finishes.comesToMiss unedited member
    exact ⟨misses.lacks.mayBeMissing, (misses.full predictive).1, unexpected expr found member⟩
  · intro expr member
    obtain ⟨follow, place, calls, misses⟩ := finishes.comesToMiss unedited member
    obtain ⟨leaves, reads⟩ := exists_reads_of_calls calls
    exact ⟨follow, place, leaves, calls, reads,
      document_eq ▸ reads.exhausts misses.found_eq.symm⟩
  · intro parsed earlier expr later split
    exact document_eq ▸ finishes.behind parsed split
  · refine Parse.exists_diagnostics_eq (fun expr found member => ?_) ?_
    · exact unexpected expr found (Parse.mem_nodes_of_mem_missingNodes member)
    · exact document_eq ▸ finishes.skipped_inside

theorem run?_truthful_unclosedDocument :
    unclosedDocument.changedRegion = none ∧
      ∃ run, Parser.run? ⟨Grammar.bracketLists, Grammar.bracketLists.predict, unclosedDocument,
          .standard⟩ 0 false = some run ∧
        Truthful ⟨Grammar.bracketLists, Grammar.bracketLists.predict, unclosedDocument, .standard⟩
          0 false run.parse :=
  ⟨rfl, run?_truthful _ unclosedDocument .standard 0 false Grammar.built_bracketLists
    Grammar.not_leftRecursive_bracketLists rfl⟩

example :
    (Parser.run? ⟨Grammar.bracketLists, Grammar.bracketLists.predict, unclosedDocument,
        .standard⟩ 0 false).map (fun run =>
          (run.parse.diagnostics Grammar.bracketLists Grammar.bracketLists.predict).map
            (fun diagnostic => (diagnostic.span, diagnostic.expected, diagnostic.found))) =
      some [(⟨6, 6⟩, [1], none)] := by
  decide +kernel

end Parser

end Reparse
