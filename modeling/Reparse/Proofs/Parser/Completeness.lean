import Reparse.Proofs.Parser.Repeating

/-!
# Every derived word is parsed

In a grammar without conflicts the choices of the descent are those of any derivation.  The
induction is on the derivation.
-/

namespace Reparse

open Reparse.Tree

namespace Parser

variable {parser : Parser} {after : ParseState} {word : List TokenKind} {start : NonTerminalId}
  {place : Place}

/-- A run of a phrase takes every word that the phrase derives. -/
theorem accepts_of_derives {phrase : Phrase}
    (plain : parser.Plain) (conflictFree : parser.grammar.ConflictFree start)
    (derives : parser.grammar.Derives phrase word)
    (at_ : parser.grammar.At start place phrase) :
    parser.Accepts start place phrase word := by
  have ordered := plain.predictive.ordered
  induction derives generalizing place with
  | last last _ element => exact .last plain at_ last (element ⟨_, at_, rfl⟩)
  | cons following _ rest element restAccepts =>
      exact .cons plain at_ following (element ⟨_, at_, rfl⟩)
        (rest.covers ordered conflictFree (at_.next following)) (restAccepts (at_.next following))
  | token => exact .token plain
  | nonTerminal rule accepts =>
      obtain ⟨id, occurs, found⟩ := at_
      exact .nonTerminal plain conflictFree occurs found
        (rule.covers ordered conflictFree (occurs.rule found)) (accepts (occurs.rule found))
  | empty => exact .empty
  | optional inner accepts =>
      obtain ⟨id, occurs, found⟩ := at_
      exact .optional plain conflictFree occurs found
        (inner.covers ordered conflictFree (occurs.inner found)) (accepts (occurs.inner found))
  | optionalAbsent =>
      obtain ⟨id, occurs, found⟩ := at_
      exact .optionalAbsent plain conflictFree occurs found
  | alternation member branch accepts =>
      obtain ⟨id, occurs, found⟩ := at_
      exact .alternation plain conflictFree occurs found member
        (branch.covers ordered conflictFree (occurs.branch found member))
        (accepts (occurs.branch found member))
  | unled optional contents accepts =>
      have covers := contents.covers ordered conflictFree at_
      obtain ⟨id, occurs, found⟩ := at_
      exact .unled plain conflictFree occurs found optional covers
        (accepts ⟨id, occurs, found⟩)
  | led allowed separator contents separatorAccepts accepts =>
      have covers := contents.covers ordered conflictFree at_
      obtain ⟨id, occurs, found⟩ := at_
      exact .led plain conflictFree occurs found allowed
        (separator.covers ordered conflictFree (occurs.separator found)) covers
        (separatorAccepts (occurs.separator found)) (accepts ⟨id, occurs, found⟩)
  | content optional _ content =>
      obtain ⟨id, occurs, found⟩ := at_
      exact .content plain conflictFree occurs found optional (content (occurs.content found))
  | trailing allowed _ separator content separatorAccepts =>
      obtain ⟨id, occurs, found⟩ := at_
      exact .trailing plain conflictFree occurs found allowed
        (separator.covers ordered conflictFree (occurs.separator found))
        (content (occurs.content found)) (separatorAccepts (occurs.separator found))
  | separated _ separator rest content separatorAccepts accepts =>
      have covers := rest.covers ordered conflictFree at_
      obtain ⟨id, occurs, found⟩ := at_
      exact .separated plain conflictFree occurs found
        (separator.covers ordered conflictFree (occurs.separator found)) covers
        (content (occurs.content found)) (separatorAccepts (occurs.separator found))
        (accepts ⟨id, occurs, found⟩)

theorem ready_startState
    (unedited : parser.document.hasChanges = false) (start : NonTerminalId)
    (setsAnnounced : Bool) :
    parser.Ready (parser.startState start setsAnnounced)
      (parser.document.tokens.toList.map Token.kind) := by
  rw [startState, observe_of_unedited unedited]
  exact ⟨rfl, rfl⟩

theorem Runs.takes_document {depth : Nat} {follow : KindSet} {setsAnnounced : Bool}
    {outcome : Outcome} (plain : parser.Plain)
    (conflictFree : parser.grammar.ConflictFree start)
    (derived : parser.grammar.Derives (.chain (parser.grammar.ruleOf start))
      (parser.document.tokens.toList.map Token.kind))
    (run : parser.Runs depth (.chain (parser.grammar.ruleOf start) follow)
      (parser.startState start setsAnnounced) outcome after)
    (finite : outcome ≠ .stopped .endless) :
    parser.Takes outcome after [] ∧
      consumedIn outcome.chains = List.range parser.document.size := by
  have ready := ready_startState plain.unedited start setsAnnounced
  have accepts := accepts_of_derives plain conflictFree derived .start
  rw [← List.append_nil (List.map _ _)] at ready
  have takes := accepts .chain run finite ready (by simp [MayFollow])
  obtain ⟨skipped, spans⟩ := run.spans takes.succeeds
  have covers := spans.covers
  rw [spans.strict plain.exact, startState_cursor] at covers
  have inside := spans.inside ((startState_cursor ..).trans_le (Nat.zero_le _))
  have outside : parser.document.size ≤ after.cursor := by
    simpa [Document.size] using takes.ready.rest_eq
  refine ⟨takes, ?_⟩
  rw [covers.taken_eq, List.range_eq_range', Nat.sub_zero, Nat.le_antisymm inside outside]

theorem Finishes.takes_document {setsAnnounced : Bool} {run : Parser.Run}
    (finishes : parser.Finishes start setsAnnounced run) (plain : parser.Plain)
    (conflictFree : parser.grammar.ConflictFree start)
    (derived : parser.grammar.Derives (.chain (parser.grammar.ruleOf start))
      (parser.document.tokens.toList.map Token.kind)) :
    (∀ node ∈ run.parse.nodes, node.isMissing = false) ∧
      run.parse.nodes.filterMap consumed? = List.range parser.document.size := by
  cases finishes with
  | parsed run =>
      obtain ⟨takes, consumed⟩ := run.takes_document plain conflictFree derived (by simp)
      have complete := takes.complete
      rw [Outcome.chains, ← leavesIn_nonTerminal (parser.grammar.ruleOf start) start] at complete
      rw [Outcome.chains, consumedIn, ← leavesIn_nonTerminal (parser.grammar.ruleOf start) start]
        at consumed
      exact ⟨isMissing_of_mem_walk complete, (filterMap_consumed?_walk _).trans consumed⟩
  | aborted run =>
      obtain ⟨takes, _⟩ := run.takes_document plain conflictFree derived (by simp)
      exact takes.succeeds.elim

/-- Where the grammar has no conflicts, a text that the start symbol derives is parsed without
errors. -/
theorem run?_complete (grammar : Grammar) (document : Document) (start : NonTerminalId)
    (setsAnnounced : Bool) (built : grammar.Built) (terminating : ¬ grammar.LeftRecursive)
    (conflictFree : grammar.ConflictFree start) (unedited : document.history = none)
    (derived : grammar.Derives (.chain (grammar.ruleOf start))
      (document.tokens.toList.map Token.kind)) :
    ∃ run, Parser.run? ⟨grammar, grammar.predict, document, ⟨false, false⟩⟩ start setsAnnounced =
        some run ∧
      (∀ node ∈ run.parse.nodes, node.isMissing = false) ∧
      run.parse.nodes.filterMap consumed? = List.range document.size := by
  have predictive : Predictive ⟨grammar, grammar.predict, document, ⟨false, false⟩⟩ :=
    ⟨built.ordered, rfl⟩
  have unchanged : document.hasChanges = false := by
    simp [Document.hasChanges, Document.changedRegion, unedited]
  have plain : Plain ⟨grammar, grammar.predict, document, ⟨false, false⟩⟩ :=
    ⟨predictive, rfl, unchanged⟩
  obtain ⟨run, done, finishes⟩ := run?_finishes predictive terminating start setsAnnounced
  exact ⟨run, done, finishes.takes_document plain conflictFree derived⟩

theorem run?_complete_bracketDocument :
    ∃ run, Parser.run? ⟨Grammar.bracketLists, Grammar.bracketLists.predict, bracketDocument,
        ⟨false, false⟩⟩ 0 false = some run ∧
      (∀ node ∈ run.parse.nodes, node.isMissing = false) ∧
      run.parse.nodes.filterMap consumed? = List.range bracketDocument.size :=
  run?_complete _ bracketDocument 0 false Grammar.built_bracketLists
    Grammar.not_leftRecursive_bracketLists Grammar.conflictFree_bracketLists rfl
    Grammar.derives_bracketLists

end Parser

end Reparse
