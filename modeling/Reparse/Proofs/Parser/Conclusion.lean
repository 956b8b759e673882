import Reparse.Proofs.Parser.Completeness
import Reparse.Proofs.Parser.Hiding
import Reparse.Proofs.Parser.Leniency
import Reparse.Proofs.Parser.Yield

/-!
# Conclusive parses

A parse of a document with edits may see less than the whole text.  Where it left nothing out its
tree derives the kinds of the whole document, and a grammar without conflicts parses each such
document without an error.
-/

namespace Reparse

open Reparse.Tree

/-- The parse left nothing out, in a grammar in which each token decides. -/
structure Parse.Conclusive (grammar : Grammar) (start : NonTerminalId) (parse : Parse) : Prop where
  conflictFree : grammar.ConflictFree start
  nothingSkipped : parse.skipped = []
  filled : ∀ node ∈ parse.nodes, ∀ expr items, node = .repetition expr items →
    node.contents grammar ≠ []

theorem Parse.conclusive_forgetEdits {grammar : Grammar} {start : NonTerminalId} {parse : Parse} :
    parse.forgetEdits.Conclusive grammar start ↔ parse.Conclusive grammar start :=
  ⟨fun ⟨conflictFree, skipped, filled⟩ => ⟨conflictFree, skipped, filled⟩,
    fun ⟨conflictFree, skipped, filled⟩ => ⟨conflictFree, skipped, filled⟩⟩

theorem Parse.hasErrors_eq_false_iff {parse : Parse} :
    parse.hasErrors = false ↔ ∀ node ∈ parse.nodes, node.isMissing = false := by
  simp [hasErrors, nodes, Tree.hasErrors, walkChain]

namespace Parser

variable {parser : Parser} {start : NonTerminalId} {announced : Bool} {run : Parser.Run}

theorem TokensDivided.consumed_eq_range {size : Nat} {leniency : Leniency} {parse : Parse}
    (divided : TokensDivided size leniency parse) (nothingSkipped : parse.skipped = [])
    (skipsUnknown : leniency.skipsUnknown = true) :
    parse.nodes.filterMap consumed? = List.range size := by
  apply divided.consumedAscends.eq_of_mem_iff List.pairwise_lt_range
  intro id
  rw [List.mem_range, ← divided.complete skipsUnknown id, nothingSkipped]
  simp

theorem Finishes.derives_document (finishes : parser.Finishes start announced run)
    (predictive : parser.Predictive) (skipsUnknown : parser.leniency.skipsUnknown = true)
    (complete : run.parse.hasErrors = false)
    (conclusive : run.parse.Conclusive parser.grammar start) :
    parser.grammar.Derives (.chain (parser.grammar.ruleOf start))
      (parser.document.tokens.toList.map Token.kind) := by
  have present := Parse.hasErrors_eq_false_iff.mp complete
  cases finishes with
  | @aborted expr found after run =>
      have lone := present (.missing expr found)
        (by simp [Parse.nodes, finish, walk_eq_preorder, preorder])
      exact (Bool.false_ne_true lone.symm).elim
  | parsed run =>
      have consumed := (tokensDivided_of_runs run).consumed_eq_range conclusive.nothingSkipped
        skipsUnknown
      rw [Parse.nodes, finish, filterMap_consumed?_walk] at consumed
      have derives : Derives parser.grammar parser.document start _ :=
        ⟨_, rfl, run.fits predictive (predictive.ordered.rule_lt start) trivial⟩
      rw [← wordIn_of_all consumed]
      exact derives.word predictive.ordered conclusive.conflictFree fun node member =>
        ⟨present node member, conclusive.filled node member⟩

/-- Where a parse that left nothing out lacks nothing, neither does the parse of the text alone. -/
theorem Finishes.complete_forgetEdits (announced' : Bool)
    (finishes : parser.Finishes start announced run)
    (predictive : parser.Predictive) (terminating : ¬ parser.grammar.LeftRecursive)
    (skipsUnknown : parser.leniency.skipsUnknown = true)
    (complete : run.parse.hasErrors = false)
    (conclusive : run.parse.Conclusive parser.grammar start) :
    ∃ run', (parser.reading parser.document.forgetEdits).Finishes start announced' run' ∧
      run'.parse.hasErrors = false := by
  have derived := finishes.derives_document predictive skipsUnknown complete conclusive
  let exactly := (parser.reading parser.document.forgetEdits).under ⟨false, false⟩
  have exacting : exactly.Exacting start :=
    ⟨⟨predictive.ordered, predictive.predicted⟩, rfl,
      fun occurs found => conclusive.conflictFree.contentNotNullable occurs found⟩
  have plain : exactly.Plain := ⟨exacting.predictive, rfl, rfl⟩
  obtain ⟨strict, -, strictly⟩ := run?_finishes exacting.predictive terminating start announced'
  obtain ⟨present, whole⟩ := strictly.takes_document plain conclusive.conflictFree derived
  obtain ⟨run', finishes', tree, -⟩ := strictly.under exacting
    (Parse.hasErrors_eq_false_iff.mpr present) whole parser.leniency
  refine ⟨run', finishes', ?_⟩
  rw [Parse.hasErrors, tree]
  exact Parse.hasErrors_eq_false_iff.mpr present

end Parser

end Reparse
