import Reparse.Proofs.Parser.Comparison
import Reparse.Proofs.Parser.Coverage

/-!
# Unknown tokens are transparent unless they mislead

A parse of a padded document is that of the plain one with the tokens put in skipped, unless the
parser is misled behind a separator.

Main statement: `run?_transparent_iff`.
-/

namespace Reparse

open Reparse.Tree

/-- The second parse is the first one with its tokens at their new places, and it skips all tokens
that have no place in the first document as well. -/
structure Transparent (place : TokenId → TokenId) (parse padded : Parse) : Prop where
  tree : padded.tree = parse.tree.renumber place
  skippedAscends : padded.skipped.Pairwise (· < ·)
  skipped : ∀ id, id ∈ padded.skipped ↔
    (∃ own ∈ parse.skipped, place own = id) ∨
      id < padded.document.size ∧ ∀ own < parse.document.size, place own ≠ id

namespace Parser

/-- What is not consumed is skipped, so the trees tell all. -/
theorem transparent_iff {grammar : Grammar} {place : TokenId → TokenId} {parse padded : Parse}
    (pads : Pads grammar place parse.document padded.document)
    (divided : TokensDivided parse.document.size .standard parse)
    (divided' : TokensDivided padded.document.size .standard padded) :
    Transparent place parse padded ↔ padded.tree = parse.tree.renumber place := by
  refine ⟨Transparent.tree, fun same => ⟨same, divided'.skippedAscends, fun id => ?_⟩⟩
  have consumed : ∀ id, id ∈ padded.nodes.filterMap consumed? ↔
      ∃ own ∈ parse.nodes.filterMap consumed?, place own = id := by
    intro id
    rw [Parse.nodes, same, filterMap_consumed?_walk_renumber, List.mem_map, Parse.nodes]
  constructor
  · intro skipped
    have inside := (divided'.complete rfl id).mp (.inr skipped)
    by_cases foreign : ∀ own < parse.document.size, place own ≠ id
    · exact .inr ⟨inside, foreign⟩
    · push Not at foreign
      obtain ⟨own, inside_own, rfl⟩ := foreign
      rcases (divided.complete rfl own).mpr inside_own with member | member
      · exact (divided'.disjoint _ ((consumed _).mpr ⟨own, member, rfl⟩) skipped).elim
      · exact .inl ⟨own, member, rfl⟩
  · rintro (⟨own, skipped, rfl⟩ | ⟨inside, foreign⟩)
    · have inside := (divided.complete rfl own).mp (.inr skipped)
      rcases (divided'.complete rfl _).mpr (pads.place_lt inside) with member | member
      · obtain ⟨other, taken, same⟩ := (consumed _).mp member
        obtain rfl := pads.eq_of_place_eq ((divided.complete rfl other).mp (.inl taken)) inside same
        exact (divided.disjoint _ taken skipped).elim
      · exact member
    · rcases (divided'.complete rfl id).mpr inside with member | member
      · obtain ⟨own, member, same⟩ := (consumed id).mp member
        exact (foreign own ((divided.complete rfl own).mp (.inl member)) same).elim
      · exact member

theorem sameGap_startState {parser : Parser} {place : TokenId → TokenId} {padded : Document}
    (start : NonTerminalId) (announced announced' : Bool) :
    parser.SameGap place padded (parser.startState start announced)
      ((parser.reading padded).startState start announced') := by
  have stands : ∀ {parser : Parser} (announced : Bool),
      parser.Stands (parser.startState start announced) := by
    intro parser announced
    refine ⟨?_, (startState_cursor ..).trans_le (Nat.zero_le _)⟩
    exact hiddenUntil_observe_of_outside rfl
  refine ⟨stands announced, stands announced', fun inside => ?_⟩
  simp [startState_cursor]

/-- Dropping the tokens put in gives the plain parse exactly if the parser is not misled behind a
separator on the way. -/
theorem run?_transparent_iff (grammar : Grammar) (document padded : Document)
    (place : TokenId → TokenId) (start : NonTerminalId) (announced announced' : Bool)
    (built : grammar.Built) (terminating : ¬ grammar.LeftRecursive)
    (pads : Pads grammar place document padded) :
    ∃ run run',
      Parser.run? ⟨grammar, grammar.predict, document, .standard⟩ start announced = some run ∧
      Parser.run? ⟨grammar, grammar.predict, padded, .standard⟩ start announced' = some run' ∧
      (Transparent place run.parse run'.parse ↔
        Clear ⟨grammar, grammar.predict, padded, .standard⟩ (nextOwn? place document)
          (.chain (grammar.ruleOf start) .empty,
            startState ⟨grammar, grammar.predict, padded, .standard⟩ start announced')) ∧
      (grammar.ProhibitsEnds → Transparent place run.parse run'.parse) := by
  have predictive : ∀ document, Predictive ⟨grammar, grammar.predict, document, .standard⟩ :=
    fun document => ⟨built.ordered, rfl⟩
  obtain ⟨run, done, finishes⟩ := run?_finishes (predictive document) terminating start announced
  obtain ⟨run', done', finishes'⟩ := run?_finishes (predictive padded) terminating start announced'
  refine ⟨run, run', done, done', ?_⟩
  obtain ⟨child, after, childRun, tree, read, divided⟩ := finishes.parsed_of_tolerant rfl
  obtain ⟨child', after', childRun', tree', read', divided'⟩ := finishes'.parsed_of_tolerant rfl
  have overlooks : Overlooks ⟨grammar, grammar.predict, document, .standard⟩ place padded :=
    ⟨predictive document, rfl, pads⟩
  have pads' : Pads grammar place run.parse.document run'.parse.document := by
    rw [read, read']
    exact pads
  have compares := childRun.comparable overlooks (built.ordered.rule_lt start)
    Grammar.knows_empty trivial 0 (sameGap_startState start announced announced')
    childRun' trivial
  have clear_iff : Transparent place run.parse run'.parse ↔ _ := calc
    Transparent place run.parse run'.parse ↔ run'.parse.tree = run.parse.tree.renumber place :=
      transparent_iff pads' divided divided'
    _ ↔ Outcome.chain child' = (Outcome.chain child).renumber place := by simp [tree, tree']
    _ ↔ _ := compares.same_iff
  exact ⟨clear_iff, fun prohibits => clear_iff.mpr (clear_of_prohibitsEnds prohibits trivial)⟩

/-! ## A stray token in lists in brackets -/

def strayDocument (stray : TokenId) : Document :=
  let kinds := (bracketDocument.tokens.toList.map Token.kind).insertIdx stray 3
  { scanner := default
    current :=
      { source := bracketDocument.source.insertIdx stray '?'
        tokens := (kinds.zipIdx.map fun (kind, place) => ⟨kind, ⟨place, place + 1⟩⟩).toArray
        obstacle := none }
    history := none }

def strayPlace (stray own : TokenId) : TokenId := if own < stray then own else own + 1

theorem pads_strayDocument {stray : TokenId} (inside : stray ≤ bracketDocument.size) :
    Pads Grammar.bracketLists (strayPlace stray) bracketDocument (strayDocument stray) where
  unedited := rfl
  unedited' := rfl
  ascends {first second} less _ := by
    unfold strayPlace
    split <;> split <;> lia
  kept := by
    have kept : ∀ stray ≤ 7, ∀ own < 7,
        (strayDocument stray).kind? (strayPlace stray own) = bracketDocument.kind? own := by
      decide +kernel
    exact fun {own} inside_own => kept stray inside own inside_own
  unknown {id kind} here foreign := by
    have size : ∀ stray ≤ 7, (strayDocument stray).size = 8 := by decide +kernel
    have unknown : ∀ stray ≤ 7, ∀ id < 8, (∀ own < 7, strayPlace stray own ≠ id) →
        ∀ kind ∈ Grammar.bracketLists.kinds, (strayDocument stray).kind? id ≠ some kind := by
      decide +kernel
    have inside_id : id < 8 := by
      rw [← size stray inside, ← Document.kind?_isSome_iff, here]
      rfl
    exact fun known => unknown stray inside id inside_id foreign kind known here

/-- The parses when a token is put in before the comma. -/
theorem run?_transparent_strayDocument :
    ∃ run run',
      Parser.run? ⟨Grammar.bracketLists, Grammar.bracketLists.predict, bracketDocument,
        .standard⟩ 0 false = some run ∧
      Parser.run? ⟨Grammar.bracketLists, Grammar.bracketLists.predict, strayDocument 3,
        .standard⟩ 0 true = some run' ∧
      (Transparent (strayPlace 3) run.parse run'.parse ↔
        Clear ⟨Grammar.bracketLists, Grammar.bracketLists.predict, strayDocument 3, .standard⟩
          (nextOwn? (strayPlace 3) bracketDocument)
          (.chain (Grammar.bracketLists.ruleOf 0) .empty,
            startState ⟨Grammar.bracketLists, Grammar.bracketLists.predict, strayDocument 3,
              .standard⟩ 0 true)) ∧
      (Grammar.bracketLists.ProhibitsEnds → Transparent (strayPlace 3) run.parse run'.parse) :=
  run?_transparent_iff Grammar.bracketLists bracketDocument (strayDocument 3) (strayPlace 3) 0
    false true Grammar.built_bracketLists Grammar.not_leftRecursive_bracketLists
    (pads_strayDocument (by decide))

/-- Behind the comma it hides the second inner list. -/
theorem not_transparent_strayDocument :
    Grammar.bracketLists.Built ∧ ¬ Grammar.bracketLists.LeftRecursive ∧
      Pads Grammar.bracketLists (strayPlace 4) bracketDocument (strayDocument 4) ∧
      ∃ run run',
        Parser.run? ⟨Grammar.bracketLists, Grammar.bracketLists.predict, bracketDocument,
          .standard⟩ 0 false = some run ∧
        Parser.run? ⟨Grammar.bracketLists, Grammar.bracketLists.predict, strayDocument 4,
          .standard⟩ 0 false = some run' ∧
        ¬ Transparent (strayPlace 4) run.parse run'.parse := by
  have consumed : (Parser.run? ⟨Grammar.bracketLists, Grammar.bracketLists.predict,
      bracketDocument, .standard⟩ 0 false).map (·.parse.nodes.filterMap consumed?) =
        some [0, 1, 2, 3, 4, 5, 6] := by
    decide +kernel
  have consumed' : (Parser.run? ⟨Grammar.bracketLists, Grammar.bracketLists.predict,
      strayDocument 4, .standard⟩ 0 false).map (·.parse.nodes.filterMap consumed?) =
        some [0, 1, 2, 3, 6] := by
    decide +kernel
  obtain ⟨run, done, consumed⟩ := Option.map_eq_some_iff.mp consumed
  obtain ⟨run', done', consumed'⟩ := Option.map_eq_some_iff.mp consumed'
  refine ⟨Grammar.built_bracketLists, Grammar.not_leftRecursive_bracketLists,
    pads_strayDocument (by decide), run, run', done, done', fun transparent => ?_⟩
  have same := filterMap_consumed?_walk_renumber (strayPlace 4) run.parse.tree
  rw [← transparent.tree, ← Parse.nodes, ← Parse.nodes, consumed, consumed'] at same
  exact absurd same (by decide)

end Parser

end Reparse
