import Reparse.Proofs.Parser.Containment
import Reparse.Proofs.Parser.Padding

/-!
# Edits whose end is not seen

Only the way out of the changed region has an influence on the parse, and it goes from a changed
token to an unchanged one behind it.

Main statement: `run?_inert`.
-/

namespace Reparse

namespace Document

variable {document : Document}

/-- No changed token is directly followed by an unchanged one. -/
def Borderless (document : Document) : Prop :=
  ∀ id, document.isChanged id = true → id + 1 < document.size →
    document.isChanged (id + 1) = true

theorem borderless_of_unchanged (unchanged : ∀ id, document.isChanged id = false) :
    document.Borderless := by
  intro id changed
  exact (Bool.false_ne_true ((unchanged id).symm.trans changed)).elim

theorem borderless_of_changed (changed : ∀ id < document.size, document.isChanged id = true) :
    document.Borderless :=
  fun id _ inside => changed (id + 1) inside

/-- The tokens of a region that reaches the last one go on to the end of the text. -/
theorem Scanned.borderless (scanned : document.Scanned)
    (last : document.isChanged (document.size - 1) = true) : document.Borderless := by
  intro id changed inside
  exact scanned.isChanged_of_between changed last (Nat.le_succ id) (Nat.le_sub_one_of_lt inside)

end Document

namespace Parser

variable {parser : Parser} {state state' : ParseState}

/-- The states are at one place, where the input is visible, and the first one knows whether the
place is in the changed region. -/
structure SeesRegion (parser : Parser) (state state' : ParseState) : Prop where
  sees : state.BothSee state'
  region : state.cursor < parser.document.size →
    state.inRegion = parser.document.isChanged state.cursor

theorem SeesRegion.of_unmoved {after after' : ParseState} (sees : parser.SeesRegion state state')
    (first : state.Unmoved after) (second : state'.Unmoved after') :
    parser.SeesRegion after after' := by
  refine ⟨bothSee_of_unmoved sees.sees first second, ?_⟩
  obtain ⟨log, announced, rfl⟩ := unmoved_iff.mp first
  exact sees.region

theorem SeesRegion.closeFrame {parser' : Parser} (name : NonTerminalId) (cutShort : Bool)
    (sees : parser.SeesRegion state state') :
    parser.SeesRegion (parser.closeFrame name cutShort state)
      (parser'.closeFrame name cutShort state') := by
  refine ⟨bothSee_closeFrame name cutShort sees.sees, fun inside => ?_⟩
  rw [(parser.samePlace_closeFrame name cutShort state).cursor] at inside ⊢
  rw [inRegion_closeFrame]
  exact sees.region inside

/-- Where the region has no border behind it, moving on from a token does not leave it. -/
theorem SeesRegion.advance (borderless : parser.document.Borderless) {parser' : Parser}
    (size : parser'.document.size = parser.document.size)
    (unedited : parser'.document.hasChanges = false) (sees : parser.SeesRegion state state') :
    parser.SeesRegion (parser.advance state) (parser'.advance state') := by
  obtain ⟨⟨place, visible, visible'⟩, region⟩ := sees
  have place_advance := samePlace_advance_of_size size place
  have visible_advance' : (parser'.advance state').hiddenUntil = none :=
    (hiddenUntil_advance_of_unedited unedited state').trans visible'
  by_cases inside : state.cursor < parser.document.size
  · obtain ⟨kind, current⟩ := exists_currentKind? visible inside
    have observed := observed_advance current (region inside)
    have stays : ¬ parser.Leaves { state with cursor := state.cursor + 1 } := by
      rintro ⟨inside', inRegion, unchanged⟩
      have changed : parser.document.isChanged state.cursor = true :=
        (region inside).symm.trans inRegion
      exact Bool.false_ne_true (unchanged.symm.trans (borderless _ changed inside'))
    refine ⟨⟨place_advance, observed.stayed stays, visible_advance'⟩, ?_⟩
    rw [cursor_advance current]
    exact observed.region
  · have same : parser.advance state = state := by
      rw [Parser.advance, currentId?, if_neg inside]
      exact observe_of_outside inside
    rw [same] at place_advance ⊢
    exact ⟨⟨place_advance, visible, visible_advance'⟩, region⟩

theorem simulates_borderless (borderless : parser.document.Borderless) :
    parser.Simulates parser.document.forgetEdits parser.SeesRegion fun _ => True where
  size := rfl
  place sees := sees.sees.place
  kind := parser.simulates_forgetEdits.kind ∘ SeesRegion.sees
  told := SeesRegion.of_unmoved
  advance sees _ := sees.advance borderless rfl rfl
  skipped id sees := ⟨bothSee_skipped id sees.sees, sees.region⟩
  openFrame name sees := ⟨bothSee_openFrame name sees.sees, sees.region⟩
  closeFrame name cutShort sees := sees.closeFrame name cutShort

theorem seesRegion_startState (parser parser' : Parser) (start : NonTerminalId)
    (announced announced' : Bool) :
    parser.SeesRegion (parser.startState start announced)
      (parser'.startState start announced') := by
  refine ⟨bothSee_startState .., fun inside => ?_⟩
  rw [startState_cursor] at inside ⊢
  exact (parser.observed_initial announced).region inside

/-- Where no changed token is directly followed by an unchanged one, edits make no difference for
the parse. -/
theorem run?_inert (grammar : Grammar) (document : Document) (leniency : Leniency)
    (start : NonTerminalId) (announced announced' : Bool)
    (built : grammar.Built) (terminating : ¬ grammar.LeftRecursive) :
    ((∀ id, document.isChanged id = false) ∨
        (∀ id < document.size, document.isChanged id = true) ∨
        document.Reached ∧ document.isChanged (document.size - 1) = true →
      document.Borderless) ∧
    (document.Borderless →
      ∃ run run', Parser.run? ⟨grammar, grammar.predict, document, leniency⟩ start announced =
          some run ∧
        Parser.run? ⟨grammar, grammar.predict, document.forgetEdits, leniency⟩ start announced' =
          some run' ∧
        run.parse.tree = run'.parse.tree ∧ run.parse.skipped = run'.parse.skipped) := by
  have predictive : Predictive ⟨grammar, grammar.predict, document, leniency⟩ :=
    ⟨built.ordered, rfl⟩
  constructor
  · rintro (unchanged | changed | ⟨reached, last⟩)
    · exact Document.borderless_of_unchanged unchanged
    · exact Document.borderless_of_changed changed
    · exact reached.faithful.scanned.borderless last
  · intro borderless
    obtain ⟨run, done, finishes⟩ := run?_finishes predictive terminating start announced
    obtain ⟨run', finishes', tree, skipped⟩ :=
      (simulates_borderless borderless).finishes (seesRegion_startState _ _ start announced
        announced') finishes fun _ _ => trivial
    exact ⟨run, run', done, finishes'.run?_eq, tree.symm, skipped.symm⟩

/-- A list with a list in it was put behind an open bracket, up to the end of the text. -/
def appendedLists : Document :=
  { openedList with
    history := some ⟨⟨"[ ".toList, #[⟨0, ⟨0, 1⟩⟩], none⟩, [.insert ⟨1, 2⟩ "[ [] ]".toList],
      some ⟨2, 8⟩⟩ }

theorem run?_inert_appendedLists :
    (Document.ofText brackets "[ ".toList).update [.insert ⟨1, 2⟩ "[ [] ]".toList] =
        .ok appendedLists ∧
      bracketBlocks.Built ∧ ¬ bracketBlocks.LeftRecursive ∧ appendedLists.Reached ∧
      appendedLists.isChanged (appendedLists.size - 1) = true ∧
      ∃ run run', Parser.run? ⟨bracketBlocks, bracketBlocks.predict, appendedLists, .standard⟩ 0
          false = some run ∧
        Parser.run? ⟨bracketBlocks, bracketBlocks.predict, appendedLists.forgetEdits, .standard⟩ 0
          true = some run' ∧
        run.parse.tree = run'.parse.tree ∧ run.parse.skipped = run'.parse.skipped := by
  have updated : (Document.ofText brackets "[ ".toList).update
      [.insert ⟨1, 2⟩ "[ [] ]".toList] = .ok appendedLists :=
    Document.update_ofText ⟨"[ [ [] ]".toList, some ⟨2, 8⟩⟩ (by simp) (by decide +kernel)
      (by decide +kernel) (by decide +kernel)
  have built : bracketBlocks.Built := .setBlock Grammar.built_bracketLists
  have reached : appendedLists.Reached := (Document.Reached.ofText _ _).update updated
  have last : appendedLists.isChanged (appendedLists.size - 1) = true := by decide +kernel
  obtain ⟨borderless, same⟩ := run?_inert bracketBlocks appendedLists .standard 0 false true built
    not_leftRecursive_bracketBlocks
  exact ⟨updated, built, not_leftRecursive_bracketBlocks, reached, last,
    same (borderless (.inr (.inr ⟨reached, last⟩)))⟩

end Parser

end Reparse
