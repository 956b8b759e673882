import Reparse.Proofs.Session.Memory

/-!
# Sessions and parses from scratch

What was edited before does not show in a parse of the text alone.  An update stores that parse
unless it has errors and they are confined to blocks of an earlier text.

Main statement: `refines_parse`.
-/

namespace Reparse

/-- The parse of a document by a parser that did not parse anything before.  There is none if the
parse does not end. -/
def Language.parse? (language : Language) (leniency : Leniency) (document : Document) :
    Option Parse :=
  let parser : Parser := ⟨language.grammar, language.grammar.predict, document, leniency⟩
  (parser.run? language.start false).map Parser.Run.parse

namespace Session

variable {session next : Session} {language : Language} {settings : Settings}
  {changes : List Change} {log : Log} {parse : Parse}

/-- What a session parsed before makes no difference for its next parse. -/
theorem Serves.parse?_eq (serves : session.Serves language settings) {document : Document}
    {leniency : Leniency} (parsed : session.parse? document leniency = some (parse, log, next)) :
    language.parse? leniency document = some parse := by
  have same := document_of_parse? parsed
  obtain ⟨run, finishes, rfl, -, -⟩ := parse?_eq_some_iff.mp parsed
  -- The session may have announced its token sets before, which only shows in the log.
  obtain ⟨fresh, finishes', tree, skipped⟩ := Parser.finishes_announced false finishes
  have found := finishes'.run?_eq
  rw [parser, grammar, serves.language_eq, serves.predicted] at found
  rw [Language.parse?, found, Option.map_some]
  have document_eq : fresh.parse.document = document := by cases finishes' <;> rfl
  obtain ⟨⟨_, _, _⟩, _, _⟩ := fresh
  obtain ⟨⟨_, _, _⟩, _, _⟩ := run
  dsimp only at tree skipped same document_eq ⊢
  rw [tree, skipped, same, document_eq]

theorem Serves.firstPass_eq (serves : session.Serves language settings) {document : Document}
    (edited : session.document.update changes = .ok document)
    (parsed : session.parse? document.forgetEdits session.settings.leniency =
      some (parse, log, next)) :
    Text.edit session.source changes = .ok document.source ∧
      language.parse? settings.leniency (.ofText language.scanner document.source) =
        some parse ∧
      document.current = .ofText language.scanner document.source := by
  obtain ⟨edits, faithful, scanner⟩ := serves.edited edited
  have found := serves.parse?_eq parsed
  rw [document.forgetEdits_eq faithful, scanner, serves.settings_eq] at found
  exact ⟨edits, found, scanner ▸ faithful.current⟩

/-- Some update stored a parse without errors. -/
def Succeeded (language : Language) (settings : Settings) (edits : List (List Change)) : Prop :=
  ∃ stored, Stores language settings edits stored ∧
    ∃ last, stored.last = some last ∧ last.hasErrors = false

theorem isSome_lastSuccessful_iff (language : Language) (settings : Settings)
    (edits : List (List Change)) :
    ((new language settings).advanceAll edits).lastSuccessful.isSome = true ↔
      Succeeded language settings edits :=
  (isSome_iff_stores language settings edits).2

/-- A session has what the parse of a text from scratch gives.  `succeeded` says that a parse
without errors was stored before. -/
structure Refines (language : Language) (settings : Settings) (succeeded : Prop) (text : Text)
    (fresh : Parse) (session : Session) : Prop where
  scratch : language.parse? settings.leniency (.ofText language.scanner text) = some fresh
  /-- Unless errors are confined, the last parse is the one from scratch. -/
  plain : fresh.hasErrors = false ∨ settings.confinesErrors = false ∨ ¬ succeeded →
    ∃ last, session.last = some last ∧ last.tree = fresh.tree ∧ last.skipped = fresh.skipped ∧
      last.document.current = .ofText language.scanner text
  /-- A parse without errors is the last successful one and records no edits. -/
  clean : fresh.hasErrors = false →
    ∃ last, session.last = some last ∧ session.lastSuccessful = some last ∧
      last.document.changes = [] ∧ last.document.changedRegion = none
  /-- Confined errors are those of a tolerant parse, and its tokens are those of its text. -/
  confined : fresh.hasErrors = true → settings.confinesErrors = true → succeeded →
    ∃ document second last,
      document.current = .ofText language.scanner document.source ∧
        language.parse? .standard document = some second ∧
        session.last = some last ∧ last.tree = second.tree ∧ last.skipped = second.skipped ∧
        last.document.current = document.current

theorem last_keep (session : Session) (parse : Parse) :
    ∃ last, (session.keep parse).last = some last ∧ last.tree = parse.tree ∧
      last.skipped = parse.skipped ∧ last.document.current = parse.document.current := by
  cases errors : parse.hasErrors with
  | true =>
      rw [keep_of_errors errors]
      exact ⟨parse, rfl, rfl, rfl, rfl⟩
  | false =>
      rw [keep_of_complete errors]
      exact ⟨parse.forgetEdits, rfl, rfl, rfl, rfl⟩

theorem Serves.refines (serves : session.Serves language settings)
    (passes : session.Passes changes log next) :
    ∃ text fresh, Text.edit session.source changes = .ok text ∧
      Refines language settings (session.lastSuccessful.isSome = true) text fresh next := by
  cases passes with
  | @clean document first firstLog middle edited parsed complete =>
      obtain ⟨edits, scratch, tokens⟩ := serves.firstPass_eq edited parsed
      obtain ⟨last, kept, tree, skipped, current⟩ := last_keep middle first
      refine ⟨document.source, first, edits, scratch, fun _ => ?_, fun _ => ?_, ?_⟩
      · refine ⟨last, kept, tree, skipped, ?_⟩
        rw [current, document_of_parse? parsed]
        exact tokens
      · rw [keep_of_complete complete]
        exact ⟨first.forgetEdits, rfl, rfl, rfl, rfl⟩
      · intro errors
        exact (Bool.false_ne_true (complete.symm.trans errors)).elim
  | @erroneous document first firstLog middle edited parsed incomplete unconfined =>
      obtain ⟨edits, scratch, tokens⟩ := serves.firstPass_eq edited parsed
      obtain ⟨last, kept, tree, skipped, current⟩ := last_keep middle { first with document }
      refine ⟨document.source, first, edits, scratch, fun _ => ?_, ?_, ?_⟩
      · exact ⟨last, kept, tree, skipped, current.trans tokens⟩
      · intro complete
        exact (Bool.false_ne_true (complete.symm.trans incomplete)).elim
      · intro _ confines succeeded
        rw [← serves.settings_eq] at confines
        rcases unconfined with confines' | nothing
        · exact (Bool.false_ne_true (confines'.symm.trans confines)).elim
        · simp [nothing] at succeeded
  | @recovered document marked first lastSuccessful second _ _ _ middle final edited parsed
      incomplete confines successful marks reparsed tells =>
      obtain ⟨edits, scratch, -⟩ := serves.firstPass_eq edited parsed
      obtain ⟨-, faithful, scanner⟩ := serves.edited edited
      obtain ⟨marked_faithful, marked_scanner⟩ := serves.marked faithful scanner successful marks
      obtain ⟨last, kept, tree, skipped, current⟩ := last_keep final second
      rw [serves.settings_eq] at confines
      refine ⟨document.source, first, edits, scratch, ?_, ?_, fun _ _ _ => ?_⟩
      · rintro (complete | unconfined | nothing)
        · exact (Bool.false_ne_true (complete.symm.trans incomplete)).elim
        · exact (Bool.false_ne_true (unconfined.symm.trans confines)).elim
        · simp [successful] at nothing
      · intro complete
        exact (Bool.false_ne_true (complete.symm.trans incomplete)).elim
      · refine ⟨marked, second, last, ?_, (serves.parse? parsed).parse?_eq reparsed, kept, tree,
          skipped, ?_⟩
        · rw [marked_faithful.current, marked_scanner]
        · rw [current, document_of_parse? reparsed]

/-- An update stores what the text has from scratch, or a tolerant parse of the same tokens. -/
theorem refines_parse (language : Language) (settings : Settings) (history : List (List Change))
    (changes : List Change) (next : Session) (log : Log)
    (updated : ((new language settings).advanceAll history).update changes = .ok (next, log)) :
    ∃ text fresh,
      Text.edit ((new language settings).advanceAll history).source changes = .ok text ∧
        Refines language settings (Succeeded language settings history) text fresh next := by
  have serves := (Serves.new language settings).advanceAll history
  rw [← isSome_lastSuccessful_iff]
  exact serves.refines (.of_update updated)

/-- A text without errors loses its last token. -/
theorem refines_parse_lineFeed :
    Succeeded lineFeedLanguage .standard [[.insert .origin "x\nab".toList]] ∧
      ∃ next log text fresh,
        (lineFeedSession "x\nab").update [deletion] = .ok (next, log) ∧
          Text.edit (lineFeedSession "x\nab").source [deletion] = .ok text ∧
          Refines lineFeedLanguage .standard
            (Succeeded lineFeedLanguage .standard [[.insert .origin "x\nab".toList]]) text fresh
            next := by
  have succeeded : (lineFeedSession "x\nab").lastSuccessful.isSome = true := by decide +kernel
  have succeeds : ((lineFeedSession "x\nab").update [deletion]).isOk = true := by decide +kernel
  cases updated : (lineFeedSession "x\nab").update [deletion] with
  | error error => simp [updated, Except.isOk, Except.toBool] at succeeds
  | ok result =>
      obtain ⟨next, log⟩ := result
      obtain ⟨text, fresh, edits, refines⟩ := refines_parse lineFeedLanguage .standard
        [[.insert .origin "x\nab".toList]] [deletion] next log updated
      exact ⟨(isSome_lastSuccessful_iff _ _ _).mp succeeded, next, log, text, fresh, rfl, edits,
        refines⟩

end Session

end Reparse
