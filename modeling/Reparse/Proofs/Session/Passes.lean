import Reparse.Proofs.Parser.Determinism
import Reparse.Proofs.Session.Updates

/-!
# The passes of an update

An update that does not fail keeps the parse of one of two passes.  The first one takes the edited
text alone; the second one takes the edits too, with blocks marked.
-/

namespace Reparse

namespace Document

variable {document after : Document}

theorem scanner_update {changes : List Change} (done : document.update changes = .ok after) :
    after.scanner = document.scanner := by
  unfold update at done
  split at done
  · cases done
    rfl
  · simp only [bind_eq_ok, pure_eq_ok] at done
    obtain ⟨edited, -, rfl⟩ := done
    rfl

theorem scanner_mark {span : Span} (done : document.mark span = .ok after) :
    after.scanner = document.scanner := by
  unfold mark at done
  dsimp only at done
  split at done
  · exact scanner_update done
  · simp at done

theorem forgetEdits_eq (faithful : document.Faithful) :
    document.forgetEdits = .ofText document.scanner document.source := by
  unfold forgetEdits
  rw [faithful.current]
  rfl

end Document

namespace Session

variable {session next : Session} {changes : List Change} {log : Log}

theorem scanner_markAll {document : Document} {spans : List Span} {marked : Document × Log}
    (done : markAll document spans = .ok marked) : marked.1.scanner = document.scanner := by
  induction spans generalizing document marked with
  | nil =>
      cases done
      rfl
  | cons span rest induction =>
      simp only [markAll, bind_eq_ok, pure_eq_ok] at done
      obtain ⟨first, one, others, more, rfl⟩ := done
      exact (induction more).trans (Document.scanner_mark one)

theorem scanner_markBlocks {document : Document} {lastSuccessful : Parse}
    {blocks : List (TokenId × Span)} {marked : Document × Log}
    (same : lastSuccessful.document.scanner = document.scanner)
    (done : markBlocks document lastSuccessful blocks = .ok marked) :
    marked.1.scanner = document.scanner := by
  unfold markBlocks at done
  split at done
  · cases done
    rfl
  · simp only [bind_eq_ok, pure_eq_ok] at done
    obtain ⟨widened, widens, edited, edits, rfl⟩ := done
    exact (Document.scanner_update edits).trans ((scanner_markAll widens).trans same)

def parser (session : Session) (document : Document) (leniency : Leniency) : Parser :=
  ⟨session.grammar, session.prediction, document, leniency⟩

theorem parse?_eq_some_iff {document : Document} {leniency : Leniency} {parse : Parse} :
    session.parse? document leniency = some (parse, log, next) ↔
      ∃ run, (session.parser document leniency).Finishes session.language.start
          session.setsAnnounced run ∧
        run.parse = parse ∧ run.log = log ∧
        { session with setsAnnounced := run.setsAnnounced } = next := by
  rw [parse?, Option.map_eq_some_iff]
  simp only [Prod.mk.injEq, Parser.run?_eq_some_iff, parser]

theorem document_of_parse? {document : Document} {leniency : Leniency} {parse : Parse}
    (parsed : session.parse? document leniency = some (parse, log, next)) :
    parse.document = document := by
  obtain ⟨run, finishes, rfl, -⟩ := parse?_eq_some_iff.mp parsed
  cases finishes <;> rfl

theorem Sound.parsed (sound : session.Sound) {document : Document} {leniency : Leniency}
    {parse : Parse} (parsed : session.parse? document leniency = some (parse, log, next)) :
    parse.document = document ∧ next.Sound ∧ session.SameButSets next := by
  obtain ⟨_, _, _, parsed', same⟩ := sound.parses document leniency
  rw [parsed'] at parsed
  cases parsed
  exact same

/-- The ways in which an update ends that does not fail. -/
inductive Passes (session : Session) (changes : List Change) (log : Log) : Session → Prop where
  /-- The edited text has no error. -/
  | clean {document : Document} {first : Parse} {firstLog : Log} {next : Session}
      (edited : session.document.update changes = .ok document)
      (parsed : session.parse? document.forgetEdits session.settings.leniency =
        some (first, firstLog, next))
      (complete : first.hasErrors = false) : Passes session changes log (next.keep first)
  /-- The edited text has errors, and there is no second pass. -/
  | erroneous {document : Document} {first : Parse} {firstLog : Log} {next : Session}
      (edited : session.document.update changes = .ok document)
      (parsed : session.parse? document.forgetEdits session.settings.leniency =
        some (first, firstLog, next))
      (incomplete : first.hasErrors = true)
      (unconfined : session.settings.confinesErrors = false ∨ session.lastSuccessful = none) :
      Passes session changes log (next.keep { first with document })
  /-- The edited text has errors and is parsed once more. -/
  | recovered {document marked : Document} {first lastSuccessful second : Parse}
      {firstLog markLog secondLog : Log} {next last : Session}
      (edited : session.document.update changes = .ok document)
      (parsed : session.parse? document.forgetEdits session.settings.leniency =
        some (first, firstLog, next))
      (incomplete : first.hasErrors = true)
      (confines : session.settings.confinesErrors = true)
      (successful : session.lastSuccessful = some lastSuccessful)
      (marks : markBlocks document lastSuccessful
        (blocksToMark session.grammar document lastSuccessful) = .ok (marked, markLog))
      (reparsed : next.parse? marked .standard = some (second, secondLog, last))
      (tells : ∀ event ∈ secondLog, event ∈ log) : Passes session changes log (last.keep second)

theorem recover_eq_ok {document : Document} {lastSuccessful : Parse}
    (done : session.recover document lastSuccessful = .ok (next, log)) :
    ∃ marked markLog second secondLog last,
      markBlocks document lastSuccessful (blocksToMark session.grammar document lastSuccessful) =
        .ok (marked, markLog) ∧
      session.parse? marked .standard = some (second, secondLog, last) ∧
      next = last.keep second ∧ ∀ event ∈ secondLog, event ∈ log := by
  simp only [recover, bind_eq_ok, mapError_eq_ok] at done
  obtain ⟨⟨marked, markLog⟩, marks, done⟩ := done
  cases reparsed : session.parse? marked .standard with
  | none => simp [reparsed, throw, throwThe, MonadExceptOf.throw] at done
  | some result =>
      obtain ⟨second, secondLog, last⟩ := result
      simp only [reparsed, pure_eq_ok, Prod.mk.injEq] at done
      obtain ⟨rfl, rfl⟩ := done
      refine ⟨marked, markLog, second, secondLog, last, marks, reparsed, rfl, ?_⟩
      intro event told
      exact Array.mem_append.mpr (.inr (Array.mem_push.mpr (.inl told)))

/-- An update that does not fail ends in one of the ways. -/
theorem Passes.of_update (updated : session.update changes = .ok (next, log)) :
    session.Passes changes log next := by
  simp only [update, bind_eq_ok, mapError_eq_ok] at updated
  obtain ⟨document, edited, updated⟩ := updated
  cases parsed : session.parse? document.forgetEdits session.settings.leniency with
  | none => simp [parsed, throw, throwThe, MonadExceptOf.throw] at updated
  | some result =>
      obtain ⟨first, firstLog, middle⟩ := result
      obtain ⟨run, -, -, -, same⟩ := parse?_eq_some_iff.mp parsed
      have settings : middle.settings = session.settings := by rw [← same]
      have lastSuccessful : middle.lastSuccessful = session.lastSuccessful := by rw [← same]
      have grammar : middle.grammar = session.grammar := by rw [← same]; rfl
      simp only [parsed, settings, lastSuccessful] at updated
      cases errors : first.hasErrors with
      | false =>
          simp only [errors, Bool.false_eq_true, if_false, pure_eq_ok, Prod.mk.injEq] at updated
          rw [← updated.1]
          exact .clean edited parsed errors
      | true =>
          simp only [errors, if_true] at updated
          split at updated
          case h_1 lastSuccessful successful confines =>
            simp only [bind_eq_ok, pure_eq_ok, Prod.mk.injEq] at updated
            obtain ⟨⟨recovered, recoveryLog⟩, recovery, rfl, rfl⟩ := updated
            obtain ⟨marked, markLog, second, secondLog, last, marks, reparsed, rfl, tells⟩ :=
              recover_eq_ok recovery
            rw [grammar] at marks
            refine .recovered edited parsed errors confines successful marks reparsed ?_
            intro event told
            exact Array.mem_append.mpr (.inr (tells event told))
          case h_2 unconfined =>
            simp only [pure_eq_ok, Prod.mk.injEq] at updated
            rw [← updated.1]
            refine .erroneous edited parsed errors ?_
            cases successful : session.lastSuccessful with
            | none => exact .inr rfl
            | some lastSuccessful =>
                cases confines : session.settings.confinesErrors with
                | false => exact .inl rfl
                | true => exact (unconfined lastSuccessful successful confines).elim

/-! ## What a session keeps to -/

theorem keep_of_errors {parse : Parse} (errors : parse.hasErrors = true) :
    session.keep parse = { session with last := some parse } := by
  rw [keep, if_pos errors]

theorem keep_of_complete {parse : Parse} (complete : parse.hasErrors = false) :
    session.keep parse =
      { session with
        last := some parse.forgetEdits
        lastSuccessful := some parse.forgetEdits } := by
  rw [keep, if_neg (by simp [complete])]

theorem Passes.exists_keep (passes : session.Passes changes log next) :
    ∃ announced parse, next = { session with setsAnnounced := announced }.keep parse := by
  cases passes with
  | clean edited parsed complete =>
      obtain ⟨_, _, _, _, rfl⟩ := parse?_eq_some_iff.mp parsed
      exact ⟨_, _, rfl⟩
  | erroneous edited parsed incomplete =>
      obtain ⟨_, _, _, _, rfl⟩ := parse?_eq_some_iff.mp parsed
      exact ⟨_, _, rfl⟩
  | recovered edited parsed incomplete confines successful marks reparsed tells =>
      obtain ⟨_, _, _, _, rfl⟩ := parse?_eq_some_iff.mp parsed
      obtain ⟨_, _, _, _, rfl⟩ := parse?_eq_some_iff.mp reparsed
      exact ⟨_, _, rfl⟩

/-- The session serves a language with settings, also in the documents that it remembers. -/
structure Serves (language : Language) (settings : Settings) (session : Session) : Prop where
  language_eq : session.language = language
  settings_eq : session.settings = settings
  predicted : session.prediction = language.grammar.predict
  faithful : ∀ parse, session.last = some parse ∨ session.lastSuccessful = some parse →
    parse.document.Faithful
  scanner_eq : ∀ parse, session.last = some parse ∨ session.lastSuccessful = some parse →
    parse.document.scanner = language.scanner

namespace Serves

variable {language : Language} {settings : Settings}

theorem new (language : Language) (settings : Settings) :
    (new language settings).Serves language settings where
  language_eq := rfl
  settings_eq := rfl
  predicted := rfl
  faithful := by simp [Session.new]
  scanner_eq := by simp [Session.new]

theorem faithful_document (serves : session.Serves language settings) :
    session.document.Faithful := by
  unfold Session.document
  split
  · rename_i parse remembered
    exact serves.faithful parse (.inl remembered)
  · exact .ofText _ _

theorem scanner_document (serves : session.Serves language settings) :
    session.document.scanner = language.scanner := by
  unfold Session.document
  split
  · rename_i parse remembered
    exact serves.scanner_eq parse (.inl remembered)
  · exact congrArg Language.scanner serves.language_eq

theorem parse? (serves : session.Serves language settings) {document : Document}
    {leniency : Leniency} {parse : Parse}
    (parsed : session.parse? document leniency = some (parse, log, next)) :
    next.Serves language settings := by
  obtain ⟨_, _, _, _, rfl⟩ := parse?_eq_some_iff.mp parsed
  exact ⟨serves.language_eq, serves.settings_eq, serves.predicted, serves.faithful,
    serves.scanner_eq⟩

theorem keep (serves : session.Serves language settings) {parse : Parse}
    (faithful : parse.document.Faithful) (scanner : parse.document.scanner = language.scanner) :
    (session.keep parse).Serves language settings := by
  cases errors : parse.hasErrors with
  | true =>
      rw [keep_of_errors errors]
      refine ⟨serves.language_eq, serves.settings_eq, serves.predicted, ?_, ?_⟩
      all_goals rintro other (⟨⟨⟩⟩ | remembered)
      · exact faithful
      · exact serves.faithful other (.inr remembered)
      · exact scanner
      · exact serves.scanner_eq other (.inr remembered)
  | false =>
      rw [keep_of_complete errors]
      refine ⟨serves.language_eq, serves.settings_eq, serves.predicted, ?_, ?_⟩
      all_goals rintro other (⟨⟨⟩⟩ | ⟨⟨⟩⟩)
      · exact faithful.forgetEdits
      · exact faithful.forgetEdits
      · exact scanner
      · exact scanner

theorem edited (serves : session.Serves language settings) {document : Document}
    (edited : session.document.update changes = .ok document) :
    Text.edit session.source changes = .ok document.source ∧ document.Faithful ∧
      document.scanner = language.scanner := by
  have agrees := session.document.update_agrees serves.faithful_document changes
  rw [edited] at agrees
  obtain ⟨text, edits, follows⟩ := agrees.of_value
  rw [← follows.source] at edits
  exact ⟨edits, follows.faithful, follows.scanner.trans serves.scanner_document⟩

theorem marked (serves : session.Serves language settings) {document marked : Document}
    {lastSuccessful : Parse} {markLog : Log} (faithful : document.Faithful)
    (scanner : document.scanner = language.scanner)
    (successful : session.lastSuccessful = some lastSuccessful)
    (marks : markBlocks document lastSuccessful
      (blocksToMark session.grammar document lastSuccessful) = .ok (marked, markLog)) :
    marked.Faithful ∧ marked.scanner = language.scanner := by
  have agrees := markBlocks_agrees faithful (serves.faithful _ (.inr successful))
    (@blocksToMark_based session.grammar document lastSuccessful)
  rw [marks] at agrees
  obtain ⟨text, -, marked_faithful, -⟩ := agrees.of_value
  have same := (serves.scanner_eq _ (.inr successful)).trans scanner.symm
  exact ⟨marked_faithful, (scanner_markBlocks same marks).trans scanner⟩

theorem passes (serves : session.Serves language settings)
    (passes : session.Passes changes log next) : next.Serves language settings := by
  cases passes with
  | clean edited parsed complete =>
      obtain ⟨-, faithful, scanner⟩ := serves.edited edited
      have same := document_of_parse? parsed
      exact (serves.parse? parsed).keep (same ▸ faithful.forgetEdits) (same ▸ scanner)
  | erroneous edited parsed incomplete =>
      obtain ⟨-, faithful, scanner⟩ := serves.edited edited
      exact (serves.parse? parsed).keep faithful scanner
  | recovered edited parsed incomplete confines successful marks reparsed tells =>
      obtain ⟨-, faithful, scanner⟩ := serves.edited edited
      obtain ⟨marked_faithful, marked_scanner⟩ := serves.marked faithful scanner successful marks
      have same := document_of_parse? reparsed
      exact ((serves.parse? parsed).parse? reparsed).keep (same ▸ marked_faithful)
        (same ▸ marked_scanner)

theorem advance (serves : session.Serves language settings) (changes : List Change) :
    (session.advance changes).Serves language settings := by
  unfold Session.advance
  split
  · rename_i next log updated
    exact serves.passes (.of_update updated)
  · exact serves

theorem advanceAll (serves : session.Serves language settings) (edits : List (List Change)) :
    (session.advanceAll edits).Serves language settings := by
  induction edits generalizing session with
  | nil => exact serves
  | cons changes rest induction => exact induction (serves.advance changes)

end Serves

/-- The session keeps to a language and settings, also in the documents that it remembers. -/
structure KeepsTo (language : Language) (settings : Settings) (session : Session) : Prop where
  sound : session.Sound
  language_eq : session.language = language
  settings_eq : session.settings = settings
  scanner_last : ∀ parse, session.last = some parse → parse.document.scanner = language.scanner
  scanner_successful : ∀ parse, session.lastSuccessful = some parse →
    parse.document.scanner = language.scanner

/-- A session keeps to a grammar that parses end with if it serves it. -/
theorem Serves.keepsTo {language : Language} {settings : Settings}
    (serves : session.Serves language settings) (built : language.grammar.Built)
    (terminating : ¬ language.grammar.LeftRecursive) : session.KeepsTo language settings := by
  have faithful := serves.faithful_document
  obtain ⟨rfl, settings_eq, predicted, documents, scanners⟩ := serves
  exact
    { sound := ⟨built, terminating, predicted, faithful, fun parse same =>
        documents parse (.inr same)⟩
      language_eq := rfl
      settings_eq
      scanner_last := fun parse same => scanners parse (.inl same)
      scanner_successful := fun parse same => scanners parse (.inr same) }

namespace KeepsTo

variable {language : Language} {settings : Settings}

theorem serves (keeps : session.KeepsTo language settings) :
    session.Serves language settings := by
  obtain ⟨sound, rfl, settings_eq, scanner_last, scanner_successful⟩ := keeps
  refine ⟨rfl, settings_eq, sound.predicted, ?_, ?_⟩
  all_goals rintro parse (last | successful)
  · have document : session.document = parse.document := by rw [Session.document, last]
    exact document ▸ sound.faithful
  · exact sound.successful parse successful
  · exact scanner_last parse last
  · exact scanner_successful parse successful

theorem built (keeps : session.KeepsTo language settings) : language.grammar.Built :=
  keeps.language_eq ▸ keeps.sound.built

theorem terminating (keeps : session.KeepsTo language settings) :
    ¬ language.grammar.LeftRecursive :=
  keeps.language_eq ▸ keeps.sound.terminating

theorem new (settings : Settings) (built : language.grammar.Built)
    (terminating : ¬ language.grammar.LeftRecursive) :
    (new language settings).KeepsTo language settings :=
  (Serves.new language settings).keepsTo built terminating

theorem scanner_document (keeps : session.KeepsTo language settings) :
    session.document.scanner = language.scanner :=
  keeps.serves.scanner_document

theorem parse? (keeps : session.KeepsTo language settings) {document : Document}
    {leniency : Leniency} {parse : Parse}
    (parsed : session.parse? document leniency = some (parse, log, next)) :
    next.KeepsTo language settings :=
  (keeps.serves.parse? parsed).keepsTo keeps.built keeps.terminating

theorem passes (keeps : session.KeepsTo language settings)
    (passes : session.Passes changes log next) : next.KeepsTo language settings :=
  (keeps.serves.passes passes).keepsTo keeps.built keeps.terminating

theorem advanceAll (keeps : session.KeepsTo language settings) (edits : List (List Change)) :
    (session.advanceAll edits).KeepsTo language settings :=
  (keeps.serves.advanceAll edits).keepsTo keeps.built keeps.terminating

end KeepsTo

end Session

end Reparse
