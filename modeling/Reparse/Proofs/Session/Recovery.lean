import Reparse.Proofs.Parser.Conclusion
import Reparse.Proofs.Session.Passes

/-!
# What a second pass hides

The second pass puts the end of the input before the rest of the text where it leaves an edited
block, so it can come out without an error although the text has one.

Main statement: `showsErrors_or_hides`.
-/

namespace Reparse.Session

variable {session next : Session} {language : Language} {settings : Settings}
  {changes : List Change} {log : Log}

/-- If the last parse has no error, then the parse of the text from scratch has none either. -/
def ShowsErrors (session : Session) : Prop :=
  ∀ last, session.last = some last → last.hasErrors = false →
    ∃ parse log next,
      session.parse? (.ofText session.language.scanner session.source) session.settings.leniency =
        some (parse, log, next) ∧ parse.hasErrors = false

/-- The last parse was made by an update that told of an end before the rest of the input. -/
def HidesInput (language : Language) (settings : Settings) (edits : List (List Change)) : Prop :=
  ∃ before changes after log rule,
    edits = before ++ changes :: after ∧
      ((new language settings).advanceAll before).update changes =
        .ok ((new language settings).advanceAll edits, log) ∧
      .endUntil rule ∈ log

theorem showsErrors_keep_of_errors {parse : Parse} (errors : parse.hasErrors = true) :
    (session.keep parse).ShowsErrors := by
  rw [keep_of_errors errors]
  rintro last ⟨⟩ complete
  exact (Bool.false_ne_true (complete.symm.trans errors)).elim

/-- Without its edits, the document has a parse without an error. -/
def Accepts (session : Session) (document : Document) : Prop :=
  ∃ announced run,
    (session.parser document.forgetEdits session.settings.leniency).Finishes
      session.language.start announced run ∧ run.parse.hasErrors = false

theorem KeepsTo.showsErrors (keeps : session.KeepsTo language settings) {last : Parse}
    (remembered : session.last = some last) (accepts : session.Accepts last.document) :
    session.ShowsErrors := by
  rintro _ - -
  obtain ⟨announced, run, finishes, complete⟩ := accepts
  have document : session.document = last.document := by rw [Session.document, remembered]
  have fresh := Document.forgetEdits_eq keeps.sound.faithful
  rw [keeps.scanner_document, ← keeps.language_eq, document] at fresh
  obtain ⟨run', finishes', tree, -⟩ := Parser.finishes_announced session.setsAnnounced finishes
  rw [fresh] at finishes'
  rw [source, document]
  refine ⟨_, _, _, parse?_eq_some_iff.mpr ⟨_, finishes', rfl, rfl, rfl⟩, ?_⟩
  rw [Parse.hasErrors, tree]
  exact complete

theorem showsErrors_keep {parse : Parse} (kept : (session.keep parse).KeepsTo language settings)
    (accepts : session.Accepts parse.document) : (session.keep parse).ShowsErrors := by
  cases errors : parse.hasErrors with
  | true => exact showsErrors_keep_of_errors errors
  | false =>
      rw [keep_of_complete errors] at kept ⊢
      exact kept.showsErrors rfl accepts

theorem accepts_of_parse? {document : Document} {parse : Parse}
    (parsed : session.parse? document.forgetEdits session.settings.leniency =
      some (parse, log, next))
    (complete : parse.hasErrors = false) : next.Accepts parse.document := by
  have same := document_of_parse? parsed
  obtain ⟨run, finishes, rfl, -, rfl⟩ := parse?_eq_some_iff.mp parsed
  rw [same]
  exact ⟨_, run, finishes, complete⟩

/-- A second pass without an error hides none unless it hid a part of the text and left something
out. -/
theorem Sound.accepts_or_hides (sound : session.Sound)
    (standard : session.settings.leniency = .standard) {marked : Document} {parse : Parse}
    (reparsed : session.parse? marked .standard = some (parse, log, next))
    (complete : parse.hasErrors = false) :
    next.Accepts parse.document ∨
      (∃ rule, .endUntil rule ∈ log) ∧
        ¬ parse.Conclusive session.grammar session.language.start := by
  have same := document_of_parse? reparsed
  obtain ⟨run, finishes, rfl, rfl, rfl⟩ := parse?_eq_some_iff.mp reparsed
  rw [same]
  -- Without hidden input it is the parse of the text alone, and with hidden input its tree may
  -- still derive the whole text, which a grammar without conflicts then parses without an error.
  by_cases untold : ∀ event ∈ run.log, event.HidesNothing
  · obtain ⟨run', finishes', tree, -⟩ := finishes.forgetEdits session.setsAnnounced untold
    rw [← standard] at finishes'
    refine .inl ⟨_, run', finishes', ?_⟩
    rw [Parse.hasErrors, tree]
    exact complete
  · by_cases conclusive : run.parse.Conclusive session.grammar session.language.start
    · obtain ⟨run', finishes', complete'⟩ := finishes.complete_forgetEdits session.setsAnnounced
        ⟨sound.built.ordered, sound.predicted⟩ sound.terminating rfl complete conclusive
      rw [← standard] at finishes'
      exact .inl ⟨_, run', finishes', complete'⟩
    · simp only [Event.HidesNothing, not_forall, Decidable.not_not] at untold
      obtain ⟨_, told, rule, rfl⟩ := untold
      exact .inr ⟨⟨rule, told⟩, conclusive⟩

theorem KeepsTo.showsErrors_of_passes (keeps : session.KeepsTo language settings)
    (standard : settings.leniency = .standard) (passes : session.Passes changes log next) :
    next.ShowsErrors ∨
      settings.confinesErrors = true ∧ (∃ rule, .endUntil rule ∈ log) ∧
        ∃ last, next.last = some last ∧ ¬ last.Conclusive language.grammar language.start := by
  have kept := keeps.passes passes
  cases passes with
  | clean edited parsed complete =>
      exact .inl (showsErrors_keep kept (accepts_of_parse? parsed complete))
  | erroneous edited parsed incomplete => exact .inl (showsErrors_keep_of_errors incomplete)
  | recovered edited parsed incomplete confines successful marks reparsed tells =>
      rename_i second _ _ secondLog middle last
      have again := keeps.parse? parsed
      cases errors : second.hasErrors with
      | true => exact .inl (showsErrors_keep_of_errors errors)
      | false =>
          rcases again.sound.accepts_or_hides (again.settings_eq ▸ standard) reparsed errors with
            accepts | ⟨⟨rule, told⟩, inconclusive⟩
          · exact .inl (showsErrors_keep kept accepts)
          · rw [keeps.settings_eq] at confines
            rw [Session.grammar, again.language_eq] at inconclusive
            rw [keep_of_complete errors]
            exact .inr ⟨confines, ⟨rule, tells _ told⟩, _, rfl,
              mt Parse.conclusive_forgetEdits.mp inconclusive⟩

theorem advanceAll_concat (edits : List (List Change)) (changes : List Change) :
    session.advanceAll (edits ++ [changes]) = (session.advanceAll edits).advance changes := by
  simp [advanceAll]

/-- An update that fails leaves the last parse as it was. -/
theorem HidesInput.of_error {edits : List (List Change)} {error : UpdateError}
    (hides : HidesInput language settings edits)
    (failed : ((new language settings).advanceAll edits).update changes = .error error) :
    HidesInput language settings (edits ++ [changes]) := by
  obtain ⟨before, last, after, log, rule, rfl, updated, told⟩ := hides
  refine ⟨before, last, after ++ [changes], log, rule, by simp, ?_, told⟩
  rw [advanceAll_concat, Session.advance, failed]
  exact updated

/-- A last parse without errors hides one only behind the end of the input, and only where it left
something out or the grammar has conflicts. -/
theorem showsErrors_or_hides (language : Language) (settings : Settings)
    (built : language.grammar.Built) (terminating : ¬ language.grammar.LeftRecursive)
    (standard : settings.leniency = .standard) (edits : List (List Change)) :
    let session := (new language settings).advanceAll edits
    session.ShowsErrors ∨
      settings.confinesErrors = true ∧ HidesInput language settings edits ∧
        ∃ last, session.last = some last ∧
          ¬ last.Conclusive language.grammar language.start := by
  induction edits using List.reverseRecOn with
  | nil =>
      refine .inl ?_
      rintro last ⟨⟩
  | append_singleton edits changes induction =>
      have keeps := (KeepsTo.new settings built terminating).advanceAll edits
      dsimp only at induction ⊢
      cases updated : ((new language settings).advanceAll edits).update changes with
      | error error =>
          rw [advanceAll_concat, Session.advance, updated]
          refine induction.imp_right ?_
          rintro ⟨confines, hides, left⟩
          exact ⟨confines, hides.of_error updated, left⟩
      | ok result =>
          obtain ⟨next, log⟩ := result
          have reached : (new language settings).advanceAll (edits ++ [changes]) = next := by
            rw [advanceAll_concat, Session.advance, updated]
          rw [reached]
          refine (keeps.showsErrors_of_passes standard (.of_update updated)).imp_right ?_
          rintro ⟨confines, ⟨rule, told⟩, left⟩
          refine ⟨confines, ⟨edits, changes, [], log, rule, rfl, ?_, told⟩, left⟩
          rw [reached]
          exact updated

/-! ## Errors behind the end of the input -/

/-- Four tokens with an expression for each, and names for a text and for an inner part of it. -/
def innerTokens : Grammar :=
  let grammar := (Grammar.initial.token "p").2
  let grammar := (grammar.token "b").2
  let grammar := (grammar.token "c").2
  let grammar := (grammar.token "d").2
  let grammar := (grammar.nonTerminal "inner").2
  let grammar := (grammar.nonTerminal "text").2
  let grammar := (grammar.tokenExpr 0).2
  let grammar := (grammar.tokenExpr 1).2
  let grammar := (grammar.tokenExpr 2).2
  (grammar.tokenExpr 3).2

/-- A text is a p, perhaps an inner part, and a b.  An inner part is a d and the tail. -/
def withTail (tail : ExprId × Grammar) : Grammar :=
  let (rule, grammar) := tail.2.seq 4 tail.1
  let grammar := grammar.setRule 0 rule
  let (inner, grammar) := grammar.nonTerminalExpr 0
  let (part, grammar) := grammar.optional inner
  let (rest, grammar) := grammar.seq part 2
  let (text, grammar) := grammar.seq 1 rest
  grammar.setRule 1 text

/-- The tail is any number of c, but at least one. -/
def repeatedTail : Grammar := withTail (innerTokens.repetition ⟨3, 0, .prohibited, .prohibited⟩)

/-- The tail is one expression and another one, or nothing. -/
def pairedTail (first second : ExprId) : Grammar :=
  withTail ((innerTokens.seq first second).2.optional 5)

theorem built_innerTokens : innerTokens.Built := by
  have names := (((((Grammar.Built.initial.token "p").token "b").token "c").token
    "d").nonTerminal "inner").nonTerminal "text"
  exact (((names.tokenExpr 0).tokenExpr 1).tokenExpr 2).tokenExpr 3

theorem built_repeatedTail : repeatedTail.Built := by
  have tail : (innerTokens.repetition ⟨3, 0, .prohibited, .prohibited⟩).2.Built :=
    .repetition built_innerTokens (by decide +kernel) (by decide +kernel)
  refine .setRule (.seq (.seq (.optional (.nonTerminalExpr (.setRule (.seq tail ?_ ?_) ?_) ?_) ?_)
    ?_ ?_) ?_ ?_) ?_
  all_goals decide +kernel

theorem built_pairedTail {first second : ExprId}
    (pair : first = 3 ∧ second = 1 ∨ first = 2 ∧ second = 3) :
    (pairedTail first second).Built := by
  rcases pair with ⟨rfl, rfl⟩ | ⟨rfl, rfl⟩
  all_goals
    refine .setRule (.seq (.seq (.optional (.nonTerminalExpr (.setRule (.seq (.optional (.seq
      built_innerTokens ?_ ?_) ?_) ?_ ?_) ?_) ?_) ?_) ?_ ?_) ?_ ?_) ?_
  all_goals decide +kernel

theorem not_leftRecursive_of_inner {grammar : Grammar} (inner text : ExprId)
    (names : grammar.nonTerminals = #[⟨"inner", inner, false⟩, ⟨"text", text, false⟩])
    (nothing : grammar.expr 0 = ⟨.empty, none⟩)
    (innerStart : (grammar.expr inner).element = .token 3)
    (textStart : (grammar.expr text).element = .token 0) : ¬ grammar.LeftRecursive := by
  apply Grammar.not_leftRecursive_of_tokens
  intro name
  unfold Grammar.ruleOf Grammar.nonTerminalOf
  rw [names]
  match name with
  | 0 => exact .inr ⟨3, innerStart⟩
  | 1 => exact .inr ⟨0, textStart⟩
  | name + 2 => exact .inl nothing

theorem not_leftRecursive_repeatedTail : ¬ repeatedTail.LeftRecursive := by
  apply not_leftRecursive_of_inner 6 10 <;> decide +kernel

def innerLanguage (grammar : Grammar) : Language where
  grammar := grammar
  scanner := Scanner.tokenizer
    ⟨[(0, charMatcher 'p'), (1, charMatcher 'b'), (2, charMatcher 'c'), (3, charMatcher 'd')],
      none, none⟩
  start := 1

def insertion : Change := .insert ⟨1, 1⟩ ['d']

/-- A session that confines errors and whose text got a d after its first character. -/
def innerSession (grammar : Grammar) (text : String) : Session :=
  (new (innerLanguage grammar) .standard).advanceAll [[.insert .origin text.toList], [insertion]]

theorem not_showsErrors
    (complete : session.last.any (fun last => !last.hasErrors) = true)
    (erroneous : (session.parse? (.ofText session.language.scanner session.source)
      session.settings.leniency).all (fun result => result.1.hasErrors) = true) :
    ¬ session.ShowsErrors := by
  intro shows
  obtain ⟨last, remembered, clean⟩ := (Option.any_eq_true ..).mp complete
  obtain ⟨parse, log, next, parsed, fresh⟩ := shows last remembered (by simpa using clean)
  simp only [parsed, Option.all_some] at erroneous
  exact Bool.false_ne_true (fresh.symm.trans erroneous)

theorem not_showsErrors_repeatedTail : ¬ (innerSession repeatedTail "pb").ShowsErrors := by
  apply not_showsErrors <;> decide +kernel

/-- The second pass finds no error, as the inner part ends at the end of the input behind the d, and
its repetition has no content. -/
theorem hides_repeatedTail :
    repeatedTail.Built ∧ ¬ repeatedTail.LeftRecursive ∧
      (((new (innerLanguage repeatedTail) .standard).advanceAll
          [[.insert .origin "pb".toList]]).update [insertion]).toOption.any
            (fun result => result.2.contains (.recoveryErrors 0)) = true ∧
        HidesInput (innerLanguage repeatedTail) .standard
            [[.insert .origin "pb".toList], [insertion]] ∧
          ∃ last, (innerSession repeatedTail "pb").last = some last ∧
            ¬ last.Conclusive repeatedTail 1 := by
  have second : (((new (innerLanguage repeatedTail) .standard).advanceAll
      [[.insert .origin "pb".toList]]).update [insertion]).toOption.any
        (fun result => result.2.contains (.recoveryErrors 0)) = true := by
    decide +kernel
  obtain ⟨-, hides, left⟩ :=
    (showsErrors_or_hides (innerLanguage repeatedTail) .standard built_repeatedTail
      not_leftRecursive_repeatedTail rfl
      [[.insert .origin "pb".toList], [insertion]]).resolve_left not_showsErrors_repeatedTail
  exact ⟨built_repeatedTail, not_leftRecursive_repeatedTail, second, hides, left⟩

/-- Behind the end of the input an error is hidden in three ways: a repetition has no content then,
what an optional part would have begun with is skipped, or it is taken for what follows. -/
theorem not_showsErrors_innerSession :
    (repeatedTail.Built ∧ ¬ repeatedTail.LeftRecursive ∧
        ¬ (innerSession repeatedTail "pb").ShowsErrors) ∧
      ((pairedTail 3 1).Built ∧ ¬ (pairedTail 3 1).LeftRecursive ∧
        ¬ (innerSession (pairedTail 3 1) "pcb").ShowsErrors) ∧
      (pairedTail 2 3).Built ∧ ¬ (pairedTail 2 3).LeftRecursive ∧
        ¬ (innerSession (pairedTail 2 3) "pb").ShowsErrors := by
  refine ⟨⟨built_repeatedTail, not_leftRecursive_repeatedTail, ?_⟩,
    ⟨built_pairedTail (.inl ⟨rfl, rfl⟩), ?_, ?_⟩, built_pairedTail (.inr ⟨rfl, rfl⟩), ?_, ?_⟩
  · exact not_showsErrors_repeatedTail
  · apply not_leftRecursive_of_inner 7 11 <;> decide +kernel
  · apply not_showsErrors <;> decide +kernel
  · apply not_leftRecursive_of_inner 7 11 <;> decide +kernel
  · apply not_showsErrors <;> decide +kernel

end Reparse.Session
