import Reparse.Proofs.Document.Marking
import Reparse.Proofs.Parser.Termination
import Reparse.Session

/-!
# The text of a session

If a text has errors then its edits may be made once more, from the last successful text on and with
blocks of it marked.  That is where a text could come out different.

Main statement: `followsEdits_iff`.
-/

namespace Reparse.Session

variable {session : Session}

/-- An update that fails leaves the session as it was. -/
def advance (session : Session) (changes : List Change) : Session :=
  match session.update changes with
  | .ok (next, _) => next
  | .error _ => session

def advanceAll (session : Session) (edits : List (List Change)) : Session :=
  edits.foldl advance session

/-- An update fails just as its changes do on the text of the session, and leaves the session as it
was; or else the session has the text that the changes make. -/
def FollowsEdits (session : Session) (changes : List Change) : Prop :=
  match Text.edit session.source changes with
  | .error error =>
      session.update changes = .error (.edit error) ∧ session.advance changes = session
  | .ok text =>
      ∃ next log, session.update changes = .ok (next, log) ∧ session.advance changes = next ∧
        next.source = text

/-- The spans of the blocks that an update marks in the last successful text. -/
def marks (session : Session) (changes : List Change) : List Span :=
  match session.document.update changes with
  | .error _ => []
  | .ok document =>
      match session.parse? document.forgetEdits session.settings.leniency,
        session.lastSuccessful with
      | some (first, _), some lastSuccessful =>
          if first.hasErrors && session.settings.confinesErrors then
            (blocksToMark session.grammar document lastSuccessful).map Prod.snd
          else
            []
      | _, _ => []

/-- The text that all edits since the last successful text make of it when it is marked first. -/
def replayed (session : Session) (changes : List Change) : Except EditError Text := do
  let _ ← Text.edit session.source changes
  let base ← Text.markAll session.document.baseSource (session.marks changes)
  Text.edit base (session.document.changes ++ changes)

/-! ## What a session keeps -/

structure Sound (session : Session) : Prop where
  built : session.grammar.Built
  terminating : ¬ session.grammar.LeftRecursive
  predicted : session.prediction = session.grammar.predict
  faithful : session.document.Faithful
  successful : ∀ parse, session.lastSuccessful = some parse → parse.document.Faithful

theorem Sound.new {language : Language} (settings : Settings) (built : language.grammar.Built)
    (terminating : ¬ language.grammar.LeftRecursive) : (new language settings).Sound where
  built := built
  terminating := terminating
  predicted := rfl
  faithful := .ofText _ _
  successful := by simp [Session.new]

/-- The session is another one that may know more about the token sets. -/
structure SameButSets (session next : Session) : Prop where
  language : next.language = session.language
  settings : next.settings = session.settings
  lastSuccessful : next.lastSuccessful = session.lastSuccessful

theorem Sound.parses (sound : session.Sound) (document : Document) (leniency : Leniency) :
    ∃ parse log next, session.parse? document leniency = some (parse, log, next) ∧
      parse.document = document ∧ next.Sound ∧ session.SameButSets next := by
  have predictive :
      Parser.Predictive ⟨session.grammar, session.prediction, document, leniency⟩ :=
    ⟨sound.built.ordered, sound.predicted⟩
  obtain ⟨run, done, finishes⟩ := Parser.run?_finishes predictive sound.terminating
    session.language.start session.setsAnnounced
  refine ⟨run.parse, run.log, { session with setsAnnounced := run.setsAnnounced }, ?_, ?_, ?_, ?_⟩
  · simp only [parse?, done, Option.map_some]
  · cases finishes <;> rfl
  · exact ⟨sound.built, sound.terminating, sound.predicted, sound.faithful, sound.successful⟩
  · exact ⟨rfl, rfl, rfl⟩

theorem source_keep (session : Session) (parse : Parse) :
    (session.keep parse).source = parse.document.source := by
  unfold keep
  split <;> rfl

theorem Sound.keep (sound : session.Sound) {parse : Parse} (faithful : parse.document.Faithful) :
    (session.keep parse).Sound := by
  unfold Session.keep
  split
  · exact ⟨sound.built, sound.terminating, sound.predicted, faithful, sound.successful⟩
  · refine ⟨sound.built, sound.terminating, sound.predicted, faithful.forgetEdits, ?_⟩
    intro other same
    cases same
    exact faithful.forgetEdits

/-! ## Marked blocks -/

theorem markAll_agrees {document : Document} (faithful : document.Faithful) (spans : List Span) :
    Agrees id (fun marked text => ∃ changes, document.Extends changes text marked.1)
      (markAll document spans) (Text.markAll document.source spans) := by
  induction spans generalizing document with
  | nil => exact .ok ⟨[], rfl, rfl, rfl, by simp, faithful⟩
  | cons span rest induction =>
      rw [Text.markAll, List.foldlM_cons]
      refine (document.mark_agrees faithful span).bind ?_
      rintro marked text - - ⟨changes, first⟩
      have later := induction first.faithful
      rw [first.source] at later
      apply later.returns
      rintro ⟨last, log⟩ text' ⟨more, second⟩
      exact ⟨_, rfl, _, first.trans second⟩

theorem markBlocks_agrees {document : Document} {lastSuccessful : Parse}
    {blocks : List (TokenId × Span)} (faithful : document.Faithful)
    (successful : lastSuccessful.document.Faithful)
    (based : blocks ≠ [] → document.baseSource = lastSuccessful.document.source) :
    Agrees id (fun marked text => marked.1.Faithful ∧ marked.1.source = text)
      (markBlocks document lastSuccessful blocks)
      (Text.markAll document.baseSource (blocks.map Prod.snd) >>=
        fun base => Text.edit base document.changes) := by
  by_cases nothing : blocks = []
  · subst nothing
    have edits : (Text.markAll document.baseSource [] >>=
        fun base => Text.edit base document.changes) = .ok document.source := faithful.edits
    rw [List.map_nil, edits]
    exact .ok ⟨faithful, rfl⟩
  · rw [based nothing]
    have more : ¬ blocks.isEmpty = true := by simpa using nothing
    unfold markBlocks
    rw [if_neg more]
    refine (markAll_agrees successful _).bind ?_
    rintro ⟨marked, log⟩ base - - ⟨changes, follows⟩
    have edited := marked.update_agrees follows.faithful document.changes
    rw [follows.source] at edited
    apply edited.returns
    intro last text extends_it
    exact ⟨_, rfl, extends_it.faithful, extends_it.source⟩

theorem blocksToMark_based {grammar : Grammar} {document : Document} {lastSuccessful : Parse}
    (some_block : blocksToMark grammar document lastSuccessful ≠ []) :
    document.baseSource = lastSuccessful.document.source := by
  unfold blocksToMark at some_block
  dsimp only at some_block
  split at some_block
  · exact (some_block rfl).elim
  · rename_i passes
    simp only [Bool.or_eq_true, decide_eq_true_eq, not_or, Decidable.not_not] at passes
    exact passes.2

theorem delimits_blocksOf {grammar : Grammar} {parse : Parse} (faithful : parse.document.Faithful)
    (deleted : List TokenId) :
    ∀ block ∈ blocksOf grammar parse deleted, block.2.Delimits parse.document.source := by
  unfold blocksOf
  refine List.foldlRecOn (motive := fun blocks : List (TokenId × Span) =>
    ∀ block ∈ blocks, block.2.Delimits parse.document.source) deleted _ (by simp) ?_
  intro blocks delimits id _
  split
  · exact delimits
  · rename_i span found
    split
    · exact delimits
    · intro block member
      rcases List.mem_append.mp member with earlier | last
      · exact delimits block earlier
      · obtain rfl : block = (id, span) := by simpa using last
        exact Parse.delimits_blockSpan faithful found

theorem delimits_blocksToMark {grammar : Grammar} {document : Document} {lastSuccessful : Parse}
    (successful : lastSuccessful.document.Faithful) :
    ∀ block ∈ blocksToMark grammar document lastSuccessful,
      block.2.Delimits document.baseSource := by
  intro block member
  have based := blocksToMark_based (List.ne_nil_of_mem member)
  unfold blocksToMark at member
  dsimp only at member
  split at member
  · simp at member
  · rw [based]
    exact delimits_blocksOf successful _ block member

/-! ## Updates -/

/-- The second pass takes the document with its blocks marked. -/
theorem Sound.recover_agrees (sound : session.Sound) {document : Document} {lastSuccessful : Parse}
    (faithful : document.Faithful) (successful : lastSuccessful.document.Faithful) :
    Agrees UpdateError.edit (fun next text => next.1.Sound ∧ next.1.source = text)
      (session.recover document lastSuccessful)
      (Text.markAll document.baseSource
          ((blocksToMark session.grammar document lastSuccessful).map Prod.snd) >>=
        fun base => Text.edit base document.changes) := by
  have marked := markBlocks_agrees faithful successful
    (@blocksToMark_based session.grammar _ _)
  apply marked.mapError.returns
  rintro ⟨marked, log⟩ text ⟨faithful, source⟩
  obtain ⟨parse, parseLog, next, parsed, parse_document, known, -⟩ := sound.parses marked .standard
  refine ⟨(next.keep parse, _), by simp only [parsed]; rfl, known.keep ?_, ?_⟩
  · exact parse_document ▸ faithful
  · rw [source_keep, parse_document, source]

theorem Sound.update_agrees (sound : session.Sound) (changes : List Change) :
    Agrees UpdateError.edit (fun next text => next.1.Sound ∧ next.1.source = text)
      (session.update changes) (session.replayed changes) := by
  refine (session.document.update_agrees sound.faithful changes).mapError.bind ?_
  intro document text done _ extends_it
  have updated : session.document.update changes = .ok document := by
    cases outcome : session.document.update changes with
    | error error => simp [outcome, Except.mapError] at done
    | ok after => simpa [outcome, Except.mapError] using done
  rw [← extends_it.baseSource, ← extends_it.changes]
  obtain ⟨first, firstLog, next, parsed, first_document, known, same⟩ :=
    sound.parses document.forgetEdits session.settings.leniency
  have unmarked : session.marks changes = [] →
      (Text.markAll document.baseSource (session.marks changes) >>=
        fun base => Text.edit base document.changes) = .ok document.source := by
    intro nothing
    rw [nothing]
    exact extends_it.faithful.edits
  simp only [parsed, same.settings, same.lastSuccessful]
  cases errors : first.hasErrors with
  | false =>
      have nothing : session.marks changes = [] := by
        cases successful : session.lastSuccessful <;>
          simp [marks, updated, parsed, successful, errors]
      rw [unmarked nothing]
      refine .ok ⟨known.keep ?_, ?_⟩
      · exact first_document ▸ extends_it.faithful.forgetEdits
      · rw [source_keep, first_document]
        rfl
  | true =>
      cases successful : session.lastSuccessful with
      | none =>
          rw [unmarked (by simp [marks, updated, parsed, successful])]
          refine .ok ⟨known.keep extends_it.faithful, ?_⟩
          rw [source_keep]
      | some lastSuccessful =>
          cases confines : session.settings.confinesErrors with
          | false =>
              rw [unmarked (by simp [marks, updated, parsed, successful, confines])]
              refine .ok ⟨known.keep extends_it.faithful, ?_⟩
              rw [source_keep]
          | true =>
              have blocks : session.marks changes =
                  (blocksToMark next.grammar document lastSuccessful).map Prod.snd := by
                simp [marks, updated, parsed, successful, confines, errors, grammar, same.language]
              rw [blocks]
              have recovered := known.recover_agrees extends_it.faithful
                (sound.successful _ successful)
              apply recovered.returns
              rintro ⟨last, log⟩ text holds
              exact ⟨_, rfl, holds⟩

theorem Sound.advance (sound : session.Sound) (changes : List Change) :
    (session.advance changes).Sound := by
  have agrees := sound.update_agrees changes
  unfold Session.advance
  cases outcome : session.update changes with
  | error error => exact sound
  | ok result =>
      rw [outcome] at agrees
      obtain ⟨_, -, sound, -⟩ := agrees.of_value
      exact sound

theorem Sound.advanceAll (sound : session.Sound) (edits : List (List Change)) :
    (session.advanceAll edits).Sound := by
  induction edits generalizing session with
  | nil => exact sound
  | cons changes rest induction => exact induction (sound.advance changes)

theorem Sound.followsEdits_iff_replayed (sound : session.Sound) (changes : List Change) :
    session.FollowsEdits changes ↔
      session.replayed changes = Text.edit session.source changes := by
  have agrees := sound.update_agrees changes
  unfold FollowsEdits
  cases edits : Text.edit session.source changes with
  | error error =>
      have fails : session.replayed changes = .error error := by
        rw [replayed, edits]
        rfl
      rw [fails] at agrees ⊢
      simp [agrees.of_error, Session.advance]
  | ok text =>
      cases replay : session.replayed changes with
      | error error =>
          rw [replay] at agrees
          simp [agrees.of_error]
      | ok found =>
          rw [replay] at agrees
          obtain ⟨⟨next, log⟩, updated, -, source⟩ := agrees.of_ok
          simp [updated, Session.advance, source]

theorem Sound.delimits_marks (sound : session.Sound) (changes : List Change) :
    ∀ span ∈ session.marks changes, span.Delimits session.document.baseSource := by
  intro span member
  have agrees := session.document.update_agrees sound.faithful changes
  unfold marks at member
  split at member
  · simp at member
  · rename_i document updated
    rw [updated] at agrees
    obtain ⟨text, -, extends_it⟩ := agrees.of_value
    rw [← extends_it.baseSource]
    split at member
    · rename_i first rest lastSuccessful _ successful
      split at member
      · obtain ⟨block, marked, rfl⟩ := List.mem_map.mp member
        exact delimits_blocksToMark (sound.successful _ successful) block marked
      · simp at member
    · simp at member

/-- The edits are replayed faithfully if no marked block begins or ends within a break. -/
theorem Sound.replayed_of_whole (sound : session.Sound) (changes : List Change)
    (whole : ∀ span ∈ session.marks changes,
      ¬ Text.SplitsBreakAt session.document.baseSource span) :
    session.replayed changes = Text.edit session.source changes := by
  have unchanged := Text.markAll_eq_self (sound.delimits_marks changes) whole
  have all := sound.faithful.edit_all changes
  change _ = Text.edit session.source changes at all
  rw [replayed, unchanged]
  cases edits : Text.edit session.source changes with
  | error error => rfl
  | ok text => exact all.trans edits

/-- An update loses text only where a marked block begins or ends within a line break. -/
theorem followsEdits_iff (language : Language) (settings : Settings)
    (built : language.grammar.Built) (terminating : ¬ language.grammar.LeftRecursive)
    (history : List (List Change)) (changes : List Change) :
    let session := (new language settings).advanceAll history
    (session.FollowsEdits changes ↔
        session.replayed changes = Text.edit session.source changes) ∧
      (∀ span ∈ session.marks changes,
        Text.mark session.document.baseSource span = .ok session.document.baseSource ↔
          ¬ Text.SplitsBreakAt session.document.baseSource span) ∧
      ((∀ span ∈ session.marks changes,
          ¬ Text.SplitsBreakAt session.document.baseSource span) →
        session.FollowsEdits changes) := by
  intro session
  have sound : session.Sound := (Sound.new settings built terminating).advanceAll history
  have exactly := sound.followsEdits_iff_replayed changes
  refine ⟨exactly, ?_, ?_⟩
  · intro span member
    exact Text.mark_eq_self_iff (sound.delimits_marks changes span member)
  · intro whole
    exact exactly.mpr (sound.replayed_of_whole changes whole)

/-! ## A block that begins with a line feed -/

def charMatcher (char : Char) : Matcher where
  matchEnd? text := if text.head? = some char then some 1 else none
  withinText := by
    intro text found matched
    cases text <;> simp at matched ⊢
    omega

/-- A text is an x and a block; a block is a line feed, an a and a b. -/
def lineFeedBlocks : Grammar :=
  let grammar := (Grammar.initial.token "x").2
  let grammar := (grammar.token "line feed").2
  let grammar := (grammar.token "a").2
  let grammar := (grammar.token "b").2
  let grammar := (grammar.nonTerminal "block").2
  let grammar := (grammar.nonTerminal "text").2
  let grammar := (grammar.tokenExpr 1).2
  let grammar := (grammar.tokenExpr 2).2
  let grammar := (grammar.tokenExpr 3).2
  let grammar := (grammar.seq 2 3).2
  let grammar := (grammar.seq 1 4).2
  let grammar := grammar.setRule 0 5
  let grammar := (grammar.tokenExpr 0).2
  let grammar := (grammar.nonTerminalExpr 0).2
  let grammar := (grammar.seq 6 7).2
  let grammar := grammar.setRule 1 8
  grammar.setBlock 0 true

theorem built_lineFeedBlocks : lineFeedBlocks.Built := by
  have names := (((((Grammar.Built.initial.token "x").token "line feed").token "a").token
    "b").nonTerminal "block").nonTerminal "text"
  have tokens := ((names.tokenExpr 1).tokenExpr 2).tokenExpr 3
  refine .setBlock (.setRule (.seq (.nonTerminalExpr (.tokenExpr _ (.setRule
    (.seq (.seq tokens ?_ ?_) ?_ ?_) ?_)) ?_) ?_ ?_) ?_)
  all_goals decide +kernel

theorem not_leftRecursive_lineFeedBlocks : ¬ lineFeedBlocks.LeftRecursive := by
  have names : lineFeedBlocks.nonTerminals = #[⟨"block", 5, true⟩, ⟨"text", 8, false⟩] := by
    decide +kernel
  apply Grammar.not_leftRecursive_of_tokens
  intro name
  match name with
  | 0 => exact .inr ⟨1, by decide +kernel⟩
  | 1 => exact .inr ⟨0, by decide +kernel⟩
  | name + 2 =>
      have rule : lineFeedBlocks.ruleOf (name + 2) = 0 := by
        simp only [Grammar.ruleOf, Grammar.nonTerminalOf, names]
        rfl
      exact .inl (by rw [rule]; decide +kernel)

def lineFeedLanguage : Language where
  grammar := lineFeedBlocks
  scanner := Scanner.tokenizer
    ⟨[(0, charMatcher 'x'), (1, charMatcher '\n'), (2, charMatcher 'a'), (3, charMatcher 'b')],
      some (charMatcher '\r'), none⟩
  start := 1

def lineFeedSession (text : String) : Session :=
  (new lineFeedLanguage .standard).advanceAll [[.insert .origin text.toList]]

def deletion : Change := ⟨[], ⟨2, 1⟩, ⟨2, 2⟩⟩

theorem followsEdits_lineFeed : (lineFeedSession "x\nab").FollowsEdits [deletion] :=
  (followsEdits_iff lineFeedLanguage .standard built_lineFeedBlocks
    not_leftRecursive_lineFeedBlocks [[.insert .origin "x\nab".toList]] [deletion]).2.2
    (by decide +kernel)

/-- Where the block begins after a carriage return, marking it loses the carriage return. -/
theorem not_followsEdits_carriageReturn :
    lineFeedBlocks.Built ∧ ¬ lineFeedBlocks.LeftRecursive ∧
      ¬ (lineFeedSession "x\r\nab").FollowsEdits [deletion] := by
  refine ⟨built_lineFeedBlocks, not_leftRecursive_lineFeedBlocks, ?_⟩
  have edits : (Text.edit (lineFeedSession "x\r\nab").source [deletion]).toOption =
      some "x\r\na".toList := by decide +kernel
  have source : ((lineFeedSession "x\r\nab").advance [deletion]).source = "x\na".toList := by
    decide +kernel
  unfold FollowsEdits
  cases outcome : Text.edit (lineFeedSession "x\r\nab").source [deletion] with
  | error error => simp [outcome, Except.toOption] at edits
  | ok text =>
      rintro ⟨next, log, -, rfl, same⟩
      rw [outcome] at edits
      have other : "x\na".toList = "x\r\na".toList :=
        source.symm.trans (same.trans (Option.some.inj edits))
      exact absurd other (by decide)

end Reparse.Session
