import Reparse.Proofs.Grammar.Conflict
import Reparse.Proofs.Parser.Shape

/-!
# Accepted words

A run of a phrase accepts a word if it takes exactly the word wherever the rest of the input starts
with it and goes on with what may come after the phrase.
-/

namespace Reparse

open Reparse.Tree

namespace Parser

/-- The parser drops no token and never hides the input. -/
structure Plain (parser : Parser) : Prop where
  predictive : parser.Predictive
  exact : parser.leniency.skipsUnknown = false
  unedited : parser.document.hasChanges = false

/-- The input is visible, and the rest of it has the kinds of the word. -/
structure Ready (parser : Parser) (state : ParseState) (word : List TokenKind) : Prop where
  visible : state.hiddenUntil = none
  rest_eq : (parser.document.tokens.toList.drop state.cursor).map Token.kind = word

variable {parser : Parser} {state after : ParseState} {kind : TokenKind}
  {word rest : List TokenKind}

theorem observe_of_unedited (unedited : parser.document.hasChanges = false)
    (state : ParseState) : parser.observe state = state := by
  simp [observe, unedited]

theorem Plain.settle (plain : parser.Plain) (plan : RepetitionPlan) (state : ParseState) :
    parser.settle plan state = state := by
  simp [Parser.settle, plain.exact]

theorem Plain.ready_settle (plain : parser.Plain) (plan : RepetitionPlan)
    (ready : parser.Ready state word) : parser.Ready (parser.settle plan state) word := by
  rwa [plain.settle]

theorem Plain.arrive (plain : parser.Plain) (id : ExprId) (follow : KindSet)
    (state : ParseState) : state.Unmoved (parser.arrive id follow state) :=
  unmoved_arrive (by simp [plain.exact])

namespace Ready

theorem currentKind? (ready : parser.Ready state word) :
    parser.currentKind? state = word.head? := by
  rw [← ready.rest_eq]
  simp [Parser.currentKind?, ready.visible, Document.token?, List.head?_drop]

theorem of_unmoved (ready : parser.Ready state word) (unmoved : state.Unmoved after) :
    parser.Ready after word := by
  rw [unmoved]
  exact ⟨ready.visible, ready.rest_eq⟩

theorem advance (plain : parser.Plain) (ready : parser.Ready state (kind :: rest)) :
    parser.Ready (parser.advance state) rest := by
  have inside := cursor_lt_of_currentKind? ready.currentKind?
  have moved : parser.advance state = { state with cursor := state.cursor + 1 } := by
    rw [Parser.advance, currentId?, if_pos inside]
    exact observe_of_unedited plain.unedited _
  rw [moved]
  refine ⟨ready.visible, ?_⟩
  have tail := congrArg List.tail ready.rest_eq
  simpa [← List.map_tail, List.tail_drop] using tail

theorem openFrame (ready : parser.Ready state word) (name : NonTerminalId) :
    parser.Ready (parser.openFrame name state) word := ⟨ready.visible, ready.rest_eq⟩

theorem closeFrame (ready : parser.Ready state word) (name : NonTerminalId) (cutShort : Bool) :
    parser.Ready (parser.closeFrame name cutShort state) word := by
  have same := parser.samePlace_closeFrame name cutShort state
  refine ⟨?_, by rw [same.cursor]; exact ready.rest_eq⟩
  simp [Parser.closeFrame, ready.visible, ParseState.note]

theorem at?_iff (ready : parser.Ready state word) {set : KindSet} :
    parser.at? state set = true ↔ ∃ kind ∈ word.head?, kind ∈ set := by
  rw [Parser.at?_iff, ready.currentKind?]
  simp [Option.mem_def]

end Ready

/-- The task came to its end before the rest of the input, and nothing is missing. -/
structure Takes (parser : Parser) (outcome : Outcome) (after : ParseState)
    (rest : List TokenKind) : Prop where
  succeeds : outcome.Succeeds
  ready : parser.Ready after rest
  complete : ∀ leaf ∈ leavesIn outcome.chains, leaf.isMissing = false

theorem NoTrace.takes {outcome : Outcome}
    (quiet : NoTrace state outcome after) (ready : parser.Ready state rest) :
    parser.Takes outcome after rest :=
  ⟨quiet.succeeds, ready.of_unmoved quiet.unmoved, by simp [quiet.leaves]⟩

/-- The tasks that parse a phrase. -/
inductive Parses : Phrase → Task → Prop where
  | chain {id : ExprId} {follow : KindSet} : Parses (.chain id) (.chain id follow)
  | element {id : ExprId} {follow : KindSet} {own : Element} :
      Parses (.element own) (.element id follow own)
  | contents {parts : Repetition} {follow : KindSet} {count : Nat} :
      Parses (.contents parts) (.rounds parts follow count)

/-- The rest of the input may come after the phrase at a place. -/
def MayFollow (grammar : Grammar) (start : NonTerminalId) (place : Place) (phrase : Phrase)
    (rest : List TokenKind) : Prop :=
  ∀ kind ∈ rest.head?,
    match phrase with
    | .chain _ => grammar.Follows start place kind
    | .element _ | .contents _ => grammar.Follows start (.element place) kind

/-- Every run of the phrase at a place takes the word. -/
def Accepts (parser : Parser) (start : NonTerminalId) (place : Place) (phrase : Phrase)
    (word : List TokenKind) : Prop :=
  ∀ ⦃depth : Nat⦄ ⦃task : Task⦄ ⦃state : ParseState⦄ ⦃outcome : Outcome⦄ ⦃after : ParseState⦄
    ⦃rest : List TokenKind⦄,
    Parses phrase task → parser.Runs depth task state outcome after →
    outcome ≠ .stopped .endless → parser.Ready state (word ++ rest) →
    MayFollow parser.grammar start place phrase rest → parser.Takes outcome after rest

variable {start : NonTerminalId} {place : Place}

namespace Accepts

variable {id next inner : ExprId} {first : List TokenKind}

theorem last
    (plain : parser.Plain) (occurs : parser.grammar.Occurs start place id)
    (last : (parser.grammar.expr id).next = none)
    (element : parser.Accepts start place (.element (parser.grammar.expr id).element) word) :
    parser.Accepts start place (.chain id) word := by
  intro depth task state outcome after rest parses run finite ready follows
  obtain ⟨⟩ := parses
  have arrived := fun follow => ready.of_unmoved (plain.arrive id follow state)
  have follows' : MayFollow parser.grammar start place
      (.element (parser.grammar.expr id).element) rest :=
    fun kind member => .last occurs last (follows kind member)
  cases run with
  | exhausted => exact (finite rfl).elim
  | last _ run =>
      have takes := element .element run (by simp) (arrived _) follows'
      exact ⟨trivial, takes.ready, takes.complete⟩
  | stoppedFirst run => exact (element .element run finite (arrived _) follows').succeeds.elim
  | cons following => simp [last] at following
  | stoppedNext following => simp [last] at following

theorem cons
    (plain : parser.Plain) (occurs : parser.grammar.Occurs start place id)
    (following : (parser.grammar.expr id).next = some next)
    (element : parser.Accepts start place (.element (parser.grammar.expr id).element) first)
    (covers : Grammar.Covers (parser.grammar.predict.firstOf next) word)
    (chain : parser.Accepts start place.next (.chain next) word) :
    parser.Accepts start place (.chain id) (first ++ word) := by
  intro depth task state outcome after rest parses run finite ready follows
  obtain ⟨⟩ := parses
  rw [List.append_assoc] at ready
  have arrived := fun follow => ready.of_unmoved (plain.arrive id follow state)
  have follows' : MayFollow parser.grammar start place
      (.element (parser.grammar.expr id).element) (word ++ rest) := by
    intro kind member
    cases word with
    | nil => exact .vanishes occurs following covers (follows kind member)
    | cons own word =>
        obtain rfl : own = kind := by simpa using member
        exact .starts occurs following covers
  have nextFollows : MayFollow parser.grammar start place.next (.chain next) rest :=
    fun kind member => .next (follows kind member)
  cases run with
  | exhausted => exact (finite rfl).elim
  | last last => simp [last] at following
  | cons found run restRun =>
      obtain rfl := Option.some.inj (following.symm.trans found)
      have takes := element .element run (by simp) (arrived _) follows'
      have takesRest := chain .chain restRun (by simp) takes.ready nextFollows
      refine ⟨trivial, takesRest.ready, ?_⟩
      rw [Outcome.chains, leavesIn_chain_cons]
      intro leaf member
      rcases List.mem_append.mp member with first | later
      · exact takes.complete leaf first
      · exact takesRest.complete leaf later
  | stoppedFirst run => exact (element .element run finite (arrived _) follows').succeeds.elim
  | stoppedNext found run restRun =>
      obtain rfl := Option.some.inj (following.symm.trans found)
      have takes := element .element run (by simp) (arrived _) follows'
      exact (chain .chain restRun finite takes.ready nextFollows).succeeds.elim

theorem token (plain : parser.Plain) :
    parser.Accepts start place (.element (.token kind)) [kind] := by
  intro depth task state outcome after rest parses run finite ready follows
  obtain ⟨⟩ := parses
  have current : parser.currentKind? state = some kind := ready.currentKind?
  cases run with
  | token => exact ⟨trivial, ready.advance plain, by simp [Outcome.chains, isMissing]⟩
  | missing _ lacks => exact (lacks current).elim
  | aborted _ lacks => exact (lacks current).elim

theorem empty : parser.Accepts start place (.element .empty) [] := by
  intro depth task state outcome after rest parses run finite ready follows
  obtain ⟨⟩ := parses
  cases run with
  | empty => exact ⟨trivial, ready, by simp [Outcome.chains]⟩
  | missing _ lacks => exact lacks.elim
  | aborted _ lacks => exact lacks.elim

theorem nonTerminal
    (plain : parser.Plain) (conflictFree : parser.grammar.ConflictFree start)
    {name : NonTerminalId} (occurs : parser.grammar.Occurs start place id)
    (found : (parser.grammar.expr id).element = .nonTerminal name)
    (covers : Grammar.Covers (parser.grammar.predict.firstOf (parser.grammar.ruleOf name)) word)
    (rule : parser.Accepts start (.rule name) (.chain (parser.grammar.ruleOf name)) word) :
    parser.Accepts start place (.element (.nonTerminal name)) word := by
  intro depth task state outcome after rest parses run finite ready follows
  obtain ⟨⟩ := parses
  have follows' : MayFollow parser.grammar start (.rule name)
      (.chain (parser.grammar.ruleOf name)) rest :=
    fun kind member => .rule occurs found (follows kind member)
  -- The rule is entered exactly if the word is not empty.
  have starts : parser.at? state
      (parser.prediction.firstOf (parser.grammar.ruleOf name)).tokens = !word.isEmpty := by
    rw [plain.predictive.predicted, Bool.eq_iff_iff, ready.at?_iff]
    cases word with
    | nil =>
        simp only [List.nil_append, List.isEmpty_nil, Bool.not_true, Bool.false_eq_true, iff_false]
        rintro ⟨kind, member, starts⟩
        exact conflictFree.not_follows (occurs.rule found) starts covers (follows' kind member)
    | cons own word => simpa [Grammar.Covers] using covers
  have nullable : word = [] →
      (parser.prediction.firstOf (parser.grammar.ruleOf name)).nullable = true := by
    rintro rfl
    rwa [plain.predictive.predicted]
  have full : parser.at? state
      (parser.prediction.firstOf (parser.grammar.ruleOf name)).tokens = false → word = [] := by
    simp [starts]
  cases run with
  | entered _ run =>
      have takes := rule .chain run (by simp) (ready.openFrame name) follows'
      exact ⟨trivial, takes.ready.closeFrame name false,
        by simpa [Outcome.chains] using takes.complete⟩
  | enteredStopped _ run =>
      exact (rule .chain run finite (ready.openFrame name) follows').succeeds.elim
  | absent other =>
      obtain rfl := full other
      exact ⟨trivial, ready, by simp [Outcome.chains]⟩
  | missing _ lacks =>
      exact (Bool.false_ne_true (lacks.2.symm.trans (nullable (full lacks.1)))).elim
  | aborted _ lacks =>
      exact (Bool.false_ne_true (lacks.2.symm.trans (nullable (full lacks.1)))).elim

theorem optionalAbsent
    (plain : parser.Plain) (conflictFree : parser.grammar.ConflictFree start)
    (occurs : parser.grammar.Occurs start place id)
    (found : (parser.grammar.expr id).element = .optional inner) :
    parser.Accepts start place (.element (.optional inner)) [] := by
  intro depth task state outcome after rest parses run finite ready follows
  obtain ⟨⟩ := parses
  have absent : parser.at? state (parser.prediction.firstOf inner).tokens ≠ true := by
    rw [plain.predictive.predicted, Ne, ready.at?_iff]
    rintro ⟨kind, member, starts⟩
    exact conflictFree.optionalApart occurs found kind starts (follows kind member)
  cases run with
  | optionalAbsent => exact ⟨trivial, ready, by simp [Outcome.chains]⟩
  | optional starts => exact (absent starts).elim
  | optionalStopped starts => exact (absent starts).elim
  | missing _ lacks => exact lacks.elim
  | aborted _ lacks => exact lacks.elim

theorem optional
    (plain : parser.Plain) (conflictFree : parser.grammar.ConflictFree start)
    (occurs : parser.grammar.Occurs start place id)
    (found : (parser.grammar.expr id).element = .optional inner)
    (covers : Grammar.Covers (parser.grammar.predict.firstOf inner) word)
    (child : parser.Accepts start place.inner (.chain inner) word) :
    parser.Accepts start place (.element (.optional inner)) word := by
  cases word with
  | nil => exact optionalAbsent plain conflictFree occurs found
  | cons kind word =>
      intro depth task state outcome after rest parses run finite ready follows
      obtain ⟨⟩ := parses
      have starts : parser.at? state (parser.prediction.firstOf inner).tokens = true := by
        rw [plain.predictive.predicted, ready.at?_iff]
        exact ⟨kind, rfl, covers⟩
      have follows' : MayFollow parser.grammar start place.inner (.chain inner) rest :=
        fun kind member => .inner (follows kind member)
      cases run with
      | optional _ run =>
          have takes := child .chain run (by simp) ready follows'
          exact ⟨trivial, takes.ready, by simpa [Outcome.chains] using takes.complete⟩
      | optionalStopped _ run => exact (child .chain run finite ready follows').succeeds.elim
      | optionalAbsent absent => exact (Bool.false_ne_true (absent.symm.trans starts)).elim
      | missing _ lacks => exact lacks.elim
      | aborted _ lacks => exact lacks.elim

/-- The branch that is chosen for a word that is not empty is the one that derives it. -/
theorem chosen_of_cons
    (plain : parser.Plain) (conflictFree : parser.grammar.ConflictFree start)
    {branch chosen : ExprId} {branches : List ExprId}
    (occurs : parser.grammar.Occurs start place id)
    (found : (parser.grammar.expr id).element = .alternation branches)
    (member : branch ∈ branches) (ready : parser.Ready state (kind :: rest))
    (starts : kind ∈ (parser.grammar.predict.firstOf branch).tokens)
    (choice : parser.chooseBranch state branches = some chosen) : chosen = branch := by
  have current : parser.currentKind? state = some kind := ready.currentKind?
  have startsElement : kind ∈ (parser.grammar.startOf (.alternation branches)).tokens := by
    rw [Grammar.startOf, Grammar.mem_elementFirst_alternation]
    exact ⟨branch, member, starts⟩
  have starts' := chooseBranch_of_starts plain.predictive current startsElement choice
  by_contra different
  exact conflictFree.branchesDisjoint occurs found chosen (chooseBranch_eq_some choice).1 branch
    member different kind starts' starts

theorem passes_of_nil
    (plain : parser.Plain) (conflictFree : parser.grammar.ConflictFree start)
    {branch chosen : ExprId} {branches : List ExprId}
    (occurs : parser.grammar.Occurs start place id)
    (found : (parser.grammar.expr id).element = .alternation branches)
    (member : branch ∈ branches) (ready : parser.Ready state rest)
    (nullable : (parser.grammar.predict.firstOf branch).nullable = true)
    (follows : MayFollow parser.grammar start place (.element (.alternation branches)) rest)
    (choice : parser.chooseBranch state branches = some chosen) (follow : KindSet) :
    parser.Passes state (.chain chosen follow) := by
  have other : ∀ kind, parser.currentKind? state = some kind →
      ¬ kind ∈ (parser.grammar.predict.firstOf chosen).tokens := by
    intro kind current starts
    rw [ready.currentKind?] at current
    exact conflictFree.branchesApart occurs found ⟨branch, member, nullable⟩ chosen
      (chooseBranch_eq_some choice).1 kind starts (follows kind current)
  refine ⟨?_, other, by simp [plain.exact]⟩
  have matched := (chooseBranch_eq_some choice).2
  rw [plain.predictive.predicted] at matched
  rcases matched with starts | ⟨nullable, _⟩
  · obtain ⟨kind, current, starts⟩ := Parser.at?_iff.mp starts
    exact (other kind current starts).elim
  · exact nullable

theorem alternation
    (plain : parser.Plain) (conflictFree : parser.grammar.ConflictFree start)
    {branch : ExprId} {branches : List ExprId}
    (occurs : parser.grammar.Occurs start place id)
    (found : (parser.grammar.expr id).element = .alternation branches)
    (member : branch ∈ branches)
    (covers : Grammar.Covers (parser.grammar.predict.firstOf branch) word)
    (child : parser.Accepts start (place.branch branch) (.chain branch) word) :
    parser.Accepts start place (.element (.alternation branches)) word := by
  intro depth task state outcome after rest parses run finite ready follows
  obtain ⟨⟩ := parses
  have present : ¬ parser.Lacks state (.alternation branches) := by
    intro lacks
    have unmatched := chooseBranch_eq_none lacks branch member
    rw [plain.predictive.predicted] at unmatched
    cases word with
    | nil => exact Bool.false_ne_true (unmatched.1.symm.trans covers)
    | cons kind word => exact Parser.at?_eq_false_iff.mp unmatched.2 kind ready.currentKind? covers
  cases word with
  | nil =>
      cases run with
      | alternation choice run =>
          have inside := (occurs.branch found (chooseBranch_eq_some choice).1).inside
            plain.predictive.ordered
          have quiet := run.quiet plain.predictive inside
            (passes_of_nil plain conflictFree occurs found member ready covers follows choice _)
            (by simp)
          exact ⟨trivial, ready.of_unmoved quiet.unmoved,
            by simpa [Outcome.chains] using (quiet.takes ready).complete⟩
      | alternationStopped choice run =>
          have inside := (occurs.branch found (chooseBranch_eq_some choice).1).inside
            plain.predictive.ordered
          have quiet := run.quiet plain.predictive inside
            (passes_of_nil plain conflictFree occurs found member ready covers follows choice _)
            finite
          exact quiet.succeeds.elim
      | missing _ lacks => exact (present lacks).elim
      | aborted _ lacks => exact (present lacks).elim
  | cons kind word =>
      have follows' : MayFollow parser.grammar start (place.branch branch) (.chain branch) rest :=
        fun kind member => .branch (follows kind member)
      cases run with
      | alternation choice run =>
          obtain rfl := chosen_of_cons plain conflictFree occurs found member ready covers choice
          have takes := child .chain run (by simp) ready follows'
          exact ⟨trivial, takes.ready, by simpa [Outcome.chains] using takes.complete⟩
      | alternationStopped choice run =>
          obtain rfl := chosen_of_cons plain conflictFree occurs found member ready covers choice
          exact (child .chain run finite ready follows').succeeds.elim
      | missing _ lacks => exact (present lacks).elim
      | aborted _ lacks => exact (present lacks).elim

end Accepts

end Parser

end Reparse
