import Reparse.Proofs.Parser.Admission
import Reparse.Proofs.Parser.Coverage
import Reparse.Proofs.Parser.Determinism
import Reparse.Proofs.Parser.Shape
import Reparse.Proofs.Parser.Simulation

/-!
# Leniency makes no difference where it is not needed

In a parse that drops and lacks nothing the current token is welcome wherever tokens may be dropped:
the task at hand starts with it, or it stays until what follows the task takes it.  Contents that
can match nothing are an exception, as they go by without that.

Main statement: `run?_lenient`.
-/

namespace Reparse

open Reparse.Tree

/-- No content of a repetition can match nothing. -/
def Grammar.ContentFilled (grammar : Grammar) : Prop :=
  ∀ id parts, (grammar.expr id).element = .repetition parts →
    (grammar.predict.firstOf parts.content).nullable = false

namespace Parser

variable {parser : Parser} {start : NonTerminalId} {state after : ParseState} {kind : TokenKind}

/-- What stands after the task may come there, or after a round that another one follows, starts the
content of that. -/
def Welcomes (parser : Parser) (after : ParseState) : Task → Outcome → Prop
  | .round parts _, .round _ true => ∀ kind, parser.currentKind? after = some kind →
      kind ∈ (parser.grammar.predict.firstOf parts.content).tokens
  | task, _ => ∀ kind, parser.currentKind? after = some kind → task.Spares parser kind

/-- What stands after a round may come after its separator. -/
theorem Welcomes.afterSeparator {parts : Repetition} {follow : KindSet}
    {items : List (List Tree)} {more : Bool}
    (welcomes : parser.Welcomes after (.round parts follow) (.round items more))
    (predictive : parser.Predictive) :
    ∀ kind, parser.currentKind? after = some kind →
      kind ∈ (parser.planRepetition parts follow).afterSeparator := by
  intro kind current
  rw [mem_afterSeparator, predictive.predicted]
  cases more with
  | false => exact .inl (welcomes kind current)
  | true => exact .inr (welcomes kind current)

/-- What stands after a content may come there. -/
def WelcomesContent (parser : Parser) (after : ParseState) (parts : Repetition)
    (follow : KindSet) : Prop :=
  ∀ kind, parser.currentKind? after = some kind →
    kind ∈ (parser.planRepetition parts follow).afterContent

section WelcomesContent

variable {parts : Repetition} {follow : KindSet} {items : List (List Tree)}

theorem Welcomes.content_of_joins
    (welcomes : parser.Welcomes after (.round parts follow) (.round items true))
    (predictive : parser.Predictive)
    (joins : parser.joins after (parser.planRepetition parts follow) = true) :
    parser.WelcomesContent after parts follow := by
  intro kind current
  refine mem_afterContent.mpr (.inr (.inr ⟨(joins_iff.mp joins).1, ?_⟩))
  rw [predictive.predicted]
  exact welcomes kind current

theorem welcomesContent_of_separates (follow : KindSet)
    (separates : parser.at? after (parser.prediction.firstOf parts.separator).tokens = true) :
    parser.WelcomesContent after parts follow := by
  intro kind current
  obtain ⟨kind', current', starts⟩ := at?_iff.mp separates
  obtain rfl := Option.some.inj (current.symm.trans current')
  exact mem_afterContent.mpr (.inr (.inl starts))

end WelcomesContent

theorem currentKind?_closeFrame {name : NonTerminalId} {cutShort : Bool}
    (current : parser.currentKind? state = some kind) :
    parser.currentKind? (parser.closeFrame name cutShort state) = some kind := by
  have visible : state.hiddenUntil = none := by
    unfold currentKind? at current
    split at current
    · simp at current
    · assumption
  rw [← current]
  simp [currentKind?, closeFrame, visible, ParseState.note]

theorem Runs.welcomes_first {depth : Nat} {id next : ExprId} {follow : KindSet} {nodes : List Tree}
    {node : Tree} (rest : parser.Runs depth (.chain next follow) state (.chain nodes) after)
    (following : (parser.grammar.expr id).next = some next) (exacting : parser.Exacting start)
    (clean : parser.Clean start (.chain next follow) (.chain nodes))
    (welcomes : parser.Welcomes after (.chain next follow) (.chain nodes)) :
    parser.Welcomes state
      (.element id (parser.followOfElement id follow) (parser.grammar.expr id).element)
      (.node node) := by
  intro kind current
  rcases rest.starts_or_stays exacting clean current with starts | stays
  · rw [Task.Spares, followOfElement, following, KindSet.mem_union,
      exacting.predictive.predicted]
    exact .inr (Grammar.mem_consumableOf_of_mem_firstOf starts)
  · exact Passes.mem_followOfElement kind (welcomes kind stays)

theorem Runs.starts_content {depth count : Nat} {parts : Repetition} {follow : KindSet}
    {items : List (List Tree)}
    (rounds : parser.Runs depth (.rounds parts follow count) state (.items items) after)
    (exacting : parser.Exacting start)
    (clean : parser.Clean start (.rounds parts follow count) (.items items)) :
    ∀ kind, parser.currentKind? state = some kind →
      kind ∈ (parser.grammar.predict.firstOf parts.content).tokens :=
  fun _ current => mem_bodyFirst_of_filled (exacting.filled_contents clean.reached)
    (rounds.admits exacting clean current)

theorem Runs.welcomesContent {depth : Nat} {parts : Repetition} {follow follow' : KindSet}
    {nodes : List Tree} {items : List (List Tree)}
    (separator : parser.Runs depth (.chain parts.separator follow') state (.chain nodes) after)
    (exacting : parser.Exacting start)
    (clean : parser.Clean start (.chain parts.separator follow') (.chain nodes))
    (welcomes : parser.Welcomes after (.round parts follow) (.round items false)) :
    parser.WelcomesContent state parts follow := by
  intro kind current
  rcases separator.starts_or_stays exacting clean current with starts | stays
  · refine mem_afterContent.mpr (.inr (.inl ?_))
    rw [exacting.predictive.predicted]
    exact starts
  · exact mem_afterContent.mpr (.inl (welcomes kind stays))

theorem Runs.arrives_under {depth : Nat} {id : ExprId} {follow : KindSet} {nodes : List Tree}
    {state' : ParseState} (run : parser.Runs depth (.chain id follow) state (.chain nodes) after)
    (exacting : parser.Exacting start)
    (clean : parser.Clean start (.chain id follow) (.chain nodes))
    (welcomes : parser.Welcomes after (.chain id follow) (.chain nodes))
    (leniency : Leniency) (unmoved : state.Unmoved state') :
    (parser.arrive id follow state).Unmoved
      ((parser.under leniency).arrive id follow state') := by
  have still : state'.Unmoved ((parser.under leniency).arrive id follow state') := by
    apply unmoved_arrive
    intro _ kind current
    have current : parser.currentKind? state = some kind :=
      (currentKind?_of_unmoved unmoved).symm.trans current
    rcases run.starts_or_stays exacting clean current with starts | stays
    · refine .inr ?_
      change kind ∈ (parser.prediction.firstOf id).tokens
      rwa [exacting.predictive.predicted]
    · exact .inl (welcomes kind stays)
  exact (unmoved_symm (exacting.arrive id follow state)).trans (unmoved.trans still)

theorem settle_under {parts : Repetition} {follow : KindSet} {state' : ParseState}
    (leniency : Leniency) (unmoved : state.Unmoved state')
    (welcomes : parser.WelcomesContent state parts follow) :
    (parser.under leniency).settle (parser.planRepetition parts follow) state' = state' := by
  have planned : parser.planRepetition parts follow =
    (parser.under leniency).planRepetition parts follow := rfl
  rw [planned]
  apply settle_eq_self
  intro _ kind current
  exact welcomes kind ((currentKind?_of_unmoved unmoved).symm.trans current)

/-- A run that drops and lacks nothing is possible under every leniency, if what stands after it is
welcome there. -/
theorem Runs.under {depth : Nat} {task : Task} {outcome : Outcome} {state' : ParseState}
    (run : parser.Runs depth task state outcome after) (exacting : parser.Exacting start)
    (clean : parser.Clean start task outcome) (welcomes : parser.Welcomes after task outcome)
    (leniency : Leniency) (unmoved : state.Unmoved state') :
    ∃ after', (parser.under leniency).Runs depth task state' outcome after' ∧
      after.Unmoved after' := by
  have predictive := exacting.predictive
  have same : ∀ {state state' : ParseState}, state.Unmoved state' →
      (parser.under leniency).currentKind? state' = parser.currentKind? state :=
    currentKind?_of_unmoved
  induction run generalizing state' with
  | exhausted | stoppedFirst | stoppedNext | aborted | enteredStopped | optionalStopped
  | alternationStopped | repetitionStopped | ledStopped | leadStopped | filledStopped
  | noRoundsLeft | roundStopped | moreStopped | contentStopped | separatorStopped =>
      exact clean.complete.succeeds.elim
  | last last run element =>
      have arrives := (Runs.last last run).arrives_under exacting clean welcomes leniency unmoved
      obtain ⟨after', run', unmoved'⟩ := element (exacting.element clean _)
        (fun kind current => Passes.mem_followOfElement kind (welcomes kind current)) arrives
      exact ⟨after', .last last run', unmoved'⟩
  | @cons depth id next follow state middle after node nodes following run rest element chain =>
      have arrives := (Runs.cons following run rest).arrives_under exacting clean welcomes leniency
        unmoved
      have cleanRest := exacting.rest following clean
      obtain ⟨middle', run', unmoved'⟩ := element (exacting.element clean _)
        (rest.welcomes_first following exacting cleanRest welcomes) arrives
      obtain ⟨after', rest', unmoved''⟩ := chain cleanRest welcomes unmoved'
      exact ⟨after', .cons following run' rest', unmoved''⟩
  | @token depth id follow state kind current =>
      have run : (parser.under leniency).Runs depth (.element id follow (.token kind)) state'
          (.node (.token id state'.cursor)) _ := .token ((same unmoved).trans current)
      rw [unmoved.cursor] at run
      exact ⟨_, run, unmoved_advance unmoved⟩
  | missing => simpa [Outcome.chains, isMissing] using clean.complete.leaves
  | entered starts _ chain =>
      obtain ⟨after', run', unmoved'⟩ := chain (exacting.rule clean)
        (fun kind current => welcomes kind (currentKind?_closeFrame current))
        (unmoved_openFrame _ unmoved)
      rw [← at?_congr (same unmoved)] at starts
      exact ⟨_, .entered starts run', unmoved_closeFrame _ _ unmoved'⟩
  | absent other nullable =>
      rw [← at?_congr (same unmoved)] at other
      exact ⟨_, .absent other nullable, unmoved⟩
  | empty => exact ⟨_, .empty, unmoved⟩
  | optional starts _ chain =>
      rw [← at?_congr (same unmoved)] at starts
      obtain ⟨after', run', unmoved'⟩ := chain clean.inner welcomes unmoved
      exact ⟨after', .optional starts run', unmoved'⟩
  | optionalAbsent other =>
      rw [← at?_congr (same unmoved)] at other
      exact ⟨_, .optionalAbsent other, unmoved⟩
  | alternation chosen _ chain =>
      obtain ⟨after', run', unmoved'⟩ :=
        chain (clean.branch (chooseBranch_eq_some chosen).1) welcomes unmoved
      have prediction : (parser.under leniency).prediction = parser.prediction := rfl
      rw [← chooseBranch_congr prediction (same unmoved)] at chosen
      exact ⟨after', .alternation chosen run', unmoved'⟩
  | repetition _ items =>
      obtain ⟨after', run', unmoved'⟩ := items clean.repetition welcomes unmoved
      exact ⟨after', .repetition run', unmoved'⟩
  | led leads _ chain =>
      obtain ⟨after', run', unmoved'⟩ := chain (clean.leadingSeparator _)
        (fun kind current => (welcomes kind current).resolve_left (leading_of_leads leads)) unmoved
      rw [← leads_congr (same unmoved)] at leads
      exact ⟨after', .led leads run', unmoved'⟩
  | unled unled =>
      rw [← leads_congr (same unmoved)] at unled
      exact ⟨_, .unled unled, unmoved⟩
  | leadOnly _ ended lead =>
      obtain ⟨after', run', unmoved'⟩ := lead ⟨clean.within, clean.reached, clean.complete⟩
        (fun kind current => by simp [ended] at current) unmoved
      exact ⟨after', .leadOnly run' ((same unmoved').trans ended), unmoved'⟩
  | @filled depth parts follow state middle after items rest run visible roundsRun lead rounds =>
      have cleanRounds := clean.rounds (parser.document.size - middle.cursor + 1)
      have starts := roundsRun.starts_content exacting cleanRounds
      obtain ⟨middle', run', unmoved'⟩ := lead clean.lead
        (fun kind current => .inr (mem_afterSeparator.mpr
          (.inr (predictive.predicted ▸ starts kind current)))) unmoved
      obtain ⟨after', rest', unmoved''⟩ := rounds cleanRounds welcomes unmoved'
      rw [← same unmoved'] at visible
      rw [← unmoved'.cursor] at rest'
      exact ⟨after', .filled run' visible rest', unmoved''⟩
  | lastRound _ round =>
      obtain ⟨after', run', unmoved'⟩ := round
        ⟨clean.within, clean.reached, trivial, clean.complete.leaves⟩ welcomes unmoved
      exact ⟨after', .lastRound run', unmoved'⟩
  | stuckRound run stuck => exact (run.round_moves predictive stuck).elim
  | moreRounds _ moved restRun round rounds =>
      obtain ⟨middle', run', unmoved'⟩ := round (clean.round true)
        (restRun.starts_content exacting clean.moreRounds) unmoved
      obtain ⟨after', rest', unmoved''⟩ := rounds clean.moreRounds welcomes unmoved'
      rw [← unmoved.cursor, ← unmoved'.cursor] at moved
      exact ⟨after', .moreRounds run' moved rest', unmoved''⟩
  | @joined depth parts follow state after nodes run joins content =>
      rw [exacting.settle] at joins welcomes ⊢
      have welcomesContent := welcomes.content_of_joins predictive joins
      obtain ⟨after', run', unmoved'⟩ := content (clean.content _) welcomesContent unmoved
      have settled := settle_under leniency unmoved' welcomesContent
      rw [← joins_congr (same unmoved'), ← settled] at joins
      refine ⟨_, .joined run' joins, ?_⟩
      change after.Unmoved
        ((parser.under leniency).settle (parser.planRepetition parts follow) after')
      rwa [settled]
  | @separated depth parts follow state middle after nodes nodes' run apart separates rest content
      separator =>
      rw [exacting.settle] at apart separates separator
      have welcomesContent := welcomesContent_of_separates follow separates
      obtain ⟨middle', run', unmoved'⟩ := content (clean.content _) welcomesContent unmoved
      have settled := settle_under leniency unmoved' welcomesContent
      obtain ⟨after', rest', unmoved''⟩ :=
        separator (clean.separator _) (welcomes.afterSeparator predictive) unmoved'
      rw [← joins_congr (same unmoved'), ← settled] at apart
      rw [← at?_congr (same unmoved'), ← settled] at separates
      rw [← settled] at rest'
      rw [← continues_congr (same unmoved'')]
      exact ⟨after', .separated run' apart separates rest', unmoved''⟩
  | @ended depth parts follow state middle after nodes nodes' run apart unseparated required rest
      content separator =>
      rw [exacting.settle] at apart unseparated separator rest
      have welcomesContent := rest.welcomesContent exacting (clean.separator _) welcomes
      obtain ⟨middle', run', unmoved'⟩ := content (clean.content _) welcomesContent unmoved
      have settled := settle_under leniency unmoved' welcomesContent
      obtain ⟨after', rest', unmoved''⟩ :=
        separator (clean.separator _) (welcomes.afterSeparator predictive) unmoved'
      rw [← joins_congr (same unmoved'), ← settled] at apart
      rw [← at?_congr (same unmoved'), ← settled] at unseparated
      rw [← settled] at rest'
      exact ⟨after', .ended run' apart unseparated required rest', unmoved''⟩
  | @closed depth parts follow state after nodes run apart unseparated optional content =>
      rw [exacting.settle] at apart unseparated welcomes ⊢
      have welcomesContent : parser.WelcomesContent after parts follow :=
        fun kind current => mem_afterContent.mpr (.inl (welcomes kind current))
      obtain ⟨after', run', unmoved'⟩ := content (clean.content _) welcomesContent unmoved
      have settled := settle_under leniency unmoved' welcomesContent
      rw [← joins_congr (same unmoved'), ← settled] at apart
      rw [← at?_congr (same unmoved'), ← settled] at unseparated
      refine ⟨_, .closed run' apart unseparated optional, ?_⟩
      change after.Unmoved
        ((parser.under leniency).settle (parser.planRepetition parts follow) after')
      rwa [settled]

theorem Finishes.under {announced : Bool} {run : Parser.Run}
    (finishes : parser.Finishes start announced run) (exacting : parser.Exacting start)
    (complete : run.parse.hasErrors = false)
    (whole : run.parse.nodes.filterMap consumed? = List.range parser.document.size)
    (leniency : Leniency) :
    ∃ run', (parser.under leniency).Finishes start announced run' ∧
      run'.parse.tree = run.parse.tree ∧ run'.parse.skipped = [] := by
  cases finishes with
  | @aborted expr found =>
      rw [Parse.hasErrors, finish, hasErrors_eq_any_leavesIn, leavesIn_missing] at complete
      simp [isMissing] at complete
  | @parsed child after run =>
      rw [Parse.hasErrors, finish, hasErrors_eq_any_leavesIn, leavesIn_nonTerminal] at complete
      rw [Parse.nodes, finish, filterMap_consumed?_walk, consumedIn, leavesIn_nonTerminal] at whole
      obtain ⟨skipped, spans⟩ := run.spans trivial
      have started : (parser.startState start announced).skipped = [] :=
        (parser.samePlace_observe (.initial announced)).skipped
      have dropped : after.skipped = [] := by
        rw [spans.skipped_eq, spans.strict exacting.exact, started, List.append_nil]
      -- The run took all tokens, so it stands at the end of the document.
      have ended : after.cursor = parser.document.size := by
        have covers := spans.covers
        rw [spans.strict exacting.exact, startState_cursor] at covers
        have taken := covers.taken_eq
        rw [consumedIn, Outcome.chains, whole, List.range_eq_range'] at taken
        simpa using (congrArg List.length taken).symm
      have clean : parser.Clean start (.chain (parser.grammar.ruleOf start) .empty)
          (.chain child) := by
        refine ⟨exacting.predictive.ordered.rule_lt start, ⟨_, .start⟩, trivial, ?_⟩
        rw [Outcome.chains]
        simpa [List.any_eq_false] using complete
      have welcomes : parser.Welcomes after (.chain (parser.grammar.ruleOf start) .empty)
          (.chain child) := by
        intro kind current
        exact ((cursor_lt_of_currentKind? current).ne ended).elim
      obtain ⟨after', run', unmoved⟩ := run.under exacting clean welcomes leniency (.refl _)
      have closed := (parser.under leniency).samePlace_closeFrame start false after'
      have swept : (parser.under leniency).sweep
          ((parser.under leniency).closeFrame start false after') =
            (parser.under leniency).closeFrame start false after' := by
        rw [sweep, closed.cursor, unmoved.cursor, ended]
        simp [Parser.under, skipRest]
      refine ⟨_, .parsed run', rfl, ?_⟩
      rw [swept]
      exact closed.skipped.trans ((by rw [unmoved] : after'.skipped = after.skipped).trans dropped)

/-- A text that needs no leniency has the same tree under every one. -/
theorem run?_lenient (grammar : Grammar) (document : Document) (leniency : Leniency)
    (start : NonTerminalId) (announced announced' : Bool) (built : grammar.Built)
    (terminating : ¬ grammar.LeftRecursive) (filled : grammar.ContentFilled)
    (strict : Parser.Run)
    (done : Parser.run? ⟨grammar, grammar.predict, document, ⟨false, false⟩⟩ start announced =
      some strict)
    (complete : strict.parse.hasErrors = false)
    (whole : strict.parse.nodes.filterMap consumed? = List.range document.size) :
    ∃ lenient,
      Parser.run? ⟨grammar, grammar.predict, document, leniency⟩ start announced' =
        some lenient ∧
      lenient.parse.tree = strict.parse.tree ∧ lenient.parse.skipped = [] := by
  have exacting : Exacting ⟨grammar, grammar.predict, document, ⟨false, false⟩⟩ start :=
    ⟨⟨built.ordered, rfl⟩, rfl, fun _ found => filled _ _ found⟩
  obtain ⟨run, done', finishes⟩ :=
    run?_finishes exacting.predictive terminating start announced
  obtain rfl := Option.some.inj (done.symm.trans done')
  obtain ⟨middle, finishes', tree, skipped⟩ := finishes.under exacting complete whole leniency
  obtain ⟨lenient, finishes'', tree', skipped'⟩ := finishes_announced announced' finishes'
  exact ⟨lenient, finishes''.run?_eq, tree'.trans tree, skipped'.trans skipped⟩

theorem contentFilled_bracketLists : Grammar.bracketLists.ContentFilled := by
  intro id parts found
  obtain ⟨_, rfl⟩ := (Grammar.choices_bracketLists id).2.2 parts found
  decide +kernel

theorem run?_lenient_bracketDocument :
    ∃ strict,
      Parser.run? ⟨Grammar.bracketLists, Grammar.bracketLists.predict, bracketDocument,
        ⟨false, false⟩⟩ 0 false = some strict ∧
      strict.parse.hasErrors = false ∧
      strict.parse.nodes.filterMap consumed? = List.range bracketDocument.size ∧
      ∃ lenient,
        Parser.run? ⟨Grammar.bracketLists, Grammar.bracketLists.predict, bracketDocument,
          .standard⟩ 0 true = some lenient ∧
        lenient.parse.tree = strict.parse.tree ∧ lenient.parse.skipped = [] := by
  have returns : (Parser.run? ⟨Grammar.bracketLists, Grammar.bracketLists.predict,
      bracketDocument, ⟨false, false⟩⟩ 0 false).isSome = true := by decide +kernel
  obtain ⟨strict, done⟩ := Option.isSome_iff_exists.mp returns
  have complete : strict.parse.hasErrors = false := by
    have evaluated : (Parser.run? ⟨Grammar.bracketLists, Grammar.bracketLists.predict,
        bracketDocument, ⟨false, false⟩⟩ 0 false).all (!·.parse.hasErrors) = true := by
      decide +kernel
    simpa [done] using evaluated
  have whole : strict.parse.nodes.filterMap consumed? = List.range bracketDocument.size := by
    have evaluated : (Parser.run? ⟨Grammar.bracketLists, Grammar.bracketLists.predict,
        bracketDocument, ⟨false, false⟩⟩ 0 false).all (fun run =>
          run.parse.nodes.filterMap consumed? = List.range bracketDocument.size) = true := by
      decide +kernel
    simpa [done] using evaluated
  exact ⟨strict, done, complete, whole,
    run?_lenient _ _ .standard 0 false true Grammar.built_bracketLists
      Grammar.not_leftRecursive_bracketLists contentFilled_bracketLists strict done complete whole⟩

end Parser

end Reparse
