import Reparse.Proofs.Parser.Misleading
import Reparse.Proofs.Parser.Padding
import Reparse.Proofs.Tree.Renumbering

/-!
# Runs on a padded document

The parsers of the plain and the padded document get to every task in the same gap between own
tokens.  Only behind a separator does the padded one decide within a gap.

Main statement: `Runs.comparable`.
-/

namespace Reparse

open Reparse.Tree

/-- The outcome with every token at another place. -/
@[simp]
def Outcome.renumber (place : TokenId → TokenId) : Outcome → Outcome
  | .chain nodes => .chain (renumberChain place nodes)
  | .node only => .node (only.renumber place)
  | .items found => .items (renumberChains place found)
  | .round found more => .round (renumberChains place found) more
  | .stopped stop => .stopped stop

namespace Outcome

variable {place : TokenId → TokenId} {found found' rest rest' : List (List Tree)}

theorem length_eq_of_items (same : items found' = (items found).renumber place) :
    found'.length = found.length := by
  rw [items.inj same, length_renumberChains]

variable (place rest rest') in
theorem items_append_eq_iff (length : found'.length = found.length) :
    items (found' ++ rest') = (items (found ++ rest)).renumber place ↔
      items found' = (items found).renumber place ∧ items rest' = (items rest).renumber place := by
  simp only [renumber, renumberChains_append, items.injEq]
  constructor
  · exact fun same => List.append_inj same (by simpa using length)
  · rintro ⟨rfl, rfl⟩
    rfl

end Outcome

namespace Task

/-- What may come after the task. -/
def follow : Task → KindSet
  | .chain _ follow | .element _ follow _ | .repetition _ follow | .lead _ follow
  | .rounds _ follow _ | .round _ follow => follow

/-- The same task with another number of rounds. -/
def recount (count : Nat) : Task → Task
  | .rounds parts follow _ => .rounds parts follow count
  | task => task

end Task

namespace Parser

variable {parser : Parser} {state after state' after' : ParseState}
  {place : TokenId → TokenId} {padded : Document}

theorem Predictive.reading (predictive : parser.Predictive) :
    (parser.reading padded).Predictive := ⟨predictive.ordered, predictive.predicted⟩

/-- The two parsers get to the task together. -/
def Abreast (parser : Parser) (place : TokenId → TokenId) (padded : Document)
    (state state' : ParseState) : Task → Prop
  | .chain .. | .rounds .. | .round .. => parser.SameGap place padded state state'
  | .element .. | .repetition .. | .lead .. => parser.Aligned place padded state state'

/-- Two runs come out the same just if the way is clear, and then they end in the same gap. -/
structure Compares (parser : Parser) (place : TokenId → TokenId) (padded : Document)
    (same clear : Prop) (after after' : ParseState) : Prop where
  same_iff : same ↔ clear
  gap : same → parser.SameGap place padded after after'

namespace Compares

variable {same clear first firstClear : Prop} {middle middle' : ParseState}

theorem of_gap (gap : parser.SameGap place padded after after') (isSame : same)
    (isClear : clear) : parser.Compares place padded same clear after after' :=
  ⟨iff_of_true isSame isClear, fun _ => gap⟩

theorem congr (compares : parser.Compares place padded first firstClear after after')
    (same_iff : same ↔ first) (clear_iff : clear ↔ firstClear) :
    parser.Compares place padded same clear after after' :=
  ⟨(same_iff.trans compares.same_iff).trans clear_iff.symm,
    fun isSame => compares.gap (same_iff.mp isSame)⟩

theorem map (compares : parser.Compares place padded same clear middle middle')
    (step : parser.SameGap place padded middle middle' →
      parser.SameGap place padded after after') :
    parser.Compares place padded same clear after after' :=
  ⟨compares.same_iff, fun isSame => step (compares.gap isSame)⟩

/-- What comes after a first part matters only if the first part came out the same. -/
theorem andThen (compares : parser.Compares place padded first firstClear middle middle')
    (same_first : same → first) (clear_first : clear → firstClear)
    (rest : first → firstClear → parser.SameGap place padded middle middle' →
      parser.Compares place padded same clear after after') :
    parser.Compares place padded same clear after after' := by
  by_cases isSame : first
  · exact rest isSame (compares.same_iff.mp isSame) (compares.gap isSame)
  · have differs : ¬ same := fun all => isSame (same_first all)
    have unclear : ¬ clear := fun all => isSame (compares.same_iff.mpr (clear_first all))
    exact ⟨iff_of_false differs unclear, fun all => (differs all).elim⟩

end Compares

/-! ## What rounds are made of -/

section Rounds

variable {depth count : Nat} {parts : Repetition} {follow : KindSet} {items : List (List Tree)}
  {outcome : Outcome} {content : List Tree} {middle : ParseState}

theorem Runs.length_lead
    (run : parser.Runs depth (.lead parts follow) state (.items items) after) :
    items.length = if parser.leads state (parser.planRepetition parts follow) then 1 else 0 := by
  cases run with
  | led leads => simp [leads]
  | unled unled => simp [unled]

theorem Runs.length_round {more : Bool}
    (run : parser.Runs depth (.round parts follow) state (.round items more) after) :
    0 < items.length ∧ items.length ≤ 2 ∧ (more = true → items.length = 2) := by
  cases run <;> simp

theorem Runs.length_rounds
    (run : parser.Runs depth (.rounds parts follow count) state (.items items) after) :
    0 < items.length := by
  cases run with
  | lastRound round | stuckRound round => exact round.length_round.1
  | moreRounds round =>
      rw [List.length_append]
      exact Nat.add_pos_left round.length_round.1 _

theorem Runs.exists_content
    (run : parser.Runs depth (.round parts follow) state outcome after)
    (succeeds : outcome.Succeeds) :
    ∃ content middle rest more,
      parser.Runs depth (.chain parts.content (parser.planRepetition parts follow).afterContent)
        state (.chain content) middle ∧ outcome = .round (content :: rest) more := by
  cases run with
  | joined content | separated content | ended content | closed content =>
      exact ⟨_, _, _, _, content, rfl⟩
  | contentStopped | separatorStopped => exact succeeds.elim

theorem Runs.exists_separator
    (run : parser.Runs depth (.round parts follow) state outcome after)
    (succeeds : outcome.Succeeds)
    (contentRun : parser.Runs depth
      (.chain parts.content (parser.planRepetition parts follow).afterContent) state
      (.chain content) middle)
    (apart : parser.joins (parser.settle (parser.planRepetition parts follow) middle)
      (parser.planRepetition parts follow) = false)
    (follows : parser.at? (parser.settle (parser.planRepetition parts follow) middle)
        (parser.prediction.firstOf parts.separator).tokens = true ∨ parts.trailing = .required) :
    ∃ separator, parser.Runs depth
      (.chain parts.separator (parser.planRepetition parts follow).afterSeparator)
      (parser.settle (parser.planRepetition parts follow) middle) (.chain separator) after := by
  cases run with
  | joined content' joins =>
      obtain ⟨-, rfl⟩ := contentRun.unique content'
      simp [joins] at apart
  | separated content' _ _ separator | ended content' _ _ _ separator =>
      obtain ⟨-, rfl⟩ := contentRun.unique content'
      exact ⟨_, separator⟩
  | closed content' _ unseparated optional =>
      obtain ⟨-, rfl⟩ := contentRun.unique content'
      simp [unseparated, optional] at follows
  | contentStopped | separatorStopped => exact succeeds.elim

end Rounds

theorem Aligned.length_lead {depth depth' : Nat} {parts : Repetition} {follow : KindSet}
    {items items' : List (List Tree)} {middle middle' : ParseState}
    (pads : Pads parser.grammar place parser.document padded)
    (aligned : parser.Aligned place padded state state')
    (run : parser.Runs depth (.lead parts follow) state (.items items) middle)
    (run' : (parser.reading padded).Runs depth' (.lead parts follow) state' (.items items')
      middle') :
    items'.length = items.length := by
  have leads : (parser.reading padded).leads state'
      ((parser.reading padded).planRepetition parts follow) =
        parser.leads state (parser.planRepetition parts follow) :=
    leads_congr (aligned.currentKind? pads) _
  rw [run'.length_lead, run.length_lead, leads]

/-- Behind a separator the parsers decide alike just if the padded one sees the next own token. -/
theorem SameGap.continues_eq_iff (parts : Repetition) (follow : KindSet)
    (predictive : parser.Predictive) (pads : Pads parser.grammar place parser.document padded)
    (gap : parser.SameGap place padded state state') :
    (parser.reading padded).continues state' (parser.planRepetition parts follow) =
        parser.continues state (parser.planRepetition parts follow) ↔
      ¬ ((parser.reading padded).continues state' (parser.planRepetition parts follow) = false ∧
        ∃ kind, Parser.nextOwn? place parser.document state'.cursor = some kind ∧
          kind ∈ (parser.prediction.firstOf parts.content).tokens) := by
  rw [gap.nextOwn?, ← at?_iff]
  cases continues' : (parser.reading padded).continues state' (parser.planRepetition parts follow)
  case false =>
    have optional : parts.trailing ≠ .prohibited := by
      intro prohibited
      simp [continues, planRepetition, prohibited] at continues'
    simp [continues, planRepetition, optional]
  case true =>
    simp only [Bool.true_eq_false, false_and, not_false_eq_true, iff_true]
    rcases Bool.or_eq_true_iff.mp continues' with starts | prohibited
    · have known : ∀ {kind}, padded.kind? state'.cursor = some kind →
          kind ∈ parser.grammar.kinds := by
        intro kind here
        obtain ⟨kind', here', starts⟩ := at?_iff.mp starts
        rw [gap.stands'.currentKind?] at here'
        obtain rfl : kind = kind' := Option.some.inj (here.symm.trans here')
        simp only [planRepetition, predictive.predicted] at starts
        exact Grammar.knows_firstOf kind starts
      rw [← continues', continues_congr ((gap.aligned pads known).currentKind? pads)]
    · simp [continues, prohibited]

/-! ## Runs compared -/

/-- Every run of the padded document that gets to the task in the same gap compares with what the
plain one comes to. -/
def Comparable (parser : Parser) (place : TokenId → TokenId) (padded : Document) (task : Task)
    (state : ParseState) (outcome : Outcome) (after : ParseState) : Prop :=
  ∀ (count : Nat) ⦃depth : Nat⦄ ⦃state' : ParseState⦄ ⦃outcome' : Outcome⦄ ⦃after' : ParseState⦄,
    parser.Abreast place padded state state' task →
    (parser.reading padded).Runs depth (task.recount count) state' outcome' after' →
    outcome'.Succeeds →
    parser.Compares place padded (outcome' = outcome.renumber place)
      ((parser.reading padded).Clear (nextOwn? place parser.document)
        (task.recount count, state')) after after'

namespace Comparable

variable {depth count : Nat} {id next : ExprId} {follow : KindSet} {parts : Repetition}
  {name : NonTerminalId} {node : Tree} {nodes child content separator : List Tree}
  {items rest : List (List Tree)} {middle : ParseState}

theorem last (overlooks : parser.Overlooks place padded) (known : parser.grammar.Knows follow)
    (last : (parser.grammar.expr id).next = none)
    (element : parser.Comparable place padded
      (.element id (parser.followOfElement id follow) (parser.grammar.expr id).element)
      (parser.arrive id follow state) (.node node) after) :
    parser.Comparable place padded (.chain id follow) state (.chain [node]) after := by
  intro count depth state' outcome' after' gap run' succeeds'
  cases run' with
  | last _ run' =>
      have compares := element 0 (SameGap.arrive overlooks known gap) run' trivial
      exact compares.congr (by simp) (clear_last last)
  | cons following => exact absurd (last.symm.trans following) (by simp)
  | _ => exact succeeds'.elim

theorem cons (overlooks : parser.Overlooks place padded) (known : parser.grammar.Knows follow)
    (following : (parser.grammar.expr id).next = some next)
    (element : parser.Comparable place padded
      (.element id (parser.followOfElement id follow) (parser.grammar.expr id).element)
      (parser.arrive id follow state) (.node node) middle)
    (rest : parser.Comparable place padded (.chain next follow) middle (.chain nodes) after) :
    parser.Comparable place padded (.chain id follow) state (.chain (node :: nodes)) after := by
  intro count depth state' outcome' after' gap run' succeeds'
  cases run' with
  | last last => exact absurd (last.symm.trans following) (by simp)
  | cons following' run' rest' =>
      obtain rfl := Option.some.inj (following.symm.trans following')
      have compares := element 0 (SameGap.arrive overlooks known gap) run' trivial
      have clear_iff := clear_cons (nextOwn? place parser.document) following' run'
      apply compares.andThen
      · simp +contextual
      · exact fun clear => (clear_iff.mp clear).1
      · intro same clear gap
        have compares := rest 0 gap rest' trivial
        refine compares.congr ?_ (clear_iff.trans (and_iff_right clear))
        simp_all
  | _ => exact succeeds'.elim

theorem token {kind : TokenKind} (overlooks : parser.Overlooks place padded)
    (current : parser.currentKind? state = some kind) :
    parser.Comparable place padded (.element id follow (.token kind)) state
      (.node (.token id state.cursor)) (parser.advance state) := by
  intro count depth state' outcome' after' aligned run' succeeds'
  have inside := cursor_lt_of_currentKind? current
  have current' := (aligned.currentKind? overlooks.pads).trans current
  obtain ⟨rfl, rfl⟩ := run'.unique (.token current')
  refine .of_gap (aligned.advance overlooks.pads current) ?_ clear_token
  simp [aligned.at_own inside]

theorem missing {element : Element} (overlooks : parser.Overlooks place padded)
    (tolerant : parser.leniency.toleratesErrors = true) (lacks : parser.Lacks state element) :
    parser.Comparable place padded (.element id follow element) state
      (.node (.missing id (parser.currentId? state))) (parser.noteMissing id state) := by
  intro count depth state' outcome' after' aligned run' succeeds'
  have lacks' : (parser.reading padded).Lacks state' element :=
    lacks.congr rfl rfl (aligned.currentKind? overlooks.pads)
  obtain ⟨rfl, rfl⟩ := run'.unique (.missing tolerant lacks')
  refine .of_gap (aligned.noteMissing _) ?_ (clear_of_lacks lacks')
  simp [aligned.currentId? overlooks.pads]

theorem entered (overlooks : parser.Overlooks place padded)
    (starts : parser.at? state
      (parser.prediction.firstOf (parser.grammar.ruleOf name)).tokens = true)
    (rule : parser.Comparable place padded (.chain (parser.grammar.ruleOf name) follow)
      (parser.openFrame name state) (.chain child) after) :
    parser.Comparable place padded (.element id follow (.nonTerminal name)) state
      (.node (.nonTerminal id name child)) (parser.closeFrame name false after) := by
  intro count depth state' outcome' after' aligned run' succeeds'
  have starts' := (at?_congr (aligned.currentKind? overlooks.pads) _).trans starts
  cases run' with
  | entered _ run' =>
      have compares := rule 0 (aligned.toSameGap.openFrame name) run' trivial
      exact (compares.map (SameGap.closeFrame name)).congr (by simp) (clear_entered starts')
  | absent other => exact absurd (starts'.symm.trans other) (by simp)
  | missing _ lacks => exact absurd (starts'.symm.trans lacks.1) (by simp)
  | _ => exact succeeds'.elim

theorem absent (overlooks : parser.Overlooks place padded)
    (other : parser.at? state
      (parser.prediction.firstOf (parser.grammar.ruleOf name)).tokens = false)
    (nullable : (parser.prediction.firstOf (parser.grammar.ruleOf name)).nullable = true) :
    parser.Comparable place padded (.element id follow (.nonTerminal name)) state
      (.node (.nonTerminal id name [])) state := by
  intro count depth state' outcome' after' aligned run' succeeds'
  have other' := (at?_congr (aligned.currentKind? overlooks.pads) _).trans other
  obtain ⟨rfl, rfl⟩ := run'.unique (.absent other' nullable)
  exact .of_gap aligned.toSameGap (by simp) (clear_absent other')

theorem empty :
    parser.Comparable place padded (.element id follow .empty) state (.node (.empty id)) state := by
  intro count depth state' outcome' after' aligned run' succeeds'
  obtain ⟨rfl, rfl⟩ := run'.unique .empty
  exact .of_gap aligned.toSameGap (by simp) clear_empty

theorem optional {inner : ExprId} (overlooks : parser.Overlooks place padded)
    (starts : parser.at? state (parser.prediction.firstOf inner).tokens = true)
    (part : parser.Comparable place padded (.chain inner follow) state (.chain child) after) :
    parser.Comparable place padded (.element id follow (.optional inner)) state
      (.node (.optional id child)) after := by
  intro count depth state' outcome' after' aligned run' succeeds'
  have starts' := (at?_congr (aligned.currentKind? overlooks.pads) _).trans starts
  cases run' with
  | optional _ run' =>
      have compares := part 0 aligned.toSameGap run' trivial
      exact compares.congr (by simp) (clear_optional starts')
  | optionalAbsent other => exact absurd (starts'.symm.trans other) (by simp)
  | missing _ lacks => exact lacks.elim
  | _ => exact succeeds'.elim

theorem optionalAbsent {inner : ExprId} (overlooks : parser.Overlooks place padded)
    (other : parser.at? state (parser.prediction.firstOf inner).tokens = false) :
    parser.Comparable place padded (.element id follow (.optional inner)) state
      (.node (.optional id [])) state := by
  intro count depth state' outcome' after' aligned run' succeeds'
  have other' := (at?_congr (aligned.currentKind? overlooks.pads) _).trans other
  obtain ⟨rfl, rfl⟩ := run'.unique (.optionalAbsent other')
  exact .of_gap aligned.toSameGap (by simp) (clear_optionalAbsent other')

theorem alternation {branch : ExprId} {branches : List ExprId}
    (overlooks : parser.Overlooks place padded)
    (chosen : parser.chooseBranch state branches = some branch)
    (part : parser.Comparable place padded (.chain branch follow) state (.chain child) after) :
    parser.Comparable place padded (.element id follow (.alternation branches)) state
      (.node (.alternation id child)) after := by
  intro count depth state' outcome' after' aligned run' succeeds'
  have prediction : (parser.reading padded).prediction = parser.prediction := rfl
  have chosen' := (chooseBranch_congr prediction (aligned.currentKind? overlooks.pads) _).trans
    chosen
  cases run' with
  | alternation chosen'' run' =>
      obtain rfl := Option.some.inj (chosen'.symm.trans chosen'')
      have compares := part 0 aligned.toSameGap run' trivial
      exact compares.congr (by simp) (clear_alternation chosen')
  | missing _ lacks => exact absurd (chosen'.symm.trans lacks) (by simp)
  | _ => exact succeeds'.elim

theorem repetition
    (part : parser.Comparable place padded (.repetition parts follow) state (.items items) after) :
    parser.Comparable place padded (.element id follow (.repetition parts)) state
      (.node (.repetition id items)) after := by
  intro count depth state' outcome' after' aligned run' succeeds'
  cases run' with
  | repetition run' =>
      have compares := part 0 aligned run' trivial
      exact compares.congr (by simp) clear_repetition
  | missing _ lacks => exact lacks.elim
  | _ => exact succeeds'.elim

theorem led (overlooks : parser.Overlooks place padded)
    (leads : parser.leads state (parser.planRepetition parts follow) = true)
    (part : parser.Comparable place padded
      (.chain parts.separator (parser.planRepetition parts follow).afterSeparator) state
      (.chain separator) after) :
    parser.Comparable place padded (.lead parts follow) state (.items [separator]) after := by
  intro count depth state' outcome' after' aligned run' succeeds'
  have leads' := (leads_congr (aligned.currentKind? overlooks.pads) _).trans leads
  cases run' with
  | led _ run' =>
      have compares := part 0 aligned.toSameGap run' trivial
      exact compares.congr (by simp) (clear_led leads')
  | unled unled => exact absurd (leads'.symm.trans unled) (by simp)
  | _ => exact succeeds'.elim

theorem unled (overlooks : parser.Overlooks place padded)
    (unled : parser.leads state (parser.planRepetition parts follow) = false) :
    parser.Comparable place padded (.lead parts follow) state (.items []) state := by
  intro count depth state' outcome' after' aligned run' succeeds'
  have unled' := (leads_congr (aligned.currentKind? overlooks.pads) _).trans unled
  obtain ⟨rfl, rfl⟩ := run'.unique (.unled unled')
  exact .of_gap aligned.toSameGap (by simp) (clear_unled unled')

/-- If the plain repetition ends behind a leading separator, the padded one must not see more. -/
theorem leadOnly (overlooks : parser.Overlooks place padded)
    (run : parser.Runs depth (.lead parts follow) state (.items items) after)
    (ended : parser.currentKind? after = none)
    (lead : parser.Comparable place padded (.lead parts follow) state (.items items) after) :
    parser.Comparable place padded (.repetition parts follow) state (.items items) after := by
  intro count depth state' outcome' after' aligned run' succeeds'
  cases run' with
  | leadOnly run' ended' =>
      have compares := lead 0 aligned run' trivial
      exact compares.congr Iff.rfl (clear_leadOnly run' ended')
  | @filled _ _ _ _ middle' _ items' rest' run' more' roundsRun =>
      have compares := lead 0 aligned run' trivial
      have clear_iff := clear_filled (nextOwn? place parser.document) run' more' 0
      have length := aligned.length_lead overlooks.pads run run'
      have differs : ¬ Outcome.items (items' ++ rest') = (Outcome.items items).renumber place := by
        intro same
        have lengths := Outcome.length_eq_of_items same
        have something := roundsRun.length_rounds
        rw [List.length_append] at lengths
        lia
      apply compares.andThen
      · exact fun same => (differs same).elim
      · exact fun clear => (clear_iff.mp clear).1
      · intro _ _ gap
        -- Without a leading separator both stand where they began, at the same token.
        refine ⟨iff_of_false differs fun clear => ?_, fun same => (differs same).elim⟩
        refine (clear_iff.mp clear).2.1 ⟨?_, gap.nextOwn?.trans ended⟩
        by_contra unled'
        rw [Bool.not_eq_true] at unled'
        have unled := (leads_congr (aligned.currentKind? overlooks.pads) _).symm.trans unled'
        obtain ⟨-, rfl⟩ := run'.unique (.unled unled')
        obtain ⟨-, rfl⟩ := run.unique (.unled unled)
        exact more' ((aligned.currentKind? overlooks.pads).trans ended)
  | _ => exact succeeds'.elim

theorem filled (overlooks : parser.Overlooks place padded)
    (run : parser.Runs depth (.lead parts follow) state (.items items) middle)
    (more : parser.currentKind? middle ≠ none)
    (roundsRun : parser.Runs depth (.rounds parts follow count) middle (.items rest) after)
    (lead : parser.Comparable place padded (.lead parts follow) state (.items items) middle)
    (rounds : parser.Comparable place padded (.rounds parts follow count) middle (.items rest)
      after) :
    parser.Comparable place padded (.repetition parts follow) state (.items (items ++ rest))
      after := by
  intro count' depth state' outcome' after' aligned run' succeeds'
  cases run' with
  | leadOnly run' ended' =>
      have compares := lead 0 aligned run' trivial
      have length := aligned.length_lead overlooks.pads run run'
      apply compares.andThen
      · intro same
        have lengths := Outcome.length_eq_of_items same
        have something := roundsRun.length_rounds
        rw [List.length_append] at lengths
        lia
      · exact (clear_leadOnly run' ended').mp
      · exact fun _ _ gap => (gap.currentKind?_ne_none overlooks.pads more ended').elim
  | @filled _ _ _ _ middle' _ _ tail' run' more' rest' =>
      have compares := lead 0 aligned run' trivial
      have length := aligned.length_lead overlooks.pads run run'
      have clear_iff := clear_filled (nextOwn? place parser.document) run' more'
        (padded.size - middle'.cursor + 1)
      have same_iff := Outcome.items_append_eq_iff place rest tail' length
      apply compares.andThen
      · exact fun same => (same_iff.mp same).1
      · exact fun clear => (clear_iff.mp clear).1
      · intro same clear gap
        have compares := rounds _ gap rest' trivial
        have ahead : nextOwn? place parser.document middle'.cursor ≠ none :=
          gap.nextOwn?.trans_ne more
        exact compares.congr (same_iff.trans (and_iff_right same)) (clear_iff.trans
          ((and_iff_right clear).trans (and_iff_right fun misled => ahead misled.2)))
  | _ => exact succeeds'.elim

theorem lastRound (predictive : parser.Predictive)
    (run : parser.Runs depth (.round parts follow) state (.round items false) after)
    (round : parser.Comparable place padded (.round parts follow) state (.round items false)
      after) :
    parser.Comparable place padded (.rounds parts follow count) state (.items items) after := by
  intro count' depth state' outcome' after' gap run' succeeds'
  cases run' with
  | lastRound run' =>
      have compares := round 0 gap run' trivial
      exact compares.congr (by simp) (clear_lastRound run')
  | stuckRound run' stuck =>
      exact (run'.round_moves predictive.reading stuck).elim
  | moreRounds run' moved' rest' =>
      have compares := round 0 gap run' trivial
      apply compares.andThen
      · intro same
        have lengths := Outcome.length_eq_of_items same
        have few := run.length_round
        have many := run'.length_round
        have something := rest'.length_rounds
        rw [List.length_append] at lengths
        lia
      · exact fun clear => ((clear_moreRounds _ _ 0 run' moved').mp clear).1
      · simp
  | _ => exact succeeds'.elim

theorem moreRounds (predictive : parser.Predictive)
    (run : parser.Runs depth (.round parts follow) state (.round items true) middle)
    (roundsRun : parser.Runs depth (.rounds parts follow count) middle (.items rest) after)
    (round : parser.Comparable place padded (.round parts follow) state (.round items true)
      middle)
    (rounds : parser.Comparable place padded (.rounds parts follow count) middle (.items rest)
      after) :
    parser.Comparable place padded (.rounds parts follow (count + 1)) state
      (.items (items ++ rest)) after := by
  intro count' depth state' outcome' after' gap run' succeeds'
  cases run' with
  | lastRound run' =>
      have compares := round 0 gap run' trivial
      apply compares.andThen
      · intro same
        have lengths := Outcome.length_eq_of_items same
        have many := run.length_round
        have few := run'.length_round
        have something := roundsRun.length_rounds
        rw [List.length_append] at lengths
        lia
      · exact (clear_lastRound run').mp
      · simp
  | stuckRound run' stuck =>
      exact (run'.round_moves predictive.reading stuck).elim
  | @moreRounds _ count' _ _ _ _ _ _ tail' run' moved' rest' =>
      have compares := round 0 gap run' trivial
      have clear_iff := clear_moreRounds (nextOwn? place parser.document) (count' + 1) count' run'
        moved'
      have length := (run'.length_round.2.2 rfl).trans (run.length_round.2.2 rfl).symm
      have same_iff := Outcome.items_append_eq_iff place rest tail' length
      apply compares.andThen
      · intro same
        rw [Outcome.items.inj (same_iff.mp same).1]
        rfl
      · exact fun clear => (clear_iff.mp clear).1
      · intro same clear gap
        have compares := rounds count' gap rest' trivial
        refine compares.congr (same_iff.trans (and_iff_right ?_))
          (clear_iff.trans (and_iff_right clear))
        simpa using same
  | _ => exact succeeds'.elim

section Round

variable (overlooks : parser.Overlooks place padded) (known : parser.grammar.Knows follow)
  (contents : parser.Comparable place padded
    (.chain parts.content (parser.planRepetition parts follow).afterContent) state
    (.chain content) middle)

include overlooks known contents

theorem round {more : Bool}
    (step : ∀ {depth : Nat} {state' middle' after' : ParseState} {content' : List Tree}
      {outcome' : Outcome},
      (parser.reading padded).Runs depth (.round parts follow) state' outcome' after' →
      outcome'.Succeeds →
      (parser.reading padded).Runs depth
        (.chain parts.content (parser.planRepetition parts follow).afterContent) state'
        (.chain content') middle' →
      content' = renumberChain place content →
      (parser.reading padded).Clear (nextOwn? place parser.document)
        (.chain parts.content (parser.planRepetition parts follow).afterContent, state') →
      parser.Aligned place padded (parser.settle (parser.planRepetition parts follow) middle)
        ((parser.reading padded).settle (parser.planRepetition parts follow) middle') →
      parser.Compares place padded
        (outcome' = (Outcome.round (content :: items) more).renumber place)
        ((parser.reading padded).Clear (nextOwn? place parser.document)
          (.round parts follow, state')) after after') :
    parser.Comparable place padded (.round parts follow) state (.round (content :: items) more)
      after := by
  intro count depth state' outcome' after' gap run' succeeds'
  obtain ⟨content', middle', rest', more', contentRun, outcome_eq⟩ := run'.exists_content succeeds'
  have compares := contents 0 gap contentRun trivial
  apply compares.andThen
  · intro same
    rw [outcome_eq] at same
    simp only [Outcome.renumber, renumberChains, Outcome.round.injEq, List.cons.injEq] at same
    simp [same.1.1]
  · exact fun clear => (clear_iff.mp clear).2 _ .content
  · intro same clear gap
    exact step run' succeeds' contentRun (by simpa using same) clear (gap.settle overlooks known)

theorem joined
    (joins : parser.joins (parser.settle (parser.planRepetition parts follow) middle)
      (parser.planRepetition parts follow) = true) :
    parser.Comparable place padded (.round parts follow) state
      (.round [content, [.empty parts.separator]] true)
      (parser.settle (parser.planRepetition parts follow) middle) := by
  apply contents.round overlooks known
  intro depth state' middle' after' content' outcome' run' succeeds' contentRun same clear aligned
  have joins' := (joins_congr (aligned.currentKind? overlooks.pads) _).trans joins
  obtain ⟨rfl, rfl⟩ := run'.unique (.joined contentRun joins')
  exact .of_gap aligned.toSameGap (by simp [same])
    ((clear_content contentRun (.inl joins')).mpr clear)

theorem closed
    (apart : parser.joins (parser.settle (parser.planRepetition parts follow) middle)
      (parser.planRepetition parts follow) = false)
    (unseparated : parser.at? (parser.settle (parser.planRepetition parts follow) middle)
      (parser.prediction.firstOf parts.separator).tokens = false)
    (optional : parts.trailing ≠ .required) :
    parser.Comparable place padded (.round parts follow) state (.round [content] false)
      (parser.settle (parser.planRepetition parts follow) middle) := by
  apply contents.round overlooks known
  intro depth state' middle' after' content' outcome' run' succeeds' contentRun same clear aligned
  have apart' := (joins_congr (aligned.currentKind? overlooks.pads) _).trans apart
  have unseparated' := (at?_congr (aligned.currentKind? overlooks.pads) _).trans unseparated
  obtain ⟨rfl, rfl⟩ := run'.unique (.closed contentRun apart' unseparated' optional)
  exact .of_gap aligned.toSameGap (by simp [same])
    ((clear_content contentRun (.inr ⟨unseparated', optional⟩)).mpr clear)

theorem ended
    (apart : parser.joins (parser.settle (parser.planRepetition parts follow) middle)
      (parser.planRepetition parts follow) = false)
    (unseparated : parser.at? (parser.settle (parser.planRepetition parts follow) middle)
      (parser.prediction.firstOf parts.separator).tokens = false)
    (required : parts.trailing = .required)
    (separators : parser.Comparable place padded
      (.chain parts.separator (parser.planRepetition parts follow).afterSeparator)
      (parser.settle (parser.planRepetition parts follow) middle) (.chain separator) after) :
    parser.Comparable place padded (.round parts follow) state
      (.round [content, separator] false) after := by
  apply contents.round overlooks known
  intro depth state' middle' after' content' outcome' run' succeeds' contentRun same clear aligned
  have apart' := (joins_congr (aligned.currentKind? overlooks.pads) _).trans apart
  have unseparated' := (at?_congr (aligned.currentKind? overlooks.pads) _).trans unseparated
  obtain ⟨separator', separatorRun⟩ :=
    run'.exists_separator succeeds' contentRun apart' (.inr required)
  obtain ⟨rfl, -⟩ := run'.unique (.ended contentRun apart' unseparated' required separatorRun)
  have compares := separators 0 aligned.toSameGap separatorRun trivial
  exact compares.congr (by simp [same])
    ((clear_ended contentRun apart' unseparated' required).trans (and_iff_right clear))

theorem separated
    (apart : parser.joins (parser.settle (parser.planRepetition parts follow) middle)
      (parser.planRepetition parts follow) = false)
    (separates : parser.at? (parser.settle (parser.planRepetition parts follow) middle)
      (parser.prediction.firstOf parts.separator).tokens = true)
    (separators : parser.Comparable place padded
      (.chain parts.separator (parser.planRepetition parts follow).afterSeparator)
      (parser.settle (parser.planRepetition parts follow) middle) (.chain separator) after) :
    parser.Comparable place padded (.round parts follow) state
      (.round [content, separator]
        (parser.continues after (parser.planRepetition parts follow))) after := by
  apply contents.round overlooks known
  intro depth state' middle' after' content' outcome' run' succeeds' contentRun same clear aligned
  have apart' := (joins_congr (aligned.currentKind? overlooks.pads) _).trans apart
  have separates' := (at?_congr (aligned.currentKind? overlooks.pads) _).trans separates
  obtain ⟨separator', separatorRun⟩ :=
    run'.exists_separator succeeds' contentRun apart' (.inl separates')
  obtain ⟨rfl, -⟩ := run'.unique (.separated contentRun apart' separates' separatorRun)
  have compares := separators 0 aligned.toSameGap separatorRun trivial
  have clear_iff := clear_separated (nextOwn? place parser.document) contentRun apart'
    separates' separatorRun
  apply compares.andThen
  · simp +contextual
  · exact fun clear => (clear_iff.mp clear).2.1
  · intro same_separator clear_separator gap
    have decides := gap.continues_eq_iff parts follow overlooks.predictive overlooks.pads
    have clear_iff := clear_iff.trans ((and_iff_right clear).trans (and_iff_right clear_separator))
    refine ⟨Iff.trans ?_ (decides.trans clear_iff.symm), fun _ => gap⟩
    have planned : (parser.reading padded).planRepetition parts follow =
      parser.planRepetition parts follow := rfl
    rw [Outcome.chain.inj same_separator, same, planned]
    simp

end Round

end Comparable

/-- In the plain document a task comes to what every run of the padded one compares with. -/
theorem Runs.comparable {depth : Nat} {task : Task} {outcome : Outcome}
    (overlooks : parser.Overlooks place padded)
    (run : parser.Runs depth task state outcome after)
    (within : task.Within parser.grammar parser.grammar.exprs.size)
    (known : parser.grammar.Knows task.follow) (succeeds : outcome.Succeeds) :
    parser.Comparable place padded task state outcome after := by
  have predictive := overlooks.predictive
  have ordered := predictive.ordered
  induction run with
  | last last _ element =>
      exact .last overlooks known last (element (ordered.within_element _ within.le)
        (predictive.knows_followOfElement known) trivial)
  | cons following _ _ element rest =>
      exact .cons overlooks known following
        (element (ordered.within_element _ within.le) (predictive.knows_followOfElement known)
          trivial)
        (rest ((ordered.next_lt following).trans within) known trivial)
  | token current => exact .token overlooks current
  | missing tolerant lacks => exact .missing overlooks tolerant lacks
  | entered starts _ rule =>
      exact .entered overlooks starts (rule (ordered.rule_lt _) known trivial)
  | absent other nullable => exact .absent overlooks other nullable
  | empty => exact .empty
  | optional starts _ part =>
      exact .optional overlooks starts (part (within.1 _ (by simp [Element.parts])) known trivial)
  | optionalAbsent other => exact .optionalAbsent overlooks other
  | alternation chosen _ part =>
      exact .alternation overlooks chosen
        (part (within.1 _ (chooseBranch_eq_some chosen).1) known trivial)
  | repetition _ items =>
      exact .repetition (items
        ⟨within.1 _ (by simp [Element.parts]), within.1 _ (by simp [Element.parts])⟩ known trivial)
  | led leads _ separator =>
      exact .led overlooks leads
        (separator within.2 (predictive.knows_afterSeparator known) trivial)
  | unled unled => exact .unled overlooks unled
  | leadOnly run ended lead => exact .leadOnly overlooks run ended (lead within known trivial)
  | filled run more roundsRun lead rounds =>
      exact .filled overlooks run more roundsRun (lead within known trivial)
        (rounds within known trivial)
  | lastRound run round => exact .lastRound predictive run (round within known trivial)
  | stuckRound run stuck => exact (run.round_moves predictive stuck).elim
  | moreRounds run _ roundsRun round rounds =>
      exact .moreRounds predictive run roundsRun (round within known trivial)
        (rounds within known trivial)
  | joined _ joins content =>
      exact .joined overlooks known
        (content within.1 (predictive.knows_afterContent known) trivial) joins
  | separated _ apart separates _ content separator =>
      exact .separated overlooks known
        (content within.1 (predictive.knows_afterContent known) trivial) apart separates
        (separator within.2 (predictive.knows_afterSeparator known) trivial)
  | ended _ apart unseparated required _ content separator =>
      exact .ended overlooks known
        (content within.1 (predictive.knows_afterContent known) trivial) apart unseparated required
        (separator within.2 (predictive.knows_afterSeparator known) trivial)
  | closed _ apart unseparated optional content =>
      exact .closed overlooks known
        (content within.1 (predictive.knows_afterContent known) trivial) apart unseparated optional
  | _ => exact succeeds.elim

end Parser

end Reparse
