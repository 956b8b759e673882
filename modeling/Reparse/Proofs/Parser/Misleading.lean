import Reparse.Proofs.Parser.Calls

/-!
# Where the descent is misled behind a separator

Behind a separator the descent decides without skipping whether a content has to come.  So an
unknown token may stand in the place of the one that should decide.
-/

namespace Reparse

/-- Separators stand between contents only. -/
def Repetition.ProhibitsEnds (parts : Repetition) : Prop :=
  parts.leading = .prohibited ∧ parts.trailing = .prohibited

/-- No repetition of the grammar may begin or end with a separator. -/
def Grammar.ProhibitsEnds (grammar : Grammar) : Prop :=
  ∀ id parts, (grammar.expr id).element = .repetition parts → parts.ProhibitsEnds

/-- A repetition that the task is about may not begin or end with a separator. -/
def Task.ProhibitsEnds : Task → Prop
  | .chain .. => True
  | .element _ _ own => ∀ parts, own = .repetition parts → parts.ProhibitsEnds
  | .repetition parts _ | .lead parts _ | .rounds parts _ _ | .round parts _ => parts.ProhibitsEnds

namespace Parser

variable {parser : Parser} {next? : TokenId → Option TokenKind} {state after : ParseState}

/-- Behind a separator the parser does not see the token by which it should decide.  That token is
told by the function for every place of the document. -/
inductive Misled (parser : Parser) (next? : TokenId → Option TokenKind) :
    Task × ParseState → Prop where
  /-- Rounds are begun behind a leading separator, though there is nothing left for them. -/
  | leading {depth : Nat} {parts : Repetition} {follow : KindSet} {state middle : ParseState}
      {items : List (List Tree)} :
      parser.leads state (parser.planRepetition parts follow) = true →
      parser.Runs depth (.lead parts follow) state (.items items) middle →
      parser.currentKind? middle ≠ none →
      next? middle.cursor = none →
      Misled parser next? (.repetition parts follow, state)
  /-- A separator is taken for a trailing one, though a content comes behind it. -/
  | trailing {depth : Nat} {parts : Repetition} {follow : KindSet}
      {state middle after : ParseState} {content separator : List Tree} {kind : TokenKind} :
      parser.Runs depth (.chain parts.content (parser.planRepetition parts follow).afterContent)
        state (.chain content) middle →
      parser.joins (parser.settle (parser.planRepetition parts follow) middle)
        (parser.planRepetition parts follow) = false →
      parser.at? (parser.settle (parser.planRepetition parts follow) middle)
        (parser.prediction.firstOf parts.separator).tokens = true →
      parser.Runs depth
        (.chain parts.separator (parser.planRepetition parts follow).afterSeparator)
        (parser.settle (parser.planRepetition parts follow) middle) (.chain separator) after →
      parser.continues after (parser.planRepetition parts follow) = false →
      next? after.cursor = some kind →
      kind ∈ (parser.prediction.firstOf parts.content).tokens →
      Misled parser next? (.round parts follow, state)

/-- The parser is not misled in the task, nor in any that is called on the way. -/
def Clear (parser : Parser) (next? : TokenId → Option TokenKind) (job : Task × ParseState) : Prop :=
  ∀ reached, Relation.ReflTransGen parser.Calls job reached → ¬ parser.Misled next? reached

theorem clear_iff {job : Task × ParseState} :
    parser.Clear next? job ↔ ¬ parser.Misled next? job ∧
      ∀ callee, parser.Calls job callee → parser.Clear next? callee := by
  constructor
  · exact fun clear => ⟨clear job .refl, fun callee call reached path =>
      clear reached (path.head call)⟩
  · rintro ⟨unmisled, clear⟩ reached path
    rcases path.cases_head with rfl | ⟨callee, call, rest⟩
    · exact unmisled
    · exact clear callee call reached rest

/-! ## Clear tasks -/

section Tasks

variable {id next : ExprId} {follow : KindSet} {parts : Repetition} {depth : Nat}
  {middle : ParseState}

theorem clear_iff_of_only {job callee : Task × ParseState} (unmisled : ¬ parser.Misled next? job)
    (call : parser.Calls job callee) (only : ∀ other, parser.Calls job other → other = callee) :
    parser.Clear next? job ↔ parser.Clear next? callee := by
  rw [clear_iff, and_iff_right unmisled]
  constructor
  · exact fun clear => clear callee call
  · rintro clear other call'
    rwa [only other call']

theorem clear_iff_of_both {job first second : Task × ParseState}
    (unmisled : ¬ parser.Misled next? job)
    (call : parser.Calls job first) (call' : parser.Calls job second)
    (only : ∀ other, parser.Calls job other → other = first ∨ other = second) :
    parser.Clear next? job ↔ parser.Clear next? first ∧ parser.Clear next? second := by
  rw [clear_iff, and_iff_right unmisled]
  constructor
  · exact fun clear => ⟨clear first call, clear second call'⟩
  · rintro ⟨clear, clear'⟩ other call
    rcases only other call with rfl | rfl
    · exact clear
    · exact clear'

theorem clear_last (last : (parser.grammar.expr id).next = none) :
    parser.Clear next? (.chain id follow, state) ↔
      parser.Clear next?
        (.element id (parser.followOfElement id follow) (parser.grammar.expr id).element,
          parser.arrive id follow state) := by
  refine clear_iff_of_only (by rintro ⟨⟩) .element fun other call => ?_
  cases call with
  | element => rfl
  | next following => simp [last] at following

variable (next?) in
theorem clear_cons {node : Tree} (following : (parser.grammar.expr id).next = some next)
    (run : parser.Runs depth
      (.element id (parser.followOfElement id follow) (parser.grammar.expr id).element)
      (parser.arrive id follow state) (.node node) middle) :
    parser.Clear next? (.chain id follow, state) ↔
      parser.Clear next?
          (.element id (parser.followOfElement id follow) (parser.grammar.expr id).element,
            parser.arrive id follow state) ∧
        parser.Clear next? (.chain next follow, middle) := by
  refine clear_iff_of_both (by rintro ⟨⟩) .element (.next following run) fun other call => ?_
  cases call with
  | element => exact .inl rfl
  | next following' run' =>
      obtain rfl := Option.some.inj (following.symm.trans following')
      obtain ⟨-, rfl⟩ := run.same run' trivial trivial
      exact .inr rfl

theorem clear_of_lacks {element : Element} (lacks : parser.Lacks state element) :
    parser.Clear next? (.element id follow element, state) := by
  refine clear_iff.mpr ⟨by rintro ⟨⟩, fun callee call => ?_⟩
  cases call with
  | rule starts => simp [lacks.1] at starts
  | branch chosen => simp [show _ = none from lacks] at chosen
  | inner | repetition => exact lacks.elim

theorem clear_token {kind : TokenKind} :
    parser.Clear next? (.element id follow (.token kind), state) :=
  clear_iff.mpr ⟨by rintro ⟨⟩, by rintro callee ⟨⟩⟩

theorem clear_empty : parser.Clear next? (.element id follow .empty, state) :=
  clear_iff.mpr ⟨by rintro ⟨⟩, by rintro callee ⟨⟩⟩

theorem clear_absent {name : NonTerminalId}
    (other : parser.at? state
      (parser.prediction.firstOf (parser.grammar.ruleOf name)).tokens = false) :
    parser.Clear next? (.element id follow (.nonTerminal name), state) := by
  refine clear_iff.mpr ⟨by rintro ⟨⟩, fun callee call => ?_⟩
  cases call with
  | rule starts => simp [other] at starts

theorem clear_optionalAbsent {inner : ExprId}
    (other : parser.at? state (parser.prediction.firstOf inner).tokens = false) :
    parser.Clear next? (.element id follow (.optional inner), state) := by
  refine clear_iff.mpr ⟨by rintro ⟨⟩, fun callee call => ?_⟩
  cases call with
  | inner starts => simp [other] at starts

theorem clear_entered {name : NonTerminalId}
    (starts : parser.at? state
      (parser.prediction.firstOf (parser.grammar.ruleOf name)).tokens = true) :
    parser.Clear next? (.element id follow (.nonTerminal name), state) ↔
      parser.Clear next?
        (.chain (parser.grammar.ruleOf name) follow, parser.openFrame name state) := by
  refine clear_iff_of_only (by rintro ⟨⟩) (.rule starts) fun other call => ?_
  cases call with
  | rule => rfl

theorem clear_optional {inner : ExprId}
    (starts : parser.at? state (parser.prediction.firstOf inner).tokens = true) :
    parser.Clear next? (.element id follow (.optional inner), state) ↔
      parser.Clear next? (.chain inner follow, state) := by
  refine clear_iff_of_only (by rintro ⟨⟩) (.inner starts) fun other call => ?_
  cases call with
  | inner => rfl

theorem clear_alternation {branch : ExprId} {branches : List ExprId}
    (chosen : parser.chooseBranch state branches = some branch) :
    parser.Clear next? (.element id follow (.alternation branches), state) ↔
      parser.Clear next? (.chain branch follow, state) := by
  refine clear_iff_of_only (by rintro ⟨⟩) (.branch chosen) fun other call => ?_
  cases call with
  | branch chosen' =>
      obtain rfl := Option.some.inj (chosen.symm.trans chosen')
      rfl

theorem clear_repetition :
    parser.Clear next? (.element id follow (.repetition parts), state) ↔
      parser.Clear next? (.repetition parts follow, state) := by
  refine clear_iff_of_only (by rintro ⟨⟩) .repetition fun other call => ?_
  cases call with
  | repetition => rfl

theorem clear_led (leads : parser.leads state (parser.planRepetition parts follow) = true) :
    parser.Clear next? (.lead parts follow, state) ↔
      parser.Clear next?
        (.chain parts.separator (parser.planRepetition parts follow).afterSeparator, state) := by
  refine clear_iff_of_only (by rintro ⟨⟩) (.leadingSeparator leads) fun other call => ?_
  cases call with
  | leadingSeparator => rfl

theorem clear_unled (unled : parser.leads state (parser.planRepetition parts follow) = false) :
    parser.Clear next? (.lead parts follow, state) := by
  refine clear_iff.mpr ⟨by rintro ⟨⟩, fun callee call => ?_⟩
  cases call with
  | leadingSeparator leads => simp [unled] at leads

/-! ### Repetitions -/

variable {items : List (List Tree)} {content separator : List Tree} {count : Nat}

theorem clear_leadOnly (run : parser.Runs depth (.lead parts follow) state (.items items) middle)
    (ended : parser.currentKind? middle = none) :
    parser.Clear next? (.repetition parts follow, state) ↔
      parser.Clear next? (.lead parts follow, state) := by
  refine clear_iff_of_only (fun misled => ?_) .lead fun other call => ?_
  · cases misled with
    | leading _ run' more =>
        obtain ⟨-, rfl⟩ := run.same run' trivial trivial
        exact more ended
  · cases call with
    | lead => rfl
    | rounds _ run' more =>
        obtain ⟨-, rfl⟩ := run.same run' trivial trivial
        exact (more ended).elim

/-- The number of rounds that are allowed has no influence. -/
theorem clear_rounds_count (count count' : Nat) :
    parser.Clear next? (.rounds parts follow count, state) ↔
      parser.Clear next? (.rounds parts follow count', state) := by
  have recount : ∀ {count count' : Nat} {callee : Task × ParseState},
      parser.Calls (.rounds parts follow count, state) callee →
        parser.Calls (.rounds parts follow count', state) callee := by
    intro count count' callee call
    cases call with
    | round => exact .round
    | moreRounds count run moved => exact .moreRounds count run moved
  have clear_iff_calls : ∀ count, parser.Clear next? (.rounds parts follow count, state) ↔
      ∀ callee, parser.Calls (.rounds parts follow count, state) callee →
        parser.Clear next? callee :=
    fun count => clear_iff.trans (and_iff_right (by rintro ⟨⟩))
  rw [clear_iff_calls, clear_iff_calls]
  exact ⟨fun clear callee call => clear callee (recount call),
    fun clear callee call => clear callee (recount call)⟩

variable (next?) in
theorem clear_filled (run : parser.Runs depth (.lead parts follow) state (.items items) middle)
    (more : parser.currentKind? middle ≠ none) (count : Nat) :
    parser.Clear next? (.repetition parts follow, state) ↔
      parser.Clear next? (.lead parts follow, state) ∧
        ¬ (parser.leads state (parser.planRepetition parts follow) = true ∧
          next? middle.cursor = none) ∧
        parser.Clear next? (.rounds parts follow count, middle) := by
  rw [clear_iff]
  constructor
  · rintro ⟨unmisled, clear⟩
    exact ⟨clear _ .lead, fun ⟨leads, nothing⟩ => unmisled (.leading leads run more nothing),
      clear _ (.rounds count run more)⟩
  · rintro ⟨clearLead, something, clearRounds⟩
    refine ⟨fun misled => ?_, fun other call => ?_⟩
    · cases misled with
      | leading leads run' _ nothing =>
          obtain ⟨-, rfl⟩ := run.same run' trivial trivial
          exact something ⟨leads, nothing⟩
    · cases call with
      | lead => exact clearLead
      | rounds count' run' _ =>
          obtain ⟨-, rfl⟩ := run.same run' trivial trivial
          exact (clear_rounds_count count count').mp clearRounds

theorem clear_lastRound
    (run : parser.Runs depth (.round parts follow) state (.round items false) after) :
    parser.Clear next? (.rounds parts follow count, state) ↔
      parser.Clear next? (.round parts follow, state) := by
  refine clear_iff_of_only (by rintro ⟨⟩) .round fun other call => ?_
  cases call with
  | round => rfl
  | moreRounds _ run' _ =>
      have same := (run.same run' trivial trivial).1
      simp at same

variable (next?) in
theorem clear_moreRounds (count count' : Nat)
    (run : parser.Runs depth (.round parts follow) state (.round items true) middle)
    (moved : middle.cursor ≠ state.cursor) :
    parser.Clear next? (.rounds parts follow count, state) ↔
      parser.Clear next? (.round parts follow, state) ∧
        parser.Clear next? (.rounds parts follow count', middle) := by
  rw [clear_iff, and_iff_right (by rintro ⟨⟩)]
  constructor
  · exact fun clear => ⟨clear _ .round, clear _ (.moreRounds count' run moved)⟩
  · rintro ⟨clearRound, clearRounds⟩ other call
    cases call with
    | round => exact clearRound
    | moreRounds count'' run' _ =>
        obtain ⟨-, rfl⟩ := run.same run' trivial trivial
        exact (clear_rounds_count count' count'').mp clearRounds

section Round

variable (run : parser.Runs depth
  (.chain parts.content (parser.planRepetition parts follow).afterContent) state (.chain content)
  middle)

include run

theorem clear_content
    (alone : parser.joins (parser.settle (parser.planRepetition parts follow) middle)
        (parser.planRepetition parts follow) = true ∨
      parser.at? (parser.settle (parser.planRepetition parts follow) middle)
        (parser.prediction.firstOf parts.separator).tokens = false ∧ parts.trailing ≠ .required) :
    parser.Clear next? (.round parts follow, state) ↔
      parser.Clear next?
        (.chain parts.content (parser.planRepetition parts follow).afterContent, state) := by
  refine clear_iff_of_only (fun misled => ?_) .content fun other call => ?_
  · cases misled with
    | trailing run' apart separates =>
        obtain ⟨-, rfl⟩ := run.same run' trivial trivial
        simp [apart, separates] at alone
  · cases call with
    | content => rfl
    | separator run' apart follows =>
        obtain ⟨-, rfl⟩ := run.same run' trivial trivial
        rcases alone with joins | ⟨unseparated, optional⟩
        · simp [apart] at joins
        · simp [unseparated, optional] at follows

theorem clear_ended
    (apart : parser.joins (parser.settle (parser.planRepetition parts follow) middle)
      (parser.planRepetition parts follow) = false)
    (unseparated : parser.at? (parser.settle (parser.planRepetition parts follow) middle)
      (parser.prediction.firstOf parts.separator).tokens = false)
    (required : parts.trailing = .required) :
    parser.Clear next? (.round parts follow, state) ↔
      parser.Clear next?
          (.chain parts.content (parser.planRepetition parts follow).afterContent, state) ∧
        parser.Clear next?
          (.chain parts.separator (parser.planRepetition parts follow).afterSeparator,
            parser.settle (parser.planRepetition parts follow) middle) := by
  refine clear_iff_of_both (fun misled => ?_) .content (.separator run apart (.inr required))
    fun other call => ?_
  · cases misled with
    | trailing run' _ separates =>
        obtain ⟨-, rfl⟩ := run.same run' trivial trivial
        simp [unseparated] at separates
  · cases call with
    | content => exact .inl rfl
    | separator run' _ _ =>
        obtain ⟨-, rfl⟩ := run.same run' trivial trivial
        exact .inr rfl

variable (next?) in
theorem clear_separated
    (apart : parser.joins (parser.settle (parser.planRepetition parts follow) middle)
      (parser.planRepetition parts follow) = false)
    (separates : parser.at? (parser.settle (parser.planRepetition parts follow) middle)
      (parser.prediction.firstOf parts.separator).tokens = true)
    (rest : parser.Runs depth
      (.chain parts.separator (parser.planRepetition parts follow).afterSeparator)
      (parser.settle (parser.planRepetition parts follow) middle) (.chain separator) after) :
    parser.Clear next? (.round parts follow, state) ↔
      parser.Clear next?
          (.chain parts.content (parser.planRepetition parts follow).afterContent, state) ∧
        parser.Clear next?
          (.chain parts.separator (parser.planRepetition parts follow).afterSeparator,
            parser.settle (parser.planRepetition parts follow) middle) ∧
        ¬ (parser.continues after (parser.planRepetition parts follow) = false ∧
          ∃ kind, next? after.cursor = some kind ∧
            kind ∈ (parser.prediction.firstOf parts.content).tokens) := by
  rw [clear_iff]
  constructor
  · rintro ⟨unmisled, clear⟩
    refine ⟨clear _ .content, clear _ (.separator run apart (.inl separates)), ?_⟩
    rintro ⟨ends, kind, ahead, starts⟩
    exact unmisled (.trailing run apart separates rest ends ahead starts)
  · rintro ⟨clearContent, clearSeparator, decided⟩
    refine ⟨fun misled => ?_, fun other call => ?_⟩
    · cases misled with
      | trailing run' _ _ rest' ends ahead starts =>
          obtain ⟨-, rfl⟩ := run.same run' trivial trivial
          obtain ⟨-, rfl⟩ := rest.same rest' trivial trivial
          exact decided ⟨ends, _, ahead, starts⟩
    · cases call with
      | content => exact clearContent
      | separator run' _ _ =>
          obtain ⟨-, rfl⟩ := run.same run' trivial trivial
          exact clearSeparator

end Round

end Tasks

/-! ## Grammars that never mislead -/

section Prohibiting

variable {job callee : Task × ParseState}

theorem Calls.prohibitsEnds (call : parser.Calls job callee)
    (prohibits : parser.grammar.ProhibitsEnds) (own : job.1.ProhibitsEnds) :
    callee.1.ProhibitsEnds := by
  cases call with
  | element => exact fun parts found => prohibits _ parts found
  | next | rule | inner | branch | leadingSeparator | content | separator => trivial
  | repetition => exact own _ rfl
  | lead | rounds | round | moreRounds => exact own

theorem Misled.not_prohibitsEnds (misled : parser.Misled next? job) :
    ¬ job.1.ProhibitsEnds := by
  intro own
  cases misled with
  | leading leads => exact leading_of_leads leads own.1
  | trailing _ _ _ _ ends => simp [continues, planRepetition, own.2] at ends

/-- Where no separator stands at an end there is nothing to decide behind it. -/
theorem clear_of_prohibitsEnds (prohibits : parser.grammar.ProhibitsEnds)
    (own : job.1.ProhibitsEnds) : parser.Clear next? job := by
  intro reached path
  have kept : reached.1.ProhibitsEnds := by
    induction path with
    | refl => exact own
    | tail _ call induction => exact call.prohibitsEnds prohibits induction
  exact fun misled => misled.not_prohibitsEnds kept

end Prohibiting

end Parser

end Reparse
