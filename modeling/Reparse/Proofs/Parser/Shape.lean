import Reparse.Proofs.Parser.Coverage

/-!
# Parse trees are derivation trees

A chain of nodes fits a chain of expressions if its nodes fit the elements one by one.  An empty
node may stand in the place of a separator that can match nothing.

Main statement: `run?_derives`.
-/

namespace Reparse

/-- The elements that a missing node may stand for. -/
def Element.MayBeMissing : Element → Prop
  | .token _ | .nonTerminal _ | .alternation _ => True
  | .empty | .optional _ | .repetition _ => False

namespace Tree

mutual

/-- The nodes are those of the chain of expressions, one for each. -/
inductive ChainFits (grammar : Grammar) (document : Document) : ExprId → List Tree → Prop where
  | last {id : ExprId} {node : Tree} :
      (grammar.expr id).next = none → NodeFits grammar document id node →
      ChainFits grammar document id [node]
  | cons {id next : ExprId} {node : Tree} {nodes : List Tree} :
      (grammar.expr id).next = some next → NodeFits grammar document id node →
      ChainFits grammar document next nodes → ChainFits grammar document id (node :: nodes)

/-- The node is made for the element of the expression. -/
inductive NodeFits (grammar : Grammar) (document : Document) : ExprId → Tree → Prop where
  | token {id : ExprId} {kind : TokenKind} {token : TokenId} :
      (grammar.expr id).element = .token kind →
      (document.token? token).map Token.kind = some kind →
      NodeFits grammar document id (.token id token)
  | nonTerminal {id : ExprId} {name : NonTerminalId} {child : List Tree} :
      (grammar.expr id).element = .nonTerminal name →
      ChainFits grammar document (grammar.ruleOf name) child →
      NodeFits grammar document id (.nonTerminal id name child)
  | absent {id : ExprId} {name : NonTerminalId} :
      (grammar.expr id).element = .nonTerminal name →
      (grammar.predict.firstOf (grammar.ruleOf name)).nullable = true →
      NodeFits grammar document id (.nonTerminal id name [])
  | empty {id : ExprId} :
      (grammar.expr id).element = .empty → NodeFits grammar document id (.empty id)
  | optional {id inner : ExprId} {child : List Tree} :
      (grammar.expr id).element = .optional inner → ChainFits grammar document inner child →
      NodeFits grammar document id (.optional id child)
  | optionalAbsent {id inner : ExprId} :
      (grammar.expr id).element = .optional inner →
      NodeFits grammar document id (.optional id [])
  | alternation {id branch : ExprId} {branches : List ExprId} {child : List Tree} :
      (grammar.expr id).element = .alternation branches → branch ∈ branches →
      ChainFits grammar document branch child →
      NodeFits grammar document id (.alternation id child)
  | repetition {id : ExprId} {parts : Repetition} {items : List (List Tree)} :
      (grammar.expr id).element = .repetition parts → ItemsFit grammar document parts items →
      NodeFits grammar document id (.repetition id items)
  | missing {id : ExprId} {found : Option TokenId} :
      (grammar.expr id).element.MayBeMissing →
      NodeFits grammar document id (.missing id found)

/-- The items of a repetition, with its leading separator. -/
inductive ItemsFit (grammar : Grammar) (document : Document) :
    Repetition → List (List Tree) → Prop where
  | none {parts : Repetition} : parts.leading ≠ .required → ItemsFit grammar document parts []
  | noContent {parts : Repetition} {separator : List Tree} :
      parts.leading ≠ .prohibited → ChainFits grammar document parts.separator separator →
      ItemsFit grammar document parts [separator]
  | unled {parts : Repetition} {items : List (List Tree)} :
      parts.leading ≠ .required → ContentsFit grammar document parts items →
      ItemsFit grammar document parts items
  | led {parts : Repetition} {separator : List Tree} {items : List (List Tree)} :
      parts.leading ≠ .prohibited → ChainFits grammar document parts.separator separator →
      ContentsFit grammar document parts items →
      ItemsFit grammar document parts (separator :: items)

/-- The items of a repetition from its first content on. -/
inductive ContentsFit (grammar : Grammar) (document : Document) :
    Repetition → List (List Tree) → Prop where
  | content {parts : Repetition} {content : List Tree} :
      parts.trailing ≠ .required → ChainFits grammar document parts.content content →
      ContentsFit grammar document parts [content]
  | trailing {parts : Repetition} {content separator : List Tree} :
      parts.trailing ≠ .prohibited → ChainFits grammar document parts.content content →
      ChainFits grammar document parts.separator separator →
      ContentsFit grammar document parts [content, separator]
  | separated {parts : Repetition} {content separator : List Tree} {rest : List (List Tree)} :
      ChainFits grammar document parts.content content →
      ChainFits grammar document parts.separator separator →
      ContentsFit grammar document parts rest →
      ContentsFit grammar document parts (content :: separator :: rest)
  /-- An empty node is put in the place of the separator. -/
  | joined {parts : Repetition} {content : List Tree} {rest : List (List Tree)} :
      ChainFits grammar document parts.content content →
      (grammar.predict.firstOf parts.separator).nullable = true →
      ContentsFit grammar document parts rest →
      ContentsFit grammar document parts (content :: [.empty parts.separator] :: rest)

end

/-- The tree is a node for the start symbol over nodes that fit its rule. -/
def Derives (grammar : Grammar) (document : Document) (start : NonTerminalId) (tree : Tree) :
    Prop :=
  ∃ child, tree = .nonTerminal (grammar.ruleOf start) start child ∧
    ChainFits grammar document (grammar.ruleOf start) child

/-- A content and a separator after it, or what stands in its place. -/
inductive PairFits (grammar : Grammar) (document : Document) (parts : Repetition) :
    List (List Tree) → Prop where
  | separated {content separator : List Tree} :
      ChainFits grammar document parts.content content →
      ChainFits grammar document parts.separator separator →
      PairFits grammar document parts [content, separator]
  | joined {content : List Tree} :
      ChainFits grammar document parts.content content →
      (grammar.predict.firstOf parts.separator).nullable = true →
      PairFits grammar document parts [content, [.empty parts.separator]]

theorem PairFits.append
    {grammar : Grammar} {document : Document} {parts : Repetition} {pair rest : List (List Tree)}
    (fits : PairFits grammar document parts pair)
    (restFits : ContentsFit grammar document parts rest) :
    ContentsFit grammar document parts (pair ++ rest) := by
  cases fits with
  | separated content separator => exact .separated content separator restFits
  | joined content nullable => exact .joined content nullable restFits

/-- The leading separator of a repetition, if there is one. -/
inductive LeadFits (grammar : Grammar) (document : Document) (parts : Repetition) :
    List (List Tree) → Prop where
  | led {separator : List Tree} :
      parts.leading ≠ .prohibited → ChainFits grammar document parts.separator separator →
      LeadFits grammar document parts [separator]
  | unled : parts.leading ≠ .required → LeadFits grammar document parts []

end Tree

open Reparse.Tree

namespace Parser

variable {parser : Parser} {state after : ParseState}

/-- What comes out of a task fits what the task is about. -/
def Fits (parser : Parser) : Task → Outcome → Prop
  | .chain id _, .chain nodes => ChainFits parser.grammar parser.document id nodes
  | .element id _ own, .node node =>
      own = (parser.grammar.expr id).element → NodeFits parser.grammar parser.document id node
  | .repetition parts _, .items items => ItemsFit parser.grammar parser.document parts items
  | .lead parts _, .items items => LeadFits parser.grammar parser.document parts items
  | .rounds parts _ _, .items items => ContentsFit parser.grammar parser.document parts items
  | .round parts _, .round items true => PairFits parser.grammar parser.document parts items
  | .round parts _, .round items false => ContentsFit parser.grammar parser.document parts items
  | _, _ => False

theorem Lacks.mayBeMissing {element : Element} (lacks : parser.Lacks state element) :
    element.MayBeMissing := by
  cases element <;> simp_all [Lacks, Element.MayBeMissing]

theorem token?_of_currentKind? {kind : TokenKind}
    (current : parser.currentKind? state = some kind) :
    (parser.document.token? state.cursor).map Token.kind = some kind := by
  unfold currentKind? at current
  split at current
  · simp at current
  · exact current

theorem Runs.cursor_ne_of_joins
    {depth : Nat} {parts : Repetition} {follow : KindSet} {content : List Tree}
    (run : parser.Runs depth
      (.chain parts.content (parser.planRepetition parts follow).afterContent)
      state (.chain content) after)
    (predictive : parser.Predictive)
    (joins : parser.joins (parser.settle (parser.planRepetition parts follow) after)
      (parser.planRepetition parts follow) = true) :
    (parser.settle (parser.planRepetition parts follow) after).cursor ≠ state.cursor := by
  intro same
  rw [joins_iff, predictive.predicted, at?_iff] at joins
  obtain ⟨_, kind, current, starts⟩ := joins
  cases current' : parser.currentKind? state with
  | none =>
      have ended := (currentKind?_of_unmoved (run.unmoved_of_end current')).trans current'
      rw [settle_of_end ended, ended] at current
      simp at current
  | some kind' =>
      have token := token?_of_currentKind? current
      rw [same, token?_of_currentKind? current'] at token
      obtain rfl := Option.some.inj token
      have moved := run.cursor_lt predictive (within_of_starts starts) ⟨_, current', starts⟩ trivial
      have le := (parser.reads_settle (parser.planRepetition parts follow) after).cursor_le
      lia

/-- A round that another one follows has moved on. -/
theorem Runs.round_moves
    {depth : Nat} {parts : Repetition} {follow : KindSet} {items : List (List Tree)}
    (run : parser.Runs depth (.round parts follow) state (.round items true) after)
    (predictive : parser.Predictive) : after.cursor ≠ state.cursor := by
  generalize outcome_eq : Outcome.round items true = outcome at run
  cases run with
  | joined content joins => exact content.cursor_ne_of_joins predictive joins
  | separated content _ separates separator =>
      rw [predictive.predicted, at?_iff] at separates
      obtain ⟨kind, current, starts⟩ := separates
      have moved := separator.cursor_lt predictive (within_of_starts starts)
        ⟨kind, current, starts⟩ trivial
      have le := ((content.reads trivial).andThen
        (reads_settle (parser.planRepetition parts follow) _)).cursor_le
      lia
  | ended | closed | contentStopped | separatorStopped => simp at outcome_eq

theorem Runs.fits {depth : Nat} {task : Task} {outcome : Outcome}
    (run : parser.Runs depth task state outcome after) (predictive : parser.Predictive)
    (within : task.Within parser.grammar parser.grammar.exprs.size)
    (succeeds : outcome.Succeeds) : parser.Fits task outcome := by
  have ordered := predictive.ordered
  induction run with
  | last last _ element =>
      exact .last last (element (ordered.within_element _ within.le) trivial rfl)
  | cons following _ _ element rest =>
      exact .cons following (element (ordered.within_element _ within.le) trivial rfl)
        (rest ((ordered.next_lt following).trans within) trivial)
  | token current =>
      rintro own
      exact .token own.symm (token?_of_currentKind? current)
  | missing _ lacks =>
      rintro rfl
      exact .missing lacks.mayBeMissing
  | entered _ _ child =>
      intro own
      exact .nonTerminal own.symm (child (ordered.rule_lt _) trivial)
  | absent _ nullable =>
      intro own
      exact .absent own.symm (by rwa [← predictive.predicted])
  | empty =>
      intro own
      exact .empty own.symm
  | optional _ _ child =>
      intro own
      exact .optional own.symm (child (within.1 _ (by simp [Element.parts])) trivial)
  | optionalAbsent =>
      intro own
      exact .optionalAbsent own.symm
  | alternation chosen _ child =>
      intro own
      have member := (chooseBranch_eq_some chosen).1
      exact .alternation own.symm member (child (within.1 _ member) trivial)
  | repetition _ items =>
      intro own
      exact .repetition own.symm (items
        ⟨within.1 _ (by simp [Element.parts]), within.1 _ (by simp [Element.parts])⟩ trivial)
  | led leads _ separator => exact .led (leading_of_leads leads) (separator within.2 trivial)
  | unled unled =>
      refine .unled ?_
      intro required
      exact Bool.false_ne_true (unled.symm.trans (leads_iff.mpr (.inl required)))
  | leadOnly _ _ lead =>
      cases lead within trivial with
      | led allowed separator => exact .noContent allowed separator
      | unled allowed => exact .none allowed
  | filled _ _ _ lead rest =>
      have contents := rest within trivial
      cases lead within trivial with
      | led allowed separator => exact .led allowed separator contents
      | unled allowed => exact .unled allowed contents
  | lastRound _ round => exact round within trivial
  | stuckRound round stuck => exact (round.round_moves predictive stuck).elim
  | moreRounds _ _ _ round rest =>
      exact PairFits.append (round within trivial) (rest within trivial)
  | joined _ joins content =>
      rw [joins_iff, predictive.predicted] at joins
      exact .joined (content within.1 trivial) joins.1
  | @separated _ _ _ _ _ after _ _ _ _ _ _ content separator =>
      have contentFits := content within.1 trivial
      have separatorFits := separator within.2 trivial
      cases continues : parser.continues after (parser.planRepetition _ _) with
      | true => exact .separated contentFits separatorFits
      | false =>
          refine .trailing (fun prohibited => ?_) contentFits separatorFits
          simp [Parser.continues, planRepetition, prohibited] at continues
  | ended _ _ _ required _ content separator =>
      exact .trailing (by simp [required]) (content within.1 trivial) (separator within.2 trivial)
  | closed _ _ _ optional content => exact .content optional (content within.1 trivial)
  | _ => exact succeeds.elim

/-- Every document has a parse, and one that is not aborted is a derivation tree of the start
symbol. -/
theorem run?_derives (grammar : Grammar) (document : Document) (leniency : Leniency)
    (start : NonTerminalId) (setsAnnounced : Bool)
    (built : grammar.Built) (terminating : ¬ grammar.LeftRecursive) :
    ∃ run, Parser.run? ⟨grammar, grammar.predict, document, leniency⟩ start setsAnnounced =
        some run ∧
      (run.parse.tree.isMissing = false →
        Derives grammar document start run.parse.tree) := by
  have predictive : Predictive ⟨grammar, grammar.predict, document, leniency⟩ :=
    ⟨built.ordered, rfl⟩
  obtain ⟨run, done, finishes⟩ := run?_finishes predictive terminating start setsAnnounced
  refine ⟨run, done, ?_⟩
  cases finishes with
  | parsed run =>
      exact fun _ => ⟨_, rfl, run.fits predictive (built.ordered.rule_lt start) trivial⟩
  | aborted run => simp [finish, isMissing]

theorem run?_derives_bracketDocument :
    ∃ run, Parser.run?
        ⟨Grammar.bracketLists, Grammar.bracketLists.predict, bracketDocument, .standard⟩ 0 false =
        some run ∧
      (run.parse.tree.isMissing = false →
        Derives Grammar.bracketLists bracketDocument 0 run.parse.tree) :=
  run?_derives _ bracketDocument .standard 0 false Grammar.built_bracketLists
    Grammar.not_leftRecursive_bracketLists

end Parser

end Reparse
