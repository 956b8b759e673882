import Reparse.Parser.Descent

/-!
# Runs of the descent

`Runs` tells what each task of the descent can come to.  There is one rule for each way through the
program, so that a property of all parses is proved by induction on a run.
-/

namespace Reparse

/-- The steps that the descent is made of. -/
inductive Task where
  /-- A chain, and what may come after it. -/
  | chain (id : ExprId) (follow : KindSet)
  /-- The element of an expression, and what may come after the element. -/
  | element (id : ExprId) (follow : KindSet) (element : Element)
  | repetition (parts : Repetition) (follow : KindSet)
  /-- The leading separator of a repetition, if it has one. -/
  | lead (parts : Repetition) (follow : KindSet)
  /-- At most so many rounds of a repetition. -/
  | rounds (parts : Repetition) (follow : KindSet) (count : Nat)
  /-- A content and what follows it. -/
  | round (parts : Repetition) (follow : KindSet)

inductive Outcome where
  | chain (nodes : List Tree)
  | node (node : Tree)
  | items (items : List (List Tree))
  /-- The items of a round, and whether another content has to come. -/
  | round (items : List (List Tree)) (more : Bool)
  | stopped (stop : Stop)

namespace Outcome

def chains : Outcome → List (List Tree)
  | .chain found => [found]
  | .node only => [[only]]
  | .items found => found
  | .round found _ => found
  | .stopped _ => []

end Outcome

namespace Parser

/-- Nothing at the current place can be taken for the element. -/
def Lacks (parser : Parser) (state : ParseState) : Element → Prop
  | .token kind => parser.currentKind? state ≠ some kind
  | .nonTerminal name =>
      let first := parser.prediction.firstOf (parser.grammar.ruleOf name)
      parser.at? state first.tokens = false ∧ first.nullable = false
  | .alternation branches => parser.chooseBranch state branches = none
  | _ => False

def noteMissing (parser : Parser) (id : ExprId) (state : ParseState) : ParseState :=
  state.note (.missing (parser.grammar.renderExpr id) (parser.currentId? state))

/-- The tasks of the descent at a depth, with the states before and after. -/
inductive Runs (parser : Parser) :
    Nat → Task → ParseState → Outcome → ParseState → Prop where
  | exhausted {id : ExprId} {follow : KindSet} {state : ParseState} :
      Runs parser 0 (.chain id follow) state (.stopped .endless) state
  | last {depth : Nat} {id : ExprId} {follow : KindSet} {state after : ParseState} {node : Tree} :
      (parser.grammar.expr id).next = none →
      Runs parser depth
        (.element id (parser.followOfElement id follow) (parser.grammar.expr id).element)
        (parser.arrive id follow state) (.node node) after →
      Runs parser (depth + 1) (.chain id follow) state (.chain [node]) after
  | cons {depth : Nat} {id next : ExprId} {follow : KindSet}
      {state middle after : ParseState} {node : Tree} {nodes : List Tree} :
      (parser.grammar.expr id).next = some next →
      Runs parser depth
        (.element id (parser.followOfElement id follow) (parser.grammar.expr id).element)
        (parser.arrive id follow state) (.node node) middle →
      Runs parser depth (.chain next follow) middle (.chain nodes) after →
      Runs parser (depth + 1) (.chain id follow) state (.chain (node :: nodes)) after
  | stoppedFirst {depth : Nat} {id : ExprId} {follow : KindSet}
      {state after : ParseState} {stop : Stop} :
      Runs parser depth
        (.element id (parser.followOfElement id follow) (parser.grammar.expr id).element)
        (parser.arrive id follow state) (.stopped stop) after →
      Runs parser (depth + 1) (.chain id follow) state (.stopped stop) after
  | stoppedNext {depth : Nat} {id next : ExprId} {follow : KindSet}
      {state middle after : ParseState} {node : Tree} {stop : Stop} :
      (parser.grammar.expr id).next = some next →
      Runs parser depth
        (.element id (parser.followOfElement id follow) (parser.grammar.expr id).element)
        (parser.arrive id follow state) (.node node) middle →
      Runs parser depth (.chain next follow) middle (.stopped stop) after →
      Runs parser (depth + 1) (.chain id follow) state (.stopped stop) after
  | token {depth : Nat} {id : ExprId} {follow : KindSet} {state : ParseState} {kind : TokenKind} :
      parser.currentKind? state = some kind →
      Runs parser depth (.element id follow (.token kind)) state
        (.node (.token id state.cursor)) (parser.advance state)
  | missing {depth : Nat} {id : ExprId} {follow : KindSet} {state : ParseState}
      {element : Element} :
      parser.leniency.toleratesErrors = true → parser.Lacks state element →
      Runs parser depth (.element id follow element) state
        (.node (.missing id (parser.currentId? state))) (parser.noteMissing id state)
  | aborted {depth : Nat} {id : ExprId} {follow : KindSet} {state : ParseState}
      {element : Element} :
      parser.leniency.toleratesErrors = false → parser.Lacks state element →
      Runs parser depth (.element id follow element) state
        (.stopped (.aborted id (parser.currentId? state))) (parser.noteMissing id state)
  | entered {depth : Nat} {id : ExprId} {follow : KindSet} {state after : ParseState}
      {name : NonTerminalId} {child : List Tree} :
      parser.at? state (parser.prediction.firstOf (parser.grammar.ruleOf name)).tokens = true →
      Runs parser depth (.chain (parser.grammar.ruleOf name) follow)
        (parser.openFrame name state) (.chain child) after →
      Runs parser depth (.element id follow (.nonTerminal name)) state
        (.node (.nonTerminal id name child)) (parser.closeFrame name false after)
  | enteredStopped {depth : Nat} {id : ExprId} {follow : KindSet} {state after : ParseState}
      {name : NonTerminalId} {stop : Stop} :
      parser.at? state (parser.prediction.firstOf (parser.grammar.ruleOf name)).tokens = true →
      Runs parser depth (.chain (parser.grammar.ruleOf name) follow)
        (parser.openFrame name state) (.stopped stop) after →
      Runs parser depth (.element id follow (.nonTerminal name)) state
        (.stopped stop) (parser.closeFrame name true after)
  | absent {depth : Nat} {id : ExprId} {follow : KindSet} {state : ParseState}
      {name : NonTerminalId} :
      parser.at? state (parser.prediction.firstOf (parser.grammar.ruleOf name)).tokens = false →
      (parser.prediction.firstOf (parser.grammar.ruleOf name)).nullable = true →
      Runs parser depth (.element id follow (.nonTerminal name)) state
        (.node (.nonTerminal id name [])) state
  | empty {depth : Nat} {id : ExprId} {follow : KindSet} {state : ParseState} :
      Runs parser depth (.element id follow .empty) state (.node (.empty id)) state
  | optional {depth : Nat} {id inner : ExprId} {follow : KindSet} {state after : ParseState}
      {child : List Tree} :
      parser.at? state (parser.prediction.firstOf inner).tokens = true →
      Runs parser depth (.chain inner follow) state (.chain child) after →
      Runs parser depth (.element id follow (.optional inner)) state
        (.node (.optional id child)) after
  | optionalStopped {depth : Nat} {id inner : ExprId} {follow : KindSet}
      {state after : ParseState} {stop : Stop} :
      parser.at? state (parser.prediction.firstOf inner).tokens = true →
      Runs parser depth (.chain inner follow) state (.stopped stop) after →
      Runs parser depth (.element id follow (.optional inner)) state (.stopped stop) after
  | optionalAbsent {depth : Nat} {id inner : ExprId} {follow : KindSet} {state : ParseState} :
      parser.at? state (parser.prediction.firstOf inner).tokens = false →
      Runs parser depth (.element id follow (.optional inner)) state
        (.node (.optional id [])) state
  | alternation {depth : Nat} {id branch : ExprId} {follow : KindSet}
      {state after : ParseState} {branches : List ExprId} {child : List Tree} :
      parser.chooseBranch state branches = some branch →
      Runs parser depth (.chain branch follow) state (.chain child) after →
      Runs parser depth (.element id follow (.alternation branches)) state
        (.node (.alternation id child)) after
  | alternationStopped {depth : Nat} {id branch : ExprId} {follow : KindSet}
      {state after : ParseState} {branches : List ExprId} {stop : Stop} :
      parser.chooseBranch state branches = some branch →
      Runs parser depth (.chain branch follow) state (.stopped stop) after →
      Runs parser depth (.element id follow (.alternation branches)) state (.stopped stop) after
  | repetition {depth : Nat} {id : ExprId} {follow : KindSet} {state after : ParseState}
      {parts : Repetition} {items : List (List Tree)} :
      Runs parser depth (.repetition parts follow) state (.items items) after →
      Runs parser depth (.element id follow (.repetition parts)) state
        (.node (.repetition id items)) after
  | repetitionStopped {depth : Nat} {id : ExprId} {follow : KindSet}
      {state after : ParseState} {parts : Repetition} {stop : Stop} :
      Runs parser depth (.repetition parts follow) state (.stopped stop) after →
      Runs parser depth (.element id follow (.repetition parts)) state (.stopped stop) after
  | led {depth : Nat} {parts : Repetition} {follow : KindSet} {state after : ParseState}
      {separator : List Tree} :
      parser.leads state (parser.planRepetition parts follow) = true →
      Runs parser depth
        (.chain parts.separator (parser.planRepetition parts follow).afterSeparator)
        state (.chain separator) after →
      Runs parser depth (.lead parts follow) state (.items [separator]) after
  | ledStopped {depth : Nat} {parts : Repetition} {follow : KindSet}
      {state after : ParseState} {stop : Stop} :
      parser.leads state (parser.planRepetition parts follow) = true →
      Runs parser depth
        (.chain parts.separator (parser.planRepetition parts follow).afterSeparator)
        state (.stopped stop) after →
      Runs parser depth (.lead parts follow) state (.stopped stop) after
  | unled {depth : Nat} {parts : Repetition} {follow : KindSet} {state : ParseState} :
      parser.leads state (parser.planRepetition parts follow) = false →
      Runs parser depth (.lead parts follow) state (.items []) state
  | leadOnly {depth : Nat} {parts : Repetition} {follow : KindSet} {state after : ParseState}
      {items : List (List Tree)} :
      Runs parser depth (.lead parts follow) state (.items items) after →
      parser.currentKind? after = none →
      Runs parser depth (.repetition parts follow) state (.items items) after
  | leadStopped {depth : Nat} {parts : Repetition} {follow : KindSet}
      {state after : ParseState} {stop : Stop} :
      Runs parser depth (.lead parts follow) state (.stopped stop) after →
      Runs parser depth (.repetition parts follow) state (.stopped stop) after
  | filled {depth : Nat} {parts : Repetition} {follow : KindSet}
      {state middle after : ParseState} {items rest : List (List Tree)} :
      Runs parser depth (.lead parts follow) state (.items items) middle →
      parser.currentKind? middle ≠ none →
      Runs parser depth
        (.rounds parts follow (parser.document.size - middle.cursor + 1))
        middle (.items rest) after →
      Runs parser depth (.repetition parts follow) state (.items (items ++ rest)) after
  | filledStopped {depth : Nat} {parts : Repetition} {follow : KindSet}
      {state middle after : ParseState} {items : List (List Tree)} {stop : Stop} :
      Runs parser depth (.lead parts follow) state (.items items) middle →
      parser.currentKind? middle ≠ none →
      Runs parser depth
        (.rounds parts follow (parser.document.size - middle.cursor + 1))
        middle (.stopped stop) after →
      Runs parser depth (.repetition parts follow) state (.stopped stop) after
  | noRoundsLeft {depth : Nat} {parts : Repetition} {follow : KindSet} {state : ParseState} :
      Runs parser depth (.rounds parts follow 0) state (.stopped .endless) state
  | lastRound {depth count : Nat} {parts : Repetition} {follow : KindSet}
      {state after : ParseState} {items : List (List Tree)} :
      Runs parser depth (.round parts follow) state (.round items false) after →
      Runs parser depth (.rounds parts follow (count + 1)) state (.items items) after
  | stuckRound {depth count : Nat} {parts : Repetition} {follow : KindSet}
      {state after : ParseState} {items : List (List Tree)} :
      Runs parser depth (.round parts follow) state (.round items true) after →
      after.cursor = state.cursor →
      Runs parser depth (.rounds parts follow (count + 1)) state (.items items)
        (after.note .noProgress)
  | moreRounds {depth count : Nat} {parts : Repetition} {follow : KindSet}
      {state middle after : ParseState} {items rest : List (List Tree)} :
      Runs parser depth (.round parts follow) state (.round items true) middle →
      middle.cursor ≠ state.cursor →
      Runs parser depth (.rounds parts follow count) middle (.items rest) after →
      Runs parser depth (.rounds parts follow (count + 1)) state (.items (items ++ rest)) after
  | roundStopped {depth count : Nat} {parts : Repetition} {follow : KindSet}
      {state after : ParseState} {stop : Stop} :
      Runs parser depth (.round parts follow) state (.stopped stop) after →
      Runs parser depth (.rounds parts follow (count + 1)) state (.stopped stop) after
  | moreStopped {depth count : Nat} {parts : Repetition} {follow : KindSet}
      {state middle after : ParseState} {items : List (List Tree)} {stop : Stop} :
      Runs parser depth (.round parts follow) state (.round items true) middle →
      middle.cursor ≠ state.cursor →
      Runs parser depth (.rounds parts follow count) middle (.stopped stop) after →
      Runs parser depth (.rounds parts follow (count + 1)) state (.stopped stop) after
  | contentStopped {depth : Nat} {parts : Repetition} {follow : KindSet}
      {state after : ParseState} {stop : Stop} :
      Runs parser depth (.chain parts.content (parser.planRepetition parts follow).afterContent)
        state (.stopped stop) after →
      Runs parser depth (.round parts follow) state (.stopped stop) after
  | joined {depth : Nat} {parts : Repetition} {follow : KindSet} {state after : ParseState}
      {content : List Tree} :
      Runs parser depth (.chain parts.content (parser.planRepetition parts follow).afterContent)
        state (.chain content) after →
      parser.joins (parser.settle (parser.planRepetition parts follow) after)
        (parser.planRepetition parts follow) = true →
      Runs parser depth (.round parts follow) state
        (.round [content, [.empty parts.separator]] true)
        (parser.settle (parser.planRepetition parts follow) after)
  | separated {depth : Nat} {parts : Repetition} {follow : KindSet}
      {state middle after : ParseState} {content separator : List Tree} :
      Runs parser depth (.chain parts.content (parser.planRepetition parts follow).afterContent)
        state (.chain content) middle →
      parser.joins (parser.settle (parser.planRepetition parts follow) middle)
        (parser.planRepetition parts follow) = false →
      parser.at? (parser.settle (parser.planRepetition parts follow) middle)
        (parser.prediction.firstOf parts.separator).tokens = true →
      Runs parser depth
        (.chain parts.separator (parser.planRepetition parts follow).afterSeparator)
        (parser.settle (parser.planRepetition parts follow) middle) (.chain separator) after →
      Runs parser depth (.round parts follow) state
        (.round [content, separator]
          (parser.continues after (parser.planRepetition parts follow))) after
  | ended {depth : Nat} {parts : Repetition} {follow : KindSet}
      {state middle after : ParseState} {content separator : List Tree} :
      Runs parser depth (.chain parts.content (parser.planRepetition parts follow).afterContent)
        state (.chain content) middle →
      parser.joins (parser.settle (parser.planRepetition parts follow) middle)
        (parser.planRepetition parts follow) = false →
      parser.at? (parser.settle (parser.planRepetition parts follow) middle)
        (parser.prediction.firstOf parts.separator).tokens = false →
      parts.trailing = .required →
      Runs parser depth
        (.chain parts.separator (parser.planRepetition parts follow).afterSeparator)
        (parser.settle (parser.planRepetition parts follow) middle) (.chain separator) after →
      Runs parser depth (.round parts follow) state (.round [content, separator] false) after
  | separatorStopped {depth : Nat} {parts : Repetition} {follow : KindSet}
      {state middle after : ParseState} {content : List Tree} {stop : Stop} :
      Runs parser depth (.chain parts.content (parser.planRepetition parts follow).afterContent)
        state (.chain content) middle →
      parser.joins (parser.settle (parser.planRepetition parts follow) middle)
        (parser.planRepetition parts follow) = false →
      (parser.at? (parser.settle (parser.planRepetition parts follow) middle)
          (parser.prediction.firstOf parts.separator).tokens = true ∨
        parts.trailing = .required) →
      Runs parser depth
        (.chain parts.separator (parser.planRepetition parts follow).afterSeparator)
        (parser.settle (parser.planRepetition parts follow) middle) (.stopped stop) after →
      Runs parser depth (.round parts follow) state (.stopped stop) after
  | closed {depth : Nat} {parts : Repetition} {follow : KindSet} {state after : ParseState}
      {content : List Tree} :
      Runs parser depth (.chain parts.content (parser.planRepetition parts follow).afterContent)
        state (.chain content) after →
      parser.joins (parser.settle (parser.planRepetition parts follow) after)
        (parser.planRepetition parts follow) = false →
      parser.at? (parser.settle (parser.planRepetition parts follow) after)
        (parser.prediction.firstOf parts.separator).tokens = false →
      parts.trailing ≠ .required →
      Runs parser depth (.round parts follow) state (.round [content] false)
        (parser.settle (parser.planRepetition parts follow) after)

def Reaches (parser : Parser) (depth : Nat) (task : Task) (state : ParseState)
    (outcome : α → Outcome) : EStateM.Result Stop ParseState α → Prop
  | .ok value after => Runs parser depth task state (outcome value) after
  | .error stop after => Runs parser depth task state (.stopped stop) after

/-! ## Steps of the monad -/

theorem bind_run (first : ParseM α) (next : α → ParseM β) (state : ParseState) :
    (first >>= next) state =
      match first state with
      | .ok value after => next value after
      | .error stop after => .error stop after := by
  cases done : first state <;> simp [bind, EStateM.bind, done]

theorem get_run (state : ParseState) : (get : ParseM ParseState) state = .ok state state := rfl

theorem set_run (value state : ParseState) : (set value : ParseM PUnit) state = .ok ⟨⟩ value :=
  rfl

theorem modify_run (change : ParseState → ParseState) (state : ParseState) :
    (modify change : ParseM PUnit) state = .ok ⟨⟩ (change state) := rfl

theorem pure_run (value : α) (state : ParseState) :
    (pure value : ParseM α) state = .ok value state := rfl

theorem throw_run (stop : Stop) (state : ParseState) :
    (throw stop : ParseM α) state = .error stop state := rfl

theorem ite_run (condition : Prop) [Decidable condition] (first second : ParseM α)
    (state : ParseState) :
    (if condition then first else second) state =
      if condition then first state else second state := by
  split <;> rfl

/-! ## What the functions do is a run -/

variable {parser : Parser} {depth : Nat} {parse : ChainParser}

/-- A parser of chains that does what a run of the descent does. -/
def Follows (parser : Parser) (depth : Nat) (parse : ChainParser) : Prop :=
  ∀ id follow state,
    parser.Reaches depth (.chain id follow) state .chain (parse id follow state)

theorem Follows.of_ok
    (follows : parser.Follows depth parse) {id : ExprId} {follow : KindSet}
    {state after : ParseState} {nodes : List Tree}
    (done : parse id follow state = .ok nodes after) :
    parser.Runs depth (.chain id follow) state (.chain nodes) after := by
  have reached := follows id follow state
  rwa [done] at reached

theorem Follows.of_error
    (follows : parser.Follows depth parse) {id : ExprId} {follow : KindSet}
    {state after : ParseState} {stop : Stop}
    (failed : parse id follow state = .error stop after) :
    parser.Runs depth (.chain id follow) state (.stopped stop) after := by
  have reached := follows id follow state
  rwa [failed] at reached

theorem reaches_missing
    {id : ExprId} {follow : KindSet} {state : ParseState} {element : Element}
    (lacks : parser.Lacks state element) :
    parser.Reaches depth (.element id follow element) state .node (parser.missing id state) := by
  simp only [Parser.missing, bind_run, get_run, set_run, ite_run, pure_run, throw_run]
  split
  · rename_i tolerant
    exact .missing tolerant lacks
  · rename_i strict
    exact .aborted (by simpa using strict) lacks

theorem reaches_parseRound
    (follows : parser.Follows depth parse) (parts : Repetition) (follow : KindSet)
    (state : ParseState) :
    parser.Reaches depth (.round parts follow) state (fun found => .round found.1 found.2)
      (parser.parseRound parse (parser.planRepetition parts follow) state) := by
  simp only [parseRound, bind_run, get_run, modify_run, ite_run, pure_run]
  split
  · rename_i content middle contentDone
    have contentRun := follows.of_ok contentDone
    split
    · rename_i joins
      exact .joined contentRun joins
    · rename_i apart
      rw [Bool.not_eq_true] at apart
      split
      · rename_i separates
        split
        · rename_i separator after done
          exact .separated contentRun apart separates (follows.of_ok done)
        · rename_i stop after failed
          exact .separatorStopped contentRun apart (.inl separates) (follows.of_error failed)
      · rename_i unseparated
        rw [Bool.not_eq_true] at unseparated
        split
        · rename_i required
          split
          · rename_i separator after done
            exact .ended contentRun apart unseparated required (follows.of_ok done)
          · rename_i stop after failed
            exact .separatorStopped contentRun apart (.inr required) (follows.of_error failed)
        · rename_i open'
          exact .closed contentRun apart unseparated open'
  · rename_i stop after failed
    exact .contentStopped (follows.of_error failed)

theorem reaches_parseRounds
    (follows : parser.Follows depth parse) (parts : Repetition) (follow : KindSet)
    (count : Nat) (state : ParseState) :
    parser.Reaches depth (.rounds parts follow count) state .items
      (parser.parseRounds parse (parser.planRepetition parts follow) count state) := by
  induction count generalizing state with
  | zero => exact .noRoundsLeft
  | succ count induction =>
      have roundReached := reaches_parseRound follows parts follow state
      simp only [parseRounds, bind_run, get_run, set_run, ite_run, pure_run]
      split
      · rename_i found middle roundDone
        obtain ⟨items, more⟩ := found
        rw [roundDone] at roundReached
        cases more with
        | false => exact .lastRound roundReached
        | true =>
            simp only [if_true]
            split
            · rename_i stuck
              exact .stuckRound roundReached stuck
            · rename_i moved
              have restReached := induction middle
              split
              · rename_i rest after restDone
                rw [restDone] at restReached
                exact .moreRounds roundReached moved restReached
              · rename_i stop after restFailed
                rw [restFailed] at restReached
                exact .moreStopped roundReached moved restReached
      · rename_i stop after roundFailed
        rw [roundFailed] at roundReached
        exact .roundStopped roundReached

theorem reaches_parseLead
    (follows : parser.Follows depth parse) (parts : Repetition) (follow : KindSet)
    (state : ParseState) :
    parser.Reaches depth (.lead parts follow) state .items
      (parser.parseLead parse (parser.planRepetition parts follow) state) := by
  simp only [parseLead, bind_run, get_run, ite_run, pure_run]
  split
  · rename_i leads
    split
    · rename_i separator after done
      exact .led leads (follows.of_ok done)
    · rename_i stop after failed
      exact .ledStopped leads (follows.of_error failed)
  · rename_i unled
    exact .unled (by simpa using unled)

theorem reaches_parseRepetition
    (follows : parser.Follows depth parse) (parts : Repetition) (follow : KindSet)
    (state : ParseState) :
    parser.Reaches depth (.repetition parts follow) state .items
      (parser.parseRepetition parse parts follow state) := by
  have leadReached := reaches_parseLead follows parts follow state
  simp only [parseRepetition, bind_run, get_run, ite_run, pure_run]
  split
  · rename_i leading middle leadDone
    rw [leadDone] at leadReached
    split
    · rename_i noInput
      exact .leadOnly leadReached (by simpa using noInput)
    · rename_i input
      have visible : parser.currentKind? middle ≠ none := by simpa using input
      have restReached := reaches_parseRounds follows parts follow
        (parser.document.size - middle.cursor + 1) middle
      split
      · rename_i rest after restDone
        rw [restDone] at restReached
        exact .filled leadReached visible restReached
      · rename_i stop after restFailed
        rw [restFailed] at restReached
        exact .filledStopped leadReached visible restReached
  · rename_i stop after leadFailed
    rw [leadFailed] at leadReached
    exact .leadStopped leadReached

theorem reaches_parseElement
    (follows : parser.Follows depth parse) (id : ExprId) (follow : KindSet) (element : Element)
    (state : ParseState) :
    parser.Reaches depth (.element id follow element) state .node
      (parser.parseElement parse id follow element state) := by
  cases element with
  | token kind =>
      simp only [parseElement, bind_run, get_run, modify_run, ite_run, pure_run]
      split
      · rename_i found
        exact .token found
      · rename_i other
        exact reaches_missing other
  | nonTerminal name =>
      simp only [parseElement, bind_run, get_run, ite_run, pure_run, within]
      split
      · rename_i starts
        cases childDone : parse (parser.grammar.ruleOf name) follow
            (parser.openFrame name state) with
        | ok child after => exact .entered starts (follows.of_ok childDone)
        | error stop after => exact .enteredStopped starts (follows.of_error childDone)
      · rename_i other
        rw [Bool.not_eq_true] at other
        split
        · rename_i nullable
          exact .absent other nullable
        · rename_i full
          exact reaches_missing ⟨other, by simpa using full⟩
  | empty => exact .empty
  | optional inner =>
      simp only [parseElement, bind_run, get_run, ite_run, pure_run]
      split
      · rename_i starts
        split
        · rename_i child after done
          exact .optional starts (follows.of_ok done)
        · rename_i stop after failed
          exact .optionalStopped starts (follows.of_error failed)
      · rename_i other
        exact .optionalAbsent (by simpa using other)
  | alternation branches =>
      simp only [parseElement, bind_run, get_run]
      cases chosen : parser.chooseBranch state branches with
      | some branch =>
          simp only [bind_run, pure_run]
          split
          · rename_i child after done
            exact .alternation chosen (follows.of_ok done)
          · rename_i stop after failed
            exact .alternationStopped chosen (follows.of_error failed)
      | none => exact reaches_missing chosen
  | repetition parts =>
      have reached := reaches_parseRepetition follows parts follow state
      simp only [parseElement, bind_run, pure_run]
      split
      · rename_i items after done
        rw [done] at reached
        exact .repetition reached
      · rename_i stop after failed
        rw [failed] at reached
        exact .repetitionStopped reached

/-- What the descent does with a chain is a run. -/
theorem follows_parseChain (parser : Parser) (depth : Nat) :
    parser.Follows depth (parser.parseChain depth) := by
  induction depth with
  | zero => exact fun id follow state => .exhausted
  | succ depth induction =>
      intro id follow state
      have elementReached := reaches_parseElement induction id (parser.followOfElement id follow)
        (parser.grammar.expr id).element (parser.arrive id follow state)
      simp only [parseChain, bind_run, modify_run]
      split
      · rename_i node middle nodeDone
        rw [nodeDone] at elementReached
        cases following : (parser.grammar.expr id).next with
        | none => exact .last following elementReached
        | some next =>
            simp only [bind_run, pure_run]
            split
            · rename_i nodes after done
              exact .cons following elementReached (induction.of_ok done)
            · rename_i stop after failed
              exact .stoppedNext following elementReached (induction.of_error failed)
      · rename_i stop after nodeFailed
        rw [nodeFailed] at elementReached
        exact .stoppedFirst elementReached

end Parser

end Reparse
