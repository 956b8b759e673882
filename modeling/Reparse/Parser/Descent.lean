import Reparse.Parse.Basic
import Reparse.Parser.State

/-!
# Recursive descent

Every element of a rule is parsed by looking at the current token only.  What may come after a chain
is handed down as a set of kinds, so that a token is skipped only if neither the chain nor anything
around it can consume it.  The depth is bounded for the sake of left recursive grammars.
-/

namespace Reparse

inductive Stop where
  /-- The missing node that ended a parse without error tolerance. -/
  | aborted (expr : ExprId) (found : Option TokenId)
  /-- The descent was deeper than any parse of a grammar without left recursion. -/
  | endless
  deriving DecidableEq, Repr

abbrev ParseM := EStateM Stop ParseState

namespace Parser

abbrev ChainParser := ExprId → KindSet → ParseM (List Tree)

def missing (parser : Parser) (id : ExprId) : ParseM Tree := do
  let state ← get
  let found := parser.currentId? state
  set (state.note (.missing (parser.grammar.renderExpr id) found))
  if parser.leniency.toleratesErrors then
    return .missing id found
  else
    throw (.aborted id found)

/-- Parses the rule of a non-terminal within a frame of its own. -/
def within (parser : Parser) (id : NonTerminalId) (body : ParseM α) : ParseM α := fun state =>
  match body (parser.openFrame id state) with
  | .ok result state => .ok result (parser.closeFrame id false state)
  | .error stop state => .error stop (parser.closeFrame id true state)

/-- The branch that the current token starts, or else the first one that can match nothing. -/
def chooseBranch (parser : Parser) (state : ParseState) (branches : List ExprId) :
    Option ExprId :=
  let starting := do
    let kind ← parser.currentKind? state
    branches.find? fun branch => (parser.prediction.firstOf branch).tokens.contains kind
  match starting with
  | some branch => some branch
  | none => branches.find? fun branch => (parser.prediction.firstOf branch).nullable

structure RepetitionPlan where
  parts : Repetition
  content : FirstSet
  separator : FirstSet
  afterContent : KindSet
  afterSeparator : KindSet

def planRepetition (parser : Parser) (parts : Repetition) (follow : KindSet) : RepetitionPlan :=
  let content := parser.prediction.firstOf parts.content
  let separator := parser.prediction.firstOf parts.separator
  let afterContent := follow ∪ separator.tokens
  { parts
    content
    separator
    afterContent := if separator.nullable then afterContent ∪ content.tokens else afterContent
    afterSeparator := follow ∪ content.tokens }

/-- Skips the tokens after a content that neither the repetition nor what follows it can take. -/
def settle (parser : Parser) (plan : RepetitionPlan) (state : ParseState) : ParseState :=
  if parser.leniency.skipsUnknown then
    parser.skipUpTo [plan.afterContent, plan.content.tokens] state
  else
    state

/-- Whether a content comes after another one with nothing in between. -/
def joins (parser : Parser) (state : ParseState) (plan : RepetitionPlan) : Bool :=
  plan.separator.nullable && parser.at? state plan.content.tokens

/-- Whether another content has to come after a separator. -/
def continues (parser : Parser) (state : ParseState) (plan : RepetitionPlan) : Bool :=
  parser.at? state plan.content.tokens || plan.parts.trailing = .prohibited

/-- A content and what follows it, and whether another content has to come. -/
def parseRound (parser : Parser) (parse : ChainParser) (plan : RepetitionPlan) :
    ParseM (List (List Tree) × Bool) := do
  let content ← parse plan.parts.content plan.afterContent
  modify (parser.settle plan)
  let state ← get
  if parser.joins state plan then
    return ([content, [.empty plan.parts.separator]], true)
  else if parser.at? state plan.separator.tokens then
    let separator ← parse plan.parts.separator plan.afterSeparator
    return ([content, separator], parser.continues (← get) plan)
  else if plan.parts.trailing = .required then
    let separator ← parse plan.parts.separator plan.afterSeparator
    return ([content, separator], false)
  else
    return ([content], false)

/-- Round after round.  One that another follows has moved the cursor, so there are at most as many
rounds as tokens are left, and one more. -/
def parseRounds (parser : Parser) (parse : ChainParser) (plan : RepetitionPlan) :
    Nat → ParseM (List (List Tree))
  | 0 => throw .endless
  | rounds + 1 => do
      let before ← get
      let (items, more) ← parser.parseRound parse plan
      if more then
        let after ← get
        if after.cursor = before.cursor then
          set (after.note .noProgress)
          return items
        else
          return items ++ (← parser.parseRounds parse plan rounds)
      else
        return items

/-- Whether a repetition starts with a separator. -/
def leads (parser : Parser) (state : ParseState) (plan : RepetitionPlan) : Bool :=
  match plan.parts.leading with
  | .required => true
  | .optional => parser.at? state plan.separator.tokens
  | .prohibited => false

/-- The leading separator of a repetition, if it starts with one. -/
def parseLead (parser : Parser) (parse : ChainParser) (plan : RepetitionPlan) :
    ParseM (List (List Tree)) := do
  if parser.leads (← get) plan then
    return [← parse plan.parts.separator plan.afterSeparator]
  else
    return []

/-- The items of a repetition.  At the end of the input there are none but a leading separator. -/
def parseRepetition (parser : Parser) (parse : ChainParser) (parts : Repetition)
    (follow : KindSet) : ParseM (List (List Tree)) := do
  let plan := parser.planRepetition parts follow
  let leading ← parser.parseLead parse plan
  let state ← get
  if (parser.currentKind? state).isNone then
    return leading
  else
    let rounds := parser.document.size - state.cursor + 1
    return leading ++ (← parser.parseRounds parse plan rounds)

/-- The node of one element; `follow` is what may come after the element. -/
def parseElement (parser : Parser) (parse : ChainParser) (id : ExprId) (follow : KindSet) :
    Element → ParseM Tree
  | .token kind => do
      let state ← get
      if parser.currentKind? state = some kind then
        modify parser.advance
        return .token id state.cursor
      else
        parser.missing id
  | .nonTerminal name => do
      let rule := parser.grammar.ruleOf name
      let first := parser.prediction.firstOf rule
      if parser.at? (← get) first.tokens then
        return .nonTerminal id name (← parser.within name (parse rule follow))
      else if first.nullable then
        return .nonTerminal id name []
      else
        parser.missing id
  | .empty => return .empty id
  | .optional inner => do
      if parser.at? (← get) (parser.prediction.firstOf inner).tokens then
        return .optional id (← parse inner follow)
      else
        return .optional id []
  | .alternation branches => do
      match parser.chooseBranch (← get) branches with
      | some branch => return .alternation id (← parse branch follow)
      | none => parser.missing id
  | .repetition parts => return .repetition id (← parser.parseRepetition parse parts follow)

def usesSets (parser : Parser) (expr : Expr) : Bool :=
  parser.leniency.skipsUnknown || expr.next.isSome ||
    match expr.element with
    | .token _ | .empty => false
    | .alternation branches => !branches.isEmpty
    | _ => true

/-- Gets ready for the first element of a chain: the tokens that neither the chain nor what follows
it can take are skipped. -/
def arrive (parser : Parser) (id : ExprId) (follow : KindSet) (state : ParseState) : ParseState :=
  let state :=
    if parser.usesSets (parser.grammar.expr id) then parser.announceSets state else state
  if parser.leniency.skipsUnknown then
    parser.skipUpTo
      [follow, parser.prediction.consumableOf id, (parser.prediction.firstOf id).tokens] state
  else
    state

/-- What may come after the first element of a chain. -/
def followOfElement (parser : Parser) (id : ExprId) (follow : KindSet) : KindSet :=
  match (parser.grammar.expr id).next with
  | none => follow
  | some next => follow ∪ parser.prediction.consumableOf next

/-- Parses the chain that starts at an expression; `follow` is what may come after the chain. -/
def parseChain (parser : Parser) : Nat → ChainParser
  | 0, _, _ => throw .endless
  | depth + 1, id, follow => do
      modify (parser.arrive id follow)
      let expr := parser.grammar.expr id
      let node ←
        parser.parseElement (parser.parseChain depth) id (parser.followOfElement id follow)
          expr.element
      match expr.next with
      | none => return [node]
      | some next => return node :: (← parser.parseChain depth next follow)

/-- Between two tokens the descent goes through each non-terminal at most once, and within a rule
from expressions to ones with smaller numbers. -/
def depthLimit (parser : Parser) : Nat :=
  (parser.document.size + 2) * (parser.grammar.nonTerminals.size + 2) *
    (parser.grammar.exprs.size + 2)

/-- A parse of the whole document and what was told about it. -/
structure Run where
  parse : Parse
  log : Log
  /-- Whether the token sets of the grammar are announced by now. -/
  setsAnnounced : Bool

def finish (parser : Parser) (tree : Tree) (state : ParseState) : Run :=
  ⟨⟨tree, parser.document, state.skipped⟩, state.log, state.setsAnnounced⟩

/-- Skips the tokens after the end of a parse. -/
def sweep (parser : Parser) (state : ParseState) : ParseState :=
  if parser.leniency.skipsUnknown then
    parser.skipRest (parser.document.size - state.cursor) state
  else
    state

/-- Parses the whole document as a non-terminal.  Without error tolerance the first error makes the
tree a lone missing node.  Only a left recursive grammar has no parse. -/
def run? (parser : Parser) (start : NonTerminalId) (setsAnnounced : Bool) : Option Run :=
  let rule := parser.grammar.ruleOf start
  let state := parser.observe (.initial setsAnnounced)
  match parser.within start (parser.parseChain parser.depthLimit rule .empty) state with
  | .ok child state => some (parser.finish (.nonTerminal rule start child) (parser.sweep state))
  | .error (.aborted expr found) state =>
      some (parser.finish (.missing expr found) (state.note (.aborted found)))
  | .error .endless _ => none

end Parser

end Reparse
