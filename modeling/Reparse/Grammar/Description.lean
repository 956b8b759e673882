import Reparse.Language
import Reparse.Text.Lines

/-!
# Descriptions of grammars

A description is a grammar as a person writes it.  Its language has the token kinds in the order of
the patterns and the non-terminals in the order of the rule names.  Any function may compile the
patterns.
-/

namespace Reparse

structure TokenPattern where
  name : String
  pattern : Text
  deriving DecidableEq, Repr

inductive RuleExpr where
  | token (name : String)
  | nonTerminal (name : String)
  | empty
  | optional (inner : RuleExpr)
  | alternation (branches : List RuleExpr)
  | sequence (items : List RuleExpr)
  | repetition (content : RuleExpr) (separator : Option RuleExpr)
      (leading trailing : Presence)
  deriving Repr

instance : Inhabited RuleExpr := ⟨.empty⟩

structure Description where
  tokens : List TokenPattern
  skip : Option Text
  /-- The kind of text that no pattern matches. -/
  fallback : Option String
  rules : List (String × RuleExpr)
  blocks : List String
  start : String
  deriving Repr

inductive DescriptionError where
  | unknownToken (name : String)
  | undefinedNonTerminal (name : String)
  | invalidPattern (name : String)
  deriving DecidableEq, Repr

/-- What is wrong, in one line.  A pattern's fault is explained on the lines below, which start
after a line break in the pattern's name if it has one. -/
def DescriptionError.message : DescriptionError → String
  | .unknownToken name => "Unknown token '" ++ name ++ "'"
  | .undefinedNonTerminal name => "Non-terminal '" ++ name ++ "' has no rule"
  | .invalidPattern name =>
      String.ofList (Lines.firstLine ("Invalid pattern for '" ++ name ++ "'").toList)

namespace Description

/-- Puts a rule among the rules sorted by name; a later rule takes the place of an earlier one. -/
def insertRule (name : String) (rule : α) : List (String × α) → List (String × α)
  | [] => [(name, rule)]
  | (other, otherRule) :: rest =>
      if name < other then (name, rule) :: (other, otherRule) :: rest
      else if name = other then (name, rule) :: rest
      else (other, otherRule) :: insertRule name rule rest

def sortRules (rules : List (String × α)) : List (String × α) :=
  rules.foldl (fun sorted (name, rule) => insertRule name rule sorted) []

/-- Compiles a pattern of a name to what matches it at the start of a text. -/
def matcherBy (compile : Text → Option Matcher) (name : String) (pattern : Text) :
    Except DescriptionError Matcher :=
  match compile pattern with
  | some matcher => .ok matcher
  | none => .error (.invalidPattern name)

def declareTokens (compile : Text → Option Matcher) (grammar : Grammar) :
    List TokenPattern → Except DescriptionError (List (TokenKind × Matcher) × Grammar)
  | [] => .ok ([], grammar)
  | rule :: rest => do
      let (kind, grammar) := grammar.token rule.name
      let matcher ← matcherBy compile rule.name rule.pattern
      let (rules, grammar) ← declareTokens compile grammar rest
      return ((kind, matcher) :: rules, grammar)

def resolveNonTerminal (grammar : Grammar) (name : String) :
    Except DescriptionError NonTerminalId :=
  match grammar.findNonTerminal? name with
  | some id => .ok id
  | none => .error (.undefinedNonTerminal name)

mutual

/-- Adds the expressions of a rule, parts before wholes and left before right. -/
def lower (grammar : Grammar) : RuleExpr → Except DescriptionError (ExprId × Grammar)
  | .token name =>
      match grammar.findToken? name with
      | some kind => .ok (grammar.tokenExpr kind)
      | none => .error (.unknownToken name)
  | .nonTerminal name => do
      let id ← resolveNonTerminal grammar name
      return grammar.nonTerminalExpr id
  | .empty => .ok (Grammar.emptyExpr, grammar)
  | .optional inner => do
      let (inner, grammar) ← lower grammar inner
      return grammar.optional inner
  | .alternation branches => do
      let (branches, grammar) ← lowerAll grammar branches
      return grammar.alternation branches
  | .sequence items => do
      let (items, grammar) ← lowerAll grammar items
      return grammar.seqAll items
  | .repetition content none leading trailing => do
      let (content, grammar) ← lower grammar content
      return grammar.repetition ⟨content, Grammar.emptyExpr, leading, trailing⟩
  | .repetition content (some separator) leading trailing => do
      let (content, grammar) ← lower grammar content
      let (separator, grammar) ← lower grammar separator
      return grammar.repetition ⟨content, separator, leading, trailing⟩

def lowerAll (grammar : Grammar) : List RuleExpr → Except DescriptionError (List ExprId × Grammar)
  | [] => .ok ([], grammar)
  | item :: rest => do
      let (item, grammar) ← lower grammar item
      let (rest, grammar) ← lowerAll grammar rest
      return (item :: rest, grammar)

end

def addRule (grammar : Grammar) (name : String) (rule : RuleExpr) :
    Except DescriptionError Grammar := do
  let (expr, grammar) ← lower grammar rule
  let id ← resolveNonTerminal grammar name
  return grammar.setRule id expr

def addBlock (grammar : Grammar) (name : String) : Except DescriptionError Grammar := do
  let id ← resolveNonTerminal grammar name
  return grammar.setBlock id true

def buildBy (compile : Text → Option Matcher) (description : Description) :
    Except DescriptionError Language := do
  let (rules, grammar) ← declareTokens compile .initial description.tokens
  let skip ← description.skip.mapM (matcherBy compile "skip")
  let (fallback, grammar) :=
    match description.fallback with
    | none => (none, grammar)
    | some name =>
        let (kind, grammar) := grammar.token name
        (some kind, grammar)
  let sorted := sortRules description.rules
  let grammar := sorted.foldl (fun grammar (name, _) => (grammar.nonTerminal name).2) grammar
  let grammar ← sorted.foldlM (fun grammar (name, rule) => addRule grammar name rule) grammar
  let grammar ← description.blocks.foldlM addBlock grammar
  let start ← resolveNonTerminal grammar description.start
  let scanner : Scanner := ⟨rules, skip, fallback⟩
  return ⟨grammar, scanner.tokenizer, start⟩

end Description

end Reparse
