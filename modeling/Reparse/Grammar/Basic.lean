import Reparse.Token

/-!
# Grammars

A grammar numbers its token kinds, its non-terminals and the expressions of their rules.  An
expression is one element of a rule and may name the one that follows it, so rules are chains.
Expressions are never changed: putting two chains one after the other copies the left one and shares
the right one.
-/

namespace Reparse

abbrev NonTerminalId := Nat

abbrev ExprId := Nat

/-- Whether a repetition has a separator before its first or after its last content. -/
inductive Presence where
  | required
  | optional
  | prohibited
  deriving DecidableEq, Repr, Inhabited

/-- Contents with separators between them. -/
structure Repetition where
  content : ExprId
  separator : ExprId
  leading : Presence
  trailing : Presence
  deriving DecidableEq, Repr

inductive Element where
  | token (kind : TokenKind)
  | nonTerminal (id : NonTerminalId)
  | empty
  | optional (inner : ExprId)
  | alternation (branches : List ExprId)
  | repetition (parts : Repetition)
  deriving DecidableEq, Repr

structure Expr where
  element : Element
  next : Option ExprId
  deriving DecidableEq, Repr

instance : Inhabited Expr := ⟨⟨.empty, none⟩⟩

structure NonTerminal where
  name : String
  rule : ExprId
  /-- The non-terminal is a block, which contains errors and edits. -/
  isBlock : Bool
  deriving DecidableEq, Repr, Inhabited

structure Grammar where
  tokens : Array String
  nonTerminals : Array NonTerminal
  exprs : Array Expr
  deriving DecidableEq, Repr

namespace Grammar

/-- The number of the empty expression that every grammar starts with. -/
def emptyExpr : ExprId := 0

/-- The grammar without names, which has the empty expression only. -/
def initial : Grammar := ⟨#[], #[], #[⟨.empty, none⟩]⟩

instance : Inhabited Grammar := ⟨initial⟩

def findToken? (grammar : Grammar) (name : String) : Option TokenKind :=
  grammar.tokens.findIdx? (· == name)

def tokenName (grammar : Grammar) (kind : TokenKind) : String := grammar.tokens.getD kind ""

/-- The kind of a name, made on first use. -/
def token (grammar : Grammar) (name : String) : TokenKind × Grammar :=
  match grammar.findToken? name with
  | some kind => (kind, grammar)
  | none => (grammar.tokens.size, { grammar with tokens := grammar.tokens.push name })

def findNonTerminal? (grammar : Grammar) (name : String) : Option NonTerminalId :=
  grammar.nonTerminals.findIdx? (·.name == name)

def nonTerminalOf (grammar : Grammar) (id : NonTerminalId) : NonTerminal :=
  grammar.nonTerminals.getD id default

def ruleOf (grammar : Grammar) (id : NonTerminalId) : ExprId := (grammar.nonTerminalOf id).rule

/-- The non-terminal of a name, made with an empty rule on first use. -/
def nonTerminal (grammar : Grammar) (name : String) : NonTerminalId × Grammar :=
  match grammar.findNonTerminal? name with
  | some id => (id, grammar)
  | none =>
      (grammar.nonTerminals.size,
        { grammar with nonTerminals := grammar.nonTerminals.push ⟨name, emptyExpr, false⟩ })

def setRule (grammar : Grammar) (id : NonTerminalId) (rule : ExprId) : Grammar :=
  { grammar with
    nonTerminals := grammar.nonTerminals.modify id fun old => { old with rule := rule } }

def setBlock (grammar : Grammar) (id : NonTerminalId) (isBlock : Bool) : Grammar :=
  { grammar with
    nonTerminals := grammar.nonTerminals.modify id fun old => { old with isBlock := isBlock } }

def expr (grammar : Grammar) (id : ExprId) : Expr := grammar.exprs.getD id default

def push (grammar : Grammar) (element : Element) (next : Option ExprId) : ExprId × Grammar :=
  (grammar.exprs.size, { grammar with exprs := grammar.exprs.push ⟨element, next⟩ })

def tokenExpr (grammar : Grammar) (kind : TokenKind) : ExprId × Grammar :=
  grammar.push (.token kind) none

def nonTerminalExpr (grammar : Grammar) (id : NonTerminalId) : ExprId × Grammar :=
  grammar.push (.nonTerminal id) none

def optional (grammar : Grammar) (inner : ExprId) : ExprId × Grammar :=
  grammar.push (.optional inner) none

def alternation (grammar : Grammar) (branches : List ExprId) : ExprId × Grammar :=
  grammar.push (.alternation branches) none

def repetition (grammar : Grammar) (parts : Repetition) : ExprId × Grammar :=
  grammar.push (.repetition parts) none

/-- Copies at most `count` elements of the left chain in front of `right`, last element first.  A
lone empty element at the end of the left chain is dropped. -/
def copyChain : Nat → Grammar → ExprId → ExprId → ExprId × Grammar
  | 0, grammar, _, right => (right, grammar)
  | count + 1, grammar, left, right =>
      let expr := grammar.expr left
      match expr.next with
      | none =>
          if expr.element = .empty then (right, grammar)
          else grammar.push expr.element (some right)
      | some next =>
          let (rest, grammar) := copyChain count grammar next right
          grammar.push expr.element (some rest)

/-- The left chain followed by the right one.  Numbers fall along a chain, so no chain has more
elements than the grammar. -/
def seq (grammar : Grammar) (left right : ExprId) : ExprId × Grammar :=
  copyChain grammar.exprs.size grammar left right

/-- The chains one after the other, put together from the last on. -/
def seqAll (grammar : Grammar) (items : List ExprId) : ExprId × Grammar :=
  match items.reverse with
  | [] => (emptyExpr, grammar)
  | last :: others =>
      others.foldl (fun (chain, grammar) item => grammar.seq item chain) (last, grammar)

end Grammar

end Reparse
