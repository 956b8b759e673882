import Reparse.Document.Basic

/-!
# Parse trees

A node of a parse tree was made for one expression of the grammar.  Just as expressions form
chains, so do nodes: a chain of nodes is a list, and a node holds the chains of its parts.  A
missing node stands where an expression could not be matched.

Nodes are visited in preorder: a node, then the chains of its parts, each chained node followed by
all below it.  The visit keeps a stack of chains that wait for their turn.
-/

namespace Reparse

inductive Tree where
  | token (expr : ExprId) (id : TokenId)
  /-- A non-terminal; its chain is empty if it matched nothing. -/
  | nonTerminal (expr : ExprId) (id : NonTerminalId) (child : List Tree)
  | empty (expr : ExprId)
  | optional (expr : ExprId) (child : List Tree)
  | alternation (expr : ExprId) (child : List Tree)
  /-- Contents and separators in turn. -/
  | repetition (expr : ExprId) (items : List (List Tree))
  /-- Holds the token found instead, if the input did not end there. -/
  | missing (expr : ExprId) (found : Option TokenId)
  deriving Repr

instance : Inhabited Tree := ⟨.empty 0⟩

namespace Tree

def expr : Tree → ExprId
  | .token expr _ => expr
  | .nonTerminal expr _ _ => expr
  | .empty expr => expr
  | .optional expr _ => expr
  | .alternation expr _ => expr
  | .repetition expr _ => expr
  | .missing expr _ => expr

def isMissing : Tree → Bool
  | .missing .. => true
  | _ => false

/-- The chain of a part as the only one, if the part is there. -/
def part : List Tree → List (List Tree)
  | [] => []
  | child => [child]

def children : Tree → List (List Tree)
  | .nonTerminal _ _ child => part child
  | .optional _ child => part child
  | .alternation _ child => part child
  | .repetition _ items => items
  | _ => []

mutual

/-- Number of steps of a visit to a node and all below it. -/
def steps : Tree → Nat
  | .nonTerminal _ _ child => 1 + chainSteps child
  | .optional _ child => 1 + chainSteps child
  | .alternation _ child => 1 + chainSteps child
  | .repetition _ items => 1 + stackSteps items
  | .token _ _ => 1
  | .empty _ => 1
  | .missing _ _ => 1

def chainSteps : List Tree → Nat
  | [] => 1
  | node :: next => node.steps + chainSteps next

/-- Number of steps of a visit to the chains of a stack. -/
def stackSteps : List (List Tree) → Nat
  | [] => 0
  | chain :: rest => chainSteps chain + stackSteps rest

end

/-- Visits the chains of a stack: a node comes before its parts, and those before the rest of its
chain.  Each node is given with the rest of its chain. -/
def visit : Nat → List (List Tree) → List (Tree × List Tree)
  | 0, _ => []
  | _ + 1, [] => []
  | fuel + 1, [] :: stack => visit fuel stack
  | fuel + 1, (node :: next) :: stack =>
      (node, next) :: visit fuel (node.children ++ next :: stack)

/-- The node and everything below it in preorder, each with the rest of its chain; the node itself
is taken without one. -/
def walkLinks (node : Tree) : List (Tree × List Tree) := visit (stackSteps [[node]]) [[node]]

/-- The node and everything below it in preorder. -/
def walk (node : Tree) : List Tree := node.walkLinks.map Prod.fst

/-- The token that a node consumed, or found in place of a missing one. -/
def ownToken? : Tree → Option TokenId
  | .token _ id => some id
  | .missing _ found => found
  | _ => none

/-- The tokens within a node, those found in place of missing ones included. -/
def tokens (node : Tree) : List TokenId := node.walk.filterMap ownToken?

def firstToken? (node : Tree) : Option TokenId := node.tokens.head?

def lastToken? (node : Tree) : Option TokenId := node.tokens.getLast?

/-- The span from the first token of a node to its last. -/
def tokenSpan? (document : Document) (node : Tree) : Option Span := do
  let first ← node.firstToken?
  let last ← node.lastToken?
  return (document.tokenSpan first).hull (document.tokenSpan last)

/-- The nodes of a chain, each followed by everything below it. -/
def walkChain (chain : List Tree) : List Tree := chain.flatMap walk

/-- The missing nodes of a chain in the order of the text. -/
def missingNodes (chain : List Tree) : List Tree := (walkChain chain).filter isMissing

def hasErrors (chain : List Tree) : Bool := (walkChain chain).any isMissing

/-- The items of a repetition made for one of its two parts. -/
def itemsFor (grammar : Grammar) (part : Repetition → ExprId) : Tree → List (List Tree)
  | .repetition expr items =>
      match (grammar.expr expr).element with
      | .repetition parts => items.filter fun item => (item.head?.map Tree.expr) = some (part parts)
      | _ => []
  | _ => []

def contents (grammar : Grammar) (node : Tree) : List (List Tree) :=
  node.itemsFor grammar Repetition.content

/-- The separators of a repetition, with the empty nodes that stand for those that match nothing. -/
def separators (grammar : Grammar) (node : Tree) : List (List Tree) :=
  node.itemsFor grammar Repetition.separator

end Tree

end Reparse
