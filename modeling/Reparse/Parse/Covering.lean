import Reparse.Parse.Basic

/-!
# Nodes around a span

The nodes whose tokens cover a span lie below one another.  The innermost block among them is what
an edit of the span is contained in.
-/

namespace Reparse.Parse

/-- Whether the tokens of a node cover the span. -/
def nodeCovers (document : Document) (span : Span) (node : Tree) : Bool :=
  (node.tokenSpan? document).any fun nodeSpan => nodeSpan.contains span

mutual

/-- The covering nodes from this one down, innermost first.  Below a node only the first part that
covers the span counts. -/
def coveringNode (document : Document) (span : Span) : Tree → List Tree
  | node@(.nonTerminal _ _ child) =>
      if nodeCovers document span node then coveringChain document span child ++ [node] else []
  | node@(.optional _ child) =>
      if nodeCovers document span node then coveringChain document span child ++ [node] else []
  | node@(.alternation _ child) =>
      if nodeCovers document span node then coveringChain document span child ++ [node] else []
  | node@(.repetition _ items) =>
      if nodeCovers document span node then coveringChains document span items ++ [node] else []
  | node => if nodeCovers document span node then [node] else []

/-- The covering nodes of the first node of a chain that covers the span. -/
def coveringChain (document : Document) (span : Span) : List Tree → List Tree
  | [] => []
  | node :: next =>
      match coveringNode document span node with
      | [] => coveringChain document span next
      | found => found

def coveringChains (document : Document) (span : Span) : List (List Tree) → List Tree
  | [] => []
  | chain :: rest =>
      match coveringChain document span chain with
      | [] => coveringChains document span rest
      | found => found

end

/-- The nodes whose tokens cover the span, innermost first. -/
def coveringNodes (parse : Parse) (span : Span) : List Tree :=
  coveringChain parse.document span [parse.tree]

def block? (grammar : Grammar) : Tree → Option NonTerminalId
  | .nonTerminal _ id _ => if (grammar.nonTerminalOf id).isBlock then some id else none
  | _ => none

/-- The span of the innermost block that contains the token. -/
def blockSpan (parse : Parse) (grammar : Grammar) (id : TokenId) : Option Span :=
  let nodes := parse.coveringNodes (parse.document.tokenSpan id)
  (nodes.find? fun node => (block? grammar node).isSome).bind fun node =>
    node.tokenSpan? parse.document

end Reparse.Parse
