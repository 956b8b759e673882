import Reparse.Parse.Covering

/-!
# Outlines

The outline of a document is its blocks, nested as they lie within one another.  A block without
tokens is left out, and what lies below it takes its place.
-/

namespace Reparse

/-- A block of the document with the blocks inside it. -/
inductive OutlineItem where
  | mk (nonTerminal : NonTerminalId) (span : Span) (children : List OutlineItem)
  deriving Repr

namespace Parse

/-- The blocks found below a node, put under the node if it is a block with tokens itself. -/
def outlineOver (grammar : Grammar) (document : Document) (node : Tree)
    (below : List OutlineItem) : List OutlineItem :=
  match block? grammar node, node.tokenSpan? document with
  | some id, some span => [.mk id span below]
  | _, _ => below

mutual

def outlineNode (grammar : Grammar) (document : Document) : Tree → List OutlineItem
  | node@(.nonTerminal _ _ child) =>
      outlineOver grammar document node (outlineChain grammar document child)
  | .optional _ child => outlineChain grammar document child
  | .alternation _ child => outlineChain grammar document child
  | .repetition _ items => outlineChains grammar document items
  | _ => []

def outlineChain (grammar : Grammar) (document : Document) : List Tree → List OutlineItem
  | [] => []
  | node :: next => outlineNode grammar document node ++ outlineChain grammar document next

def outlineChains (grammar : Grammar) (document : Document) :
    List (List Tree) → List OutlineItem
  | [] => []
  | chain :: rest => outlineChain grammar document chain ++ outlineChains grammar document rest

end

def outline (parse : Parse) (grammar : Grammar) : List OutlineItem :=
  outlineNode grammar parse.document parse.tree

end Parse

end Reparse
