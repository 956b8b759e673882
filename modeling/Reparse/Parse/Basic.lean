import Reparse.Tree.Printer

/-!
# Parses

A parse is the tree that was made for a document, together with the document whose tokens the tree
refers to and the tokens that were skipped on the way.
-/

namespace Reparse

structure Parse where
  tree : Tree
  document : Document
  skipped : List TokenId

namespace Parse

def nodes (parse : Parse) : List Tree := parse.tree.walk

def missingNodes (parse : Parse) : List Tree := Tree.missingNodes [parse.tree]

def hasErrors (parse : Parse) : Bool := Tree.hasErrors [parse.tree]

/-- The same parse with the edit history of its document dropped. -/
def forgetEdits (parse : Parse) : Parse := { parse with document := parse.document.forgetEdits }

def render (parse : Parse) (grammar : Grammar) : String :=
  Tree.renderChain grammar parse.document 0 [parse.tree]

end Parse

end Reparse
