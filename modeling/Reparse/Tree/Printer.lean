import Reparse.Tree.Basic

/-!
# Printing trees

A tree is printed with a line for each non-terminal, token and missing node, indented by the number
of non-terminals around it.  Optional parts, alternatives and repetitions have no lines of their
own.
-/

namespace Reparse.Tree

mutual

def renderNode (grammar : Grammar) (document : Document) (depth : Nat) : Tree → String
  | .token _ id => Text.indentation depth ++ (document.shown grammar id).render ++ "\n"
  | .nonTerminal _ id child =>
      Text.indentation depth ++ (grammar.nonTerminalOf id).name ++ "\n" ++
        renderChain grammar document (depth + 1) child
  | .empty _ => ""
  | .optional _ child => renderChain grammar document depth child
  | .alternation _ child => renderChain grammar document depth child
  | .repetition _ items => renderChains grammar document depth items
  | .missing _ none => Text.indentation depth ++ "!missing <eof>\n"
  | .missing _ (some id) =>
      Text.indentation depth ++ "!missing " ++ (document.shown grammar id).render ++ "\n"

def renderChain (grammar : Grammar) (document : Document) (depth : Nat) : List Tree → String
  | [] => ""
  | node :: next =>
      renderNode grammar document depth node ++ renderChain grammar document depth next

def renderChains (grammar : Grammar) (document : Document) (depth : Nat) :
    List (List Tree) → String
  | [] => ""
  | chain :: rest =>
      renderChain grammar document depth chain ++ renderChains grammar document depth rest

end

end Reparse.Tree
