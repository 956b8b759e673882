import Reparse.Grammar.Basic

/-!
# Printing grammars

A chain is printed as its elements with spaces between them: optional parts in brackets,
alternatives in parentheses, repetitions in braces with the separator after a slash.
-/

namespace Reparse.Grammar

/-- Prints chains nested at most `depth` deep, links of a chain included. -/
def renderChain (grammar : Grammar) : Nat → ExprId → String
  | 0, _ => ""
  | depth + 1, id =>
      let expr := grammar.expr id
      let shown :=
        match expr.element with
        | .token kind => grammar.tokenName kind
        | .nonTerminal id => (grammar.nonTerminalOf id).name
        | .empty => "ε"
        | .optional inner => "[" ++ grammar.renderChain depth inner ++ "]"
        | .alternation branches =>
            "(" ++ " | ".intercalate (branches.map (grammar.renderChain depth)) ++ ")"
        | .repetition parts =>
            let separator :=
              if parts.separator = emptyExpr then ""
              else " / " ++ grammar.renderChain depth parts.separator
            "\x7b" ++ grammar.renderChain depth parts.content ++ separator ++ "\x7d"
      match expr.next with
      | none => shown
      | some next => shown ++ " " ++ grammar.renderChain depth next

def renderExpr (grammar : Grammar) (id : ExprId) : String :=
  grammar.renderChain grammar.exprs.size id

def renderRule (grammar : Grammar) (nonTerminal : NonTerminal) : String :=
  nonTerminal.name ++ (if nonTerminal.isBlock then " !" else "") ++ " := " ++
    grammar.renderExpr nonTerminal.rule ++ "\n"

def renderRules (grammar : Grammar) : String :=
  String.join (grammar.nonTerminals.toList.map grammar.renderRule)

end Reparse.Grammar
