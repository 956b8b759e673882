import Reparse.Grammar.Prediction
import Reparse.Parse.Basic

/-!
# Diagnostics

What is wrong with a text: every missing node is an error that names what could have stood in its
place, and every skipped token is worth a hint.
-/

namespace Reparse

inductive Severity where
  | error
  | hint
  deriving DecidableEq, Repr

def Severity.render : Severity → String
  | .error => "error"
  | .hint => "hint"

structure Diagnostic where
  severity : Severity
  span : Span
  expected : List TokenKind
  /-- Nothing at the end of the input. -/
  found : Option TokenKind
  message : String
  deriving DecidableEq, Repr

namespace Parse

/-- What a missing node expected, in words. -/
def expectation (grammar : Grammar) (expected : List TokenKind) : String :=
  (if 1 < expected.length then "expected one of " else "expected ") ++
    ", ".intercalate (expected.map grammar.tokenName)

def missingDiagnostic (parse : Parse) (grammar : Grammar) (prediction : Prediction)
    (expr : ExprId) (found : Option TokenId) : Diagnostic :=
  let expected := (prediction.firstOf expr).tokens.toList
  let message := expectation grammar expected
  match found.bind parse.document.token? with
  | some token =>
      ⟨.error, token.span, expected, some token.kind,
        message ++ ", found " ++ grammar.tokenName token.kind⟩
  | none =>
      ⟨.error, .point (Text.byteSize parse.document.source), expected, none,
        message ++ ", found end of input"⟩

def skippedDiagnostic (grammar : Grammar) (token : Token) : Diagnostic :=
  ⟨.hint, token.span, [], some token.kind,
    "skipped unexpected " ++ grammar.tokenName token.kind⟩

/-- An error for every missing node and a hint for every skipped token. -/
def diagnostics (parse : Parse) (grammar : Grammar) (prediction : Prediction) :
    List Diagnostic :=
  let errors := parse.missingNodes.filterMap fun
    | .missing expr found => some (parse.missingDiagnostic grammar prediction expr found)
    | _ => none
  errors ++
    (parse.skipped.filterMap parse.document.token?).map (skippedDiagnostic grammar)

end Parse

end Reparse
