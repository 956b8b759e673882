import Reparse.Text.Quoted
import Reparse.Token

/-!
# Events

What the library tells about its work while it goes on: each event has a level and a message.
-/

namespace Reparse

inductive Level where
  | error
  | warn
  | info
  | debug
  | trace
  deriving DecidableEq, Repr

namespace Level

/-- The louder a level, the smaller its rank. -/
def rank : Level → Nat
  | .error => 1
  | .warn => 2
  | .info => 3
  | .debug => 4
  | .trace => 5

def render : Level → String
  | .error => "ERROR"
  | .warn => "WARN"
  | .info => "INFO"
  | .debug => "DEBUG"
  | .trace => "TRACE"

end Level

/-- A token as it is shown to a reader: the name of its kind and its text. -/
structure ShownToken where
  kind : String
  text : Text
  deriving DecidableEq, Repr

def ShownToken.render (token : ShownToken) : String :=
  token.kind ++ " " ++ Text.quoted token.text

inductive Event where
  | noPatternMatches (char : Char) (offset : Nat)
  | tokenized (tokens changes : Nat) (region : Option Span)
  | setsConverged (rounds : Nat)
  | entered (depth : Nat) (rule : String) (first : Option TokenId)
  | left (depth : Nat) (rule : String) (cutShort : Bool)
  | endLifted
  | endUntil (rule : String)
  | enteringRegion (token : ShownToken)
  | leavingRegion (token : ShownToken)
  | skipping (token : ShownToken)
  | skippingTrailing (token : ShownToken)
  | missing (expression : String) (found : Option TokenId)
  | noProgress
  | aborted (found : Option TokenId)
  | parsedCleanly
  | firstPassErrors (count : Nat)
  | recoverySkipped
  | recoveryErrors (count : Nat)
  | widening (deleted : TokenId) (block : Span)
  deriving DecidableEq, Repr

abbrev Log := Array Event

namespace Event

def level : Event → Level
  | .noPatternMatches .. => .warn
  | .parsedCleanly | .firstPassErrors _ | .recoverySkipped | .recoveryErrors _ | .widening .. =>
      .debug
  | _ => .trace

def component : Event → String
  | .noPatternMatches .. => "tokenizer"
  | .tokenized .. => "factory"
  | .setsConverged _ => "grammar"
  | .parsedCleanly | .firstPassErrors _ | .recoverySkipped | .recoveryErrors _ | .widening .. =>
      "session"
  | _ => "parser"

def tokenIdText (id : TokenId) : String := "TokenId(" ++ toString id ++ ")"

def optionText (shown : α → String) : Option α → String
  | none => "None"
  | some value => "Some(" ++ shown value ++ ")"

def spanText (span : Span) : String :=
  "Span \x7b start: " ++ toString span.start ++ ", end: " ++ toString span.stop ++ " \x7d"

def message : Event → String
  | .noPatternMatches char offset =>
      "No token pattern matches " ++ Text.quotedChar char ++ " at offset " ++ toString offset ++
        ", stopping"
  | .tokenized tokens changes region =>
      "tokenized " ++ toString tokens ++ " tokens after " ++ toString changes ++
        " changes, changed region " ++ optionText spanText region
  | .setsConverged rounds => "token sets converged after " ++ toString rounds ++ " rounds"
  | .entered depth rule place =>
      Text.indentation depth ++ "> " ++ rule ++ " at " ++ optionText tokenIdText place
  | .left depth rule cutShort =>
      Text.indentation depth ++ "< " ++ rule ++ (if cutShort then " (aborted)" else "")
  | .endLifted => "virtual end of input lifted"
  | .endUntil rule => "virtual end of input until " ++ rule ++ " returns"
  | .enteringRegion token => "entering changed input at " ++ token.render
  | .leavingRegion token => "leaving changed input at " ++ token.render
  | .skipping token => "skipping " ++ token.render
  | .skippingTrailing token => "skipping trailing " ++ token.render
  | .missing expression found =>
      "missing " ++ expression ++ " at " ++ optionText tokenIdText found
  | .noProgress => "repeat made no progress"
  | .aborted found => "parse aborted at Missing(" ++ optionText tokenIdText found ++ ")"
  | .parsedCleanly => "parsed without errors"
  | .firstPassErrors count => "first pass found " ++ toString count ++ " errors"
  | .recoverySkipped => "change based recovery skipped"
  | .recoveryErrors count =>
      "change based recovery finished with " ++ toString count ++ " errors"
  | .widening deleted block =>
      "widening deletion of " ++ tokenIdText deleted ++ " to block " ++ block.render

/-- Whether the event is at least as loud as the rank asks. -/
def isWithin (event : Event) (rank : Nat) : Bool := event.level.rank ≤ rank

end Event

end Reparse
