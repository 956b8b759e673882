import Reparse.Directory
import Reparse.Forms
import Reparse.Json.Reader
import Reparse.Parse.Outline
import Reparse.Pattern.Matching

/-!
# The command line

The program parses a source by a grammar and then applies batches of edits to it.  Files are looked
up by path and output is collected, so a run is a function of its arguments and files.
-/

namespace Reparse.CommandLine

/-- The texts of the files, by path. -/
abbrev Files := String → Except FileError Text

structure Arguments where
  grammar : String
  source : String
  edits : Option String
  config : Option String
  showRules : Bool
  showOutline : Bool
  deriving DecidableEq, Repr

inductive Failure where
  | usage
  | unknownFlag (flag : String)
  | fileExpected (flag : String)
  | unreadable (file : String) (error : FileError)
  | malformed (file : String)
  | invalidGrammar (file : String) (error : DescriptionError)
  | unopened (error : UpdateError)
  | rejectedEdit (number : Nat) (error : UpdateError)
  deriving DecidableEq, Repr

def updateErrorMessage : UpdateError → String
  | .edit error => error.message
  | .endless => "The grammar is left recursive"

namespace Failure

def message : Failure → String
  | .usage =>
      "Usage: parseg <grammar.json> <source> [--edits <edits.json>] [--config <config.json>] " ++
        "[--rules] [--outline]"
  | .unknownFlag flag => "Unknown flag " ++ flag
  | .fileExpected flag => "Expected a file after " ++ flag
  | .unreadable file error => "Failed to read `" ++ file ++ "`: " ++ error.message
  | .malformed file => "Failed to parse `" ++ file ++ "`"
  | .invalidGrammar file error => "Invalid grammar `" ++ file ++ "`: " ++ error.message
  | .unopened error => updateErrorMessage error
  | .rejectedEdit number error =>
      "Failed to apply edit " ++ toString number ++ ": " ++ updateErrorMessage error

/-- Where the message is only the beginning of an explanation, its line is left open. -/
def isOpenEnded : Failure → Bool
  | .malformed _ => true
  | .invalidGrammar _ (.invalidPattern _) => true
  | _ => false

def render (failure : Failure) : String :=
  if failure.isOpenEnded then failure.message else failure.message ++ "\n"

end Failure

structure Output where
  stdout : String
  stderr : String
  deriving DecidableEq, Repr, Inhabited

abbrev CommandM := EStateM Failure Output

def print (text : String) : CommandM Unit :=
  modify fun output => { output with stdout := output.stdout ++ text }

def printError (text : String) : CommandM Unit :=
  modify fun output => { output with stderr := output.stderr ++ text }

/-- What the arguments ask for, as far as they were read. -/
structure Request where
  files : List String
  edits : Option String
  config : Option String
  showRules : Bool
  showOutline : Bool

/-- Reads an argument that stands alone. -/
def readSwitch (request : Request) (argument : String) : Except Failure Request :=
  if argument = "--rules" then .ok { request with showRules := true }
  else if argument = "--outline" then .ok { request with showOutline := true }
  else if argument.startsWith "--" then .error (.unknownFlag argument)
  else .ok { request with files := request.files ++ [argument] }

/-- Reads arguments in any order.  Of a flag given twice the last one counts. -/
def readArguments (request : Request) : List String → Except Failure Request
  | [] => .ok request
  | [argument] =>
      if argument = "--edits" ∨ argument = "--config" then .error (.fileExpected argument)
      else readSwitch request argument
  | argument :: file :: rest =>
      if argument = "--edits" then readArguments { request with edits := some file } rest
      else if argument = "--config" then readArguments { request with config := some file } rest
      else do readArguments (← readSwitch request argument) (file :: rest)

def arguments? (arguments : List String) : Except Failure Arguments := do
  let request ← readArguments ⟨[], none, none, false, false⟩ arguments
  match request.files with
  | [grammar, source] =>
      return ⟨grammar, source, request.edits, request.config, request.showRules,
        request.showOutline⟩
  | _ => throw .usage

def readFile (files : Files) (name : String) : CommandM Text :=
  match files name with
  | .ok text => return text
  | .error error => throw (.unreadable name error)

def readJson (files : Files) (name : String) (ofJson? : Json → Option α) : CommandM α := do
  let text ← readFile files name
  match (Json.read? text).bind ofJson? with
  | some value => return value
  | none => throw (.malformed name)

/-- The rank of the quietest level that is shown, from the name of a level; warnings by default. -/
def logRank (setting : Option String) : Nat :=
  let name := (setting.getD "WARN").toUpper
  if name = "OFF" then 0
  else if name = "ERROR" then Level.error.rank
  else if name = "INFO" then Level.info.rank
  else if name = "DEBUG" then Level.debug.rank
  else if name = "TRACE" then Level.trace.rank
  else Level.warn.rank

/-- The line that records an event.  Those that only help to find faults also say where they come
from: in the only thread, from which part. -/
def renderRecord (event : Event) : String :=
  let origin :=
    if event.level.rank < Level.debug.rank then ""
    else "(1) parseg::" ++ event.component ++ ": "
  " [" ++ event.level.render ++ "] " ++ origin ++ event.message ++ "\n"

def printLog (rank : Nat) (log : Log) : CommandM Unit :=
  printError (String.join ((log.toList.filter (·.isWithin rank)).map renderRecord))

mutual

def renderItem (grammar : Grammar) (source : Text) (depth : Nat) : OutlineItem → String
  | .mk id span children =>
      Text.indentation depth ++ (grammar.nonTerminalOf id).name ++ " " ++ span.render ++ " " ++
        Text.quoted (Lines.firstLine (span.textIn source)) ++ "\n" ++
        renderItems grammar source (depth + 1) children

def renderItems (grammar : Grammar) (source : Text) (depth : Nat) : List OutlineItem → String
  | [] => ""
  | item :: rest =>
      renderItem grammar source depth item ++ renderItems grammar source depth rest

end

def renderDiagnostic (file : String) (lines : Lines) (source : Text) (diagnostic : Diagnostic) :
    String :=
  let position := (lines.positionAt? source diagnostic.span.start).getD .origin
  file ++ ":" ++ position.render ++ " " ++ diagnostic.severity.render ++ ": " ++
    diagnostic.message ++ "\n"

/-- Prints the last tree and its diagnostics, and the outline if that is asked for. -/
def report (rank : Nat) (file : String) (showOutline : Bool) (session : Session) :
    CommandM Session := do
  match session.last with
  | none => return session
  | some parse =>
      let source := parse.document.source
      let lines := Lines.ofText source
      print (parse.render session.grammar)
      let (found, log, session) := session.diagnose
      printLog rank log
      printError (String.join (found.map (renderDiagnostic file lines source)))
      if showOutline then
        print "\noutline:\n"
        print (renderItems session.grammar source 1 (parse.outline session.grammar))
      return session

def step (rank : Nat) (arguments : Arguments) (failure : UpdateError → Failure)
    (session : Session) (changes : List Change) : CommandM Session := do
  match session.update changes with
  | .error error => throw (failure error)
  | .ok (session, log) =>
      printLog rank log
      report rank arguments.source arguments.showOutline session

/-- Applies the batches of edits from number `number` on. -/
def applyEdits (rank : Nat) (arguments : Arguments) (number : Nat) (session : Session) :
    List (List Change) → CommandM Unit
  | [] => return
  | batch :: rest => do
      print ("\n--- edit " ++ toString number ++ " ---\n")
      let session ← step rank arguments (.rejectedEdit number) session batch
      applyEdits rank arguments (number + 1) session rest

def perform (files : Files) (rank : Nat) (given : List String) : CommandM Unit := do
  let arguments ←
    match arguments? given with
    | .ok arguments => pure arguments
    | .error failure => throw failure
  let description ← readJson files arguments.grammar Description.ofJson?
  let language ←
    match description.build with
    | .ok language => pure language
    | .error error => throw (.invalidGrammar arguments.grammar error)
  let settings ←
    match arguments.config with
    | some file => readJson files file Settings.ofJson?
    | none => pure .standard
  let edits ←
    match arguments.edits with
    | some file => readJson files file (Json.listOf? (Json.listOf? Change.ofJson?))
    | none => pure []
  let source ← readFile files arguments.source
  if arguments.showRules then
    print (language.grammar.renderRules ++ "\n")
  let session := Session.new language settings
  let session ← step rank arguments .unopened session [.insert .origin source]
  applyEdits rank arguments 1 session edits

structure Outcome where
  code : Nat
  output : Output
  deriving DecidableEq, Repr

/-- Runs the program on arguments, with the files it may read and the name of a log level. -/
def run (files : Files) (level : Option String) (given : List String) : Outcome :=
  match perform files (logRank level) given default with
  | .ok _ output => ⟨0, output⟩
  | .error failure output => ⟨1, { output with stderr := output.stderr ++ failure.render }⟩

end Reparse.CommandLine
