import Reparse.Document.Edit
import Reparse.Event
import Reparse.Grammar.Basic
import Reparse.Tokenizer

/-!
# Documents

A document is the tokens of one text together with the edits that made the text from an earlier one,
its base.  All recorded edits are applied to the base again when more come in.
-/

namespace Reparse

structure ScannedText where
  source : Text
  tokens : Array Token
  obstacle : Option Scanner.Obstacle
  deriving DecidableEq, Repr

namespace ScannedText

def ofText (scanner : Tokenizer) (source : Text) : ScannedText :=
  let scan := scanner.scan source
  ⟨source, scan.tokens.toArray, scan.obstacle⟩

def lexeme (scanned : ScannedText) (token : Token) : TokenKind × Text :=
  (token.kind, token.span.textIn scanned.source)

def events (scanned : ScannedText) : List Event :=
  match scanned.obstacle with
  | none => []
  | some obstacle => [.noPatternMatches obstacle.char obstacle.offset]

end ScannedText

structure EditHistory where
  base : ScannedText
  changes : List Change
  /-- Covers every edit in the current text, widened to the tokens it meets. -/
  changed : Option Span
  deriving DecidableEq, Repr

structure Document where
  scanner : Tokenizer
  current : ScannedText
  history : Option EditHistory

namespace Document

def ofText (scanner : Tokenizer) (source : Text) : Document :=
  ⟨scanner, .ofText scanner source, none⟩

/-- The region extended over every token that it meets. -/
def extendOver (region : Span) (tokens : Array Token) : Span :=
  tokens.foldl
    (fun wide token => if token.span.meets region then wide.hull token.span else wide) region

def source (document : Document) : Text := document.current.source

/-- What the recorded edits apply to. -/
def base (document : Document) : ScannedText :=
  match document.history with
  | some history => history.base
  | none => document.current

def baseSource (document : Document) : Text := document.base.source

def changes (document : Document) : List Change :=
  match document.history with
  | some history => history.changes
  | none => []

def changedRegion (document : Document) : Option Span :=
  document.history.bind (·.changed)

def hasChanges (document : Document) : Bool := document.changedRegion.isSome

def update (document : Document) (changes : List Change) : Except EditError Document := do
  if changes.isEmpty then
    return document
  let all := document.changes ++ changes
  let edited ← Edited.applyAll document.baseSource all
  let current := ScannedText.ofText document.scanner edited.source
  let changed := edited.changed.map fun region => extendOver region current.tokens
  return { document with current, history := some ⟨document.base, all, changed⟩ }

/-- Forgets the edits; the current text becomes the base. -/
def forgetEdits (document : Document) : Document := { document with history := none }

/-- Marks a part of the current text as changed, by replacing it with itself. -/
def mark (document : Document) (span : Span) : Except EditError Document :=
  let source := document.source
  let lines := Lines.ofText source
  let start? := lines.positionAt? source span.start
  let stop? := lines.positionAt? source span.stop
  match span.textIn? source, start?, stop? with
  | some text, some start, some stop => document.update [⟨text, start, stop⟩]
  | _, _, _ => .error (.spanOutOfText span)

def creationEvents (document : Document) : List Event := document.current.events

def updateEvents (document : Document) : List Event :=
  document.current.events ++
    [.tokenized document.current.tokens.size document.changes.length document.changedRegion]

def tokens (document : Document) : Array Token := document.current.tokens

def size (document : Document) : Nat := document.tokens.size

def token? (document : Document) (id : TokenId) : Option Token := document.tokens[id]?

/-- The text of a token of the document; empty for other numbers. -/
def tokenText (document : Document) (id : TokenId) : Text :=
  match document.token? id with
  | some token => token.span.textIn document.source
  | none => []

/-- The span of a token of the document; empty for other numbers. -/
def tokenSpan (document : Document) (id : TokenId) : Span :=
  match document.token? id with
  | some token => token.span
  | none => .point 0

def isChanged (document : Document) (id : TokenId) : Bool :=
  match document.changedRegion, document.token? id with
  | some changed, some token => token.span.meets changed
  | _, _ => false

def shown (document : Document) (grammar : Grammar) (id : TokenId) : ShownToken :=
  match document.token? id with
  | some token => ⟨grammar.tokenName token.kind, document.tokenText id⟩
  | none => ⟨"", []⟩

end Document

end Reparse
