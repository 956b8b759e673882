import Reparse.Document.Basic
import Reparse.Grammar.Prediction
import Reparse.Grammar.Printer
import Reparse.Tree.Basic

/-!
# The state of a parse

The state follows the way into the changed region and out of it.  Once the region is left inside a
block that was entered in it, the current token is hidden until the block is done.  Where no such
block is open, the innermost non-terminal that started with the region takes its place.
-/

namespace Reparse

structure Leniency where
  /-- Put missing nodes where something is missing; otherwise the first error ends the parse. -/
  toleratesErrors : Bool
  /-- Drop tokens that nothing in the current context can consume. -/
  skipsUnknown : Bool
  deriving DecidableEq, Repr

namespace Leniency

def standard : Leniency := ⟨true, true⟩

instance : Inhabited Leniency := ⟨standard⟩

end Leniency

/-- What a parse reads and never changes. -/
structure Parser where
  grammar : Grammar
  prediction : Prediction
  document : Document
  leniency : Leniency

structure Frame where
  nonTerminal : NonTerminalId
  isBlock : Bool
  /-- The current token when the non-terminal was entered. -/
  entry : Option TokenId
  /-- Whether that token is in the changed region. -/
  entryChanged : Bool
  deriving DecidableEq, Repr

structure ParseState where
  cursor : TokenId
  /-- The non-terminals under way, innermost first. -/
  frames : List Frame
  inRegion : Bool
  /-- The first token of the changed region. -/
  regionStart : Option TokenId
  /-- The depth of the frame until whose end the input is hidden. -/
  hiddenUntil : Option Nat
  skipped : List TokenId
  log : Log
  /-- Whether the token sets of the grammar were announced. -/
  setsAnnounced : Bool
  deriving DecidableEq, Repr

namespace ParseState

def initial (setsAnnounced : Bool) : ParseState where
  cursor := 0
  frames := []
  inRegion := false
  regionStart := none
  hiddenUntil := none
  skipped := []
  log := #[]
  setsAnnounced := setsAnnounced

def note (state : ParseState) (event : Event) : ParseState :=
  { state with log := state.log.push event }

/-- The frame at a depth, counted from the outermost one. -/
def frameAt? (state : ParseState) (depth : Nat) : Option Frame := state.frames.reverse[depth]?

end ParseState

namespace Parser

def currentId? (parser : Parser) (state : ParseState) : Option TokenId :=
  if state.cursor < parser.document.size then some state.cursor else none

/-- The kind of the current token, unless the input is hidden. -/
def currentKind? (parser : Parser) (state : ParseState) : Option TokenKind :=
  match state.hiddenUntil with
  | some _ => none
  | none => (parser.document.token? state.cursor).map Token.kind

def at? (parser : Parser) (state : ParseState) (set : KindSet) : Bool :=
  (parser.currentKind? state).any set.contains

def shown (parser : Parser) (id : TokenId) : ShownToken := parser.document.shown parser.grammar id

/-- The frame that ends the input when the changed region is left: the outermost block that was
entered in the region, or else the innermost frame that was entered at its first token. -/
def boundary? (frames : List Frame) (regionStart : Option TokenId) : Option Nat :=
  let outermostFirst := frames.reverse
  match outermostFirst.findIdx? fun frame => frame.isBlock && frame.entryChanged with
  | some depth => some depth
  | none =>
      match regionStart with
      | none => none
      | some start =>
          (frames.findIdx? fun frame => frame.entry = some start).map fun index =>
            frames.length - 1 - index

/-- Hides the rest of the input from the frame that the changed region bounds. -/
def leaveRegion (parser : Parser) (state : ParseState) : ParseState :=
  match boundary? state.frames state.regionStart with
  | none => state
  | some depth =>
      let depth :=
        match state.hiddenUntil with
        | none => depth
        | some hidden => min hidden depth
      let name :=
        match state.frameAt? depth with
        | some frame => (parser.grammar.nonTerminalOf frame.nonTerminal).name
        | none => ""
      { state.note (.endUntil name) with hiddenUntil := some depth }

/-- Follows the way into and out of the changed region at a new place. -/
def observe (parser : Parser) (state : ParseState) : ParseState :=
  if !parser.document.hasChanges then state
  else
    match parser.currentId? state with
    | none => state
    | some id =>
        match state.inRegion, parser.document.isChanged id with
        | false, true =>
            { state.note (.enteringRegion (parser.shown id)) with
              inRegion := true
              regionStart := some id }
        | true, false =>
            parser.leaveRegion
              { state.note (.leavingRegion (parser.shown id)) with inRegion := false }
        | _, _ => state

/-- Moves to the next token; at the end of the text nothing moves. -/
def advance (parser : Parser) (state : ParseState) : ParseState :=
  match parser.currentId? state with
  | none => parser.observe state
  | some _ => parser.observe { state with cursor := state.cursor + 1 }

/-- Moves past a token and counts it as skipped. -/
def skip (parser : Parser) (state : ParseState) (id : TokenId) : ParseState :=
  let state := (parser.advance state).note (.skipping (parser.shown id))
  { state with skipped := state.skipped ++ [id] }

/-- Skips at most `count` tokens, up to one that a set of the list holds. -/
def skipWithin (parser : Parser) (sets : List KindSet) : Nat → ParseState → ParseState
  | 0, state => state
  | count + 1, state =>
      match parser.currentKind? state with
      | none => state
      | some kind =>
          if sets.any (·.contains kind) then state
          else parser.skipWithin sets count (parser.skip state state.cursor)

/-- Skips the tokens that are in none of the sets. -/
def skipUpTo (parser : Parser) (sets : List KindSet) (state : ParseState) : ParseState :=
  parser.skipWithin sets (parser.document.size - state.cursor) state

/-- Skips at most `count` tokens to the end of the text. -/
def skipRest (parser : Parser) : Nat → ParseState → ParseState
  | 0, state => state
  | count + 1, state =>
      match parser.currentId? state with
      | none => state
      | some id =>
          parser.skipRest count
            { state.note (.skippingTrailing (parser.shown id)) with
              cursor := state.cursor + 1
              skipped := state.skipped ++ [id] }

/-- Announces the token sets when they are used for the first time. -/
def announceSets (parser : Parser) (state : ParseState) : ParseState :=
  if state.setsAnnounced then state
  else { state.note (.setsConverged parser.prediction.rounds) with setsAnnounced := true }

def openFrame (parser : Parser) (id : NonTerminalId) (state : ParseState) : ParseState :=
  let nonTerminal := parser.grammar.nonTerminalOf id
  let entry := parser.currentId? state
  let frame : Frame :=
    { nonTerminal := id
      isBlock := nonTerminal.isBlock
      entry := entry
      entryChanged := entry.any parser.document.isChanged }
  let state := state.note (.entered state.frames.length nonTerminal.name entry)
  { state with frames := frame :: state.frames }

/-- Leaves the innermost non-terminal, and shows the input again if it was hidden until then. -/
def closeFrame (parser : Parser) (id : NonTerminalId) (cutShort : Bool) (state : ParseState) :
    ParseState :=
  let state := { state with frames := state.frames.tail }
  let depth := state.frames.length
  let state :=
    if state.hiddenUntil.any (depth ≤ ·) then
      { state.note .endLifted with hiddenUntil := none }
    else
      state
  state.note (.left depth (parser.grammar.nonTerminalOf id).name cutShort)

end Parser

end Reparse
