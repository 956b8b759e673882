import Reparse.Token
import Reparse.Unicode.Blank

/-!
# Scanning

A scanner cuts a text into tokens.  At each place it first drops what the skip rule matches, then
takes the first rule that matches some text; where none does, the fallback kind takes the text up
to the next blank.  Without a fallback scanning stops there.

The rules may be any matchers that stay within the text they are given.
-/

namespace Reparse

/-- Tells how many characters at the start of a text match, if any do. -/
structure Matcher where
  matchEnd? : Text → Option Nat
  withinText : ∀ {text : Text} {found : Nat}, matchEnd? text = some found → found ≤ text.length

namespace Matcher

/-- The length of a match that is not empty. -/
def length? (matcher : Matcher) (text : Text) : Option Nat :=
  (matcher.matchEnd? text).filter (0 < ·)

end Matcher

structure Scanner where
  rules : List (TokenKind × Matcher)
  skip : Option Matcher
  fallback : Option TokenKind

instance : Inhabited Scanner := ⟨⟨[], none, none⟩⟩

namespace Scanner

/-- An offset of a text and the text from there on. -/
structure Place where
  offset : Nat
  rest : Text
  deriving DecidableEq, Repr

namespace Place

def start (text : Text) : Place := ⟨0, text⟩

/-- The place some characters further on. -/
def forward (place : Place) (count : Nat) : Place :=
  ⟨place.offset + Text.byteSize (place.rest.take count), place.rest.drop count⟩

def atEnd (place : Place) : Place := place.forward place.rest.length

end Place

def dropSkipped (skip : Matcher) : Nat → Place → Place
  | 0, place => place
  | fuel + 1, place =>
      match skip.length? place.rest with
      | none => place
      | some count => dropSkipped skip fuel (place.forward count)

def afterSkipped (scanner : Scanner) (place : Place) : Place :=
  match scanner.skip with
  | none => place
  | some skip => dropSkipped skip place.rest.length place

/-- The kind and length of the first rule that matches some text. -/
def rule? (scanner : Scanner) (text : Text) : Option (TokenKind × Nat) :=
  scanner.rules.findSome? fun (kind, matcher) =>
    (matcher.length? text).map fun count => (kind, count)

/-- What reading one token can come to. -/
inductive Reading where
  | token (token : Token) (after : Place)
  | finished (place : Place)
  /-- Nothing matches at the place, and there is no fallback. -/
  | stuck (char : Char) (place : Place)
  deriving DecidableEq, Repr

/-- Takes characters as a token.  Its offsets are exact, so statements about tokens speak of texts
below 4 GiB, where offsets fit into 32 bits. -/
def tokenAt (place : Place) (kind : TokenKind) (count : Nat) : Reading :=
  let after := place.forward count
  .token ⟨kind, ⟨place.offset, after.offset⟩⟩ after

def read (scanner : Scanner) (place : Place) : Reading :=
  let place := scanner.afterSkipped place
  match place.rest with
  | [] => .finished place
  | char :: rest =>
      match scanner.rule? (char :: rest) with
      | some (kind, count) => tokenAt place kind count
      | none =>
          match scanner.fallback with
          | some kind =>
              tokenAt place kind (1 + (rest.takeWhile fun other => !Unicode.isBlank other).length)
          | none => .stuck char place

/-- A character that nothing matches, and its offset. -/
structure Obstacle where
  char : Char
  offset : Nat
  deriving DecidableEq, Repr

/-- The tokens of a text, and what stopped the scanner before the text's end. -/
structure Scan where
  tokens : List Token
  obstacle : Option Obstacle
  deriving DecidableEq, Repr

def scanFrom (scanner : Scanner) : Nat → Place → Scan
  | 0, _ => ⟨[], none⟩
  | fuel + 1, place =>
      match scanner.read place with
      | .token token after =>
          let scan := scanner.scanFrom fuel after
          ⟨token :: scan.tokens, scan.obstacle⟩
      | .finished _ => ⟨[], none⟩
      | .stuck char place => ⟨[], some ⟨char, place.offset⟩⟩

/-- Each token takes a character at least, so the length of the text bounds their number. -/
def scan (scanner : Scanner) (text : Text) : Scan :=
  scanner.scanFrom (text.length + 1) (.start text)

end Scanner

end Reparse
