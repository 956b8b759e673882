import Reparse.Pattern.CharSet
import Reparse.Text

/-!
# Patterns

Regular expressions with assertions.  Alternatives and repetitions are ordered: the way written
first is preferred, and a repetition prefers more rounds unless it is lazy.
-/

namespace Reparse

/-- A place between characters that is described by the word characters around it. -/
inductive WordPlace where
  | boundary
  | noBoundary
  | start
  | stop
  /-- No word character before the place. -/
  | afterNoWord
  /-- No word character after the place. -/
  | beforeNoWord
  deriving DecidableEq, Repr

inductive Assertion where
  | textStart
  | textEnd
  /-- Where a line starts or ends.  Lines end at line feeds; where carriage returns count as well,
  one before a line feed belongs to the same break. -/
  | lineStart (carriageReturns : Bool)
  | lineEnd (carriageReturns : Bool)
  /-- What makes a word may be restricted to ASCII. -/
  | word (place : WordPlace) (asciiOnly : Bool)
  deriving DecidableEq, Repr

inductive Pattern where
  | empty
  | literal (text : Text)
  | oneOf (set : CharSet)
  | require (condition : Assertion)
  | sequence (first second : Pattern)
  | choice (first second : Pattern)
  | repetition (body : Pattern) (least : Nat) (most : Option Nat) (greedy : Bool)
  /-- A group that is numbered by its opening parenthesis. -/
  | group (number : Nat) (body : Pattern)
  deriving DecidableEq, Repr

/-- Whether a place lies between the words as told, if word characters are before or after it. -/
def WordPlace.holds (before after : Bool) : WordPlace → Bool
  | .boundary => before != after
  | .noBoundary => before == after
  | .start => !before && after
  | .stop => before && !after
  | .afterNoWord => !before
  | .beforeNoWord => !after

namespace Assertion

def isAsciiWord (char : Char) : Bool := char.isAlphanum || char = '_'

/-- Whether the assertion holds between the character before and the one after. -/
def holds (before after : Option Char) : Assertion → Bool
  | .textStart => before.isNone
  | .textEnd => after.isNone
  | .lineStart false => before.isNone || before = some '\n'
  | .lineEnd false => after.isNone || after = some '\n'
  | .lineStart true =>
      before.isNone || before = some '\n' || (before = some '\r' && after ≠ some '\n')
  | .lineEnd true =>
      after.isNone || after = some '\r' || (after = some '\n' && before ≠ some '\r')
  | .word place asciiOnly =>
      let isWord := if asciiOnly then isAsciiWord else Unicode.isWord
      place.holds (before.any isWord) (after.any isWord)

end Assertion

namespace Pattern

/-- Least number of characters of a match, unless there is none because a set is empty. -/
def leastLength? : Pattern → Option Nat
  | .empty => some 0
  | .literal text => some text.length
  | .oneOf set => if set.ranges.isEmpty then none else some 1
  | .require _ => some 0
  | .sequence first second => return (← first.leastLength?) + (← second.leastLength?)
  | .choice first second => return min (← first.leastLength?) (← second.leastLength?)
  | .repetition body least _ _ => body.leastLength?.map (least * ·)
  | .group _ body => body.leastLength?

/-- Greatest number of characters of a match, unless there is no bound or, because a set is empty,
no match. -/
def greatestLength? : Pattern → Option Nat
  | .empty => some 0
  | .literal text => some text.length
  | .oneOf set => if set.ranges.isEmpty then none else some 1
  | .require _ => some 0
  | .sequence first second => return (← first.greatestLength?) + (← second.greatestLength?)
  | .choice first second => return max (← first.greatestLength?) (← second.greatestLength?)
  | .repetition body _ most _ => return (← most) * (← body.greatestLength?)
  | .group _ body => body.greatestLength?

/-- Whether a match takes some text in any case. -/
def consumes (pattern : Pattern) : Bool := pattern.leastLength?.any (0 < ·)

/-- Whether matches, if there are any, take no text. -/
def isWidthless (pattern : Pattern) : Bool := pattern.greatestLength? = some 0

end Pattern

end Reparse
