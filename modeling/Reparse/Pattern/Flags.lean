import Reparse.Pattern.Composition

/-!
# Flags

Flags change what the parts of a written pattern mean.  A pattern must never match a part of a
character, so without Unicode a set may only hold ASCII characters.
-/

namespace Reparse.Pattern

structure Flags where
  ignoreCase : Bool := false
  /-- Assertions on the ends of the text mean the ends of lines. -/
  multiLine : Bool := false
  /-- A dot matches line breaks too. -/
  dotAll : Bool := false
  /-- Repetitions are lazy, and a question mark makes them greedy. -/
  lazyFirst : Bool := false
  unicode : Bool := true
  /-- Carriage returns end lines too. -/
  carriageReturns : Bool := false
  /-- Blanks and comments between the parts are left out. -/
  spaced : Bool := false
  deriving DecidableEq, Repr

namespace Flags

/-- The flags with one of them, known by its letter, set or cleared. -/
def set? (on : Bool) (flags : Flags) : Char → Option Flags
  | 'i' => some { flags with ignoreCase := on }
  | 'm' => some { flags with multiLine := on }
  | 's' => some { flags with dotAll := on }
  | 'U' => some { flags with lazyFirst := on }
  | 'u' => some { flags with unicode := on }
  | 'R' => some { flags with carriageReturns := on }
  | 'x' => some { flags with spaced := on }
  | _ => none

/-- The set with other cases of its members, if case does not matter. -/
def foldCase (flags : Flags) (set : CharSet) : CharSet :=
  if !flags.ignoreCase then set
  else if flags.unicode then set.anyCase
  else set.anyAsciiCase

/-- Whether a set may be used. -/
def admits (flags : Flags) (set : CharSet) : Bool := flags.unicode || set.isAscii

/-- A set or what it leaves out.  Case is seen to first. -/
def foldAndNegate? (flags : Flags) (negated : Bool) (set : CharSet) : Option CharSet :=
  let set := flags.foldCase set
  let set := if negated then set.complement else set
  if flags.admits set then some set else none

/-- The pattern of one character. -/
def charPattern (flags : Flags) (char : Char) : Pattern :=
  let point := char.toNat
  let variants :=
    if !flags.ignoreCase then []
    else if flags.unicode then Unicode.caseVariants point
    else if char.isUpper then [point + 32]
    else if char.isLower then [point - 32]
    else []
  ofSet (.ofRanges ((point :: variants).map fun point => (point, point)))

/-- The pattern of a dot. -/
def dot? (flags : Flags) : Option Pattern :=
  if !flags.unicode then none
  else if flags.dotAll then some (ofSet .everything)
  else if flags.carriageReturns then
    some (ofSet (CharSet.ofRanges [(10, 10), (13, 13)]).complement)
  else some (ofSet (CharSet.single '\n').complement)

def startAssertion (flags : Flags) : Assertion :=
  if flags.multiLine then .lineStart flags.carriageReturns else .textStart

def endAssertion (flags : Flags) : Assertion :=
  if flags.multiLine then .lineEnd flags.carriageReturns else .textEnd

def wordAssertion (flags : Flags) (place : WordPlace) : Assertion :=
  .word place (!flags.unicode)

end Flags

/-- The sets that have an escape of their own. -/
inductive EscapedSet where
  | digit
  | blank
  | word
  deriving DecidableEq, Repr

namespace EscapedSet

def inUnicode : EscapedSet → CharSet
  | .digit => .digit
  | .blank => .blank
  | .word => .word

def inAscii : EscapedSet → CharSet
  | .digit => .ofRanges [(48, 57)]
  | .blank => .ofRanges [(9, 13), (32, 32)]
  | .word => .ofRanges [(48, 57), (65, 90), (95, 95), (97, 122)]

/-- The set under some flags.  Each of them has all cases of its members already. -/
def meaning? (flags : Flags) (negated : Bool) (set : EscapedSet) : Option CharSet :=
  let set := if flags.unicode then set.inUnicode else set.inAscii
  let set := if negated then set.complement else set
  if flags.admits set then some set else none

end EscapedSet

end Reparse.Pattern
