import Reparse.Pattern.Flags
import Reparse.Pattern.Property

/-!
# Escapes and counts in written patterns

What a backslash introduces, and the bounds of counted repetitions.  Where blanks and comments may
stand between the parts of a pattern, they may also stand between digits.
-/

namespace Reparse.Pattern.Reader

/-- The text after blanks and comments; a comment reaches from a hash to the end of its line. -/
def dropBlanks (inComment : Bool) : Text → Text
  | [] => []
  | char :: rest =>
      if inComment then dropBlanks (char ≠ '\n') rest
      else if Unicode.isBlank char then dropBlanks false rest
      else if char = '#' then dropBlanks true rest
      else char :: rest

/-- The text after blanks and comments, if they may stand there. -/
def skip (flags : Flags) (text : Text) : Text :=
  if flags.spaced then dropBlanks false text else text

/-- The accepted characters that a text starts with, and the text after them.  The fuel is the
length of the text. -/
def runWithin (flags : Flags) (accepts : Char → Bool) : Nat → Text → List Char × Text
  | 0, text => ([], text)
  | _ + 1, [] => ([], [])
  | fuel + 1, char :: rest =>
      if accepts char then
        let (more, rest) := runWithin flags accepts fuel (skip flags rest)
        (char :: more, rest)
      else
        ([], char :: rest)

def run (flags : Flags) (accepts : Char → Bool) (text : Text) : List Char × Text :=
  runWithin flags accepts text.length text

def numberOf (base : Nat) (value : Char → Nat) (digits : List Char) : Nat :=
  digits.foldl (fun number digit => base * number + value digit) 0

/-- The largest count a repetition may name. -/
def largestCount : Nat := 4294967295

/-- A count of a repetition; blanks around it do not matter. -/
def count (flags : Flags) (text : Text) : Option (Nat × Text) :=
  let (shown, rest) := run flags Char.isDigit (text.dropWhile Unicode.isBlank)
  let number := numberOf 10 (fun digit => digit.toNat - '0'.toNat) shown
  if shown.isEmpty || largestCount < number then none
  else some (number, rest.dropWhile Unicode.isBlank)

/-- The bounds of a counted repetition, after its opening brace. -/
def bounds (flags : Flags) (text : Text) : Option ((Nat × Option Nat) × Text) := do
  let (least, rest) ← count flags (skip flags text)
  match rest with
  | '\x7d' :: rest => some ((least, some least), skip flags rest)
  | ',' :: rest =>
      match skip flags rest with
      | '\x7d' :: rest => some ((least, none), skip flags rest)
      | rest => do
          let (most, rest) ← count flags rest
          match rest with
          | '\x7d' :: rest =>
              if least ≤ most then some ((least, some most), skip flags rest) else none
          | _ => none
  | _ => none

def hexValue (char : Char) : Nat :=
  if char.isDigit then char.toNat - '0'.toNat
  else if 'a' ≤ char ∧ char ≤ 'f' then char.toNat - 'a'.toNat + 10
  else char.toNat - 'A'.toNat + 10

def isHex (char : Char) : Bool :=
  char.isDigit || ('a' ≤ char && char ≤ 'f') || ('A' ≤ char && char ≤ 'F')

/-- The character whose code the digits write. -/
def charOfHex? (digits : List Char) : Option Char :=
  let point := numberOf 16 hexValue digits
  if !digits.isEmpty ∧ point.isValidChar then some (Char.ofNat point) else none

/-- A fixed number of hexadecimal digits. -/
def hexDigits (flags : Flags) : Nat → Text → Option (List Char × Text)
  | 0, text => some ([], text)
  | _ + 1, [] => none
  | more + 1, char :: rest => do
      if !isHex char then none
      let (digits, rest) ← hexDigits flags more (skip flags rest)
      some (char :: digits, rest)

/-- What a backslash can introduce. -/
inductive Escape where
  /-- A character, and whether its code was written as a byte. -/
  | char (char : Char) (isByte : Bool)
  | set (set : EscapedSet) (negated : Bool)
  | property (set : CharSet) (negated : Bool)
  | textStart
  | textEnd
  | place (place : WordPlace)

/-- The character of a code written with `width` hexadecimal digits, or with any number of them
between braces. -/
def hexChar (flags : Flags) (width : Nat) (text : Text) : Option (Escape × Text) :=
  match skip flags text with
  | '\x7b' :: rest =>
      match run flags isHex (skip flags rest) with
      | (digits, '\x7d' :: rest) =>
          (charOfHex? digits).map fun char => (.char char false, rest)
      | _ => none
  | text => do
      let (digits, rest) ← hexDigits flags width text
      let char ← charOfHex? digits
      some (.char char (width = 2), rest)

def isPlaceNameChar (char : Char) : Bool := char.isAlpha || char = '-'

/-- The places at the ends of words that have a name. -/
def namedPlace? : List Char → Option WordPlace
  | ['s', 't', 'a', 'r', 't'] => some .start
  | ['e', 'n', 'd'] => some .stop
  | ['s', 't', 'a', 'r', 't', '-', 'h', 'a', 'l', 'f'] => some .afterNoWord
  | ['e', 'n', 'd', '-', 'h', 'a', 'l', 'f'] => some .beforeNoWord
  | _ => none

/-- The place that `\b` writes: a word boundary, or what a name between braces says.  Braces that do
not start with a letter or a hyphen are left to be bounds of a repetition. -/
def place? (flags : Flags) (text : Text) : Option (WordPlace × Text) :=
  match text with
  | '\x7b' :: rest =>
      match skip flags rest with
      | [] => none
      | first :: more =>
          if isPlaceNameChar first then
            match run flags isPlaceNameChar (first :: more) with
            | (name, '\x7d' :: rest) => (namedPlace? name).map fun place => (place, rest)
            | _ => none
          else
            some (.boundary, text)
  | _ => some (.boundary, text)

/-- The characters with a property: its name is one letter or stands between braces. -/
def property (flags : Flags) (text : Text) : Option (CharSet × Text) :=
  match skip flags text with
  | [] => none
  | '\x7b' :: rest =>
      match run flags (· != '\x7d') (skip flags rest) with
      | (name, '\x7d' :: rest) => (CharSet.property? name).map fun set => (set, rest)
      | _ => none
  | letter :: rest => (CharSet.named? (CharSet.looseName [letter])).map fun set => (set, rest)

/-- The escape after a backslash. -/
def escape (flags : Flags) : Text → Option (Escape × Text)
  | [] => none
  | 'x' :: rest => hexChar flags 2 rest
  | 'u' :: rest => hexChar flags 4 rest
  | 'U' :: rest => hexChar flags 8 rest
  | 'p' :: rest => (property flags rest).map fun (set, rest) => (.property set false, rest)
  | 'P' :: rest => (property flags rest).map fun (set, rest) => (.property set true, rest)
  | 'd' :: rest => some (.set .digit false, rest)
  | 'D' :: rest => some (.set .digit true, rest)
  | 's' :: rest => some (.set .blank false, rest)
  | 'S' :: rest => some (.set .blank true, rest)
  | 'w' :: rest => some (.set .word false, rest)
  | 'W' :: rest => some (.set .word true, rest)
  | 'a' :: rest => some (.char '\x07' false, rest)
  | 'f' :: rest => some (.char '\x0c' false, rest)
  | 't' :: rest => some (.char '\t' false, rest)
  | 'n' :: rest => some (.char '\n' false, rest)
  | 'r' :: rest => some (.char '\r' false, rest)
  | 'v' :: rest => some (.char '\x0b' false, rest)
  | 'A' :: rest => some (.textStart, rest)
  | 'z' :: rest => some (.textEnd, rest)
  | 'b' :: rest => (place? flags rest).map fun (place, rest) => (.place place, rest)
  | 'B' :: rest => some (.place .noBoundary, rest)
  | '<' :: rest => some (.place .start, rest)
  | '>' :: rest => some (.place .stop, rest)
  | char :: rest =>
      if 128 ≤ char.toNat || char.isAlphanum then none
      else some (.char char false, rest)

end Reparse.Pattern.Reader
