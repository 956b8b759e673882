import Reparse.Json.Basic
import Reparse.Text

/-!
# Reading JSON

The standard grammar of JSON texts: blanks are the four ASCII ones, numbers have no leading zeros,
strings no unescaped control characters, and nothing may follow the value.
-/

namespace Reparse.Json

namespace Reader

def isBlank (char : Char) : Bool := char = ' ' || char = '\t' || char = '\n' || char = '\r'

def skipBlanks (text : Text) : Text := text.dropWhile isBlank

def hexDigit? (char : Char) : Option Nat :=
  if '0' ≤ char ∧ char ≤ '9' then some (char.toNat - '0'.toNat)
  else if 'a' ≤ char ∧ char ≤ 'f' then some (char.toNat - 'a'.toNat + 10)
  else if 'A' ≤ char ∧ char ≤ 'F' then some (char.toNat - 'A'.toNat + 10)
  else none

/-- A unit of four hexadecimal digits. -/
def unit? : Text → Option (Nat × Text)
  | first :: second :: third :: fourth :: rest => do
      let first ← hexDigit? first
      let second ← hexDigit? second
      let third ← hexDigit? third
      let fourth ← hexDigit? fourth
      return (((first * 16 + second) * 16 + third) * 16 + fourth, rest)
  | _ => none

/-- The characters of a string as they are read, last first; none once half of a surrogate pair was
met. -/
abbrev Collected := Option (List Char)

def Collected.push (collected : Collected) (char : Char) : Collected :=
  collected.map (char :: ·)

/-- The second half of a surrogate pair, if it follows. -/
def secondHalf? : Text → Option (Nat × Text)
  | '\\' :: 'u' :: rest =>
      match unit? rest with
      | some (unit, rest) => if 0xDC00 ≤ unit ∧ unit ≤ 0xDFFF then some (unit, rest) else none
      | none => none
  | _ => none

/-- What an escape without digits stands for. -/
def plainEscape? : Char → Option Char
  | '"' => some '"'
  | '\\' => some '\\'
  | '/' => some '/'
  | 'b' => some '\x08'
  | 'f' => some '\x0c'
  | 'n' => some '\n'
  | 'r' => some '\r'
  | 't' => some '\t'
  | _ => none

/-- The rest of a string, after its opening quote. -/
def stringBody : Nat → Collected → Text → Option (Collected × Text)
  | 0, _, _ => none
  | fuel + 1, collected, text =>
      match text with
      | [] => none
      | '"' :: rest => some (collected, rest)
      | '\\' :: 'u' :: rest => do
          let (unit, rest) ← unit? rest
          if 0xD800 ≤ unit ∧ unit ≤ 0xDBFF then
            match secondHalf? rest with
            | some (second, rest) =>
                let point := 0x10000 + (unit - 0xD800) * 0x400 + (second - 0xDC00)
                stringBody fuel (collected.push (Char.ofNat point)) rest
            | none => stringBody fuel none rest
          else if 0xDC00 ≤ unit ∧ unit ≤ 0xDFFF then
            stringBody fuel none rest
          else
            stringBody fuel (collected.push (Char.ofNat unit)) rest
      | '\\' :: escape :: rest => do
          stringBody fuel (collected.push (← plainEscape? escape)) rest
      | char :: rest =>
          if char.toNat < 0x20 ∨ char = '\\' then none
          else stringBody fuel (collected.push char) rest

def string? (text : Text) : Option (Option String × Text) :=
  (stringBody (text.length + 1) (some []) text).map fun (collected, rest) =>
    (collected.map fun chars => String.ofList chars.reverse, rest)

def naturalOf (digits : List Char) : Nat :=
  digits.foldl (fun number digit => 10 * number + (digit.toNat - '0'.toNat)) 0

/-- The integer part of a number: a zero, or digits that do not start with one. -/
def integerPart? (text : Text) : Option (List Char × Text) :=
  match text with
  | '0' :: rest => if (rest.head?.any Char.isDigit) then none else some (['0'], rest)
  | _ =>
      let digits := text.takeWhile Char.isDigit
      if digits.isEmpty then none else some (digits, text.dropWhile Char.isDigit)

/-- What follows a fraction's point or an exponent's sign: digits, one at least. -/
def digitsAfter? (text : Text) : Option Text :=
  if text.head?.any Char.isDigit then some (text.dropWhile Char.isDigit) else none

/-- The fraction and the exponent of a number, and whether there were any. -/
def fractionAndExponent? (text : Text) : Option (Bool × Text) := do
  let (fraction, rest) ←
    match text with
    | '.' :: rest => (digitsAfter? rest).map fun rest => (true, rest)
    | _ => some (false, text)
  match rest with
  | mark :: more =>
      if mark = 'e' ∨ mark = 'E' then
        let digits :=
          match more with
          | '+' :: digits => digits
          | '-' :: digits => digits
          | _ => more
        return (true, ← digitsAfter? digits)
      else
        return (fraction, rest)
  | [] => return (fraction, rest)

def number? (text : Text) : Option (Json × Text) := do
  let (negative, rest) :=
    match text with
    | '-' :: rest => (true, rest)
    | _ => (false, text)
  let (digits, rest) ← integerPart? rest
  let (broken, rest) ← fractionAndExponent? rest
  return (if negative || broken then .otherNumber else .integer (naturalOf digits), rest)

/-- The text after `word`, if it starts with it. -/
def after? (word : List Char) (text : Text) : Option Text :=
  if word.isPrefixOf text then some (text.drop word.length) else none

mutual

def value : Nat → Text → Option (Json × Text)
  | 0, _ => none
  | fuel + 1, text =>
      match skipBlanks text with
      | [] => none
      | 'n' :: rest => (after? ['u', 'l', 'l'] rest).map fun rest => (.null, rest)
      | 't' :: rest => (after? ['r', 'u', 'e'] rest).map fun rest => (.bool true, rest)
      | 'f' :: rest => (after? ['a', 'l', 's', 'e'] rest).map fun rest => (.bool false, rest)
      | '"' :: rest =>
          (string? rest).map fun (text, rest) => (.string text, rest)
      | '[' :: rest =>
          match skipBlanks rest with
          | ']' :: rest => some (.array [], rest)
          | rest => (elements fuel rest).map fun (items, rest) => (.array items, rest)
      | '\x7b' :: rest =>
          match skipBlanks rest with
          | '\x7d' :: rest => some (.object [], rest)
          | rest => (members fuel rest).map fun (found, rest) => (.object found, rest)
      | text => number? text

def elements : Nat → Text → Option (List Json × Text)
  | 0, _ => none
  | fuel + 1, text => do
      let (item, rest) ← value fuel text
      match skipBlanks rest with
      | ',' :: rest => do
          let (items, rest) ← elements fuel rest
          return (item :: items, rest)
      | ']' :: rest => return ([item], rest)
      | _ => none

def members : Nat → Text → Option (List (Option String × Json) × Text)
  | 0, _ => none
  | fuel + 1, text => do
      match skipBlanks text with
      | '"' :: rest => do
          let (name, rest) ← string? rest
          match skipBlanks rest with
          | ':' :: rest => do
              let (item, rest) ← value fuel rest
              match skipBlanks rest with
              | ',' :: rest => do
                  let (found, rest) ← members fuel rest
                  return ((name, item) :: found, rest)
              | '\x7d' :: rest => return ([(name, item)], rest)
              | _ => none
          | _ => none
      | _ => none

end

end Reader

def read? (text : Text) : Option Json := do
  let (value, rest) ← Reader.value (2 * text.length + 2) text
  if (Reader.skipBlanks rest).isEmpty then some value else none

end Reparse.Json
