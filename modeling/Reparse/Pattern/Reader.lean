import Reparse.Pattern.Reader.Set
import Reparse.Pattern.Size
import Reparse.Unicode.Alphabetic
import Reparse.Unicode.Numeric

/-!
# Reading patterns

Reading refuses unbalanced brackets, repetitions of nothing, unknown escapes and flags, reversed
ranges, look-around, back references, and patterns that are nested too deeply or too large.
-/

namespace Reparse.Pattern

/-- How deep the parts of a pattern may be nested: sequences and choices of several parts, groups,
repetitions and what is nested in bracketed sets. -/
def nestingLimit : Nat := 250

namespace Reader

/-- A part of a sequence, with its height. -/
structure Part where
  pattern : Pattern
  height : Nat
  /-- A part that only sets flags cannot be repeated. -/
  isSetting : Bool

namespace Part

def plain (pattern : Pattern) : Part := ⟨pattern, 0, false⟩

def setting : Part := ⟨.empty, 0, true⟩

def greatestHeight (parts : List Part) : Nat :=
  parts.foldl (fun height part => max height part.height) 0

/-- The sequence of parts that were read from last to first. -/
def sequenceOf (parts : List Part) : Part :=
  match parts with
  | [part] => { part with isSetting := false }
  | [] => plain .empty
  | _ => ⟨Pattern.sequenceOf (parts.reverse.map pattern), greatestHeight parts + 1, false⟩

/-- The choice among parts that were read from last to first. -/
def choiceOf (parts : List Part) : Part :=
  match parts with
  | [part] => part
  | _ => ⟨Pattern.choiceOf (parts.reverse.map pattern), greatestHeight parts + 1, false⟩

end Part

/-- The text that is left, how many groups were numbered, and their names. -/
structure Place where
  rest : Text
  groups : Nat
  names : List Text

/-- How a parenthesis opens.  Only some groups are numbered. -/
inductive Opening where
  | numbered (number : Nat)
  | unnumbered (flags : Flags)
  | setting (flags : Flags)

/-- The flags up to the colon or the parenthesis that ends them.  No flag may stand twice, and the
minus sign, which clears those after it, needs one. -/
def flagList (flags : Flags) (on : Bool) (seen : List Char) : Text → Option (Flags × Char × Text)
  | [] => none
  | char :: rest =>
      if char = ':' ∨ char = ')' then
        if seen.head? = some '-' then none else some (flags, char, rest)
      else if seen.contains char then
        none
      else if char = '-' then
        flagList flags false (char :: seen) rest
      else do
        flagList (← flags.set? on char) on (char :: seen) rest

/-- Whether a character may stand in the name of a group. -/
def isNameChar (isFirst : Bool) (char : Char) : Bool :=
  char = '_' || Unicode.isAlphabetic char ||
    (!isFirst && (char = '.' || char = '[' || char = ']' || Unicode.isNumeric char))

/-- The opening of a group with a name, after the angle bracket before the name. -/
def namedGroup (place : Place) (text : Text) : Option (Opening × Place) :=
  match text.span (· != '>') with
  | (first :: more, '>' :: rest) =>
      let name := first :: more
      if isNameChar true first && more.all (isNameChar false) && !place.names.contains name then
        some (.numbered (place.groups + 1), ⟨rest, place.groups + 1, name :: place.names⟩)
      else
        none
  | _ => none

/-- What follows an opening parenthesis. -/
def opening (flags : Flags) (place : Place) : Option (Opening × Place) :=
  match skip flags place.rest with
  | '?' :: 'P' :: '<' :: rest => namedGroup place rest
  | '?' :: '<' :: rest => namedGroup place rest
  | '?' :: ')' :: _ => none
  | '?' :: rest => do
      let (inner, mark, rest) ← flagList flags true [] rest
      some (if mark = ':' then .unnumbered inner else .setting inner, { place with rest })
  | rest => some (.numbered (place.groups + 1), { place with rest, groups := place.groups + 1 })

/-- The part that an escape writes outside of brackets. -/
def escapedPart? (flags : Flags) : Escape → Option Pattern
  | .char char isByte =>
      if isByte && !flags.unicode && 128 ≤ char.toNat then none
      else some (flags.charPattern char)
  | .set set negated => (set.meaning? flags negated).map ofSet
  | .property set negated =>
      if flags.unicode then (flags.foldAndNegate? negated set).map ofSet else none
  | .textStart => some (.require .textStart)
  | .textEnd => some (.require .textEnd)
  | .place place => some (.require (flags.wordAssertion place))

/-- A pattern of one character or assertion. -/
def primitive (flags : Flags) : Text → Option (Pattern × Text)
  | [] => none
  | '.' :: rest => flags.dot?.map fun dot => (dot, rest)
  | '^' :: rest => some (.require flags.startAssertion, rest)
  | '$' :: rest => some (.require flags.endAssertion, rest)
  | '\\' :: rest => do
      let (escape, rest) ← escape flags rest
      return (← escapedPart? flags escape, rest)
  | char :: rest => some (flags.charPattern char, rest)

/-- The question mark that makes a repetition lazy. -/
def greediness (flags : Flags) : Text → Bool × Text
  | '?' :: rest => (flags.lazyFirst, rest)
  | rest => (!flags.lazyFirst, rest)

/-- The bounds of a repetition, if the text goes on with one. -/
def repetition? (flags : Flags) : Text → Option (Option ((Nat × Option Nat) × Text))
  | '?' :: rest => some (some ((0, some 1), rest))
  | '*' :: rest => some (some ((0, none), rest))
  | '+' :: rest => some (some ((1, none), rest))
  | '\x7b' :: rest => some (bounds flags rest)
  | _ => none

/-- The last part repeated; a setting of flags cannot be. -/
def repeatLast (parts : List Part) (least : Nat) (most : Option Nat) (greedy : Bool) :
    Option (List Part) :=
  match parts with
  | [] => none
  | body :: parts =>
      if body.isSetting then none
      else some (⟨repeated body.pattern least most greedy, body.height + 1, false⟩ :: parts)

/-- The alternatives up to the end of the text or a closing parenthesis, which is left.  `branches`
holds the finished alternatives and `parts` the current one, both from last to first. -/
def alternatives :
    Nat → Flags → List Part → List Part → Place → Option (Part × Place)
  | 0, _, _, _, _ => none
  | fuel + 1, flags, branches, parts, place =>
      let text := skip flags place.rest
      match repetition? flags text with
      | some found => do
          let ((least, most), rest) ← found
          let (greedy, rest) := greediness flags rest
          let parts ← repeatLast parts least most greedy
          alternatives fuel flags branches parts { place with rest }
      | none =>
          match text with
          | [] => some (.choiceOf (.sequenceOf parts :: branches), { place with rest := [] })
          | ')' :: _ =>
              some (.choiceOf (.sequenceOf parts :: branches), { place with rest := text })
          | '|' :: rest =>
              alternatives fuel flags (.sequenceOf parts :: branches) [] { place with rest }
          | '(' :: rest => do
              let (opening, place) ← opening flags { place with rest }
              match opening with
              | .setting flags => alternatives fuel flags branches (.setting :: parts) place
              | .unnumbered inner =>
                  let (body, place) ← alternatives fuel inner [] [] place
                  match place.rest with
                  | ')' :: rest =>
                      let part := ⟨body.pattern, body.height + 1, false⟩
                      alternatives fuel flags branches (part :: parts) { place with rest }
                  | _ => none
              | .numbered number =>
                  let (body, place) ← alternatives fuel flags [] [] place
                  match place.rest with
                  | ')' :: rest =>
                      let part := ⟨.group number body.pattern, body.height + 1, false⟩
                      alternatives fuel flags branches (part :: parts) { place with rest }
                  | _ => none
          | '[' :: rest => do
              let ((set, height), rest) ← bracketed flags rest
              let part := ⟨ofSet set, height, false⟩
              alternatives fuel flags branches (part :: parts) { place with rest }
          | _ => do
              let (pattern, rest) ← primitive flags text
              alternatives fuel flags branches (.plain pattern :: parts) { place with rest }

end Reader

/-- The pattern that a text writes, if it writes one of bearable depth and size. -/
def read? (text : Text) : Option Pattern := do
  let (part, place) ← Reader.alternatives (text.length + 1) {} [] [] ⟨text, 0, []⟩
  if place.rest.isEmpty ∧ part.height ≤ nestingLimit ∧ part.pattern.isBearable then
    some part.pattern
  else
    none

/-- The pattern that matches at the start of a text only.  The guard is put around the written
form, so a text that closes the guard's group early matches elsewhere too. -/
def readAtStart? (text : Text) : Option Pattern :=
  read? ("\\A(?:".toList ++ text ++ [')'])

end Reparse.Pattern
