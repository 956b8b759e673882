import Reparse.Pattern.Basic
import Reparse.Unicode.Utf8

/-!
# The size of a pattern

A pattern is bearable if the machines that match its UTF-8 form in both directions stay small.  A
counted repetition has one copy of its states for each round, and states of a set that go on alike
are shared.
-/

namespace Reparse.Pattern

inductive Direction where
  | forward
  | backward
  deriving DecidableEq, Repr

namespace Size

def state : Nat := 32

def transition : Nat := 8

def branch : Nat := 4

def total (sizes : List Nat) : Nat := sizes.foldl (· + ·) 0

/-- A state with transitions for some ranges of bytes. -/
def transitions (count : Nat) : Nat := state + count * transition

def fork (branches : Nat) : Nat := state + branches * branch

/-- Adds a sequence, given by its beginning and its rest, to the group of those that begin alike. -/
def addToGroup [BEq α] (first : α) (rest : List α) :
    List (α × List (List α)) → List (α × List (List α))
  | [] => [(first, [rest])]
  | (other, rests) :: groups =>
      if first == other then (other, rest :: rests) :: groups
      else (other, rests) :: addToGroup first rest groups

/-- What follows each beginning of some sequences that are not empty. -/
def groupByFirst [BEq α] : List (List α) → List (α × List (List α))
  | [] => []
  | [] :: sequences => groupByFirst sequences
  | (first :: rest) :: sequences => addToGroup first rest (groupByFirst sequences)

/-- What is left of some sequences after each of their beginnings, as lists that are not done.  The
fuel is the length of the longest sequence. -/
def remainders [BEq α] : Nat → List (List α) → List (List (List α))
  | 0, _ => []
  | fuel + 1, sequences =>
      if sequences.all List.isEmpty then []
      else sequences :: (groupByFirst sequences).flatMap fun (_, rest) => remainders fuel rest

/-- The longest sequence of bytes of a character. -/
def longestCharacter : Nat := 4

/-- The states of a set from left to right: one for each way that its sequences may go on. -/
def forwardSet (sequences : List (List Unicode.ByteRange)) : Nat :=
  let states := (remainders longestCharacter sequences).eraseDups
  state + total (states.map fun rest => transitions (groupByFirst rest).length)

/-- The states of a set from right to left: one for each beginning of its sequences, and a branch
for each sequence. -/
def backwardSet (sequences : List (List Unicode.ByteRange)) : Nat :=
  let beginnings := (remainders longestCharacter sequences).map fun rest =>
    (groupByFirst rest).length
  fork sequences.length + state + state * total beginnings

def set (direction : Direction) (set : CharSet) : Nat :=
  if set.isAscii then state + transitions set.ranges.length
  else
    let sequences := set.ranges.flatMap fun (low, high) => Unicode.utf8Ranges low high
    match direction with
    | .forward => forwardSet sequences
    | .backward => backwardSet sequences

/-- The words in pieces, cut where there is an empty word. -/
def pieces : List (List α) → List (List (List α))
  | [] => [[]]
  | [] :: words => [] :: pieces words
  | word :: words =>
      match pieces words with
      | piece :: more => (word :: piece) :: more
      | [] => [[word]]

/-- One empty word in place of several at the beginning. -/
def joinEmpty (words : List (List α)) : List (List α) :=
  if words.head?.any List.isEmpty then [] :: words.dropWhile List.isEmpty else words

/-- The states that tell ordered words apart.  Words before an empty one are preferred to those
after it, so they are kept apart.  The fuel is the length of the longest word. -/
def wordStates [BEq α] : Nat → List (List α) → Nat
  | 0, _ => 0
  | fuel + 1, words =>
      if words.all List.isEmpty then 0
      else
        let all := pieces (joinEmpty words)
        let full := all.filter (!·.isEmpty)
        let sizes := full.map fun piece =>
          let groups := groupByFirst piece
          (if groups.length = 1 then state else transitions groups.length) +
            total (groups.map fun (_, rest) => wordStates fuel rest)
        fork (full.length + (all.length - 1)) + total sizes

def words (direction : Direction) (literals : List Text) : Nat :=
  let bytes := literals.map fun literal => literal.flatMap String.utf8EncodeChar
  let read :=
    match direction with
    | .forward => bytes
    | .backward => bytes.map List.reverse
  state + wordStates (read.foldl (fun longest word => max longest word.length) 0) read

end Size

/-- The literals of a choice that has no other branches. -/
def literals? : Pattern → Option (List Text)
  | .literal text => some [text]
  | .choice (.literal text) second => second.literals?.map (text :: ·)
  | _ => none

def isChoice : Pattern → Bool
  | .choice .. => true
  | _ => false

/-- The size of a pattern's states; `isTail` tells that a choice goes on with branches of the choice
around it. -/
def sizeWithin (direction : Direction) (isTail : Bool) : Pattern → Nat
  | .empty => Size.state
  | .literal text => Size.state * Text.byteSize text
  | .oneOf set => Size.set direction set
  | .require _ => Size.state
  | .sequence first second =>
      sizeWithin direction false first + sizeWithin direction false second
  | .choice first second =>
      match if isTail then none else (Pattern.choice first second).literals? with
      | some literals => Size.words direction literals
      | none =>
          (if isTail then 0 else 2 * Size.state) +
            (Size.branch + sizeWithin direction false first) +
            (if second.isChoice then sizeWithin direction true second
              else Size.branch + sizeWithin direction false second)
  | .repetition body least most _ =>
      let round := sizeWithin direction false body
      match most with
      | some most =>
          if least = most then least * round
          else if least = 0 ∧ most = 1 then Size.fork 2 + round + Size.state
          else
            (if least = 0 then Size.state else least * round) + Size.state +
              (most - least) * (Size.fork 2 + round)
      | none =>
          if 0 < least then least * round + Size.fork 2
          else if body.consumes then Size.fork 2 + round
          else 2 * Size.fork 2 + round + Size.state
  | .group _ body =>
      match direction with
      | .forward => 2 * Size.state + sizeWithin direction false body
      | .backward => sizeWithin direction false body

/-- Whether every match starts at the start of the text, as the pattern's form shows. -/
def startsText : Pattern → Bool
  | .require condition => condition = .textStart
  | .sequence first second => first.startsText || (first.isWidthless && second.startsText)
  | .choice first second => first.startsText && second.startsText
  | .repetition body least _ _ => 0 < least && body.startsText
  | .group _ body => body.startsText
  | _ => false

/-- Whether every match ends at the end of the text, as the pattern's form shows. -/
def endsText : Pattern → Bool
  | .require condition => condition = .textEnd
  | .sequence first second => second.endsText || (second.isWidthless && first.endsText)
  | .choice first second => first.endsText && second.endsText
  | .repetition body least _ _ => 0 < least && body.endsText
  | .group _ body => body.endsText
  | _ => false

/-- The size of the machine of a pattern.  A machine may skip bytes before a match unless matches
are bound to the end that it starts from; the forward one marks where a match starts and ends. -/
def machineSize (direction : Direction) (pattern : Pattern) : Nat :=
  let isBound :=
    match direction with
    | .forward => pattern.startsText
    | .backward => pattern.endsText
  let entry :=
    if isBound then Size.state else Size.fork 2 + Size.state + Size.transitions 1
  entry + sizeWithin direction false (.group 0 pattern) + Size.state

def largestSize : Nat := 10485760

def isBearable (pattern : Pattern) : Bool :=
  pattern.machineSize .forward ≤ largestSize && pattern.machineSize .backward ≤ largestSize

end Reparse.Pattern
