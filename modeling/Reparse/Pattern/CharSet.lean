import Reparse.Unicode.Blank
import Reparse.Unicode.Digit
import Reparse.Unicode.Folding
import Reparse.Unicode.Word

/-!
# Sets of characters

A set is a list of ranges of code points, ascending and with gaps between them, so two sets with the
same members are the same list.
-/

namespace Reparse

structure CharSet where
  ranges : List (Nat × Nat)
  deriving DecidableEq, Repr

namespace CharSet

def contains (set : CharSet) (point : Nat) : Bool :=
  set.ranges.any fun (low, high) => low ≤ point && point ≤ high

/-- Adds a range to ascending ranges.  Ranges that overlap or touch become one. -/
def addRange (low high : Nat) : List (Nat × Nat) → List (Nat × Nat)
  | [] => [(low, high)]
  | (first, last) :: rest =>
      if high + 1 < first then (low, high) :: (first, last) :: rest
      else if last + 1 < low then (first, last) :: addRange low high rest
      else addRange (min low first) (max high last) rest

def addRanges (ranges : List (Nat × Nat)) (more : List (Nat × Nat)) : List (Nat × Nat) :=
  more.foldl (fun ranges (low, high) => addRange low high ranges) ranges

def nothing : CharSet := ⟨[]⟩

/-- The set of some ranges, none of which is empty.  The last one is added first, so that each of
them finds its place at once. -/
def ofRanges (ranges : List (Nat × Nat)) : CharSet :=
  ⟨addRanges [] (ranges.mergeSort fun first second => second.1 ≤ first.1)⟩

def range (low high : Char) : CharSet := ⟨[(low.toNat, high.toNat)]⟩

def single (char : Char) : CharSet := range char char

def digit : CharSet := ⟨Unicode.digitRanges⟩

def blank : CharSet := ⟨Unicode.blankRanges⟩

def word : CharSet := ⟨Unicode.wordRanges⟩

/-- The set with the members of both.  The shorter list is added to the longer one. -/
def union (first second : CharSet) : CharSet :=
  if first.ranges.length < second.ranges.length then ⟨addRanges second.ranges first.ranges⟩
  else ⟨addRanges first.ranges second.ranges⟩

def lastPoint : Nat := 0x10FFFF

/-- The gaps between ascending ranges, from the code point `start` on. -/
def gaps (start : Nat) : List (Nat × Nat) → List (Nat × Nat)
  | [] => if start ≤ lastPoint then [(start, lastPoint)] else []
  | (low, high) :: rest =>
      if start < low then (start, low - 1) :: gaps (high + 1) rest else gaps (high + 1) rest

/-- All characters that are not in the set.  Surrogates are no characters. -/
def complement (set : CharSet) : CharSet := ⟨gaps 0 (addRange 0xD800 0xDFFF set.ranges)⟩

def everything : CharSet := complement nothing

def intersection (first second : CharSet) : CharSet :=
  complement (union (complement first) (complement second))

def difference (first second : CharSet) : CharSet := intersection first (complement second)

def symmetricDifference (first second : CharSet) : CharSet :=
  union (difference first second) (difference second first)

/-- The set with all characters that differ from a member in case only. -/
def anyCase (set : CharSet) : CharSet :=
  let touched := Unicode.foldings.filter fun (point, image) =>
    set.contains point || set.contains image
  let images := ofRanges (touched.map fun (_, image) => (image, image))
  let sources := Unicode.foldings.filter fun (_, image) => images.contains image
  ⟨addRanges (set.union images).ranges (sources.map fun (point, _) => (point, point))⟩

/-- The set with the other cases of its ASCII letters. -/
def anyAsciiCase (set : CharSet) : CharSet :=
  let letters := (List.range 26).filter fun index =>
    set.contains (65 + index) || set.contains (97 + index)
  ⟨addRanges set.ranges (letters.flatMap fun index =>
    [(65 + index, 65 + index), (97 + index, 97 + index)])⟩

def isAscii (set : CharSet) : Bool := set.ranges.all fun (_, high) => high < 128

/-- The only member of a set. -/
def single? (set : CharSet) : Option Char :=
  match set.ranges with
  | [(low, high)] => if low = high then some (Char.ofNat low) else none
  | _ => none

/-- The named sets of ASCII characters that a bracketed set may mention as `[:name:]`. -/
def posix? : List Char → Option CharSet
  | ['a', 'l', 'n', 'u', 'm'] => some (ofRanges [(48, 57), (65, 90), (97, 122)])
  | ['a', 'l', 'p', 'h', 'a'] => some (ofRanges [(65, 90), (97, 122)])
  | ['a', 's', 'c', 'i', 'i'] => some (ofRanges [(0, 127)])
  | ['b', 'l', 'a', 'n', 'k'] => some (ofRanges [(9, 9), (32, 32)])
  | ['c', 'n', 't', 'r', 'l'] => some (ofRanges [(0, 31), (127, 127)])
  | ['d', 'i', 'g', 'i', 't'] => some (ofRanges [(48, 57)])
  | ['g', 'r', 'a', 'p', 'h'] => some (ofRanges [(33, 126)])
  | ['l', 'o', 'w', 'e', 'r'] => some (ofRanges [(97, 122)])
  | ['p', 'r', 'i', 'n', 't'] => some (ofRanges [(32, 126)])
  | ['p', 'u', 'n', 'c', 't'] => some (ofRanges [(33, 47), (58, 64), (91, 96), (123, 126)])
  | ['s', 'p', 'a', 'c', 'e'] => some (ofRanges [(9, 13), (32, 32)])
  | ['u', 'p', 'p', 'e', 'r'] => some (ofRanges [(65, 90)])
  | ['w', 'o', 'r', 'd'] => some (ofRanges [(48, 57), (65, 90), (95, 95), (97, 122)])
  | ['x', 'd', 'i', 'g', 'i', 't'] => some (ofRanges [(48, 57), (65, 70), (97, 102)])
  | _ => none

end CharSet

end Reparse
