/-!
# Ranges of code points

A property of characters is written as ascending, disjoint ranges of code points, both ends
included.
-/

namespace Reparse.Unicode

/-- Whether a code point lies in one of the ascending ranges. -/
def inRanges : List (Nat × Nat) → Nat → Bool
  | [], _ => false
  | (low, high) :: rest, point => low ≤ point && (point ≤ high || inRanges rest point)

structure NamedRanges where
  shortName : String
  longName : String
  ranges : List (Nat × Nat)

namespace NamedRanges

def find? (tables : List NamedRanges) (name : String) : Option (List (Nat × Nat)) :=
  (tables.find? fun table => table.shortName = name || table.longName = name).map (·.ranges)

end NamedRanges

end Reparse.Unicode
