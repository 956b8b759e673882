import Reparse.Unicode.Ranges

/-!
# Blank characters

The characters with the property White_Space.
-/

namespace Reparse.Unicode

def blankRanges : List (Nat × Nat) :=
  [(9, 13), (32, 32), (133, 133), (160, 160), (5760, 5760), (8192, 8202), (8232, 8233),
  (8239, 8239), (8287, 8287), (12288, 12288)]

/-- White_Space. -/
def isBlank (char : Char) : Bool := inRanges blankRanges char.toNat

end Reparse.Unicode
