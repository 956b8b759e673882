/-!
# Ranges of characters as bytes

In UTF-8 a range of code points is written by a few sequences of byte ranges: the range is cut where
the number of bytes changes, and then so that in each part only the last bytes of a character vary,
over their full range but for one of them.
-/

namespace Reparse.Unicode

abbrev ByteRange := UInt8 × UInt8

def utf8Bytes (point : Nat) : List UInt8 := String.utf8EncodeChar (Char.ofNat point)

/-- The code points that take equally many bytes.  Surrogates are left out. -/
def lengthBlocks : List (Nat × Nat) :=
  [(0, 0x7F), (0x80, 0x7FF), (0x800, 0xD7FF), (0xE000, 0xFFFF), (0x10000, 0x10FFFF)]

/-- Cuts a range at multiples of `unit` and of its next `levels` powers of 64, where the range goes
beyond one block of that size. -/
def alignedParts : Nat → Nat → Nat → Nat → List (Nat × Nat)
  | 0, _, low, high => [(low, high)]
  | levels + 1, unit, low, high =>
      if low / unit = high / unit then [(low, high)]
      else
        let first := (low + unit - 1) / unit * unit
        let last := (high + 1) / unit * unit
        (if low < first then [(low, first - 1)] else []) ++
          (if first < last then alignedParts levels (64 * unit) first (last - 1) else []) ++
          (if last ≤ high then [(last, high)] else [])

/-- The sequences of byte ranges that write the characters of a range, in ascending order. -/
def utf8Ranges (low high : Nat) : List (List ByteRange) :=
  lengthBlocks.flatMap fun (first, last) =>
    if max low first ≤ min high last then
      (alignedParts 3 64 (max low first) (min high last)).map fun (low, high) =>
        (utf8Bytes low).zip (utf8Bytes high)
    else
      []

end Reparse.Unicode
