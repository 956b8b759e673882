import Reparse.Text

/-!
# Lines and positions

Editors name a place by line and column.  A line ends after a line feed, a carriage return or the
two together; lines count from one, columns from zero in code points.  A table of them keeps the
byte offset of each line's start and whether the line has characters beyond ASCII, so that on plain
lines a column is a difference of offsets.
-/

namespace Reparse

/-- A place in a text: a line from one on, and a column in code points from zero on. -/
structure Position where
  line : Nat
  column : Nat
  deriving DecidableEq, Repr

namespace Position

def origin : Position := ⟨1, 0⟩

instance : Inhabited Position := ⟨origin⟩

def render (position : Position) : String :=
  toString position.line ++ ":" ++ toString (position.column + 1)

end Position

/-- Where a line starts, and whether it holds characters beyond ASCII. -/
structure Line where
  start : Nat
  wide : Bool
  deriving DecidableEq, Repr, Inhabited

structure Lines where
  toList : List Line
  deriving DecidableEq, Repr

namespace Lines

/-- The lines from `offset` on, when the current line started at `start`. -/
def linesFrom (offset start : Nat) (wide : Bool) : Text → List Line
  | [] => [⟨start, wide⟩]
  | '\r' :: '\n' :: rest => ⟨start, wide⟩ :: linesFrom (offset + 2) (offset + 2) false rest
  | char :: rest =>
      if char = '\n' ∨ char = '\r' then
        ⟨start, wide⟩ :: linesFrom (offset + 1) (offset + 1) false rest
      else
        linesFrom (offset + char.utf8Size) start (wide || 128 ≤ char.val) rest

def ofText (text : Text) : Lines := ⟨linesFrom 0 0 false text⟩

def count (lines : Lines) : Nat := lines.toList.length

/-- Index of the last line that starts at or before the offset. -/
def indexAt (lines : Lines) (offset : Nat) : Nat :=
  (lines.toList.takeWhile fun line => line.start ≤ offset).length - 1

def get? (lines : Lines) (index : Nat) : Option Line := lines.toList[index]?

/-- Index and data of the line that holds the offset. -/
def lineAt (lines : Lines) (offset : Nat) : Nat × Line :=
  let index := lines.indexAt offset
  (index, (lines.get? index).getD ⟨0, false⟩)

def start? (lines : Lines) (index : Nat) : Option Nat :=
  (lines.get? index).map Line.start

/-- Offset after a line and its break; the end of the text when no line follows. -/
def stop (lines : Lines) (text : Text) (index : Nat) : Nat :=
  (lines.start? (index + 1)).getD (Text.byteSize text)

def textOf? (lines : Lines) (text : Text) (index : Nat) : Option Text := do
  Text.slice? text (← lines.start? index) (lines.stop text index)

/-- A text without one last `char`. -/
def dropLast? (char : Char) (text : Text) : Text :=
  if text.getLast? = some char then text.dropLast else text

/-- A line without its break: one line feed and then one carriage return are taken off its end. -/
def contentOf? (lines : Lines) (text : Text) (index : Nat) : Option Text :=
  (lines.textOf? text index).map fun line => dropLast? '\r' (dropLast? '\n' line)

/-- A text up to its first line feed, without a carriage return before that. -/
def firstLine (text : Text) : Text :=
  let line := text.takeWhile (· ≠ '\n')
  if line.length < text.length then dropLast? '\r' line else line

/-- The position of an offset, which is cut to the end of the text; none inside a character. -/
def positionAt? (lines : Lines) (text : Text) (offset : Nat) : Option Position :=
  let offset := min offset (Text.byteSize text)
  let (index, line) := lines.lineAt offset
  if Text.isBoundary text offset then
    let column :=
      if line.wide then
        (Text.takeBytes (Text.dropBytes text line.start) (offset - line.start)).length
      else
        offset - line.start
    some ⟨index + 1, column⟩
  else
    none

/-- The offset of a position; none where its line does not exist.  A column past the line's last
character means the line's break. -/
def offsetAt? (lines : Lines) (text : Text) (position : Position) : Option Nat := do
  let index ← if position.line = 0 then none else some (position.line - 1)
  let line ← lines.get? index
  let content ← lines.contentOf? text index
  if line.wide then
    some (line.start + Text.byteSize (content.take position.column))
  else
    some (min (line.start + position.column) (line.start + Text.byteSize content))

end Lines

end Reparse
