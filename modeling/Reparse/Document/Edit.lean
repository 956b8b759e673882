import Reparse.Text.Lines
import Reparse.Span

/-!
# Edits

Changes are applied one after another, each to the text that the ones before it left.  Along with
the text goes the changed region, which covers everything the changes touched.
-/

namespace Reparse

/-- Replaces the text between `start` and `stop` by `text`. -/
structure Change where
  text : Text
  start : Position
  stop : Position
  deriving DecidableEq, Repr

def Change.insert (position : Position) (text : Text) : Change := ⟨text, position, position⟩

inductive EditError where
  | lineOutOfBounds (line lineCount : Nat)
  | invertedRange (start stop : Position)
  /-- The span does not lie between two boundaries of the text. -/
  | spanOutOfText (span : Span)
  deriving DecidableEq, Repr

namespace EditError

def message : EditError → String
  | .lineOutOfBounds line lineCount =>
      "Edit targets line " ++ toString line ++ " but the source has " ++ toString lineCount ++
        " lines"
  | .invertedRange start stop =>
      "Edit starts at " ++ start.render ++ " which is after its end " ++ stop.render
  | .spanOutOfText span => "Span " ++ span.render ++ " is not a part of the source"

end EditError

namespace Change

/-- The offset of a position, or the error that its line does not exist. -/
def resolvePosition (lines : Lines) (source : Text) (position : Position) :
    Except EditError Nat :=
  match lines.offsetAt? source position with
  | some offset => .ok offset
  | none => .error (.lineOutOfBounds position.line lines.count)

def resolve (change : Change) (source : Text) : Except EditError Span := do
  let lines := Lines.ofText source
  let start ← resolvePosition lines source change.start
  let stop ← resolvePosition lines source change.stop
  if stop < start then
    throw (.invertedRange change.start change.stop)
  return ⟨start, stop⟩

end Change

/-- A text and the region of it that changes have touched. -/
structure Edited where
  source : Text
  changed : Option Span
  deriving DecidableEq, Repr

namespace Edited

/-- Where an offset lies after `size` bytes took the place of the span `replaced`; an offset inside
the replaced part goes to `inside`. -/
def shift (replaced : Span) (size inside offset : Nat) : Nat :=
  if offset ≤ replaced.start then offset
  else if replaced.stop ≤ offset then offset - replaced.length + size
  else inside

/-- The region that covers the one before and the replaced part, in the new text. -/
def extendRegion (before : Option Span) (replaced : Span) (size : Nat) : Span :=
  let inserted : Span := ⟨replaced.start, replaced.start + size⟩
  match before with
  | none => inserted
  | some region =>
      Span.hull
        ⟨shift replaced size inserted.start region.start,
          shift replaced size inserted.stop region.stop⟩
        inserted

def apply (edited : Edited) (change : Change) : Except EditError Edited := do
  let replaced ← change.resolve edited.source
  return {
    source := Text.splice edited.source replaced.start replaced.stop change.text
    changed := some (extendRegion edited.changed replaced (Text.byteSize change.text)) }

def applyAll (base : Text) (changes : List Change) : Except EditError Edited :=
  changes.foldlM apply ⟨base, none⟩

end Edited

end Reparse
