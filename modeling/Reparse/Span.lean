import Reparse.Text

/-!
# Spans

A span is a half open range of byte offsets.  One span may contain another, two may meet, and any
two have a hull.  An empty span meets another one only from strictly inside.
-/

namespace Reparse

/-- Offsets are natural numbers here.  Statements speak of texts below 4 GiB, where offsets fit into
32 bits. -/
structure Span where
  start : Nat
  stop : Nat
  deriving DecidableEq, Repr, Inhabited

namespace Span

def point (offset : Nat) : Span := ⟨offset, offset⟩

def length (span : Span) : Nat := span.stop - span.start

def isEmpty (span : Span) : Bool := span.stop ≤ span.start

/-- The other span lies within this one, borders included. -/
def contains (span other : Span) : Bool :=
  span.start ≤ other.start && other.stop ≤ span.stop

/-- The spans share a byte, or one is empty and lies strictly inside the other. -/
def meets (span other : Span) : Bool :=
  !(span.stop ≤ other.start || other.stop ≤ span.start)

def hull (span other : Span) : Span :=
  ⟨min span.start other.start, max span.stop other.stop⟩

def compare (span other : Span) : Ordering :=
  (Ord.compare span.start other.start).then (Ord.compare span.stop other.stop)

/-- The part of a text, if both ends are boundaries of it. -/
def textIn? (span : Span) (text : Text) : Option Text :=
  Text.slice? text span.start span.stop

/-- The part of a text; empty where the span does not fit. -/
def textIn (span : Span) (text : Text) : Text :=
  (span.textIn? text).getD []

def render (span : Span) : String :=
  toString span.start ++ ".." ++ toString span.stop

end Span

end Reparse
