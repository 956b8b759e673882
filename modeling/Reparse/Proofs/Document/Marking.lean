import Reparse.Proofs.Document.Delimiting

/-!
# Marked spans

A span is marked by a change that replaces it with itself.  An end of the span between a carriage
return and its line feed has no position, so the change begins or ends before the break instead, and
the text does not stay the same.
-/

namespace Reparse

open Text (byteSize before? takeBytes dropBytes)

namespace Text

/-- What lies after a place of a text, with the break that the place splits. -/
def fromBreak (before after : Text) : Text :=
  if SplitsBreak before after then '\r' :: after else after

theorem beforeBreak_append_fromBreak (before after : Text) :
    beforeBreak before after ++ fromBreak before after = before ++ after := by
  unfold beforeBreak fromBreak
  split
  · rename_i splits
    obtain ⟨earlier, rfl⟩ := List.getLast?_eq_some_iff.mp splits.1
    simp
  · rfl

theorem length_beforeBreak_le (before after : Text) :
    (beforeBreak before after).length ≤ before.length := by
  unfold beforeBreak
  split
  · simp
  · exact Nat.le_refl _

theorem le_length_beforeBreak (before after : Text) :
    before.length - 1 ≤ (beforeBreak before after).length := by
  unfold beforeBreak
  split
  · simp
  · exact Nat.sub_le ..

theorem length_beforeBreak_mono (before part after : Text) :
    (beforeBreak before (part ++ after)).length ≤ (beforeBreak (before ++ part) after).length := by
  cases part with
  | nil => simp
  | cons char rest =>
      have first := length_beforeBreak_le before (char :: rest ++ after)
      have second := le_length_beforeBreak (before ++ char :: rest) after
      rw [List.length_append, List.length_cons] at second
      omega

def mark (text : Text) (span : Span) : Except EditError Text :=
  match span.textIn? text with
  | none => .error (.spanOutOfText span)
  | some part =>
      let before := takeBytes text span.start
      let after := dropBytes text span.stop
      .ok (beforeBreak before (part ++ after) ++ part ++ fromBreak (before ++ part) after)

def markAll (text : Text) (spans : List Span) : Except EditError Text := spans.foldlM mark text

/-- An end of the span lies between a carriage return and its line feed. -/
def SplitsBreakAt (text : Text) (span : Span) : Prop :=
  SplitsBreak (takeBytes text span.start) (dropBytes text span.start) ∨
    SplitsBreak (takeBytes text span.stop) (dropBytes text span.stop)

instance (text : Text) (span : Span) : Decidable (SplitsBreakAt text span) :=
  inferInstanceAs (Decidable (_ ∨ _))

theorem mark_append (before part after : Text) :
    mark (before ++ part ++ after) ⟨byteSize before, byteSize (before ++ part)⟩ =
      .ok (beforeBreak before (part ++ after) ++ part ++ fromBreak (before ++ part) after) := by
  have part_eq : Span.textIn? ⟨byteSize before, byteSize (before ++ part)⟩
      (before ++ part ++ after) = some part :=
    slice?_eq_some_iff.mpr ⟨before, after, rfl, rfl, (byteSize_append ..).symm⟩
  have start : takeBytes (before ++ part ++ after) (byteSize before) = before := by
    rw [List.append_assoc, takeBytes_append]
  simp only [mark, part_eq, start, dropBytes_append]

theorem splitsBreakAt_append (before part after : Text) :
    SplitsBreakAt (before ++ part ++ after) ⟨byteSize before, byteSize (before ++ part)⟩ ↔
      SplitsBreak before (part ++ after) ∨ SplitsBreak (before ++ part) after := by
  unfold SplitsBreakAt
  simp only [takeBytes_append, dropBytes_append]
  rw [List.append_assoc, takeBytes_append, dropBytes_append]

/-- Replacing a part by itself keeps the text unless an end of the part splits a break. -/
theorem beforeBreak_fromBreak_eq_iff {before part after : Text} (empty : part = [] → before = []) :
    beforeBreak before (part ++ after) ++ part ++ fromBreak (before ++ part) after =
        before ++ part ++ after ↔
      ¬ (SplitsBreak before (part ++ after) ∨ SplitsBreak (before ++ part) after) := by
  constructor
  · intro same splits
    by_cases start : SplitsBreak before (part ++ after)
    · obtain ⟨earlier, rfl⟩ := List.getLast?_eq_some_iff.mp start.1
      have more : part ≠ [] := fun nothing => by simpa using empty nothing
      obtain ⟨char, rest, rfl⟩ := List.exists_cons_of_ne_nil more
      obtain rfl : char = '\n' := by simpa using start.2
      -- After the common beginning one side has a line feed, the other one a carriage return.
      rw [beforeBreak, if_pos start, List.dropLast_concat] at same
      simp at same
    · have stop := splits.resolve_left start
      have sizes := congrArg List.length same
      simp [beforeBreak, fromBreak, start, stop] at sizes
  · intro clear
    rw [not_or] at clear
    rw [beforeBreak, fromBreak, if_neg clear.1, if_neg clear.2]

theorem mark_eq_self_iff {text : Text} {span : Span} (delimits : span.Delimits text) :
    mark text span = .ok text ↔ ¬ SplitsBreakAt text span := by
  obtain ⟨before, part, after, whole, start, stop, empty⟩ := delimits.cut
  obtain rfl : span = ⟨byteSize before, byteSize (before ++ part)⟩ := by
    rw [← start, ← stop]
  rw [whole, mark_append, splitsBreakAt_append, ← beforeBreak_fromBreak_eq_iff empty,
    Except.ok.injEq]

theorem markAll_eq_self {text : Text} {spans : List Span}
    (delimits : ∀ span ∈ spans, span.Delimits text)
    (clear : ∀ span ∈ spans, ¬ SplitsBreakAt text span) : markAll text spans = .ok text := by
  induction spans with
  | nil => rfl
  | cons span rest induction =>
      have first := (mark_eq_self_iff (delimits span List.mem_cons_self)).mpr
        (clear span List.mem_cons_self)
      rw [markAll, List.foldlM_cons, first]
      exact induction (fun other member => delimits other (List.mem_cons_of_mem _ member))
        fun other member => clear other (List.mem_cons_of_mem _ member)

end Text

namespace Document

variable {document : Document}

theorem Extends.trans {changes more : List Change} {text text' : Text} {next after : Document}
    (first : document.Extends changes text next) (second : next.Extends more text' after) :
    document.Extends (changes ++ more) text' after where
  source := second.source
  scanner := second.scanner.trans first.scanner
  baseSource := second.baseSource.trans first.baseSource
  changes := by rw [second.changes, first.changes, List.append_assoc]
  faithful := second.faithful

theorem applyTo_mark (before part after : Text) :
    ∃ start stop,
      (Lines.ofText (before ++ part ++ after)).positionAt? (before ++ part ++ after)
          (byteSize before) = some start ∧
      (Lines.ofText (before ++ part ++ after)).positionAt? (before ++ part ++ after)
          (byteSize (before ++ part)) = some stop ∧
      Change.applyTo ⟨part, start, stop⟩ (before ++ part ++ after) =
        .ok (Text.beforeBreak before (part ++ after) ++ part ++
          Text.fromBreak (before ++ part) after) := by
  obtain ⟨start, startAt, startBefore⟩ := Lines.before?_positionAt? before (part ++ after)
  obtain ⟨stop, stopAt, stopBefore⟩ := Lines.before?_positionAt? (before ++ part) after
  rw [← List.append_assoc] at startAt startBefore
  refine ⟨start, stop, startAt, stopAt, ?_⟩
  have ordered := Text.length_beforeBreak_mono before part after
  have rest : (before ++ part ++ after).drop (Text.beforeBreak (before ++ part) after).length =
      Text.fromBreak (before ++ part) after := by
    rw [← Text.beforeBreak_append_fromBreak (before ++ part) after, List.drop_left]
  simp only [Change.applyTo, startBefore, stopBefore, if_neg (Nat.not_lt.mpr ordered), rest]

/-- Marking a span of a document does to the document what it does to its text. -/
theorem mark_agrees (faithful : document.Faithful) (span : Span) :
    Agrees id (fun marked text => ∃ changes, document.Extends changes text marked)
      (document.mark span) (Text.mark document.source span) := by
  cases found : span.textIn? document.source with
  | none =>
      simp only [mark, Text.mark, found]
      exact .error _
  | some part =>
      obtain ⟨before, after, whole, start, stop⟩ := Text.slice?_eq_some_iff.mp found
      rw [← Text.byteSize_append] at stop
      obtain rfl : span = ⟨byteSize before, byteSize (before ++ part)⟩ := by
        rw [start, stop]
      obtain ⟨startPosition, stopPosition, startAt, stopAt, applied⟩ :=
        applyTo_mark before part after
      have edits : Text.edit document.source [⟨part, startPosition, stopPosition⟩] =
          Text.mark document.source ⟨byteSize before, byteSize (before ++ part)⟩ := by
        rw [whole, Text.mark_append, ← applied]
        simp [Text.edit]
      rw [← whole] at startAt stopAt
      simp only [mark, found, startAt, stopAt, ← edits]
      exact (update_agrees faithful _).mono fun marked text extends_it => ⟨_, extends_it⟩

end Document

end Reparse
