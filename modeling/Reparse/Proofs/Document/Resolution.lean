import Reparse.Proofs.Document.Separation
import Reparse.Proofs.Text.Positions

/-!
# Positions of changes

Positions in order name places in order, also past the ends of their lines.  So a change turns its
range around only if its positions are turned around, and otherwise an update can only ask for a
line that is missing.

Main statement: `Reached.resolves`.
-/

namespace Reparse

open Text (byteSize isBoundary before? textLines upToLine HasLine IsLine breaksUpTo)

/-- The first position is not after the second one. -/
def Position.AtOrBefore (first second : Position) : Prop :=
  first.line < second.line ∨ first.line = second.line ∧ first.column ≤ second.column

namespace Text

variable {text : Text} {first second : Position}

theorem upToLine_mono (text : Text) {index index' : Nat} (ordered : index ≤ index') :
    upToLine text index <+: upToLine text index' := by
  have taken : (textLines text).take index <+: (textLines text).take index' :=
    List.take_prefix_take_left ordered
  obtain ⟨more, lines⟩ := taken
  exact ⟨more.flatMap TextLine.text, by rw [upToLine, upToLine, ← lines, List.flatMap_append]⟩

theorem before?_isSome_iff {position : Position} :
    (before? text position).isSome = true ↔ HasLine text position.line := by
  rw [Lines.hasLine_iff, before?]
  cases position.line with
  | zero => simp
  | succ index =>
      rw [Option.isSome_map, Option.isSome_iff_exists]
      constructor
      · rintro ⟨line, found⟩
        exact ⟨index, line, rfl, found⟩
      · rintro ⟨index', line, same, found⟩
        cases same
        exact ⟨line, found⟩

theorem before?_eq_none_iff {position : Position} :
    before? text position = none ↔ ¬ HasLine text position.line := by
  rw [← before?_isSome_iff, Bool.not_eq_true, Option.isSome_eq_false_iff, Option.isNone_iff_eq_none]

theorem le_byteSize_of_isBoundary {offset : Nat} (boundary : isBoundary text offset = true) :
    offset ≤ byteSize text := by
  obtain ⟨before, after, rfl, rfl⟩ := isBoundary_iff.mp boundary
  rw [byteSize_append]
  exact Nat.le_add_right ..

/-- What lies before a position begins what lies before a later one. -/
theorem before?_mono {earlier later : Text} (ordered : first.AtOrBefore second)
    (one : before? text first = some earlier) (other : before? text second = some later) :
    earlier <+: later := by
  obtain ⟨number, column⟩ := first
  obtain ⟨number', column'⟩ := second
  cases number with
  | zero => cases one
  | succ index =>
  cases number' with
  | zero => cases other
  | succ index' =>
  obtain ⟨line, found, rfl⟩ := Option.map_eq_some_iff.mp one
  obtain ⟨line', found', rfl⟩ := Option.map_eq_some_iff.mp other
  rcases ordered with earlier_line | ⟨same_line, columns⟩
  · -- The first position stays within its own line.
    have lines : index + 1 ≤ index' := Nat.lt_of_succ_lt_succ earlier_line
    obtain ⟨-, -, next⟩ := upToLine_split found
    have content : line.content.take column <+: line.text :=
      (List.take_prefix ..).trans (List.prefix_append ..)
    have inLine : upToLine text index ++ line.content.take column <+:
        upToLine text (index + 1) := by
      rw [next]
      exact (List.prefix_append_right_inj _).mpr content
    exact (inLine.trans (upToLine_mono text lines)).trans (List.prefix_append ..)
  · obtain rfl : index = index' := Nat.succ.inj same_line
    obtain rfl : line = line' := Option.some.inj (found.symm.trans found')
    exact (List.prefix_append_right_inj _).mpr (List.take_prefix_take_left columns)

end Text

/-! ## Offsets of positions -/

/-- The offsets of positions are in the order of the positions, and each one lies between characters
of the content of its line. -/
structure Lines.ResolvesInOrder (lines : Lines) (text : Text) : Prop where
  sliced : ∀ index line, lines.get? index = some line → (lines.contentOf? text index).isSome = true
  within : ∀ position, HasLine text position.line → ∃ before content after offset,
    text = before ++ content ++ after ∧ IsLine before content after ∧
      position.line = 1 + breaksUpTo before (content ++ after) ∧
      lines.offsetAt? text position = some offset ∧ isBoundary text offset = true ∧
      byteSize before ≤ offset ∧ offset ≤ byteSize (before ++ content)
  monotone : ∀ first second : Position, HasLine text first.line → HasLine text second.line →
    first.AtOrBefore second → ∃ start stop,
      lines.offsetAt? text first = some start ∧ lines.offsetAt? text second = some stop ∧
        start ≤ stop

namespace Lines

theorem ofText_resolvesInOrder (text : Text) : (ofText text).ResolvesInOrder text where
  sliced index line found := by
    rw [get?_ofText] at found
    obtain ⟨textLine, lineFound, -⟩ := Option.map_eq_some_iff.mp found
    rw [contentOf?_ofText lineFound]
    rfl
  within position exists_line := by
    obtain ⟨before, content, after, whole, isLine, number, found, -⟩ :=
      (ofText_locates text).columns position exists_line
    have taken := List.take_append_drop position.column content
    refine ⟨before, content, after, _, whole, isLine, number, found, ?_, ?_, ?_⟩
    · refine Text.isBoundary_iff.mpr
        ⟨before ++ content.take position.column, content.drop position.column ++ after, ?_, rfl⟩
      rw [whole, ← List.append_assoc, List.append_assoc before _ (content.drop _), taken]
    · rw [Text.byteSize_append]
      exact Nat.le_add_right ..
    · have sizes := congrArg byteSize taken
      simp only [Text.byteSize_append] at sizes ⊢
      omega
  monotone first second starts stops ordered := by
    obtain ⟨earlier, start⟩ := Option.isSome_iff_exists.mp (Text.before?_isSome_iff.mpr starts)
    obtain ⟨later, stop⟩ := Option.isSome_iff_exists.mp (Text.before?_isSome_iff.mpr stops)
    obtain ⟨between, rfl⟩ := Text.before?_mono ordered start stop
    refine ⟨byteSize earlier, byteSize (earlier ++ between), ?_, ?_, ?_⟩
    · rw [offsetAt?_eq, start, Option.map_some]
    · rw [offsetAt?_eq, stop, Option.map_some]
    · rw [Text.byteSize_append]
      exact Nat.le_add_right ..

end Lines

/-! ## One change -/

namespace Change

variable {change : Change} {text : Text}

/-- A change asks for a line that the text does not have.  The one of its start is asked for
first. -/
def MissesLine (change : Change) (text : Text) (number : Nat) : Prop :=
  ¬ HasLine text change.start.line ∧ number = change.start.line ∨
    HasLine text change.start.line ∧ ¬ HasLine text change.stop.line ∧ number = change.stop.line

/-- The three ways in which a change meets a text: a line is missing, its range is turned around,
or it applies. -/
theorem applyTo_cases (change : Change) (text : Text) :
    (∃ number, change.MissesLine text number ∧
      change.applyTo text = .error (.lineOutOfBounds number (1 + breaksUpTo text []))) ∨
    (HasLine text change.start.line ∧ HasLine text change.stop.line ∧
      ¬ change.start.AtOrBefore change.stop ∧
        change.applyTo text = .error (.invertedRange change.start change.stop)) ∨
    (HasLine text change.start.line ∧ HasLine text change.stop.line ∧
      ∃ after, change.applyTo text = .ok after) := by
  rw [applyTo, Lines.length_textLines]
  cases start : before? text change.start with
  | none => exact .inl ⟨_, .inl ⟨Text.before?_eq_none_iff.mp start, rfl⟩, rfl⟩
  | some before =>
      have starts : HasLine text change.start.line :=
        Text.before?_isSome_iff.mp (Option.isSome_of_eq_some start)
      cases stop : before? text change.stop with
      | none => exact .inl ⟨_, .inr ⟨starts, Text.before?_eq_none_iff.mp stop, rfl⟩, rfl⟩
      | some upTo =>
          have stops : HasLine text change.stop.line :=
            Text.before?_isSome_iff.mp (Option.isSome_of_eq_some stop)
          by_cases inverted : upTo.length < before.length
          · refine .inr (.inl ⟨starts, stops, fun ordered => ?_, by simp only [inverted, if_true]⟩)
            have longer := (Text.before?_mono ordered start stop).length_le
            omega
          · exact .inr (.inr ⟨starts, stops, _, by simp only [inverted, if_false]; rfl⟩)

theorem applyTo_eq_outOfBounds_iff {number count : Nat} :
    change.applyTo text = .error (.lineOutOfBounds number count) ↔
      change.MissesLine text number ∧ count = 1 + breaksUpTo text [] := by
  rcases applyTo_cases change text with
    ⟨missing, misses, applied⟩ | ⟨starts, stops, -, applied⟩ | ⟨starts, stops, after, applied⟩
  · rw [applied]
    constructor
    · rintro ⟨⟩
      exact ⟨misses, rfl⟩
    · rintro ⟨other, rfl⟩
      obtain rfl : missing = number := by
        rcases misses with ⟨absent, rfl⟩ | ⟨present, -, rfl⟩ <;>
          rcases other with ⟨absent', rfl⟩ | ⟨present', -, rfl⟩
        · rfl
        · exact (absent present').elim
        · exact (absent' present).elim
        · rfl
      rfl
  · simp [applied, MissesLine, starts, stops]
  · simp [applied, MissesLine, starts, stops]

end Change

/-! ## Errors of an update -/

theorem Text.edit_eq_error_iff {text : Text} {changes : List Change} {error : EditError} :
    Text.edit text changes = .error error ↔
      ∃ earlier change later before, changes = earlier ++ change :: later ∧
        Text.edit text earlier = .ok before ∧ change.applyTo before = .error error := by
  constructor
  · intro failed
    induction changes generalizing text with
    | nil => cases failed
    | cons change rest induction =>
        rw [Text.edit, List.foldlM_cons] at failed
        cases applied : change.applyTo text with
        | error found =>
            rw [applied] at failed
            exact ⟨[], change, rest, text, rfl, rfl, applied.trans failed⟩
        | ok next =>
            rw [applied] at failed
            obtain ⟨earlier, other, later, before, rfl, edits, fails⟩ := induction failed
            refine ⟨change :: earlier, other, later, before, rfl, ?_, fails⟩
            rw [Text.edit, List.foldlM_cons, applied]
            exact edits
  · rintro ⟨earlier, change, later, before, rfl, edits, fails⟩
    rw [Text.edit_append, edits]
    change Text.edit before (change :: later) = _
    rw [Text.edit, List.foldlM_cons, fails]
    rfl

namespace Document

variable {document : Document} {changes : List Change}

theorem Faithful.update_eq_error_iff (faithful : document.Faithful) {error : EditError} :
    document.update changes = .error error ↔
      ∃ earlier change later before, changes = earlier ++ change :: later ∧
        document.update earlier = .ok before ∧ change.applyTo before.source = .error error := by
  have whole : document.update changes = .error error ↔
      Text.edit document.source changes = .error error := by
    have agrees := update_agrees faithful changes
    constructor
    · intro failed
      rw [failed] at agrees
      generalize Text.edit document.source changes = edits at agrees
      cases agrees
      rfl
    · intro failed
      rw [failed] at agrees
      exact agrees.of_error
  rw [whole, Text.edit_eq_error_iff]
  constructor
  · rintro ⟨earlier, change, later, text, cut, edits, fails⟩
    have agrees := update_agrees faithful earlier
    rw [edits] at agrees
    obtain ⟨before, done, extends_it⟩ := agrees.of_ok
    exact ⟨earlier, change, later, before, cut, done, extends_it.source ▸ fails⟩
  · rintro ⟨earlier, change, later, before, cut, done, fails⟩
    have agrees := update_agrees faithful earlier
    rw [done] at agrees
    obtain ⟨text, edits, extends_it⟩ := agrees.of_value
    exact ⟨earlier, change, later, text, cut, edits, extends_it.source ▸ fails⟩

end Document

/-! ## Offsets of an accepted change -/

namespace Edited

/-- What replacing a span by a text computes is in order, and no larger than the size of the new
text: the span is a part of the text before, what takes its place ends within the new text, and so
does what becomes of the region. -/
structure Fits (edited : Edited) (replaced : Span) (inserted : Text) : Prop where
  start : isBoundary edited.source replaced.start = true
  stop : isBoundary edited.source replaced.stop = true
  ordered : replaced.start ≤ replaced.stop
  ends : replaced.start + byteSize inserted ≤
    byteSize (Text.splice edited.source replaced.start replaced.stop inserted)
  region : ∀ region, edited.changed = some region → region.start ≤ region.stop ∧
    shift replaced (byteSize inserted) replaced.start region.start ≤
      shift replaced (byteSize inserted) (replaced.start + byteSize inserted) region.stop ∧
    shift replaced (byteSize inserted) (replaced.start + byteSize inserted) region.stop ≤
      byteSize (Text.splice edited.source replaced.start replaced.stop inserted)

theorem shift_le_shift {replaced : Span} {size offset offset' : Nat}
    (forward : replaced.start ≤ replaced.stop) (ordered : offset ≤ offset') :
    shift replaced size replaced.start offset ≤
      shift replaced size (replaced.start + size) offset' := by
  unfold shift Span.length
  split_ifs <;> omega

theorem shift_le {replaced : Span} {size offset bound : Nat}
    (forward : replaced.start ≤ replaced.stop) (within : replaced.stop ≤ bound)
    (inside : offset ≤ bound) :
    shift replaced size (replaced.start + size) offset ≤ bound - replaced.length + size := by
  unfold shift Span.length
  split_ifs <;> omega

theorem Marks.fits {base : Text} {edited : Edited} {change : Change} {replaced : Span}
    (marks : edited.Marks base) (resolved : change.resolve edited.source = .ok replaced) :
    edited.Fits replaced change.text := by
  obtain ⟨before, part, after, whole, rfl⟩ := Change.resolve_eq_ok resolved
  have spliced : Text.splice edited.source (byteSize before) (byteSize (before ++ part))
      change.text = before ++ change.text ++ after := by
    rw [whole, Text.splice_append]
  have forward : byteSize before ≤ byteSize (before ++ part) := by
    rw [Text.byteSize_append]
    exact Nat.le_add_right ..
  constructor
  · exact Text.isBoundary_iff.mpr ⟨before, part ++ after, by rw [whole, List.append_assoc], rfl⟩
  · exact Text.isBoundary_iff.mpr ⟨before ++ part, after, whole, rfl⟩
  · exact forward
  · dsimp only
    rw [spliced, Text.byteSize_append, Text.byteSize_append]
    exact Nat.le_add_right ..
  · intro region marked
    have separates := marks.separates marked
    have inside := Text.le_byteSize_of_isBoundary separates.boundaries.2
    have within : byteSize (before ++ part) ≤ byteSize edited.source := by
      rw [whole, Text.byteSize_append _ after]
      exact Nat.le_add_right ..
    refine ⟨separates.forward, shift_le_shift forward separates.forward, ?_⟩
    apply (shift_le forward within inside).trans
    dsimp only
    rw [spliced, whole]
    simp only [Span.length, Text.byteSize_append]
    omega

end Edited

namespace Document

/-! ## Updates -/

/-- How the changes of an update come to lie in the text. -/
structure ResolvesChanges (document : Document) (changes : List Change) : Prop where
  /-- A missing line is that of the first change that asks for one, if all before it apply. -/
  outOfBounds : ∀ number count,
    document.update changes = .error (.lineOutOfBounds number count) ↔
      ∃ earlier change later before, changes = earlier ++ change :: later ∧
        document.update earlier = .ok before ∧ change.MissesLine before.source number ∧
          count = 1 + breaksUpTo before.source []
  /-- Only a change whose start is after its end has an inverted range. -/
  inverted : ∀ start stop, document.update changes = .error (.invertedRange start stop) →
    ¬ start.AtOrBefore stop ∧ ∃ change ∈ changes, start = change.start ∧ stop = change.stop
  /-- There is no other error. -/
  inText : ∀ span, document.update changes ≠ .error (.spanOutOfText span)
  /-- Each change to the base can be made to the text before it. -/
  fits : ∀ earlier change later edited replaced,
    document.changes ++ changes = earlier ++ change :: later →
      Edited.applyAll document.baseSource earlier = .ok edited →
        change.resolve edited.source = .ok replaced → edited.Fits replaced change.text
  /-- The tokens of the new text are parts of it. -/
  tokens : ∀ after, document.update changes = .ok after → ∀ token ∈ after.tokens,
    token.span.Delimits after.source

theorem Reached.resolves {document : Document} (reached : document.Reached) :
    (∀ text, (Lines.ofText text).ResolvesInOrder text) ∧
      ∀ changes, document.ResolvesChanges changes := by
  refine ⟨Lines.ofText_resolvesInOrder, fun changes => ?_⟩
  have fails : ∀ {error}, document.update changes = .error error ↔ _ :=
    reached.faithful.update_eq_error_iff
  constructor
  · intro number count
    simp only [fails, Change.applyTo_eq_outOfBounds_iff]
  · intro start stop failed
    obtain ⟨earlier, change, later, before, rfl, -, applied⟩ := fails.mp failed
    rcases Change.applyTo_cases change before.source with
      ⟨_, -, other⟩ | ⟨-, -, turned, other⟩ | ⟨-, -, _, other⟩
    all_goals
      rw [other] at applied
      cases applied
    exact ⟨turned, change, by simp, rfl, rfl⟩
  · intro span failed
    obtain ⟨earlier, change, later, before, rfl, -, applied⟩ := fails.mp failed
    rcases Change.applyTo_cases change before.source with
      ⟨_, -, other⟩ | ⟨-, -, -, other⟩ | ⟨-, -, _, other⟩
    all_goals
      rw [other] at applied
      cases applied
  · intro earlier change later edited replaced _ applied resolved
    exact (Edited.marks_applyAll applied).1.fits resolved
  · intro after done token member
    exact ((reached.update done).faithful.delimits_token member).1

/-- After a line break is inserted the text has two lines, so the third one is missing. -/
theorem resolves_numbers :
    (ofText numbers "1 2 3".toList).update [.insert ⟨1, 1⟩ ['\n'], .insert ⟨3, 0⟩ ['4']] =
      .error (.lineOutOfBounds 3 2) := by
  have broken : ((ofText numbers "1 2 3".toList).update [.insert ⟨1, 1⟩ ['\n']]).toOption.map
      source = some "1\n 2 3".toList := by
    decide +kernel
  cases done : (ofText numbers "1 2 3".toList).update [.insert ⟨1, 1⟩ ['\n']] with
  | error error =>
      rw [done] at broken
      cases broken
  | ok before =>
      have source : before.source = "1\n 2 3".toList := by
        rw [done] at broken
        exact Option.some.inj broken
      have resolves := (Reached.ofText numbers "1 2 3".toList).resolves.2
        [.insert ⟨1, 1⟩ ['\n'], .insert ⟨3, 0⟩ ['4']]
      refine (resolves.outOfBounds 3 2).mpr
        ⟨[.insert ⟨1, 1⟩ ['\n']], .insert ⟨3, 0⟩ ['4'], [], before, rfl, done, ?_, ?_⟩
      · rw [source]
        exact .inl ⟨by decide, rfl⟩
      · rw [source]
        decide

end Document

end Reparse
