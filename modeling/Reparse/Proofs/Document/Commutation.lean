import Reparse.Document.Difference
import Reparse.Proofs.Document.Composition
import Reparse.Proofs.Document.Marking
import Reparse.Proofs.Document.Region

/-!
# Marks before edits

A span that splits no line break is marked by a change that puts its own text there.  So marks only
let the changed region grow, and later edits move the grown region as they move the smaller one.
-/

namespace Reparse

open Text (byteSize before?)

namespace Includes

variable {wide middle narrow : Option Span}

theorem refl (region : Option Span) : Includes region region := by
  intro span found
  exact ⟨span, found, Span.contains_refl span⟩

theorem trans (outer : Includes wide middle) (inner : Includes middle narrow) :
    Includes wide narrow := by
  intro region found
  obtain ⟨between, found, contains⟩ := inner region found
  obtain ⟨larger, found, contains'⟩ := outer between found
  exact ⟨larger, found, Span.contains_trans contains' contains⟩

end Includes

theorem Change.resolve_of_before? {change : Change} {source before upTo : Text}
    (start : before? source change.start = some before)
    (stop : before? source change.stop = some upTo) (forward : byteSize before ≤ byteSize upTo) :
    change.resolve source = .ok ⟨byteSize before, byteSize upTo⟩ := by
  have ordered : ¬ byteSize upTo < byteSize before := Nat.not_lt.mpr forward
  simp only [resolve, resolvePosition, Lines.offsetAt?_eq, start, stop, Option.map_some]
  simp only [bind, Except.bind, pure, Except.pure, if_neg ordered]

namespace Edited

theorem apply_self {edited : Edited} {change : Change} {span : Span}
    (resolved : change.resolve edited.source = .ok span)
    (own : span.textIn? edited.source = some change.text) :
    edited.apply change =
      .ok ⟨edited.source, some (extendRegion edited.changed span (byteSize change.text))⟩ := by
  obtain ⟨before, after, whole, start, stop⟩ := Text.slice?_eq_some_iff.mp own
  rw [← Text.byteSize_append] at stop
  have same : Text.splice edited.source span.start span.stop change.text = edited.source := by
    rw [← start, ← stop, whole, Text.splice_append]
  simp only [Edited.apply, resolved, bind, Except.bind, pure, Except.pure, same]

theorem extendRegion_contains_replaced (before : Option Span) (replaced : Span) (size : Nat) :
    (extendRegion before replaced size).contains
      ⟨replaced.start, replaced.start + size⟩ = true := by
  cases before with
  | none => exact Span.contains_refl _
  | some region =>
      rw [Span.contains_iff]
      simp only [extendRegion, Span.hull]
      omega

theorem extendRegion_includes {before : Option Span} {replaced : Span}
    (forward : replaced.start ≤ replaced.stop) :
    Includes (some (extendRegion before replaced replaced.length)) before := by
  cases before with
  | none => exact .nothing _
  | some region =>
      apply Includes.regions
      rw [extendRegion_some _ _ _ forward, Span.contains_iff]
      simp only [Span.length]
      omega

end Edited

namespace Document

/-- A span that splits no break is marked by a change that resolves to it. -/
theorem mark_eq_update {document : Document} {span : Span} {part : Text}
    (found : span.textIn? document.source = some part)
    (whole : ¬ Text.SplitsBreakAt document.source span) :
    ∃ change, document.mark span = document.update [change] ∧ change.text = part ∧
      change.resolve document.source = .ok span := by
  obtain ⟨before, after, text, start, stop⟩ := Text.slice?_eq_some_iff.mp found
  rw [← Text.byteSize_append] at stop
  obtain rfl : span = ⟨byteSize before, byteSize (before ++ part)⟩ := by rw [start, stop]
  rw [text, Text.splitsBreakAt_append, not_or] at whole
  obtain ⟨startPosition, startAt, startBefore⟩ :=
    Lines.before?_positionAt? before (part ++ after)
  obtain ⟨stopPosition, stopAt, stopBefore⟩ := Lines.before?_positionAt? (before ++ part) after
  rw [← List.append_assoc, ← text] at startAt startBefore
  rw [← text] at stopAt stopBefore
  rw [Text.beforeBreak, if_neg whole.1] at startBefore
  rw [Text.beforeBreak, if_neg whole.2] at stopBefore
  refine ⟨⟨part, startPosition, stopPosition⟩, ?_, rfl, ?_⟩
  · simp only [mark, found, startAt, stopAt]
  · exact Change.resolve_of_before? startBefore stopBefore (by simp)

/-- The document is another one whose text has spans marked, and its region holds them all. -/
structure MarkedWith (document : Document) (spans : List Span) (marked : Document) : Prop where
  reached : marked.Reached
  scanner : marked.scanner = document.scanner
  source : marked.source = document.source
  baseSource : marked.baseSource = document.baseSource
  includes : Includes marked.changedRegion document.changedRegion
  holds : ∀ span ∈ spans, Includes marked.changedRegion (some span)

theorem Reached.markedWith_mark {document : Document} {span : Span} (reached : document.Reached)
    (part : (span.textIn? document.source).isSome = true)
    (whole : ¬ Text.SplitsBreakAt document.source span) :
    ∃ marked, document.mark span = .ok marked ∧ document.MarkedWith [span] marked := by
  obtain ⟨part, found⟩ := Option.isSome_iff_exists.mp part
  obtain ⟨change, marks, rfl, resolved⟩ := mark_eq_update found whole
  obtain ⟨before, recorded, source, region⟩ := reached.exists_edited
  obtain ⟨front, after, -, start, stop⟩ := Text.slice?_eq_some_iff.mp found
  have forward : span.start ≤ span.stop := by omega
  have size : byteSize change.text = span.length := by
    simp only [Span.length]
    omega
  rw [← source] at found resolved
  let grown := Edited.extendRegion before.changed span span.length
  have step : before.apply change = .ok ⟨before.source, some grown⟩ := by
    rw [Edited.apply_self resolved found, size]
  have applied : Edited.applyAll document.baseSource (document.changes ++ [change]) =
      .ok ⟨before.source, some grown⟩ := by
    rw [Edited.applyAll_append, recorded]
    change [change].foldlM Edited.apply before = _
    rw [List.foldlM_cons, step]
    rfl
  let marked := document.record (document.changes ++ [change]) ⟨before.source, some grown⟩
  have done : document.mark span = .ok marked := by
    rw [marks, document.update_of_ne_nil (by simp), applied]
    rfl
  have tokens : document.tokens = marked.tokens := by
    have own := congrArg ScannedText.tokens reached.faithful.current
    rw [← source] at own
    exact own
  refine ⟨marked, done, reached.mark done, rfl, source, rfl, ?_, ?_⟩
  · rw [region, tokens]
    exact (Edited.extendRegion_includes forward).extendOver _
  · simp only [List.mem_singleton, forall_eq]
    apply Includes.regions
    have replaced : grown.contains span = true := by
      have contains := Edited.extendRegion_contains_replaced before.changed span span.length
      rwa [Span.length, Nat.add_sub_of_le forward] at contains
    exact Span.contains_trans (extendOver_contains_self grown _) replaced

namespace MarkedWith

variable {document middle marked : Document} {spans more : List Span}

theorem nothing (reached : document.Reached) : document.MarkedWith [] document where
  reached := reached
  scanner := rfl
  source := rfl
  baseSource := rfl
  includes := .refl _
  holds := by simp

theorem append (first : document.MarkedWith spans middle) (second : middle.MarkedWith more marked) :
    document.MarkedWith (spans ++ more) marked where
  reached := second.reached
  scanner := second.scanner.trans first.scanner
  source := second.source.trans first.source
  baseSource := second.baseSource.trans first.baseSource
  includes := second.includes.trans first.includes
  holds := by
    intro span member
    rcases List.mem_append.mp member with earlier | later
    · exact second.includes.trans (first.holds span earlier)
    · exact second.holds span later

end MarkedWith

theorem Reached.markedWith_foldlM {document : Document} {spans : List Span}
    (reached : document.Reached)
    (parts : ∀ span ∈ spans, (span.textIn? document.source).isSome = true)
    (whole : ∀ span ∈ spans, ¬ Text.SplitsBreakAt document.source span) :
    ∃ marked, spans.foldlM Document.mark document = .ok marked ∧
      document.MarkedWith spans marked := by
  induction spans generalizing document with
  | nil => exact ⟨document, rfl, .nothing reached⟩
  | cons span rest induction =>
      obtain ⟨middle, done, first⟩ := reached.markedWith_mark (parts span List.mem_cons_self)
        (whole span List.mem_cons_self)
      rw [← first.source] at parts whole
      obtain ⟨marked, rest_done, second⟩ := induction first.reached
        (fun other member => parts other (List.mem_cons_of_mem _ member))
        (fun other member => whole other (List.mem_cons_of_mem _ member))
      refine ⟨marked, ?_, first.append second⟩
      rw [List.foldlM_cons, done]
      exact rest_done

theorem insertedTokens_subset {document other : Document} (same : document.current = other.current)
    (includes : Includes other.changedRegion document.changedRegion) :
    document.insertedTokens ⊆ other.insertedTokens := by
  have tokens : document.tokens = other.tokens := congrArg ScannedText.tokens same
  intro id member
  simp only [insertedTokens, size, List.mem_filter, ← tokens] at member ⊢
  refine ⟨member.1, ?_⟩
  obtain ⟨region, token, found, here, start, stop⟩ := isChanged_iff.mp member.2
  obtain ⟨larger, found', contains⟩ := includes region found
  rw [Span.contains_iff] at contains
  rw [token?, tokens] at here
  exact isChanged_iff.mpr ⟨larger, token, found', here, by omega, by omega⟩

/-- In a document without edits, marks that split no line break can come before edits.  They only
let the changed region grow. -/
theorem Reached.marks_commute {document : Document} (reached : document.Reached)
    (unedited : document.changes = []) (spans : List Span)
    (parts : ∀ span ∈ spans, (span.textIn? document.source).isSome = true)
    (whole : ∀ span ∈ spans, ¬ Text.SplitsBreakAt document.source span) (changes : List Change) :
    Agrees id
        (fun marked plain => marked.source = plain.source ∧
          marked.baseSource = plain.baseSource ∧ marked.tokens = plain.tokens ∧
          Includes marked.changedRegion plain.changedRegion ∧
          plain.insertedTokens ⊆ marked.insertedTokens)
        (spans.foldlM Document.mark document >>= fun marked => marked.update changes)
        (document.update changes) ∧
      ∃ marked,
        (spans.foldlM Document.mark document >>= fun marked => marked.update []) = .ok marked ∧
        marked.source = document.source ∧
        ∀ span ∈ spans, ∃ region, marked.changedRegion = some region ∧
          region.contains span = true := by
  obtain ⟨marked, done, marks⟩ := reached.markedWith_foldlM parts whole
  rw [done]
  constructor
  · have agrees := reached.update_includes marks.reached unedited marks.scanner.symm
      marks.source.symm changes
    apply agrees.symm.mono
    rintro after plain ⟨current, baseSource, baseSource', includes⟩
    exact ⟨congrArg ScannedText.source current.symm,
      (baseSource'.trans marks.baseSource).trans baseSource.symm,
      congrArg ScannedText.tokens current.symm, includes, insertedTokens_subset current includes⟩
  · refine ⟨marked, rfl, marks.source, ?_⟩
    intro span member
    exact marks.holds span member span rfl

def numberLines : Tokenizer :=
  Scanner.tokenizer ⟨[(0, runMatcher Char.isDigit)], some (runMatcher Char.isWhitespace), none⟩

/-- The numbers around a break are marked before a digit joins the last number. -/
theorem marks_commute_numberLines :
    let document := ofText numberLines "12\r\n34 5".toList
    let change : Change := .insert ⟨2, 4⟩ "6".toList
    document.Reached ∧ (∀ span ∈ [⟨4, 6⟩, ⟨0, 2⟩], ¬ Text.SplitsBreakAt document.source span) ∧
      ∃ marked plain,
        ([⟨4, 6⟩, ⟨0, 2⟩].foldlM Document.mark document >>= fun marked => marked.update [change]) =
            .ok marked ∧
          document.update [change] = .ok plain ∧ marked.source = plain.source ∧
          plain.insertedTokens = [2] ∧ plain.insertedTokens ⊆ marked.insertedTokens := by
  intro document change
  have reached : document.Reached := .ofText numberLines "12\r\n34 5".toList
  have whole : ∀ span ∈ [⟨4, 6⟩, ⟨0, 2⟩], ¬ Text.SplitsBreakAt document.source span := by
    decide +kernel
  have inserted : (document.update [change]).toOption.map insertedTokens = some [2] := by
    decide +kernel
  have agrees := (reached.marks_commute rfl [⟨4, 6⟩, ⟨0, 2⟩] (by decide +kernel) whole [change]).1
  cases done : document.update [change] with
  | error error =>
      rw [done] at inserted
      cases inserted
  | ok plain =>
      rw [done] at agrees inserted
      obtain ⟨marked, done', source, -, -, -, more⟩ := agrees.of_ok
      exact ⟨reached, whole, marked, plain, done', rfl, source, Option.some.inj inserted, more⟩

end Document

end Reparse
