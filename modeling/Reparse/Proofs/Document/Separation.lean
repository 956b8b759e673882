import Reparse.Proofs.Document.Delimiting

/-!
# The changed region

Before the changed region and after it the base and the current text are the same.  An edit keeps
this up wherever it lies to the region: of the parts before both, one begins the other, and the
smaller one is what the texts still share.

Main statement: `Reached.separates_update`.
-/

namespace Reparse

open Text (byteSize isBoundary)

namespace Text

theorem exists_common_beginning {first rest second rest' : Text}
    (same : first ++ rest = second ++ rest') :
    ∃ shared more more', first = shared ++ more ∧ second = shared ++ more' ∧
      byteSize shared = min (byteSize first) (byteSize second) := by
  rcases Nat.le_total (byteSize first) (byteSize second) with smaller | larger
  · obtain ⟨between, longer, -⟩ := exists_append_of_byteSize_le same smaller
    exact ⟨first, [], between, by simp, longer, (Nat.min_eq_left smaller).symm⟩
  · obtain ⟨between, longer, -⟩ := exists_append_of_byteSize_le same.symm larger
    exact ⟨second, between, [], longer, by simp, (Nat.min_eq_right larger).symm⟩

theorem exists_common_end {first rest second rest' : Text}
    (same : first ++ rest = second ++ rest') :
    ∃ shared more more', rest = more ++ shared ∧ rest' = more' ++ shared ∧
      byteSize more' = byteSize first - byteSize second := by
  rcases Nat.le_total (byteSize first) (byteSize second) with smaller | larger
  · obtain ⟨between, -, rests⟩ := exists_append_of_byteSize_le same smaller
    exact ⟨rest', between, [], rests, by simp, (Nat.sub_eq_zero_of_le smaller).symm⟩
  · obtain ⟨between, longer, rests⟩ := exists_append_of_byteSize_le same.symm larger
    refine ⟨rest, [], between, by simp, rests, ?_⟩
    rw [longer, byteSize_append]
    omega

theorem splice_append (before part after inserted : Text) :
    splice (before ++ part ++ after) (byteSize before) (byteSize (before ++ part)) inserted =
      before ++ inserted ++ after := by
  rw [splice, dropBytes_append, takeBytes_of_prefix (List.append_assoc ..)]

end Text

/-- The texts share what lies before the region of the second one and what lies after it. -/
def Separates (base text : Text) (region : Span) : Prop :=
  ∃ before replaced inserted after,
    base = before ++ replaced ++ after ∧ text = before ++ inserted ++ after ∧
      byteSize before = region.start ∧ region.textIn? text = some inserted

theorem separates_iff {base text : Text} {region : Span} :
    Separates base text region ↔
      ∃ before replaced inserted after,
        base = before ++ replaced ++ after ∧ text = before ++ inserted ++ after ∧
          byteSize before = region.start ∧ byteSize before + byteSize inserted = region.stop := by
  constructor
  · rintro ⟨before, replaced, inserted, after, one, other, start, part⟩
    obtain ⟨before', after', -, start', stop⟩ := Text.slice?_eq_some_iff.mp part
    exact ⟨before, replaced, inserted, after, one, other, start, by rw [start, ← start', stop]⟩
  · rintro ⟨before, replaced, inserted, after, one, other, start, stop⟩
    exact ⟨before, replaced, inserted, after, one, other, start,
      Text.slice?_eq_some_iff.mpr ⟨before, after, other, start, stop⟩⟩

namespace Separates

variable {base text : Text} {region : Span}

theorem forward (separates : Separates base text region) : region.start ≤ region.stop := by
  obtain ⟨before, replaced, inserted, after, -, -, start, stop⟩ := separates_iff.mp separates
  omega

/-- A larger region separates the texts too, if it does not cut a character. -/
theorem widen {wide : Span} (separates : Separates base text region)
    (start : isBoundary text wide.start = true) (stop : isBoundary text wide.stop = true)
    (starts : wide.start ≤ region.start) (stops : region.stop ≤ wide.stop) :
    Separates base text wide := by
  obtain ⟨before, replaced, inserted, after, one, other, starting, stopping⟩ :=
    separates_iff.mp separates
  obtain ⟨before', rest, first, size⟩ := Text.isBoundary_iff.mp start
  obtain ⟨upTo, after', second, size'⟩ := Text.isBoundary_iff.mp stop
  have early : byteSize before' ≤ byteSize before := by omega
  have late : byteSize (before ++ inserted) ≤ byteSize upTo := by
    rw [Text.byteSize_append]
    omega
  obtain ⟨back, longer, rfl⟩ := Text.exists_append_of_byteSize_le (other.symm.trans second) late
  rw [List.append_assoc] at other
  obtain ⟨front, rfl, -⟩ := Text.exists_append_of_byteSize_le (first.symm.trans other) early
  refine separates_iff.mpr
    ⟨before', front ++ replaced ++ back, front ++ inserted ++ back, after', ?_, ?_, size, ?_⟩
  · simp [one]
  · simp [other]
  · simp only [longer, Text.byteSize_append] at size' ⊢
    omega

theorem boundaries (separates : Separates base text region) :
    isBoundary text region.start = true ∧ isBoundary text region.stop = true := by
  obtain ⟨before, replaced, inserted, after, -, other, start, stop⟩ := separates_iff.mp separates
  rw [← Text.byteSize_append] at stop
  constructor
  · exact Text.isBoundary_iff.mpr ⟨before, inserted ++ after, by simp [other], start⟩
  · exact Text.isBoundary_iff.mpr ⟨before ++ inserted, after, other, stop⟩

theorem hull {span : Span} (separates : Separates base text region)
    (delimits : span.Delimits text) : Separates base text (region.hull span) := by
  obtain ⟨start, stop⟩ := separates.boundaries
  apply separates.widen
  · rcases min_choice region.start span.start with own | other
    · simpa [Span.hull, own] using start
    · simpa [Span.hull, other] using delimits.start
  · rcases max_choice region.stop span.stop with own | other
    · simpa [Span.hull, own] using stop
    · simpa [Span.hull, other] using delimits.stop
  · exact Nat.min_le_left ..
  · exact Nat.le_max_left ..

theorem extendOver {tokens : Array Token} (separates : Separates base text region)
    (delimits : ∀ token ∈ tokens, token.span.Delimits text) :
    Separates base text (Document.extendOver region tokens) := by
  unfold Document.extendOver
  refine Array.foldl_induction (fun _ wide => Separates base text wide) separates ?_
  intro index wide separates
  split
  · exact separates.hull (delimits _ (Array.getElem_mem _))
  · exact separates

theorem textIn_before {span : Span} (separates : Separates base text region)
    (delimits : span.Delimits text) (early : span.stop ≤ region.start) :
    span.textIn base = span.textIn text := by
  obtain ⟨before, replaced, inserted, after, one, other, starting, -⟩ :=
    separates_iff.mp separates
  obtain ⟨front, part, back, whole, start, stop, -⟩ := delimits.cut
  rw [List.append_assoc] at one other
  obtain ⟨rest, longer, -⟩ := Text.exists_append_of_byteSize_le (whole.symm.trans other) (by omega)
  rw [Text.byteSize_append] at stop
  have inText : span.textIn? text = some part :=
    Text.slice?_eq_some_iff.mpr ⟨front, back, whole, start.symm, stop.symm⟩
  have inBase : span.textIn? base = some part :=
    Text.slice?_eq_some_iff.mpr
      ⟨front, rest ++ (replaced ++ after), by simp [one, longer], start.symm, stop.symm⟩
  rw [Span.textIn, Span.textIn, inText, inBase]

theorem textIn_after {span other : Span} (separates : Separates base text region)
    (delimits : other.Delimits text) (late : region.stop ≤ other.start)
    (starts : span.start + byteSize text = other.start + byteSize base)
    (stops : span.stop + byteSize text = other.stop + byteSize base) :
    span.textIn base = other.textIn text := by
  obtain ⟨before, replaced, inserted, after, one, whole, starting, stopping⟩ :=
    separates_iff.mp separates
  obtain ⟨front, part, back, whole', start, stop, -⟩ := delimits.cut
  have inText : other.textIn? text = some part := by
    rw [Text.byteSize_append] at stop
    exact Text.slice?_eq_some_iff.mpr ⟨front, back, whole', start.symm, stop.symm⟩
  rw [List.append_assoc] at whole'
  obtain ⟨rest, rfl, rfl⟩ := Text.exists_append_of_byteSize_le (whole.symm.trans whole')
    (by rw [Text.byteSize_append]; omega)
  have inBase : span.textIn? base = some part := by
    refine Text.slice?_eq_some_iff.mpr ⟨before ++ replaced ++ rest, back, by simp [one], ?_, ?_⟩
    · simp only [one, whole, Text.byteSize_append] at *
      omega
    · simp only [one, whole, Text.byteSize_append] at *
      omega
  rw [Span.textIn, Span.textIn, inText, inBase]

/-- Replacing another part of the text extends the region over what took its place. -/
theorem replace {before replaced after : Text}
    (separates : Separates base (before ++ replaced ++ after) region) (inserted : Text) :
    Separates base (before ++ inserted ++ after)
      ⟨min region.start (byteSize before),
        byteSize before + byteSize inserted + (region.stop - byteSize (before ++ replaced))⟩ := by
  obtain ⟨first, removed, added, last, rfl, same, start, stop⟩ := separates_iff.mp separates
  have same' : first ++ (added ++ last) = before ++ (replaced ++ after) := by
    simpa only [List.append_assoc] using same.symm
  obtain ⟨front, extra, lead, rfl, rfl, size⟩ := Text.exists_common_beginning same'
  obtain ⟨back, extra', trail, rfl, rfl, size'⟩ := Text.exists_common_end same.symm
  refine separates_iff.mpr
    ⟨front, extra ++ removed ++ extra', lead ++ inserted ++ trail, back, ?_, ?_, ?_, ?_⟩
  · simp
  · simp
  · simp only [size, start]
  · simp only [Text.byteSize_append] at *
    omega

end Separates

namespace Change

theorem resolvePosition_eq_ok {source : Text} {position : Position} {offset : Nat}
    (resolved : resolvePosition (.ofText source) source position = .ok offset) :
    ∃ before after, source = before ++ after ∧ byteSize before = offset := by
  unfold resolvePosition at resolved
  rw [Lines.offsetAt?_eq] at resolved
  cases found : Text.before? source position with
  | none => simp [found] at resolved
  | some before =>
      obtain ⟨after, whole⟩ := Text.before?_prefix found
      exact ⟨before, after, whole, by simpa [found] using resolved⟩

theorem resolve_eq_ok {change : Change} {source : Text} {replaced : Span}
    (resolved : change.resolve source = .ok replaced) :
    ∃ before part after, source = before ++ part ++ after ∧
      replaced = ⟨byteSize before, byteSize (before ++ part)⟩ := by
  simp only [resolve, bind_eq_ok] at resolved
  obtain ⟨start, startDone, stop, stopDone, rest⟩ := resolved
  obtain ⟨before, others, first, rfl⟩ := resolvePosition_eq_ok startDone
  obtain ⟨upTo, after, second, rfl⟩ := resolvePosition_eq_ok stopDone
  by_cases inverted : byteSize upTo < byteSize before
  · simp [inverted, bind, Except.bind, throw, throwThe, MonadExceptOf.throw] at rest
  · rw [if_neg inverted, pure_eq_ok] at rest
    obtain ⟨part, rfl, -⟩ := Text.exists_append_of_byteSize_le (first.symm.trans second)
      (Nat.le_of_not_lt inverted)
    exact ⟨before, part, after, second, rest.symm⟩

end Change

namespace Edited

theorem min_shift (replaced : Span) (size offset : Nat) (forward : replaced.start ≤ replaced.stop) :
    min (shift replaced size replaced.start offset) replaced.start = min offset replaced.start := by
  unfold shift Span.length
  split
  · rfl
  · split <;> omega

theorem max_shift (replaced : Span) (size offset : Nat) (forward : replaced.start ≤ replaced.stop) :
    max (shift replaced size (replaced.start + size) offset) (replaced.start + size) =
      replaced.start + size + (offset - replaced.stop) := by
  unfold shift Span.length
  split
  · omega
  · split <;> omega

theorem extendRegion_some (region replaced : Span) (size : Nat)
    (forward : replaced.start ≤ replaced.stop) :
    extendRegion (some region) replaced size =
      ⟨min region.start replaced.start,
        replaced.start + size + (region.stop - replaced.stop)⟩ := by
  simp only [extendRegion, Span.hull, min_shift replaced size _ forward,
    max_shift replaced size _ forward]

/-- The region that goes along with the text separates it from the base. -/
structure Marks (base : Text) (edited : Edited) : Prop where
  unchanged : edited.changed = none → edited.source = base
  separates : ∀ {region}, edited.changed = some region → Separates base edited.source region

theorem Marks.apply {base : Text} {edited next : Edited} {change : Change}
    (marks : edited.Marks base) (applied : edited.apply change = .ok next) :
    next.Marks base ∧ next.changed.isSome := by
  simp only [Edited.apply, bind_eq_ok, pure_eq_ok] at applied
  obtain ⟨replaced, resolved, rfl⟩ := applied
  obtain ⟨before, part, after, whole, rfl⟩ := Change.resolve_eq_ok resolved
  refine ⟨⟨by simp, ?_⟩, by simp⟩
  rintro extended ⟨⟩
  simp only [whole, Text.splice_append]
  cases changed : edited.changed with
  | none =>
      have source : before ++ part ++ after = base := whole.symm.trans (marks.unchanged changed)
      exact separates_iff.mpr
        ⟨before, part, change.text, after, source.symm, rfl, rfl, rfl⟩
  | some region =>
      have separates := marks.separates changed
      rw [whole] at separates
      rw [extendRegion_some _ _ _ (by simp)]
      exact separates.replace change.text

theorem marks_foldlM {base : Text} {edited last : Edited} {changes : List Change}
    (marks : edited.Marks base) (applied : changes.foldlM apply edited = .ok last) :
    last.Marks base ∧ (last.changed = none → edited.changed = none ∧ changes = []) := by
  induction changes generalizing edited with
  | nil =>
      obtain rfl : edited = last := by simpa [pure_eq_ok] using applied
      exact ⟨marks, fun unmarked => ⟨unmarked, rfl⟩⟩
  | cons change rest induction =>
      rw [List.foldlM_cons, bind_eq_ok] at applied
      obtain ⟨next, first, others⟩ := applied
      obtain ⟨marks, marked⟩ := marks.apply first
      obtain ⟨marks, nothing⟩ := induction marks others
      refine ⟨marks, fun unmarked => ?_⟩
      simp [(nothing unmarked).1] at marked

theorem marks_applyAll {base : Text} {edited : Edited} {changes : List Change}
    (applied : applyAll base changes = .ok edited) :
    edited.Marks base ∧ (edited.changed = none → changes = []) := by
  have start : Marks base ⟨base, none⟩ := ⟨fun _ => rfl, by simp⟩
  obtain ⟨marks, nothing⟩ := marks_foldlM start applied
  exact ⟨marks, fun unmarked => (nothing unmarked).2⟩

end Edited

namespace Document

theorem update_eq_ok {document after : Document} {changes : List Change}
    (done : document.update changes = .ok after) :
    changes = [] ∧ after = document ∨
      ∃ edited, Edited.applyAll document.baseSource (document.changes ++ changes) = .ok edited ∧
        after.scanner = document.scanner ∧
        after.current = .ofText document.scanner edited.source ∧
        after.history = some ⟨document.base, document.changes ++ changes,
          edited.changed.map fun region => extendOver region after.tokens⟩ := by
  unfold update at done
  split at done
  · rename_i nothing
    rw [pure_eq_ok] at done
    exact .inl ⟨by simpa using nothing, done.symm⟩
  · simp only [bind_eq_ok, pure_eq_ok] at done
    obtain ⟨edited, applied, rfl⟩ := done
    exact .inr ⟨edited, applied, rfl, rfl, rfl⟩

/-- The documents that come from a text by updates and by forgetting the edits. -/
inductive Reached : Document → Prop where
  | ofText (scanner : Tokenizer) (source : Text) : Reached (ofText scanner source)
  | update {document after : Document} {changes : List Change} :
      Reached document → document.update changes = .ok after → Reached after
  | forgetEdits {document : Document} : Reached document → Reached document.forgetEdits

namespace Reached

variable {document after : Document}

theorem mark {span : Span} (reached : Reached document) (done : document.mark span = .ok after) :
    Reached after := by
  unfold Document.mark at done
  dsimp only at done
  split at done
  · exact reached.update done
  · cases done

theorem faithful (reached : Reached document) : document.Faithful := by
  induction reached with
  | ofText scanner source => exact .ofText scanner source
  | @update document after changes _ done faithful =>
      have agrees := update_agrees faithful changes
      rw [done] at agrees
      obtain ⟨text, -, extends_it⟩ := agrees.of_value
      exact extends_it.faithful
  | forgetEdits _ faithful => exact faithful.forgetEdits

theorem base_eq (reached : Reached document) :
    document.base = .ofText document.scanner document.baseSource := by
  induction reached with
  | ofText scanner source => rfl
  | @update document after changes _ done base_eq =>
      rcases update_eq_ok done with ⟨-, rfl⟩ | ⟨edited, -, scanner, -, history⟩
      · exact base_eq
      · simpa only [baseSource, base, history, scanner] using base_eq
  | forgetEdits reached _ => exact reached.faithful.current

theorem changes_eq_nil (reached : Reached document) (unmarked : document.changedRegion = none) :
    document.changes = [] := by
  induction reached with
  | ofText scanner source => rfl
  | update _ done nothing =>
      rcases update_eq_ok done with ⟨-, rfl⟩ | ⟨edited, applied, -, -, history⟩
      · exact nothing unmarked
      · have unmarked : edited.changed = none := by
          simpa [changedRegion, history] using unmarked
        rw [changes, history]
        exact (Edited.marks_applyAll applied).2 unmarked
  | forgetEdits _ _ => rfl

theorem separates (reached : Reached document) {region : Span}
    (marked : document.changedRegion = some region) :
    Separates document.baseSource document.source region := by
  induction reached with
  | ofText scanner source => cases marked
  | @update document after changes reached done separates =>
      have faithful := (reached.update done).faithful
      rcases update_eq_ok done with ⟨-, rfl⟩ | ⟨edited, applied, -, current, history⟩
      · exact separates marked
      · obtain ⟨narrow, changed, rfl⟩ : ∃ narrow, edited.changed = some narrow ∧
            extendOver narrow after.tokens = region := by
          simpa [changedRegion, history] using marked
        have separates := (Edited.marks_applyAll applied).1.separates changed
        have source : after.source = edited.source := congrArg ScannedText.source current
        have base : after.baseSource = document.baseSource := by
          simp only [baseSource, Document.base, history]
        rw [source, base]
        apply separates.extendOver
        intro token member
        exact source ▸ (faithful.delimits_token member).1
  | forgetEdits _ _ => cases marked

/-- After an accepted update the changed region separates the base from the text. -/
theorem separates_update {changes : List Change} (reached : Reached document)
    (accepted : document.update changes = .ok after) :
    after.baseSource = document.baseSource ∧
      Text.edit document.source changes = .ok after.source ∧
      Text.edit document.baseSource (document.changes ++ changes) = .ok after.source ∧
      match after.changedRegion with
      | none => document.changes ++ changes = []
      | some region => Separates document.baseSource after.source region := by
  have agrees := update_agrees reached.faithful changes
  rw [accepted] at agrees
  obtain ⟨text, edits, extends_it⟩ := agrees.of_value
  rw [← extends_it.source] at edits
  refine ⟨extends_it.baseSource, edits, ?_, ?_⟩
  · rw [reached.faithful.edit_all, edits]
  · have reached := reached.update accepted
    split
    · rename_i unmarked
      exact extends_it.changes.symm.trans (reached.changes_eq_nil unmarked)
    · rename_i region marked
      exact extends_it.baseSource ▸ reached.separates marked

end Reached

/-! ## Numbers -/

/-- Matches the longest run of characters that pass the test. -/
def runMatcher (test : Char → Bool) : Matcher where
  matchEnd? text := some (text.takeWhile test).length
  withinText := by
    rintro text found ⟨⟩
    exact (List.takeWhile_prefix test).length_le

def numbers : Tokenizer :=
  Scanner.tokenizer ⟨[(0, runMatcher Char.isDigit)], some (runMatcher (· == ' ')), none⟩

/-- A digit joins the second number, then the first number goes. -/
theorem separates_update_numbers :
    ∃ after, (ofText numbers "1 2 3".toList).update
        [.insert ⟨1, 3⟩ "4".toList, ⟨[], ⟨1, 0⟩, ⟨1, 1⟩⟩] = .ok after ∧
      Separates "1 2 3".toList after.source ⟨0, 3⟩ := by
  have region : ((ofText numbers "1 2 3".toList).update
      [.insert ⟨1, 3⟩ "4".toList, ⟨[], ⟨1, 0⟩, ⟨1, 1⟩⟩]).toOption.bind changedRegion =
        some ⟨0, 3⟩ := by
    decide +kernel
  cases accepted : (ofText numbers "1 2 3".toList).update
      [.insert ⟨1, 3⟩ "4".toList, ⟨[], ⟨1, 0⟩, ⟨1, 1⟩⟩] with
  | error error =>
      rw [accepted] at region
      cases region
  | ok after =>
      have marked : after.changedRegion = some ⟨0, 3⟩ := by
        rwa [accepted] at region
      obtain ⟨-, -, -, separates⟩ :=
        (Reached.ofText numbers "1 2 3".toList).separates_update accepted
      rw [marked] at separates
      exact ⟨after, rfl, separates⟩

end Document

end Reparse
