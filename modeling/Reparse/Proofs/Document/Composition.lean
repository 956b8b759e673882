import Reparse.Proofs.Document.Separation

/-!
# Updates one after another

All recorded edits are applied to the base again.  An edit keeps the larger one of two regions the
larger one, so forgetting edits in between loses no text and only a part of the region.
-/

namespace Reparse

namespace Span

variable {wide narrow span : Span}

theorem contains_iff :
    wide.contains narrow = true ↔ wide.start ≤ narrow.start ∧ narrow.stop ≤ wide.stop := by
  simp [contains]

theorem contains_refl (span : Span) : span.contains span = true :=
  contains_iff.mpr ⟨Nat.le_refl _, Nat.le_refl _⟩

theorem contains_trans (outer : wide.contains span = true) (inner : span.contains narrow = true) :
    wide.contains narrow = true := by
  rw [contains_iff] at *
  omega

theorem hull_contains_left (span other : Span) : (span.hull other).contains span = true :=
  contains_iff.mpr ⟨Nat.min_le_left .., Nat.le_max_left ..⟩

theorem hull_contains_right (span other : Span) : (span.hull other).contains other = true :=
  contains_iff.mpr ⟨Nat.min_le_right .., Nat.le_max_right ..⟩

theorem hull_contains_hull (larger : wide.contains narrow = true) (span : Span) :
    (wide.hull span).contains (narrow.hull span) = true := by
  rw [contains_iff] at *
  simp only [hull]
  omega

theorem meets_of_contains (larger : wide.contains narrow = true)
    (meets : span.meets narrow = true) : span.meets wide = true := by
  rw [contains_iff] at larger
  simp only [Span.meets, Bool.not_eq_true', Bool.or_eq_false_iff, decide_eq_false_iff_not] at *
  omega

end Span

/-- Where the second region is there, the first one is there too and contains it. -/
def Includes (wide narrow : Option Span) : Prop :=
  ∀ region, narrow = some region → ∃ larger, wide = some larger ∧ larger.contains region = true

namespace Includes

variable {wide narrow : Option Span}

theorem nothing (wide : Option Span) : Includes wide none := by
  intro region missing
  cases missing

theorem regions {larger region : Span} (contains : larger.contains region = true) :
    Includes (some larger) (some region) := by
  rintro _ ⟨⟩
  exact ⟨larger, rfl, contains⟩

end Includes

namespace Document

theorem extendOver_contains {wide narrow : Span} (larger : wide.contains narrow = true)
    (tokens : Array Token) :
    (extendOver wide tokens).contains (extendOver narrow tokens) = true := by
  refine Array.foldl_rel (r := fun wide narrow : Span => wide.contains narrow = true) larger ?_
  intro token _ grown grown' contains
  by_cases meets : token.span.meets narrow = true
  · rw [if_pos meets, if_pos (Span.meets_of_contains larger meets)]
    exact Span.hull_contains_hull contains token.span
  · rw [if_neg meets]
    split
    · exact Span.contains_trans (Span.hull_contains_left ..) contains
    · exact contains

theorem extendOver_contains_self (region : Span) (tokens : Array Token) :
    (extendOver region tokens).contains region = true := by
  refine Array.foldl_induction (fun _ (wide : Span) => wide.contains region = true)
    (Span.contains_refl region) ?_
  intro index wide contains
  split
  · exact Span.contains_trans (Span.hull_contains_left ..) contains
  · exact contains

end Document

theorem Includes.extendOver {wide narrow : Option Span} (includes : Includes wide narrow)
    (tokens : Array Token) :
    Includes (wide.map fun region => Document.extendOver region tokens)
      (narrow.map fun region => Document.extendOver region tokens) := by
  intro region extended
  obtain ⟨inner, rfl, rfl⟩ := Option.map_eq_some_iff.mp extended
  obtain ⟨larger, rfl, contains⟩ := includes inner rfl
  exact ⟨_, rfl, Document.extendOver_contains contains tokens⟩

namespace Edited

theorem extendRegion_contains {wide narrow : Option Span} {replaced : Span}
    (includes : Includes wide narrow) (forward : replaced.start ≤ replaced.stop) (size : Nat) :
    (extendRegion wide replaced size).contains (extendRegion narrow replaced size) = true := by
  cases narrow with
  | none =>
      cases wide with
      | none => exact Span.contains_refl _
      | some larger =>
          rw [extendRegion_some _ _ _ forward, Span.contains_iff]
          simp only [extendRegion]
          omega
  | some region =>
      obtain ⟨larger, rfl, contains⟩ := includes region rfl
      rw [extendRegion_some _ _ _ forward, extendRegion_some _ _ _ forward]
      rw [Span.contains_iff] at *
      dsimp only
      omega

/-- The two have the same text, and the region of the first one includes the other one's. -/
structure Covers (wide narrow : Edited) : Prop where
  source : narrow.source = wide.source
  region : Includes wide.changed narrow.changed

theorem Covers.apply {wide narrow : Edited} (covers : wide.Covers narrow) (change : Change) :
    Agrees id (fun narrow wide => wide.Covers narrow) (narrow.apply change)
      (wide.apply change) := by
  unfold Edited.apply
  rw [covers.source]
  cases resolved : change.resolve wide.source with
  | error error => exact .error error
  | ok replaced =>
      obtain ⟨before, part, after, -, rfl⟩ := Change.resolve_eq_ok resolved
      apply Agrees.ok
      constructor
      · rfl
      · exact .regions (extendRegion_contains covers.region (by simp) _)

theorem Covers.foldlM {wide narrow : Edited} (covers : wide.Covers narrow)
    (changes : List Change) :
    Agrees id (fun narrow wide => wide.Covers narrow) (changes.foldlM Edited.apply narrow)
      (changes.foldlM Edited.apply wide) := by
  induction changes generalizing narrow wide with
  | nil => exact .ok covers
  | cons change rest induction =>
      rw [List.foldlM_cons, List.foldlM_cons]
      apply (covers.apply change).bind
      intro next next' _ _ covers
      exact induction covers

end Edited

namespace Edited

theorem applyAll_append (base : Text) (first second : List Change) :
    applyAll base (first ++ second) = applyAll base first >>= second.foldlM apply :=
  List.foldlM_append

end Edited

namespace Agrees

variable {α β γ : Type} {related : α → γ → Prop} {related' : β → γ → Prop}

theorem refl (result : Except EditError α) :
    Agrees id (fun value other => value = other) result result := by
  cases result with
  | ok value => exact .ok rfl
  | error error => exact .error error

theorem symm {first : Except EditError α} {second : Except EditError γ}
    (agrees : Agrees id related first second) :
    Agrees id (fun value other => related other value) second first := by
  cases agrees with
  | ok holds => exact .ok holds
  | error error => exact .error error

theorem both {first : Except EditError α} {second : Except EditError β}
    {third : Except EditError γ} (agrees : Agrees id related first third)
    (agrees' : Agrees id related' second third) :
    Agrees id
      (fun value other => first = .ok value ∧ second = .ok other ∧
        ∃ shared, related value shared ∧ related' other shared)
      first second := by
  cases agrees with
  | ok holds =>
      obtain ⟨other, rfl, holds'⟩ := agrees'.of_ok
      exact .ok ⟨rfl, rfl, _, holds, holds'⟩
  | error error =>
      rw [agrees'.of_error]
      exact .error error

end Agrees

namespace Document

/-- The document with edits that make a text from its base. -/
def record (document : Document) (all : List Change) (edited : Edited) : Document :=
  let current := ScannedText.ofText document.scanner edited.source
  let changed := edited.changed.map fun region => extendOver region current.tokens
  { document with current, history := some ⟨document.base, all, changed⟩ }

theorem update_of_ne_nil (document : Document) {changes : List Change} (more : changes ≠ []) :
    document.update changes =
      (Edited.applyAll document.baseSource (document.changes ++ changes)).map
        (document.record (document.changes ++ changes)) := by
  simp only [update, List.isEmpty_iff, if_neg more]
  cases Edited.applyAll document.baseSource (document.changes ++ changes) <;> rfl

theorem update_append (document : Document) (first second : List Change) :
    (document.update first >>= fun middle => middle.update second) =
      document.update (first ++ second) := by
  by_cases noFirst : first = []
  · subst noFirst
    rfl
  by_cases noSecond : second = []
  · subst noSecond
    rw [List.append_nil]
    cases document.update first <;> rfl
  have more : first ++ second ≠ [] := by simp [noFirst]
  rw [document.update_of_ne_nil noFirst, document.update_of_ne_nil more, ← List.append_assoc,
    Edited.applyAll_append _ (document.changes ++ first)]
  cases applied : Edited.applyAll document.baseSource (document.changes ++ first) with
  | error error => rfl
  | ok edited =>
      let middle := document.record (document.changes ++ first) edited
      have again : Edited.applyAll middle.baseSource (middle.changes ++ second) =
          second.foldlM Edited.apply edited := by
        change Edited.applyAll document.baseSource (document.changes ++ first ++ second) = _
        rw [Edited.applyAll_append, applied]
        rfl
      calc
        middle.update second = (Edited.applyAll middle.baseSource (middle.changes ++ second)).map
            (middle.record (middle.changes ++ second)) := middle.update_of_ne_nil noSecond
        _ = (second.foldlM Edited.apply edited).map (middle.record (middle.changes ++ second)) := by
          rw [again]

theorem Reached.exists_edited {document : Document} (reached : document.Reached) :
    ∃ edited, Edited.applyAll document.baseSource document.changes = .ok edited ∧
      edited.source = document.source ∧
      document.changedRegion =
        edited.changed.map fun region => extendOver region document.tokens := by
  induction reached with
  | ofText scanner source => exact ⟨⟨source, none⟩, rfl, rfl, rfl⟩
  | @update document after changes _ done recorded =>
      rcases update_eq_ok done with ⟨-, rfl⟩ | ⟨edited, applied, -, current, history⟩
      · exact recorded
      · refine ⟨edited, ?_, ?_, ?_⟩
        · simpa only [baseSource, base, Document.changes, history] using applied
        · rw [source, current]
          rfl
        · rw [changedRegion, history]
          rfl
  | @forgetEdits document _ _ => exact ⟨⟨document.source, none⟩, rfl, rfl, rfl⟩

theorem Reached.changedRegion_eq_none_iff {document : Document} (reached : document.Reached) :
    document.changedRegion = none ↔ document.changes = [] := by
  constructor
  · exact reached.changes_eq_nil
  · intro unedited
    obtain ⟨edited, applied, -, region⟩ := reached.exists_edited
    rw [unedited] at applied
    cases applied
    exact region

theorem Faithful.baseSource_eq {document : Document} (faithful : document.Faithful)
    (unedited : document.changes = []) : document.baseSource = document.source := by
  have edits := faithful.edits
  rw [unedited] at edits
  exact Except.ok.inj edits

/-- Of two documents with one text, one without edits, more edits make two with one text again, and
the region of the one that had edits includes the other one's. -/
theorem Reached.update_includes {plain edited : Document} (reached : plain.Reached)
    (reached' : edited.Reached) (unedited : plain.changes = [])
    (scanner : plain.scanner = edited.scanner) (source : plain.source = edited.source)
    (changes : List Change) :
    Agrees id
      (fun after other => after.current = other.current ∧
        after.baseSource = plain.baseSource ∧ other.baseSource = edited.baseSource ∧
        Includes other.changedRegion after.changedRegion)
      (plain.update changes) (edited.update changes) := by
  have agrees := update_agrees reached.faithful changes
  have agrees' := update_agrees reached'.faithful changes
  rw [← source] at agrees'
  apply (agrees.both agrees').mono
  rintro after other ⟨done, done', text, follows, follows'⟩
  have current : after.current = other.current := by
    rw [follows.faithful.current, follows'.faithful.current, follows.source, follows'.source,
      follows.scanner, follows'.scanner, scanner]
  refine ⟨current, follows.baseSource, follows'.baseSource, ?_⟩
  obtain ⟨before, recorded, before_source, -⟩ := reached'.exists_edited
  obtain ⟨last, applied, -, region⟩ := (reached.update done).exists_edited
  obtain ⟨last', applied', -, region'⟩ := (reached'.update done').exists_edited
  rw [follows.baseSource, follows.changes, unedited, List.nil_append] at applied
  rw [follows'.baseSource, follows'.changes, Edited.applyAll_append, recorded] at applied'
  have start : before.Covers ⟨plain.baseSource, none⟩ := by
    constructor
    · exact ((reached.faithful.baseSource_eq unedited).trans source).trans before_source.symm
    · exact .nothing _
  have covers : Agrees id (fun narrow wide => wide.Covers narrow) (.ok last) (.ok last') := by
    rw [← applied, ← applied']
    exact start.foldlM changes
  cases covers with
  | ok covers =>
      rw [region, region', tokens, tokens, current]
      exact covers.region.extendOver _

/-- Two updates are one with the edits of both.  Forgetting the edits in between can only lose a
part of the changed region. -/
theorem Reached.update_composes {document : Document} (reached : document.Reached) :
    document.current = .ofText document.scanner document.source ∧
      Text.edit document.baseSource document.changes = .ok document.source ∧
      (document.changedRegion.isSome = true ↔ document.changes ≠ []) ∧
      (∀ span marked, document.mark span = .ok marked → marked.Reached) ∧
      ∀ first second : List Change,
        (document.update first >>= fun middle => middle.update second) =
            document.update (first ++ second) ∧
          Agrees id
            (fun after whole => after.source = whole.source ∧ after.tokens = whole.tokens ∧
              Includes whole.changedRegion after.changedRegion)
            (document.update first >>= fun middle => middle.forgetEdits.update second)
            (document.update (first ++ second)) := by
  refine ⟨reached.faithful.current, reached.faithful.edits, ?_, fun _ _ => reached.mark, ?_⟩
  · rw [Option.isSome_iff_ne_none, ne_eq, reached.changedRegion_eq_none_iff]
  · intro first second
    refine ⟨document.update_append first second, ?_⟩
    rw [← document.update_append first second]
    apply (Agrees.refl (document.update first)).bind
    rintro middle _ done - rfl
    have reached := reached.update done
    apply (reached.forgetEdits.update_includes reached rfl rfl rfl second).mono
    rintro after whole ⟨current, -, -, includes⟩
    exact ⟨congrArg ScannedText.source current, congrArg ScannedText.tokens current, includes⟩

/-- A digit joins the second number, then the first number goes; with the edits forgotten in between
the region knows of the second edit only. -/
theorem update_composes_numbers :
    let document := ofText numbers "1 2 3".toList
    let first : Change := .insert ⟨1, 3⟩ "4".toList
    let second : Change := ⟨[], ⟨1, 0⟩, ⟨1, 1⟩⟩
    document.Reached ∧
      ∃ after whole,
        (document.update [first] >>= fun middle => middle.forgetEdits.update [second]) =
            .ok after ∧
          document.update [first, second] = .ok whole ∧ after.tokens = whole.tokens ∧
          Includes whole.changedRegion after.changedRegion ∧
          whole.changedRegion = some ⟨0, 3⟩ := by
  intro document first second
  have reached : document.Reached := .ofText numbers "1 2 3".toList
  have region : (document.update [first, second]).toOption.bind changedRegion = some ⟨0, 3⟩ := by
    decide +kernel
  have agrees := (reached.update_composes.2.2.2.2 [first] [second]).2
  rw [List.singleton_append] at agrees
  cases done : document.update [first, second] with
  | error error =>
      rw [done] at region
      cases region
  | ok whole =>
      rw [done] at agrees region
      obtain ⟨after, done', -, tokens, includes⟩ := agrees.of_ok
      exact ⟨reached, after, whole, done', rfl, tokens, includes, region⟩

end Document

end Reparse
