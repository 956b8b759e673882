import Reparse.Document.Basic
import Reparse.Proofs.Text.Lines

/-!
# Edited documents

Here a change is said of the text alone: each position names the part of the text before it.  A
document keeps the text that all of its edits make from its base.
-/

namespace Reparse

open Text (byteSize before? textLines takeBytes dropBytes)

def Change.applyTo (change : Change) (text : Text) : Except EditError Text :=
  match before? text change.start, before? text change.stop with
  | none, _ => .error (.lineOutOfBounds change.start.line (textLines text).length)
  | some _, none => .error (.lineOutOfBounds change.stop.line (textLines text).length)
  | some before, some upTo =>
      if upTo.length < before.length then
        .error (.invertedRange change.start change.stop)
      else
        .ok (before ++ change.text ++ text.drop upTo.length)

def Text.edit (text : Text) (changes : List Change) : Except EditError Text :=
  changes.foldlM (fun text change => change.applyTo text) text

namespace Text

@[simp]
theorem edit_nil (text : Text) : edit text [] = .ok text := rfl

theorem edit_append (text : Text) (first second : List Change) :
    edit text (first ++ second) = edit text first >>= fun text => edit text second := by
  simp [edit, List.foldlM_append]

theorem takeBytes_of_prefix {text before after : Text} (whole : text = before ++ after) :
    takeBytes text (byteSize before) = before := by
  rw [whole, takeBytes_append]

theorem dropBytes_of_prefix {text before after : Text} (whole : text = before ++ after) :
    dropBytes text (byteSize before) = text.drop before.length := by
  rw [whole, dropBytes_append, List.drop_left]

theorem byteSize_lt_iff {text first second rest rest' : Text} (one : text = first ++ rest)
    (other : text = second ++ rest') :
    byteSize first < byteSize second ↔ first.length < second.length := by
  rcases List.append_eq_append_iff.mp (one.symm.trans other) with
    ⟨between, longer, -⟩ | ⟨between, shorter, -⟩
  · have nothing : byteSize between = 0 ↔ between.length = 0 := by
      rw [byteSize_eq_zero_iff, List.length_eq_zero_iff]
    rw [longer, byteSize_append, List.length_append]
    omega
  · rw [shorter, byteSize_append, List.length_append]
    omega

end Text

namespace Edited

theorem source_apply (edited : Edited) (change : Change) :
    (edited.apply change).map Edited.source = change.applyTo edited.source := by
  have count := Lines.count_ofText edited.source
  have start := Lines.offsetAt?_eq edited.source change.start
  have stop := Lines.offsetAt?_eq edited.source change.stop
  unfold apply Change.resolve Change.resolvePosition Change.applyTo
  simp only [start, stop, count]
  cases startFound : before? edited.source change.start with
  | none => rfl
  | some before =>
      cases stopFound : before? edited.source change.stop with
      | none => rfl
      | some upTo =>
          obtain ⟨after, whole⟩ := Text.before?_prefix startFound
          obtain ⟨after', whole'⟩ := Text.before?_prefix stopFound
          have ordered := Text.byteSize_lt_iff whole' whole
          by_cases inverted : upTo.length < before.length
          · simp [inverted, ordered.mpr inverted, Except.map, bind, Except.bind, throw, throwThe,
              MonadExceptOf.throw]
          · simp [inverted, mt ordered.mp inverted, Except.map, bind, Except.bind, pure,
              Except.pure, Text.splice, Text.takeBytes_of_prefix whole,
              Text.dropBytes_of_prefix whole']

theorem source_foldlM (edited : Edited) (changes : List Change) :
    (changes.foldlM apply edited).map Edited.source = Text.edit edited.source changes := by
  induction changes generalizing edited with
  | nil => rfl
  | cons change rest induction =>
      have first := source_apply edited change
      rw [Text.edit, List.foldlM_cons, List.foldlM_cons, ← first]
      cases edited.apply change with
      | error error => rfl
      | ok next => exact induction next

theorem source_applyAll (base : Text) (changes : List Change) :
    (applyAll base changes).map Edited.source = Text.edit base changes :=
  source_foldlM _ changes

end Edited

section Computations

variable {ε ε' α β : Type}

theorem bind_eq_ok {first : Except ε α} {rest : α → Except ε β} {value : β} :
    first >>= rest = .ok value ↔ ∃ middle, first = .ok middle ∧ rest middle = .ok value := by
  cases first <;> simp [bind, Except.bind]

theorem pure_eq_ok {given value : α} : (pure given : Except ε α) = .ok value ↔ given = value := by
  simp [pure, Except.pure]

theorem mapError_eq_ok {first : Except ε α} {wrap : ε → ε'} {value : α} :
    first.mapError wrap = .ok value ↔ first = .ok value := by
  cases first <;> simp [Except.mapError]

end Computations

/-- The two computations fail with the same error or give values that are related. -/
inductive Agrees {ε α β : Type} (wrap : EditError → ε) (related : α → β → Prop) :
    Except ε α → Except EditError β → Prop where
  | ok {value : α} {other : β} : related value other → Agrees wrap related (.ok value) (.ok other)
  | error (error : EditError) : Agrees wrap related (.error (wrap error)) (.error error)

namespace Agrees

variable {ε α β γ δ : Type} {wrap : EditError → ε} {related : α → β → Prop}
  {related' : γ → δ → Prop} {first : Except ε α} {second : Except EditError β}

theorem of_error {error : EditError} (agrees : Agrees wrap related first (.error error)) :
    first = .error (wrap error) := by
  cases agrees
  rfl

theorem of_ok {other : β} (agrees : Agrees wrap related first (.ok other)) :
    ∃ value, first = .ok value ∧ related value other := by
  cases agrees with
  | ok holds => exact ⟨_, rfl, holds⟩

theorem of_value {value : α} (agrees : Agrees wrap related (.ok value) second) :
    ∃ other, second = .ok other ∧ related value other := by
  cases agrees with
  | ok holds => exact ⟨_, rfl, holds⟩

theorem bind {next : α → Except ε γ} {next' : β → Except EditError δ}
    (agrees : Agrees wrap related first second)
    (rest : ∀ value other, first = .ok value → second = .ok other → related value other →
      Agrees wrap related' (next value) (next' other)) :
    Agrees wrap related' (first >>= next) (second >>= next') := by
  cases agrees with
  | ok holds => exact rest _ _ rfl rfl holds
  | error error => exact .error error

theorem returns {related' : γ → β → Prop} {next : α → Except ε γ}
    (agrees : Agrees wrap related first second)
    (rest : ∀ value other, related value other →
      ∃ result, next value = .ok result ∧ related' result other) :
    Agrees wrap related' (first >>= next) second := by
  cases agrees with
  | ok holds =>
      obtain ⟨result, done, holds⟩ := rest _ _ holds
      change Agrees wrap related' (next _) _
      rw [done]
      exact .ok holds
  | error error => exact .error error

theorem mapError {first : Except EditError α} (agrees : Agrees id related first second) :
    Agrees wrap related (first.mapError wrap) second := by
  cases agrees with
  | ok holds => exact .ok holds
  | error error => exact .error error

theorem mono {related' : α → β → Prop} (agrees : Agrees wrap related first second)
    (weaker : ∀ value other, related value other → related' value other) :
    Agrees wrap related' first second := by
  cases agrees with
  | ok holds => exact .ok (weaker _ _ holds)
  | error error => exact .error error

end Agrees

namespace Document

/-- The document holds the tokens of its text, and the text is what its edits make of its base. -/
structure Faithful (document : Document) : Prop where
  current : document.current = .ofText document.scanner document.source
  edits : Text.edit document.baseSource document.changes = .ok document.source

theorem Faithful.ofText (scanner : Tokenizer) (source : Text) : (ofText scanner source).Faithful :=
  ⟨rfl, rfl⟩

theorem Faithful.forgetEdits {document : Document} (faithful : document.Faithful) :
    document.forgetEdits.Faithful :=
  ⟨faithful.current, rfl⟩

/-- The document is another one with more edits on top, which make the text. -/
structure Extends (document : Document) (changes : List Change) (text : Text)
    (after : Document) : Prop where
  source : after.source = text
  scanner : after.scanner = document.scanner
  baseSource : after.baseSource = document.baseSource
  changes : after.changes = document.changes ++ changes
  faithful : after.Faithful

variable {document : Document} {changes : List Change}

theorem Faithful.edit_all (faithful : document.Faithful) (changes : List Change) :
    Text.edit document.baseSource (document.changes ++ changes) =
      Text.edit document.source changes := by
  rw [Text.edit_append, faithful.edits]
  rfl

/-- An update does to a document what its changes do to the text. -/
theorem update_agrees (faithful : document.Faithful) (changes : List Change) :
    Agrees id (fun after text => document.Extends changes text after)
      (document.update changes) (Text.edit document.source changes) := by
  by_cases nothing : changes = []
  · subst nothing
    exact .ok ⟨rfl, rfl, rfl, by simp, faithful⟩
  · have all := Edited.source_applyAll document.baseSource (document.changes ++ changes)
    rw [faithful.edit_all] at all
    rw [← all]
    cases applied : Edited.applyAll document.baseSource (document.changes ++ changes) with
    | error found =>
        have failed : document.update changes = .error found := by
          simp [update, nothing, applied, bind, Except.bind]
        rw [failed]
        exact .error found
    | ok edited =>
        let current := ScannedText.ofText document.scanner edited.source
        let changed := edited.changed.map fun region => extendOver region current.tokens
        let after : Document :=
          ⟨document.scanner, current, some ⟨document.base, document.changes ++ changes, changed⟩⟩
        have updated : document.update changes = .ok after := by
          simp [update, nothing, applied, bind, Except.bind, pure, Except.pure, after, current,
            changed]
        rw [updated]
        refine .ok ⟨rfl, rfl, rfl, rfl, rfl, ?_⟩
        rw [applied] at all
        exact (faithful.edit_all changes).trans all.symm

end Document

end Reparse
