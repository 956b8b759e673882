import Reparse.Scanner

/-!
# Tokenizers

A document does not depend on how its text is cut into tokens.  It takes any tokenizer: something
that gives parts of a text in order.  A scanner is one.
-/

namespace Reparse

open Text (byteSize isBoundary)

/-- The token is a part of the text and not empty. -/
structure Token.Within (text : Text) (token : Token) : Prop where
  start : isBoundary text token.span.start = true
  stop : isBoundary text token.span.stop = true
  nonempty : token.span.start < token.span.stop

structure Tokenizer where
  scan : Text → Scanner.Scan
  within : ∀ {text : Text} {token : Token}, token ∈ (scan text).tokens → token.Within text
  /-- No token begins before the ones in front of it have ended. -/
  ascends : ∀ text, (scan text).tokens.Pairwise fun token later =>
    token.span.stop ≤ later.span.start

namespace Scanner

/-- The place lies in the text, not before the least offset. -/
structure Place.Within (text : Text) (least : Nat) (place : Place) : Prop where
  inside : ∃ before, text = before ++ place.rest ∧ place.offset = byteSize before
  least_le : least ≤ place.offset

variable {scanner : Scanner} {text : Text} {least : Nat} {place after : Place} {token : Token}

namespace Place.Within

theorem start (text : Text) : Within text 0 (.start text) := ⟨⟨[], rfl, rfl⟩, Nat.le_refl 0⟩

theorem forward (within : place.Within text least) (count : Nat) :
    (place.forward count).Within text least := by
  obtain ⟨before, whole, offset⟩ := within.inside
  constructor
  · refine ⟨before ++ place.rest.take count, ?_, ?_⟩
    · simp [Place.forward, whole]
    · simp [Place.forward, offset]
  · exact Nat.le_trans within.least_le (Nat.le_add_right _ _)

theorem boundary (within : place.Within text least) : isBoundary text place.offset = true := by
  obtain ⟨before, whole, offset⟩ := within.inside
  exact Text.isBoundary_iff.mpr ⟨before, place.rest, whole, offset.symm⟩

theorem dropSkipped (skip : Matcher) (fuel : Nat) (within : place.Within text least) :
    (dropSkipped skip fuel place).Within text least := by
  induction fuel generalizing place with
  | zero => exact within
  | succ fuel induction =>
      unfold Scanner.dropSkipped
      split
      · exact within
      · exact induction (within.forward _)

theorem afterSkipped (scanner : Scanner) (within : place.Within text least) :
    (scanner.afterSkipped place).Within text least := by
  unfold Scanner.afterSkipped
  split
  · exact within
  · exact within.dropSkipped _ _

end Place.Within

theorem rule?_pos {kind : TokenKind} {count : Nat}
    (matched : scanner.rule? text = some (kind, count)) : 0 < count := by
  obtain ⟨⟨other, matcher⟩, -, chosen⟩ := List.exists_of_findSome?_eq_some matched
  obtain ⟨length, found, same⟩ := Option.map_eq_some_iff.mp chosen
  have positive := (Option.filter_eq_some_iff.mp found).2
  cases same
  simpa using positive

theorem within_tokenAt {kind : TokenKind} {count : Nat} (within : place.Within text least)
    (more : place.rest ≠ []) (some_taken : 0 < count)
    (taken : tokenAt place kind count = .token token after) :
    token.Within text ∧ least ≤ token.span.start ∧ after.Within text token.span.stop := by
  cases taken
  have within' := within.forward count
  have nonempty : place.rest.take count ≠ [] := by
    simp [more, Nat.pos_iff_ne_zero.mp some_taken]
  have positive := Nat.pos_of_ne_zero fun none => nonempty (Text.byteSize_eq_zero_iff.mp none)
  have forward : place.offset < (place.forward count).offset := by
    simp only [Place.forward]
    omega
  exact ⟨⟨within.boundary, within'.boundary, forward⟩, within.least_le,
    within'.inside, Nat.le_refl _⟩

/-- A token is read behind the place, and the scanner goes on where it ends. -/
theorem within_read (within : place.Within text least)
    (taken : scanner.read place = .token token after) :
    token.Within text ∧ least ≤ token.span.start ∧ after.Within text token.span.stop := by
  have within := within.afterSkipped scanner
  unfold read at taken
  dsimp only at taken
  split at taken
  · cases taken
  · rename_i char rest here
    have more : (scanner.afterSkipped place).rest ≠ [] := by simp [here]
    split at taken
    · rename_i matched
      exact within_tokenAt within more (rule?_pos matched) taken
    · split at taken
      · exact within_tokenAt within more (by omega) taken
      · cases taken

theorem within_scanFrom {fuel : Nat} (within : place.Within text least)
    (member : token ∈ (scanner.scanFrom fuel place).tokens) :
    token.Within text ∧ least ≤ token.span.start := by
  induction fuel generalizing least place with
  | zero => cases member
  | succ fuel induction =>
      unfold scanFrom at member
      split at member
      · rename_i first after taken
        obtain ⟨inside, begins, within⟩ := within_read within taken
        rcases List.mem_cons.mp member with rfl | later
        · exact ⟨inside, begins⟩
        · obtain ⟨inside', begins'⟩ := induction within later
          have forward := inside.nonempty
          exact ⟨inside', by omega⟩
      · cases member
      · cases member

theorem ascends_scanFrom {fuel : Nat} (within : place.Within text least) :
    (scanner.scanFrom fuel place).tokens.Pairwise fun token later =>
      token.span.stop ≤ later.span.start := by
  induction fuel generalizing least place with
  | zero => exact .nil
  | succ fuel induction =>
      unfold scanFrom
      split
      · rename_i token after taken
        obtain ⟨-, -, within⟩ := within_read within taken
        exact .cons (fun later member => (within_scanFrom within member).2) (induction within)
      · exact .nil
      · exact .nil

def tokenizer (scanner : Scanner) : Tokenizer where
  scan := scanner.scan
  within member := (within_scanFrom (.start _) member).1
  ascends text := ascends_scanFrom (.start text)

end Scanner

instance : Inhabited Tokenizer := ⟨(default : Scanner).tokenizer⟩

end Reparse
