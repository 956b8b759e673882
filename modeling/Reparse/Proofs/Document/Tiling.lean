import Mathlib.Data.List.TakeWhile
import Reparse.Tokenizer

/-!
# Tokens tile their text

A text falls into tokens and skipped parts between them.  A matcher may match nothing, so both loops
of the scanner go on with nonempty matches only.

Main statement: `scan_tokenizes`.
-/

namespace Reparse

open Text (byteSize isBoundary)

namespace Matcher

variable {matcher : Matcher} {text lexeme rest : Text}

/-- The matcher takes the first part of a text, and this part is not empty. -/
def Takes (matcher : Matcher) (lexeme rest : Text) : Prop :=
  matcher.matchEnd? (lexeme ++ rest) = some lexeme.length ∧ lexeme ≠ []

/-- The matcher takes nothing from the text. -/
def Idle (matcher : Matcher) (text : Text) : Prop :=
  ∀ count, matcher.matchEnd? text = some count → count = 0

theorem idle_nil (matcher : Matcher) : matcher.Idle [] := fun _ found =>
  Nat.eq_zero_of_le_zero (matcher.withinText found)

theorem length?_eq_none_iff : matcher.length? text = none ↔ matcher.Idle text := by
  simp only [length?, Option.filter_eq_none_iff, decide_eq_true_eq, Nat.not_lt,
    Nat.le_zero_eq, Idle]

theorem exists_takes {count : Nat} (found : matcher.length? text = some count) :
    ∃ lexeme rest, text = lexeme ++ rest ∧ lexeme.length = count ∧ matcher.Takes lexeme rest := by
  obtain ⟨matched, positive⟩ := Option.filter_eq_some_iff.mp found
  have taken := List.length_take_of_le (matcher.withinText matched)
  have whole := List.take_append_drop count text
  refine ⟨_, _, whole.symm, taken, by rw [whole, taken, matched], fun nothing => ?_⟩
  rw [nothing] at taken
  simp [← taken] at positive

end Matcher

namespace Scanner

variable {scanner : Scanner} {place : Place}

/-- The text before the rest is skipped, match after match, and no more than that. -/
inductive Skips (scanner : Scanner) : Text → Text → Prop where
  | stop {rest : Text} : (∀ skip ∈ scanner.skip, skip.Idle rest) → Skips scanner [] rest
  | more {skip : Matcher} {part gap rest : Text} :
      scanner.skip = some skip → skip.Takes part (gap ++ rest) → Skips scanner gap rest →
        Skips scanner (part ++ gap) rest

def NoRule (scanner : Scanner) (text : Text) : Prop :=
  ∀ rule ∈ scanner.rules, rule.2.Idle text

/-- A token of the kind has the text before the rest: the first rule that takes anything takes it,
or none does and it is a character with those up to the next blank. -/
inductive Lexes (scanner : Scanner) (kind : TokenKind) : Text → Text → Prop where
  | rule {earlier later : List (TokenKind × Matcher)} {matcher : Matcher} {lexeme rest : Text} :
      scanner.rules = earlier ++ (kind, matcher) :: later →
        (∀ rule ∈ earlier, rule.2.Idle (lexeme ++ rest)) → matcher.Takes lexeme rest →
          Lexes scanner kind lexeme rest
  | fallback {char : Char} {more rest : Text} :
      scanner.fallback = some kind → scanner.NoRule (char :: more ++ rest) →
        (∀ other ∈ more, Unicode.isBlank other = false) →
          (∀ other ∈ rest.head?, Unicode.isBlank other = true) →
            Lexes scanner kind (char :: more) rest

/-- The text from an offset on is made of skipped parts and tokens in turn, up to its end or to an
obstacle. -/
inductive Tiles (scanner : Scanner) : Nat → Text → List Token → Option Obstacle → Prop where
  | finished {offset : Nat} {gap : Text} : Skips scanner gap [] → Tiles scanner offset gap [] none
  | stuck {offset : Nat} {gap rest : Text} {char : Char} :
      Skips scanner gap (char :: rest) → scanner.fallback = none →
        scanner.NoRule (char :: rest) →
          Tiles scanner offset (gap ++ char :: rest) [] (some ⟨char, offset + byteSize gap⟩)
  | token {offset : Nat} {gap lexeme rest : Text} {kind : TokenKind} {tokens : List Token}
      {obstacle : Option Obstacle} :
      Skips scanner gap (lexeme ++ rest) → Lexes scanner kind lexeme rest →
        Tiles scanner (offset + byteSize (gap ++ lexeme)) rest tokens obstacle →
          Tiles scanner offset (gap ++ lexeme ++ rest)
            (⟨kind, ⟨offset + byteSize gap, offset + byteSize (gap ++ lexeme)⟩⟩ :: tokens) obstacle

/-! ## One token -/

theorem skips_dropSkipped {skip : Matcher} (given : scanner.skip = some skip) {fuel : Nat}
    (enough : place.rest.length ≤ fuel) :
    ∃ gap rest, place.rest = gap ++ rest ∧
      dropSkipped skip fuel place = ⟨place.offset + byteSize gap, rest⟩ ∧
        scanner.Skips gap rest := by
  induction fuel generalizing place with
  | zero =>
      have nothing : place.rest = [] := List.eq_nil_of_length_eq_zero (by omega)
      refine ⟨[], place.rest, rfl, rfl, .stop fun other _ => ?_⟩
      rw [nothing]
      exact other.idle_nil
  | succ fuel induction =>
      unfold dropSkipped
      split
      · rename_i idle
        refine ⟨[], place.rest, rfl, rfl, .stop fun other same => ?_⟩
        cases given.symm.trans same
        exact Matcher.length?_eq_none_iff.mp idle
      · rename_i count found
        obtain ⟨part, rest, cut, rfl, takes⟩ := Matcher.exists_takes found
        have next : place.forward part.length = ⟨place.offset + byteSize part, rest⟩ := by
          rw [Place.forward, cut, List.take_left, List.drop_left]
        have shorter : rest.length ≤ fuel := by
          have positive := List.length_pos_iff.mpr takes.2
          rw [cut, List.length_append] at enough
          omega
        obtain ⟨gap, rest, rfl, dropped, skips⟩ :=
          @induction ⟨place.offset + byteSize part, rest⟩ shorter
        refine ⟨part ++ gap, rest, ?_, ?_, .more given takes skips⟩
        · rw [cut, List.append_assoc]
        · rw [next, dropped, Text.byteSize_append, Nat.add_assoc]

theorem skips_afterSkipped (scanner : Scanner) (place : Place) :
    ∃ gap rest, place.rest = gap ++ rest ∧
      scanner.afterSkipped place = ⟨place.offset + byteSize gap, rest⟩ ∧
        scanner.Skips gap rest := by
  unfold afterSkipped
  cases given : scanner.skip with
  | none => exact ⟨[], place.rest, rfl, rfl, .stop (by simp [given])⟩
  | some skip => exact skips_dropSkipped given (Nat.le_refl _)

theorem noRule_of_rule? {text : Text} (unmatched : scanner.rule? text = none) :
    scanner.NoRule text := by
  intro rule member
  have idle := List.findSome?_eq_none_iff.mp unmatched rule member
  exact Matcher.length?_eq_none_iff.mp (by simpa using idle)

theorem exists_lexes_of_rule? {text : Text} {kind : TokenKind} {count : Nat}
    (matched : scanner.rule? text = some (kind, count)) :
    ∃ lexeme rest, text = lexeme ++ rest ∧ lexeme.length = count ∧
      scanner.Lexes kind lexeme rest := by
  obtain ⟨earlier, ⟨first, matcher⟩, later, rules, chosen, idle⟩ :=
    List.findSome?_eq_some_iff.mp matched
  obtain ⟨length, found, same⟩ := Option.map_eq_some_iff.mp chosen
  cases same
  obtain ⟨lexeme, rest, rfl, size, takes⟩ := Matcher.exists_takes found
  refine ⟨lexeme, rest, rfl, size, .rule rules (fun rule member => ?_) takes⟩
  exact Matcher.length?_eq_none_iff.mp (by simpa using idle rule member)

theorem exists_lexes_of_fallback {kind : TokenKind} {char : Char} {rest : Text}
    (given : scanner.fallback = some kind) (unmatched : scanner.NoRule (char :: rest)) :
    ∃ more rest', rest = more ++ rest' ∧
      more = rest.takeWhile (fun other => !Unicode.isBlank other) ∧
        scanner.Lexes kind (char :: more) rest' := by
  let inside := fun other => !Unicode.isBlank other
  have whole : rest = rest.takeWhile inside ++ rest.dropWhile inside :=
    List.takeWhile_append_dropWhile.symm
  refine ⟨_, _, whole, rfl, .fallback given ?_ (fun other member => ?_) fun other first => ?_⟩
  · rwa [List.cons_append, ← whole]
  · simpa [inside] using List.mem_takeWhile_imp member
  · have blank := List.head?_dropWhile_not inside rest
    rw [Option.mem_def.mp first] at blank
    simpa [inside] using blank

/-- What reading at a place comes to, told by how the text goes on there. -/
inductive Reads (scanner : Scanner) (place : Place) : Reading → Prop where
  | finished {gap : Text} : place.rest = gap → scanner.Skips gap [] →
      Reads scanner place (.finished ⟨place.offset + byteSize gap, []⟩)
  | stuck {gap rest : Text} {char : Char} :
      place.rest = gap ++ char :: rest → scanner.Skips gap (char :: rest) →
        scanner.fallback = none → scanner.NoRule (char :: rest) →
          Reads scanner place (.stuck char ⟨place.offset + byteSize gap, char :: rest⟩)
  | token {gap lexeme rest : Text} {kind : TokenKind} :
      place.rest = gap ++ lexeme ++ rest → scanner.Skips gap (lexeme ++ rest) →
        scanner.Lexes kind lexeme rest →
          Reads scanner place
            (.token ⟨kind, ⟨place.offset + byteSize gap, place.offset + byteSize (gap ++ lexeme)⟩⟩
              ⟨place.offset + byteSize (gap ++ lexeme), rest⟩)

theorem reads_tokenAt {gap lexeme rest : Text} {kind : TokenKind}
    (cut : place.rest = gap ++ (lexeme ++ rest)) (skips : scanner.Skips gap (lexeme ++ rest))
    (lexes : scanner.Lexes kind lexeme rest) :
    scanner.Reads place
      (tokenAt ⟨place.offset + byteSize gap, lexeme ++ rest⟩ kind lexeme.length) := by
  have sizes : place.offset + byteSize gap + byteSize lexeme =
      place.offset + byteSize (gap ++ lexeme) := by
    rw [Text.byteSize_append, Nat.add_assoc]
  simp only [tokenAt, Place.forward, List.take_left, List.drop_left, sizes]
  exact .token (cut.trans (List.append_assoc ..).symm) skips lexes

theorem reads_read (scanner : Scanner) (place : Place) :
    scanner.Reads place (scanner.read place) := by
  obtain ⟨gap, rest, cut, skipped, skips⟩ := skips_afterSkipped scanner place
  rw [read, skipped]
  cases rest with
  | nil => exact .finished (cut.trans (List.append_nil gap)) skips
  | cons char rest =>
      dsimp only
      split
      · rename_i kind count matched
        obtain ⟨lexeme, rest', whole, rfl, lexes⟩ := exists_lexes_of_rule? matched
        rw [whole] at cut skips ⊢
        exact reads_tokenAt cut skips lexes
      · rename_i unmatched
        have noRule := noRule_of_rule? unmatched
        split
        · rename_i kind given
          obtain ⟨more, rest', whole, taken, lexes⟩ := exists_lexes_of_fallback given noRule
          rw [← taken, Nat.add_comm 1]
          rw [whole] at cut skips ⊢
          exact reads_tokenAt cut skips lexes
        · rename_i given
          exact .stuck cut skips given noRule

theorem Lexes.nonempty {kind : TokenKind} {lexeme rest : Text}
    (lexes : scanner.Lexes kind lexeme rest) : 0 < lexeme.length := by
  cases lexes with
  | rule _ _ takes => exact List.length_pos_iff.mpr takes.2
  | fallback => exact Nat.succ_pos _

/-! ## The whole text -/

/-- Each token takes a character, so the tokens are at an end before as many were read. -/
theorem tiles_scanFrom {fuel : Nat} (enough : place.rest.length < fuel) :
    scanner.Tiles place.offset place.rest (scanner.scanFrom fuel place).tokens
      (scanner.scanFrom fuel place).obstacle := by
  induction fuel generalizing place with
  | zero => omega
  | succ fuel induction =>
      obtain ⟨offset, text⟩ := place
      have reads := reads_read scanner ⟨offset, text⟩
      unfold scanFrom
      generalize scanner.read ⟨offset, text⟩ = reading at reads
      cases reads with
      | finished whole skips =>
          obtain rfl : text = _ := whole
          exact .finished skips
      | stuck cut skips given noRule =>
          obtain rfl : text = _ := cut
          exact .stuck skips given noRule
      | @token gap lexeme rest kind cut skips lexes =>
          obtain rfl : text = _ := cut
          have some_taken := lexes.nonempty
          refine .token skips lexes (@induction ⟨_, rest⟩ ?_)
          simp only [List.length_append] at enough
          dsimp only
          omega

/-- What one call for the next token gives, and the place after it.  A scanner that is stuck goes on
at the end of the text. -/
def next (scanner : Scanner) (place : Place) : Option Token × Place :=
  match scanner.read place with
  | .token token after => (some token, after)
  | .finished after => (none, after)
  | .stuck _ after => (none, after.atEnd)

def placeAfter (scanner : Scanner) : Nat → Place → Place
  | 0, place => place
  | calls + 1, place => scanner.placeAfter calls (scanner.next place).2

theorem next_of_token {token : Token} {after : Place}
    (taken : scanner.read place = .token token after) :
    scanner.next place = (some token, after) := by
  rw [next, taken]

theorem next_of_finished {after : Place} (taken : scanner.read place = .finished after) :
    scanner.next place = (none, after) := by
  rw [next, taken]

theorem next_of_stuck {char : Char} {after : Place}
    (taken : scanner.read place = .stuck char after) :
    scanner.next place = (none, ⟨after.offset + byteSize after.rest, []⟩) := by
  rw [next, taken]
  simp only [Place.atEnd, Place.forward, List.take_length, List.drop_length]

theorem next_of_end {offset : Nat} (scanner : Scanner) :
    scanner.next ⟨offset, []⟩ = (none, ⟨offset, []⟩) := by
  have skipped : scanner.afterSkipped ⟨offset, []⟩ = ⟨offset, []⟩ := by
    unfold afterSkipped
    split <;> rfl
  rw [next, read, skipped]

/-- A call that gives nothing leads to the end of the text, and there is nothing any more. -/
theorem next_placeAfter_of_none {offset : Nat} (call : scanner.next place = (none, ⟨offset, []⟩))
    (calls : Nat) : (scanner.next (scanner.placeAfter calls place)).1 = none := by
  induction calls generalizing place with
  | zero => rw [placeAfter, call]
  | succ calls induction =>
      rw [placeAfter, call]
      exact induction (next_of_end scanner)

theorem next_placeAfter {fuel : Nat} (enough : place.rest.length < fuel) (calls : Nat) :
    (scanner.next (scanner.placeAfter calls place)).1 =
      (scanner.scanFrom fuel place).tokens[calls]? := by
  induction fuel generalizing place calls with
  | zero => omega
  | succ fuel induction =>
      have reads := reads_read scanner place
      generalize taken : scanner.read place = reading at reads
      rw [scanFrom, taken]
      cases reads with
      | finished =>
          rw [next_placeAfter_of_none (next_of_finished taken)]
          rfl
      | stuck =>
          rw [next_placeAfter_of_none (next_of_stuck taken)]
          rfl
      | @token gap lexeme rest kind cut _ lexes =>
          have call := next_of_token taken
          cases calls with
          | zero =>
              rw [placeAfter, call]
              rfl
          | succ calls =>
              have some_taken := lexes.nonempty
              have shorter : rest.length < fuel := by
                simp only [cut, List.length_append] at enough
                omega
              rw [placeAfter, call]
              exact @induction ⟨_, rest⟩ shorter calls

/-- How a scan divides a text. -/
structure Tokenizes (scanner : Scanner) (text : Text) (scan : Scan) : Prop where
  /-- Tokens and skipped parts make up the text. -/
  tiles : scanner.Tiles 0 text scan.tokens scan.obstacle
  /-- A token has some of the text, between two boundaries. -/
  spans : ∀ token ∈ scan.tokens, token.span.start < token.span.stop ∧
    isBoundary text token.span.start = true ∧ isBoundary text token.span.stop = true
  /-- No token begins before the ones in front of it have ended. -/
  ascends : scan.tokens.Pairwise fun token later => token.span.stop ≤ later.span.start
  /-- The tokens are what the calls for the next one give, up to the first call that gives none. -/
  calls : ∀ calls, (scanner.next (scanner.placeAfter calls (.start text))).1 = scan.tokens[calls]?

theorem scan_tokenizes (scanner : Scanner) (text : Text) :
    scanner.Tokenizes text (scanner.scan text) where
  tiles := @tiles_scanFrom scanner (.start text) _ (Nat.lt_succ_self _)
  spans token member := by
    have within := scanner.tokenizer.within member
    exact ⟨within.nonempty, within.start, within.stop⟩
  ascends := scanner.tokenizer.ascends text
  calls := next_placeAfter (Nat.lt_succ_self _)

end Scanner

end Reparse
