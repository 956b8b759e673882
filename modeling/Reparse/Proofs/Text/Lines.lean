import Mathlib.Data.List.TakeWhile
import Reparse.Text.Lines

/-!
# The lines of a text and their table

Which part of a text lies before a position is said without offsets, and the table of lines agrees
with it.  No position lies between a carriage return and its line feed, so an offset there goes to
the place before both.
-/

namespace Reparse

open Text (byteSize)

inductive LineEnd where
  | textEnd
  | lineFeed
  | carriageReturn
  | both
  deriving DecidableEq, Repr

def LineEnd.text : LineEnd → Text
  | .textEnd => []
  | .lineFeed => ['\n']
  | .carriageReturn => ['\r']
  | .both => ['\r', '\n']

/-- The end of a line that one character makes. -/
def LineEnd.ofChar (char : Char) : LineEnd := if char = '\n' then .lineFeed else .carriageReturn

theorem LineEnd.parts_of_text {ending : LineEnd} {first second : Text}
    (cut : ending.text = first ++ second) (before : first ≠ []) (after : second ≠ []) :
    first = ['\r'] ∧ second = ['\n'] := by
  obtain ⟨char, more, rfl⟩ := List.exists_cons_of_ne_nil before
  obtain ⟨other, rest, rfl⟩ := List.exists_cons_of_ne_nil after
  have size := congrArg List.length cut
  cases ending with
  | textEnd | lineFeed | carriageReturn =>
      simp [text] at size
      try omega
  | both =>
      have short : more = [] := by
        apply List.eq_nil_of_length_eq_zero
        simp [text] at size
        omega
      subst short
      simp only [text, List.cons_append, List.nil_append, List.cons.injEq] at cut
      obtain ⟨rfl, rfl, nothing⟩ := cut
      exact ⟨rfl, by rw [← nothing]⟩

/-- The character ends a line, alone or together with another one. -/
def BreaksLine (char : Char) : Prop := char = '\n' ∨ char = '\r'

instance (char : Char) : Decidable (BreaksLine char) :=
  inferInstanceAs (Decidable (char = '\n' ∨ char = '\r'))

theorem LineEnd.text_ofChar {char : Char} (breaks : BreaksLine char) :
    (ofChar char).text = [char] := by
  rcases breaks with rfl | rfl
  · rfl
  · rfl

theorem LineEnd.ofChar_ne_textEnd (char : Char) : ofChar char ≠ .textEnd := by
  unfold ofChar
  split <;> simp

structure TextLine where
  content : Text
  ending : LineEnd
  unbroken : ∀ char ∈ content, ¬ BreaksLine char

namespace TextLine

def blank (ending : LineEnd) : TextLine := ⟨[], ending, by simp⟩

def push (line : TextLine) (char : Char) (inside : ¬ BreaksLine char) : TextLine where
  content := char :: line.content
  ending := line.ending
  unbroken := by
    intro other member
    rcases List.mem_cons.mp member with here | later
    · exact here ▸ inside
    · exact line.unbroken other later

def text (line : TextLine) : Text := line.content ++ line.ending.text

def isWide (line : TextLine) : Bool := line.content.any fun char => 128 ≤ char.val

@[simp]
theorem text_blank (ending : LineEnd) : (blank ending).text = ending.text := rfl

@[simp]
theorem isWide_blank (ending : LineEnd) : (blank ending).isWide = false := rfl

@[simp]
theorem text_push (line : TextLine) (char : Char) (inside : ¬ BreaksLine char) :
    (line.push char inside).text = char :: line.text := rfl

@[simp]
theorem isWide_push (line : TextLine) (char : Char) (inside : ¬ BreaksLine char) :
    (line.push char inside).isWide = (decide (128 ≤ char.val) || line.isWide) := rfl

end TextLine

namespace Text

/-- The lines of a text; the last one is ended by the text itself. -/
def textLines : Text → List TextLine
  | [] => [.blank .textEnd]
  | '\r' :: '\n' :: rest => .blank .both :: textLines rest
  | char :: rest =>
      if inside : ¬ BreaksLine char then
        (textLines rest).modifyHead fun line => line.push char inside
      else
        .blank (.ofChar char) :: textLines rest

/-- A place between a carriage return and its line feed. -/
def SplitsBreak (before after : Text) : Prop :=
  before.getLast? = some '\r' ∧ after.head? = some '\n'

instance (before after : Text) : Decidable (SplitsBreak before after) :=
  inferInstanceAs (Decidable (_ ∧ _))

/-- What lies before a place of a text, or before the break that the place splits. -/
def beforeBreak (before after : Text) : Text :=
  if SplitsBreak before after then before.dropLast else before

/-- The first lines of a text, as many as told. -/
def upToLine (text : Text) (index : Nat) : Text :=
  ((textLines text).take index).flatMap TextLine.text

/-- The part of a text that lies before a position, if the position's line exists.  Positions past
the content of a line stand at its end. -/
def before? (text : Text) (position : Position) : Option Text :=
  match position.line with
  | 0 => none
  | index + 1 =>
      (textLines text)[index]?.map fun line =>
        upToLine text index ++ line.content.take position.column

theorem textLines_ne_nil (text : Text) : textLines text ≠ [] := by
  fun_induction textLines text with
  | case1 | case2 | case4 => simp
  | case3 char rest _ inside induction => simpa using induction

theorem flatMap_textLines (text : Text) : (textLines text).flatMap TextLine.text = text := by
  fun_induction textLines text with
  | case1 => rfl
  | case2 rest induction => simp [LineEnd.text, induction]
  | case3 char rest _ inside induction =>
      obtain ⟨line, more, lines⟩ := List.exists_cons_of_ne_nil (textLines_ne_nil rest)
      rw [lines] at induction ⊢
      simpa using induction
  | case4 char rest _ broken induction =>
      rw [List.flatMap_cons, TextLine.text_blank, LineEnd.text_ofChar (not_not.mp broken),
        induction]
      rfl

theorem head?_text_of_textLines {text : Text} {line : TextLine} {more : List TextLine}
    (lines : textLines text = line :: more) : line.text.head? = text.head? := by
  fun_cases textLines text with
  | case1 =>
      rw [textLines] at lines
      cases lines
      rfl
  | case2 rest =>
      rw [textLines] at lines
      cases lines
      rfl
  | case3 char rest notBoth inside =>
      rw [textLines, dif_pos inside] at lines
      · obtain ⟨_, _, tail⟩ := List.exists_cons_of_ne_nil (textLines_ne_nil rest)
        rw [tail] at lines
        cases lines
        rfl
      · exact notBoth
  | case4 char rest notBoth broken =>
      rw [textLines, dif_neg broken] at lines
      · cases lines
        rcases not_not.mp broken with rfl | rfl
        · rfl
        · rfl
      · exact notBoth

theorem ending_eq_textEnd_iff {text : Text} {index : Nat} {line : TextLine}
    (found : (textLines text)[index]? = some line) :
    line.ending = .textEnd ↔ index + 1 = (textLines text).length := by
  fun_induction textLines text generalizing index line with
  | case1 =>
      obtain ⟨within, rfl⟩ := List.getElem?_eq_some_iff.mp found
      obtain rfl : index = 0 := by simpa using within
      simp [TextLine.blank]
  | case2 rest induction =>
      cases index with
      | zero =>
          obtain rfl : TextLine.blank .both = line := by simpa using found
          simp [TextLine.blank, textLines_ne_nil]
      | succ index => simpa using induction found
  | case3 char rest _ inside induction =>
      obtain ⟨first, more, lines⟩ := List.exists_cons_of_ne_nil (textLines_ne_nil rest)
      rw [lines] at induction found ⊢
      cases index with
      | zero =>
          obtain rfl : first.push char inside = line := by simpa using found
          have here : (first :: more)[0]? = some first := rfl
          simpa [TextLine.push] using induction here
      | succ index =>
          have here : (first :: more)[index + 1]? = some line := by simpa using found
          simpa using induction here
  | case4 char rest _ broken induction =>
      cases index with
      | zero =>
          obtain rfl : TextLine.blank (.ofChar char) = line := by simpa using found
          simp [TextLine.blank, LineEnd.ofChar_ne_textEnd, textLines_ne_nil]
      | succ index => simpa using induction found

theorem head?_ne_feed_of_carriageReturn {text : Text} {index : Nat} {line next : TextLine}
    (found : (textLines text)[index]? = some line) (ending : line.ending = .carriageReturn)
    (follows : (textLines text)[index + 1]? = some next) : next.text.head? ≠ some '\n' := by
  fun_induction textLines text generalizing index line with
  | case1 => simp at follows
  | case2 rest induction =>
      cases index with
      | zero =>
          obtain rfl : TextLine.blank .both = line := by simpa using found
          cases ending
      | succ index => exact induction found ending follows
  | case3 char rest notBoth inside induction =>
      obtain ⟨first, more, lines⟩ := List.exists_cons_of_ne_nil (textLines_ne_nil rest)
      rw [lines] at induction found follows
      cases index with
      | zero =>
          obtain rfl : first.push char inside = line := by simpa using found
          have here : (first :: more)[0]? = some first := rfl
          exact induction here ending (by simpa using follows)
      | succ index =>
          have here : (first :: more)[index + 1]? = some line := by simpa using found
          exact induction here ending (by simpa using follows)
  | case4 char rest notBoth broken induction =>
      cases index with
      | zero =>
          obtain ⟨first, more, lines⟩ := List.exists_cons_of_ne_nil (textLines_ne_nil rest)
          obtain rfl : first = next := by simpa [lines] using follows
          obtain rfl : TextLine.blank (.ofChar char) = line := by simpa using found
          have carriage : char = '\r' := by
            rcases not_not.mp broken with rfl | carriage
            · cases ending
            · exact carriage
          rw [head?_text_of_textLines lines]
          intro feed
          obtain ⟨shorter, rest_eq⟩ := List.head?_eq_some_iff.mp feed
          exact notBoth shorter carriage rest_eq
      | succ index => exact induction found ending follows

/-- A text is cut at the start and the end of each of its lines. -/
theorem upToLine_split {text : Text} {index : Nat} {line : TextLine}
    (found : (textLines text)[index]? = some line) :
    ∃ after, text = upToLine text index ++ line.text ++ after ∧
      upToLine text (index + 1) = upToLine text index ++ line.text := by
  have cut := flatMap_textLines text
  rw [← List.take_append_drop (index + 1) (textLines text), List.flatMap_append] at cut
  have next : upToLine text (index + 1) = upToLine text index ++ line.text := by
    simp [upToLine, List.take_add_one, found]
  exact ⟨_, by rw [← next]; exact cut.symm, next⟩

theorem upToLine_length (text : Text) : upToLine text (textLines text).length = text := by
  rw [upToLine, List.take_length, flatMap_textLines]

theorem before?_prefix {text before : Text} {position : Position}
    (found : before? text position = some before) : ∃ after, text = before ++ after := by
  unfold before? at found
  split at found
  · simp at found
  · rename_i index _
    obtain ⟨line, lineFound, rfl⟩ := Option.map_eq_some_iff.mp found
    obtain ⟨after, whole, -⟩ := upToLine_split lineFound
    refine ⟨line.content.drop position.column ++ line.ending.text ++ after, ?_⟩
    have content := List.take_append_drop position.column line.content
    calc
      text = upToLine text index ++ (line.content ++ line.ending.text) ++ after := whole
      _ = upToLine text index ++ (line.content.take position.column ++
            line.content.drop position.column ++ line.ending.text) ++ after := by rw [content]
      _ = _ := by simp only [List.append_assoc]

end Text

/-! ## The table -/

namespace Lines

open Text

/-- The table of lines that follow one another from an offset on. -/
def tableFrom (start : Nat) : List TextLine → List Line
  | [] => []
  | line :: rest => ⟨start, line.isWide⟩ :: tableFrom (start + byteSize line.text) rest

/-- The scan of a text makes the table of its lines.  The first one goes on from what was read
before, so it has its own start, and may be wide already. -/
theorem linesFrom_eq (offset start : Nat) (wide : Bool) (text : Text) :
    ∃ line rest, textLines text = line :: rest ∧
      linesFrom offset start wide text =
        ⟨start, wide || line.isWide⟩ :: tableFrom (offset + byteSize line.text) rest := by
  fun_induction linesFrom offset start wide text with
  | case1 offset start wide => exact ⟨.blank .textEnd, [], rfl, by simp [tableFrom]⟩
  | case2 offset start wide rest induction =>
      obtain ⟨line, more, lines, table⟩ := induction
      refine ⟨.blank .both, line :: more, by simp [textLines, lines], ?_⟩
      have size : byteSize LineEnd.both.text = 2 := rfl
      simp [tableFrom, table, size]
  | case3 offset start wide char rest notBoth broken induction =>
      obtain ⟨line, more, lines, table⟩ := induction
      have breaks : BreaksLine char := broken
      refine ⟨.blank (.ofChar char), line :: more, ?_, ?_⟩
      · rw [textLines, dif_neg (not_not.mpr breaks), lines]
        exact notBoth
      · have size : byteSize (LineEnd.ofChar char).text = 1 := by
          unfold LineEnd.ofChar
          split <;> rfl
        simp [tableFrom, table, size]
  | case4 offset start wide char rest notBoth unbroken induction =>
      obtain ⟨line, more, lines, table⟩ := induction
      have inside : ¬ BreaksLine char := unbroken
      refine ⟨line.push char inside, more, ?_, ?_⟩
      · rw [textLines, dif_pos inside, lines]
        · rfl
        · exact notBoth
      · simp [table, byteSize, Bool.or_assoc, Nat.add_assoc]

theorem toList_ofText (text : Text) : (ofText text).toList = tableFrom 0 (textLines text) := by
  obtain ⟨line, rest, lines, table⟩ := linesFrom_eq 0 0 false text
  rw [ofText, table, lines]
  simp [tableFrom]

theorem getElem?_tableFrom (start : Nat) (lines : List TextLine) (index : Nat) :
    (tableFrom start lines)[index]? =
      lines[index]?.map fun line =>
        ⟨start + byteSize ((lines.take index).flatMap TextLine.text), line.isWide⟩ := by
  induction lines generalizing start index with
  | nil => simp [tableFrom]
  | cons line rest induction =>
      cases index with
      | zero => simp [tableFrom, byteSize]
      | succ index => simp [tableFrom, induction, Nat.add_assoc]

theorem length_tableFrom (start : Nat) (lines : List TextLine) :
    (tableFrom start lines).length = lines.length := by
  induction lines generalizing start with
  | nil => rfl
  | cons line rest induction => simp [tableFrom, induction]

theorem count_ofText (text : Text) : (ofText text).count = (textLines text).length := by
  rw [count, toList_ofText, length_tableFrom]

theorem get?_ofText (text : Text) (index : Nat) :
    (ofText text).get? index =
      (textLines text)[index]?.map fun line =>
        ⟨byteSize (upToLine text index), line.isWide⟩ := by
  rw [get?, toList_ofText, getElem?_tableFrom]
  simp [upToLine]

theorem start?_ofText (text : Text) (index : Nat) :
    (ofText text).start? index =
      (textLines text)[index]?.map fun _ => byteSize (upToLine text index) := by
  simp [start?, get?_ofText, Function.comp_def]

theorem stop_ofText {text : Text} {index : Nat} {line : TextLine}
    (found : (textLines text)[index]? = some line) :
    (ofText text).stop text index = byteSize (upToLine text (index + 1)) := by
  rw [stop, start?_ofText]
  cases following : (textLines text)[index + 1]? with
  | some next => simp
  | none =>
      have last : (textLines text).length = index + 1 := by
        have here := (List.getElem?_eq_some_iff.mp found).1
        have beyond := List.getElem?_eq_none_iff.mp following
        omega
      rw [← last, upToLine_length]
      rfl

theorem textOf?_ofText {text : Text} {index : Nat} {line : TextLine}
    (found : (textLines text)[index]? = some line) :
    (ofText text).textOf? text index = some line.text := by
  obtain ⟨after, whole, next⟩ := upToLine_split found
  have sliced : slice? text (byteSize (upToLine text index))
      (byteSize (upToLine text (index + 1))) = some line.text :=
    slice?_eq_some_iff.mpr ⟨_, after, whole, rfl, by rw [next, byteSize_append]⟩
  rw [textOf?, start?_ofText, found, stop_ofText found]
  exact sliced

theorem dropLast?_append (text : Text) (char : Char) : dropLast? char (text ++ [char]) = text := by
  simp [dropLast?]

theorem dropLast?_of_not_mem {char : Char} {text : Text} (absent : ¬ char ∈ text) :
    dropLast? char text = text := by
  have other : text.getLast? ≠ some char := fun last => absent (List.mem_of_getLast? last)
  simp [dropLast?, other]

theorem dropLast?_text (line : TextLine) :
    dropLast? '\r' (dropLast? '\n' line.text) = line.content := by
  have noFeed : ¬ '\n' ∈ line.content := fun member => line.unbroken _ member (.inl rfl)
  have noReturn : ¬ '\r' ∈ line.content := fun member => line.unbroken _ member (.inr rfl)
  rw [TextLine.text]
  cases line.ending with
  | textEnd =>
      rw [LineEnd.text, List.append_nil, dropLast?_of_not_mem noFeed, dropLast?_of_not_mem noReturn]
  | lineFeed => rw [LineEnd.text, dropLast?_append, dropLast?_of_not_mem noReturn]
  | carriageReturn =>
      have noFeed : ¬ '\n' ∈ line.content ++ ['\r'] := by simp [noFeed]
      rw [LineEnd.text, dropLast?_of_not_mem noFeed, dropLast?_append]
  | both =>
      have both : line.content ++ ['\r', '\n'] = line.content ++ ['\r'] ++ ['\n'] := by simp
      rw [LineEnd.text, both, dropLast?_append, dropLast?_append]

theorem contentOf?_ofText {text : Text} {index : Nat} {line : TextLine}
    (found : (textLines text)[index]? = some line) :
    (ofText text).contentOf? text index = some line.content := by
  rw [contentOf?, textOf?_ofText found, Option.map_some, dropLast?_text]

theorem byteSize_of_ascii {text : Text} (ascii : ∀ char ∈ text, char.val < 128) :
    byteSize text = text.length := by
  induction text with
  | nil => rfl
  | cons char rest induction =>
      have small : char.utf8Size = 1 := by
        have value := ascii char List.mem_cons_self
        have bound : char.val ≤ 127 := by
          rw [UInt32.lt_iff_toNat_lt] at value
          rw [UInt32.le_iff_toNat_le]
          have here : (128 : UInt32).toNat = 128 := rfl
          have there : (127 : UInt32).toNat = 127 := rfl
          omega
        simp [Char.utf8Size, bound]
      have tail := induction fun other member => ascii other (List.mem_cons_of_mem _ member)
      simp [byteSize, small, tail, Nat.add_comm]

theorem ascii_of_not_wide {line : TextLine} (narrow : line.isWide = false) :
    ∀ char ∈ line.text, char.val < 128 := by
  intro char member
  rcases List.mem_append.mp member with inside | ending
  · have small := List.any_eq_false.mp narrow char inside
    simpa using small
  · revert ending
    cases line.ending <;> simp only [LineEnd.text, List.mem_cons, List.not_mem_nil, or_false]
    · exact False.elim
    · rintro rfl
      decide
    · rintro rfl
      decide
    · rintro (rfl | rfl) <;> decide

theorem offsetAt?_eq (text : Text) (position : Position) :
    (ofText text).offsetAt? text position = (before? text position).map byteSize := by
  unfold offsetAt? before?
  cases position.line with
  | zero => rfl
  | succ index =>
      cases found : (textLines text)[index]? with
      | none => simp [get?_ofText, found]
      | some line =>
          simp only [Nat.add_sub_cancel, if_neg (Nat.succ_ne_zero index), get?_ofText, found,
            contentOf?_ofText found, Option.map_some, Option.bind_eq_bind, Option.bind_some,
            byteSize_append]
          split
          · rfl
          · rename_i narrow
            have ascii := ascii_of_not_wide (Bool.not_eq_true _ ▸ narrow)
            have content : ∀ char ∈ line.content, char.val < 128 :=
              fun char member => ascii char (List.mem_append_left _ member)
            have taken : ∀ char ∈ line.content.take position.column, char.val < 128 :=
              fun char member => content char (List.mem_of_mem_take member)
            rw [byteSize_of_ascii content, byteSize_of_ascii taken, List.length_take]
            exact congrArg some (by omega)

/-! ## From offsets to positions -/

/-- Every place of a text lies in a line, or at the start of one and not at the end of the one
before. -/
theorem exists_line_of_append {lines : List TextLine} {before after : Text} (some_line : lines ≠ [])
    (whole : lines.flatMap TextLine.text = before ++ after) :
    ∃ index line first second,
      lines[index]? = some line ∧ line.text = first ++ second ∧
        before = (lines.take index).flatMap TextLine.text ++ first ∧
        after = second ++ (lines.drop (index + 1)).flatMap TextLine.text ∧
        (second ≠ [] ∨ index + 1 = lines.length) := by
  induction lines generalizing before with
  | nil => exact (some_line rfl).elim
  | cons line rest induction =>
      by_cases last : rest = []
      · subst last
        exact ⟨0, line, before, after, rfl, by simpa using whole, by simp, by simp, .inr rfl⟩
      · have later : ∀ shorter, before = line.text ++ shorter →
            rest.flatMap TextLine.text = shorter ++ after →
            ∃ index found first second,
              (line :: rest)[index]? = some found ∧ found.text = first ++ second ∧
                before = ((line :: rest).take index).flatMap TextLine.text ++ first ∧
                after = second ++ ((line :: rest).drop (index + 1)).flatMap TextLine.text ∧
                (second ≠ [] ∨ index + 1 = (line :: rest).length) := by
          intro shorter longer tail
          obtain ⟨index, found, first, second, at_index, cut, start, stop, inside⟩ :=
            induction last tail
          refine ⟨index + 1, found, first, second, at_index, cut, ?_, stop, ?_⟩
          · rw [longer, start]
            simp
          · exact inside.imp_right fun length => by simp [length]
        rw [List.flatMap_cons] at whole
        rcases List.append_eq_append_iff.mp whole with
          ⟨shorter, longer, tail⟩ | ⟨second, cut, stop⟩
        · exact later shorter longer tail
        · by_cases nothing : second = []
          · subst nothing
            rw [List.append_nil] at cut
            exact later [] (by simp [cut]) (by simpa using stop.symm)
          · exact ⟨0, line, before, second, rfl, cut, by simp, by simpa using stop, .inl nothing⟩

/-- The lines that start up to a place within a line are that line and those before it. -/
theorem length_takeWhile_tableFrom (start : Nat) {index : Nat} {lines : List TextLine}
    {line : TextLine} {first second : Text} (found : lines[index]? = some line)
    (cut : line.text = first ++ second) (inside : second ≠ [] ∨ index + 1 = lines.length) :
    ((tableFrom start lines).takeWhile fun entry => decide (entry.start ≤
      start + byteSize ((lines.take index).flatMap TextLine.text ++ first))).length =
        index + 1 := by
  induction lines generalizing start index with
  | nil => simp at found
  | cons head rest induction =>
      cases index with
      | zero =>
          obtain rfl : head = line := by simpa using found
          cases rest with
          | nil => simp [tableFrom]
          | cons next more =>
              have remains : second ≠ [] := by simpa using inside
              have positive : 0 < byteSize second :=
                Nat.pos_of_ne_zero fun none => remains (byteSize_eq_zero_iff.mp none)
              have after : ¬ start + byteSize head.text ≤ start + byteSize first := by
                rw [cut, byteSize_append]
                omega
              simp [tableFrom, after]
      | succ index =>
          have tail := induction (start + byteSize head.text) found
            (inside.imp_right fun length => by simpa using length)
          simp only [List.take_succ_cons, List.flatMap_cons, List.append_assoc,
            byteSize_append] at tail ⊢
          simp only [tableFrom, List.takeWhile_cons, Nat.le_add_right, decide_true, if_true,
            List.length_cons]
          simp only [Nat.add_assoc] at tail ⊢
          rw [tail]

theorem positionAt?_eq {text first second : Text} {index : Nat} {line : TextLine}
    (found : (textLines text)[index]? = some line) (cut : line.text = first ++ second)
    (inside : second ≠ [] ∨ index + 1 = (textLines text).length) :
    (ofText text).positionAt? text (byteSize (upToLine text index ++ first)) =
      some ⟨index + 1, first.length⟩ := by
  obtain ⟨after, whole, -⟩ := upToLine_split found
  have place : text = upToLine text index ++ (first ++ (second ++ after)) := by
    apply whole.trans
    simp only [cut, List.append_assoc]
  have boundary : isBoundary text (byteSize (upToLine text index ++ first)) = true :=
    isBoundary_iff.mpr ⟨_, _, place.trans (List.append_assoc ..).symm, rfl⟩
  have within : byteSize (upToLine text index ++ first) ≤ byteSize text := by
    have sizes := congrArg byteSize place
    simp only [byteSize_append] at sizes ⊢
    omega
  have here : (ofText text).lineAt (byteSize (upToLine text index ++ first)) =
      (index, ⟨byteSize (upToLine text index), line.isWide⟩) := by
    have counted := length_takeWhile_tableFrom 0 found cut inside
    rw [Nat.zero_add] at counted
    have number : (ofText text).indexAt (byteSize (upToLine text index ++ first)) = index := by
      rw [indexAt, toList_ofText]
      exact (congrArg (· - 1) counted).trans (Nat.add_sub_cancel ..)
    simp only [lineAt, number, get?_ofText, found, Option.map_some, Option.getD_some]
  have offset : byteSize (upToLine text index ++ first) - byteSize (upToLine text index) =
      byteSize first := by
    rw [byteSize_append, Nat.add_sub_cancel_left]
  unfold positionAt?
  simp only [Nat.min_eq_left within, here, boundary, if_true, offset]
  split
  · have dropped : dropBytes text (byteSize (upToLine text index)) = first ++ (second ++ after) :=
      (congrArg (dropBytes · _) place).trans (dropBytes_append ..)
    rw [dropped, takeBytes_append]
  · rename_i narrow
    have ascii := ascii_of_not_wide (Bool.not_eq_true _ ▸ narrow)
    rw [byteSize_of_ascii fun char member => ascii char (cut ▸ List.mem_append_left _ member)]

/-- What a place within a line has before it in that line ends within the content, unless the place
splits the break. -/
theorem take_content_eq {text first second : Text} {index : Nat} {line : TextLine}
    (found : (textLines text)[index]? = some line) (cut : line.text = first ++ second)
    (inside : second ≠ [] ∨ index + 1 = (textLines text).length) :
    line.content.take first.length = first ∧ (first = [] ∨ first.getLast? ≠ some '\r') ∨
      first = line.content ++ ['\r'] ∧ second = ['\n'] := by
  have within : ∀ more, line.content = first ++ more →
      line.content.take first.length = first ∧ (first = [] ∨ first.getLast? ≠ some '\r') := by
    intro more content
    refine ⟨by rw [content, List.take_left], .inr fun last => ?_⟩
    have member := content ▸ List.mem_append_left more (List.mem_of_getLast? last)
    exact line.unbroken _ member (.inr rfl)
  rw [TextLine.text] at cut
  rcases List.append_eq_append_iff.mp cut with ⟨more, longer, ending⟩ | ⟨more, content, -⟩
  · by_cases nothing : more = []
    · exact .inl (within [] (by simp [longer, nothing]))
    · have remains : second ≠ [] := by
        rcases inside with remains | last
        · exact remains
        · rw [(ending_eq_textEnd_iff found).mpr last] at ending
          exact (nothing (List.append_eq_nil_iff.mp ending.symm).1).elim
      obtain ⟨carriage, feed⟩ := LineEnd.parts_of_text ending nothing remains
      exact .inr ⟨carriage ▸ longer, feed⟩
  · exact .inl (within more content)

/-- If the lines before a line end in a carriage return then that is a break of its own. -/
theorem ending_of_getLast?_upToLine {text : Text} {index : Nat} {line : TextLine}
    (found : (textLines text)[index]? = some line) (more : index + 1 < (textLines text).length)
    (carriage : (upToLine text (index + 1)).getLast? = some '\r') :
    line.ending = .carriageReturn := by
  obtain ⟨-, -, next⟩ := upToLine_split found
  rw [next, TextLine.text, ← List.append_assoc] at carriage
  cases ending : line.ending with
  | textEnd =>
      have last := (ending_eq_textEnd_iff found).mp ending
      omega
  | carriageReturn => rfl
  | lineFeed | both => simp [ending, LineEnd.text] at carriage

theorem not_splitsBreak_upToLine {text after : Text} {index : Nat} {line : TextLine}
    (found : (textLines text)[index]? = some line)
    (stop : after = line.text ++ ((textLines text).drop (index + 1)).flatMap TextLine.text) :
    ¬ SplitsBreak (upToLine text index) after := by
  rintro ⟨carriage, feed⟩
  have here := (List.getElem?_eq_some_iff.mp found).1
  by_cases nothing : line.text = []
  · have last := (ending_eq_textEnd_iff found).mp (by
      cases ending : line.ending <;> simp_all [TextLine.text, LineEnd.text])
    simp [stop, nothing, last] at feed
  · cases index with
    | zero => simp [upToLine] at carriage
    | succ index =>
        obtain ⟨earlier, before⟩ : ∃ earlier, (textLines text)[index]? = some earlier :=
          ⟨_, List.getElem?_eq_getElem (Nat.lt_of_succ_lt here)⟩
        have ending := ending_of_getLast?_upToLine before here carriage
        apply head?_ne_feed_of_carriageReturn before ending found
        simpa [stop, List.head?_append, nothing] using feed

/-- The way from an offset to its position and back ends at the same offset, or before the break
that the offset splits. -/
theorem before?_positionAt? (before after : Text) :
    ∃ position, (ofText (before ++ after)).positionAt? (before ++ after) (byteSize before) =
        some position ∧
      before? (before ++ after) position = some (beforeBreak before after) := by
  obtain ⟨index, line, first, second, found, cut, start, stop, inside⟩ :=
    exists_line_of_append (textLines_ne_nil _) (flatMap_textLines (before ++ after))
  change before = upToLine (before ++ after) index ++ first at start
  have position := positionAt?_eq found cut inside
  rw [← start] at position
  refine ⟨_, position, ?_⟩
  simp only [before?, found, Option.map_some, Option.some.injEq]
  rcases take_content_eq found cut inside with ⟨whole, ends⟩ | ⟨carriage, feed⟩
  · have clear : ¬ SplitsBreak before after := by
      by_cases nothing : first = []
      · rw [start, nothing, List.append_nil]
        rw [nothing, List.nil_append] at cut
        exact not_splitsBreak_upToLine found (cut ▸ stop)
      · rintro ⟨carriage, -⟩
        rw [start, List.getLast?_append, List.getLast?_eq_some_getLast nothing] at carriage
        rw [List.getLast?_eq_some_getLast nothing] at ends
        exact ends.resolve_left nothing carriage
    rw [beforeBreak, if_neg clear, whole, ← start]
  · have content : line.content.take first.length = line.content := by
      apply List.take_of_length_le
      rw [carriage, List.length_append]
      exact Nat.le_add_right ..
    have splits : SplitsBreak before after := by
      constructor
      · rw [start, carriage]
        simp
      · rw [stop, feed]
        rfl
    rw [beforeBreak, if_pos splits, content]
    calc
      upToLine (before ++ after) index ++ line.content
          = (upToLine (before ++ after) index ++ line.content ++ ['\r']).dropLast :=
        List.dropLast_concat.symm
      _ = before.dropLast := by rw [List.append_assoc, ← carriage, ← start]

end Lines

end Reparse
