import Reparse.Proofs.Text.Lines

/-!
# Positions are counted in the text

The line of a place is said without a table: as many breaks end up to the place as there are lines
before its own, and no break ends between the start of that line and the place.

Main statement: `ofText_locates`.
-/

namespace Reparse

open Text (byteSize beforeBreak textLines upToLine)

namespace Text

/-- A line break ends between the two parts of a text. -/
def EndsBreak (before after : Text) : Prop :=
  before.getLast? = some '\n' ∨ before.getLast? = some '\r' ∧ after.head? ≠ some '\n'

instance (before after : Text) : Decidable (EndsBreak before after) :=
  inferInstanceAs (Decidable (_ ∨ _))

def breaksUpTo (before after : Text) : Nat :=
  (List.range (before.length + 1)).countP fun size =>
    EndsBreak ((before ++ after).take size) ((before ++ after).drop size)

/-- A line starts between the two parts of a text. -/
def StartsLine (before after : Text) : Prop := before = [] ∨ EndsBreak before after

/-- The place between `line` and `after` lies in the line that starts between `start` and
`line`. -/
structure InLine (start line after : Text) : Prop where
  starts : StartsLine start (line ++ after)
  unended : ∀ front back, line = front ++ back → front ≠ [] →
    ¬ EndsBreak (start ++ front) (back ++ after)

/-- What lies between the two parts of a text is one of its lines without the break. -/
structure IsLine (before content after : Text) : Prop where
  starts : StartsLine before (content ++ after)
  unbroken : ∀ char ∈ content, ¬ BreaksLine char
  ends : ∀ char ∈ after.head?, BreaksLine char

def HasLine (text : Text) (number : Nat) : Prop := 1 ≤ number ∧ number ≤ 1 + breaksUpTo text []

instance (text : Text) (number : Nat) : Decidable (HasLine text number) :=
  inferInstanceAs (Decidable (_ ∧ _))

/-! ## Counting breaks -/

@[simp]
theorem not_endsBreak_nil (after : Text) : ¬ EndsBreak [] after := by simp [EndsBreak]

/-- Only the last character before a place tells whether a break ends there. -/
theorem endsBreak_append {start before : Text} (more : before ≠ []) (after : Text) :
    EndsBreak (start ++ before) after ↔ EndsBreak before after := by
  simp only [EndsBreak, List.getLast?_append, List.getLast?_eq_some_getLast more, Option.some_or]

theorem breaksUpTo_append (first second after : Text) :
    breaksUpTo (first ++ second) after =
      breaksUpTo first (second ++ after) + breaksUpTo second after := by
  have behind : breaksUpTo second after = (List.range second.length).countP fun size =>
      EndsBreak ((second ++ after).take (size + 1)) ((second ++ after).drop (size + 1)) := by
    simp [breaksUpTo, List.range_succ_eq_map, List.countP_map, Function.comp_def]
  have places : List.range ((first ++ second).length + 1) =
      List.range (first.length + 1) ++
        (List.range second.length).map (first.length + 1 + ·) := by
    rw [← List.range_add, List.length_append]
    congr 1
    omega
  rw [behind, breaksUpTo, places, List.countP_append, List.countP_map, breaksUpTo,
    List.append_assoc]
  congr 1
  apply List.countP_congr
  intro size member
  have inside := List.mem_range.mp member
  have more : (second ++ after).take (size + 1) ≠ [] := by
    intro nothing
    have length := congrArg List.length nothing
    simp only [List.length_take, List.length_append, List.length_nil] at length
    omega
  have place : first.length + 1 + size = first.length + (size + 1) := by omega
  simp only [Function.comp_apply, decide_eq_true_eq, place, List.take_length_add_append,
    List.drop_length_add_append]
  exact endsBreak_append more _

theorem breaksUpTo_eq_zero {before after : Text}
    (unended : ∀ front back, before = front ++ back → front ≠ [] →
      ¬ EndsBreak front (back ++ after)) : breaksUpTo before after = 0 := by
  rw [breaksUpTo, List.countP_eq_zero]
  intro size member
  have inside := List.mem_range.mp member
  rw [decide_eq_true_eq, List.take_append_of_le_length (by omega),
    List.drop_append_of_le_length (by omega)]
  by_cases nothing : before.take size = []
  · rw [nothing]
    exact not_endsBreak_nil _
  · exact unended _ _ (List.take_append_drop size before).symm nothing

/-- The breaks up to a place are those before its line. -/
theorem InLine.breaksUpTo_eq {start line after : Text} (inLine : InLine start line after) :
    breaksUpTo (start ++ line) after = breaksUpTo start (line ++ after) := by
  have none_within : breaksUpTo line after = 0 :=
    breaksUpTo_eq_zero fun front back cut more ends =>
      inLine.unended front back cut more ((endsBreak_append more _).mpr ends)
  rw [breaksUpTo_append, none_within, Nat.add_zero]

end Text

namespace Lines

open Text

/-! ## The breaks of the lines -/

section OneLine

variable {text after : Text} {index : Nat} {line : TextLine}

theorem eq_flatMap_drop (whole : text = upToLine text index ++ after) :
    after = ((textLines text).drop index).flatMap TextLine.text := by
  have cut := flatMap_textLines text
  rw [← List.take_append_drop index (textLines text), List.flatMap_append] at cut
  exact List.append_cancel_left (whole.symm.trans cut.symm)

theorem getLast?_text (found : (textLines text)[index]? = some line)
    (more : index + 1 < (textLines text).length) :
    line.text.getLast? = some '\n' ∨ line.text.getLast? = some '\r' := by
  rw [TextLine.text]
  cases ending : line.ending with
  | textEnd =>
      have last := (ending_eq_textEnd_iff found).mp ending
      omega
  | lineFeed | both => exact .inl (by simp [LineEnd.text])
  | carriageReturn => exact .inr (by simp [LineEnd.text])

theorem startsLine_upToLine (found : (textLines text)[index]? = some line)
    (whole : text = upToLine text index ++ after) : StartsLine (upToLine text index) after := by
  have here := (List.getElem?_eq_some_iff.mp found).1
  cases index with
  | zero => exact .inl rfl
  | succ index =>
      have earlier := List.getElem?_eq_getElem (Nat.lt_of_succ_lt here)
      obtain ⟨-, -, next⟩ := upToLine_split earlier
      have unsplit : ¬ SplitsBreak (upToLine text (index + 1)) after := by
        apply not_splitsBreak_upToLine found
        rw [eq_flatMap_drop whole, List.drop_eq_getElem_cons here, List.flatMap_cons]
        rw [(List.getElem?_eq_some_iff.mp found).2]
      have last := getLast?_text earlier here
      have more : (textLines text)[index].text ≠ [] := by
        intro nothing
        simp [nothing] at last
      have same : (upToLine text (index + 1)).getLast? = (textLines text)[index].text.getLast? := by
        rw [next, List.getLast?_append, List.getLast?_eq_some_getLast more, Option.some_or]
      rcases last with feed | carriage
      · exact .inr (.inl (same.trans feed))
      · have carriage := same.trans carriage
        exact .inr (.inr ⟨carriage, fun feed => unsplit ⟨carriage, feed⟩⟩)

theorem inLine_upToLine {first second : Text} (found : (textLines text)[index]? = some line)
    (cut : line.text = first ++ second)
    (inside : second ≠ [] ∨ index + 1 = (textLines text).length)
    (whole : text = upToLine text index ++ first ++ (second ++ after)) :
    InLine (upToLine text index) first (second ++ after) where
  starts := by
    apply startsLine_upToLine found
    rw [← List.append_assoc]
    exact whole
  unended := by
    rintro front back rfl more ends
    rw [endsBreak_append more] at ends
    have inside' : back ++ second ≠ [] ∨ index + 1 = (textLines text).length :=
      inside.imp_left fun remains nothing => remains (List.append_eq_nil_iff.mp nothing).2
    rcases take_content_eq found (by rw [cut, List.append_assoc]) inside' with
      ⟨taken, -⟩ | ⟨carriage, feed⟩
    · -- The part before the place is content, so its last character breaks no line.
      have member : front.getLast more ∈ line.content :=
        List.mem_of_mem_take (by rw [taken]; exact List.getLast_mem more)
      have unbroken := line.unbroken _ member
      simp only [EndsBreak, List.getLast?_eq_some_getLast more, Option.some.injEq] at ends
      exact unbroken (ends.imp_right And.left)
    · simp only [EndsBreak, carriage, ← List.append_assoc, feed] at ends
      simp at ends

theorem breaksUpTo_upToLine (found : (textLines text)[index]? = some line)
    (whole : text = upToLine text index ++ after) :
    breaksUpTo (upToLine text index) after = index := by
  have here := (List.getElem?_eq_some_iff.mp found).1
  induction index generalizing line after with
  | zero => rfl
  | succ index induction =>
      have earlier := List.getElem?_eq_getElem (Nat.lt_of_succ_lt here)
      obtain ⟨-, -, next⟩ := upToLine_split earlier
      obtain ⟨front, char, cut⟩ :
          ∃ front char, (textLines text)[index].text = front ++ [char] := by
        rcases getLast?_text earlier here with feed | carriage
        · exact ⟨_, _, (List.getLast?_eq_some_iff.mp feed).choose_spec⟩
        · exact ⟨_, _, (List.getLast?_eq_some_iff.mp carriage).choose_spec⟩
      rw [cut] at next
      have split : text = upToLine text index ++ front ++ ([char] ++ after) := by
        rw [← List.append_assoc, List.append_assoc _ front, ← next, ← whole]
      have inLine : InLine (upToLine text index) front ([char] ++ after) :=
        inLine_upToLine earlier cut (.inl (by simp)) split
      have ends : EndsBreak [char] after := by
        have starts := startsLine_upToLine found whole
        rw [next, ← List.append_assoc] at starts
        rcases starts with nothing | ends
        · simp at nothing
        · exact (endsBreak_append (by simp) after).mp ends
      have one : breaksUpTo [char] after = 1 := by simp [breaksUpTo, List.range_succ, ends]
      rw [List.append_assoc] at split
      rw [next, ← List.append_assoc, breaksUpTo_append, inLine.breaksUpTo_eq, one,
        induction earlier split (Nat.lt_of_succ_lt here)]

/-- The content of a line, with what is before and after it in the text. -/
theorem exists_isLine (found : (textLines text)[index]? = some line) :
    ∃ after, text = upToLine text index ++ line.content ++ (line.ending.text ++ after) ∧
      IsLine (upToLine text index) line.content (line.ending.text ++ after) := by
  obtain ⟨after, whole, next⟩ := upToLine_split found
  have cut : text = upToLine text index ++ line.content ++ (line.ending.text ++ after) := by
    apply whole.trans
    simp only [TextLine.text, List.append_assoc]
  refine ⟨after, cut, ?_, line.unbroken, ?_⟩
  · exact startsLine_upToLine found (cut.trans (List.append_assoc ..))
  · intro char first
    cases ending : line.ending with
    | textEnd =>
        have last := (ending_eq_textEnd_iff found).mp ending
        rw [last, upToLine_length] at next
        obtain rfl : after = [] := List.self_eq_append_right.mp (next.symm.trans whole)
        simp [ending, LineEnd.text] at first
    | lineFeed =>
        simp only [ending, LineEnd.text] at first
        exact .inl (by simpa using first.symm)
    | carriageReturn | both =>
        simp only [ending, LineEnd.text] at first
        exact .inr (by simpa using first.symm)

end OneLine

theorem length_textLines (text : Text) : (textLines text).length = 1 + breaksUpTo text [] := by
  have some_line := List.length_pos_iff.mpr (textLines_ne_nil text)
  obtain ⟨index, last⟩ := Nat.exists_eq_add_of_le' some_line
  have inside : index < (textLines text).length := by omega
  have found := List.getElem?_eq_getElem inside
  obtain ⟨-, -, next⟩ := upToLine_split found
  rw [← last, upToLine_length] at next
  have inLine := inLine_upToLine found (List.append_nil _).symm (.inr last.symm)
    (next.trans (List.append_nil _).symm)
  have count := inLine.breaksUpTo_eq
  rw [List.append_nil, List.append_nil, ← next, breaksUpTo_upToLine found next] at count
  omega

theorem hasLine_iff {text : Text} {number : Nat} :
    HasLine text number ↔ ∃ index line,
      number = index + 1 ∧ (textLines text)[index]? = some line := by
  rw [HasLine, ← length_textLines]
  constructor
  · rintro ⟨positive, within⟩
    have inside : number - 1 < (textLines text).length := by omega
    exact ⟨number - 1, _, by omega, List.getElem?_eq_getElem inside⟩
  · rintro ⟨index, line, rfl, found⟩
    have inside := (List.getElem?_eq_some_iff.mp found).1
    omega

/-! ## The table gives the counted positions -/

/-- The lines give each place of the text the position that is counted there, and give each position
the place that it names. -/
structure Locates (lines : Lines) (text : Text) : Prop where
  /-- A place has the number of its line and the characters before it in the line. -/
  positions : ∀ before after, text = before ++ after → ∃ start line,
    before = start ++ line ∧ InLine start line after ∧
      lines.positionAt? text (byteSize before) =
        some ⟨1 + breaksUpTo before after, line.length⟩
  /-- Its position leads back to it, or before the break that it splits. -/
  offsets : ∀ before after, text = before ++ after → ∃ position,
    lines.positionAt? text (byteSize before) = some position ∧
      lines.offsetAt? text position = some (byteSize (beforeBreak before after))
  /-- A position on a line of the text is kept up to the end of the line's content. -/
  columns : ∀ position, HasLine text position.line → ∃ before content after,
    text = before ++ content ++ after ∧ IsLine before content after ∧
      position.line = 1 + breaksUpTo before (content ++ after) ∧
      lines.offsetAt? text position =
        some (byteSize (before ++ content.take position.column)) ∧
      lines.positionAt? text (byteSize (before ++ content.take position.column)) =
        some ⟨position.line, min position.column content.length⟩

theorem ofText_locates (text : Text) : (ofText text).Locates text where
  positions := by
    rintro before after rfl
    obtain ⟨index, line, first, second, found, cut, start, stop, inside⟩ :=
      exists_line_of_append (textLines_ne_nil _) (flatMap_textLines (before ++ after))
    change before = upToLine (before ++ after) index ++ first at start
    have position := positionAt?_eq found cut inside
    have whole : before ++ after = upToLine (before ++ after) index ++ first ++
        (second ++ ((textLines (before ++ after)).drop (index + 1)).flatMap TextLine.text) := by
      rw [← start, ← stop]
    have inLine := inLine_upToLine found cut inside whole
    have count := inLine.breaksUpTo_eq.trans
      (breaksUpTo_upToLine found (whole.trans (List.append_assoc ..)))
    rw [← stop] at inLine count
    rw [← start] at position count
    exact ⟨_, _, start, inLine, by rw [position, count, Nat.add_comm]⟩
  offsets := by
    rintro before after rfl
    obtain ⟨position, positionAt, before_eq⟩ := before?_positionAt? before after
    exact ⟨position, positionAt, by rw [offsetAt?_eq, before_eq, Option.map_some]⟩
  columns := by
    rintro ⟨number, column⟩ exists_line
    obtain ⟨index, line, rfl, found⟩ := hasLine_iff.mp exists_line
    obtain ⟨after, whole, isLine⟩ := exists_isLine found
    have count := breaksUpTo_upToLine found (whole.trans (List.append_assoc ..))
    have cut : line.text =
        line.content.take column ++ (line.content.drop column ++ line.ending.text) := by
      rw [← List.append_assoc, List.take_append_drop, TextLine.text]
    have inside : line.content.drop column ++ line.ending.text ≠ [] ∨
        index + 1 = (textLines text).length := by
      rw [← ending_eq_textEnd_iff found]
      cases line.ending <;> simp [LineEnd.text]
    refine ⟨_, _, _, whole, isLine, by rw [count, Nat.add_comm], ?_, ?_⟩
    · simp [offsetAt?_eq, before?, found]
    · rw [positionAt?_eq found cut inside, List.length_take]

/-- From within the break the way back leads to the carriage return. -/
example : (ofText ['é', '\r', '\n']).positionAt? ['é', '\r', '\n'] 3 = some ⟨1, 2⟩ ∧
    (ofText ['é', '\r', '\n']).offsetAt? ['é', '\r', '\n'] ⟨1, 2⟩ = some 2 := by
  decide

end Lines

end Reparse
