/-!
# Text by byte offsets

A text is a list of characters.  Editors and tokens speak about byte offsets of its UTF-8 form, so
this module measures and cuts texts in bytes.  An offset is a boundary when no character lies
across it; only the part between two boundaries is a text again.

Main statement: a slice is exactly a part that begins and ends at the asked offsets
(`slice?_eq_some_iff`).
-/

namespace Reparse

/-- The characters of a source, in order. -/
abbrev Text := List Char

namespace Text

/-- Number of bytes of the UTF-8 form. -/
def byteSize : Text → Nat
  | [] => 0
  | char :: rest => char.utf8Size + byteSize rest

/-- The longest beginning that fits into `bytes` bytes. -/
def takeBytes : Text → Nat → Text
  | [], _ => []
  | char :: rest, bytes =>
      if char.utf8Size ≤ bytes then char :: takeBytes rest (bytes - char.utf8Size) else []

def dropBytes : Text → Nat → Text
  | [], _ => []
  | char :: rest, bytes =>
      if char.utf8Size ≤ bytes then dropBytes rest (bytes - char.utf8Size) else char :: rest

/-- Whether a character starts at the offset, or the text ends there. -/
def isBoundary (text : Text) (offset : Nat) : Bool :=
  byteSize (takeBytes text offset) == offset

/-- The text between two offsets, if both are boundaries and in order. -/
def slice? (text : Text) (start stop : Nat) : Option Text :=
  if start ≤ stop ∧ isBoundary text start ∧ isBoundary text stop then
    some (takeBytes (dropBytes text start) (stop - start))
  else
    none

/-- The text with everything between two offsets replaced. -/
def splice (text : Text) (start stop : Nat) (inserted : Text) : Text :=
  takeBytes text start ++ inserted ++ dropBytes text stop

/-- Two blanks for each level of nesting. -/
def indentation (depth : Nat) : String := String.ofList (List.replicate (2 * depth) ' ')

theorem takeBytes_append_dropBytes (text : Text) (bytes : Nat) :
    takeBytes text bytes ++ dropBytes text bytes = text := by
  induction text generalizing bytes with
  | nil => rfl
  | cons char rest induction =>
      by_cases fits : char.utf8Size ≤ bytes
      · simp [takeBytes, dropBytes, fits, induction]
      · simp [takeBytes, dropBytes, fits]

@[simp]
theorem byteSize_append (first second : Text) :
    byteSize (first ++ second) = byteSize first + byteSize second := by
  induction first with
  | nil => simp [byteSize]
  | cons char rest induction => simp [byteSize, induction, Nat.add_assoc]

theorem takeBytes_append (first second : Text) :
    takeBytes (first ++ second) (byteSize first) = first := by
  induction first with
  | nil =>
      cases second with
      | nil => rfl
      | cons char rest =>
          have positive := char.utf8Size_pos
          have tooLong : ¬ char.utf8Size ≤ 0 := by omega
          simp [takeBytes, byteSize, tooLong]
  | cons char rest induction =>
      have fits : char.utf8Size ≤ char.utf8Size + byteSize rest := by omega
      simp [takeBytes, byteSize, fits, induction]

theorem dropBytes_append (first second : Text) :
    dropBytes (first ++ second) (byteSize first) = second := by
  have together := takeBytes_append_dropBytes (first ++ second) (byteSize first)
  rw [takeBytes_append] at together
  exact List.append_cancel_left together

/-- The boundaries of a text are the sizes of its beginnings. -/
theorem isBoundary_iff {text : Text} {offset : Nat} :
    isBoundary text offset = true ↔
      ∃ before after, text = before ++ after ∧ byteSize before = offset := by
  constructor
  · intro boundary
    exact ⟨takeBytes text offset, dropBytes text offset,
      (takeBytes_append_dropBytes text offset).symm, by simpa [isBoundary] using boundary⟩
  · rintro ⟨before, after, rfl, rfl⟩
    simp [isBoundary, takeBytes_append]

@[simp]
theorem byteSize_eq_zero_iff {text : Text} : byteSize text = 0 ↔ text = [] := by
  cases text with
  | nil => simp [byteSize]
  | cons char rest =>
      have positive := char.utf8Size_pos
      simp only [byteSize, reduceCtorEq, iff_false]
      omega

/-- Of two beginnings of a text, the smaller one is a beginning of the larger one. -/
theorem exists_append_of_byteSize_le {before after before' after' : Text}
    (same : before ++ after = before' ++ after') (smaller : byteSize before ≤ byteSize before') :
    ∃ between, before' = before ++ between ∧ after = between ++ after' := by
  rcases List.append_eq_append_iff.mp same with
    ⟨between, longer, rest⟩ | ⟨between, shorter, rest⟩
  · exact ⟨between, longer, rest⟩
  · have nothing : between = [] := by
      rw [shorter, byteSize_append] at smaller
      exact byteSize_eq_zero_iff.mp (by omega)
    subst nothing
    exact ⟨[], by simpa using shorter.symm, by simpa using rest.symm⟩

/-- A slice is a part of the text that begins and ends where it was asked to. -/
theorem slice?_eq_some_iff {text part : Text} {start stop : Nat} :
    slice? text start stop = some part ↔
      ∃ before after, text = before ++ part ++ after ∧ byteSize before = start ∧
        byteSize before + byteSize part = stop := by
  constructor
  · intro sliced
    unfold slice? at sliced
    split at sliced
    · rename_i fits
      obtain ⟨ordered, startBoundary, stopBoundary⟩ := fits
      obtain ⟨before, after, whole, size⟩ := isBoundary_iff.mp startBoundary
      obtain ⟨before', after', whole', size'⟩ := isBoundary_iff.mp stopBoundary
      obtain ⟨between, longer, rest⟩ :=
        exists_append_of_byteSize_le (whole.symm.trans whole') (by omega)
      have size'' : byteSize between = stop - start := by
        rw [longer, byteSize_append] at size'
        omega
      have found : part = between := by
        rw [whole, ← size, dropBytes_append, size, ← size'', rest, takeBytes_append] at sliced
        exact (Option.some.inj sliced).symm
      subst found
      exact ⟨before, after', by rw [whole, rest, List.append_assoc], size, by omega⟩
    · simp at sliced
  · rintro ⟨before, after, rfl, rfl, rfl⟩
    have startBoundary : isBoundary (before ++ part ++ after) (byteSize before) = true :=
      isBoundary_iff.mpr ⟨before, part ++ after, List.append_assoc .., rfl⟩
    have stopBoundary :
        isBoundary (before ++ part ++ after) (byteSize before + byteSize part) = true :=
      isBoundary_iff.mpr ⟨before ++ part, after, rfl, byteSize_append ..⟩
    unfold slice?
    rw [if_pos ⟨Nat.le_add_right .., startBoundary, stopBoundary⟩, List.append_assoc,
      dropBytes_append, Nat.add_sub_cancel_left, takeBytes_append]

end Text

end Reparse
