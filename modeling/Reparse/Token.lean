import Reparse.Span

/-!
# Tokens and sets of token kinds

A token has a kind and a span of the text it was read from.  Kinds, like the other names of a
grammar, are numbered from zero in the order of their creation; so are the tokens of a text.

A set of kinds is the number whose binary digits tell the members, so that two sets with the same
members are equal.
-/

namespace Reparse

abbrev TokenKind := Nat

abbrev TokenId := Nat

structure Token where
  kind : TokenKind
  span : Span
  deriving DecidableEq, Repr, Inhabited

structure KindSet where
  digits : Nat
  deriving DecidableEq, Repr

namespace KindSet

def empty : KindSet := ⟨0⟩

instance : Inhabited KindSet := ⟨empty⟩

def contains (set : KindSet) (kind : TokenKind) : Bool := set.digits.testBit kind

instance : Membership TokenKind KindSet := ⟨fun set kind => set.contains kind = true⟩

instance (kind : TokenKind) (set : KindSet) : Decidable (kind ∈ set) :=
  inferInstanceAs (Decidable (set.contains kind = true))

def singleton (kind : TokenKind) : KindSet := ⟨1 <<< kind⟩

def union (first second : KindSet) : KindSet := ⟨first.digits ||| second.digits⟩

instance : Union KindSet := ⟨union⟩

def insert (set : KindSet) (kind : TokenKind) : KindSet := set ∪ singleton kind

def ofList (kinds : List TokenKind) : KindSet := kinds.foldl insert empty

def isEmpty (set : KindSet) : Bool := set.digits == 0

/-- The members in ascending order. -/
def toList (set : KindSet) : List TokenKind :=
  (List.range (set.digits.log2 + 1)).filter set.contains

theorem mem_def {kind : TokenKind} {set : KindSet} :
    kind ∈ set ↔ set.digits.testBit kind = true := Iff.rfl

@[ext]
theorem ext {first second : KindSet} (same : ∀ kind, kind ∈ first ↔ kind ∈ second) :
    first = second := by
  have digits : first.digits = second.digits := by
    apply Nat.eq_of_testBit_eq
    intro kind
    have members := same kind
    simp only [mem_def] at members
    exact Bool.eq_iff_iff.mpr members
  cases first
  cases second
  simp_all

@[simp]
theorem not_mem_empty (kind : TokenKind) : ¬ kind ∈ empty := by
  simp [mem_def, empty]

@[simp]
theorem mem_union {kind : TokenKind} {first second : KindSet} :
    kind ∈ first ∪ second ↔ kind ∈ first ∨ kind ∈ second := by
  change (first.digits ||| second.digits).testBit kind = true ↔ _
  simp [mem_def, Nat.testBit_or]

@[simp]
theorem mem_singleton {kind other : TokenKind} : kind ∈ singleton other ↔ kind = other := by
  change (1 <<< other).testBit kind = true ↔ _
  rw [Nat.one_shiftLeft, Nat.testBit_two_pow]
  simp [eq_comm]

@[simp]
theorem mem_insert {kind other : TokenKind} {set : KindSet} :
    kind ∈ insert set other ↔ kind ∈ set ∨ kind = other := by
  simp [insert]

theorem mem_toList {kind : TokenKind} {set : KindSet} : kind ∈ toList set ↔ kind ∈ set := by
  change kind ∈ toList set ↔ set.contains kind = true
  simp only [toList, List.mem_filter, List.mem_range, and_iff_right_iff_imp]
  intro member
  have large := Nat.ge_two_pow_of_testBit member
  have nonzero : set.digits ≠ 0 := by
    intro zero
    simp [contains, zero] at member
  have bound := (Nat.le_log2 nonzero).mpr large
  omega

end KindSet

end Reparse
