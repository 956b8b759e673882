import Reparse.Grammar.Prediction

/-!
# First sets and the order between them

What the operations on first sets do to their members, and that all of them respect the order "holds
no more than".
-/

namespace Reparse

namespace FirstSet

theorem ext
    {first second : FirstSet}
    (tokens : ∀ kind, kind ∈ first.tokens ↔ kind ∈ second.tokens)
    (nullable : first.nullable = true ↔ second.nullable = true) : first = second := by
  cases first
  cases second
  simp only [mk.injEq]
  exact ⟨KindSet.ext tokens, Bool.eq_iff_iff.mpr nullable⟩

/-- The first set holds no more than the second one. -/
structure Below (first second : FirstSet) : Prop where
  tokens : ∀ kind, kind ∈ first.tokens → kind ∈ second.tokens
  nullable : first.nullable = true → second.nullable = true

theorem Below.refl (first : FirstSet) : Below first first := ⟨fun _ => id, id⟩

theorem Below.trans {first second third : FirstSet} (lower : Below first second)
    (upper : Below second third) : Below first third :=
  ⟨fun kind starts => upper.tokens kind (lower.tokens kind starts),
    fun nullable => upper.nullable (lower.nullable nullable)⟩

@[simp]
theorem mem_ofKind {kind other : TokenKind} : kind ∈ (ofKind other).tokens ↔ kind = other := by
  simp [ofKind]

@[simp]
theorem nullable_ofKind (kind : TokenKind) : (ofKind kind).nullable = false := rfl

@[simp]
theorem not_mem_epsilon (kind : TokenKind) : ¬ kind ∈ epsilon.tokens := by
  simp [epsilon]

@[simp]
theorem nullable_epsilon : epsilon.nullable = true := rfl

@[simp]
theorem not_mem_empty (kind : TokenKind) : ¬ kind ∈ empty.tokens := by
  simp [empty]

@[simp]
theorem nullable_empty : empty.nullable = false := rfl

@[simp]
theorem tokens_union (first second : FirstSet) :
    (first ∪ second).tokens = first.tokens ∪ second.tokens := rfl

@[simp]
theorem nullable_union (first second : FirstSet) :
    (first ∪ second).nullable = (first.nullable || second.nullable) := rfl

@[simp]
theorem mem_andThen {kind : TokenKind} {first second : FirstSet} :
    kind ∈ (first.andThen second).tokens ↔
      kind ∈ first.tokens ∨ first.nullable = true ∧ kind ∈ second.tokens := by
  unfold andThen
  split <;> simp_all

@[simp]
theorem nullable_andThen (first second : FirstSet) :
    (first.andThen second).nullable = (first.nullable && second.nullable) := by
  unfold andThen
  split <;> simp_all

@[simp]
theorem andThen_epsilon (first : FirstSet) : first.andThen epsilon = first :=
  ext (by simp) (by simp)

@[simp]
theorem epsilon_andThen (first : FirstSet) : epsilon.andThen first = first :=
  ext (by simp) (by simp)

theorem andThen_assoc (first second third : FirstSet) :
    (first.andThen second).andThen third = first.andThen (second.andThen third) := by
  apply ext
  · intro kind
    simp only [mem_andThen, nullable_andThen, Bool.and_eq_true, and_or_left, or_assoc, and_assoc]
  · simp only [nullable_andThen, Bool.and_assoc]

theorem Below.union
    {first second first' second' : FirstSet}
    (left : Below first first') (right : Below second second') :
    Below (first ∪ second) (first' ∪ second') where
  tokens kind member := by
    simp only [tokens_union, KindSet.mem_union] at member ⊢
    exact member.imp (left.tokens kind) (right.tokens kind)
  nullable holds := by
    simp only [nullable_union, Bool.or_eq_true] at holds ⊢
    exact holds.imp left.nullable right.nullable

theorem Below.andThen
    {first second first' second' : FirstSet}
    (left : Below first first') (right : Below second second') :
    Below (first.andThen second) (first'.andThen second') where
  tokens kind member := by
    simp only [mem_andThen] at member ⊢
    exact member.imp (left.tokens kind) (And.imp left.nullable (right.tokens kind))
  nullable holds := by
    simp only [nullable_andThen, Bool.and_eq_true] at holds ⊢
    exact holds.imp left.nullable right.nullable

theorem mem_foldl_union {kind : TokenKind} (firstOf : ExprId → FirstSet) (branches : List ExprId)
    (found : FirstSet) :
    kind ∈ (branches.foldl (fun found branch => found ∪ firstOf branch) found).tokens ↔
      kind ∈ found.tokens ∨ ∃ branch ∈ branches, kind ∈ (firstOf branch).tokens := by
  induction branches generalizing found with
  | nil => simp
  | cons branch branches induction => simp [induction, or_assoc]

theorem nullable_foldl_union (firstOf : ExprId → FirstSet) (branches : List ExprId)
    (found : FirstSet) :
    (branches.foldl (fun found branch => found ∪ firstOf branch) found).nullable = true ↔
      found.nullable = true ∨ ∃ branch ∈ branches, (firstOf branch).nullable = true := by
  induction branches generalizing found with
  | nil => simp
  | cons branch branches induction => simp [induction, or_assoc]

end FirstSet

theorem KindSet.mem_foldl_union {kind : TokenKind} (setOf : ExprId → KindSet)
    (branches : List ExprId) (found : KindSet) :
    kind ∈ branches.foldl (fun found branch => found ∪ setOf branch) found ↔
      kind ∈ found ∨ ∃ branch ∈ branches, kind ∈ setOf branch := by
  induction branches generalizing found with
  | nil => simp
  | cons branch branches induction => simp [induction, or_assoc]

namespace Grammar

variable {grammar : Grammar} {sets : PredictionSets}

@[simp]
theorem elementFirst_token (kind : TokenKind) :
    grammar.elementFirst sets (.token kind) = .ofKind kind := rfl

@[simp]
theorem elementFirst_nonTerminal (name : NonTerminalId) :
    grammar.elementFirst sets (.nonTerminal name) = sets.firstOf (grammar.ruleOf name) := rfl

@[simp]
theorem elementFirst_empty : grammar.elementFirst sets .empty = .epsilon := rfl

@[simp]
theorem tokens_elementFirst_optional (inner : ExprId) :
    (grammar.elementFirst sets (.optional inner)).tokens = (sets.firstOf inner).tokens := rfl

@[simp]
theorem nullable_elementFirst_optional (inner : ExprId) :
    (grammar.elementFirst sets (.optional inner)).nullable = true := rfl

@[simp]
theorem mem_elementFirst_alternation {kind : TokenKind} {branches : List ExprId} :
    kind ∈ (grammar.elementFirst sets (.alternation branches)).tokens ↔
      ∃ branch ∈ branches, kind ∈ (sets.firstOf branch).tokens := by
  simp [elementFirst, FirstSet.mem_foldl_union]

@[simp]
theorem nullable_elementFirst_alternation {branches : List ExprId} :
    (grammar.elementFirst sets (.alternation branches)).nullable = true ↔
      ∃ branch ∈ branches, (sets.firstOf branch).nullable = true := by
  simp [elementFirst, FirstSet.nullable_foldl_union]

@[simp]
theorem elementFirst_repetition (parts : Repetition) :
    grammar.elementFirst sets (.repetition parts) = repetitionFirst sets parts := rfl

theorem nullable_repetitionFirst (parts : Repetition) :
    (repetitionFirst sets parts).nullable =
      ((sets.firstOf parts.content).nullable && (sets.firstOf parts.separator).nullable) := by
  unfold repetitionFirst
  cases parts.leading <;> simp only [FirstSet.nullable_andThen, FirstSet.nullable_union] <;>
    cases (sets.firstOf parts.content).nullable <;>
      cases (sets.firstOf parts.separator).nullable <;> rfl

/-- The first set of the contents and the separators between them. -/
def bodyFirst (sets : PredictionSets) (parts : Repetition) : FirstSet :=
  (sets.firstOf parts.content).andThen (sets.firstOf parts.separator)

/-- The first set of what comes before the first content. -/
def leadFirst (sets : PredictionSets) (parts : Repetition) : FirstSet :=
  match parts.leading with
  | .required => sets.firstOf parts.separator
  | .optional => { sets.firstOf parts.separator with nullable := true }
  | .prohibited => .epsilon

/-- A repetition is a leading separator and the rest. -/
theorem repetitionFirst_eq (parts : Repetition) :
    repetitionFirst sets parts = (leadFirst sets parts).andThen (bodyFirst sets parts) := by
  unfold repetitionFirst leadFirst bodyFirst
  apply FirstSet.ext
  · intro kind
    cases parts.leading with
    | prohibited => simp
    | optional =>
        simp
        grind
    | required => simp
  · cases parts.leading with
    | prohibited => simp
    | optional => simp
    | required => simp

theorem mem_leadFirst {kind : TokenKind} {parts : Repetition} :
    kind ∈ (leadFirst sets parts).tokens ↔
      parts.leading ≠ .prohibited ∧ kind ∈ (sets.firstOf parts.separator).tokens := by
  unfold leadFirst
  cases parts.leading <;> simp

theorem nullable_leadFirst {parts : Repetition} :
    (leadFirst sets parts).nullable = true ↔
      (parts.leading = .required → (sets.firstOf parts.separator).nullable = true) := by
  unfold leadFirst
  cases parts.leading <;> simp

theorem mem_repetitionFirst {kind : TokenKind} {parts : Repetition} :
    kind ∈ (repetitionFirst sets parts).tokens ↔
      parts.leading ≠ .prohibited ∧ kind ∈ (sets.firstOf parts.separator).tokens ∨
        (parts.leading = .required → (sets.firstOf parts.separator).nullable = true) ∧
          kind ∈ (bodyFirst sets parts).tokens := by
  rw [repetitionFirst_eq, FirstSet.mem_andThen, mem_leadFirst, nullable_leadFirst]

end Grammar

end Reparse
