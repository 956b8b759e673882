import Reparse.Parser.Descent
import Reparse.Proofs.Grammar.Prediction

/-!
# What is skipped before a chain

The kinds that start a chain are among those that it consumes.  A chain that can match nothing
consumes no others, as each of its elements can be left out.

Main statement: `consumableOf_agrees`.
-/

namespace Reparse

namespace Grammar

variable {grammar : Grammar} {id : ExprId} {kind : TokenKind}

theorem mem_startOf_of_mem_elementConsumable {sets : PredictionSets}
    (below : sets.Below grammar.predict.toPredictionSets)
    (starts : ∀ id, kind ∈ sets.consumableOf id → (grammar.predict.firstOf id).nullable = true →
      kind ∈ (grammar.predict.firstOf id).tokens)
    {element : Element} (consumed : kind ∈ grammar.elementConsumable sets element)
    (nullable : (grammar.startOf element).nullable = true) :
    kind ∈ (grammar.startOf element).tokens := by
  cases element with
  | token own => simp [startOf] at nullable
  | nonTerminal name => exact starts _ consumed nullable
  | empty => simp [elementConsumable] at consumed
  | optional inner => exact (below.firstOf inner).tokens kind consumed
  | alternation branches =>
      simp only [elementConsumable, KindSet.mem_foldl_union, KindSet.not_mem_empty, false_or]
        at consumed
      obtain ⟨branch, member, first⟩ := consumed
      exact mem_elementFirst_alternation.mpr
        ⟨branch, member, (below.firstOf branch).tokens kind first⟩
  | repetition parts =>
      rw [startOf, elementFirst_repetition] at nullable ⊢
      rw [nullable_repetitionFirst, Bool.and_eq_true] at nullable
      rw [elementConsumable, KindSet.mem_union] at consumed
      rw [mem_repetitionFirst, bodyFirst, FirstSet.mem_andThen]
      refine .inr ⟨fun _ => nullable.2, ?_⟩
      exact consumed.imp ((below.firstOf parts.content).tokens kind)
        fun separator => ⟨nullable.1, (below.firstOf parts.separator).tokens kind separator⟩

/-- If the fact is that a chain consumes a kind, and the chain can match nothing, then the kind
starts the chain. -/
def StartsIfConsumed (grammar : Grammar) : Fact → Prop
  | .consumes id kind => (grammar.predict.firstOf id).nullable = true →
      kind ∈ (grammar.predict.firstOf id).tokens
  | .starts _ _ | .vanishes _ => True

/-- A chain that can match nothing starts with whatever it consumes. -/
theorem mem_firstOf_of_mem_consumableOf
    (consumed : kind ∈ grammar.predict.consumableOf id)
    (nullable : (grammar.predict.firstOf id).nullable = true) :
    kind ∈ (grammar.predict.firstOf id).tokens := by
  -- The induction is on the order in which the rounds find out what is consumed.
  suffices all : ∀ fact, grammar.predict.Knows fact → grammar.StartsIfConsumed fact from
    all (.consumes id kind) consumed nullable
  intro fact known
  refine knows_induction grammar.StartsIfConsumed ?_ known
  intro sets below known fact inside entailed
  cases fact with
  | starts | vanishes => trivial
  | consumes id kind =>
      intro nullable
      have inside : id < grammar.exprs.size := inside
      have first : kind ∈ grammar.elementConsumable sets (grammar.expr id).element →
          kind ∈ (grammar.startOf (grammar.expr id).element).tokens := fun consumed =>
        mem_startOf_of_mem_elementConsumable below
          (fun id consumed => known (.consumes id kind) consumed) consumed
          (nullable_startOf_of_nullable_firstOf inside nullable)
      change kind ∈ grammar.chainConsumable sets (grammar.expr id) at entailed
      unfold chainConsumable at entailed
      cases following : (grammar.expr id).next with
      | none =>
          rw [following] at entailed
          exact mem_firstOf_of_mem_startOf inside (first entailed)
      | some next =>
          rw [firstOf_of_next inside following] at nullable ⊢
          rw [FirstSet.nullable_andThen, Bool.and_eq_true] at nullable
          rw [following, KindSet.mem_union] at entailed
          rw [FirstSet.mem_andThen]
          exact entailed.imp first
            fun later => ⟨nullable.1, known (.consumes next kind) later nullable.2⟩

end Grammar

namespace Parser

/-- The loop only asks whether some set holds the current kind. -/
theorem skipWithin_congr (parser : Parser) {sets sets' : List KindSet}
    (same : ∀ kind, (∃ set ∈ sets, kind ∈ set) ↔ ∃ set ∈ sets', kind ∈ set) (count : Nat)
    (state : ParseState) :
    parser.skipWithin sets count state = parser.skipWithin sets' count state := by
  have any_eq : ∀ kind, sets.any (·.contains kind) = sets'.any (·.contains kind) := by
    intro kind
    rw [Bool.eq_iff_iff, List.any_eq_true, List.any_eq_true]
    exact same kind
  induction count generalizing state with
  | zero => rfl
  | succ count induction =>
      unfold skipWithin
      simp only [any_eq, induction]

/-- The tokens skipped before a chain are those that may not come after it and that it does not
consume.  Its first set has no part in that. -/
theorem consumableOf_agrees (grammar : Grammar) (id : ExprId) :
    (∀ kind ∈ (grammar.predict.firstOf id).tokens, kind ∈ grammar.predict.consumableOf id) ∧
      ((grammar.predict.firstOf id).nullable = true →
        (grammar.predict.firstOf id).tokens = grammar.predict.consumableOf id) ∧
      ∀ (document : Document) (leniency : Leniency) (follow : KindSet) (state : ParseState),
        let parser : Parser := ⟨grammar, grammar.predict, document, leniency⟩
        parser.arrive id follow state =
          let announced :=
            if parser.usesSets (grammar.expr id) then parser.announceSets state else state
          if leniency.skipsUnknown then
            parser.skipUpTo [follow, grammar.predict.consumableOf id] announced
          else announced := by
  have consumed : ∀ kind ∈ (grammar.predict.firstOf id).tokens,
      kind ∈ grammar.predict.consumableOf id := fun _ => Grammar.mem_consumableOf_of_mem_firstOf
  refine ⟨consumed, fun nullable => KindSet.ext fun kind => ⟨consumed kind, fun member =>
    Grammar.mem_firstOf_of_mem_consumableOf member nullable⟩, ?_⟩
  intro document leniency follow state parser
  have same : ∀ kind,
      (∃ set ∈ [follow, grammar.predict.consumableOf id, (grammar.predict.firstOf id).tokens],
        kind ∈ set) ↔ ∃ set ∈ [follow, grammar.predict.consumableOf id], kind ∈ set := by
    intro kind
    have consumed := consumed kind
    simp only [List.mem_cons, List.not_mem_nil, or_false, exists_eq_or_imp, exists_eq_left]
    tauto
  simp only [arrive, skipUpTo]
  rw [parser.skipWithin_congr same]

end Parser

end Reparse
