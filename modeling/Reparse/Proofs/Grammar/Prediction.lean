import Reparse.Proofs.Grammar.Convergence

/-!
# What a prediction tells about chains and their elements

The prediction is a fixed point, so the first set of a chain is made of those of its first element
and of the rest.  Whatever starts a chain is also consumed in it.
-/

namespace Reparse.Grammar

variable {grammar : Grammar} {id next : ExprId} {kind : TokenKind}

/-- The first set of an element by the prediction of its grammar. -/
def startOf (grammar : Grammar) (element : Element) : FirstSet :=
  grammar.elementFirst grammar.predict.toPredictionSets element

theorem firstOf_of_size_le (outside : grammar.exprs.size ≤ id) :
    grammar.predict.firstOf id = .empty := by
  have sized := (round_predict grammar).1.sized.1
  rw [PredictionSets.firstOf, Array.getD_eq_getD_getElem?, Array.getElem?_eq_none (sized ▸ outside)]
  rfl

theorem firstOf_eq_chainFirst (inside : id < grammar.exprs.size) :
    grammar.predict.firstOf id =
      grammar.chainFirst grammar.predict.toPredictionSets (grammar.expr id) :=
  FirstSet.ext (fun kind => @predict_knows_iff grammar (.starts id kind) inside)
    (@predict_knows_iff grammar (.vanishes id) inside)

theorem mem_consumableOf_iff (inside : id < grammar.exprs.size) :
    kind ∈ grammar.predict.consumableOf id ↔
      kind ∈ grammar.chainConsumable grammar.predict.toPredictionSets (grammar.expr id) :=
  @predict_knows_iff grammar (.consumes id kind) inside

theorem firstOf_of_last
    (inside : id < grammar.exprs.size) (last : (grammar.expr id).next = none) :
    grammar.predict.firstOf id = grammar.startOf (grammar.expr id).element := by
  rw [firstOf_eq_chainFirst inside]
  simp [chainFirst, last, startOf]

theorem firstOf_of_next
    (inside : id < grammar.exprs.size) (following : (grammar.expr id).next = some next) :
    grammar.predict.firstOf id =
      (grammar.startOf (grammar.expr id).element).andThen (grammar.predict.firstOf next) := by
  rw [firstOf_eq_chainFirst inside]
  simp [chainFirst, following, startOf]

theorem mem_firstOf_of_mem_startOf
    (inside : id < grammar.exprs.size)
    (starts : kind ∈ (grammar.startOf (grammar.expr id).element).tokens) :
    kind ∈ (grammar.predict.firstOf id).tokens := by
  cases following : (grammar.expr id).next with
  | none => rwa [firstOf_of_last inside following]
  | some next =>
      rw [firstOf_of_next inside following, FirstSet.mem_andThen]
      exact .inl starts

theorem nullable_startOf_of_nullable_firstOf
    (inside : id < grammar.exprs.size)
    (nullable : (grammar.predict.firstOf id).nullable = true) :
    (grammar.startOf (grammar.expr id).element).nullable = true := by
  cases following : (grammar.expr id).next with
  | none => rwa [firstOf_of_last inside following] at nullable
  | some next =>
      rw [firstOf_of_next inside following, FirstSet.nullable_andThen, Bool.and_eq_true]
        at nullable
      exact nullable.1

/-- In sets where starting kinds are consumable, an element consumes what starts it. -/
theorem mem_elementConsumable_of_mem_elementFirst
    {sets : PredictionSets}
    (known : ∀ id kind, kind ∈ (sets.firstOf id).tokens → kind ∈ sets.consumableOf id)
    {element : Element} (starts : kind ∈ (grammar.elementFirst sets element).tokens) :
    kind ∈ grammar.elementConsumable sets element := by
  cases element with
  | token own => simpa [elementConsumable] using starts
  | nonTerminal name => exact known _ kind (by simpa using starts)
  | empty => simp at starts
  | optional inner => simpa [elementConsumable] using starts
  | alternation branches =>
      simpa [elementConsumable, KindSet.mem_foldl_union] using starts
  | repetition parts =>
      rw [elementFirst_repetition, mem_repetitionFirst, bodyFirst, FirstSet.mem_andThen] at starts
      rw [elementConsumable, KindSet.mem_union]
      rcases starts with ⟨_, separator⟩ | ⟨_, content | ⟨_, separator⟩⟩
      · exact .inr separator
      · exact .inl content
      · exact .inr separator

theorem mem_consumableOf_of_mem_firstOf
    (starts : kind ∈ (grammar.predict.firstOf id).tokens) :
    kind ∈ grammar.predict.consumableOf id := by
  refine predict_induction
    (fun sets => ∀ id kind, kind ∈ (sets.firstOf id).tokens → kind ∈ sets.consumableOf id)
    ?_ ?_ id kind starts
  · intro id kind known
    exact (PredictionSets.not_knows_initial _ (.starts id kind) known).elim
  · intro sets visited regular inside known id kind starts
    apply (knows_visit_iff regular.sized visited (.consumes id kind)).mpr
    rcases (knows_visit_iff regular.sized visited (.starts id kind)).mp starts with
      old | ⟨visit, entailed⟩
    · exact .inl (known id kind old)
    · refine .inr ⟨visit, ?_⟩
      change kind ∈ (grammar.chainFirst sets (grammar.expr id)).tokens at entailed
      change kind ∈ grammar.chainConsumable sets (grammar.expr id)
      unfold chainFirst at entailed
      unfold chainConsumable
      cases following : (grammar.expr id).next with
      | none =>
          rw [following] at entailed
          exact mem_elementConsumable_of_mem_elementFirst known entailed
      | some next =>
          rw [following, FirstSet.mem_andThen] at entailed
          rw [KindSet.mem_union]
          exact entailed.imp (mem_elementConsumable_of_mem_elementFirst known)
            (fun later => known next kind later.2)

/-! ## Sets of known kinds -/

/-- Every kind in the set is one that an expression asks for. -/
def Knows (grammar : Grammar) (set : KindSet) : Prop := ∀ kind ∈ set, kind ∈ grammar.kinds

theorem Knows.union {first second : KindSet} (known : grammar.Knows first)
    (known' : grammar.Knows second) : grammar.Knows (first ∪ second) :=
  fun kind member => (KindSet.mem_union.mp member).elim (known kind) (known' kind)

theorem knows_empty : grammar.Knows .empty :=
  fun kind member => (KindSet.not_mem_empty kind member).elim

theorem knows_firstOf : grammar.Knows (grammar.predict.firstOf id).tokens :=
  fun kind member => ((round_predict grammar).1.sensible (.starts id kind) member).2

theorem knows_consumableOf : grammar.Knows (grammar.predict.consumableOf id) :=
  fun kind member => ((round_predict grammar).1.sensible (.consumes id kind) member).2

end Reparse.Grammar
