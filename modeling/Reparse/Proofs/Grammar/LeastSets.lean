import Reparse.Grammar.Draft
import Reparse.Proofs.Grammar.Prediction

/-!
# The token sets are the least ones

Every expression demands that its sets are made of those of its parts.  Parts may lead back to it,
so many families of sets can meet the demands; the prediction is the least of them.

Main statement: `Draft.predict_isLeast`.
-/

namespace Reparse

namespace Grammar

variable {grammar other : Grammar} {sets : PredictionSets}

/-- The sets of every expression are what its parts make of theirs. -/
structure Solves (grammar : Grammar) (sets : PredictionSets) : Prop where
  first : ∀ id < grammar.exprs.size,
    sets.firstOf id = grammar.chainFirst sets (grammar.expr id)
  consumable : ∀ id < grammar.exprs.size,
    sets.consumableOf id = grammar.chainConsumable sets (grammar.expr id)

/-- The sets solve the equations, and whatever they hold is in every solution. -/
structure IsLeastSolution (grammar : Grammar) (sets : PredictionSets) : Prop where
  solves : grammar.Solves sets
  first : ∀ solution, grammar.Solves solution → ∀ id, (sets.firstOf id).Below (solution.firstOf id)
  consumable : ∀ solution, grammar.Solves solution → ∀ id kind,
    kind ∈ sets.consumableOf id → kind ∈ solution.consumableOf id

/-- The rounds from empty sets come to rest.  The prediction is what they found after some number of
them: the next one changes nothing, each one before changed something, and a larger limit on their
number makes no difference. -/
structure ComesToRest (grammar : Grammar) (prediction : Prediction) : Prop where
  rounds : ∃ count,
    let after := fun count => grammar.round^[count] (.initial grammar.exprs.size)
    prediction = ⟨after count, count + 1⟩ ∧ after (count + 1) = after count ∧
      ∀ earlier < count, after (earlier + 1) ≠ after earlier
  limit : ∀ limit, grammar.roundLimit ≤ limit →
    grammar.converge limit 0 (.initial grammar.exprs.size) = prediction

/-! ## The least solution -/

theorem Solves.knows {fact : Fact} (solves : grammar.Solves sets)
    (inside : fact.expr < grammar.exprs.size) (entailed : grammar.Entails sets fact) :
    sets.Knows fact := by
  rwa [PredictionSets.Knows, solves.first _ inside, solves.consumable _ inside]

theorem solves_predict (grammar : Grammar) : grammar.Solves grammar.predict.toPredictionSets where
  first _ inside := firstOf_eq_chainFirst inside
  consumable _ inside := KindSet.ext fun _ => mem_consumableOf_iff inside

/-- What the prediction knows, every solution knows. -/
theorem Solves.above_predict (solves : grammar.Solves sets) :
    grammar.predict.toPredictionSets.Below sets := by
  intro fact known
  refine knows_induction sets.Knows ?_ known
  intro lower _ knows fact inside entailed
  have below : lower.Below sets := knows
  exact solves.knows inside (entailed.mono below)

theorem isLeastSolution_predict (grammar : Grammar) :
    grammar.IsLeastSolution grammar.predict.toPredictionSets where
  solves := solves_predict grammar
  first _ solves := solves.above_predict.firstOf
  consumable _ solves _ _ := solves.above_predict.consumableOf

/-! ## The rounds -/

theorem exists_last_round (fuel : Nat) (regular : grammar.Regular sets)
    (enough : grammar.sensibleFacts.card < fuel + (grammar.knownFacts sets).card) :
    ∃ count < fuel, grammar.round^[count + 1] sets = grammar.round^[count] sets ∧
      ∀ earlier < count, grammar.round^[earlier + 1] sets ≠ grammar.round^[earlier] sets := by
  have bounded := card_knownFacts_le grammar sets
  induction fuel generalizing sets with
  | zero => omega
  | succ fuel induction =>
      by_cases unchanged : grammar.round sets = sets
      · exact ⟨0, by omega, unchanged, by simp⟩
      · have next := (round_induction (fun _ => True) (fun _ _ _ _ => id) regular trivial).1
        have more := card_knownFacts_lt_round regular unchanged
        obtain ⟨count, below, rest, moved⟩ :=
          induction next (by omega) (card_knownFacts_le grammar _)
        refine ⟨count + 1, by omega, rest, fun earlier before => ?_⟩
        cases earlier with
        | zero => exact unchanged
        | succ earlier => exact moved earlier (by omega)

/-- The rounds end with the first one that changes nothing, whatever the limit is that allows it. -/
theorem converge_eq {count : Nat} (fuel done : Nat)
    (rest : grammar.round^[count + 1] sets = grammar.round^[count] sets)
    (moved : ∀ earlier < count,
      grammar.round^[earlier + 1] sets ≠ grammar.round^[earlier] sets) (enough : count < fuel) :
    grammar.converge fuel done sets = ⟨grammar.round^[count] sets, done + count + 1⟩ := by
  induction fuel generalizing count done sets with
  | zero => omega
  | succ fuel induction =>
      rw [converge]
      cases count with
      | zero =>
          have unchanged : grammar.round sets = sets := rest
          rw [if_pos unchanged]
          rfl
      | succ count =>
          have changed : grammar.round sets ≠ sets := moved 0 (by omega)
          have later : grammar.converge fuel (done + 1) (grammar.round sets) =
              ⟨grammar.round^[count] (grammar.round sets), done + 1 + count + 1⟩ :=
            induction (done + 1) rest (fun earlier before => moved (earlier + 1) (by omega))
              (by omega)
          rw [if_neg changed, later, Nat.add_right_comm done, Nat.add_assoc done]
          rfl

theorem comesToRest_predict (grammar : Grammar) : grammar.ComesToRest grammar.predict := by
  obtain ⟨count, below, rest, moved⟩ := exists_last_round grammar.roundLimit
    (regular_initial grammar) (Nat.lt_add_right _ (card_sensibleFacts_lt grammar))
  have limited : ∀ limit, grammar.roundLimit ≤ limit →
      grammar.converge limit 0 (.initial grammar.exprs.size) =
        ⟨grammar.round^[count] (.initial grammar.exprs.size), count + 1⟩ := by
    intro limit le
    rw [converge_eq limit 0 rest moved (below.trans_le le), Nat.zero_add]
  have found := limited grammar.roundLimit (Nat.le_refl _)
  exact ⟨⟨count, found, rest, moved⟩, fun limit le => (limited limit le).trans found.symm⟩

/-! ## What the prediction depends on -/

theorem predict_congr (size : other.exprs.size = grammar.exprs.size)
    (exprs : ∀ id, other.expr id = grammar.expr id)
    (rules : ∀ name, other.ruleOf name = grammar.ruleOf name) :
    other.predict = grammar.predict := by
  have elementFirst : other.elementFirst = grammar.elementFirst := by
    funext sets element
    cases element with
    | nonTerminal name => simp only [Grammar.elementFirst, rules]
    | _ => rfl
  have elementConsumable : other.elementConsumable = grammar.elementConsumable := by
    funext sets element
    cases element with
    | nonTerminal name => simp only [Grammar.elementConsumable, rules]
    | _ => rfl
  have visit : other.visit = grammar.visit := by
    funext sets id
    simp only [Grammar.visit, chainFirst, chainConsumable, exprs, elementFirst, elementConsumable]
  have round : other.round = grammar.round := by
    funext sets
    simp only [Grammar.round, size, visit]
  have converge : ∀ fuel done sets,
      other.converge fuel done sets = grammar.converge fuel done sets := by
    intro fuel
    induction fuel with
    | zero => exact fun _ _ => rfl
    | succ fuel induction =>
        intro done sets
        simp only [Grammar.converge, round, induction]
  simp only [predict, roundLimit, size, converge]

theorem Extends.predict_eq (extended : Extends grammar other)
    (size : other.exprs.size = grammar.exprs.size) : other.predict = grammar.predict := by
  refine predict_congr size (fun id => ?_) extended.ruleOf_eq
  by_cases inside : id < grammar.exprs.size
  · exact extended.expr_eq inside
  · have outside : grammar.exprs.size ≤ id := Nat.le_of_not_lt inside
    rw [expr_of_size_le outside, expr_of_size_le (size.trans_le outside)]

theorem extends_copyChain (count : Nat) (grammar : Grammar) (left right : ExprId) :
    Extends grammar (copyChain count grammar left right).2 := by
  induction count generalizing left with
  | zero => exact .refl grammar
  | succ count induction =>
      simp only [copyChain]
      split
      · split
        · exact .refl grammar
        · exact extends_push ..
      · rename_i next _
        exact (induction next).trans (extends_push ..)

theorem extends_seqAll (grammar : Grammar) (items : List ExprId) :
    Extends grammar (grammar.seqAll items).2 := by
  unfold seqAll
  split
  · exact .refl grammar
  · rename_i last others _
    refine List.foldlRecOn (motive := fun made : ExprId × Grammar => Extends grammar made.2) others
      _ (.refl grammar) ?_
    intro made extended item _
    exact extended.trans (extends_copyChain ..)

theorem ruleOf_nonTerminal (grammar : Grammar) (name : String) (id : NonTerminalId) :
    (grammar.nonTerminal name).2.ruleOf id = grammar.ruleOf id := by
  unfold nonTerminal
  split
  · rfl
  · -- A name without a rule is read as one whose rule is the empty expression.
    simp only [ruleOf, nonTerminalOf, Array.getD_eq_getD_getElem?, Array.getElem?_push]
    split
    · rename_i last
      rw [Array.getElem?_eq_none (by omega)]
      rfl
    · rfl

theorem ruleOf_setBlock (grammar : Grammar) (name : NonTerminalId) (isBlock : Bool)
    (id : NonTerminalId) : (grammar.setBlock name isBlock).ruleOf id = grammar.ruleOf id := by
  simp only [ruleOf, nonTerminalOf, setBlock, Array.getD_eq_getD_getElem?, Array.getElem?_modify]
  split
  · cases grammar.nonTerminals[id]? <;> rfl
  · rfl

end Grammar

namespace Draft

variable {draft : Draft}

/-- The sets that the draft keeps are those of its grammar. -/
def Current (draft : Draft) : Prop := ∀ sets, draft.sets = some sets → sets = draft.grammar.predict

namespace Current

theorem predict_fst (current : draft.Current) : draft.predict.1 = draft.grammar.predict := by
  unfold Draft.predict
  split
  · rename_i sets kept
    exact current sets kept
  · rfl

theorem current_predict (current : draft.Current) : draft.predict.2.Current := by
  unfold Draft.predict
  split
  · exact current
  · rintro sets ⟨⟩
    rfl

theorem current_of_predict_eq {grammar : Grammar} (current : draft.Current)
    (same : grammar.predict = draft.grammar.predict) : Current { draft with grammar } :=
  fun sets kept => (current sets kept).trans same.symm

/-- If no expression was added the sets are kept, and otherwise there are none. -/
theorem current_adopt {made : ExprId × Grammar} (current : draft.Current)
    (extended : draft.grammar.Extends made.2) : (draft.adopt made).2.Current := by
  intro sets kept
  by_cases size : made.2.exprs.size = draft.grammar.exprs.size
  · have before : draft.sets = some sets := by simpa [adopt, size] using kept
    exact (current sets before).trans (extended.predict_eq size).symm
  · simp [adopt, size] at kept

theorem current_perform (current : draft.Current) (step : Step) :
    (draft.perform step).Current := by
  cases step with
  | token name =>
      have same : (draft.grammar.token name).2.predict = draft.grammar.predict := by
        unfold Grammar.token
        split
        · rfl
        · exact Grammar.predict_congr rfl (fun _ => rfl) (fun _ => rfl)
      exact current.current_of_predict_eq same
  | nonTerminal name =>
      have exprs : (draft.grammar.nonTerminal name).2.exprs = draft.grammar.exprs := by
        unfold Grammar.nonTerminal
        split <;> rfl
      exact current.current_of_predict_eq (Grammar.predict_congr (congrArg Array.size exprs)
        (fun id => congrArg (·.getD id default) exprs)
        (Grammar.ruleOf_nonTerminal draft.grammar name))
  | tokenExpr | nonTerminalExpr | optional | alternation | repetition =>
      exact current.current_adopt (Grammar.extends_push ..)
  | seq left right => exact current.current_adopt (Grammar.extends_copyChain ..)
  | seqAll items => exact current.current_adopt (Grammar.extends_seqAll ..)
  | setRule id rule =>
      rintro sets ⟨⟩
  | setBlock id isBlock =>
      exact current.current_of_predict_eq (Grammar.predict_congr rfl (fun _ => rfl)
        (Grammar.ruleOf_setBlock draft.grammar id isBlock))
  | firstTokens | consumableTokens => exact current.current_predict

end Current

theorem current_performAll (steps : List Step) : (initial.performAll steps).Current := by
  refine List.foldlRecOn (motive := Current) steps _ ?_ fun draft current step _ =>
    current.current_perform step
  rintro sets ⟨⟩

/-- Whatever was asked between the steps, the sets that are kept are those of the grammar. -/
theorem predict_isLeast (steps : List Step) :
    let draft := initial.performAll steps
    (∀ kept, draft.sets = some kept → kept = draft.grammar.predict) ∧
      draft.grammar.ComesToRest draft.predict.1 ∧
      ∃ sets, draft.grammar.IsLeastSolution sets ∧
        ∀ id, (draft.firstTokens id).1 = sets.firstOf id ∧
          (draft.consumableTokens id).1 = sets.consumableOf id := by
  intro draft
  have current : draft.Current := current_performAll steps
  have answered : draft.predict.1 = draft.grammar.predict := current.predict_fst
  refine ⟨current, ?_, draft.grammar.predict.toPredictionSets,
    Grammar.isLeastSolution_predict _, fun id => ?_⟩
  · rw [answered]
    exact Grammar.comesToRest_predict _
  · rw [← answered]
    exact ⟨rfl, rfl⟩

def leftRecursiveLists : Draft :=
  initial.performAll
    [.nonTerminal "list", .token "x", .token "y", .tokenExpr 0, .tokenExpr 1, .nonTerminalExpr 0,
      .seq 3 1, .alternation [4, 2], .setRule 0 5]

example : (leftRecursiveLists.firstTokens 3).1 = .ofKind 1 ∧
    (leftRecursiveLists.consumableTokens 4).1 = .ofList [0, 1] := by
  decide +kernel

end Draft

end Reparse
