import Reparse.Proofs.Grammar.LeastSets

/-!
# Chains one after the other

Expressions made later do not occur in older ones, so the enlarged equations have the same least
solution on the old expressions.  The sets of a new chain are made of those of the two it joins.

Main statement: `seq_concatenates`.
-/

namespace Reparse

namespace KindSet

theorem empty_union (set : KindSet) : empty ∪ set = set := ext fun kind => by simp

theorem union_assoc (first second third : KindSet) :
    first ∪ second ∪ third = first ∪ (second ∪ third) :=
  ext fun kind => by simp only [mem_union, or_assoc]

end KindSet

namespace PredictionSets

/-- The sets of the expressions with numbers below the size. -/
def upTo (sets : PredictionSets) (size : Nat) : PredictionSets :=
  ⟨sets.first.take size, sets.consumable.take size⟩

/-- The sets of all expressions with numbers below the size are the same. -/
def AgreeBelow (size : Nat) (sets sets' : PredictionSets) : Prop :=
  ∀ id < size, sets.firstOf id = sets'.firstOf id ∧ sets.consumableOf id = sets'.consumableOf id

theorem AgreeBelow.refl (size : Nat) (sets : PredictionSets) : AgreeBelow size sets sets :=
  fun _ _ => ⟨rfl, rfl⟩

theorem firstOf_upTo (sets : PredictionSets) (size : Nat) (id : ExprId) :
    (sets.upTo size).firstOf id = if id < size then sets.firstOf id else .empty := by
  by_cases below : id < size <;> by_cases inside : id < sets.first.size <;>
    simp [upTo, firstOf, Array.getD, below, inside]

theorem consumableOf_upTo (sets : PredictionSets) (size : Nat) (id : ExprId) :
    (sets.upTo size).consumableOf id = if id < size then sets.consumableOf id else .empty := by
  by_cases below : id < size <;> by_cases inside : id < sets.consumable.size <;>
    simp [upTo, consumableOf, Array.getD, below, inside]

theorem agreeBelow_upTo (sets : PredictionSets) (size : Nat) :
    AgreeBelow size sets (sets.upTo size) := by
  intro id below
  rw [firstOf_upTo, consumableOf_upTo, if_pos below, if_pos below]
  exact ⟨rfl, rfl⟩

theorem knows_of_knows_upTo {sets : PredictionSets} {size : Nat} {fact : Fact}
    (known : (sets.upTo size).Knows fact) : fact.expr < size ∧ sets.Knows fact := by
  rw [Knows, firstOf_upTo, consumableOf_upTo] at known
  split at known
  · rename_i below
    exact ⟨below, known⟩
  · cases fact <;> simp [Fact.StatedBy] at known

end PredictionSets

namespace Grammar

variable {grammar larger : Grammar} {sets sets' : PredictionSets} {id : ExprId}

/-! ## Sets of older expressions -/

/-- The expressions whose sets an element's own are made of. -/
def references (grammar : Grammar) : Element → List ExprId
  | .nonTerminal name => [grammar.ruleOf name]
  | element => element.parts

theorem Ordered.reference_lt (ordered : grammar.Ordered) (inside : id < grammar.exprs.size)
    {reference : ExprId} (member : reference ∈ grammar.references (grammar.expr id).element) :
    reference < grammar.exprs.size := by
  unfold references at member
  split at member
  · rw [List.mem_singleton] at member
    exact member ▸ ordered.rule_lt _
  · exact (ordered.part_lt member).trans inside

theorem Extends.elementFirst_eq (extended : grammar.Extends larger) {element : Element}
    (same : ∀ id ∈ grammar.references element, sets.firstOf id = sets'.firstOf id) :
    larger.elementFirst sets element = grammar.elementFirst sets' element := by
  cases element with
  | token | empty => rfl
  | nonTerminal name =>
      rw [elementFirst_nonTerminal, elementFirst_nonTerminal, extended.ruleOf_eq]
      exact same _ (List.mem_singleton_self _)
  | optional inner => simp only [elementFirst, same inner (List.mem_singleton_self _)]
  | alternation branches =>
      exact List.foldl_ext _ _ _ fun found branch member => by rw [same branch member]
  | repetition parts =>
      have content := same parts.content (by simp [references, Element.parts])
      have separator := same parts.separator (by simp [references, Element.parts])
      simp only [elementFirst_repetition, repetitionFirst, content, separator]

theorem Extends.elementConsumable_eq (extended : grammar.Extends larger) {element : Element}
    (same : ∀ id ∈ grammar.references element,
      sets.firstOf id = sets'.firstOf id ∧ sets.consumableOf id = sets'.consumableOf id) :
    larger.elementConsumable sets element = grammar.elementConsumable sets' element := by
  cases element with
  | token | empty => rfl
  | nonTerminal name =>
      rw [elementConsumable, elementConsumable, extended.ruleOf_eq]
      exact (same _ (List.mem_singleton_self _)).2
  | optional inner => simp only [elementConsumable, (same inner (List.mem_singleton_self _)).1]
  | alternation branches =>
      exact List.foldl_ext _ _ _ fun found branch member => by rw [(same branch member).1]
  | repetition parts =>
      have content := (same parts.content (by simp [references, Element.parts])).1
      have separator := (same parts.separator (by simp [references, Element.parts])).1
      simp only [elementConsumable, content, separator]

theorem Extends.entails_iff (extended : grammar.Extends larger) (ordered : grammar.Ordered)
    (agree : PredictionSets.AgreeBelow grammar.exprs.size sets sets') {fact : Fact}
    (inside : fact.expr < grammar.exprs.size) :
    larger.Entails sets fact ↔ grammar.Entails sets' fact := by
  have same : ∀ id ∈ grammar.references (grammar.expr fact.expr).element,
      sets.firstOf id = sets'.firstOf id ∧ sets.consumableOf id = sets'.consumableOf id :=
    fun id member => agree id (ordered.reference_lt inside member)
  have following : ∀ next, (grammar.expr fact.expr).next = some next →
      sets.firstOf next = sets'.firstOf next ∧ sets.consumableOf next = sets'.consumableOf next :=
    fun next link => agree next ((ordered.next_lt link).trans inside)
  have first : larger.chainFirst sets (grammar.expr fact.expr) =
      grammar.chainFirst sets' (grammar.expr fact.expr) := by
    unfold chainFirst
    rw [extended.elementFirst_eq fun id member => (same id member).1]
    cases link : (grammar.expr fact.expr).next with
    | none => rfl
    | some next => simp only [(following next link).1]
  have consumable : larger.chainConsumable sets (grammar.expr fact.expr) =
      grammar.chainConsumable sets' (grammar.expr fact.expr) := by
    unfold chainConsumable
    rw [extended.elementConsumable_eq same]
    cases link : (grammar.expr fact.expr).next with
    | none => rfl
    | some next => simp only [(following next link).2]
  rw [Entails, extended.expr_eq inside, first, consumable, Entails]

theorem Extends.predict_knows_iff (extended : grammar.Extends larger) (ordered : grammar.Ordered)
    (fact : Fact) (inside : fact.expr < grammar.exprs.size) :
    larger.predict.Knows fact ↔ grammar.predict.Knows fact := by
  constructor
  · intro known
    refine knows_induction (fun fact => fact.expr < grammar.exprs.size →
      grammar.predict.Knows fact) ?_ known inside
    intro sets _ known fact _ entailed inside
    -- Facts about new expressions may be among the premises, but old ones do not need them.
    have below : (sets.upTo grammar.exprs.size).Below grammar.predict.toPredictionSets := by
      intro premise upTo
      obtain ⟨old, premiseKnown⟩ := PredictionSets.knows_of_knows_upTo upTo
      exact known premise premiseKnown old
    have entailedUpTo := (extended.entails_iff ordered (sets.agreeBelow_upTo _) inside).mp entailed
    exact (Grammar.predict_knows_iff inside).mpr (entailedUpTo.mono below)
  · intro known
    refine knows_induction larger.predict.Knows ?_ known
    intro sets _ known fact inside entailed
    have below : sets.Below larger.predict.toPredictionSets := known
    have entailedLarger := (extended.entails_iff ordered (.refl _ sets) inside).mpr entailed
    exact (Grammar.predict_knows_iff (inside.trans_le extended.size_le)).mpr
      (entailedLarger.mono below)

/-- The sets of old expressions are the same in a larger grammar. -/
theorem Extends.agreeBelow_predict (extended : grammar.Extends larger)
    (ordered : grammar.Ordered) :
    PredictionSets.AgreeBelow grammar.exprs.size larger.predict.toPredictionSets
      grammar.predict.toPredictionSets := by
  intro id inside
  constructor
  · exact FirstSet.ext
      (fun kind => extended.predict_knows_iff ordered (.starts id kind) inside)
      (extended.predict_knows_iff ordered (.vanishes id) inside)
  · exact KindSet.ext fun kind =>
      extended.predict_knows_iff ordered (.consumes id kind) inside

/-- The kinds that an element consumes by the prediction of its grammar. -/
def consumedIn (grammar : Grammar) (element : Element) : KindSet :=
  grammar.elementConsumable grammar.predict.toPredictionSets element

theorem Extends.startOf_eq (extended : grammar.Extends larger) (ordered : grammar.Ordered)
    (inside : id < grammar.exprs.size) :
    larger.startOf (grammar.expr id).element = grammar.startOf (grammar.expr id).element :=
  extended.elementFirst_eq fun _ member =>
    (extended.agreeBelow_predict ordered _ (ordered.reference_lt inside member)).1

theorem Extends.consumedIn_eq (extended : grammar.Extends larger) (ordered : grammar.Ordered)
    (inside : id < grammar.exprs.size) :
    larger.consumedIn (grammar.expr id).element = grammar.consumedIn (grammar.expr id).element :=
  extended.elementConsumable_eq fun _ member =>
    extended.agreeBelow_predict ordered _ (ordered.reference_lt inside member)

theorem consumableOf_of_last (inside : id < grammar.exprs.size)
    (last : (grammar.expr id).next = none) :
    grammar.predict.consumableOf id = grammar.consumedIn (grammar.expr id).element := by
  rw [(solves_predict grammar).consumable id inside, chainConsumable, last]
  rfl

theorem consumableOf_of_next {next : ExprId} (inside : id < grammar.exprs.size)
    (following : (grammar.expr id).next = some next) :
    grammar.predict.consumableOf id =
      grammar.consumedIn (grammar.expr id).element ∪ grammar.predict.consumableOf next := by
  rw [(solves_predict grammar).consumable id inside, chainConsumable, following]
  rfl

/-! ## Chains -/

/-- The expressions from one on along the links. -/
inductive Chain (grammar : Grammar) : ExprId → List ExprId → Prop where
  | last {id : ExprId} :
      id < grammar.exprs.size → (grammar.expr id).next = none → Chain grammar id [id]
  | cons {id next : ExprId} {rest : List ExprId} :
      id < grammar.exprs.size → (grammar.expr id).next = some next → Chain grammar next rest →
      Chain grammar id (id :: rest)

def elementsOf (grammar : Grammar) (ids : List ExprId) : List Element :=
  ids.map fun id => (grammar.expr id).element

/-- Numbers fall along a chain, so it has an end. -/
theorem Ordered.exists_chain (ordered : grammar.Ordered) (inside : id < grammar.exprs.size) :
    ∃ ids, grammar.Chain id ids := by
  induction id using Nat.strong_induction_on with
  | _ id induction =>
      cases following : (grammar.expr id).next with
      | none => exact ⟨_, .last inside following⟩
      | some next =>
          have before := ordered.next_lt following
          obtain ⟨rest, chain⟩ := induction next before (before.trans inside)
          exact ⟨_, .cons inside following chain⟩

theorem Chain.unique {ids ids' : List ExprId} (chain : grammar.Chain id ids)
    (chain' : grammar.Chain id ids') : ids = ids' := by
  induction chain generalizing ids' with
  | last _ ends =>
      cases chain' with
      | last => rfl
      | cons _ following => exact nomatch ends.symm.trans following
  | cons _ following _ induction =>
      cases chain' with
      | last _ ends => exact nomatch ends.symm.trans following
      | cons _ following' rest =>
          cases following.symm.trans following'
          rw [induction rest]

theorem Chain.ne_nil {ids : List ExprId} (chain : grammar.Chain id ids) : ids ≠ [] := by
  cases chain <;> exact List.cons_ne_nil _ _

theorem Chain.inside {ids : List ExprId} (chain : grammar.Chain id ids) :
    ∀ member ∈ ids, member < grammar.exprs.size := by
  induction chain with
  | last inside => exact List.forall_mem_singleton.mpr inside
  | cons inside _ _ induction => exact List.forall_mem_cons.mpr ⟨inside, induction⟩

theorem Chain.mono {ids : List ExprId} (chain : grammar.Chain id ids)
    (extended : grammar.Extends larger) : larger.Chain id ids := by
  induction chain with
  | last inside ends =>
      exact .last (inside.trans_le extended.size_le) (by rw [extended.expr_eq inside, ends])
  | cons inside following _ induction =>
      exact .cons (inside.trans_le extended.size_le)
        (by rw [extended.expr_eq inside, following]) induction

theorem Extends.elementsOf_eq (extended : grammar.Extends larger) {ids : List ExprId}
    (inside : ∀ id ∈ ids, id < grammar.exprs.size) :
    larger.elementsOf ids = grammar.elementsOf ids :=
  List.map_congr_left fun id member => by rw [extended.expr_eq (inside id member)]

/-! ## Concatenation -/

/-- All elements but an empty one at the end. -/
def withoutLastEmpty (elements : List Element) : List Element :=
  if elements.getLast? = some .empty then elements.dropLast else elements

theorem withoutLastEmpty_cons (element : Element) {rest : List Element} (nonempty : rest ≠ []) :
    withoutLastEmpty (element :: rest) = element :: withoutLastEmpty rest := by
  obtain ⟨next, rest, rfl⟩ := List.exists_cons_of_ne_nil nonempty
  unfold withoutLastEmpty
  rw [List.getLast?_cons_cons, List.dropLast_cons_cons]
  split <;> rfl

/-- The chain that was made has copies of elements of the left chain and ends in the right chain
itself, its sets are made of theirs, and what was there is as before. -/
structure Concatenates (copied : List Element → List Element) (grammar : Grammar)
    (left right : ExprId) (made : ExprId × Grammar) : Prop where
  extended : grammar.Extends made.2
  tokens_eq : made.2.tokens = grammar.tokens
  chain : ∀ lefts rights, grammar.Chain left lefts → grammar.Chain right rights →
    ∃ copies, made.2.Chain made.1 (copies ++ rights) ∧
      (∀ copy ∈ copies, grammar.exprs.size ≤ copy) ∧
      made.2.elementsOf copies = copied (grammar.elementsOf lefts)
  first : made.2.predict.firstOf made.1 =
    (grammar.predict.firstOf left).andThen (grammar.predict.firstOf right)
  consumable : made.2.predict.consumableOf made.1 =
    grammar.predict.consumableOf left ∪ grammar.predict.consumableOf right
  older : PredictionSets.AgreeBelow grammar.exprs.size made.2.predict.toPredictionSets
    grammar.predict.toPredictionSets

theorem sets_copy (ordered : grammar.Ordered) (extended : grammar.Extends larger)
    (orderedLarger : larger.Ordered) {left next : ExprId} (inside : left < grammar.exprs.size)
    (nextInside : next < larger.exprs.size) :
    let made := larger.push (grammar.expr left).element (some next)
    made.2.predict.firstOf made.1 =
        (grammar.startOf (grammar.expr left).element).andThen (larger.predict.firstOf next) ∧
      made.2.predict.consumableOf made.1 =
        grammar.consumedIn (grammar.expr left).element ∪ larger.predict.consumableOf next := by
  intro made
  have pushed : larger.Extends made.2 := extends_push ..
  have own : made.2.expr made.1 = ⟨(grammar.expr left).element, some next⟩ := expr_pushed ..
  have madeInside : made.1 < made.2.exprs.size := pushed_lt ..
  obtain ⟨first, consumable⟩ := pushed.agreeBelow_predict orderedLarger next nextInside
  constructor
  · rw [firstOf_of_next madeInside (congrArg Expr.next own), own, first,
      (extended.trans pushed).startOf_eq ordered inside]
  · rw [consumableOf_of_next madeInside (congrArg Expr.next own), own, consumable,
      (extended.trans pushed).consumedIn_eq ordered inside]

theorem Chain.push {next : ExprId} {ids : List ExprId} (chain : grammar.Chain next ids)
    (element : Element) :
    (grammar.push element (some next)).2.Chain (grammar.push element (some next)).1
      ((grammar.push element (some next)).1 :: ids) :=
  .cons (pushed_lt ..) (congrArg Expr.next (expr_pushed ..)) (chain.mono (extends_push ..))

theorem elementsOf_push (element : Element) (next : Option ExprId) {ids : List ExprId}
    (inside : ∀ id ∈ ids, id < grammar.exprs.size) :
    (grammar.push element next).2.elementsOf ((grammar.push element next).1 :: ids) =
      element :: grammar.elementsOf ids := by
  rw [← (extends_push grammar element next).elementsOf_eq inside]
  simp only [elementsOf, List.map_cons, expr_pushed]

theorem concatenates_empty {left right : ExprId} (inside : left < grammar.exprs.size)
    (ends : (grammar.expr left).next = none) (empty : (grammar.expr left).element = .empty) :
    Concatenates withoutLastEmpty grammar left right (right, grammar) where
  extended := .refl grammar
  tokens_eq := rfl
  chain lefts rights leftChain rightChain := by
    cases leftChain.unique (.last inside ends)
    refine ⟨[], rightChain, List.forall_mem_nil _, ?_⟩
    simp [elementsOf, empty, withoutLastEmpty]
  first := by
    rw [firstOf_of_last inside ends, empty, startOf, elementFirst_empty, FirstSet.epsilon_andThen]
  consumable := by
    rw [consumableOf_of_last inside ends, empty, consumedIn, elementConsumable,
      KindSet.empty_union]
  older := .refl _ _

/-- The last element of the left chain is copied in front of the right one. -/
theorem concatenates_last (ordered : grammar.Ordered) {left right : ExprId}
    (inside : left < grammar.exprs.size) (rightInside : right < grammar.exprs.size)
    (ends : (grammar.expr left).next = none) (nonempty : (grammar.expr left).element ≠ .empty) :
    Concatenates withoutLastEmpty grammar left right
      (grammar.push (grammar.expr left).element (some right)) := by
  have pushed := extends_push grammar (grammar.expr left).element (some right)
  obtain ⟨first, consumable⟩ := sets_copy ordered (.refl grammar) ordered inside rightInside
  refine ⟨pushed, rfl, ?_, ?_, ?_, pushed.agreeBelow_predict ordered⟩
  · intro lefts rights leftChain rightChain
    cases leftChain.unique (.last inside ends)
    refine ⟨[_], rightChain.push _, List.forall_mem_singleton.mpr (Nat.le_refl _), ?_⟩
    rw [elementsOf_push _ _ (List.forall_mem_nil _)]
    simp [elementsOf, withoutLastEmpty, nonempty]
  · rw [first, firstOf_of_last inside ends]
  · rw [consumable, consumableOf_of_last inside ends]

/-- Another element of the left chain is copied in front of the copy of the rest. -/
theorem Concatenates.push (ordered : grammar.Ordered) {left next right : ExprId}
    {made : ExprId × Grammar} (rest : Concatenates withoutLastEmpty grammar next right made)
    (orderedMade : made.2.Ordered) (madeInside : made.1 < made.2.exprs.size)
    (inside : left < grammar.exprs.size) (following : (grammar.expr left).next = some next) :
    Concatenates withoutLastEmpty grammar left right
      (made.2.push (grammar.expr left).element (some made.1)) := by
  have extended := rest.extended.trans
    (extends_push made.2 (grammar.expr left).element (some made.1))
  obtain ⟨first, consumable⟩ := sets_copy ordered rest.extended orderedMade inside madeInside
  refine ⟨extended, rest.tokens_eq, ?_, ?_, ?_, extended.agreeBelow_predict ordered⟩
  · intro lefts rights leftChain rightChain
    cases leftChain with
    | last _ ends => exact nomatch ends.symm.trans following
    | @cons _ _ others _ following' otherChain =>
        cases following.symm.trans following'
        obtain ⟨copies, chain, new, copied⟩ := rest.chain others rights otherChain rightChain
        have nonempty : grammar.elementsOf others ≠ [] := by
          simpa [elementsOf] using otherChain.ne_nil
        refine ⟨_ :: copies, chain.push _,
          List.forall_mem_cons.mpr ⟨rest.extended.size_le, new⟩, ?_⟩
        rw [elementsOf_push _ _ fun id member => chain.inside id (List.mem_append_left _ member),
          copied]
        exact (withoutLastEmpty_cons _ nonempty).symm
  · rw [first, rest.first, firstOf_of_next inside following, FirstSet.andThen_assoc]
  · rw [consumable, rest.consumable, consumableOf_of_next inside following, KindSet.union_assoc]

theorem Ordered.concatenates_copyChain (ordered : grammar.Ordered) {count : Nat}
    {left right : ExprId} (enough : left < count) (inside : left < grammar.exprs.size)
    (rightInside : right < grammar.exprs.size) :
    Concatenates withoutLastEmpty grammar left right
      (Grammar.copyChain count grammar left right) := by
  -- Numbers fall along the left chain, so the count does not run out before its end.
  induction count generalizing left with
  | zero => exact (Nat.not_lt_zero left enough).elim
  | succ count induction =>
      simp only [Grammar.copyChain]
      split
      · rename_i ends
        split
        · rename_i empty
          exact concatenates_empty inside ends empty
        · rename_i nonempty
          exact concatenates_last ordered inside rightInside ends nonempty
      · rename_i next following
        have before := ordered.next_lt following
        have nextInside := before.trans inside
        obtain ⟨orderedMade, _, madeInside⟩ := ordered.copyChain count nextInside rightInside
        have rest := induction (before.trans_le (Nat.le_of_lt_succ enough)) nextInside
        exact rest.push ordered orderedMade madeInside inside following

theorem Ordered.concatenates_seq (ordered : grammar.Ordered) {left right : ExprId}
    (inside : left < grammar.exprs.size) (rightInside : right < grammar.exprs.size) :
    Concatenates withoutLastEmpty grammar left right (grammar.seq left right) :=
  ordered.concatenates_copyChain inside inside rightInside

/-- The left chain is copied in front of the right one, less an empty element at its end.  How three
chains are grouped makes no difference for their sets. -/
theorem seq_concatenates (built : grammar.Built) :
    (∀ id < grammar.exprs.size,
        (∀ part ∈ (grammar.expr id).element.parts, part < id) ∧
        (∀ next, (grammar.expr id).next = some next → next < id) ∧
        ∃ ids, grammar.Chain id ids) ∧
      (∀ left < grammar.exprs.size, ∀ right < grammar.exprs.size,
        Concatenates withoutLastEmpty grammar left right (grammar.seq left right)) ∧
      ∀ first < grammar.exprs.size, ∀ second < grammar.exprs.size, ∀ third < grammar.exprs.size,
        let front := grammar.seq first second
        let back := grammar.seq second third
        let leftNested := front.2.seq front.1 third
        let rightNested := back.2.seq first back.1
        leftNested.2.predict.firstOf leftNested.1 = rightNested.2.predict.firstOf rightNested.1 ∧
          leftNested.2.predict.consumableOf leftNested.1 =
            rightNested.2.predict.consumableOf rightNested.1 := by
  have ordered := built.ordered
  refine ⟨fun id inside => ⟨fun part => ordered.part_lt, fun next => ordered.next_lt,
    ordered.exists_chain inside⟩, fun left inside right rightInside =>
      ordered.concatenates_seq inside rightInside, ?_⟩
  intro first firstInside second secondInside third thirdInside front back leftNested rightNested
  have front_spec : Concatenates withoutLastEmpty grammar first second front :=
    ordered.concatenates_seq firstInside secondInside
  have back_spec : Concatenates withoutLastEmpty grammar second third back :=
    ordered.concatenates_seq secondInside thirdInside
  obtain ⟨frontOrdered, _, frontInside⟩ :=
    ordered.copyChain grammar.exprs.size firstInside secondInside
  obtain ⟨backOrdered, _, backInside⟩ :=
    ordered.copyChain grammar.exprs.size secondInside thirdInside
  have left_spec : Concatenates withoutLastEmpty front.2 front.1 third leftNested :=
    frontOrdered.concatenates_seq frontInside (thirdInside.trans_le front_spec.extended.size_le)
  have right_spec : Concatenates withoutLastEmpty back.2 first back.1 rightNested :=
    backOrdered.concatenates_seq (firstInside.trans_le back_spec.extended.size_le) backInside
  obtain ⟨thirdFirst, thirdConsumable⟩ := front_spec.older third thirdInside
  obtain ⟨firstFirst, firstConsumable⟩ := back_spec.older first firstInside
  constructor
  · rw [left_spec.first, front_spec.first, thirdFirst, right_spec.first, back_spec.first,
      firstFirst, FirstSet.andThen_assoc]
  · rw [left_spec.consumable, front_spec.consumable, thirdConsumable, right_spec.consumable,
      back_spec.consumable, firstConsumable, KindSet.union_assoc]

/-- Expressions 1 and 3 are tokens, and 2 is the first of them with the empty expression behind. -/
def trailingEmpty : Grammar :=
  let grammar := (initial.token "A").2
  let grammar := (grammar.token "B").2
  let grammar := (grammar.tokenExpr 0).2
  let grammar := (grammar.seq 1 0).2
  (grammar.tokenExpr 1).2

theorem built_trailingEmpty : trailingEmpty.Built := by
  refine .tokenExpr 1 (.seq (.tokenExpr 0 ((Built.initial.token "A").token "B")) ?_ ?_) <;>
    decide +kernel

theorem seq_concatenates_trailingEmpty :
    trailingEmpty.Built ∧ 2 < trailingEmpty.exprs.size ∧ 3 < trailingEmpty.exprs.size ∧
      Concatenates withoutLastEmpty trailingEmpty 2 3 (trailingEmpty.seq 2 3) := by
  have left : 2 < trailingEmpty.exprs.size := by decide +kernel
  have right : 3 < trailingEmpty.exprs.size := by decide +kernel
  exact ⟨built_trailingEmpty, left, right,
    (seq_concatenates built_trailingEmpty).2.1 2 left 3 right⟩

/-- All elements but those of a chain that is a single empty one. -/
def withoutLoneEmpty (elements : List Element) : List Element :=
  if elements = [.empty] then [] else elements

/-- An empty element at the end of a longer chain is not copied either. -/
theorem not_concatenates_withoutLoneEmpty :
    trailingEmpty.Built ∧ 2 < trailingEmpty.exprs.size ∧ 3 < trailingEmpty.exprs.size ∧
      ¬ Concatenates withoutLoneEmpty trailingEmpty 2 3 (trailingEmpty.seq 2 3) := by
  refine ⟨built_trailingEmpty, by decide +kernel, by decide +kernel, fun concatenates => ?_⟩
  have left : trailingEmpty.Chain 2 [2, 0] :=
    .cons (by decide +kernel) (by decide +kernel) (.last (by decide +kernel) (by decide +kernel))
  have right : trailingEmpty.Chain 3 [3] := .last (by decide +kernel) (by decide +kernel)
  obtain ⟨copies, chain, _, copied⟩ := concatenates.chain [2, 0] [3] left right
  have two : copies.length = 2 := by
    have elements : (withoutLoneEmpty (trailingEmpty.elementsOf [2, 0])).length = 2 := by
      decide +kernel
    rwa [← copied, elementsOf, List.length_map] at elements
  have start : (trailingEmpty.seq 2 3).1 = 4 := by decide +kernel
  rw [start] at chain
  have made : (trailingEmpty.seq 2 3).2.Chain 4 [4, 3] :=
    .cons (by decide +kernel) (by decide +kernel) (.last (by decide +kernel) (by decide +kernel))
  have length := congrArg List.length (chain.unique made)
  rw [List.length_append, two] at length
  exact absurd length (by decide)

end Grammar

end Reparse
