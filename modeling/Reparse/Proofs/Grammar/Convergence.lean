import Mathlib.Data.Finset.Card
import Mathlib.Data.Finset.Prod
import Mathlib.Data.Finset.Sum
import Mathlib.Data.Finset.Option
import Mathlib.Data.Finset.Range
import Reparse.Proofs.Grammar.Construction
import Reparse.Proofs.Grammar.FirstSets

/-!
# The rounds of a prediction converge

A visit adds to the facts about one expression what the sets entail about it.  There are finitely
many facts, so the rounds come to an end within their limit.

Main statements: `predict_induction` and `predict_knows_iff`.
-/

namespace Reparse

/-- What the sets of a prediction can tell about an expression. -/
inductive Fact where
  | starts (id : ExprId) (kind : TokenKind)
  | vanishes (id : ExprId)
  | consumes (id : ExprId) (kind : TokenKind)
  deriving DecidableEq

def Fact.expr : Fact → ExprId
  | .starts id _ => id
  | .vanishes id => id
  | .consumes id _ => id

/-- The facts that a first set and a set of consumable kinds state of an expression. -/
def Fact.StatedBy (first : FirstSet) (consumable : KindSet) : Fact → Prop
  | .starts _ kind => kind ∈ first.tokens
  | .vanishes _ => first.nullable = true
  | .consumes _ kind => kind ∈ consumable

namespace PredictionSets

def Knows (sets : PredictionSets) (fact : Fact) : Prop :=
  fact.StatedBy (sets.firstOf fact.expr) (sets.consumableOf fact.expr)

def Below (lower upper : PredictionSets) : Prop :=
  ∀ fact, lower.Knows fact → upper.Knows fact

/-- The sets are those of the expressions with numbers below the size. -/
structure Sized (sets : PredictionSets) (size : Nat) : Prop where
  first : sets.first.size = size
  consumable : sets.consumable.size = size

theorem Below.refl (sets : PredictionSets) : sets.Below sets := fun _ => id

theorem Below.trans
    {first second third : PredictionSets}
    (lower : first.Below second) (upper : second.Below third) : first.Below third :=
  fun fact known => upper fact (lower fact known)

theorem Below.firstOf
    {lower upper : PredictionSets} (below : lower.Below upper) (id : ExprId) :
    (lower.firstOf id).Below (upper.firstOf id) where
  tokens kind := below (.starts id kind)
  nullable := below (.vanishes id)

theorem Below.consumableOf
    {lower upper : PredictionSets} (below : lower.Below upper) {id : ExprId} {kind : TokenKind}
    (member : kind ∈ lower.consumableOf id) : kind ∈ upper.consumableOf id :=
  below (.consumes id kind) member

theorem not_knows_initial (size : Nat) (fact : Fact) :
    ¬ (PredictionSets.initial size).Knows fact := by
  have first : ∀ id, (PredictionSets.initial size).firstOf id = .empty := by
    intro id
    simp [PredictionSets.initial, PredictionSets.firstOf, Array.getD]
  have consumable : ∀ id, (PredictionSets.initial size).consumableOf id = .empty := by
    intro id
    simp [PredictionSets.initial, PredictionSets.consumableOf, Array.getD]
  cases fact <;> simp [Knows, Fact.StatedBy, first, consumable]

theorem sized_initial (size : Nat) : (PredictionSets.initial size).Sized size := by
  constructor <;> simp [PredictionSets.initial]

theorem Sized.grow
    {sets : PredictionSets} {size : Nat} (sized : sets.Sized size) (id : ExprId)
    (first : FirstSet) (consumable : KindSet) : (sets.grow id first consumable).Sized size := by
  constructor
  · simpa [PredictionSets.grow] using sized.first
  · simpa [PredictionSets.grow] using sized.consumable

theorem firstOf_grow
    {sets : PredictionSets} {size : Nat} (sized : sets.Sized size) (id other : ExprId)
    (first : FirstSet) (consumable : KindSet) :
    (sets.grow id first consumable).firstOf other =
      if id = other ∧ other < size then sets.firstOf other ∪ first else sets.firstOf other := by
  by_cases inside : other < size
  · have exists' : other < sets.first.size := by rw [sized.first]; exact inside
    by_cases same : id = other <;>
      simp [PredictionSets.grow, PredictionSets.firstOf, exists', inside, same,
        Array.getElem_modify]
  · have outside : ¬ other < sets.first.size := by rw [sized.first]; exact inside
    simp [PredictionSets.grow, PredictionSets.firstOf, outside, inside]

theorem consumableOf_grow
    {sets : PredictionSets} {size : Nat} (sized : sets.Sized size) (id other : ExprId)
    (first : FirstSet) (consumable : KindSet) :
    (sets.grow id first consumable).consumableOf other =
      if id = other ∧ other < size then sets.consumableOf other ∪ consumable
      else sets.consumableOf other := by
  by_cases inside : other < size
  · have exists' : other < sets.consumable.size := by rw [sized.consumable]; exact inside
    by_cases same : id = other <;>
      simp [PredictionSets.grow, PredictionSets.consumableOf, exists', inside, same,
        Array.getElem_modify]
  · have outside : ¬ other < sets.consumable.size := by rw [sized.consumable]; exact inside
    simp [PredictionSets.grow, PredictionSets.consumableOf, outside, inside]

theorem Below.antisymm
    {lower upper : PredictionSets} {size : Nat}
    (lowerSized : lower.Sized size) (upperSized : upper.Sized size)
    (below : lower.Below upper) (above : upper.Below lower) : lower = upper := by
  have first : ∀ id, lower.firstOf id = upper.firstOf id := fun id =>
    FirstSet.ext (fun kind => ⟨below (.starts id kind), above (.starts id kind)⟩)
      ⟨below (.vanishes id), above (.vanishes id)⟩
  have consumable : ∀ id, lower.consumableOf id = upper.consumableOf id := fun id =>
    KindSet.ext fun kind => ⟨below (.consumes id kind), above (.consumes id kind)⟩
  obtain ⟨lowerFirst, lowerConsumable⟩ := lower
  obtain ⟨upperFirst, upperConsumable⟩ := upper
  have firstArrays : lowerFirst = upperFirst := by
    apply Array.ext
    · exact lowerSized.first.trans upperSized.first.symm
    · intro id inLower inUpper
      simpa [PredictionSets.firstOf, Array.getD, inLower, inUpper] using first id
  have consumableArrays : lowerConsumable = upperConsumable := by
    apply Array.ext
    · exact lowerSized.consumable.trans upperSized.consumable.symm
    · intro id inLower inUpper
      simpa [PredictionSets.consumableOf, Array.getD, inLower, inUpper] using consumable id
  rw [firstArrays, consumableArrays]

end PredictionSets

namespace Grammar

open PredictionSets (Knows)

variable {grammar : Grammar} {sets lower upper : PredictionSets}

/-- What the sets say about an expression by way of its parts. -/
def Entails (grammar : Grammar) (sets : PredictionSets) (fact : Fact) : Prop :=
  fact.StatedBy (grammar.chainFirst sets (grammar.expr fact.expr))
    (grammar.chainConsumable sets (grammar.expr fact.expr))

theorem elementFirst_below (grammar : Grammar) (below : lower.Below upper) (element : Element) :
    (grammar.elementFirst lower element).Below (grammar.elementFirst upper element) := by
  cases element with
  | token kind => exact .refl _
  | nonTerminal name => exact below.firstOf _
  | empty => exact .refl _
  | optional inner => exact ⟨(below.firstOf inner).tokens, fun _ => rfl⟩
  | alternation branches =>
      constructor
      · intro kind
        simp only [mem_elementFirst_alternation]
        rintro ⟨branch, member, starts⟩
        exact ⟨branch, member, (below.firstOf branch).tokens kind starts⟩
      · simp only [nullable_elementFirst_alternation]
        rintro ⟨branch, member, nullable⟩
        exact ⟨branch, member, (below.firstOf branch).nullable nullable⟩
  | repetition parts =>
      have separator := below.firstOf parts.separator
      have body := (below.firstOf parts.content).andThen separator
      simp only [elementFirst_repetition, repetitionFirst]
      cases parts.leading with
      | prohibited => exact body
      | required => exact separator.andThen body
      | optional => exact (separator.andThen body).union body

theorem chainFirst_below (below : lower.Below upper) (expr : Expr) :
    (grammar.chainFirst lower expr).Below (grammar.chainFirst upper expr) := by
  have own := elementFirst_below grammar below expr.element
  unfold chainFirst
  cases expr.next with
  | none => exact own
  | some next => exact own.andThen (below.firstOf next)

theorem elementConsumable_below (below : lower.Below upper) {element : Element}
    {kind : TokenKind} (member : kind ∈ grammar.elementConsumable lower element) :
    kind ∈ grammar.elementConsumable upper element := by
  cases element with
  | token kind => exact member
  | nonTerminal name => exact below.consumableOf member
  | empty => exact member
  | optional inner => exact (below.firstOf inner).tokens kind member
  | alternation branches =>
      simp only [elementConsumable, KindSet.mem_foldl_union] at member ⊢
      rcases member with none | ⟨branch, isBranch, starts⟩
      · exact .inl none
      · exact .inr ⟨branch, isBranch, (below.firstOf branch).tokens kind starts⟩
  | repetition parts =>
      simp only [elementConsumable, KindSet.mem_union] at member ⊢
      exact member.imp ((below.firstOf parts.content).tokens kind)
        ((below.firstOf parts.separator).tokens kind)

theorem chainConsumable_below (below : lower.Below upper) {expr : Expr}
    {kind : TokenKind} (member : kind ∈ grammar.chainConsumable lower expr) :
    kind ∈ grammar.chainConsumable upper expr := by
  unfold chainConsumable at member ⊢
  cases following : expr.next with
  | none =>
      rw [following] at member
      exact elementConsumable_below below member
  | some next =>
      simp only [following, KindSet.mem_union] at member ⊢
      exact member.imp (elementConsumable_below below) below.consumableOf

theorem Entails.mono
    {fact : Fact} (below : lower.Below upper) (entailed : grammar.Entails lower fact) :
    grammar.Entails upper fact := by
  cases fact with
  | starts id kind => exact (chainFirst_below below _).tokens kind entailed
  | vanishes id => exact (chainFirst_below below _).nullable entailed
  | consumes id kind => exact chainConsumable_below below entailed

theorem sized_visit (sized : sets.Sized grammar.exprs.size) (id : ExprId) :
    (grammar.visit sets id).Sized grammar.exprs.size :=
  sized.grow ..

/-- A visit adds what the sets entail about the visited expression. -/
theorem knows_visit_iff (sized : sets.Sized grammar.exprs.size) (id : ExprId) (fact : Fact) :
    (grammar.visit sets id).Knows fact ↔
      sets.Knows fact ∨
        (id = fact.expr ∧ fact.expr < grammar.exprs.size) ∧ grammar.Entails sets fact := by
  by_cases visited : id = fact.expr ∧ fact.expr < grammar.exprs.size
  · obtain ⟨rfl, inside⟩ := visited
    cases fact <;>
      simp_all [visit, Knows, Entails, Fact.StatedBy, Fact.expr,
        PredictionSets.firstOf_grow sized, PredictionSets.consumableOf_grow sized]
  · simp [visit, Knows, PredictionSets.firstOf_grow sized,
      PredictionSets.consumableOf_grow sized, visited]

theorem below_visit (sized : sets.Sized grammar.exprs.size) (id : ExprId) :
    sets.Below (grammar.visit sets id) :=
  fun fact known => (knows_visit_iff sized id fact).mpr (.inl known)

theorem below_visits (sized : sets.Sized grammar.exprs.size) (ids : List ExprId) :
    (ids.foldl grammar.visit sets).Sized grammar.exprs.size ∧
      sets.Below (ids.foldl grammar.visit sets) := by
  induction ids generalizing sets with
  | nil => exact ⟨sized, .refl _⟩
  | cons id ids induction =>
      obtain ⟨restSized, rest⟩ := induction (sized_visit sized id)
      exact ⟨restSized, (below_visit sized id).trans rest⟩

theorem visit_eq_of_visits_eq (sized : sets.Sized grammar.exprs.size) {ids : List ExprId}
    (unchanged : ids.foldl grammar.visit sets = sets) :
    ∀ id ∈ ids, grammar.visit sets id = sets := by
  induction ids with
  | nil => simp
  | cons id ids induction =>
      have visitedSized := sized_visit sized id
      have first : grammar.visit sets id = sets := by
        have back := (below_visits visitedSized ids).2
        rw [List.foldl_cons] at unchanged
        rw [unchanged] at back
        exact PredictionSets.Below.antisymm visitedSized sized back (below_visit sized id)
      rw [List.foldl_cons, first] at unchanged
      intro other member
      rcases List.mem_cons.mp member with rfl | later
      · exact first
      · exact induction unchanged other later

/-- The token kinds that expressions of the grammar ask for. -/
def kinds (grammar : Grammar) : Finset TokenKind :=
  ((List.range grammar.exprs.size).filterMap fun id =>
    match (grammar.expr id).element with
    | .token kind => some kind
    | _ => none).toFinset

theorem card_kinds_le (grammar : Grammar) : grammar.kinds.card ≤ grammar.exprs.size := by
  calc
    grammar.kinds.card ≤ _ := List.toFinset_card_le _
    _ ≤ (List.range grammar.exprs.size).length := List.length_filterMap_le _ _
    _ = grammar.exprs.size := List.length_range

theorem mem_kinds {id : ExprId} {kind : TokenKind} (inside : id < grammar.exprs.size)
    (named : (grammar.expr id).element = .token kind) : kind ∈ grammar.kinds := by
  simp only [kinds, List.mem_toFinset, List.mem_filterMap, List.mem_range]
  exact ⟨id, inside, by rw [named]⟩

/-- A fact that can come up: it speaks about an expression and, if about a kind, about one that an
expression asks for. -/
def Sensible (grammar : Grammar) : Fact → Prop
  | .starts id kind => id < grammar.exprs.size ∧ kind ∈ grammar.kinds
  | .vanishes id => id < grammar.exprs.size
  | .consumes id kind => id < grammar.exprs.size ∧ kind ∈ grammar.kinds

def sensibleFacts (grammar : Grammar) : Finset Fact :=
  (Finset.range grammar.exprs.size ×ˢ
      (grammar.kinds.disjSum (Finset.insertNone grammar.kinds))).image fun (id, choice) =>
    match choice with
    | .inl kind => .starts id kind
    | .inr none => .vanishes id
    | .inr (some kind) => .consumes id kind

theorem mem_sensibleFacts {fact : Fact} (sensible : grammar.Sensible fact) :
    fact ∈ grammar.sensibleFacts := by
  simp only [sensibleFacts, Finset.mem_image, Finset.mem_product, Finset.mem_range, Prod.exists]
  cases fact with
  | starts id kind =>
      exact ⟨id, .inl kind, ⟨sensible.1, Finset.inl_mem_disjSum.mpr sensible.2⟩, rfl⟩
  | vanishes id =>
      exact ⟨id, .inr none, ⟨sensible, by simp⟩, rfl⟩
  | consumes id kind =>
      exact ⟨id, .inr (some kind), ⟨sensible.1, by simpa using sensible.2⟩, rfl⟩

theorem card_sensibleFacts_lt (grammar : Grammar) :
    grammar.sensibleFacts.card < grammar.roundLimit := by
  have choices : grammar.kinds.card + (grammar.kinds.card + 1) ≤ 2 * grammar.exprs.size + 1 := by
    have := card_kinds_le grammar
    omega
  have facts : grammar.sensibleFacts.card ≤
      grammar.exprs.size * (grammar.kinds.card + (grammar.kinds.card + 1)) := by
    refine Finset.card_image_le.trans (le_of_eq ?_)
    simp [Finset.card_product, Finset.card_disjSum, Finset.card_insertNone]
  calc
    grammar.sensibleFacts.card ≤ _ := facts
    _ ≤ grammar.exprs.size * (2 * grammar.exprs.size + 1) := Nat.mul_le_mul_left _ choices
    _ < grammar.roundLimit := Nat.lt_succ_self _

theorem mem_kinds_of_mem_elementFirst
    (known : ∀ id kind, kind ∈ (sets.firstOf id).tokens → kind ∈ grammar.kinds)
    {id : ExprId} (inside : id < grammar.exprs.size) {kind : TokenKind}
    (member : kind ∈ (grammar.elementFirst sets (grammar.expr id).element).tokens) :
    kind ∈ grammar.kinds := by
  cases shape : (grammar.expr id).element with
  | token own =>
      have same : kind = own := by simpa [shape] using member
      exact mem_kinds inside (same ▸ shape)
  | nonTerminal name => exact known _ kind (by simpa [shape] using member)
  | empty => simp [shape] at member
  | optional inner => exact known inner kind (by simpa [shape] using member)
  | alternation branches =>
      obtain ⟨branch, _, starts⟩ : ∃ branch ∈ branches, kind ∈ (sets.firstOf branch).tokens := by
        simpa [shape] using member
      exact known branch kind starts
  | repetition parts =>
      rw [shape, elementFirst_repetition, mem_repetitionFirst, bodyFirst,
        FirstSet.mem_andThen] at member
      rcases member with ⟨_, separator⟩ | ⟨_, content | ⟨_, separator⟩⟩
      · exact known _ kind separator
      · exact known _ kind content
      · exact known _ kind separator

theorem mem_kinds_of_mem_elementConsumable
    (known : ∀ id kind, kind ∈ (sets.firstOf id).tokens → kind ∈ grammar.kinds)
    (consumed : ∀ id kind, kind ∈ sets.consumableOf id → kind ∈ grammar.kinds)
    {id : ExprId} (inside : id < grammar.exprs.size) {kind : TokenKind}
    (member : kind ∈ grammar.elementConsumable sets (grammar.expr id).element) :
    kind ∈ grammar.kinds := by
  cases shape : (grammar.expr id).element with
  | token own =>
      have same : kind = own := by simpa [shape, elementConsumable] using member
      exact mem_kinds inside (same ▸ shape)
  | nonTerminal name => exact consumed _ kind (by simpa [shape, elementConsumable] using member)
  | empty => simp [shape, elementConsumable] at member
  | optional inner => exact known inner kind (by simpa [shape, elementConsumable] using member)
  | alternation branches =>
      obtain ⟨branch, _, starts⟩ : ∃ branch ∈ branches, kind ∈ (sets.firstOf branch).tokens := by
        simpa [shape, elementConsumable, KindSet.mem_foldl_union] using member
      exact known branch kind starts
  | repetition parts =>
      rw [shape, elementConsumable, KindSet.mem_union] at member
      exact member.elim (known _ kind) (known _ kind)

theorem Entails.sensible
    (sensible : ∀ fact, sets.Knows fact → grammar.Sensible fact)
    {fact : Fact} (inside : fact.expr < grammar.exprs.size)
    (entailed : grammar.Entails sets fact) : grammar.Sensible fact := by
  have known : ∀ id kind, kind ∈ (sets.firstOf id).tokens → kind ∈ grammar.kinds :=
    fun id kind member => (sensible (.starts id kind) member).2
  have consumed : ∀ id kind, kind ∈ sets.consumableOf id → kind ∈ grammar.kinds :=
    fun id kind member => (sensible (.consumes id kind) member).2
  cases fact with
  | starts id kind =>
      refine ⟨inside, ?_⟩
      change kind ∈ (grammar.chainFirst sets (grammar.expr id)).tokens at entailed
      unfold chainFirst at entailed
      cases following : (grammar.expr id).next with
      | none =>
          rw [following] at entailed
          exact mem_kinds_of_mem_elementFirst known inside entailed
      | some next =>
          rw [following, FirstSet.mem_andThen] at entailed
          rcases entailed with own | ⟨_, later⟩
          · exact mem_kinds_of_mem_elementFirst known inside own
          · exact known next kind later
  | vanishes id => exact inside
  | consumes id kind =>
      refine ⟨inside, ?_⟩
      change kind ∈ grammar.chainConsumable sets (grammar.expr id) at entailed
      unfold chainConsumable at entailed
      cases following : (grammar.expr id).next with
      | none =>
          rw [following] at entailed
          exact mem_kinds_of_mem_elementConsumable known consumed inside entailed
      | some next =>
          rw [following, KindSet.mem_union] at entailed
          rcases entailed with own | later
          · exact mem_kinds_of_mem_elementConsumable known consumed inside own
          · exact consumed next kind later

/-- Sets that rounds can reach. -/
structure Regular (grammar : Grammar) (sets : PredictionSets) : Prop where
  sized : sets.Sized grammar.exprs.size
  sensible : ∀ fact, sets.Knows fact → grammar.Sensible fact

theorem regular_initial (grammar : Grammar) :
    grammar.Regular (.initial grammar.exprs.size) :=
  ⟨PredictionSets.sized_initial _,
    fun fact known => (PredictionSets.not_knows_initial _ fact known).elim⟩

theorem Regular.visit (regular : grammar.Regular sets) (id : ExprId) :
    grammar.Regular (grammar.visit sets id) where
  sized := sized_visit regular.sized id
  sensible fact known := by
    rcases (knows_visit_iff regular.sized id fact).mp known with old | ⟨⟨_, inside⟩, entailed⟩
    · exact regular.sensible fact old
    · exact entailed.sensible regular.sensible inside

theorem round_induction
    (invariant : PredictionSets → Prop)
    (step : ∀ sets id, grammar.Regular sets → id < grammar.exprs.size →
      invariant sets → invariant (grammar.visit sets id))
    (regular : grammar.Regular sets) (holds : invariant sets) :
    grammar.Regular (grammar.round sets) ∧ invariant (grammar.round sets) := by
  have visits : ∀ ids : List ExprId, (∀ id ∈ ids, id < grammar.exprs.size) →
      ∀ sets, grammar.Regular sets → invariant sets →
        grammar.Regular (ids.foldl grammar.visit sets) ∧
          invariant (ids.foldl grammar.visit sets) := by
    intro ids
    induction ids with
    | nil => exact fun _ sets regular holds => ⟨regular, holds⟩
    | cons id ids induction =>
        intro inside sets regular holds
        exact induction (fun other member => inside other (by simp [member])) _
          (regular.visit id) (step sets id regular (inside id (by simp)) holds)
  exact visits _ (fun id member => by simpa using member) sets regular holds

open Classical in
/-- The facts that sets know. -/
noncomputable def knownFacts (grammar : Grammar) (sets : PredictionSets) : Finset Fact :=
  grammar.sensibleFacts.filter sets.Knows

theorem mem_knownFacts_iff (regular : grammar.Regular sets) {fact : Fact} :
    fact ∈ grammar.knownFacts sets ↔ sets.Knows fact := by
  simp only [knownFacts, Finset.mem_filter, and_iff_right_iff_imp]
  exact fun known => mem_sensibleFacts (regular.sensible fact known)

theorem card_knownFacts_le (grammar : Grammar) (sets : PredictionSets) :
    (grammar.knownFacts sets).card ≤ grammar.sensibleFacts.card :=
  Finset.card_le_card (by classical exact Finset.filter_subset _ _)

/-- A round that changes the sets adds a fact. -/
theorem card_knownFacts_lt_round
    (regular : grammar.Regular sets) (changed : grammar.round sets ≠ sets) :
    (grammar.knownFacts sets).card < (grammar.knownFacts (grammar.round sets)).card := by
  have after := (round_induction (fun _ => True) (fun _ _ _ _ => id) regular trivial).1
  have grown : sets.Below (grammar.round sets) := (below_visits regular.sized _).2
  apply Finset.card_lt_card
  refine ⟨fun fact => ?_, fun back => changed ?_⟩
  · rw [mem_knownFacts_iff regular, mem_knownFacts_iff after]
    exact grown fact
  · refine PredictionSets.Below.antisymm after.sized regular.sized (fun fact known => ?_) grown
    exact (mem_knownFacts_iff regular).mp (back ((mem_knownFacts_iff after).mpr known))

/-- With a round for every fact that is not known yet and one more, the rounds come to an end. -/
theorem converge_spec
    (invariant : PredictionSets → Prop)
    (step : ∀ sets id, grammar.Regular sets → id < grammar.exprs.size →
      invariant sets → invariant (grammar.visit sets id))
    (fuel done : Nat) (regular : grammar.Regular sets) (holds : invariant sets)
    (enough : grammar.sensibleFacts.card < fuel + (grammar.knownFacts sets).card) :
    let found := (grammar.converge fuel done sets).toPredictionSets
    grammar.Regular found ∧ invariant found ∧ grammar.round found = found := by
  have bounded := card_knownFacts_le grammar sets
  induction fuel generalizing done sets with
  | zero => omega
  | succ fuel induction =>
      simp only [converge]
      split
      · rename_i unchanged
        exact ⟨regular, holds, unchanged⟩
      · rename_i changed
        obtain ⟨nextRegular, nextHolds⟩ := round_induction invariant step regular holds
        have more := card_knownFacts_lt_round regular changed
        exact induction (done + 1) nextRegular nextHolds (by omega) (card_knownFacts_le grammar _)

/-- What holds before the first round and is kept by every visit holds of the prediction. -/
theorem predict_induction
    (invariant : PredictionSets → Prop)
    (start : invariant (.initial grammar.exprs.size))
    (step : ∀ sets id, grammar.Regular sets → id < grammar.exprs.size →
      invariant sets → invariant (grammar.visit sets id)) :
    invariant grammar.predict.toPredictionSets :=
  (converge_spec invariant step grammar.roundLimit 0 (regular_initial grammar) start
    (Nat.lt_add_right _ (card_sensibleFacts_lt grammar))).2.1

theorem round_predict (grammar : Grammar) :
    grammar.Regular grammar.predict.toPredictionSets ∧
      grammar.round grammar.predict.toPredictionSets = grammar.predict.toPredictionSets := by
  obtain ⟨regular, _, fixed⟩ := converge_spec (fun _ => True) (fun _ _ _ _ => id)
    grammar.roundLimit 0 (regular_initial grammar) trivial
    (Nat.lt_add_right _ (card_sensibleFacts_lt grammar))
  exact ⟨regular, fixed⟩

/-- The prediction holds exactly the facts that it entails. -/
theorem predict_knows_iff {fact : Fact} (inside : fact.expr < grammar.exprs.size) :
    grammar.predict.Knows fact ↔ grammar.Entails grammar.predict.toPredictionSets fact := by
  constructor
  · have kept : ∀ sets : PredictionSets, ∀ id : ExprId, grammar.Regular sets →
        id < grammar.exprs.size →
        (∀ fact, sets.Knows fact → grammar.Entails sets fact) →
        ∀ fact, (grammar.visit sets id).Knows fact →
          grammar.Entails (grammar.visit sets id) fact := by
      intro sets id regular _ holds fact known
      apply Entails.mono (below_visit regular.sized id)
      rcases (knows_visit_iff regular.sized id fact).mp known with old | ⟨_, entailed⟩
      · exact holds fact old
      · exact entailed
    exact predict_induction (fun sets => ∀ fact, sets.Knows fact → grammar.Entails sets fact)
      (fun fact known => (PredictionSets.not_knows_initial _ fact known).elim) kept fact
  · intro entailed
    obtain ⟨regular, fixed⟩ := round_predict grammar
    have visited := visit_eq_of_visits_eq regular.sized fixed fact.expr
      (List.mem_range.mpr inside)
    have known := (knows_visit_iff regular.sized fact.expr fact).mpr
      (.inr ⟨⟨rfl, inside⟩, entailed⟩)
    rwa [visited] at known

/-- The prediction holds no other facts than those that follow from each other, beginning with
none. -/
theorem knows_induction
    (motive : Fact → Prop)
    (step : ∀ sets : PredictionSets, sets.Below grammar.predict.toPredictionSets →
      (∀ fact, sets.Knows fact → motive fact) →
      ∀ fact, fact.expr < grammar.exprs.size → grammar.Entails sets fact → motive fact)
    {fact : Fact} (known : grammar.predict.Knows fact) : motive fact := by
  refine (predict_induction (fun sets => sets.Below grammar.predict.toPredictionSets ∧
    ∀ fact, sets.Knows fact → motive fact) ⟨?_, ?_⟩ ?_).2 fact known
  · exact fun fact known => (PredictionSets.not_knows_initial _ fact known).elim
  · exact fun fact known => (PredictionSets.not_knows_initial _ fact known).elim
  · rintro sets id regular _ ⟨below, holds⟩
    constructor
    · intro fact known
      rcases (knows_visit_iff regular.sized id fact).mp known with old | ⟨⟨_, inside⟩, entailed⟩
      · exact below fact old
      · exact (predict_knows_iff inside).mpr (entailed.mono below)
    · intro fact known
      rcases (knows_visit_iff regular.sized id fact).mp known with old | ⟨⟨_, inside⟩, entailed⟩
      · exact holds fact old
      · exact step sets below holds fact inside entailed

end Grammar

end Reparse
