import Reparse.Grammar.Basic

/-!
# How grammars come about

A grammar is made from the initial one by a few operations, each of which refers only to what is
there already.  `Built` is the family of these grammars.
-/

namespace Reparse

/-- The expressions below an element. -/
def Element.parts : Element → List ExprId
  | .optional inner => [inner]
  | .alternation branches => branches
  | .repetition parts => [parts.content, parts.separator]
  | _ => []

namespace Grammar

/-- The grammars that the operations make.  Expressions and names are used after they were made; the
chains of `seqAll` are put together by `seq`. -/
inductive Built : Grammar → Prop where
  | initial : Built .initial
  | token {grammar : Grammar} (name : String) :
      Built grammar → Built (grammar.token name).2
  | nonTerminal {grammar : Grammar} (name : String) :
      Built grammar → Built (grammar.nonTerminal name).2
  | tokenExpr {grammar : Grammar} (kind : TokenKind) :
      Built grammar → Built (grammar.tokenExpr kind).2
  | nonTerminalExpr {grammar : Grammar} {id : NonTerminalId} :
      Built grammar → id < grammar.nonTerminals.size → Built (grammar.nonTerminalExpr id).2
  | optional {grammar : Grammar} {inner : ExprId} :
      Built grammar → inner < grammar.exprs.size → Built (grammar.optional inner).2
  | alternation {grammar : Grammar} {branches : List ExprId} :
      Built grammar → (∀ branch ∈ branches, branch < grammar.exprs.size) →
      Built (grammar.alternation branches).2
  | repetition {grammar : Grammar} {parts : Repetition} :
      Built grammar → parts.content < grammar.exprs.size →
      parts.separator < grammar.exprs.size → Built (grammar.repetition parts).2
  | seq {grammar : Grammar} {left right : ExprId} :
      Built grammar → left < grammar.exprs.size → right < grammar.exprs.size →
      Built (grammar.seq left right).2
  | setRule {grammar : Grammar} {id : NonTerminalId} {rule : ExprId} :
      Built grammar → rule < grammar.exprs.size → Built (grammar.setRule id rule)
  | setBlock {grammar : Grammar} {id : NonTerminalId} {isBlock : Bool} :
      Built grammar → Built (grammar.setBlock id isBlock)

/-- References go backwards, and names have rules. -/
structure Ordered (grammar : Grammar) : Prop where
  nonempty : 0 < grammar.exprs.size
  part_lt : ∀ {id part : ExprId}, part ∈ (grammar.expr id).element.parts → part < id
  next_lt : ∀ {id next : ExprId}, (grammar.expr id).next = some next → next < id
  rule_lt : ∀ id : NonTerminalId, grammar.ruleOf id < grammar.exprs.size
  name_lt : ∀ {id : ExprId} {name : NonTerminalId},
    (grammar.expr id).element = .nonTerminal name → name < grammar.nonTerminals.size

/-- One grammar has all the expressions of another one, and the same names. -/
structure Extends (grammar larger : Grammar) : Prop where
  size_le : grammar.exprs.size ≤ larger.exprs.size
  expr_eq : ∀ {id : ExprId}, id < grammar.exprs.size → larger.expr id = grammar.expr id
  nonTerminals_eq : larger.nonTerminals = grammar.nonTerminals

theorem Extends.refl (grammar : Grammar) : Extends grammar grammar :=
  ⟨Nat.le_refl _, fun _ => rfl, rfl⟩

theorem Extends.trans
    {first second third : Grammar}
    (lower : Extends first second) (upper : Extends second third) :
    Extends first third where
  size_le := Nat.le_trans lower.size_le upper.size_le
  expr_eq below := by
    rw [upper.expr_eq (Nat.lt_of_lt_of_le below lower.size_le), lower.expr_eq below]
  nonTerminals_eq := by rw [upper.nonTerminals_eq, lower.nonTerminals_eq]

theorem Extends.ruleOf_eq {grammar larger : Grammar} (extended : Extends grammar larger)
    (name : NonTerminalId) : larger.ruleOf name = grammar.ruleOf name := by
  simp only [ruleOf, nonTerminalOf, extended.nonTerminals_eq]

/-- An expression that does not exist is read as the empty one. -/
theorem expr_of_size_le {grammar : Grammar} {id : ExprId}
    (outside : grammar.exprs.size ≤ id) : grammar.expr id = ⟨.empty, none⟩ := by
  have missing : ¬ id < grammar.exprs.size := by lia
  simp [expr, Array.getD, missing]
  rfl

theorem expr_push (grammar : Grammar) (element : Element) (next : Option ExprId) (id : ExprId) :
    (grammar.push element next).2.expr id =
      if id = grammar.exprs.size then ⟨element, next⟩ else grammar.expr id := by
  by_cases last : id = grammar.exprs.size
  · simp [push, expr, last]
  · by_cases inside : id < grammar.exprs.size
    · have larger : id < grammar.exprs.size + 1 := by lia
      simp [push, expr, last, inside, larger, Array.getElem_push_lt]
    · have outside : ¬ id < grammar.exprs.size + 1 := by lia
      simp [push, expr, last, inside, outside]

theorem expr_pushed (grammar : Grammar) (element : Element) (next : Option ExprId) :
    (grammar.push element next).2.expr (grammar.push element next).1 = ⟨element, next⟩ := by
  rw [expr_push]
  exact if_pos rfl

theorem pushed_lt (grammar : Grammar) (element : Element) (next : Option ExprId) :
    (grammar.push element next).1 < (grammar.push element next).2.exprs.size := by
  simp [push]

theorem extends_push (grammar : Grammar) (element : Element) (next : Option ExprId) :
    Extends grammar (grammar.push element next).2 where
  size_le := by simp [push]
  expr_eq below := by
    rw [expr_push, if_neg (by lia)]
  nonTerminals_eq := rfl

namespace Ordered

theorem push
    {grammar : Grammar} {element : Element} {next : Option ExprId}
    (ordered : Ordered grammar)
    (partsExist : ∀ part ∈ element.parts, part < grammar.exprs.size)
    (nextExists : ∀ id, next = some id → id < grammar.exprs.size)
    (nameExists : ∀ name, element = .nonTerminal name → name < grammar.nonTerminals.size) :
    Ordered (grammar.push element next).2 where
  nonempty := by simp [Grammar.push]
  part_lt := by
    intro id part
    rw [expr_push]
    split
    · rename_i last
      subst last
      exact partsExist part
    · exact ordered.part_lt
  next_lt := by
    intro id following
    rw [expr_push]
    split
    · rename_i last
      subst last
      exact nextExists following
    · exact ordered.next_lt
  rule_lt := by
    intro id
    exact Nat.lt_of_lt_of_le (ordered.rule_lt id) (extends_push grammar element next).size_le
  name_lt := by
    intro id name
    rw [expr_push]
    split
    · exact nameExists name
    · exact ordered.name_lt

/-- Copying a chain in front of another one extends the grammar by expressions that refer
backwards. -/
theorem copyChain
    {grammar : Grammar} (ordered : Ordered grammar) (count : Nat) {left right : ExprId}
    (leftExists : left < grammar.exprs.size) (rightExists : right < grammar.exprs.size) :
    Ordered (copyChain count grammar left right).2 ∧
      Extends grammar (Grammar.copyChain count grammar left right).2 ∧
      (Grammar.copyChain count grammar left right).1 <
        (Grammar.copyChain count grammar left right).2.exprs.size := by
  induction count generalizing left with
  | zero => exact ⟨ordered, .refl grammar, rightExists⟩
  | succ count induction =>
      have partsExist : ∀ part ∈ (grammar.expr left).element.parts,
          part < grammar.exprs.size := by
        intro part member
        have := ordered.part_lt member
        lia
      simp only [Grammar.copyChain]
      split
      · split
        · exact ⟨ordered, .refl grammar, rightExists⟩
        · refine ⟨ordered.push partsExist ?_ fun name => ordered.name_lt,
            extends_push .., by simp [Grammar.push]⟩
          rintro id ⟨⟩
          exact rightExists
      · rename_i next following
        have nextExists : next < grammar.exprs.size := by
          have := ordered.next_lt following
          lia
        obtain ⟨restOrdered, extended, restExists⟩ := induction nextExists
        refine ⟨restOrdered.push ?_ ?_ ?_, extended.trans (extends_push ..),
          by simp [Grammar.push]⟩
        · intro part member
          exact Nat.lt_of_lt_of_le (partsExist part member) extended.size_le
        · rintro id ⟨⟩
          exact restExists
        · intro name named
          rw [extended.nonTerminals_eq]
          exact ordered.name_lt named

theorem withNonTerminals
    {grammar : Grammar} (ordered : Ordered grammar) (nonTerminals : Array NonTerminal)
    (more : grammar.nonTerminals.size ≤ nonTerminals.size)
    (rulesExist : ∀ id, (nonTerminals.getD id default).rule < grammar.exprs.size) :
    Ordered { grammar with nonTerminals } where
  nonempty := ordered.nonempty
  part_lt := ordered.part_lt
  next_lt := ordered.next_lt
  rule_lt := rulesExist
  name_lt named := Nat.lt_of_lt_of_le (ordered.name_lt named) more

end Ordered

theorem expr_initial (id : ExprId) : Grammar.initial.expr id = ⟨.empty, none⟩ := by
  cases id with
  | zero => rfl
  | succ id => exact expr_of_size_le (by simp [initial])

theorem ordered_initial : Ordered .initial where
  nonempty := by decide
  part_lt := by simp [expr_initial, Element.parts]
  next_lt := by simp [expr_initial]
  rule_lt := by
    intro id
    simp [ruleOf, nonTerminalOf, initial]
    decide
  name_lt := by simp [expr_initial]

theorem Built.ordered {grammar : Grammar} (built : Built grammar) : Ordered grammar := by
  induction built with
  | initial => exact ordered_initial
  | @token grammar name _ ordered =>
      unfold Grammar.token
      split
      · exact ordered
      · exact ⟨ordered.nonempty, ordered.part_lt, ordered.next_lt, ordered.rule_lt,
          ordered.name_lt⟩
  | @nonTerminal grammar name _ ordered =>
      unfold Grammar.nonTerminal
      split
      · exact ordered
      · refine ordered.withNonTerminals _ (by simp) fun id => ?_
        by_cases last : id = grammar.nonTerminals.size
        · simpa [last, emptyExpr] using ordered.nonempty
        · have rule := ordered.rule_lt id
          by_cases inside : id < grammar.nonTerminals.size
          · have larger : id < grammar.nonTerminals.size + 1 := by lia
            simpa [ruleOf, nonTerminalOf, inside, larger, Array.getElem_push_lt] using rule
          · have outside : ¬ id < grammar.nonTerminals.size + 1 := by lia
            simpa [ruleOf, nonTerminalOf, inside, outside] using rule
  | tokenExpr kind _ ordered =>
      exact ordered.push (by simp [Element.parts]) (by simp) (by simp)
  | nonTerminalExpr _ named ordered =>
      apply ordered.push (by simp [Element.parts]) (by simp)
      rintro name ⟨⟩
      exact named
  | optional _ innerExists ordered =>
      exact ordered.push (by simpa [Element.parts] using innerExists) (by simp) (by simp)
  | alternation _ branchesExist ordered =>
      exact ordered.push (by simpa [Element.parts] using branchesExist) (by simp) (by simp)
  | repetition _ contentExists separatorExists ordered =>
      refine ordered.push ?_ (by simp) (by simp)
      simp [Element.parts, contentExists, separatorExists]
  | seq _ leftExists rightExists ordered =>
      exact (ordered.copyChain _ leftExists rightExists).1
  | @setRule grammar id rule _ ruleExists ordered =>
      refine ordered.withNonTerminals _ (by simp) fun other => ?_
      have rule' := ordered.rule_lt other
      by_cases inside : other < grammar.nonTerminals.size
      · by_cases same : id = other
        · simp [inside, same, Array.getElem_modify, ruleExists]
        · simpa [ruleOf, nonTerminalOf, inside, same, Array.getElem_modify] using rule'
      · simpa [ruleOf, nonTerminalOf, inside] using rule'
  | @setBlock grammar id isBlock _ ordered =>
      refine ordered.withNonTerminals _ (by simp) fun other => ?_
      have rule := ordered.rule_lt other
      by_cases inside : other < grammar.nonTerminals.size
      · by_cases same : id = other
        · simpa [ruleOf, nonTerminalOf, inside, same, Array.getElem_modify] using rule
        · simpa [ruleOf, nonTerminalOf, inside, same, Array.getElem_modify] using rule
      · simpa [ruleOf, nonTerminalOf, inside] using rule

end Grammar

end Reparse
