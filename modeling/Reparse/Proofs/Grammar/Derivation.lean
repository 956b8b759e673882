import Reparse.Proofs.Grammar.Prediction

/-!
# Words that a grammar derives

A chain derives the words of its elements one after the other, and a repetition contents with
separators as its policies allow.  What can come directly after an expression depends on the place
where it occurs.
-/

namespace Reparse

/-- What derives words. -/
inductive Phrase where
  | chain (id : ExprId)
  | element (own : Element)
  /-- A repetition from its first content on. -/
  | contents (parts : Repetition)

/-- A place in the rules of a grammar. -/
inductive Place where
  | rule (name : NonTerminalId)
  /-- The rest of the chain after its first element. -/
  | next (place : Place)
  /-- The first element of the chain. -/
  | element (place : Place)
  /-- The chain in the first element, if that is an optional one. -/
  | inner (place : Place)
  | branch (place : Place) (branch : ExprId)
  | content (place : Place)
  | separator (place : Place)

namespace Grammar

/-- The words that a phrase derives. -/
inductive Derives (grammar : Grammar) : Phrase → List TokenKind → Prop where
  | last {id : ExprId} {word : List TokenKind} :
      (grammar.expr id).next = none →
      Derives grammar (.element (grammar.expr id).element) word →
      Derives grammar (.chain id) word
  | cons {id next : ExprId} {first rest : List TokenKind} :
      (grammar.expr id).next = some next →
      Derives grammar (.element (grammar.expr id).element) first →
      Derives grammar (.chain next) rest → Derives grammar (.chain id) (first ++ rest)
  | token {kind : TokenKind} : Derives grammar (.element (.token kind)) [kind]
  | nonTerminal {name : NonTerminalId} {word : List TokenKind} :
      Derives grammar (.chain (grammar.ruleOf name)) word →
      Derives grammar (.element (.nonTerminal name)) word
  | empty : Derives grammar (.element .empty) []
  | optional {inner : ExprId} {word : List TokenKind} :
      Derives grammar (.chain inner) word → Derives grammar (.element (.optional inner)) word
  | optionalAbsent {inner : ExprId} : Derives grammar (.element (.optional inner)) []
  | alternation {branch : ExprId} {branches : List ExprId} {word : List TokenKind} :
      branch ∈ branches → Derives grammar (.chain branch) word →
      Derives grammar (.element (.alternation branches)) word
  | unled {parts : Repetition} {word : List TokenKind} :
      parts.leading ≠ .required → Derives grammar (.contents parts) word →
      Derives grammar (.element (.repetition parts)) word
  | led {parts : Repetition} {separator contents : List TokenKind} :
      parts.leading ≠ .prohibited → Derives grammar (.chain parts.separator) separator →
      Derives grammar (.contents parts) contents →
      Derives grammar (.element (.repetition parts)) (separator ++ contents)
  | content {parts : Repetition} {word : List TokenKind} :
      parts.trailing ≠ .required → Derives grammar (.chain parts.content) word →
      Derives grammar (.contents parts) word
  | trailing {parts : Repetition} {content separator : List TokenKind} :
      parts.trailing ≠ .prohibited → Derives grammar (.chain parts.content) content →
      Derives grammar (.chain parts.separator) separator →
      Derives grammar (.contents parts) (content ++ separator)
  | separated {parts : Repetition} {content separator rest : List TokenKind} :
      Derives grammar (.chain parts.content) content →
      Derives grammar (.chain parts.separator) separator →
      Derives grammar (.contents parts) rest →
      Derives grammar (.contents parts) (content ++ (separator ++ rest))

/-- The chains at the places of the rules that can be reached from a start symbol. -/
inductive Occurs (grammar : Grammar) (start : NonTerminalId) : Place → ExprId → Prop where
  | start : Occurs grammar start (.rule start) (grammar.ruleOf start)
  | rule {place : Place} {id : ExprId} {name : NonTerminalId} :
      Occurs grammar start place id → (grammar.expr id).element = .nonTerminal name →
      Occurs grammar start (.rule name) (grammar.ruleOf name)
  | next {place : Place} {id next : ExprId} :
      Occurs grammar start place id → (grammar.expr id).next = some next →
      Occurs grammar start (.next place) next
  | inner {place : Place} {id inner : ExprId} :
      Occurs grammar start place id → (grammar.expr id).element = .optional inner →
      Occurs grammar start (.inner place) inner
  | branch {place : Place} {id branch : ExprId} {branches : List ExprId} :
      Occurs grammar start place id → (grammar.expr id).element = .alternation branches →
      branch ∈ branches → Occurs grammar start (.branch place branch) branch
  | content {place : Place} {id : ExprId} {parts : Repetition} :
      Occurs grammar start place id → (grammar.expr id).element = .repetition parts →
      Occurs grammar start (.content place) parts.content
  | separator {place : Place} {id : ExprId} {parts : Repetition} :
      Occurs grammar start place id → (grammar.expr id).element = .repetition parts →
      Occurs grammar start (.separator place) parts.separator

/-- The kinds that can come directly after what stands at a place. -/
inductive Follows (grammar : Grammar) (start : NonTerminalId) : Place → TokenKind → Prop where
  | starts {place : Place} {id next : ExprId} {kind : TokenKind} :
      Occurs grammar start place id → (grammar.expr id).next = some next →
      kind ∈ (grammar.predict.firstOf next).tokens → Follows grammar start (.element place) kind
  | vanishes {place : Place} {id next : ExprId} {kind : TokenKind} :
      Occurs grammar start place id → (grammar.expr id).next = some next →
      (grammar.predict.firstOf next).nullable = true → Follows grammar start place kind →
      Follows grammar start (.element place) kind
  | last {place : Place} {id : ExprId} {kind : TokenKind} :
      Occurs grammar start place id → (grammar.expr id).next = none →
      Follows grammar start place kind → Follows grammar start (.element place) kind
  | rule {place : Place} {id : ExprId} {name : NonTerminalId} {kind : TokenKind} :
      Occurs grammar start place id → (grammar.expr id).element = .nonTerminal name →
      Follows grammar start (.element place) kind → Follows grammar start (.rule name) kind
  | next {place : Place} {kind : TokenKind} :
      Follows grammar start place kind → Follows grammar start (.next place) kind
  | inner {place : Place} {kind : TokenKind} :
      Follows grammar start (.element place) kind → Follows grammar start (.inner place) kind
  | branch {place : Place} {branch : ExprId} {kind : TokenKind} :
      Follows grammar start (.element place) kind →
      Follows grammar start (.branch place branch) kind
  /-- A content is followed by a separator. -/
  | contentSeparator {place : Place} {id : ExprId} {parts : Repetition} {kind : TokenKind} :
      Occurs grammar start place id → (grammar.expr id).element = .repetition parts →
      kind ∈ (grammar.predict.firstOf parts.separator).tokens →
      Follows grammar start (.content place) kind
  /-- A content is followed by another one if a separator can match nothing. -/
  | contentContent {place : Place} {id : ExprId} {parts : Repetition} {kind : TokenKind} :
      Occurs grammar start place id → (grammar.expr id).element = .repetition parts →
      (grammar.predict.firstOf parts.separator).nullable = true →
      kind ∈ (grammar.predict.firstOf parts.content).tokens →
      Follows grammar start (.content place) kind
  | contentLast {place : Place} {id : ExprId} {parts : Repetition} {kind : TokenKind} :
      Occurs grammar start place id → (grammar.expr id).element = .repetition parts →
      (parts.trailing = .required →
        (grammar.predict.firstOf parts.separator).nullable = true) →
      Follows grammar start (.element place) kind → Follows grammar start (.content place) kind
  | separatorContent {place : Place} {id : ExprId} {parts : Repetition} {kind : TokenKind} :
      Occurs grammar start place id → (grammar.expr id).element = .repetition parts →
      kind ∈ (grammar.predict.firstOf parts.content).tokens →
      Follows grammar start (.separator place) kind
  | separatorSeparator {place : Place} {id : ExprId} {parts : Repetition} {kind : TokenKind} :
      Occurs grammar start place id → (grammar.expr id).element = .repetition parts →
      (grammar.predict.firstOf parts.content).nullable = true →
      kind ∈ (grammar.predict.firstOf parts.separator).tokens →
      Follows grammar start (.separator place) kind
  | separatorLast {place : Place} {id : ExprId} {parts : Repetition} {kind : TokenKind} :
      Occurs grammar start place id → (grammar.expr id).element = .repetition parts →
      (parts.trailing = .prohibited →
        (grammar.predict.firstOf parts.content).nullable = true) →
      Follows grammar start (.element place) kind → Follows grammar start (.separator place) kind

theorem Occurs.inside
    {grammar : Grammar} {start : NonTerminalId} {place : Place} {id : ExprId}
    (occurs : grammar.Occurs start place id) (ordered : grammar.Ordered) :
    id < grammar.exprs.size := by
  have below : ∀ {id part : ExprId}, part ∈ (grammar.expr id).element.parts →
      id < grammar.exprs.size → part < grammar.exprs.size :=
    fun member inside => (ordered.part_lt member).trans inside
  induction occurs with
  | start => exact ordered.rule_lt _
  | rule => exact ordered.rule_lt _
  | next _ following inside => exact (ordered.next_lt following).trans inside
  | inner _ found inside => exact below (by simp [found, Element.parts]) inside
  | branch _ found member inside => exact below (by simpa [found, Element.parts]) inside
  | content _ found inside | separator _ found inside =>
      exact below (by simp [found, Element.parts]) inside

theorem Occurs.unique
    {grammar : Grammar} {start : NonTerminalId} {place : Place} {id other : ExprId}
    (occurs : grammar.Occurs start place id) (occurs' : grammar.Occurs start place other) :
    id = other := by
  induction occurs generalizing other with
  | start => cases occurs' <;> rfl
  | rule => cases occurs' <;> rfl
  | branch => cases occurs'; rfl
  | next _ following unique =>
      cases occurs' with
      | next occurs' following' =>
          obtain rfl := unique occurs'
          exact Option.some.inj (following.symm.trans following')
  | inner _ found unique =>
      cases occurs' with
      | inner occurs' found' =>
          obtain rfl := unique occurs'
          simpa using found.symm.trans found'
  | content _ found unique =>
      cases occurs' with
      | content occurs' found' =>
          obtain rfl := unique occurs'
          have same := found.symm.trans found'
          simp only [Element.repetition.injEq] at same
          rw [same]
  | separator _ found unique =>
      cases occurs' with
      | separator occurs' found' =>
          obtain rfl := unique occurs'
          have same := found.symm.trans found'
          simp only [Element.repetition.injEq] at same
          rw [same]

/-! ## The empty word -/

/-- An element derives the empty word if it can match nothing, given that its parts do. -/
theorem derives_nil_of_elementFirst {grammar : Grammar} {sets : PredictionSets}
    (known : ∀ id, (sets.firstOf id).nullable = true → grammar.Derives (.chain id) [])
    {element : Element} (nullable : (grammar.elementFirst sets element).nullable = true) :
    grammar.Derives (.element element) [] := by
  cases element with
  | token kind => simp at nullable
  | nonTerminal name => exact .nonTerminal (known _ nullable)
  | empty => exact .empty
  | optional inner => exact .optionalAbsent
  | alternation branches =>
      obtain ⟨branch, member, nullable⟩ := nullable_elementFirst_alternation.mp nullable
      exact .alternation member (known branch nullable)
  | repetition parts =>
      rw [elementFirst_repetition, nullable_repetitionFirst, Bool.and_eq_true] at nullable
      have content := known _ nullable.1
      have separator := known _ nullable.2
      have contents : grammar.Derives (.contents parts) [] := by
        by_cases required : parts.trailing = .required
        · exact .trailing (by simp [required]) content separator
        · exact .content required content
      by_cases required : parts.leading = .required
      · exact .led (by simp [required]) separator contents
      · exact .unled required contents

theorem derives_nil_of_nullable {grammar : Grammar} {id : ExprId}
    (nullable : (grammar.predict.firstOf id).nullable = true) :
    grammar.Derives (.chain id) [] := by
  refine knows_induction
    (fun fact => ∀ id, fact = .vanishes id → grammar.Derives (.chain id) []) ?_
    (show grammar.predict.Knows (.vanishes id) from nullable) id rfl
  rintro sets - known _ - entailed id rfl
  have vanishes : ∀ id, (sets.firstOf id).nullable = true → grammar.Derives (.chain id) [] :=
    fun id nullable => known (.vanishes id) nullable id rfl
  change (grammar.chainFirst sets (grammar.expr id)).nullable = true at entailed
  unfold chainFirst at entailed
  cases following : (grammar.expr id).next with
  | none =>
      rw [following] at entailed
      exact .last following (derives_nil_of_elementFirst vanishes entailed)
  | some next =>
      rw [following, FirstSet.nullable_andThen, Bool.and_eq_true] at entailed
      exact .cons following (derives_nil_of_elementFirst vanishes entailed.1)
        (vanishes next entailed.2)

end Grammar

end Reparse
