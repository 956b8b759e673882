import Mathlib.Logic.Relation
import Reparse.Proofs.Grammar.Prediction

/-!
# Left recursion

A non-terminal stands at a leftmost place of a chain if a parser can come to it there before it has
consumed a token.  In a left recursive grammar some non-terminal comes back to itself that way.
-/

namespace Reparse.Grammar

/-- The name stands at a leftmost place of the chain. -/
inductive Leftmost (grammar : Grammar) : ExprId → NonTerminalId → Prop where
  | here {id : ExprId} {name : NonTerminalId} :
      (grammar.expr id).element = .nonTerminal name → Leftmost grammar id name
  | later {id next : ExprId} {name : NonTerminalId} :
      (grammar.expr id).next = some next →
      (grammar.startOf (grammar.expr id).element).nullable = true →
      Leftmost grammar next name → Leftmost grammar id name
  | optional {id inner : ExprId} {name : NonTerminalId} :
      (grammar.expr id).element = .optional inner →
      Leftmost grammar inner name → Leftmost grammar id name
  | branch {id branch : ExprId} {branches : List ExprId} {name : NonTerminalId} :
      (grammar.expr id).element = .alternation branches → branch ∈ branches →
      Leftmost grammar branch name → Leftmost grammar id name
  /-- A content comes first unless a separator has to come before it. -/
  | content {id : ExprId} {parts : Repetition} {name : NonTerminalId} :
      (grammar.expr id).element = .repetition parts →
      (parts.leading = .required →
        (grammar.predict.firstOf parts.separator).nullable = true) →
      Leftmost grammar parts.content name → Leftmost grammar id name
  /-- A separator comes first if it may lead or if the content can match nothing. -/
  | separator {id : ExprId} {parts : Repetition} {name : NonTerminalId} :
      (grammar.expr id).element = .repetition parts →
      (parts.leading ≠ .prohibited ∨
        (grammar.predict.firstOf parts.content).nullable = true) →
      Leftmost grammar parts.separator name → Leftmost grammar id name

/-- The name stands at a leftmost place of the element. -/
def LeftmostOf (grammar : Grammar) (name : NonTerminalId) : Element → Prop
  | .token _ => False
  | .nonTerminal own => name = own
  | .empty => False
  | .optional inner => Leftmost grammar inner name
  | .alternation branches => ∃ branch ∈ branches, Leftmost grammar branch name
  | .repetition parts =>
      parts.leading ≠ .prohibited ∧ Leftmost grammar parts.separator name ∨
        (parts.leading = .required →
          (grammar.predict.firstOf parts.separator).nullable = true) ∧
          (Leftmost grammar parts.content name ∨
            (grammar.predict.firstOf parts.content).nullable = true ∧
              Leftmost grammar parts.separator name)

theorem LeftmostOf.leftmost {grammar : Grammar} {id : ExprId} {name : NonTerminalId}
    (leftmost : grammar.LeftmostOf name (grammar.expr id).element) : Leftmost grammar id name := by
  cases found : (grammar.expr id).element with
  | token | empty => simp [LeftmostOf, found] at leftmost
  | nonTerminal own =>
      simp only [LeftmostOf, found] at leftmost
      subst leftmost
      exact .here found
  | optional inner =>
      simp only [LeftmostOf, found] at leftmost
      exact .optional found leftmost
  | alternation branches =>
      simp only [LeftmostOf, found] at leftmost
      obtain ⟨branch, member, leftmost⟩ := leftmost
      exact .branch found member leftmost
  | repetition parts =>
      simp only [LeftmostOf, found] at leftmost
      rcases leftmost with ⟨allowed, leftmost⟩ | ⟨nullable, leftmost | ⟨passes, leftmost⟩⟩
      · exact .separator found (.inl allowed) leftmost
      · exact .content found nullable leftmost
      · exact .separator found (.inr passes) leftmost

/-- The rule of the first non-terminal has the second one at a leftmost place. -/
def CallsLeft (grammar : Grammar) (caller callee : NonTerminalId) : Prop :=
  Leftmost grammar (grammar.ruleOf caller) callee

/-- Some non-terminal comes back to itself at leftmost places. -/
def LeftRecursive (grammar : Grammar) : Prop :=
  ∃ name, Relation.TransGen grammar.CallsLeft name name

/-- Nothing is left recursive if every rule that is not empty starts with a token. -/
theorem not_leftRecursive_of_tokens {grammar : Grammar}
    (tokens : ∀ name, grammar.expr (grammar.ruleOf name) = ⟨.empty, none⟩ ∨
      ∃ kind, (grammar.expr (grammar.ruleOf name)).element = .token kind) :
    ¬ LeftRecursive grammar := by
  have callsNothing : ∀ caller callee, ¬ CallsLeft grammar caller callee := by
    intro caller callee calls
    have notNullable : ∀ kind, (grammar.startOf (.token kind)).nullable = false := fun _ => rfl
    rcases tokens caller with empty | ⟨kind, token⟩
    · cases calls <;> simp_all
    · cases calls <;> simp_all
  rintro ⟨name, cycle⟩
  obtain ⟨_, _, calls⟩ := Relation.TransGen.tail'_iff.mp cycle
  exact callsNothing _ _ calls

/-! ## Lists in brackets -/

/-- A list is an opening token, lists with commas between them and perhaps one more comma, and a
closing token. -/
def bracketLists : Grammar :=
  let grammar := (initial.token "open").2
  let grammar := (grammar.token "close").2
  let grammar := (grammar.token "comma").2
  let grammar := (grammar.nonTerminal "list").2
  let grammar := (grammar.tokenExpr 0).2
  let grammar := (grammar.tokenExpr 1).2
  let grammar := (grammar.tokenExpr 2).2
  let grammar := (grammar.nonTerminalExpr 0).2
  let grammar := (grammar.repetition ⟨4, 3, .prohibited, .optional⟩).2
  let grammar := (grammar.optional 5).2
  let grammar := (grammar.seq 6 2).2
  let grammar := (grammar.seq 1 7).2
  grammar.setRule 0 8

theorem built_bracketLists : Built bracketLists := by
  have names := (((Built.initial.token "open").token "close").token "comma").nonTerminal "list"
  have tokens := ((names.tokenExpr 0).tokenExpr 1).tokenExpr 2
  refine .setRule (.seq (.seq (.optional (.repetition
    (.nonTerminalExpr tokens ?_) ?_ ?_) ?_) ?_ ?_) ?_ ?_) ?_
  all_goals decide +kernel

theorem exprs_bracketLists :
    bracketLists.exprs =
      #[⟨.empty, none⟩, ⟨.token 0, none⟩, ⟨.token 1, none⟩, ⟨.token 2, none⟩,
        ⟨.nonTerminal 0, none⟩, ⟨.repetition ⟨4, 3, .prohibited, .optional⟩, none⟩,
        ⟨.optional 5, none⟩, ⟨.optional 5, some 2⟩, ⟨.token 0, some 7⟩] := by
  decide +kernel

theorem ruleOf_bracketLists (name : NonTerminalId) :
    bracketLists.ruleOf name = 8 ∨ bracketLists.ruleOf name = 0 := by
  have names : bracketLists.nonTerminals = #[⟨"list", 8, false⟩] := by decide +kernel
  cases name with
  | zero => simp [ruleOf, nonTerminalOf, names]
  | succ name =>
      simp only [ruleOf, nonTerminalOf, names]
      exact .inr rfl

theorem not_leftRecursive_bracketLists : ¬ LeftRecursive bracketLists := by
  apply not_leftRecursive_of_tokens
  intro name
  rcases ruleOf_bracketLists name with own | other
  · exact .inr ⟨0, by simp [own, expr, exprs_bracketLists]⟩
  · exact .inl (by simp [other, expr, exprs_bracketLists])

end Reparse.Grammar
