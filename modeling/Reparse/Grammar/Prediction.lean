import Reparse.Grammar.Basic

/-!
# Prediction

For every expression the prediction of a grammar holds the kinds that can start its chain, whether
the chain can match nothing, and the kinds that can be consumed in it.  The sets are grown in rounds
from empty ones until a round changes nothing.
-/

namespace Reparse

/-- The kinds that can start a match; `nullable` stands for the empty match. -/
structure FirstSet where
  tokens : KindSet
  nullable : Bool
  deriving DecidableEq, Repr

namespace FirstSet

def empty : FirstSet := ⟨.empty, false⟩

instance : Inhabited FirstSet := ⟨empty⟩

def ofKind (kind : TokenKind) : FirstSet := ⟨.singleton kind, false⟩

def epsilon : FirstSet := ⟨.empty, true⟩

def union (first second : FirstSet) : FirstSet :=
  ⟨first.tokens ∪ second.tokens, first.nullable || second.nullable⟩

instance : Union FirstSet := ⟨union⟩

/-- The first set of one thing followed by another. -/
def andThen (first second : FirstSet) : FirstSet :=
  if first.nullable then ⟨first.tokens ∪ second.tokens, second.nullable⟩ else first

end FirstSet

/-- For every expression, what its chain can start with and what it can consume. -/
structure PredictionSets where
  first : Array FirstSet
  consumable : Array KindSet
  deriving DecidableEq, Repr, Inhabited

namespace PredictionSets

def firstOf (sets : PredictionSets) (id : ExprId) : FirstSet := sets.first.getD id .empty

def consumableOf (sets : PredictionSets) (id : ExprId) : KindSet :=
  sets.consumable.getD id .empty

def initial (size : Nat) : PredictionSets :=
  ⟨Array.replicate size .empty, Array.replicate size .empty⟩

def grow (sets : PredictionSets) (id : ExprId) (first : FirstSet) (consumable : KindSet) :
    PredictionSets :=
  ⟨sets.first.modify id (· ∪ first), sets.consumable.modify id (· ∪ consumable)⟩

end PredictionSets

structure Prediction extends PredictionSets where
  /-- Number of rounds, with the last one, which changed nothing. -/
  rounds : Nat
  deriving DecidableEq, Repr, Inhabited

namespace Grammar

def repetitionFirst (sets : PredictionSets) (parts : Repetition) : FirstSet :=
  let separator := sets.firstOf parts.separator
  let body := (sets.firstOf parts.content).andThen separator
  match parts.leading with
  | .prohibited => body
  | .required => separator.andThen body
  | .optional => separator.andThen body ∪ body

def elementFirst (grammar : Grammar) (sets : PredictionSets) : Element → FirstSet
  | .token kind => .ofKind kind
  | .nonTerminal id => sets.firstOf (grammar.ruleOf id)
  | .empty => .epsilon
  | .optional inner => { sets.firstOf inner with nullable := true }
  | .alternation branches =>
      branches.foldl (fun found branch => found ∪ sets.firstOf branch) .empty
  | .repetition parts => repetitionFirst sets parts

/-- What a chain can start with, by the sets of its parts. -/
def chainFirst (grammar : Grammar) (sets : PredictionSets) (expr : Expr) : FirstSet :=
  let own := grammar.elementFirst sets expr.element
  match expr.next with
  | none => own
  | some next => own.andThen (sets.firstOf next)

/-- What one element can consume.  A non-terminal consumes what its rule does; below the other
elements only the kinds that start their parts count. -/
def elementConsumable (grammar : Grammar) (sets : PredictionSets) : Element → KindSet
  | .token kind => .singleton kind
  | .nonTerminal id => sets.consumableOf (grammar.ruleOf id)
  | .empty => .empty
  | .optional inner => (sets.firstOf inner).tokens
  | .alternation branches =>
      branches.foldl (fun found branch => found ∪ (sets.firstOf branch).tokens) .empty
  | .repetition parts => (sets.firstOf parts.content).tokens ∪ (sets.firstOf parts.separator).tokens

/-- What a chain can consume, by the sets of its parts. -/
def chainConsumable (grammar : Grammar) (sets : PredictionSets) (expr : Expr) : KindSet :=
  let own := grammar.elementConsumable sets expr.element
  match expr.next with
  | none => own
  | some next => own ∪ sets.consumableOf next

def visit (grammar : Grammar) (sets : PredictionSets) (id : ExprId) : PredictionSets :=
  let expr := grammar.expr id
  sets.grow id (grammar.chainFirst sets expr) (grammar.chainConsumable sets expr)

def round (grammar : Grammar) (sets : PredictionSets) : PredictionSets :=
  (List.range grammar.exprs.size).foldl grammar.visit sets

/-- Repeats rounds, at most `fuel` of them, until one changes nothing. -/
def converge (grammar : Grammar) : Nat → Nat → PredictionSets → Prediction
  | 0, done, sets => ⟨sets, done⟩
  | fuel + 1, done, sets =>
      let next := grammar.round sets
      if next = sets then ⟨sets, done + 1⟩ else grammar.converge fuel (done + 1) next

/-- The sets of an expression hold no other kinds than those of the grammar's token expressions, so
each can grow a bounded number of times, and so can all of them together. -/
def roundLimit (grammar : Grammar) : Nat :=
  grammar.exprs.size * (2 * grammar.exprs.size + 1) + 1

def predict (grammar : Grammar) : Prediction :=
  grammar.converge grammar.roundLimit 0 (.initial grammar.exprs.size)

end Grammar

end Reparse
