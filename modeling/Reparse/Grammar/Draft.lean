import Reparse.Grammar.Prediction

/-!
# Grammars in the making

Token sets can be asked for while a grammar is still being built.  They are computed at the first
question and kept for the ones after it, until an expression is added or a rule is set.
-/

namespace Reparse

/-- A grammar, and its token sets if they are known. -/
structure Draft where
  grammar : Grammar
  sets : Option Prediction
  deriving DecidableEq, Repr

namespace Draft

def initial : Draft := ⟨.initial, none⟩

instance : Inhabited Draft := ⟨initial⟩

def token (draft : Draft) (name : String) : TokenKind × Draft :=
  let (kind, grammar) := draft.grammar.token name
  (kind, { draft with grammar })

def nonTerminal (draft : Draft) (name : String) : NonTerminalId × Draft :=
  let (id, grammar) := draft.grammar.nonTerminal name
  (id, { draft with grammar })

/-- Goes on with the grammar that an operation on expressions made.  Each expression that it added
made the sets outdated. -/
def adopt (draft : Draft) (made : ExprId × Grammar) : ExprId × Draft :=
  let (id, grammar) := made
  (id, ⟨grammar, if grammar.exprs.size = draft.grammar.exprs.size then draft.sets else none⟩)

def tokenExpr (draft : Draft) (kind : TokenKind) : ExprId × Draft :=
  draft.adopt (draft.grammar.tokenExpr kind)

def nonTerminalExpr (draft : Draft) (id : NonTerminalId) : ExprId × Draft :=
  draft.adopt (draft.grammar.nonTerminalExpr id)

def optional (draft : Draft) (inner : ExprId) : ExprId × Draft :=
  draft.adopt (draft.grammar.optional inner)

def alternation (draft : Draft) (branches : List ExprId) : ExprId × Draft :=
  draft.adopt (draft.grammar.alternation branches)

def repetition (draft : Draft) (parts : Repetition) : ExprId × Draft :=
  draft.adopt (draft.grammar.repetition parts)

def seq (draft : Draft) (left right : ExprId) : ExprId × Draft :=
  draft.adopt (draft.grammar.seq left right)

def seqAll (draft : Draft) (items : List ExprId) : ExprId × Draft :=
  draft.adopt (draft.grammar.seqAll items)

def setRule (draft : Draft) (id : NonTerminalId) (rule : ExprId) : Draft :=
  ⟨draft.grammar.setRule id rule, none⟩

def setBlock (draft : Draft) (id : NonTerminalId) (isBlock : Bool) : Draft :=
  { draft with grammar := draft.grammar.setBlock id isBlock }

/-- The token sets, computed unless they are known. -/
def predict (draft : Draft) : Prediction × Draft :=
  match draft.sets with
  | some sets => (sets, draft)
  | none => (draft.grammar.predict, { draft with sets := some draft.grammar.predict })

/-- What the chain can start with. -/
def firstTokens (draft : Draft) (id : ExprId) : FirstSet × Draft :=
  let (sets, draft) := draft.predict
  (sets.firstOf id, draft)

/-- What can be consumed in the chain. -/
def consumableTokens (draft : Draft) (id : ExprId) : KindSet × Draft :=
  let (sets, draft) := draft.predict
  (sets.consumableOf id, draft)

/-- What can be done to a draft, or asked of it. -/
inductive Step where
  | token (name : String)
  | nonTerminal (name : String)
  | tokenExpr (kind : TokenKind)
  | nonTerminalExpr (id : NonTerminalId)
  | optional (inner : ExprId)
  | alternation (branches : List ExprId)
  | repetition (parts : Repetition)
  | seq (left right : ExprId)
  | seqAll (items : List ExprId)
  | setRule (id : NonTerminalId) (rule : ExprId)
  | setBlock (id : NonTerminalId) (isBlock : Bool)
  | firstTokens (id : ExprId)
  | consumableTokens (id : ExprId)
  deriving DecidableEq, Repr

def perform (draft : Draft) : Step → Draft
  | .token name => (draft.token name).2
  | .nonTerminal name => (draft.nonTerminal name).2
  | .tokenExpr kind => (draft.tokenExpr kind).2
  | .nonTerminalExpr id => (draft.nonTerminalExpr id).2
  | .optional inner => (draft.optional inner).2
  | .alternation branches => (draft.alternation branches).2
  | .repetition parts => (draft.repetition parts).2
  | .seq left right => (draft.seq left right).2
  | .seqAll items => (draft.seqAll items).2
  | .setRule id rule => draft.setRule id rule
  | .setBlock id isBlock => draft.setBlock id isBlock
  | .firstTokens id => (draft.firstTokens id).2
  | .consumableTokens id => (draft.consumableTokens id).2

/-- The draft after steps that are made one after another. -/
def performAll (draft : Draft) (steps : List Step) : Draft := steps.foldl perform draft

end Draft

end Reparse
