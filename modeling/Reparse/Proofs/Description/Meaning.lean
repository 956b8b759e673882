import Reparse.Grammar.Description

/-!
# What a description means

A description says which words a rule derives: lists of token names.  They are read off the nested
expressions as these are written, without a grammar.
-/

namespace Reparse

inductive Reference where
  | token (name : String)
  | nonTerminal (name : String)
  deriving DecidableEq, Repr

namespace RuleExpr

mutual

def references : RuleExpr → List Reference
  | .token name => [.token name]
  | .nonTerminal name => [.nonTerminal name]
  | .empty => []
  | .optional inner => references inner
  | .alternation branches => allReferences branches
  | .sequence items => allReferences items
  | .repetition content none _ _ => references content
  | .repetition content (some separator) _ _ => references content ++ references separator

def allReferences : List RuleExpr → List Reference
  | [] => []
  | item :: rest => references item ++ allReferences rest

end

end RuleExpr

namespace Description

/-- What derives words. -/
inductive Phrase where
  | rule (expr : RuleExpr)
  /-- A repetition from its first content on. -/
  | contents (content separator : RuleExpr) (trailing : Presence)

/-- The rule of a name.  A later rule takes the place of an earlier one. -/
def rule? (description : Description) (name : String) : Option RuleExpr :=
  description.rules.reverse.lookup name

/-- The words that a phrase derives.  A repetition without a separator has the empty one. -/
inductive Derives (description : Description) : Phrase → List String → Prop where
  | token {name : String} : Derives description (.rule (.token name)) [name]
  | nonTerminal {name : String} {rule : RuleExpr} {word : List String} :
      description.rule? name = some rule → Derives description (.rule rule) word →
      Derives description (.rule (.nonTerminal name)) word
  | empty : Derives description (.rule .empty) []
  | optional {inner : RuleExpr} {word : List String} :
      Derives description (.rule inner) word → Derives description (.rule (.optional inner)) word
  | optionalAbsent {inner : RuleExpr} : Derives description (.rule (.optional inner)) []
  | alternation {branch : RuleExpr} {branches : List RuleExpr} {word : List String} :
      branch ∈ branches → Derives description (.rule branch) word →
      Derives description (.rule (.alternation branches)) word
  | sequenceNil : Derives description (.rule (.sequence [])) []
  | sequenceCons {item : RuleExpr} {rest : List RuleExpr} {first others : List String} :
      Derives description (.rule item) first →
      Derives description (.rule (.sequence rest)) others →
      Derives description (.rule (.sequence (item :: rest))) (first ++ others)
  | unled {content : RuleExpr} {separator : Option RuleExpr} {leading trailing : Presence}
      {word : List String} :
      leading ≠ .required →
      Derives description (.contents content (separator.getD .empty) trailing) word →
      Derives description (.rule (.repetition content separator leading trailing)) word
  | led {content : RuleExpr} {separator : Option RuleExpr} {leading trailing : Presence}
      {lead word : List String} :
      leading ≠ .prohibited → Derives description (.rule (separator.getD .empty)) lead →
      Derives description (.contents content (separator.getD .empty) trailing) word →
      Derives description (.rule (.repetition content separator leading trailing)) (lead ++ word)
  | content {content separator : RuleExpr} {trailing : Presence} {word : List String} :
      trailing ≠ .required → Derives description (.rule content) word →
      Derives description (.contents content separator trailing) word
  | trailing {content separator : RuleExpr} {trailing : Presence} {word trail : List String} :
      trailing ≠ .prohibited → Derives description (.rule content) word →
      Derives description (.rule separator) trail →
      Derives description (.contents content separator trailing) (word ++ trail)
  | separated {content separator : RuleExpr} {trailing : Presence}
      {first between rest : List String} :
      Derives description (.rule content) first → Derives description (.rule separator) between →
      Derives description (.contents content separator trailing) rest →
      Derives description (.contents content separator trailing) (first ++ (between ++ rest))

/-- A token is defined by its pattern or as the kind of what no pattern matches, and a non-terminal
by a rule. -/
def Defines (description : Description) : Reference → Prop
  | .token name =>
      (∃ token ∈ description.tokens, token.name = name) ∨ description.fallback = some name
  | .nonTerminal name => (description.rule? name).isSome = true

structure WellFormed (compile : Text → Option Matcher) (description : Description) : Prop where
  tokens : ∀ token ∈ description.tokens, (compile token.pattern).isSome = true
  skip : ∀ pattern, description.skip = some pattern → (compile pattern).isSome = true
  rules : ∀ name rule, description.rule? name = some rule →
    ∀ reference ∈ rule.references, description.Defines reference
  blocks : ∀ name ∈ description.blocks, description.Defines (.nonTerminal name)
  start : description.Defines (.nonTerminal description.start)

end Description

end Reparse
