import Reparse.Pattern.Basic

/-!
# Putting patterns together

Patterns are built by functions that keep them simple, so that what is written in different ways is
measured and run alike.  A pattern matches the same as the plain parts that it was built from.
-/

namespace Reparse.Pattern

/-- A pattern of one character of a set. -/
def ofSet (set : CharSet) : Pattern :=
  match set.single? with
  | some char => .literal [char]
  | none => .oneOf set

/-- The parts that follow one another. -/
def items : Pattern → List Pattern
  | .empty => []
  | .sequence first second => first :: items second
  | pattern => [pattern]

def joinLiterals : List Pattern → List Pattern
  | [] => []
  | .literal text :: rest =>
      match joinLiterals rest with
      | .literal more :: rest => .literal (text ++ more) :: rest
      | rest => .literal text :: rest
  | pattern :: rest => pattern :: joinLiterals rest

def chain : List Pattern → Pattern
  | [] => .empty
  | [pattern] => pattern
  | pattern :: rest => .sequence pattern (chain rest)

/-- The patterns one after the other. -/
def sequenceOf (patterns : List Pattern) : Pattern :=
  chain (joinLiterals (patterns.flatMap items))

/-- The parts of which one is chosen. -/
def branches : Pattern → List Pattern
  | .choice first second => first :: branches second
  | pattern => [pattern]

/-- The characters that a pattern of one character matches. -/
def set? : Pattern → Option CharSet
  | .literal [char] => some (.single char)
  | .oneOf set => some set
  | _ => none

def orElse : List Pattern → Pattern
  | [] => .oneOf .nothing
  | [pattern] => pattern
  | pattern :: rest => .choice pattern (orElse rest)

/-- The first of some branches that matches, without a look at how the branches begin. -/
def firstOf (patterns : List Pattern) : Pattern :=
  let all := patterns.flatMap branches
  match all with
  | [pattern] => pattern
  | _ =>
      match all.mapM set? with
      | some sets => ofSet (sets.foldl .union .nothing)
      | none => orElse all

def commonPrefix : List Pattern → List Pattern → List Pattern
  | first :: firstRest, second :: secondRest =>
      if first = second then first :: commonPrefix firstRest secondRest else []
  | _, _ => []

/-- The parts that all branches begin with; none if a branch is not a sequence. -/
def sharedItems : List Pattern → List Pattern
  | [] => []
  | [.sequence first second] => items (.sequence first second)
  | .sequence first second :: rest =>
      commonPrefix (items (.sequence first second)) (sharedItems rest)
  | _ => []

/-- The first of some branches that matches. -/
def choiceOf (patterns : List Pattern) : Pattern :=
  match firstOf patterns with
  | .choice first second =>
      let all := branches (.choice first second)
      let shared := sharedItems all
      if shared.isEmpty then .choice first second
      else
        let rests := all.map fun branch => sequenceOf ((items branch).drop shared.length)
        sequenceOf (shared ++ [firstOf rests])
  | pattern => pattern

/-- A pattern repeated. -/
def repeated (body : Pattern) (least : Nat) (most : Option Nat) (greedy : Bool) : Pattern :=
  let (least, most) :=
    if body.isWidthless then (min least 1, some ((most.map (min 1)).getD 1)) else (least, most)
  if most = some 0 then .empty
  else if least = 1 ∧ most = some 1 then body
  else .repetition body least most greedy

end Reparse.Pattern
