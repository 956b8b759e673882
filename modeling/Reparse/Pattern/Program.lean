import Std.Data.HashSet
import Reparse.Pattern.Basic

/-!
# Running patterns

A pattern is compiled to a program of numbered steps, which is run over a text with a list of
threads in order of preference.  Each step is entered once at a place, by the thread that prefers
it, so a run takes time proportional to the text.
-/

namespace Reparse.Pattern

inductive Step where
  | consume (set : CharSet) (next : Nat)
  | require (condition : Assertion) (next : Nat)
  | branch (preferred other : Nat)
  | accept
  deriving Repr, Inhabited

/-- The steps, and the one that a run starts with. -/
structure Program where
  steps : Array Step
  start : Nat
  deriving Repr

namespace Program

def add (steps : Array Step) (step : Step) : Nat × Array Step :=
  (steps.size, steps.push step)

/-- A branch into a repetition's body or past it. -/
def fork (greedy : Bool) (body after : Nat) : Step :=
  if greedy then .branch body after else .branch after body

/-- Adds the steps of a pattern that go on at `next`; the answer starts with the entry.

A repetition without an upper bound is a body followed by a branch back to it.  When the body can
match nothing, the repetition that may be left out is an optional repetition of at least one. -/
def compileTo : Pattern → Nat → Array Step → Nat × Array Step
  | .empty, next, steps => (next, steps)
  | .literal text, next, steps =>
      text.foldr (fun char (next, steps) => add steps (.consume (.single char) next)) (next, steps)
  | .oneOf set, next, steps => add steps (.consume set next)
  | .require condition, next, steps => add steps (.require condition next)
  | .sequence first second, next, steps =>
      let (middle, steps) := compileTo second next steps
      compileTo first middle steps
  | .choice first second, next, steps =>
      let (preferred, steps) := compileTo first next steps
      let (other, steps) := compileTo second next steps
      add steps (.branch preferred other)
  | .repetition body least none greedy, next, steps =>
      let (loop, steps) := add steps .accept
      let (entry, steps) := compileTo body loop steps
      let steps := steps.set! loop (fork greedy entry next)
      if least = 0 then
        if body.consumes then (loop, steps) else add steps (fork greedy entry next)
      else
        (least - 1).repeat (fun (entry, steps) => compileTo body entry steps) (entry, steps)
  | .repetition body least (some most) greedy, next, steps =>
      let optional := fun (after, steps) =>
        let (entry, steps) := compileTo body after steps
        add steps (fork greedy entry next)
      least.repeat (fun (entry, steps) => compileTo body entry steps)
        ((most - least).repeat optional (next, steps))
  | .group _ body, next, steps => compileTo body next steps

def ofPattern (pattern : Pattern) : Program :=
  let (final, steps) := add #[] .accept
  let (start, steps) := compileTo pattern final steps
  ⟨steps, start⟩

/-- A program that starts by requiring the start of the text cannot match anywhere else. -/
def isAnchored (program : Program) : Bool :=
  match program.steps[program.start]? with
  | some (.require .textStart _) => true
  | _ => false

/-- A thread that waits for a character of the set and then goes on. -/
abbrev Waiting := CharSet × Nat

/-- Advances the threads of `stack` to the steps that consume, and tells whether one accepted.
`entered` are the steps entered at this place, `waiting` the threads found so far, last first. -/
def advance (program : Program) (before after : Option Char) :
    Nat → List Nat → Std.HashSet Nat → List Waiting → List Waiting × Bool
  | 0, _, _, waiting => (waiting.reverse, false)
  | _ + 1, [], _, waiting => (waiting.reverse, false)
  | fuel + 1, number :: stack, entered, waiting =>
      if entered.contains number then
        advance program before after fuel stack entered waiting
      else
        match program.steps[number]? with
        | none => advance program before after fuel stack entered waiting
        | some (.consume set next) =>
            advance program before after fuel stack (entered.insert number) ((set, next) :: waiting)
        | some (.require condition next) =>
            if condition.holds before after then
              advance program before after fuel (next :: stack) (entered.insert number) waiting
            else
              advance program before after fuel stack (entered.insert number) waiting
        | some (.branch preferred other) =>
            advance program before after fuel (preferred :: other :: stack) (entered.insert number)
              waiting
        | some .accept => (waiting.reverse, true)

/-- The stack of a place: the threads, and a new one behind them while nothing is found. -/
def stackAt (program : Program) (read : Nat) (threads : List Nat) (best : Option Nat) :
    List Nat :=
  if best.isNone && (read == 0 || !program.isAnchored) then threads ++ [program.start]
  else threads

/-- The threads that wait for a character at the place after `read` characters, and the end of the
match that they are all preferred to. -/
def visit (program : Program) (before after : Option Char) (read : Nat) (threads : List Nat)
    (best : Option Nat) : List Waiting × Option Nat :=
  let stack := program.stackAt read threads best
  let fuel := stack.length + 2 * program.steps.size + 1
  let (waiting, accepted) := program.advance before after fuel stack ∅ []
  (waiting, if accepted then some read else best)

/-- The threads that get past a character. -/
def consume (waiting : List Waiting) (char : Char) : List Nat :=
  waiting.filterMap fun (set, next) => if set.contains char.toNat then some next else none

/-- Runs the threads over the text from the place after `read` characters. -/
def run (program : Program) (before : Option Char) (read : Nat) (threads : List Nat)
    (best : Option Nat) : Text → Option Nat
  | [] => (program.visit before none read threads best).2
  | char :: rest =>
      let (waiting, best) := program.visit before (some char) read threads best
      let threads := consume waiting char
      if threads.isEmpty && (best.isSome || program.isAnchored) then best
      else run program (some char) (read + 1) threads best rest

theorem visit_best (program : Program) (before after : Option Char) (read : Nat)
    (threads : List Nat) (best : Option Nat) :
    (program.visit before after read threads best).2 = some read ∨
      (program.visit before after read threads best).2 = best := by
  simp only [visit]
  split
  · exact Or.inl rfl
  · exact Or.inr rfl

theorem run_le_length (program : Program) (before : Option Char) (read : Nat)
    (threads : List Nat) (best : Option Nat) (text : Text)
    (bestWithin : ∀ found, best = some found → found ≤ read)
    {found : Nat} (result : run program before read threads best text = some found) :
    found ≤ read + text.length := by
  induction text generalizing before read threads best with
  | nil =>
      simp only [run] at result
      rcases visit_best program before none read threads best with here | earlier
      · simp_all
      · exact bestWithin found (earlier ▸ result)
  | cons char rest induction =>
      have visited := visit_best program before (some char) read threads best
      rw [run] at result
      generalize program.visit before (some char) read threads best = place at result visited
      obtain ⟨waiting, newBest⟩ := place
      have newWithin : ∀ found, newBest = some found → found ≤ read := by
        intro found chosen
        rcases visited with here | earlier
        · simp_all
        · exact bestWithin found (earlier ▸ chosen)
      simp only at result
      split at result
      · have within := newWithin found result
        omega
      · have within := induction (some char) (read + 1) _ _
          (fun found chosen => Nat.le_succ_of_le (newWithin found chosen)) result
        simp only [List.length_cons]
        omega

end Program

/-- The number of characters up to the end of the leftmost match, preferred choices first. -/
def matchEnd? (program : Program) (text : Text) : Option Nat :=
  program.run none 0 [] none text

theorem matchEnd?_le_length (program : Program) {text : Text} {found : Nat}
    (result : matchEnd? program text = some found) : found ≤ text.length := by
  have within := Program.run_le_length program none 0 [] none text (by simp) result
  omega

end Reparse.Pattern
