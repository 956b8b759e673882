import Reparse.Proofs.Grammar.Conflict
import Reparse.Proofs.Parser.Passing

/-!
# Runs without errors

A run without errors has no missing leaf, and the same holds of each part of it.  So a visible token
starts the task, or the task goes by and leaves the token where it is.
-/

namespace Reparse

open Reparse.Tree

/-- Where the token is visible, what has the first set can come without an error. -/
def FirstSet.Admits (first : FirstSet) (kind : TokenKind) : Prop :=
  kind ∈ first.tokens ∨ first.nullable = true

theorem FirstSet.Admits.andThen {first second : FirstSet} {kind : TokenKind}
    (admits : first.Admits kind) (later : ¬ kind ∈ first.tokens → second.Admits kind) :
    (first.andThen second).Admits kind := by
  rw [Admits, mem_andThen, nullable_andThen, Bool.and_eq_true]
  by_cases starts : kind ∈ first.tokens
  · exact .inl (.inl starts)
  · have nullable := admits.resolve_left starts
    exact (later starts).imp (fun later => .inr ⟨nullable, later⟩)
      (fun vanishes => ⟨nullable, vanishes⟩)

/-- What the task is about can be reached from the start symbol. -/
def Task.Reached (grammar : Grammar) (start : NonTerminalId) : Task → Prop
  | .chain id _ => ∃ place, grammar.At start place (.chain id)
  | .element _ _ own => ∃ place, grammar.At start place (.element own)
  | .repetition parts _ | .lead parts _ | .rounds parts _ _ | .round parts _ =>
      ∃ place, grammar.At start place (.contents parts)

/-- The task came to its end, and none of the leaves is missing. -/
structure Outcome.Complete (outcome : Outcome) : Prop where
  succeeds : outcome.Succeeds
  leaves : ∀ leaf ∈ leavesIn outcome.chains, leaf.isMissing = false

theorem Outcome.Complete.part {outcome part : Outcome} (complete : outcome.Complete)
    (succeeds : part.Succeeds) (among : leavesIn part.chains ⊆ leavesIn outcome.chains) :
    part.Complete :=
  ⟨succeeds, fun leaf member => complete.leaves leaf (among member)⟩

namespace Parser

/-- A task that keeps to the grammar and what it comes to without errors. -/
structure Clean (parser : Parser) (start : NonTerminalId) (task : Task) (outcome : Outcome) :
    Prop where
  within : task.Within parser.grammar parser.grammar.exprs.size
  reached : task.Reached parser.grammar start
  complete : outcome.Complete

/-- The parser drops no tokens, and contents of repetitions match something. -/
structure Exacting (parser : Parser) (start : NonTerminalId) : Prop where
  predictive : parser.Predictive
  exact : parser.leniency.skipsUnknown = false
  filled : ∀ {place : Place} {id : ExprId} {parts : Repetition},
    parser.grammar.Occurs start place id → (parser.grammar.expr id).element = .repetition parts →
    (parser.grammar.predict.firstOf parts.content).nullable = false

variable {parser : Parser} {start : NonTerminalId} {state after : ParseState} {kind : TokenKind}

namespace Exacting

variable {id next : ExprId} {follow : KindSet} {parts : Repetition}

theorem arrive (exacting : parser.Exacting start) (id : ExprId) (follow : KindSet)
    (state : ParseState) : state.Unmoved (parser.arrive id follow state) :=
  unmoved_arrive (by simp [exacting.exact])

theorem settle (exacting : parser.Exacting start) (plan : RepetitionPlan)
    (state : ParseState) : parser.settle plan state = state := by
  simp [Parser.settle, exacting.exact]

theorem filled_contents (exacting : parser.Exacting start)
    (reached : ∃ place, parser.grammar.At start place (.contents parts)) :
    (parser.grammar.predict.firstOf parts.content).nullable = false := by
  obtain ⟨place, id, occurs, found⟩ := reached
  exact exacting.filled occurs found

theorem element (exacting : parser.Exacting start) {nodes : List Tree} {node : Tree}
    (clean : parser.Clean start (.chain id follow) (.chain (node :: nodes))) (follow' : KindSet) :
    parser.Clean start (.element id follow' (parser.grammar.expr id).element) (.node node) where
  within := exacting.predictive.ordered.within_element _ clean.within.le
  reached := by
    obtain ⟨place, occurs⟩ := clean.reached
    exact ⟨place, id, occurs, rfl⟩
  complete := clean.complete.part trivial (by simp [Outcome.chains, leavesIn_chain_cons node nodes])

theorem rest (exacting : parser.Exacting start) {nodes : List Tree} {node : Tree}
    (following : (parser.grammar.expr id).next = some next)
    (clean : parser.Clean start (.chain id follow) (.chain (node :: nodes))) :
    parser.Clean start (.chain next follow) (.chain nodes) where
  within := (exacting.predictive.ordered.next_lt following).trans clean.within
  reached := by
    obtain ⟨place, occurs⟩ := clean.reached
    exact ⟨_, occurs.next following⟩
  complete := clean.complete.part trivial (by simp [Outcome.chains, leavesIn_chain_cons node nodes])

theorem rule (exacting : parser.Exacting start) {name : NonTerminalId} {child : List Tree}
    (clean : parser.Clean start (.element id follow (.nonTerminal name))
      (.node (.nonTerminal id name child))) :
    parser.Clean start (.chain (parser.grammar.ruleOf name) follow) (.chain child) where
  within := exacting.predictive.ordered.rule_lt name
  reached := by
    obtain ⟨place, id, occurs, found⟩ := clean.reached
    exact ⟨_, occurs.rule found⟩
  complete := clean.complete.part trivial (by simp [Outcome.chains])

end Exacting

namespace Clean

variable {id : ExprId} {follow : KindSet} {parts : Repetition}

theorem inner {inner : ExprId} {child : List Tree}
    (clean : parser.Clean start (.element id follow (.optional inner))
      (.node (.optional id child))) :
    parser.Clean start (.chain inner follow) (.chain child) where
  within := clean.within.1 _ (by simp [Element.parts])
  reached := by
    obtain ⟨place, id, occurs, found⟩ := clean.reached
    exact ⟨_, occurs.inner found⟩
  complete := clean.complete.part trivial (by simp [Outcome.chains])

theorem branch {branch : ExprId} {branches : List ExprId} {child : List Tree}
    (clean : parser.Clean start (.element id follow (.alternation branches))
      (.node (.alternation id child)))
    (member : branch ∈ branches) : parser.Clean start (.chain branch follow) (.chain child) where
  within := clean.within.1 _ member
  reached := by
    obtain ⟨place, id, occurs, found⟩ := clean.reached
    exact ⟨_, occurs.branch found member⟩
  complete := clean.complete.part trivial (by simp [Outcome.chains])

theorem repetition {items : List (List Tree)}
    (clean : parser.Clean start (.element id follow (.repetition parts))
      (.node (.repetition id items))) :
    parser.Clean start (.repetition parts follow) (.items items) where
  within := ⟨clean.within.1 _ (by simp [Element.parts]), clean.within.1 _ (by simp [Element.parts])⟩
  reached := clean.reached
  complete := clean.complete.part trivial (by simp [Outcome.chains])

theorem lead {items rest : List (List Tree)}
    (clean : parser.Clean start (.repetition parts follow) (.items (items ++ rest))) :
    parser.Clean start (.lead parts follow) (.items items) where
  within := clean.within
  reached := clean.reached
  complete := clean.complete.part trivial (by simp [Outcome.chains])

theorem rounds {items rest : List (List Tree)} (count : Nat)
    (clean : parser.Clean start (.repetition parts follow) (.items (items ++ rest))) :
    parser.Clean start (.rounds parts follow count) (.items rest) where
  within := clean.within
  reached := clean.reached
  complete := clean.complete.part trivial (by simp [Outcome.chains])

theorem leadingSeparator {separator : List Tree} (follow' : KindSet)
    (clean : parser.Clean start (.lead parts follow) (.items [separator])) :
    parser.Clean start (.chain parts.separator follow') (.chain separator) where
  within := clean.within.2
  reached := by
    obtain ⟨place, id, occurs, found⟩ := clean.reached
    exact ⟨_, occurs.separator found⟩
  complete := clean.complete.part trivial (by simp [Outcome.chains])

theorem round {count : Nat} {items rest : List (List Tree)} (more : Bool)
    (clean : parser.Clean start (.rounds parts follow count) (.items (items ++ rest))) :
    parser.Clean start (.round parts follow) (.round items more) where
  within := clean.within
  reached := clean.reached
  complete := clean.complete.part trivial (by simp [Outcome.chains])

theorem moreRounds {count count' : Nat} {items rest : List (List Tree)}
    (clean : parser.Clean start (.rounds parts follow count) (.items (items ++ rest))) :
    parser.Clean start (.rounds parts follow count') (.items rest) where
  within := clean.within
  reached := clean.reached
  complete := clean.complete.part trivial (by simp [Outcome.chains])

theorem content {content : List Tree} {rest : List (List Tree)} {more : Bool}
    (follow' : KindSet)
    (clean : parser.Clean start (.round parts follow) (.round (content :: rest) more)) :
    parser.Clean start (.chain parts.content follow') (.chain content) where
  within := clean.within.1
  reached := by
    obtain ⟨place, id, occurs, found⟩ := clean.reached
    exact ⟨_, occurs.content found⟩
  complete := clean.complete.part trivial (by simp [Outcome.chains, leavesIn_cons content rest])

theorem separator {content separator : List Tree} {more : Bool} (follow' : KindSet)
    (clean : parser.Clean start (.round parts follow) (.round [content, separator] more)) :
    parser.Clean start (.chain parts.separator follow') (.chain separator) where
  within := clean.within.2
  reached := by
    obtain ⟨place, id, occurs, found⟩ := clean.reached
    exact ⟨_, occurs.separator found⟩
  complete := clean.complete.part trivial
    (by simp [Outcome.chains, leavesIn_cons content [separator]])

end Clean

/-- The body of a repetition starts with a content that cannot match nothing. -/
theorem mem_bodyFirst_of_filled {grammar : Grammar} {parts : Repetition}
    (filled : (grammar.predict.firstOf parts.content).nullable = false)
    (admits : (Grammar.bodyFirst grammar.predict.toPredictionSets parts).Admits kind) :
    kind ∈ (grammar.predict.firstOf parts.content).tokens := by
  simpa [FirstSet.Admits, Grammar.bodyFirst, FirstSet.mem_andThen, filled] using admits

/-- A task that can match nothing stays before a token that does not start it. -/
theorem Runs.stays {depth : Nat} {task : Task} {outcome : Outcome}
    (run : parser.Runs depth task state outcome after) (exacting : parser.Exacting start)
    (clean : parser.Clean start task outcome) (current : parser.currentKind? state = some kind)
    (admits : (task.first parser.grammar).Admits kind)
    (other : ¬ kind ∈ (task.first parser.grammar).tokens) :
    parser.currentKind? after = some kind := by
  have passes : parser.Passes state task := by
    refine ⟨admits.resolve_left other, ?_, by simp [exacting.exact]⟩
    intro kind' current'
    rwa [Option.some.inj (current'.symm.trans current)]
  have finite : outcome ≠ .stopped .endless := by
    rintro rfl
    exact clean.complete.succeeds
  have quiet := run.quiet exacting.predictive clean.within passes finite
  exact (currentKind?_of_unmoved quiet.unmoved).trans current

theorem Runs.admits {depth : Nat} {task : Task} {outcome : Outcome}
    (run : parser.Runs depth task state outcome after) (exacting : parser.Exacting start)
    (clean : parser.Clean start task outcome) (current : parser.currentKind? state = some kind) :
    (task.first parser.grammar).Admits kind := by
  have predictive := exacting.predictive
  have round_admits : ∀ {parts : Repetition},
      (parser.grammar.predict.firstOf parts.content).nullable = false →
      (parser.grammar.predict.firstOf parts.content).Admits kind →
      (Grammar.bodyFirst parser.grammar.predict.toPredictionSets parts).Admits kind := by
    intro parts filled admits
    exact admits.andThen fun other => by simp [filled, FirstSet.Admits, other] at admits
  induction run with
  | exhausted | stoppedFirst | stoppedNext | aborted | enteredStopped | optionalStopped
  | alternationStopped | repetitionStopped | ledStopped | leadStopped | filledStopped
  | noRoundsLeft | roundStopped | moreStopped | contentStopped | separatorStopped =>
      exact clean.complete.succeeds.elim
  | @last depth id follow state after node last run element =>
      have still := exacting.arrive id follow state
      rw [Task.first, Grammar.firstOf_of_last clean.within last]
      exact element (exacting.element clean _) ((currentKind?_of_unmoved still).trans current)
  | @cons depth id next follow state middle after node nodes following run rest element chain =>
      have still := exacting.arrive id follow state
      have current' := (currentKind?_of_unmoved still).trans current
      have admits := element (exacting.element clean _) current'
      rw [Task.first, Grammar.firstOf_of_next clean.within following]
      apply admits.andThen
      intro other
      exact chain (exacting.rest following clean)
        (run.stays exacting (exacting.element clean _) current' admits other)
  | token current' =>
      obtain rfl := Option.some.inj (current.symm.trans current')
      exact .inl (by simp [Task.first, Grammar.startOf])
  | missing => simpa [Outcome.chains, isMissing] using clean.complete.leaves
  | entered starts =>
      obtain ⟨kind', current', starts⟩ := at?_iff.mp starts
      obtain rfl := Option.some.inj (current.symm.trans current')
      rw [predictive.predicted] at starts
      exact .inl starts
  | absent _ nullable =>
      rw [predictive.predicted] at nullable
      exact .inr nullable
  | empty | optional | optionalAbsent => exact .inr (by simp [Task.first, Grammar.startOf])
  | alternation chosen _ chain =>
      have member := (chooseBranch_eq_some chosen).1
      rw [FirstSet.Admits, Task.first, Grammar.startOf, Grammar.mem_elementFirst_alternation,
        Grammar.nullable_elementFirst_alternation]
      exact (chain (clean.branch member) current).imp
        (fun starts => ⟨_, member, starts⟩) (fun vanishes => ⟨_, member, vanishes⟩)
  | repetition _ items => exact items clean.repetition current
  | led leads _ chain =>
      rw [FirstSet.Admits, Task.first, Grammar.mem_leadFirst, Grammar.nullable_leadFirst]
      exact (chain (clean.leadingSeparator _) current).imp
        (fun starts => ⟨leading_of_leads leads, starts⟩) (fun vanishes _ => vanishes)
  | unled unled =>
      have notRequired := mt (leads_iff.mpr ∘ .inl) (by simpa using unled)
      exact .inr (Grammar.nullable_leadFirst.mpr fun required => (notRequired required).elim)
  | leadOnly run ended lead =>
      have admits := lead ⟨clean.within, clean.reached, clean.complete⟩ current
      rw [Task.first, Grammar.repetitionFirst_eq]
      apply admits.andThen
      intro other
      have still := run.stays exacting ⟨clean.within, clean.reached, clean.complete⟩ current
        admits other
      simp [still] at ended
  | filled run _ _ lead rounds =>
      have admits := lead clean.lead current
      rw [Task.first, Grammar.repetitionFirst_eq]
      apply admits.andThen
      intro other
      exact rounds (clean.rounds _) (run.stays exacting clean.lead current admits other)
  | lastRound _ round | stuckRound _ _ round =>
      exact round ⟨clean.within, clean.reached, trivial, clean.complete.leaves⟩ current
  | moreRounds _ _ _ round => exact round (clean.round true) current
  | joined _ _ content | closed _ _ _ _ content | separated _ _ _ _ content
  | ended _ _ _ _ _ content =>
      exact round_admits (exacting.filled_contents clean.reached)
        (content (clean.content _) current)

/-- A visible token starts a task without errors, or it is still there after the task. -/
theorem Runs.starts_or_stays {depth : Nat} {task : Task} {outcome : Outcome}
    (run : parser.Runs depth task state outcome after) (exacting : parser.Exacting start)
    (clean : parser.Clean start task outcome) (current : parser.currentKind? state = some kind) :
    kind ∈ (task.first parser.grammar).tokens ∨ parser.currentKind? after = some kind := by
  have admits := run.admits exacting clean current
  by_cases starts : kind ∈ (task.first parser.grammar).tokens
  · exact .inl starts
  · exact .inr (run.stays exacting clean current admits starts)

end Parser

end Reparse
