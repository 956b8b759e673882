import Reparse.Proofs.Parser.Coverage
import Reparse.Proofs.Parser.Determinism
import Reparse.Proofs.Parser.Simulation

/-!
# A strict parse is a tolerant one cut at its first error

Two parsers that differ only in their tolerance of errors do the same as long as nothing is missing.

Main statement: `run?_strict`.
-/

namespace Reparse

open Reparse.Tree

namespace Parser

variable {parser : Parser} {state after : ParseState}

def strictly (parser : Parser) : Parser :=
  parser.under { parser.leniency with toleratesErrors := false }

theorem skipWithin_under (leniency : Leniency) (sets : List KindSet) (count : Nat)
    (state : ParseState) :
    (parser.under leniency).skipWithin sets count state = parser.skipWithin sets count state := by
  induction count generalizing state with
  | zero => rfl
  | succ count induction =>
      unfold skipWithin
      simp only [induction]
      rfl

theorem skipRest_under (leniency : Leniency) (count : Nat) (state : ParseState) :
    (parser.under leniency).skipRest count state = parser.skipRest count state := by
  induction count generalizing state with
  | zero => rfl
  | succ count induction =>
      unfold skipRest
      simp only [induction]
      rfl

theorem arrive_strictly (id : ExprId) (follow : KindSet) (state : ParseState) :
    parser.strictly.arrive id follow state = parser.arrive id follow state := by
  simp only [arrive, skipUpTo, strictly, skipWithin_under]
  rfl

theorem settle_strictly (plan : RepetitionPlan) (state : ParseState) :
    parser.strictly.settle plan state = parser.settle plan state := by
  simp only [settle, skipUpTo, strictly, skipWithin_under]
  rfl

theorem sweep_strictly (state : ParseState) :
    parser.strictly.sweep state = parser.sweep state := by
  simp only [sweep, strictly, skipRest_under]
  rfl

/-- What becomes of a run that succeeds when errors are not tolerated: the same, or it stops with
the first missing leaf. -/
inductive Cut (parser : Parser) (depth : Nat) (task : Task) (state : ParseState)
    (leaves : List Tree) (outcome : Outcome) (after : ParseState) : Prop where
  | same :
      leaves.find? isMissing = none →
      parser.strictly.Runs depth task state outcome after →
      Cut parser depth task state leaves outcome after
  | stopped {expr : ExprId} {found : Option TokenId} {last : ParseState} :
      leaves.find? isMissing = some (.missing expr found) →
      parser.strictly.Runs depth task state (.stopped (.aborted expr found)) last →
      last.skipped <+: after.skipped → Cut parser depth task state leaves outcome after

theorem Runs.skipped_isPrefix {depth : Nat} {task : Task} {outcome : Outcome}
    (run : parser.Runs depth task state outcome after) (succeeds : outcome.Succeeds) :
    state.skipped <+: after.skipped := by
  obtain ⟨skipped, spans⟩ := run.spans succeeds
  exact ⟨skipped, spans.skipped_eq.symm⟩

namespace Cut

variable {depth depth' : Nat} {task task' : Task} {leaves leaves' : List Tree}
  {outcome outcome' : Outcome} {state' middle : ParseState}

theorem andThen
    (first : parser.Cut depth task state leaves outcome middle)
    (stopped : ∀ stop last, parser.strictly.Runs depth task state (.stopped stop) last →
      ∃ last', parser.strictly.Runs depth' task' state' (.stopped stop) last' ∧
        last'.skipped = last.skipped)
    (grows : middle.skipped <+: after.skipped)
    (rest : parser.strictly.Runs depth task state outcome middle →
      parser.Cut depth' task' state' leaves' outcome' after) :
    parser.Cut depth' task' state' (leaves ++ leaves') outcome' after := by
  cases first with
  | same complete strict =>
      cases rest strict with
      | same complete' strict' =>
          exact .same (by simp [List.find?_append, complete, complete']) strict'
      | stopped missing strict' fewer =>
          exact .stopped (by simp [List.find?_append, complete, missing]) strict' fewer
  | stopped missing strict fewer =>
      obtain ⟨last, strict', skipped⟩ := stopped _ _ strict
      apply Cut.stopped (by simp [List.find?_append, missing]) strict'
      rw [skipped]
      exact fewer.trans grows

theorem map
    (cut : parser.Cut depth task state leaves outcome middle)
    (same : parser.strictly.Runs depth task state outcome middle →
      parser.strictly.Runs depth' task' state' outcome' after)
    (stopped : ∀ stop last, parser.strictly.Runs depth task state (.stopped stop) last →
      ∃ last', parser.strictly.Runs depth' task' state' (.stopped stop) last' ∧
        last'.skipped = last.skipped)
    (grows : middle.skipped <+: after.skipped) :
    parser.Cut depth' task' state' leaves outcome' after := by
  rw [← List.append_nil leaves]
  exact cut.andThen stopped grows fun strict => .same rfl (same strict)

end Cut

theorem skipped_isPrefix_settle (plan : RepetitionPlan) (state : ParseState) :
    state.skipped <+: (parser.settle plan state).skipped := by
  obtain ⟨skipped, spans⟩ := (parser.reads_settle plan state).spans
  exact ⟨skipped, spans.skipped_eq.symm⟩

/-- A run that succeeds is the same without tolerance of errors, up to its first missing leaf. -/
theorem Runs.cut {depth : Nat} {task : Task} {outcome : Outcome}
    (run : parser.Runs depth task state outcome after) (succeeds : outcome.Succeeds) :
    parser.Cut depth task state (leavesIn outcome.chains) outcome after := by
  induction run with
  | exhausted | stoppedFirst | stoppedNext | aborted | enteredStopped | optionalStopped
  | alternationStopped | repetitionStopped | ledStopped | leadStopped | filledStopped
  | noRoundsLeft | roundStopped | moreStopped | contentStopped | separatorStopped =>
      exact succeeds.elim
  | last last _ element =>
      have cut := element trivial
      rw [← arrive_strictly] at cut
      exact cut.map (.last last) (fun _ last strict => ⟨last, .stoppedFirst strict, rfl⟩)
        (List.prefix_refl _)
  | cons following _ rest element chain =>
      have cut := element trivial
      rw [← arrive_strictly] at cut
      rw [Outcome.chains, leavesIn_chain_cons]
      apply cut.andThen (fun _ last strict => ⟨last, .stoppedFirst strict, rfl⟩)
        (rest.skipped_isPrefix trivial)
      intro strict
      exact (chain trivial).map (.cons following strict)
        (fun _ last strict' => ⟨last, .stoppedNext following strict strict', rfl⟩)
        (List.prefix_refl _)
  | token current =>
      refine .same ?_ (.token current)
      simp [Outcome.chains, isMissing]
  | @missing depth id follow state element _ lacks =>
      have strict : parser.strictly.Runs depth (.element id follow element) state
          (.stopped (.aborted id (parser.currentId? state))) (parser.noteMissing id state) :=
        .aborted rfl lacks
      refine .stopped ?_ strict (List.prefix_refl _)
      simp [Outcome.chains, isMissing]
  | @entered _ _ _ _ after name _ starts _ chain =>
      rw [Outcome.chains, leavesIn_nonTerminal]
      have closed := parser.strictly.samePlace_closeFrame name
      apply (chain trivial).map (.entered starts)
      · intro stop last strict
        exact ⟨_, .enteredStopped starts strict, (closed true last).skipped⟩
      · rw [(closed false after).skipped]
  | absent other nullable =>
      exact .same (by simp [Outcome.chains]) (.absent other nullable)
  | empty => exact .same (by simp [Outcome.chains]) .empty
  | optional starts _ chain =>
      rw [Outcome.chains, leavesIn_optional]
      exact (chain trivial).map (.optional starts)
        (fun _ last strict => ⟨last, .optionalStopped starts strict, rfl⟩) (List.prefix_refl _)
  | optionalAbsent other =>
      exact .same (by simp [Outcome.chains]) (.optionalAbsent other)
  | alternation chosen _ chain =>
      rw [Outcome.chains, leavesIn_alternation]
      exact (chain trivial).map (.alternation chosen)
        (fun _ last strict => ⟨last, .alternationStopped chosen strict, rfl⟩)
        (List.prefix_refl _)
  | repetition _ items =>
      rw [Outcome.chains, leavesIn_repetition]
      exact (items trivial).map .repetition
        (fun _ last strict => ⟨last, .repetitionStopped strict, rfl⟩) (List.prefix_refl _)
  | led leads _ separator =>
      exact (separator trivial).map (.led leads)
        (fun _ last strict => ⟨last, .ledStopped leads strict, rfl⟩) (List.prefix_refl _)
  | unled unled => exact .same rfl (.unled unled)
  | leadOnly _ ended lead =>
      exact (lead trivial).map (fun strict => .leadOnly strict ended)
        (fun _ last strict => ⟨last, .leadStopped strict, rfl⟩) (List.prefix_refl _)
  | filled _ visible rest lead rounds =>
      rw [Outcome.chains, leavesIn_append]
      apply (lead trivial).andThen (fun _ last strict => ⟨last, .leadStopped strict, rfl⟩)
        (rest.skipped_isPrefix trivial)
      intro strict
      exact (rounds trivial).map (.filled strict visible)
        (fun _ last strict' => ⟨last, .filledStopped strict visible strict', rfl⟩)
        (List.prefix_refl _)
  | lastRound _ round =>
      exact (round trivial).map .lastRound
        (fun _ last strict => ⟨last, .roundStopped strict, rfl⟩) (List.prefix_refl _)
  | stuckRound _ stuck round =>
      exact (round trivial).map (fun strict => .stuckRound strict stuck)
        (fun _ last strict => ⟨last, .roundStopped strict, rfl⟩) (List.prefix_refl _)
  | moreRounds _ moved rest round rounds =>
      rw [Outcome.chains, leavesIn_append]
      apply (round trivial).andThen (fun _ last strict => ⟨last, .roundStopped strict, rfl⟩)
        (rest.skipped_isPrefix trivial)
      intro strict
      exact (rounds trivial).map (.moreRounds strict moved)
        (fun _ last strict' => ⟨last, .moreStopped strict moved strict', rfl⟩)
        (List.prefix_refl _)
  | joined _ joins content =>
      rw [Outcome.chains, leavesIn_cons _ [_], leavesIn_empty, List.append_nil]
      rw [← settle_strictly] at joins ⊢
      exact (content trivial).map (fun strict => .joined strict joins)
        (fun _ last strict => ⟨last, .contentStopped strict, rfl⟩)
        (parser.strictly.skipped_isPrefix_settle _ _)
  | separated _ apart separates rest content separator =>
      rw [Outcome.chains, leavesIn_cons _ [_]]
      have later := separator trivial
      rw [← settle_strictly] at apart separates later
      apply (content trivial).andThen (fun _ last strict => ⟨last, .contentStopped strict, rfl⟩)
      · exact (skipped_isPrefix_settle _ _).trans (rest.skipped_isPrefix trivial)
      · intro strict
        exact later.map (.separated strict apart separates)
          (fun _ last strict' =>
            ⟨last, .separatorStopped strict apart (.inl separates) strict', rfl⟩)
          (List.prefix_refl _)
  | ended _ apart unseparated required rest content separator =>
      rw [Outcome.chains, leavesIn_cons _ [_]]
      have later := separator trivial
      rw [← settle_strictly] at apart unseparated later
      apply (content trivial).andThen (fun _ last strict => ⟨last, .contentStopped strict, rfl⟩)
      · exact (skipped_isPrefix_settle _ _).trans (rest.skipped_isPrefix trivial)
      · intro strict
        exact later.map (.ended strict apart unseparated required)
          (fun _ last strict' =>
            ⟨last, .separatorStopped strict apart (.inr required) strict', rfl⟩)
          (List.prefix_refl _)
  | closed _ apart unseparated optional content =>
      rw [← settle_strictly] at apart unseparated ⊢
      exact (content trivial).map (fun strict => .closed strict apart unseparated optional)
        (fun _ last strict => ⟨last, .contentStopped strict, rfl⟩)
        (parser.strictly.skipped_isPrefix_settle _ _)

/-- A parse that stops with the first error against one that goes on. -/
structure CutAtFirstError (tolerant strict : Parse) : Prop where
  whole : tolerant.hasErrors = false →
    strict.tree = tolerant.tree ∧ strict.skipped = tolerant.skipped
  cut : tolerant.hasErrors = true → ∃ expr found,
    tolerant.missingNodes.head? = some (.missing expr found) ∧
      strict.tree = .missing expr found ∧ strict.skipped <+: tolerant.skipped

theorem Finishes.cut {start : NonTerminalId} {setsAnnounced : Bool} {tolerant : Parser.Run}
    (tolerates : parser.leniency.toleratesErrors = true)
    (finishes : parser.Finishes start setsAnnounced tolerant) :
    ∃ strict, parser.strictly.Finishes start setsAnnounced strict ∧
      CutAtFirstError tolerant.parse strict.parse := by
  cases finishes with
  | aborted run =>
      have strict := run.not_tolerant rfl
      exact (Bool.false_ne_true (strict.symm.trans tolerates)).elim
  | @parsed child after run =>
      have errors := hasErrors_eq_any_leavesIn
        [.nonTerminal (parser.grammar.ruleOf start) start child]
      have missing := missingNodes_eq_filter_leavesIn
        [.nonTerminal (parser.grammar.ruleOf start) start child]
      rw [leavesIn_nonTerminal] at errors missing
      have closed := parser.samePlace_closeFrame start
      cases run.cut trivial with
      | same complete strict =>
          refine ⟨_, .parsed strict, ?_, ?_⟩
          · rw [sweep_strictly]
            exact fun _ => ⟨rfl, rfl⟩
          · intro erroneous
            have found := List.any_eq_true.mp (errors.symm.trans erroneous)
            obtain ⟨leaf, member, isMissing⟩ := found
            exact (List.find?_eq_none.mp complete leaf member isMissing).elim
      | @stopped expr found last first strict fewer =>
          obtain ⟨skipped, spans⟩ := run.spans trivial
          have inside := spans.inside ((startState_cursor ..).trans_le (Nat.zero_le _))
          obtain ⟨swept, sweeps, _⟩ :=
            spans_sweep (parser.closeFrame start false after)
              ((closed false after).cursor.trans_le inside)
          refine ⟨_, .aborted strict, ?_, ?_⟩
          · intro clean
            have unfound := List.any_eq_false.mp (errors.symm.trans clean) _
              (List.mem_of_find?_eq_some first)
            exact (unfound rfl).elim
          · intro _
            refine ⟨expr, found, ?_, rfl, ?_⟩
            · rw [Parse.missingNodes, finish, missing, List.head?_filter]
              exact first
            · calc
                (parser.strictly.closeFrame start true last).skipped
                    = last.skipped := (parser.strictly.samePlace_closeFrame ..).skipped
                _ <+: after.skipped := fewer
                _ <+: (parser.sweep (parser.closeFrame start false after)).skipped := by
                  rw [sweeps.skipped_eq, (closed false after).skipped]
                  exact List.prefix_append ..

/-- Without tolerance of errors a parse comes to the first missing node of the tolerant one and no
further. -/
theorem run?_strict (grammar : Grammar) (document : Document) (skipsUnknown : Bool)
    (start : NonTerminalId) (announced announced' : Bool)
    (built : grammar.Built) (terminating : ¬ grammar.LeftRecursive) :
    ∃ tolerant strict,
      Parser.run? ⟨grammar, grammar.predict, document, ⟨true, skipsUnknown⟩⟩ start announced =
        some tolerant ∧
      Parser.run? ⟨grammar, grammar.predict, document, ⟨false, skipsUnknown⟩⟩ start announced' =
        some strict ∧
      CutAtFirstError tolerant.parse strict.parse := by
  have predictive :
      Predictive ⟨grammar, grammar.predict, document, ⟨true, skipsUnknown⟩⟩ :=
    ⟨built.ordered, rfl⟩
  obtain ⟨tolerant, done, finishes⟩ := run?_finishes predictive terminating start announced
  obtain ⟨first, finishes', cut⟩ := finishes.cut rfl
  obtain ⟨strict, finishes'', tree, skipped⟩ := finishes_announced announced' finishes'
  refine ⟨tolerant, strict, done, finishes''.run?_eq, ?_, ?_⟩
  · rw [tree, skipped]
    exact cut.whole
  · rw [tree, skipped]
    exact cut.cut

/-- Two empty lists in a list that is not closed. -/
def unclosedDocument : Document :=
  let kinds := [0, 0, 1, 2, 0, 1]
  { scanner := default
    current :=
      { source := "[[],[]".toList
        tokens := (kinds.zipIdx.map fun (kind, place) => ⟨kind, ⟨place, place + 1⟩⟩).toArray
        obstacle := none }
    history := none }

theorem run?_strict_unclosedDocument :
    ∃ tolerant strict,
      Parser.run? ⟨Grammar.bracketLists, Grammar.bracketLists.predict, unclosedDocument,
        ⟨true, true⟩⟩ 0 false = some tolerant ∧
      Parser.run? ⟨Grammar.bracketLists, Grammar.bracketLists.predict, unclosedDocument,
        ⟨false, true⟩⟩ 0 true = some strict ∧
      CutAtFirstError tolerant.parse strict.parse :=
  run?_strict Grammar.bracketLists unclosedDocument true 0 false true Grammar.built_bracketLists
    Grammar.not_leftRecursive_bracketLists

end Parser

end Reparse
