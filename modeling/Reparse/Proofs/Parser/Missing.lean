import Reparse.Proofs.Parser.Padding
import Reparse.Proofs.Parser.Shape
import Reparse.Proofs.Parser.Steps

/-!
# What stands for a missing expression

A missing node is put where the current token cannot be taken for an element that has to match
something.  What starts a chain with that element is what starts the element.
-/

namespace Reparse

open Reparse.Tree

/-- A missing node for the expression came out, or ended the parse. -/
def Outcome.Names (expr : ExprId) (found : Option TokenId) : Outcome → Prop
  | .stopped stop => stop = .aborted expr found
  | outcome => .missing expr found ∈ leavesIn outcome.chains

/-- A task about an element of an expression is about the element that the expression has. -/
def Task.Owns (grammar : Grammar) : Task → Prop
  | .element id _ own => own = (grammar.expr id).element
  | _ => True

namespace Parser

variable {parser : Parser} {state after place : ParseState}

/-! ## The input is visible -/

theorem Builds.visible {nodes : List Tree} (builds : parser.Builds state nodes after)
    (unedited : parser.document.hasChanges = false) (visible : state.hiddenUntil = none) :
    after.hiddenUntil = none := by
  induction builds with
  | tells unmoved => exact (congrArg ParseState.hiddenUntil unmoved).trans visible
  | takes | skips => exact (hiddenUntil_advance_of_unedited unedited _).trans visible
  | makes => exact visible
  | returns _ _ _ child | cutShort _ _ child => exact closeFrame_of_visible _ _ (child visible)
  | append _ _ first second => exact second (first visible)

theorem Runs.visible {depth : Nat} {task : Task} {outcome : Outcome}
    (run : parser.Runs depth task state outcome after)
    (unedited : parser.document.hasChanges = false) (visible : state.hiddenUntil = none) :
    after.hiddenUntil = none := by
  obtain ⟨nodes, builds⟩ := run.exists_builds
  exact builds.visible unedited visible

/-! ## Where missing nodes are put -/

/-- The place of a missing node: nothing there can be taken for the element of its expression, and
the node holds the current token. -/
structure Misses (parser : Parser) (place : ParseState) (expr : ExprId)
    (found : Option TokenId) : Prop where
  visible : place.hiddenUntil = none
  lacks : parser.Lacks place (parser.grammar.expr expr).element
  found_eq : found = parser.currentId? place

/-- Below the task the descent comes to the element of the expression, which is missing there. -/
def ComesToMiss (parser : Parser) (task : Task) (state : ParseState) (expr : ExprId)
    (found : Option TokenId) : Prop :=
  ∃ follow place, Relation.ReflTransGen parser.Calls (task, state)
      (.element expr follow (parser.grammar.expr expr).element, place) ∧
    parser.Misses place expr found

theorem ComesToMiss.of_calls {task task' : Task} {state' : ParseState} {expr : ExprId}
    {found : Option TokenId} (misses : parser.ComesToMiss task' state' expr found)
    (calls : parser.Calls (task, state) (task', state')) :
    parser.ComesToMiss task state expr found := by
  obtain ⟨follow, place, path, misses⟩ := misses
  exact ⟨follow, place, path.head calls, misses⟩

/-- The descent comes to every missing node of a run. -/
theorem Runs.comesToMiss {depth : Nat} {task : Task} {outcome : Outcome} {expr : ExprId}
    {found : Option TokenId} (run : parser.Runs depth task state outcome after)
    (unedited : parser.document.hasChanges = false) (visible : state.hiddenUntil = none)
    (owns : task.Owns parser.grammar) (names : outcome.Names expr found) :
    parser.ComesToMiss task state expr found := by
  have arrives : ∀ {id follow state}, state.hiddenUntil = none →
      (parser.arrive id follow state).hiddenUntil = none := fun visible =>
    (builds_arrive _ _ _).visible unedited visible
  have settles : ∀ {plan state}, state.hiddenUntil = none →
      (parser.settle plan state).hiddenUntil = none := fun visible =>
    (builds_settle _ _).visible unedited visible
  induction run with
  | exhausted | noRoundsLeft => cases names
  | last _ _ element => exact (element (arrives visible) rfl names).of_calls .element
  | @cons _ _ _ _ _ _ _ node nodes following element _ elementMisses restMisses =>
      have names : .missing expr found ∈ leavesIn [node :: nodes] := names
      rw [leavesIn_chain_cons, List.mem_append] at names
      rcases names with names | names
      · exact (elementMisses (arrives visible) rfl names).of_calls .element
      · exact (restMisses (element.visible unedited (arrives visible)) trivial names).of_calls
          (.next following element)
  | stoppedFirst _ element => exact (element (arrives visible) rfl names).of_calls .element
  | stoppedNext following element _ _ rest =>
      exact (rest (element.visible unedited (arrives visible)) trivial names).of_calls
        (.next following element)
  | token | empty | absent | optionalAbsent | unled =>
      simp [Outcome.Names, Outcome.chains] at names
  | missing _ lacks =>
      cases owns
      obtain ⟨rfl, rfl⟩ : expr = _ ∧ found = _ := by
        simpa [Outcome.Names, Outcome.chains] using names
      exact ⟨_, _, .refl, visible, lacks, rfl⟩
  | aborted _ lacks =>
      cases owns
      cases names
      exact ⟨_, _, .refl, visible, lacks, rfl⟩
  | entered starts _ child =>
      simp only [Outcome.Names, Outcome.chains, leavesIn_nonTerminal] at names
      exact (child visible trivial names).of_calls (.rule starts)
  | enteredStopped starts _ child =>
      exact (child visible trivial names).of_calls (.rule starts)
  | optional starts _ child =>
      simp only [Outcome.Names, Outcome.chains, leavesIn_optional] at names
      exact (child visible trivial names).of_calls (.inner starts)
  | optionalStopped starts _ child =>
      exact (child visible trivial names).of_calls (.inner starts)
  | alternation chosen _ child =>
      simp only [Outcome.Names, Outcome.chains, leavesIn_alternation] at names
      exact (child visible trivial names).of_calls (.branch chosen)
  | alternationStopped chosen _ child =>
      exact (child visible trivial names).of_calls (.branch chosen)
  | repetition _ items =>
      simp only [Outcome.Names, Outcome.chains, leavesIn_repetition] at names
      exact (items visible trivial names).of_calls .repetition
  | repetitionStopped _ items => exact (items visible trivial names).of_calls .repetition
  | led leads _ separator | ledStopped leads _ separator =>
      exact (separator visible trivial names).of_calls (.leadingSeparator leads)
  | leadOnly _ _ lead | leadStopped _ lead => exact (lead visible trivial names).of_calls .lead
  | filled lead more _ leadMisses roundsMisses =>
      simp only [Outcome.Names, Outcome.chains, leavesIn_append, List.mem_append] at names
      rcases names with names | names
      · exact (leadMisses visible trivial names).of_calls .lead
      · exact (roundsMisses (lead.visible unedited visible) trivial names).of_calls
          (.rounds _ lead more)
  | filledStopped lead more _ _ rounds =>
      exact (rounds (lead.visible unedited visible) trivial names).of_calls (.rounds _ lead more)
  | lastRound _ round | stuckRound _ _ round | roundStopped _ round =>
      exact (round visible trivial names).of_calls .round
  | moreRounds round moved _ roundMisses restMisses =>
      simp only [Outcome.Names, Outcome.chains, leavesIn_append, List.mem_append] at names
      rcases names with names | names
      · exact (roundMisses visible trivial names).of_calls .round
      · exact (restMisses (round.visible unedited visible) trivial names).of_calls
          (.moreRounds _ round moved)
  | moreStopped round moved _ _ rest =>
      exact (rest (round.visible unedited visible) trivial names).of_calls
        (.moreRounds _ round moved)
  | contentStopped _ content | closed _ _ _ _ content =>
      exact (content visible trivial names).of_calls .content
  | joined _ _ content =>
      simp only [Outcome.Names, Outcome.chains, leavesIn_cons _ [_], leavesIn_empty,
        List.append_nil] at names
      exact (content visible trivial names).of_calls .content
  | separated content apart separates _ contentMisses separatorMisses =>
      simp only [Outcome.Names, Outcome.chains, leavesIn_cons _ [_], List.mem_append] at names
      rcases names with names | names
      · exact (contentMisses visible trivial names).of_calls .content
      · exact (separatorMisses (settles (content.visible unedited visible)) trivial
          names).of_calls (.separator content apart (.inl separates))
  | ended content apart _ required _ contentMisses separatorMisses =>
      simp only [Outcome.Names, Outcome.chains, leavesIn_cons _ [_], List.mem_append] at names
      rcases names with names | names
      · exact (contentMisses visible trivial names).of_calls .content
      · exact (separatorMisses (settles (content.visible unedited visible)) trivial
          names).of_calls (.separator content apart (.inr required))
  | separatorStopped content apart follows _ _ separator =>
      exact (separator (settles (content.visible unedited visible)) trivial names).of_calls
        (.separator content apart follows)

/-- A missing node stands for an expression of the grammar that has to match something, and what it
found does not start the expression. -/
theorem Misses.full {expr : ExprId} {found : Option TokenId}
    (misses : parser.Misses place expr found) (predictive : parser.Predictive) :
    (parser.grammar.predict.firstOf expr).nullable = false ∧
      ∀ kind, parser.currentKind? place = some kind →
        ¬ kind ∈ (parser.grammar.predict.firstOf expr).tokens := by
  obtain ⟨elementFull, apart⟩ := misses.lacks.full predictive
  by_cases inside : expr < parser.grammar.exprs.size
  · constructor
    · rw [← Bool.not_eq_true] at elementFull ⊢
      exact fun nullable =>
        elementFull (Grammar.nullable_startOf_of_nullable_firstOf inside nullable)
    · intro kind current starts
      cases following : (parser.grammar.expr expr).next with
      | none =>
          rw [Grammar.firstOf_of_last inside following] at starts
          exact apart kind current starts
      | some next =>
          rw [Grammar.firstOf_of_next inside following, FirstSet.mem_andThen, elementFull] at starts
          simp only [Bool.false_eq_true, false_and, or_false] at starts
          exact apart kind current starts
  · rw [Grammar.firstOf_of_size_le (Nat.le_of_not_lt inside)]
    exact ⟨rfl, fun kind _ => FirstSet.not_mem_empty kind⟩

theorem Misses.unexpected {expr : ExprId} {id : TokenId}
    (misses : parser.Misses place expr (some id)) (predictive : parser.Predictive) :
    ∃ kind, parser.document.kind? id = some kind ∧
      ¬ kind ∈ (parser.grammar.predict.firstOf expr).tokens := by
  have found := misses.found_eq
  unfold currentId? at found
  split at found
  · rename_i inside
    cases found
    obtain ⟨kind, current⟩ := exists_currentKind? misses.visible inside
    exact ⟨kind, (currentKind?_of_visible misses.visible).symm.trans current,
      (misses.full predictive).2 kind current⟩
  · cases found

/-! ## What came before a missing node -/

theorem Reads.exists_place {leaves earlier later : List Tree} {expr : ExprId}
    {found : Option TokenId} (reads : parser.Reads state leaves after)
    (split : leaves = earlier ++ .missing expr found :: later) :
    ∃ place, parser.Reads state earlier place ∧ found = parser.currentId? place ∧
      parser.Reads place (.missing expr found :: later) after := by
  induction reads generalizing earlier later with
  | stays | skips => simp at split
  | takes =>
      cases earlier with
      | nil => cases split
      | cons => simp at split
  | misses _ tolerant =>
      cases earlier with
      | nil =>
          cases split
          exact ⟨_, .stays ⟨rfl, rfl⟩, rfl, .misses _ tolerant⟩
      | cons => simp at split
  | append first second firstPlace secondPlace =>
      rcases List.append_eq_append_iff.mp split with ⟨others, rfl, others_eq⟩ | ⟨others, rfl, rest⟩
      · obtain ⟨place, reads, found_eq, rest⟩ := secondPlace others_eq
        exact ⟨place, first.append reads, found_eq, rest⟩
      · cases others with
        | nil =>
            obtain ⟨place, reads, found_eq, rest⟩ := @secondPlace [] later rest.symm
            refine ⟨place, ?_, found_eq, rest⟩
            rw [List.append_nil] at first
            exact first.andThen reads
        | cons node others =>
            cases rest
            obtain ⟨place, reads, found_eq, rest⟩ := firstPlace rfl
            exact ⟨place, reads, found_eq, rest.append second⟩

/-- Calls lead over the tokens. -/
theorem Calls.exists_reads {task task' : Task}
    (calls : parser.Calls (task, state) (task', after)) :
    ∃ leaves, parser.Reads state leaves after := by
  cases calls with
  | element => exact ⟨_, reads_arrive _ _ _⟩
  | next _ element => exact ⟨_, (reads_arrive _ _ _).append (element.reads trivial)⟩
  | inner | branch | repetition | lead | leadingSeparator | round | content | rule =>
      exact ⟨[], .stays ⟨rfl, rfl⟩⟩
  | rounds _ lead => exact ⟨_, lead.reads trivial⟩
  | moreRounds _ round => exact ⟨_, round.reads trivial⟩
  | separator content => exact ⟨_, (content.reads trivial).andThen (reads_settle _ _)⟩

theorem exists_reads_of_calls {caller callee : Task × ParseState}
    (calls : Relation.ReflTransGen parser.Calls caller callee) :
    ∃ leaves, parser.Reads caller.2 leaves callee.2 := by
  induction calls with
  | refl => exact ⟨[], .stays ⟨rfl, rfl⟩⟩
  | tail _ call induction =>
      obtain ⟨leaves, reads⟩ := induction
      obtain ⟨leaves', reads'⟩ := call.exists_reads
      exact ⟨_, reads.append reads'⟩

theorem Reads.exhausts {start : NonTerminalId} {announced : Bool} {leaves : List Tree}
    (reads : parser.Reads (parser.startState start announced) leaves after)
    (ended : parser.currentId? after = none) :
    ∀ id < parser.document.size, id ∈ leaves.filterMap consumed? ∨ id ∈ after.skipped := by
  intro id inside
  obtain ⟨skipped, spans⟩ := reads.spans
  have atEnd : parser.document.size ≤ after.cursor := by
    simpa [currentId?] using ended
  have started : (parser.startState start announced).skipped = [] :=
    (parser.samePlace_observe (.initial announced)).skipped
  rw [spans.skipped_eq, started, List.nil_append]
  refine (spans.covers.mem_iff id).mpr ⟨?_, inside.trans_le atEnd⟩
  exact (startState_cursor ..).trans_le (Nat.zero_le id)

end Parser

end Reparse
