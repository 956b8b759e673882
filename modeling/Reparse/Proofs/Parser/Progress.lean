import Reparse.Proofs.Parser.Shape
import Reparse.Proofs.Parser.Telling

/-!
# Repetitions move on

Another content of a repetition has to come only after a separator, or where the current token
starts a content.  So the cursor has moved when another round begins.

Main statement: `repetitions_progress`.
-/

namespace Reparse.Parser

variable {parser : Parser} {state after : ParseState}

/-- Round after round as long as another one has to come, wherever the cursor is.  The number is
that of the rounds. -/
inductive Laps (parser : Parser) (parse : ChainParser) (plan : RepetitionPlan) :
    Nat → ParseState → EStateM.Result Stop ParseState (List (List Tree)) → Prop where
  | last {state after : ParseState} {items : List (List Tree)} :
      parser.parseRound parse plan state = .ok (items, false) after →
      Laps parser parse plan 1 state (.ok items after)
  | stopped {state after : ParseState} {stop : Stop} :
      parser.parseRound parse plan state = .error stop after →
      Laps parser parse plan 1 state (.error stop after)
  | more {count : Nat} {state middle after : ParseState} {items rest : List (List Tree)} :
      parser.parseRound parse plan state = .ok (items, true) middle →
      Laps parser parse plan count middle (.ok rest after) →
      Laps parser parse plan (count + 1) state (.ok (items ++ rest) after)
  | moreStopped {count : Nat} {state middle after : ParseState} {items : List (List Tree)}
      {stop : Stop} :
      parser.parseRound parse plan state = .ok (items, true) middle →
      Laps parser parse plan count middle (.error stop after) →
      Laps parser parse plan (count + 1) state (.error stop after)

def lastState : EStateM.Result Stop ParseState α → ParseState
  | .ok _ after | .error _ after => after

/-- What the rounds of a repetition do from a state on. -/
structure MovesOn (parser : Parser) (depth : Nat) (parts : Repetition) (follow : KindSet)
    (state : ParseState) : Prop where
  /-- A round that another one follows takes or skips a token. -/
  moves : ∀ items after,
    parser.parseRound (parser.parseChain depth) (parser.planRepetition parts follow) state =
      .ok (items, true) after → state.cursor < after.cursor
  /-- The rounds are those of a loop that does not look at the cursor, at most as many as tokens are
  left, and one more. -/
  laps : ∃ count ≤ parser.document.size - state.cursor + 1,
    parser.Laps (parser.parseChain depth) (parser.planRepetition parts follow) count state
      (parser.parseRounds (parser.parseChain depth) (parser.planRepetition parts follow)
        (parser.document.size - state.cursor + 1) state)
  /-- The repetition does not tell that there was no progress, and nothing within it does. -/
  silent : Event.noProgress ∈ (lastState
      (parser.parseRepetition (parser.parseChain depth) parts follow state)).log →
    Event.noProgress ∈ state.log
  /-- At a place of the document the repetition ends, if the descent may be as deep as a parse. -/
  ends : parser.depthLimit ≤ depth → state.cursor ≤ parser.document.size → ∀ after,
    parser.parseRepetition (parser.parseChain depth) parts follow state ≠ .error .endless after

section Rounds

variable {depth : Nat} {parts : Repetition} {follow : KindSet}

theorem parseRound_moves (predictive : parser.Predictive) {items : List (List Tree)}
    (done : parser.parseRound (parser.parseChain depth) (parser.planRepetition parts follow) state =
      .ok (items, true) after) :
    state.cursor < after.cursor ∧ after.cursor ≤ parser.document.size := by
  have run := reaches_parseRound (parser.follows_parseChain depth) parts follow state
  rw [done] at run
  have reads := run.reads trivial
  have moved := reads.cursor_le.lt_of_ne (run.round_moves predictive).symm
  exact ⟨moved, reads.inside_of_moved moved⟩

/-- With enough rounds the loop is the one that does not look at the cursor. -/
theorem laps_parseRounds (predictive : parser.Predictive) (rounds : Nat) (state : ParseState)
    (enough : parser.document.size - state.cursor < rounds) :
    ∃ count ≤ parser.document.size - state.cursor + 1,
      parser.Laps (parser.parseChain depth) (parser.planRepetition parts follow) count state
        (parser.parseRounds (parser.parseChain depth) (parser.planRepetition parts follow)
          rounds state) := by
  induction rounds generalizing state with
  | zero => exact (Nat.not_lt_zero _ enough).elim
  | succ rounds induction =>
      simp only [parseRounds, bind_run, get_run, set_run, ite_run, pure_run]
      cases done : parser.parseRound (parser.parseChain depth) (parser.planRepetition parts follow)
          state with
      | error stop after => exact ⟨1, Nat.le_add_left .., .stopped done⟩
      | ok found middle =>
          obtain ⟨items, more⟩ := found
          cases more with
          | false => exact ⟨1, Nat.le_add_left .., .last done⟩
          | true =>
              obtain ⟨moved, inside⟩ := parseRound_moves predictive done
              obtain ⟨count, few, laps⟩ := induction middle (by lia)
              simp only [if_true, if_neg moved.ne']
              cases rest : parser.parseRounds (parser.parseChain depth)
                  (parser.planRepetition parts follow) rounds middle with
              | ok items' after => exact ⟨count + 1, by lia, .more done (rest ▸ laps)⟩
              | error stop after => exact ⟨count + 1, by lia, .moreStopped done (rest ▸ laps)⟩

theorem not_sticks (predictive : parser.Predictive) : ¬ parser.Sticks := by
  rintro ⟨_, _, _, _, _, _, run, stuck⟩
  exact run.round_moves predictive stuck

theorem Runs.silent {task : Task} {outcome : Outcome}
    (run : parser.Runs depth task state outcome after) (predictive : parser.Predictive)
    (told : Event.noProgress ∈ after.log) : Event.noProgress ∈ state.log :=
  (run.tells.unstuck told).resolve_right (not_sticks predictive)

theorem room_of_repetition {id : ExprId} (predictive : parser.Predictive)
    (repeats : (parser.grammar.expr id).element = .repetition parts)
    (inside : state.cursor ≤ parser.document.size) (enough : parser.depthLimit ≤ depth) :
    parser.Room depth (.repetition parts follow) state parser.grammar.exprs.size [] := by
  have known : id < parser.grammar.exprs.size := by
    by_contra outside
    rw [Grammar.expr_of_size_le (Nat.le_of_not_lt outside)] at repeats
    cases repeats
  have below : ∀ part ∈ [parts.content, parts.separator], part < parser.grammar.exprs.size := by
    intro part member
    have part_of : part ∈ (parser.grammar.expr id).element.parts := by rwa [repeats]
    exact (predictive.ordered.part_lt part_of).trans known
  have room := @room_of_depthLimit_le parser state depth id follow known inside enough
  exact ⟨⟨below _ (by simp), below _ (by simp)⟩, room.bound_le, inside, entered_nil _ _,
    room.depth_le, by simp⟩

theorem movesOn {id : ExprId} (predictive : parser.Predictive)
    (terminating : ¬ parser.grammar.LeftRecursive)
    (repeats : (parser.grammar.expr id).element = .repetition parts) (depth : Nat)
    (follow : KindSet) (state : ParseState) : parser.MovesOn depth parts follow state where
  moves _ _ done := (parseRound_moves predictive done).1
  laps := laps_parseRounds predictive _ state (Nat.lt_succ_self _)
  silent told := by
    have run := reaches_parseRepetition (parser.follows_parseChain depth) parts follow state
    cases done : parser.parseRepetition (parser.parseChain depth) parts follow state with
    | ok | error =>
        rw [done] at run told
        exact Runs.silent run predictive told
  ends enough inside after endless := by
    have run := reaches_parseRepetition (parser.follows_parseChain depth) parts follow state
    rw [endless] at run
    exact run.finite predictive terminating (room_of_repetition predictive repeats inside enough)
      rfl

end Rounds

theorem Finishes.tells {start : NonTerminalId} {announced : Bool} {run : Parser.Run}
    (finishes : parser.Finishes start announced run) : parser.Tells #[] run.log := by
  have begins : parser.Tells #[] (parser.startState start announced).log :=
    (parser.tells_observe (.initial announced)).trans (parser.tells_openFrame start _)
  cases finishes with
  | @parsed child after descent =>
      have closes := (begins.trans descent.tells).trans (parser.tells_closeFrame start false after)
      exact closes.trans (parser.tells_sweep _)
  | @aborted expr found after descent =>
      have closes := (begins.trans descent.tells).trans (parser.tells_closeFrame start true after)
      exact closes.trans (.push (by simp))

/-- Without left recursion every repetition moves on, whatever may come after it, and no parse gives
up a repetition for lack of progress. -/
theorem repetitions_progress (grammar : Grammar) (document : Document) (leniency : Leniency)
    (built : grammar.Built) (terminating : ¬ grammar.LeftRecursive) :
    let parser : Parser := ⟨grammar, grammar.predict, document, leniency⟩
    (∀ id parts, (grammar.expr id).element = .repetition parts →
      ∀ depth follow state, parser.MovesOn depth parts follow state) ∧
    ∀ start announced, ∃ run, parser.run? start announced = some run ∧
      Event.noProgress ∉ run.log := by
  intro parser
  have predictive : parser.Predictive := ⟨built.ordered, rfl⟩
  refine ⟨fun id parts repeats => movesOn predictive terminating repeats, fun start announced => ?_⟩
  obtain ⟨run, done, finishes⟩ := run?_finishes predictive terminating start announced
  refine ⟨run, done, fun told => ?_⟩
  exact (finishes.tells.unstuck told).elim (Array.not_mem_empty _) (not_sticks predictive)

/-- The first of two lists within a list is a round that another one follows. -/
theorem repetitions_progress_bracketDocument :
    let parser : Parser :=
      ⟨Grammar.bracketLists, Grammar.bracketLists.predict, bracketDocument, .standard⟩
    let parts : Repetition := ⟨4, 3, .prohibited, .optional⟩
    let state := { ParseState.initial false with cursor := 1 }
    (∃ items after, parser.parseRound (parser.parseChain parser.depthLimit)
        (parser.planRepetition parts (.singleton 1)) state = .ok (items, true) after ∧
      state.cursor < after.cursor) ∧
    (∀ depth follow state, parser.MovesOn depth parts follow state) ∧
    ∃ run, parser.run? 0 false = some run ∧ Event.noProgress ∉ run.log := by
  intro parser parts state
  obtain ⟨movesOn, silent⟩ := repetitions_progress Grammar.bracketLists bracketDocument .standard
    Grammar.built_bracketLists Grammar.not_leftRecursive_bracketLists
  have repeats : (Grammar.bracketLists.expr 5).element = .repetition parts := by decide +kernel
  refine ⟨?_, movesOn 5 parts repeats, silent 0 false⟩
  have continued : (match parser.parseRound (parser.parseChain parser.depthLimit)
      (parser.planRepetition parts (.singleton 1)) state with
    | .ok (_, more) _ => more
    | .error _ _ => false) = true := by
    decide +kernel
  split at continued
  · rename_i items more after done
    subst continued
    exact ⟨items, after, done, (movesOn 5 parts repeats _ _ _).moves items after done⟩
  · cases continued

end Reparse.Parser
