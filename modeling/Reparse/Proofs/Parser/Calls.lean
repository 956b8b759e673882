import Reparse.Proofs.Parser.Coverage
import Reparse.Proofs.Parser.Determinism

/-!
# The tree of calls

Here the tasks of the descent call each other without a bound on depth or rounds.  Without left
recursion the calls still come to an end on every path, so neither bound ever shows.

Main statement: `run?_terminates`.
-/

namespace Reparse.Parser

variable {parser : Parser} {state after : ParseState}

/-- One task has another one done, from the state in which it does so.  What was done before is
told by runs of any depth, and rounds may follow each other in any number. -/
inductive Calls (parser : Parser) : Task × ParseState → Task × ParseState → Prop where
  | element {id : ExprId} {follow : KindSet} {state : ParseState} :
      Calls parser (.chain id follow, state)
        (.element id (parser.followOfElement id follow) (parser.grammar.expr id).element,
          parser.arrive id follow state)
  | next {depth : Nat} {id next : ExprId} {follow : KindSet} {state middle : ParseState}
      {node : Tree} :
      (parser.grammar.expr id).next = some next →
      parser.Runs depth
        (.element id (parser.followOfElement id follow) (parser.grammar.expr id).element)
        (parser.arrive id follow state) (.node node) middle →
      Calls parser (.chain id follow, state) (.chain next follow, middle)
  | rule {id : ExprId} {follow : KindSet} {state : ParseState} {name : NonTerminalId} :
      parser.at? state (parser.prediction.firstOf (parser.grammar.ruleOf name)).tokens = true →
      Calls parser (.element id follow (.nonTerminal name), state)
        (.chain (parser.grammar.ruleOf name) follow, parser.openFrame name state)
  | inner {id inner : ExprId} {follow : KindSet} {state : ParseState} :
      parser.at? state (parser.prediction.firstOf inner).tokens = true →
      Calls parser (.element id follow (.optional inner), state) (.chain inner follow, state)
  | branch {id branch : ExprId} {follow : KindSet} {state : ParseState}
      {branches : List ExprId} :
      parser.chooseBranch state branches = some branch →
      Calls parser (.element id follow (.alternation branches), state)
        (.chain branch follow, state)
  | repetition {id : ExprId} {follow : KindSet} {state : ParseState} {parts : Repetition} :
      Calls parser (.element id follow (.repetition parts), state)
        (.repetition parts follow, state)
  | lead {parts : Repetition} {follow : KindSet} {state : ParseState} :
      Calls parser (.repetition parts follow, state) (.lead parts follow, state)
  | leadingSeparator {parts : Repetition} {follow : KindSet} {state : ParseState} :
      parser.leads state (parser.planRepetition parts follow) = true →
      Calls parser (.lead parts follow, state)
        (.chain parts.separator (parser.planRepetition parts follow).afterSeparator, state)
  | rounds {depth : Nat} {parts : Repetition} {follow : KindSet} {state middle : ParseState}
      {items : List (List Tree)} (count : Nat) :
      parser.Runs depth (.lead parts follow) state (.items items) middle →
      parser.currentKind? middle ≠ none →
      Calls parser (.repetition parts follow, state) (.rounds parts follow count, middle)
  | round {parts : Repetition} {follow : KindSet} {state : ParseState} {count : Nat} :
      Calls parser (.rounds parts follow count, state) (.round parts follow, state)
  | moreRounds {depth : Nat} {parts : Repetition} {follow : KindSet} {state middle : ParseState}
      {items : List (List Tree)} {count : Nat} (count' : Nat) :
      parser.Runs depth (.round parts follow) state (.round items true) middle →
      middle.cursor ≠ state.cursor →
      Calls parser (.rounds parts follow count, state) (.rounds parts follow count', middle)
  | content {parts : Repetition} {follow : KindSet} {state : ParseState} :
      Calls parser (.round parts follow, state)
        (.chain parts.content (parser.planRepetition parts follow).afterContent, state)
  | separator {depth : Nat} {parts : Repetition} {follow : KindSet} {state middle : ParseState}
      {content : List Tree} :
      parser.Runs depth (.chain parts.content (parser.planRepetition parts follow).afterContent)
        state (.chain content) middle →
      parser.joins (parser.settle (parser.planRepetition parts follow) middle)
        (parser.planRepetition parts follow) = false →
      (parser.at? (parser.settle (parser.planRepetition parts follow) middle)
          (parser.prediction.firstOf parts.separator).tokens = true ∨
        parts.trailing = .required) →
      Calls parser (.round parts follow, state)
        (.chain parts.separator (parser.planRepetition parts follow).afterSeparator,
          parser.settle (parser.planRepetition parts follow) middle)

/-- Every path of calls from the task comes to an end. -/
def Ends (parser : Parser) (task : Task) (state : ParseState) : Prop :=
  Acc (fun callee caller : Task × ParseState => parser.Calls caller callee) (task, state)

/-! ## No path of calls goes on without end -/

section Ends

variable {depth : Nat} {id bound : ExprId} {follow : KindSet} {parts : Repetition}
  {names : List NonTerminalId}

/-- Where there is room for a chain at the depth, the calls from it come to an end. -/
def ChainsEnd (parser : Parser) (depth : Nat) : Prop :=
  ∀ {id follow state bound names},
    parser.Room depth (.chain id follow) state bound names → parser.Ends (.chain id follow) state

theorem Room.ends_round (predictive : parser.Predictive) (chains : parser.ChainsEnd depth)
    (room : parser.Room depth (.round parts follow) state bound names) :
    parser.Ends (.round parts follow) state := by
  constructor
  rintro ⟨task, after⟩ calls
  cases calls with
  | content =>
      obtain ⟨names', room⟩ := room.content predictive
      exact chains room
  | separator content =>
      obtain ⟨names', room⟩ := room.separator predictive content
      exact chains room

/-- Each round that another one follows leaves fewer tokens. -/
theorem Room.ends_rounds (predictive : parser.Predictive) (chains : parser.ChainsEnd depth)
    (room : parser.Room depth (.round parts follow) state bound names) (count : Nat) :
    parser.Ends (.rounds parts follow count) state := by
  induction left : parser.document.size - state.cursor using Nat.strong_induction_on
    generalizing state names count with
  | _ left induction =>
      constructor
      rintro ⟨task, after⟩ calls
      cases calls with
      | round => exact room.ends_round predictive chains
      | moreRounds count' round moved =>
          have reads := round.reads trivial
          have le := reads.cursor_le
          have inside := reads.inside room.inside
          obtain ⟨names', room⟩ := room.nextRound round moved
          exact induction _ (by lia) room count' rfl

theorem Room.ends_repetition (predictive : parser.Predictive) (chains : parser.ChainsEnd depth)
    (room : parser.Room depth (.repetition parts follow) state bound names) :
    parser.Ends (.repetition parts follow) state := by
  constructor
  rintro ⟨task, after⟩ calls
  cases calls with
  | lead =>
      obtain ⟨names', room⟩ := room.lead predictive
      constructor
      rintro ⟨task, after⟩ calls
      cases calls with
      | leadingSeparator leads =>
          obtain ⟨names', room⟩ := room.leadingSeparator predictive leads
          exact chains room
  | rounds count lead _ =>
      obtain ⟨names', room⟩ := room.rounds predictive lead
      obtain ⟨names', room⟩ := room.round
      exact room.ends_rounds predictive chains count

theorem Room.ends_element {element : Element} (predictive : parser.Predictive)
    (terminating : ¬ parser.grammar.LeftRecursive) (chains : parser.ChainsEnd depth)
    (room : parser.Room depth (.element id follow element) state bound names) :
    parser.Ends (.element id follow element) state := by
  constructor
  rintro ⟨task, after⟩ calls
  cases calls with
  | rule starts => exact chains (room.enter predictive terminating starts)
  | inner starts =>
      obtain ⟨names', room⟩ := room.inner predictive starts
      exact chains room
  | branch chosen =>
      obtain ⟨names', room⟩ := room.branch predictive chosen
      exact chains room
  | repetition =>
      obtain ⟨names', room⟩ := room.items
      exact room.ends_repetition predictive chains

theorem chainsEnd (predictive : parser.Predictive) (terminating : ¬ parser.grammar.LeftRecursive)
    (depth : Nat) : parser.ChainsEnd depth := by
  induction depth with
  | zero =>
      intro id follow state bound names room
      have below : id < bound := room.within
      have depth_le := room.depth_le
      lia
  | succ depth induction =>
      intro id follow state bound names room
      constructor
      rintro ⟨task, after⟩ calls
      cases calls with
      | element =>
          obtain ⟨names', room⟩ := room.firstElement predictive
          exact room.ends_element predictive terminating induction
      | next following element =>
          obtain ⟨names', room⟩ := room.rest predictive following element
          exact induction room

end Ends

/-! ## A larger depth changes nothing -/

/-- A run that the depth did not end is a run at every larger depth. -/
theorem Runs.deepen {depth larger : Nat} {task : Task} {outcome : Outcome}
    (run : parser.Runs depth task state outcome after) (finite : outcome ≠ .stopped .endless)
    (le : depth ≤ larger) : parser.Runs larger task state outcome after := by
  induction run generalizing larger with
  | exhausted | noRoundsLeft => exact (finite rfl).elim
  | last following _ element =>
      obtain ⟨larger, rfl⟩ := Nat.exists_eq_add_of_le' (Nat.one_le_of_lt le)
      exact .last following (element (by simp) (Nat.le_of_succ_le_succ le))
  | cons following _ _ element rest =>
      obtain ⟨larger, rfl⟩ := Nat.exists_eq_add_of_le' (Nat.one_le_of_lt le)
      have le := Nat.le_of_succ_le_succ le
      exact .cons following (element (by simp) le) (rest (by simp) le)
  | stoppedFirst _ element =>
      obtain ⟨larger, rfl⟩ := Nat.exists_eq_add_of_le' (Nat.one_le_of_lt le)
      exact .stoppedFirst (element (by simpa using finite) (Nat.le_of_succ_le_succ le))
  | stoppedNext following _ _ element rest =>
      obtain ⟨larger, rfl⟩ := Nat.exists_eq_add_of_le' (Nat.one_le_of_lt le)
      have le := Nat.le_of_succ_le_succ le
      exact .stoppedNext following (element (by simp) le) (rest (by simpa using finite) le)
  | token found => exact .token found
  | missing tolerant lacks => exact .missing tolerant lacks
  | aborted strict lacks => exact .aborted strict lacks
  | entered starts _ child => exact .entered starts (child (by simp) le)
  | enteredStopped starts _ child =>
      exact .enteredStopped starts (child (by simpa using finite) le)
  | absent other nullable => exact .absent other nullable
  | empty => exact .empty
  | optional starts _ child => exact .optional starts (child (by simp) le)
  | optionalStopped starts _ child =>
      exact .optionalStopped starts (child (by simpa using finite) le)
  | optionalAbsent other => exact .optionalAbsent other
  | alternation chosen _ child => exact .alternation chosen (child (by simp) le)
  | alternationStopped chosen _ child =>
      exact .alternationStopped chosen (child (by simpa using finite) le)
  | repetition _ items => exact .repetition (items (by simp) le)
  | repetitionStopped _ items => exact .repetitionStopped (items (by simpa using finite) le)
  | led leads _ separator => exact .led leads (separator (by simp) le)
  | ledStopped leads _ separator => exact .ledStopped leads (separator (by simpa using finite) le)
  | unled unled => exact .unled unled
  | leadOnly _ ended lead => exact .leadOnly (lead (by simp) le) ended
  | leadStopped _ lead => exact .leadStopped (lead (by simpa using finite) le)
  | filled _ more _ lead rounds => exact .filled (lead (by simp) le) more (rounds (by simp) le)
  | filledStopped _ more _ lead rounds =>
      exact .filledStopped (lead (by simp) le) more (rounds (by simpa using finite) le)
  | lastRound _ round => exact .lastRound (round (by simp) le)
  | stuckRound _ stuck round => exact .stuckRound (round (by simp) le) stuck
  | moreRounds _ moved _ round rest =>
      exact .moreRounds (round (by simp) le) moved (rest (by simp) le)
  | roundStopped _ round => exact .roundStopped (round (by simpa using finite) le)
  | moreStopped _ moved _ round rest =>
      exact .moreStopped (round (by simp) le) moved (rest (by simpa using finite) le)
  | contentStopped _ content => exact .contentStopped (content (by simpa using finite) le)
  | joined _ joins content => exact .joined (content (by simp) le) joins
  | separated _ apart separates _ content separator =>
      exact .separated (content (by simp) le) apart separates (separator (by simp) le)
  | ended _ apart unseparated required _ content separator =>
      exact .ended (content (by simp) le) apart unseparated required (separator (by simp) le)
  | separatorStopped _ apart follows _ content separator =>
      exact .separatorStopped (content (by simp) le) apart follows
        (separator (by simpa using finite) le)
  | closed _ apart unseparated open' content =>
      exact .closed (content (by simp) le) apart unseparated open'

/-- At whatever depth a task comes to an end, it comes to the same outcome. -/
theorem Runs.same_of_finite {depth depth' : Nat} {task : Task} {outcome outcome' : Outcome}
    {after' : ParseState} (run : parser.Runs depth task state outcome after)
    (other : parser.Runs depth' task state outcome' after') (finite : outcome ≠ .stopped .endless)
    (finite' : outcome' ≠ .stopped .endless) : outcome' = outcome ∧ after' = after :=
  (run.deepen finite (Nat.le_max_left depth depth')).unique
    (other.deepen finite' (Nat.le_max_right depth depth'))

theorem Runs.same {depth depth' : Nat} {task : Task} {outcome outcome' : Outcome}
    {after' : ParseState} (run : parser.Runs depth task state outcome after)
    (other : parser.Runs depth' task state outcome' after') (succeeds : outcome.Succeeds)
    (succeeds' : outcome'.Succeeds) : outcome' = outcome ∧ after' = after := by
  have finite : ∀ {outcome : Outcome}, outcome.Succeeds → outcome ≠ .stopped .endless := by
    rintro outcome succeeds rfl
    exact succeeds
  exact run.same_of_finite other (finite succeeds) (finite succeeds')

theorem parseChain_of_le {depth larger : Nat} {id bound : ExprId} {follow : KindSet}
    {names : List NonTerminalId} (predictive : parser.Predictive)
    (terminating : ¬ parser.grammar.LeftRecursive)
    (room : parser.Room depth (.chain id follow) state bound names) (le : depth ≤ larger) :
    parser.parseChain larger id follow state = parser.parseChain depth id follow state := by
  have follows := parser.follows_parseChain depth
  cases done : parser.parseChain depth id follow state with
  | ok nodes after =>
      exact ((follows.of_ok done).deepen (by simp) le).parseChain_ok
  | error stop after =>
      have run := follows.of_error done
      exact (run.deepen (run.finite predictive terminating room) le).parseChain_error

/-! ## The loops that skip -/

theorem skipWithin_ends {sets : List KindSet} {kind : TokenKind} {count : Nat}
    (enough : parser.document.size - state.cursor ≤ count)
    (current : parser.currentKind? (parser.skipWithin sets count state) = some kind) :
    sets.any (·.contains kind) = true := by
  induction count generalizing state with
  | zero =>
      have inside := cursor_lt_of_currentKind? current
      rw [skipWithin] at inside
      lia
  | succ count induction =>
      rw [skipWithin] at current
      cases here : parser.currentKind? state with
      | none =>
          simp only [here] at current
          cases current
      | some found =>
          simp only [here] at current
          by_cases wanted : sets.any (·.contains found) = true
          · rw [if_pos wanted] at current
            cases here.symm.trans current
            exact wanted
          · rw [if_neg wanted] at current
            have skipped := (samePlace_skip (cursor_lt_of_currentKind? here)).cursor
            exact induction (by rw [skipped]; lia) current

theorem skipWithin_of_le {sets : List KindSet} {count larger : Nat}
    (enough : parser.document.size - state.cursor ≤ count) (le : count ≤ larger) :
    parser.skipWithin sets larger state = parser.skipWithin sets count state := by
  induction count generalizing state larger with
  | zero =>
      cases larger with
      | zero => rfl
      | succ larger =>
          cases here : parser.currentKind? state with
          | none => simp only [skipWithin, here]
          | some kind =>
              have inside := cursor_lt_of_currentKind? here
              lia
  | succ count induction =>
      obtain ⟨larger, rfl⟩ := Nat.exists_eq_add_of_le' (Nat.one_le_of_lt le)
      unfold skipWithin
      cases here : parser.currentKind? state with
      | none => rfl
      | some kind =>
          have skipped := (samePlace_skip (cursor_lt_of_currentKind? here)).cursor
          dsimp only
          rw [induction (by rw [skipped]; lia) (Nat.le_of_succ_le_succ le)]

/-- The skipping of tokens ends at one that a set holds, or where no token is left or visible. -/
theorem skipUpTo_ends {sets : List KindSet} {kind : TokenKind}
    (current : parser.currentKind? (parser.skipUpTo sets state) = some kind) :
    sets.any (·.contains kind) = true :=
  skipWithin_ends (Nat.le_refl _) current

/-! ## Every parse comes to an end -/

/-- What ends a parse are the calls and loops themselves and none of the bounds on them. -/
structure Terminates (parser : Parser) (start : NonTerminalId) (setsAnnounced : Bool) : Prop where
  calls : parser.Ends (.chain (parser.grammar.ruleOf start) .empty)
    (parser.startState start setsAnnounced)
  depth : ∀ depth, parser.depthLimit ≤ depth →
    parser.parseChain depth (parser.grammar.ruleOf start) .empty
        (parser.startState start setsAnnounced) =
      parser.parseChain parser.depthLimit (parser.grammar.ruleOf start) .empty
        (parser.startState start setsAnnounced)
  skips : ∀ sets state kind, parser.currentKind? (parser.skipUpTo sets state) = some kind →
    sets.any (·.contains kind) = true
  returns : ∃ run, parser.run? start setsAnnounced = some run

/-- Without left recursion every document has a parse, whatever was edited and whatever the
leniency. -/
theorem run?_terminates (grammar : Grammar) (document : Document) (leniency : Leniency)
    (start : NonTerminalId) (setsAnnounced : Bool)
    (built : grammar.Built) (terminating : ¬ grammar.LeftRecursive) :
    Terminates ⟨grammar, grammar.predict, document, leniency⟩ start setsAnnounced := by
  have predictive : Predictive ⟨grammar, grammar.predict, document, leniency⟩ :=
    ⟨built.ordered, rfl⟩
  have room : Room ⟨grammar, grammar.predict, document, leniency⟩
      (depthLimit ⟨grammar, grammar.predict, document, leniency⟩)
      (.chain (grammar.ruleOf start) .empty)
      (startState ⟨grammar, grammar.predict, document, leniency⟩ start setsAnnounced)
      grammar.exprs.size [] :=
    room_of_depthLimit_le (predictive.ordered.rule_lt start)
      ((startState_cursor ..).trans_le (Nat.zero_le _)) (Nat.le_refl _)
  obtain ⟨run, done, -⟩ := run?_finishes predictive terminating start setsAnnounced
  exact {
    calls := chainsEnd predictive terminating _ room
    depth := fun depth le => parseChain_of_le predictive terminating room le
    skips := fun sets state kind => skipUpTo_ends
    returns := ⟨run, done⟩ }

theorem run?_terminates_bracketDocument :
    Terminates ⟨Grammar.bracketLists, Grammar.bracketLists.predict, bracketDocument, .standard⟩
      0 false :=
  run?_terminates _ bracketDocument .standard 0 false Grammar.built_bracketLists
    Grammar.not_leftRecursive_bracketLists

end Reparse.Parser
