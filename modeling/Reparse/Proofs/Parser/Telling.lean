import Reparse.Proofs.Parser.Runs

/-!
# What is told on the way

Nothing takes back what was told before.  Only a repetition tells that there was no progress, when a
round ends where it began and another one has to come.
-/

namespace Reparse.Parser

/-- A round that another one follows may end where it began. -/
def Sticks (parser : Parser) : Prop :=
  ∃ depth parts follow state items after,
    parser.Runs depth (.round parts follow) state (.round items true) after ∧
      after.cursor = state.cursor

/-- What was told before is still told, and only a stuck repetition tells that there was no
progress. -/
structure Tells (parser : Parser) (log later : Log) : Prop where
  remembers : ∀ event ∈ log, event ∈ later
  unstuck : Event.noProgress ∈ later → Event.noProgress ∈ log ∨ parser.Sticks

variable {parser : Parser} {state after : ParseState}

namespace Tells

variable {log between later : Log} {event : Event}

theorem refl (log : Log) : parser.Tells log log := ⟨fun _ told => told, .inl⟩

theorem trans (first : parser.Tells log between) (rest : parser.Tells between later) :
    parser.Tells log later where
  remembers event told := rest.remembers event (first.remembers event told)
  unstuck stuck := (rest.unstuck stuck).elim first.unstuck .inr

theorem push (sticks : event = .noProgress → parser.Sticks) :
    parser.Tells log (log.push event) where
  remembers _ told := Array.mem_push_of_mem _ told
  unstuck stuck := (Array.mem_push.mp stuck).imp_right fun same => sticks same.symm

end Tells

theorem tells_leaveRegion (parser : Parser) (state : ParseState) :
    parser.Tells state.log (parser.leaveRegion state).log := by
  unfold leaveRegion
  split
  · exact .refl _
  · exact .push (by simp)

theorem tells_observe (parser : Parser) (state : ParseState) :
    parser.Tells state.log (parser.observe state).log := by
  unfold observe
  repeat' split
  · exact .refl _
  · exact .refl _
  · exact .push (by simp)
  · refine .trans ?_ (parser.tells_leaveRegion _)
    exact .push (by simp)
  · exact .refl _

theorem tells_advance (parser : Parser) (state : ParseState) :
    parser.Tells state.log (parser.advance state).log := by
  unfold advance
  split
  · exact parser.tells_observe state
  · exact parser.tells_observe { state with cursor := state.cursor + 1 }

theorem tells_skip (parser : Parser) (state : ParseState) (id : TokenId) :
    parser.Tells state.log (parser.skip state id).log :=
  (parser.tells_advance state).trans (.push (by simp))

theorem tells_skipWithin (parser : Parser) (sets : List KindSet) (count : Nat)
    (state : ParseState) : parser.Tells state.log (parser.skipWithin sets count state).log := by
  induction count generalizing state with
  | zero => exact .refl _
  | succ count induction =>
      unfold skipWithin
      repeat' split
      · exact .refl _
      · exact .refl _
      · exact (parser.tells_skip _ _).trans (induction _)

theorem tells_announceSets (parser : Parser) (state : ParseState) :
    parser.Tells state.log (parser.announceSets state).log := by
  unfold announceSets
  split
  · exact .refl _
  · exact .push (by simp)

theorem tells_arrive (parser : Parser) (id : ExprId) (follow : KindSet) (state : ParseState) :
    parser.Tells state.log (parser.arrive id follow state).log := by
  have announced : parser.Tells state.log
      (if parser.usesSets (parser.grammar.expr id) then parser.announceSets state
        else state).log := by
    split
    · exact parser.tells_announceSets state
    · exact .refl _
  unfold arrive
  dsimp only
  split
  · exact announced.trans (parser.tells_skipWithin _ _ _)
  · exact announced

theorem tells_settle (parser : Parser) (plan : RepetitionPlan) (state : ParseState) :
    parser.Tells state.log (parser.settle plan state).log := by
  unfold settle
  split
  · exact parser.tells_skipWithin _ _ _
  · exact .refl _

theorem tells_noteMissing (parser : Parser) (id : ExprId) (state : ParseState) :
    parser.Tells state.log (parser.noteMissing id state).log :=
  .push (by simp)

theorem tells_openFrame (parser : Parser) (name : NonTerminalId) (state : ParseState) :
    parser.Tells state.log (parser.openFrame name state).log :=
  .push (by simp)

theorem tells_closeFrame (parser : Parser) (name : NonTerminalId) (cutShort : Bool)
    (state : ParseState) : parser.Tells state.log (parser.closeFrame name cutShort state).log := by
  unfold closeFrame
  dsimp only
  split
  · exact .trans (.push (by simp)) (.push (by simp))
  · exact .push (by simp)

theorem tells_skipRest (parser : Parser) (count : Nat) (state : ParseState) :
    parser.Tells state.log (parser.skipRest count state).log := by
  induction count generalizing state with
  | zero => exact .refl _
  | succ count induction =>
      unfold skipRest
      split
      · exact .refl _
      · refine .trans ?_ (induction _)
        exact .push (by simp)

theorem tells_sweep (parser : Parser) (state : ParseState) :
    parser.Tells state.log (parser.sweep state).log := by
  unfold sweep
  split
  · exact parser.tells_skipRest _ _
  · exact .refl _

theorem Runs.tells {depth : Nat} {task : Task} {outcome : Outcome}
    (run : parser.Runs depth task state outcome after) : parser.Tells state.log after.log := by
  induction run with
  | exhausted | unled | noRoundsLeft | absent | empty | optionalAbsent => exact .refl _
  | missing | aborted => exact parser.tells_noteMissing _ _
  | token => exact parser.tells_advance _
  | last _ _ element | stoppedFirst _ element =>
      exact (parser.tells_arrive _ _ _).trans element
  | cons _ _ _ element chain | stoppedNext _ _ _ element chain =>
      exact ((parser.tells_arrive _ _ _).trans element).trans chain
  | entered _ _ chain | enteredStopped _ _ chain =>
      exact ((parser.tells_openFrame _ _).trans chain).trans (parser.tells_closeFrame _ _ _)
  | optional _ _ part | optionalStopped _ _ part | alternation _ _ part
  | alternationStopped _ _ part | repetition _ part | repetitionStopped _ part
  | led _ _ part | ledStopped _ _ part | leadOnly _ _ part | leadStopped _ part
  | lastRound _ part | roundStopped _ part | contentStopped _ part => exact part
  | filled _ _ _ lead rounds | filledStopped _ _ _ lead rounds => exact lead.trans rounds
  | stuckRound run stuck round => exact round.trans (.push fun _ => ⟨_, _, _, _, _, _, run, stuck⟩)
  | moreRounds _ _ _ round rounds | moreStopped _ _ _ round rounds => exact round.trans rounds
  | joined _ _ content | closed _ _ _ _ content => exact content.trans (parser.tells_settle _ _)
  | separated _ _ _ _ content separator | ended _ _ _ _ _ content separator
  | separatorStopped _ _ _ _ content separator =>
      exact (content.trans (parser.tells_settle _ _)).trans separator

end Reparse.Parser
