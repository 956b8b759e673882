import Reparse.Proofs.Parser.Termination

/-!
# A run is what the functions do

From one state a task has one run, so a parse is found by giving a run of it.
-/

namespace Reparse.Parser

variable {parser : Parser} {state after : ParseState}

theorem Runs.unique {depth : Nat} {task : Task} {outcome outcome' : Outcome} {after' : ParseState}
    (run : parser.Runs depth task state outcome after)
    (other : parser.Runs depth task state outcome' after') :
    outcome' = outcome ∧ after' = after := by
  -- The rules for a task exclude each other by their side conditions; those of one rule start from
  -- the same states by the induction hypotheses.
  induction run generalizing outcome' after' <;> cases other
  all_goals grind [Lacks]

theorem Runs.parseChain_ok {depth : Nat} {id : ExprId} {follow : KindSet} {nodes : List Tree}
    (run : parser.Runs depth (.chain id follow) state (.chain nodes) after) :
    parser.parseChain depth id follow state = .ok nodes after := by
  have reached := parser.follows_parseChain depth id follow state
  cases done : parser.parseChain depth id follow state with
  | ok nodes' after' =>
      rw [done] at reached
      obtain ⟨same, rfl⟩ := run.unique reached
      obtain rfl : nodes' = nodes := by simpa using same
      rfl
  | error stop after' =>
      rw [done] at reached
      simpa using (run.unique reached).1

theorem Runs.parseChain_error {depth : Nat} {id : ExprId} {follow : KindSet} {stop : Stop}
    (run : parser.Runs depth (.chain id follow) state (.stopped stop) after) :
    parser.parseChain depth id follow state = .error stop after := by
  have reached := parser.follows_parseChain depth id follow state
  cases done : parser.parseChain depth id follow state with
  | ok nodes' after' =>
      rw [done] at reached
      simpa using (run.unique reached).1
  | error stop' after' =>
      rw [done] at reached
      obtain ⟨same, rfl⟩ := run.unique reached
      obtain rfl : stop' = stop := by simpa using same
      rfl

theorem Finishes.run?_eq {start : NonTerminalId} {setsAnnounced : Bool} {run : Parser.Run}
    (finishes : parser.Finishes start setsAnnounced run) :
    parser.run? start setsAnnounced = some run := by
  unfold run? within
  dsimp only
  rw [← startState]
  cases finishes with
  | parsed run => rw [run.parseChain_ok]
  | aborted run => rw [run.parseChain_error]

/-- The parses that are found are those that finish. -/
theorem run?_eq_some_iff {start : NonTerminalId} {setsAnnounced : Bool} {run : Parser.Run} :
    parser.run? start setsAnnounced = some run ↔ parser.Finishes start setsAnnounced run := by
  constructor
  · intro found
    have follows := parser.follows_parseChain parser.depthLimit
    unfold run? within at found
    dsimp only at found
    rw [← startState] at found
    split at found
    · rename_i child after closed
      split at closed
      · rename_i nodes state done
        cases closed
        cases found
        exact .parsed (follows.of_ok done)
      · cases closed
    · rename_i expr found' after closed
      split at closed
      · cases closed
      · rename_i stop state failed
        cases closed
        cases found
        exact .aborted (follows.of_error failed)
    · cases found
  · exact Finishes.run?_eq

end Reparse.Parser
