import Reparse.Proofs.Parser.Runs
import Reparse.Proofs.Tree.Preorder

/-!
# How a run moves over the tokens

Whatever a run goes through, the current token is taken or skipped, or a missing node is put before
it.  `Reads` is the family of these motions with the leaves that they leave behind.
-/

namespace Reparse

/-- The states are at the same token, and the same tokens were skipped. -/
structure ParseState.SamePlace (state after : ParseState) : Prop where
  cursor : after.cursor = state.cursor
  skipped : after.skipped = state.skipped

def Outcome.Succeeds : Outcome → Prop
  | .stopped _ => False
  | _ => True

namespace Parser

variable {parser : Parser} {state after : ParseState}

theorem samePlace_note (state : ParseState) (event : Event) : state.SamePlace (state.note event) :=
  ⟨rfl, rfl⟩

theorem samePlace_leaveRegion (parser : Parser) (state : ParseState) :
    state.SamePlace (parser.leaveRegion state) := by
  unfold leaveRegion
  split <;> exact ⟨rfl, rfl⟩

theorem samePlace_observe (parser : Parser) (state : ParseState) :
    state.SamePlace (parser.observe state) := by
  unfold observe
  repeat' split
  · exact ⟨rfl, rfl⟩
  · exact ⟨rfl, rfl⟩
  · exact ⟨rfl, rfl⟩
  · have left := parser.samePlace_leaveRegion
    exact ⟨(left _).cursor, (left _).skipped⟩
  · exact ⟨rfl, rfl⟩

theorem samePlace_announceSets (parser : Parser) (state : ParseState) :
    state.SamePlace (parser.announceSets state) := by
  unfold announceSets
  split <;> exact ⟨rfl, rfl⟩

theorem samePlace_openFrame (parser : Parser) (name : NonTerminalId) (state : ParseState) :
    state.SamePlace (parser.openFrame name state) := ⟨rfl, rfl⟩

theorem samePlace_closeFrame (parser : Parser) (name : NonTerminalId) (cutShort : Bool)
    (state : ParseState) : state.SamePlace (parser.closeFrame name cutShort state) := by
  unfold closeFrame
  dsimp only
  split <;> exact ⟨rfl, rfl⟩

theorem cursor_lt_of_currentKind? {kind : TokenKind}
    (current : parser.currentKind? state = some kind) : state.cursor < parser.document.size := by
  unfold currentKind? at current
  split at current
  · simp at current
  · simp only [Document.token?, Option.map_eq_some_iff] at current
    obtain ⟨token, found, _⟩ := current
    exact (Array.getElem?_eq_some_iff.mp found).1

theorem samePlace_advance (inside : state.cursor < parser.document.size) :
    { state with cursor := state.cursor + 1 }.SamePlace (parser.advance state) := by
  unfold advance currentId?
  rw [if_pos inside]
  exact parser.samePlace_observe _

theorem samePlace_skip (inside : state.cursor < parser.document.size) :
    { state with
        cursor := state.cursor + 1
        skipped := state.skipped ++ [state.cursor] }.SamePlace
      (parser.skip state state.cursor) := by
  have advanced := samePlace_advance inside
  refine ⟨advanced.cursor, ?_⟩
  change (parser.advance state).skipped ++ _ = _
  rw [advanced.skipped]

/-- What happens to the tokens between two states, with the leaves it leaves behind. -/
inductive Reads (parser : Parser) : ParseState → List Tree → ParseState → Prop where
  | stays {state after : ParseState} : state.SamePlace after → Reads parser state [] after
  | takes {state : ParseState} {kind : TokenKind} (id : ExprId) :
      parser.currentKind? state = some kind →
      Reads parser state [.token id state.cursor] (parser.advance state)
  | misses {state : ParseState} (id : ExprId) :
      parser.leniency.toleratesErrors = true →
      Reads parser state [.missing id (parser.currentId? state)] (parser.noteMissing id state)
  | skips {state : ParseState} {kind : TokenKind} :
      parser.leniency.skipsUnknown = true → parser.currentKind? state = some kind →
      Reads parser state [] (parser.skip state state.cursor)
  | append {state middle after : ParseState} {first second : List Tree} :
      Reads parser state first middle → Reads parser middle second after →
      Reads parser state (first ++ second) after

namespace Reads

theorem before {middle : ParseState} {leaves : List Tree}
    (same : state.SamePlace middle) (reads : parser.Reads middle leaves after) :
    parser.Reads state leaves after := .append (.stays same) reads

theorem andThen {middle : ParseState} {leaves : List Tree}
    (reads : parser.Reads state leaves middle) (rest : parser.Reads middle [] after) :
    parser.Reads state leaves after := by
  simpa using Reads.append reads rest

theorem andStays {middle : ParseState} {leaves : List Tree}
    (reads : parser.Reads state leaves middle) (same : middle.SamePlace after) :
    parser.Reads state leaves after := reads.andThen (.stays same)

end Reads

theorem reads_skipWithin
    (skipsUnknown : parser.leniency.skipsUnknown = true) (sets : List KindSet) (count : Nat)
    (state : ParseState) : parser.Reads state [] (parser.skipWithin sets count state) := by
  induction count generalizing state with
  | zero => exact .stays ⟨rfl, rfl⟩
  | succ count induction =>
      unfold skipWithin
      split
      · exact .stays ⟨rfl, rfl⟩
      · rename_i kind current
        split
        · exact .stays ⟨rfl, rfl⟩
        · exact .append (.skips skipsUnknown current) (induction _)

theorem reads_arrive (id : ExprId) (follow : KindSet) (state : ParseState) :
    parser.Reads state [] (parser.arrive id follow state) := by
  unfold arrive
  dsimp only
  have announced :
      parser.Reads state []
        (if parser.usesSets (parser.grammar.expr id) then parser.announceSets state
          else state) := by
    split
    · exact .stays (parser.samePlace_announceSets state)
    · exact .stays ⟨rfl, rfl⟩
  split
  · rename_i skipsUnknown
    exact announced.andThen (reads_skipWithin skipsUnknown _ _ _)
  · exact announced

theorem reads_settle (plan : RepetitionPlan) (state : ParseState) :
    parser.Reads state [] (parser.settle plan state) := by
  unfold settle
  split
  · rename_i skipsUnknown
    exact reads_skipWithin skipsUnknown _ _ _
  · exact .stays ⟨rfl, rfl⟩

open Reparse.Tree in
/-- A run that succeeds reads the leaves of what came out of it. -/
theorem Runs.reads {depth : Nat} {task : Task} {outcome : Outcome}
    (run : parser.Runs depth task state outcome after) (succeeds : outcome.Succeeds) :
    parser.Reads state (leavesIn outcome.chains) after := by
  induction run with
  | exhausted | stoppedFirst | stoppedNext | aborted | enteredStopped | optionalStopped
  | alternationStopped | repetitionStopped | ledStopped | leadStopped | filledStopped
  | noRoundsLeft | roundStopped | moreStopped | contentStopped | separatorStopped =>
      exact succeeds.elim
  | last _ _ element => exact (reads_arrive _ _ _).append (element trivial)
  | cons _ _ _ element rest =>
      rw [Outcome.chains, leavesIn_chain_cons]
      exact ((reads_arrive _ _ _).append (element trivial)).append (rest trivial)
  | token current =>
      simpa [Outcome.chains] using Reads.takes _ current
  | missing tolerant =>
      simpa [Outcome.chains] using Reads.misses _ tolerant
  | entered _ _ child =>
      simp only [Outcome.chains, leavesIn_nonTerminal]
      exact ((child trivial).before (parser.samePlace_openFrame _ _)).andStays
        (parser.samePlace_closeFrame _ _ _)
  | absent | empty | optionalAbsent =>
      simpa [Outcome.chains] using Reads.stays ⟨rfl, rfl⟩
  | optional _ _ child =>
      simpa [Outcome.chains] using child trivial
  | alternation _ _ child =>
      simpa [Outcome.chains] using child trivial
  | repetition _ items =>
      simpa [Outcome.chains] using items trivial
  | led _ _ separator => exact separator trivial
  | unled => exact .stays ⟨rfl, rfl⟩
  | leadOnly _ _ lead => exact lead trivial
  | filled _ _ _ lead rest =>
      simp only [Outcome.chains, leavesIn_append]
      exact (lead trivial).append (rest trivial)
  | lastRound _ items => exact items trivial
  | stuckRound _ _ items => exact (items trivial).andStays (samePlace_note _ _)
  | moreRounds _ _ _ items rest =>
      simp only [Outcome.chains, leavesIn_append]
      exact (items trivial).append (rest trivial)
  | joined _ _ content =>
      simp only [Outcome.chains, leavesIn_cons _ [_], leavesIn_empty, List.append_nil]
      exact (content trivial).andThen (reads_settle _ _)
  | separated _ _ _ _ content separator | ended _ _ _ _ _ content separator =>
      simp only [Outcome.chains, leavesIn_cons _ [_]]
      exact ((content trivial).andThen (reads_settle _ _)).append (separator trivial)
  | closed _ _ _ _ content => exact (content trivial).andThen (reads_settle _ _)

end Parser

end Reparse
