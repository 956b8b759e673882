import Mathlib.Logic.Relation
import Reparse.Proofs.Parser.Calls

/-!
# Parses step by step

A parse is a path of steps, each of which does one thing to the state.  What holds at the beginning
and is kept by every step holds in every state of a parse.  Runs are related to paths by way of
`Builds`, which keeps account of the nodes that were made.
-/

namespace Reparse.Parser

open Reparse.Tree

def skipTrailing (parser : Parser) (state : ParseState) : ParseState :=
  { state.note (.skippingTrailing (parser.shown state.cursor)) with
    cursor := state.cursor + 1
    skipped := state.skipped ++ [state.cursor] }

/-- One step of a parse.  Within a rule a token is taken or skipped only where it is visible. -/
inductive Step (parser : Parser) (start : NonTerminalId) : ParseState → ParseState → Prop where
  | observes (announced : Bool) :
      Step parser start (.initial announced) (parser.observe (.initial announced))
  | starts (announced : Bool) :
      Step parser start (parser.observe (.initial announced)) (parser.startState start announced)
  | tells {state after : ParseState} : state.Unmoved after → Step parser start state after
  | takes {state : ParseState} {kind : TokenKind} :
      state.frames ≠ [] → parser.currentKind? state = some kind →
      Step parser start state (parser.advance state)
  | skips {state : ParseState} {kind : TokenKind} :
      state.frames ≠ [] → parser.leniency.skipsUnknown = true →
      parser.currentKind? state = some kind →
      Step parser start state (parser.skip state state.cursor)
  | enters {state : ParseState} {name : NonTerminalId} :
      state.frames ≠ [] →
      parser.at? state (parser.prediction.firstOf (parser.grammar.ruleOf name)).tokens = true →
      Step parser start state (parser.openFrame name state)
  | returns {state : ParseState} {frame : Frame} {rest : List Frame} (cutShort : Bool) :
      state.frames = frame :: rest →
      Step parser start state (parser.closeFrame frame.nonTerminal cutShort state)
  /-- The rest of the text is skipped after the start rule. -/
  | trails {state : ParseState} :
      state.frames = [] → parser.leniency.skipsUnknown = true →
      state.cursor < parser.document.size → Step parser start state (parser.skipTrailing state)

/-- The states of the parses that start with a non-terminal. -/
def Reachable (parser : Parser) (start : NonTerminalId) (announced : Bool) : ParseState → Prop :=
  Relation.ReflTransGen (parser.Step start) (.initial announced)

/-- Nodes that neither consume a token nor stand for a rule that was entered. -/
def Bare : Tree → Prop
  | .token .. => False
  | .nonTerminal _ _ child => child = []
  | _ => True

/-- Between the states the parser made the nodes, in preorder, and left the rules that it
entered. -/
inductive Builds (parser : Parser) : ParseState → List Tree → ParseState → Prop where
  | tells {state after : ParseState} : state.Unmoved after → Builds parser state [] after
  | takes {state : ParseState} {kind : TokenKind} (id : ExprId) :
      parser.currentKind? state = some kind →
      Builds parser state [.token id state.cursor] (parser.advance state)
  | skips {state : ParseState} {kind : TokenKind} :
      parser.leniency.skipsUnknown = true → parser.currentKind? state = some kind →
      Builds parser state [] (parser.skip state state.cursor)
  | makes {state : ParseState} {node : Tree} : Bare node → Builds parser state [node] state
  | returns {depth : Nat} {id : ExprId} {name : NonTerminalId} {follow : KindSet}
      {state after : ParseState} {child : List Tree} :
      parser.at? state (parser.prediction.firstOf (parser.grammar.ruleOf name)).tokens = true →
      parser.Runs depth (.chain (parser.grammar.ruleOf name) follow) (parser.openFrame name state)
        (.chain child) after →
      Builds parser (parser.openFrame name state) (chainPreorder child) after →
      Builds parser state (.nonTerminal id name child :: chainPreorder child)
        (parser.closeFrame name false after)
  | cutShort {name : NonTerminalId} {state after : ParseState} {nodes : List Tree} :
      parser.at? state (parser.prediction.firstOf (parser.grammar.ruleOf name)).tokens = true →
      Builds parser (parser.openFrame name state) nodes after →
      Builds parser state nodes (parser.closeFrame name true after)
  | append {state middle after : ParseState} {first second : List Tree} :
      Builds parser state first middle → Builds parser middle second after →
      Builds parser state (first ++ second) after

variable {parser : Parser} {start : NonTerminalId} {announced : Bool}
  {state middle after : ParseState}

/-! ## Runs build nodes -/

namespace Builds

theorem refl (state : ParseState) : parser.Builds state [] state := .tells (.refl state)

theorem andThen {nodes : List Tree} (builds : parser.Builds state nodes middle)
    (rest : parser.Builds middle [] after) : parser.Builds state nodes after := by
  simpa using Builds.append builds rest

/-- A node of its own comes before the nodes below it. -/
theorem under {node : Tree} {nodes : List Tree} (bare : Bare node)
    (builds : parser.Builds state nodes after) : parser.Builds state (node :: nodes) after :=
  .append (.makes bare) builds

end Builds

theorem builds_skipWithin (skipsUnknown : parser.leniency.skipsUnknown = true)
    (sets : List KindSet) (count : Nat) (state : ParseState) :
    parser.Builds state [] (parser.skipWithin sets count state) := by
  induction count generalizing state with
  | zero => exact .refl state
  | succ count induction =>
      unfold skipWithin
      split
      · exact .refl state
      · rename_i kind current
        split
        · exact .refl state
        · exact (Builds.skips skipsUnknown current).andThen (induction _)

theorem builds_arrive (id : ExprId) (follow : KindSet) (state : ParseState) :
    parser.Builds state [] (parser.arrive id follow state) := by
  unfold arrive
  dsimp only
  have announced :
      parser.Builds state []
        (if parser.usesSets (parser.grammar.expr id) then parser.announceSets state
          else state) := by
    split
    · exact .tells (parser.unmoved_announceSets state)
    · exact .refl state
  split
  · rename_i skipsUnknown
    exact announced.andThen (builds_skipWithin skipsUnknown _ _ _)
  · exact announced

theorem builds_settle (plan : RepetitionPlan) (state : ParseState) :
    parser.Builds state [] (parser.settle plan state) := by
  unfold settle
  split
  · rename_i skipsUnknown
    exact builds_skipWithin skipsUnknown _ _ _
  · exact .refl state

theorem Runs.builds {depth : Nat} {task : Task} {outcome : Outcome}
    (run : parser.Runs depth task state outcome after) (succeeds : outcome.Succeeds) :
    parser.Builds state (chainsPreorder outcome.chains) after := by
  induction run with
  | exhausted | stoppedFirst | stoppedNext | aborted | enteredStopped | optionalStopped
  | alternationStopped | repetitionStopped | ledStopped | leadStopped | filledStopped
  | noRoundsLeft | roundStopped | moreStopped | contentStopped | separatorStopped =>
      exact succeeds.elim
  | last _ _ element => exact (builds_arrive _ _ _).append (element trivial)
  | cons _ _ _ element rest =>
      have nodes := ((builds_arrive _ _ _).append (element trivial)).append (rest trivial)
      simpa [Outcome.chains, chainsPreorder, chainPreorder] using nodes
  | token current =>
      simpa [Outcome.chains, chainsPreorder, chainPreorder, preorder] using Builds.takes _ current
  | @missing depth id follow state =>
      have notes : parser.Builds state [] (parser.noteMissing id state) :=
        .tells (parser.unmoved_noteMissing id state)
      have nodes : parser.Builds state [.missing id (parser.currentId? state)]
          (parser.noteMissing id state) := notes.under trivial
      simpa [Outcome.chains, chainsPreorder, chainPreorder, preorder] using nodes
  | entered starts child childBuilds =>
      have nodes := childBuilds trivial
      rw [Outcome.chains, chainsPreorder_singleton] at nodes
      simpa [Outcome.chains, chainsPreorder, chainPreorder, preorder] using
        Builds.returns starts child nodes
  | absent | empty | optionalAbsent =>
      simp only [Outcome.chains, chainsPreorder, chainPreorder, preorder, List.append_nil]
      exact .makes (by simp [Bare])
  | @optional depth id inner follow state after child _ _ childBuilds =>
      have nodes : parser.Builds state (.optional id child :: chainsPreorder [child]) after :=
        (childBuilds trivial).under trivial
      simpa [Outcome.chains, chainsPreorder, chainPreorder, preorder] using nodes
  | @alternation depth id branch follow state after branches child _ _ childBuilds =>
      have nodes : parser.Builds state (.alternation id child :: chainsPreorder [child]) after :=
        (childBuilds trivial).under trivial
      simpa [Outcome.chains, chainsPreorder, chainPreorder, preorder] using nodes
  | @repetition depth id follow state after parts items _ itemsBuilds =>
      have nodes : parser.Builds state (.repetition id items :: chainsPreorder items) after :=
        (itemsBuilds trivial).under trivial
      simpa [Outcome.chains, chainsPreorder, chainPreorder, preorder] using nodes
  | led _ _ separator => exact separator trivial
  | unled => exact .refl _
  | leadOnly _ _ lead => exact lead trivial
  | filled _ _ _ lead rest =>
      rw [Outcome.chains, chainsPreorder_append]
      exact (lead trivial).append (rest trivial)
  | lastRound _ items => exact items trivial
  | stuckRound _ _ items => exact (items trivial).andThen (.tells rfl)
  | moreRounds _ _ _ items rest =>
      rw [Outcome.chains, chainsPreorder_append]
      exact (items trivial).append (rest trivial)
  | @joined depth parts follow state after content _ _ contentBuilds =>
      have separator : parser.Builds
          (parser.settle (parser.planRepetition parts follow) after) [.empty parts.separator]
          (parser.settle (parser.planRepetition parts follow) after) := .makes trivial
      have nodes := ((contentBuilds trivial).andThen (builds_settle _ _)).append separator
      simpa [Outcome.chains, chainsPreorder, chainPreorder, preorder] using nodes
  | separated _ _ _ _ content separator | ended _ _ _ _ _ content separator =>
      rw [Outcome.chains, chainsPreorder_cons]
      exact ((content trivial).andThen (builds_settle _ _)).append (separator trivial)
  | closed _ _ _ _ content => exact (content trivial).andThen (builds_settle _ _)

theorem Runs.exists_builds_of_stops {depth : Nat} {task : Task} {outcome : Outcome}
    (run : parser.Runs depth task state outcome after) (stops : ¬ outcome.Succeeds) :
    ∃ nodes, parser.Builds state nodes after := by
  induction run with
  | exhausted | noRoundsLeft => exact ⟨[], .refl _⟩
  | @aborted depth id follow state => exact ⟨[], .tells (parser.unmoved_noteMissing id state)⟩
  | stoppedFirst _ element =>
      obtain ⟨nodes, builds⟩ := element not_false
      exact ⟨_, (builds_arrive _ _ _).append builds⟩
  | stoppedNext _ element _ _ rest =>
      obtain ⟨nodes, builds⟩ := rest not_false
      exact ⟨_, ((builds_arrive _ _ _).append (element.builds trivial)).append builds⟩
  | enteredStopped starts _ child =>
      obtain ⟨nodes, builds⟩ := child not_false
      exact ⟨nodes, .cutShort starts builds⟩
  | optionalStopped _ _ part | alternationStopped _ _ part | repetitionStopped _ part
  | ledStopped _ _ part | leadStopped _ part | roundStopped _ part | contentStopped _ part =>
      exact part not_false
  | filledStopped lead _ _ _ rest =>
      obtain ⟨nodes, builds⟩ := rest not_false
      exact ⟨_, (lead.builds trivial).append builds⟩
  | moreStopped round _ _ _ rest =>
      obtain ⟨nodes, builds⟩ := rest not_false
      exact ⟨_, (round.builds trivial).append builds⟩
  | separatorStopped content _ _ _ _ separator =>
      obtain ⟨nodes, builds⟩ := separator not_false
      exact ⟨_, ((content.builds trivial).andThen (builds_settle _ _)).append builds⟩
  | _ => exact (stops trivial).elim

/-! ## What is built lies on a path -/

theorem frames_leaveRegion (parser : Parser) (state : ParseState) :
    (parser.leaveRegion state).frames = state.frames := by
  unfold leaveRegion
  split <;> rfl

theorem frames_observe (parser : Parser) (state : ParseState) :
    (parser.observe state).frames = state.frames := by
  unfold observe
  repeat' split
  · rfl
  · rfl
  · rfl
  · exact parser.frames_leaveRegion _
  · rfl

theorem frames_advance (parser : Parser) (state : ParseState) :
    (parser.advance state).frames = state.frames := by
  unfold advance
  split
  · exact parser.frames_observe state
  · exact parser.frames_observe _

theorem frames_skip (parser : Parser) (state : ParseState) (id : TokenId) :
    (parser.skip state id).frames = state.frames :=
  parser.frames_advance state

theorem frames_closeFrame (parser : Parser) (name : NonTerminalId) (cutShort : Bool)
    (state : ParseState) :
    (parser.closeFrame name cutShort state).frames = state.frames.tail := by
  unfold closeFrame
  dsimp only
  split <;> rfl

theorem frames_of_unmoved (unmoved : state.Unmoved after) : after.frames = state.frames := by
  rw [unmoved]

def frameOf (parser : Parser) (name : NonTerminalId) (state : ParseState) : Frame where
  nonTerminal := name
  isBlock := (parser.grammar.nonTerminalOf name).isBlock
  entry := parser.currentId? state
  entryChanged := (parser.currentId? state).any parser.document.isChanged

theorem frames_openFrame (parser : Parser) (name : NonTerminalId) (state : ParseState) :
    (parser.openFrame name state).frames = parser.frameOf name state :: state.frames := rfl

namespace Builds

theorem frames {nodes : List Tree} (builds : parser.Builds state nodes after) :
    after.frames = state.frames := by
  induction builds with
  | tells unmoved => exact frames_of_unmoved unmoved
  | takes => exact parser.frames_advance _
  | skips => exact parser.frames_skip _ _
  | makes => rfl
  | returns _ _ _ child | cutShort _ _ child =>
      rw [frames_closeFrame, child, frames_openFrame, List.tail_cons]
  | append _ _ first second => exact second.trans first

theorem cursor_le {nodes : List Tree} (builds : parser.Builds state nodes after) :
    state.cursor ≤ after.cursor := by
  induction builds with
  | tells unmoved => exact unmoved.cursor.ge
  | takes _ current =>
      exact (samePlace_advance (cursor_lt_of_currentKind? current)).cursor.symm ▸ Nat.le_succ _
  | skips _ current =>
      exact (samePlace_skip (cursor_lt_of_currentKind? current)).cursor.symm ▸ Nat.le_succ _
  | makes => exact Nat.le_refl _
  | returns _ _ _ child | cutShort _ _ child =>
      exact child.trans (parser.samePlace_closeFrame _ _ _).cursor.ge
  | append _ _ first second => exact first.trans second

/-- A rule is entered and returns in between two states. -/
theorem path_through {name : NonTerminalId} {nodes : List Tree} (start : NonTerminalId)
    (cutShort : Bool) (underWay : state.frames ≠ [])
    (starts :
      parser.at? state (parser.prediction.firstOf (parser.grammar.ruleOf name)).tokens = true)
    (builds : parser.Builds (parser.openFrame name state) nodes after)
    (path : (parser.openFrame name state).frames ≠ [] →
      Relation.ReflTransGen (parser.Step start) (parser.openFrame name state) after) :
    Relation.ReflTransGen (parser.Step start) state (parser.closeFrame name cutShort after) := by
  have enters : parser.Step start state (parser.openFrame name state) := .enters underWay starts
  have returns : parser.Step start after (parser.closeFrame name cutShort after) :=
    .returns cutShort builds.frames
  exact ((path (by simp [frames_openFrame])).head enters).tail returns

theorem path {nodes : List Tree} (start : NonTerminalId)
    (builds : parser.Builds state nodes after) (underWay : state.frames ≠ []) :
    Relation.ReflTransGen (parser.Step start) state after := by
  induction builds with
  | tells unmoved => exact .single (.tells unmoved)
  | takes _ current => exact .single (.takes underWay current)
  | skips skipsUnknown current => exact .single (.skips underWay skipsUnknown current)
  | makes => exact .refl
  | returns starts _ builds path => exact path_through start false underWay starts builds path
  | cutShort starts builds path => exact path_through start true underWay starts builds path
  | append first _ path path' => exact (path underWay).trans (path' (by rwa [first.frames]))

end Builds

theorem Runs.exists_builds {depth : Nat} {task : Task} {outcome : Outcome}
    (run : parser.Runs depth task state outcome after) :
    ∃ nodes, parser.Builds state nodes after := by
  by_cases succeeds : outcome.Succeeds
  · exact ⟨_, run.builds succeeds⟩
  · exact run.exists_builds_of_stops succeeds

theorem Runs.frames {depth : Nat} {task : Task} {outcome : Outcome}
    (run : parser.Runs depth task state outcome after) : after.frames = state.frames := by
  obtain ⟨nodes, builds⟩ := run.exists_builds
  exact builds.frames

theorem Runs.cursor_le {depth : Nat} {task : Task} {outcome : Outcome}
    (run : parser.Runs depth task state outcome after) : state.cursor ≤ after.cursor := by
  obtain ⟨nodes, builds⟩ := run.exists_builds
  exact builds.cursor_le

theorem Runs.path {depth : Nat} {task : Task} {outcome : Outcome} (start : NonTerminalId)
    (run : parser.Runs depth task state outcome after) (underWay : state.frames ≠ []) :
    Relation.ReflTransGen (parser.Step start) state after := by
  obtain ⟨nodes, builds⟩ := run.exists_builds
  exact builds.path start underWay

/-! ## The states of a parse -/

theorem reachable_startState (parser : Parser) (start : NonTerminalId) (announced : Bool) :
    parser.Reachable start announced (parser.startState start announced) :=
  (Relation.ReflTransGen.single (.observes announced)).tail (.starts announced)

theorem frames_startState (parser : Parser) (start : NonTerminalId) (announced : Bool) :
    (parser.startState start announced).frames =
      [parser.frameOf start (parser.observe (.initial announced))] := by
  rw [startState, frames_openFrame, frames_observe]
  rfl

theorem skipRest_path (start : NonTerminalId) (skipsUnknown : parser.leniency.skipsUnknown = true)
    (count : Nat) (done : state.frames = []) :
    Relation.ReflTransGen (parser.Step start) state (parser.skipRest count state) ∧
      (parser.skipRest count state).frames = [] := by
  induction count generalizing state with
  | zero => exact ⟨.refl, done⟩
  | succ count induction =>
      unfold skipRest currentId?
      by_cases inside : state.cursor < parser.document.size
      · rw [if_pos inside]
        obtain ⟨path, done'⟩ := @induction (parser.skipTrailing state) done
        exact ⟨path.head (.trails done skipsUnknown inside), done'⟩
      · rw [if_neg inside]
        exact ⟨.refl, done⟩

theorem sweep_path (parser : Parser) (start : NonTerminalId) (done : state.frames = []) :
    Relation.ReflTransGen (parser.Step start) state (parser.sweep state) ∧
      (parser.sweep state).frames = [] := by
  unfold sweep
  split
  · rename_i skipsUnknown
    exact skipRest_path start skipsUnknown _ done
  · exact ⟨.refl, done⟩

/-- A parse ends in a state that it reaches step by step, where no rule is under way. -/
theorem Finishes.path {run : Parser.Run} (finishes : parser.Finishes start announced run) :
    ∃ last, parser.Reachable start announced last ∧ last.frames = [] ∧
      run = parser.finish run.parse.tree last := by
  have begins := parser.reachable_startState start announced
  have underWay : (parser.startState start announced).frames ≠ [] := by simp [frames_startState]
  cases finishes with
  | @parsed child after descent =>
      have opened := descent.frames.trans (parser.frames_startState start announced)
      have returns : parser.Step start after (parser.closeFrame start false after) :=
        .returns false opened
      have closed : (parser.closeFrame start false after).frames = [] := by
        rw [frames_closeFrame, opened, List.tail_cons]
      obtain ⟨path, done⟩ := parser.sweep_path start closed
      exact ⟨_, ((begins.trans (descent.path start underWay)).tail returns).trans path, done, rfl⟩
  | @aborted expr found after descent =>
      have opened := descent.frames.trans (parser.frames_startState start announced)
      have returns : parser.Step start after (parser.closeFrame start true after) :=
        .returns true opened
      have closed : (parser.closeFrame start true after).frames = [] := by
        rw [frames_closeFrame, opened, List.tail_cons]
      have tells : parser.Step start (parser.closeFrame start true after)
          ((parser.closeFrame start true after).note (.aborted found)) := .tells rfl
      exact ⟨_, ((begins.trans (descent.path start underWay)).tail returns).tail tells, closed, rfl⟩

/-- What is built within a rule leads from step to step and stays within the rule. -/
theorem Builds.leads {nodes : List Tree} (start : NonTerminalId)
    (builds : parser.Builds state nodes after) (underWay : state.frames ≠ []) :
    Relation.ReflTransGen (parser.Step start) state after ∧ after.frames ≠ [] :=
  ⟨builds.path start underWay, by rwa [builds.frames]⟩

theorem Calls.leads {task task' : Task} (start : NonTerminalId)
    (calls : parser.Calls (task, state) (task', after)) (underWay : state.frames ≠ []) :
    Relation.ReflTransGen (parser.Step start) state after ∧ after.frames ≠ [] := by
  cases calls with
  | element => exact (builds_arrive _ _ _).leads start underWay
  | next _ element =>
      exact ((builds_arrive _ _ _).append (element.builds trivial)).leads start underWay
  | rule starts => exact ⟨.single (.enters underWay starts), by simp [frames_openFrame]⟩
  | inner | branch | repetition | lead | leadingSeparator | round | content =>
      exact ⟨.refl, underWay⟩
  | rounds _ lead => exact (lead.builds trivial).leads start underWay
  | moreRounds _ round => exact (round.builds trivial).leads start underWay
  | separator content =>
      exact ((content.builds trivial).andThen (builds_settle _ _)).leads start underWay

/-- A task is called in a reachable state, and its run leads from there step by step. -/
theorem reachable_of_calls {task : Task} (calls : Relation.ReflTransGen parser.Calls
      (.chain (parser.grammar.ruleOf start) .empty, parser.startState start announced)
      (task, state)) :
    parser.Reachable start announced state ∧
      ∀ depth outcome after, parser.Runs depth task state outcome after →
        Relation.ReflTransGen (parser.Step start) state after := by
  have leads : ∀ place, Relation.ReflTransGen parser.Calls
      (.chain (parser.grammar.ruleOf start) .empty, parser.startState start announced) place →
      parser.Reachable start announced place.2 ∧ place.2.frames ≠ [] := by
    intro place calls
    induction calls with
    | refl => exact ⟨parser.reachable_startState start announced, by simp [frames_startState]⟩
    | tail _ call induction =>
        obtain ⟨reachable, underWay⟩ := induction
        obtain ⟨path, underWay'⟩ := call.leads start underWay
        exact ⟨reachable.trans path, underWay'⟩
  obtain ⟨reachable, underWay⟩ := leads _ calls
  exact ⟨reachable, fun depth outcome after run => run.path start underWay⟩

end Reparse.Parser
