import Reparse.Proofs.Document.Deletion
import Reparse.Proofs.Parser.Tracking

/-!
# Edits stay within the blocks that they start

A block whose first token is changed has a frame that was entered in the region.  If the region is
left within the block, the input stays hidden at least until the block returns.

Main statement: `edits_contained`.
-/

namespace Reparse.Parser

open Reparse.Tree

variable {parser : Parser} {start : NonTerminalId} {announced : Bool}
  {state after : ParseState} {base : List Frame}

/-! ## Within an edited block -/

/-- Within the frames of the base the state is in the region, or behind it with hidden input. -/
structure Confined (parser : Parser) (base : List Frame) (state : ParseState) : Prop where
  frames : ∃ inner, state.frames = inner ++ base
  kept : state.hiddenUntil = none ∧ state.inRegion = true ∨
    ∃ depth < base.length, state.hiddenUntil = some depth

/-- One of the frames is a block that was entered in the region. -/
def Edited (base : List Frame) : Prop :=
  ∃ block ∈ base, block.isBlock = true ∧ block.entryChanged = true

namespace Confined

theorem underWay (confined : parser.Confined base state) (edited : Edited base) :
    state.frames ≠ [] := by
  obtain ⟨inner, frames⟩ := confined.frames
  obtain ⟨block, member, -⟩ := edited
  rw [frames]
  exact List.append_ne_nil_of_right_ne_nil inner (List.ne_nil_of_mem member)

theorem inRegion {kind : TokenKind} (confined : parser.Confined base state)
    (current : parser.currentKind? state = some kind) : state.inRegion = true := by
  rcases confined.kept with ⟨-, region⟩ | ⟨depth, -, hidden⟩
  · exact region
  · exact (not_currentKind?_of_hidden hidden current).elim

theorem isChanged {kind : TokenKind} (confined : parser.Confined base state)
    (edited : Edited base) (tracks : parser.Tracks state)
    (current : parser.currentKind? state = some kind) :
    parser.document.isChanged state.cursor = true :=
  (tracks.tracked (confined.underWay edited) current).symm.trans (confined.inRegion current)

theorem of_unmoved (confined : parser.Confined base state) (unmoved : state.Unmoved after) :
    parser.Confined base after := by
  obtain ⟨log, announced, rfl⟩ := unmoved_iff.mp unmoved
  exact ⟨confined.frames, confined.kept⟩

/-- Where the region is left the edited block, or one around it, hides the rest of the input. -/
theorem advance {kind : TokenKind} (confined : parser.Confined base state)
    (edited : Edited base) (tracks : parser.Tracks state)
    (current : parser.currentKind? state = some kind) :
    parser.Confined base (parser.advance state) := by
  have region := confined.inRegion current
  have observed := observed_advance current (tracks.tracked (confined.underWay edited) current)
  obtain ⟨inner, frames⟩ := confined.frames
  refine ⟨⟨inner, by rw [frames_advance, frames]⟩, ?_⟩
  by_cases leaves : parser.Leaves { state with cursor := state.cursor + 1 }
  · -- However deep the parser is, the boundary is at the edited block or further out.
    obtain ⟨block, member, isBlock, entered⟩ := edited
    have bounded : ∃ depth < base.length,
        boundary? state.frames state.regionStart = some depth := by
      rw [frames]
      exact exists_boundary? state.regionStart member isBlock entered
    obtain ⟨depth, inside, bounded⟩ := bounded
    exact .inr ⟨depth, inside, (observed.left leaves).trans bounded⟩
  · left
    refine ⟨observed.stayed leaves, ?_⟩
    by_cases inside : state.cursor + 1 < parser.document.size
    · rw [observed.region inside]
      by_contra unchanged
      exact leaves ⟨inside, region, Bool.eq_false_iff.mpr unchanged⟩
    · exact (observed.ended inside).trans region

theorem openFrame (confined : parser.Confined base state) (name : NonTerminalId) :
    parser.Confined base (parser.openFrame name state) := by
  obtain ⟨inner, frames⟩ := confined.frames
  refine ⟨⟨parser.frameOf name state :: inner, ?_⟩, confined.kept⟩
  rw [frames_openFrame, frames, List.cons_append]

/-- The return of a rule above the base does not show the input that the base hides. -/
theorem closeFrame {name : NonTerminalId} {nodes : List Tree}
    (confined : parser.Confined base state) (within : parser.Confined base after)
    (builds : parser.Builds (parser.openFrame name state) nodes after) (cutShort : Bool) :
    parser.Confined base (parser.closeFrame name cutShort after) := by
  obtain ⟨inner, frames⟩ := confined.frames
  have left : after.frames.tail = inner ++ base := by
    rw [builds.frames, frames_openFrame, List.tail_cons, frames]
  refine ⟨⟨inner, by rw [frames_closeFrame, left]⟩, ?_⟩
  rw [hiddenUntil_closeFrame, inRegion_closeFrame, left]
  rcases within.kept with ⟨visible, region⟩ | ⟨depth, inside, hidden⟩
  · exact .inl ⟨by rw [visible]; rfl, region⟩
  · have lasts : depth < (inner ++ base).length := by
      rw [List.length_append]
      omega
    refine .inr ⟨depth, inside, ?_⟩
    rw [hidden, Option.filter_some]
    simp only [decide_eq_true_eq, if_pos lasts]

end Confined

theorem not_consumed?_of_bare {node : Tree} (bare : Bare node) : node.consumed? = none := by
  cases node with
  | token => exact bare.elim
  | _ => rfl

theorem Builds.confined {nodes : List Tree} (builds : parser.Builds state nodes after)
    (scanned : parser.document.Scanned) (edited : Edited base) (tracks : parser.Tracks state)
    (confined : parser.Confined base state) :
    parser.Confined base after ∧
      ∀ id ∈ nodes.filterMap consumed?, parser.document.isChanged id = true := by
  induction builds with
  | tells unmoved => exact ⟨confined.of_unmoved unmoved, by simp⟩
  | takes id current =>
      refine ⟨confined.advance edited tracks current, ?_⟩
      simpa [consumed?] using confined.isChanged edited tracks current
  | skips _ current =>
      have advanced := confined.advance edited tracks current
      exact ⟨⟨advanced.frames, advanced.kept⟩, by simp⟩
  | makes bare => exact ⟨confined, by simp [not_consumed?_of_bare bare]⟩
  | returns _ _ builds induction =>
      obtain ⟨within, changed⟩ :=
        induction (tracks.openFrame (confined.underWay edited) _) (confined.openFrame _)
      exact ⟨confined.closeFrame within builds false, by simpa [consumed?] using changed⟩
  | cutShort _ builds induction =>
      obtain ⟨within, changed⟩ :=
        induction (tracks.openFrame (confined.underWay edited) _) (confined.openFrame _)
      exact ⟨confined.closeFrame within builds true, changed⟩
  | append first _ induction induction' =>
      obtain ⟨confined', changed⟩ := induction tracks confined
      have tracks' := tracks.along scanned (first.path 0 (confined.underWay edited))
      obtain ⟨confined'', changed'⟩ := induction' tracks' confined'
      refine ⟨confined'', fun id member => ?_⟩
      rw [List.filterMap_append, List.mem_append] at member
      exact member.elim (changed id) (changed' id)

/-! ## The blocks of a tree -/

/-- If the node is a block whose first token is changed, all its tokens are. -/
def Contains (parser : Parser) (node : Tree) : Prop :=
  ∀ expr name child, node = .nonTerminal expr name child →
    (parser.grammar.nonTerminalOf name).isBlock = true →
    ∀ first rest, node.walk.filterMap consumed? = first :: rest →
      parser.document.isChanged first = true →
      ∀ id ∈ node.walk.filterMap consumed?, parser.document.isChanged id = true

/-- A block that is entered at a changed token is edited, and begins in the region. -/
theorem confined_of_entered {kind : TokenKind} {name : NonTerminalId}
    (tracks : parser.Tracks state) (underWay : state.frames ≠ [])
    (current : parser.currentKind? state = some kind)
    (isBlock : (parser.grammar.nonTerminalOf name).isBlock = true)
    (changed : parser.document.isChanged state.cursor = true) :
    Edited (parser.frameOf name state :: state.frames) ∧
      parser.Confined (parser.frameOf name state :: state.frames)
        (parser.openFrame name state) := by
  have entry : parser.currentId? state = some state.cursor :=
    if_pos (cursor_lt_of_currentKind? current)
  have region : state.inRegion = true := (tracks.tracked underWay current).trans changed
  constructor
  · exact ⟨_, List.mem_cons_self, isBlock, by simp [frameOf, entry, changed]⟩
  · exact ⟨⟨[], rfl⟩, .inl ⟨visible_of_currentKind? current, region⟩⟩

theorem eq_cursor_of_entered {depth : Nat} {kind : TokenKind} {name : NonTerminalId}
    {follow : KindSet} {child : List Tree} {first : TokenId} {rest : List TokenId}
    (predictive : parser.Predictive) (current : parser.currentKind? state = some kind)
    (starts : kind ∈ (parser.prediction.firstOf (parser.grammar.ruleOf name)).tokens)
    (run : parser.Runs depth (.chain (parser.grammar.ruleOf name) follow)
      (parser.openFrame name state) (.chain child) after)
    (tokens : consumedIn [child] = first :: rest) : first = state.cursor := by
  rw [predictive.predicted] at starts
  obtain ⟨expr, more, leaves⟩ :=
    run.takes_current predictive (predictive.ordered.rule_lt name) current starts trivial
  rw [Outcome.chains] at leaves
  rw [consumedIn, leaves] at tokens
  exact (List.cons.inj tokens).1.symm

theorem contains_of_bare {node : Tree} (bare : Bare node) : parser.Contains node := by
  rintro expr name child rfl - first rest tokens
  obtain rfl : child = [] := bare
  simp [filterMap_consumed?_walk, consumedIn] at tokens

theorem Builds.contains {nodes : List Tree} (builds : parser.Builds state nodes after)
    (predictive : parser.Predictive) (scanned : parser.document.Scanned)
    (tracks : parser.Tracks state) (underWay : state.frames ≠ []) :
    ∀ node ∈ nodes, parser.Contains node := by
  induction builds with
  | tells | skips => simp
  | takes id current =>
      intro node member expr name child same
      simp [List.mem_singleton.mp member] at same
  | makes bare =>
      intro node member
      exact List.mem_singleton.mp member ▸ contains_of_bare bare
  | @returns depth id name follow state after child starts run builds induction =>
      have opened := tracks.openFrame underWay name
      have below := induction opened (by simp [frames_openFrame])
      intro node member
      rcases List.mem_cons.mp member with rfl | member
      · -- The first token of the node is the one at which its frame was entered.
        rintro _ _ _ ⟨⟩ isBlock first rest tokens firstChanged
        rw [filterMap_consumed?_walk, consumedIn, leavesIn_nonTerminal, ← consumedIn] at tokens ⊢
        obtain ⟨kind, current, starting⟩ := at?_iff.mp starts
        obtain rfl := eq_cursor_of_entered predictive current starting run tokens
        obtain ⟨edited, confined⟩ :=
          confined_of_entered tracks underWay current isBlock firstChanged
        have changed := (builds.confined scanned edited opened confined).2
        rwa [← filterMap_consumed?_chainsPreorder, chainsPreorder_singleton]
      · exact below node member
  | @cutShort name state after nodes starts builds induction =>
      exact induction (tracks.openFrame underWay name) (by simp [frames_openFrame])
  | append first _ induction induction' =>
      have tracks' := tracks.along scanned (first.path 0 underWay)
      intro node member
      rcases List.mem_append.mp member with member | member
      · exact induction tracks underWay node member
      · exact induction' tracks' (by rwa [first.frames]) node member

theorem Finishes.contains {run : Parser.Run} (finishes : parser.Finishes start announced run)
    (predictive : parser.Predictive) (scanned : parser.document.Scanned) :
    ∀ node ∈ run.parse.nodes.tail, parser.Contains node := by
  have underWay : (parser.startState start announced).frames ≠ [] := by simp [frames_startState]
  cases finishes with
  | @parsed child after descent =>
      have builds := descent.builds trivial
      rw [Outcome.chains, chainsPreorder_singleton] at builds
      rw [Parse.nodes, finish, walk_eq_preorder, preorder, List.tail_cons]
      exact builds.contains predictive scanned
        ((parser.reachable_startState start announced).tracks scanned) underWay
  | aborted => simp [Parse.nodes, finish, walk_eq_preorder, preorder]

/-! ## The edits of a document -/

/-- Edits have an influence on the blocks that they start, and hide the text behind them for a while
only. -/
structure Contained (parser : Parser) (start : NonTerminalId) (announced : Bool) : Prop where
  /-- The states of the parse are reachable. -/
  places : ∀ task state, Relation.ReflTransGen parser.Calls
      (.chain (parser.grammar.ruleOf start) .empty, parser.startState start announced)
      (task, state) →
    parser.Reachable start announced state ∧
      ∀ depth outcome after, parser.Runs depth task state outcome after →
        Relation.ReflTransGen (parser.Step start) state after
  hidden : ∀ state, parser.Reachable start announced state →
    ∀ depth, state.hiddenUntil = some depth →
      depth < state.frames.length ∧ parser.document.FirstAfterRegion state.cursor
  waits : ∀ state after depth, parser.Reachable start announced state →
    parser.Step start state after → state.hiddenUntil = some depth → Waits depth state after
  once : ∀ state after later last, parser.Reachable start announced state →
    parser.Hides start state after → Relation.ReflTransGen (parser.Step start) after later →
      ¬ parser.Hides start later last
  ends : ∃ run last, parser.run? start announced = some run ∧
    parser.Reachable start announced last ∧ run = parser.finish run.parse.tree last ∧
    last.frames = [] ∧ last.hiddenUntil = none ∧
    ∀ node ∈ run.parse.nodes.tail, parser.Contains node

/-- Whatever was edited, and whatever the leniency, edits are contained. -/
theorem edits_contained (grammar : Grammar) (document : Document) (leniency : Leniency)
    (start : NonTerminalId) (announced : Bool) (built : grammar.Built)
    (terminating : ¬ grammar.LeftRecursive) (scanned : document.Scanned) :
    Contained ⟨grammar, grammar.predict, document, leniency⟩ start announced := by
  have predictive : Predictive ⟨grammar, grammar.predict, document, leniency⟩ :=
    ⟨built.ordered, rfl⟩
  constructor
  case places => exact fun task state => reachable_of_calls
  case hidden => exact fun state reachable => (reachable.tracks scanned).hidden
  case waits =>
    intro state after depth reachable step hidden
    exact step.of_hidden (reachable.tracks scanned) hidden
  case once =>
    intro state after later last reachable hides path
    exact hides_once hides scanned (reachable.tracks scanned) path
  case ends =>
    obtain ⟨run, done, finishes⟩ := run?_finishes predictive terminating start announced
    obtain ⟨last, reachable, closed, same⟩ := finishes.path
    have visible := (reachable.tracks scanned).visible_of_closed closed
    exact ⟨run, last, done, reachable, same, closed, visible, finishes.contains predictive scanned⟩

/-! ## A list that is opened within another one -/

/-- Every list is a block. -/
def bracketBlocks : Grammar := Grammar.bracketLists.setBlock 0 true

theorem not_leftRecursive_bracketBlocks : ¬ bracketBlocks.LeftRecursive := by
  have names : bracketBlocks.nonTerminals = #[⟨"list", 8, true⟩] := by decide +kernel
  apply Grammar.not_leftRecursive_of_tokens
  intro name
  match name with
  | 0 => exact .inr ⟨0, by decide +kernel⟩
  | name + 1 =>
      have rule : bracketBlocks.ruleOf (name + 1) = 0 := by
        simp only [Grammar.ruleOf, Grammar.nonTerminalOf, names]
        rfl
      exact .inl (by rw [rule]; decide +kernel)

/-- Brackets and commas; blanks keep brackets of a kind apart. -/
def brackets : Tokenizer :=
  Scanner.tokenizer
    ⟨[(0, Document.runMatcher (· == '[')), (1, Document.runMatcher (· == ']')),
      (2, Document.runMatcher (· == ','))], some (Document.runMatcher (· == ' ')), none⟩

/-- A bracket was inserted before the inner list. -/
def openedList : Document where
  scanner := brackets
  current := ⟨"[ [ [] ]".toList,
    #[⟨0, ⟨0, 1⟩⟩, ⟨0, ⟨2, 3⟩⟩, ⟨0, ⟨4, 5⟩⟩, ⟨1, ⟨5, 6⟩⟩, ⟨1, ⟨7, 8⟩⟩], none⟩
  history := some ⟨⟨"[ [] ]".toList,
    #[⟨0, ⟨0, 1⟩⟩, ⟨0, ⟨2, 3⟩⟩, ⟨1, ⟨3, 4⟩⟩, ⟨1, ⟨5, 6⟩⟩], none⟩,
    [.insert ⟨1, 2⟩ "[ ".toList], some ⟨2, 4⟩⟩

theorem edits_contained_openedList :
    (Document.ofText brackets "[ [] ]".toList).update [.insert ⟨1, 2⟩ "[ ".toList] =
        .ok openedList ∧
      bracketBlocks.Built ∧ ¬ bracketBlocks.LeftRecursive ∧ openedList.Scanned ∧
      Contained ⟨bracketBlocks, bracketBlocks.predict, openedList, .standard⟩ 0 false := by
  have updated : (Document.ofText brackets "[ [] ]".toList).update
      [.insert ⟨1, 2⟩ "[ ".toList] = .ok openedList :=
    Document.update_ofText ⟨"[ [ [] ]".toList, some ⟨2, 4⟩⟩ (by simp) (by decide +kernel)
      (by decide +kernel) (by decide +kernel)
  have built : bracketBlocks.Built := .setBlock Grammar.built_bracketLists
  have scanned : openedList.Scanned :=
    ((Document.Reached.ofText _ _).update updated).faithful.scanned
  exact ⟨updated, built, not_leftRecursive_bracketBlocks, scanned,
    edits_contained bracketBlocks openedList .standard 0 false built
      not_leftRecursive_bracketBlocks scanned⟩

/-- The rest of the text is hidden until the list returns that the edit opened. -/
example : (Parser.run? ⟨bracketBlocks, bracketBlocks.predict, openedList, .standard⟩ 0 false).map
    (·.log.contains (.endUntil "list")) = some true := by
  decide +kernel

end Reparse.Parser
