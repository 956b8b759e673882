import Mathlib.Tactic.Ring
import Reparse.Proofs.Grammar.LeftRecursion
import Reparse.Proofs.Parser.Extent

/-!
# The descent comes to an end

Until the token that let a name be entered is taken, the descent stays at leftmost places of the
rule.  Without left recursion it enters no name twice before the next token.

Main statement: `Runs.finite_of_depthLimit`.
-/

namespace Reparse

open ParseState

/-- The name stands at a leftmost place of the task. -/
def Task.Leftmost (grammar : Grammar) (name : NonTerminalId) : Task → Prop
  | .chain id _ => grammar.Leftmost id name
  | .element _ _ own => grammar.LeftmostOf name own
  | .repetition parts _ => grammar.LeftmostOf name (.repetition parts)
  | .lead parts _ => parts.leading ≠ .prohibited ∧ grammar.Leftmost parts.separator name
  | .rounds parts _ _ | .round parts _ =>
      grammar.Leftmost parts.content name ∨
        (grammar.predict.firstOf parts.content).nullable = true ∧
          grammar.Leftmost parts.separator name

namespace Parser

variable {parser : Parser} {state after : ParseState} {kind : TokenKind}

/-- The current token starts the task, or the task passes. -/
def Decided (parser : Parser) (state : ParseState) (task : Task) : Prop :=
  parser.Starts state task ∨ parser.Passes state task

theorem Starts.of_unmoved {task : Task}
    (unmoved : state.Unmoved after) (starts : parser.Starts state task) :
    parser.Starts after task := by
  obtain ⟨kind, current, starts⟩ := starts
  exact ⟨kind, (currentKind?_of_unmoved unmoved).trans current, starts⟩

namespace Decided

variable {id : ExprId} {follow : KindSet} {parts : Repetition}

theorem arrives
    (predictive : parser.Predictive) (decided : parser.Decided state (.chain id follow)) :
    state.Unmoved (parser.arrive id follow state) := by
  rcases decided with ⟨kind, current, starts⟩ | passes
  · refine unmoved_arrive fun _ kind' current' => .inr ?_
    rwa [Option.some.inj (current'.symm.trans current), predictive.predicted]
  · exact passes.arrives

/-- Either the current token starts the first element of a chain, or that element passes and it is
decided about the rest. -/
theorem firstElement
    (inside : id < parser.grammar.exprs.size) (predictive : parser.Predictive)
    (decided : parser.Decided state (.chain id follow)) :
    parser.Starts state
        (.element id (parser.followOfElement id follow) (parser.grammar.expr id).element) ∨
      parser.Passes state
          (.element id (parser.followOfElement id follow) (parser.grammar.expr id).element) ∧
        ∀ next, (parser.grammar.expr id).next = some next →
          parser.Decided state (.chain next follow) := by
  rcases decided with ⟨kind, current, starts⟩ | passes
  · by_cases starts' : kind ∈ (parser.grammar.startOf (parser.grammar.expr id).element).tokens
    · exact .inl ⟨kind, current, starts'⟩
    · cases following : (parser.grammar.expr id).next with
      | none =>
          rw [Task.first, Grammar.firstOf_of_last inside following] at starts
          exact (starts' starts).elim
      | some next =>
          obtain ⟨passes, later⟩ :=
            passes_firstElement inside predictive current following starts starts'
          refine .inr ⟨passes, ?_⟩
          rintro _ ⟨⟩
          exact .inl ⟨kind, current, later⟩
  · exact .inr ⟨passes.firstElement inside, fun next following =>
      .inr (passes.rest inside following)⟩

theorem rounds (count : Nat) (decided : parser.Decided state (.round parts follow)) :
    parser.Decided state (.rounds parts follow count) :=
  decided.imp id fun passes => ⟨passes.nullable, passes.other, passes.spared⟩

theorem round {count : Nat} (decided : parser.Decided state (.rounds parts follow count)) :
    parser.Decided state (.round parts follow) :=
  decided.imp id Passes.round

theorem items (decided : parser.Decided state (.element id follow (.repetition parts))) :
    parser.Decided state (.repetition parts follow) :=
  decided.imp (fun starts => starts) fun passes => ⟨passes.nullable, passes.other, passes.spared⟩

theorem lead
    (predictive : parser.Predictive) (decided : parser.Decided state (.repetition parts follow)) :
    parser.Starts state (.lead parts follow) ∨
      parser.Passes state (.lead parts follow) ∧ parser.Decided state (.round parts follow) := by
  rcases decided with ⟨kind, current, starts⟩ | passes
  · by_cases starts' : kind ∈ ((Task.lead parts follow).first parser.grammar).tokens
    · exact .inl ⟨kind, current, starts'⟩
    · obtain ⟨passes, later⟩ := passes_lead predictive current starts starts'
      exact .inr ⟨passes, .inl ⟨kind, current, later⟩⟩
  · exact .inr ⟨passes.lead, .inr (passes.rounds 0).round⟩

theorem leadingSeparator
    (predictive : parser.Predictive) (decided : parser.Decided state (.lead parts follow))
    (leads : parser.leads state (parser.planRepetition parts follow) = true) :
    parser.Decided state
      (.chain parts.separator (parser.planRepetition parts follow).afterSeparator) := by
  rcases decided with ⟨kind, current, starts⟩ | passes
  · exact .inl ⟨kind, current, (Grammar.mem_leadFirst.mp starts).2⟩
  · exact .inr (passes.leadingSeparator predictive leads)

/-- Either the current token starts the content of a round, or the content passes, nothing is
skipped after it, and it is decided about the separator. -/
theorem content
    (predictive : parser.Predictive) (decided : parser.Decided state (.round parts follow)) :
    parser.Starts state
        (.chain parts.content (parser.planRepetition parts follow).afterContent) ∨
      parser.Passes state
          (.chain parts.content (parser.planRepetition parts follow).afterContent) ∧
        (∀ after, state.Unmoved after →
          parser.settle (parser.planRepetition parts follow) after = after) ∧
        parser.Decided state
          (.chain parts.separator (parser.planRepetition parts follow).afterSeparator) := by
  rcases decided with ⟨kind, current, starts⟩ | passes
  · by_cases starts' : kind ∈ (parser.grammar.predict.firstOf parts.content).tokens
    · exact .inl ⟨kind, current, starts'⟩
    · obtain ⟨passes, later⟩ := passes_content predictive current starts starts'
      refine .inr ⟨passes, fun after unmoved => ?_, .inl ⟨kind, current, later⟩⟩
      exact settle_of_separator predictive ((currentKind?_of_unmoved unmoved).trans current) later
  · exact .inr ⟨passes.content, fun after unmoved => (passes.of_unmoved unmoved).settle,
      .inr passes.separator⟩

theorem branch {branches : List ExprId} {branch : ExprId}
    (predictive : parser.Predictive)
    (decided : parser.Decided state (.element id follow (.alternation branches)))
    (chosen : parser.chooseBranch state branches = some branch) :
    parser.Decided state (.chain branch follow) := by
  rcases decided with ⟨kind, current, starts⟩ | passes
  · exact .inl ⟨kind, current, chooseBranch_of_starts predictive current starts chosen⟩
  · exact .inr (passes.branch predictive chosen)

theorem of_unmoved {task : Task}
    (decided : parser.Decided state task) (unmoved : state.Unmoved after) :
    parser.Decided after task :=
  decided.imp (Starts.of_unmoved unmoved) fun passes => passes.of_unmoved unmoved

end Decided

/-! ## The names entered since the last token -/

/-- The names were entered one within the other since the last token was taken, and the task stands
at a leftmost place of all of them. -/
structure Entered (parser : Parser) (state : ParseState) (task : Task)
    (names : List NonTerminalId) : Prop where
  nodup : names.Nodup
  known : ∀ name ∈ names, name < parser.grammar.nonTerminals.size
  calls : ∀ caller ∈ names, ∀ name, task.Leftmost parser.grammar name →
    Relation.TransGen parser.grammar.CallsLeft caller name
  decided : names ≠ [] → parser.Decided state task

/-- How many names can still be entered before the input ends. -/
def slack (parser : Parser) (state : ParseState) (names : List NonTerminalId) : Nat :=
  (parser.grammar.nonTerminals.size - names.length) +
    (parser.grammar.nonTerminals.size + 1) * (parser.document.size - state.cursor)

/-- The depth is enough for the task. -/
structure Room (parser : Parser) (depth : Nat) (task : Task) (state : ParseState)
    (bound : ExprId) (names : List NonTerminalId) : Prop where
  within : task.Within parser.grammar bound
  bound_le : bound ≤ parser.grammar.exprs.size
  inside : state.cursor ≤ parser.document.size
  entered : parser.Entered state task names
  depth_le : bound + (parser.grammar.exprs.size + 1) * parser.slack state names ≤ depth
  rounds_lt : ∀ parts follow count, task = .rounds parts follow count →
    parser.document.size - state.cursor < count

theorem entered_nil (state : ParseState) (task : Task) : parser.Entered state task [] where
  nodup := .nil
  known := by simp
  calls := by simp
  decided := by simp

theorem slack_nil_le_of_le (moved : state.cursor ≤ after.cursor) :
    parser.slack after [] ≤ parser.slack state [] := by
  unfold slack
  have fewer : parser.document.size - after.cursor ≤ parser.document.size - state.cursor :=
    Nat.sub_le_sub_left moved _
  exact Nat.add_le_add_left (Nat.mul_le_mul_left _ fewer) _

theorem slack_nil_le_of_lt (names : List NonTerminalId)
    (moved : state.cursor < after.cursor) (inside : after.cursor ≤ parser.document.size) :
    parser.slack after [] ≤ parser.slack state names := by
  unfold slack
  have fewer : parser.document.size - after.cursor + 1 ≤ parser.document.size - state.cursor := by
    lia
  have product := Nat.mul_le_mul_left (parser.grammar.nonTerminals.size + 1) fewer
  rw [Nat.mul_add] at product
  simp only [List.length_nil]
  lia

theorem slack_of_unmoved (names : List NonTerminalId) (unmoved : state.Unmoved after) :
    parser.slack after names = parser.slack state names := by
  rw [slack, unmoved.cursor, slack]

/-- A task may be followed by another one: a token was taken, or it is decided about the other one
at the same leftmost places.  With no names entered anything may follow. -/
theorem Entered.move
    {task other : Task} {names : List NonTerminalId}
    (entered : parser.Entered state task names) (le : state.cursor ≤ after.cursor)
    (inside : after.cursor ≤ parser.document.size)
    (step : parser.Decided state task → state.cursor < after.cursor ∨
      state.Unmoved after ∧ parser.Decided state other ∧
        ∀ name, other.Leftmost parser.grammar name → task.Leftmost parser.grammar name) :
    ∃ names', parser.Entered after other names' ∧
      parser.slack after names' ≤ parser.slack state names := by
  by_cases fresh : names = []
  · subst fresh
    exact ⟨[], entered_nil _ _, slack_nil_le_of_le le⟩
  · rcases step (entered.decided fresh) with moved | ⟨unmoved, decided, leftmost⟩
    · exact ⟨[], entered_nil _ _, slack_nil_le_of_lt names moved inside⟩
    · refine ⟨names, ⟨entered.nodup, entered.known, ?_, fun _ => decided.of_unmoved unmoved⟩,
        (slack_of_unmoved names unmoved).le⟩
      exact fun caller member name stands =>
        entered.calls caller member name (leftmost name stands)

/-- Without left recursion a name that starts with the current token was not entered before. -/
theorem Entered.enter
    {id : ExprId} {follow : KindSet} {name : NonTerminalId} {names : List NonTerminalId}
    (terminating : ¬ parser.grammar.LeftRecursive)
    (known : name < parser.grammar.nonTerminals.size)
    (entered : parser.Entered state (.element id follow (.nonTerminal name)) names)
    (starts : parser.Starts state (.chain (parser.grammar.ruleOf name) follow)) :
    parser.Entered (parser.openFrame name state) (.chain (parser.grammar.ruleOf name) follow)
        (name :: names) ∧
      parser.slack (parser.openFrame name state) (name :: names) + 1 ≤
        parser.slack state names := by
  have callsName : ∀ caller ∈ names,
      Relation.TransGen parser.grammar.CallsLeft caller name :=
    fun caller member => entered.calls caller member name rfl
  have new : name ∉ names := fun member => terminating ⟨name, callsName name member⟩
  have nodup : (name :: names).Nodup := List.nodup_cons.mpr ⟨new, entered.nodup⟩
  have names_lt : ∀ other ∈ name :: names, other < parser.grammar.nonTerminals.size := by
    intro other member
    rcases List.mem_cons.mp member with rfl | later
    · exact known
    · exact entered.known other later
  refine ⟨⟨nodup, names_lt, ?_, fun _ => .inl starts⟩, ?_⟩
  · intro caller member other stands
    have call : parser.grammar.CallsLeft name other := stands
    rcases List.mem_cons.mp member with rfl | later
    · exact .single call
    · exact (callsName caller later).tail call
  · have fits : (name :: names).length ≤ parser.grammar.nonTerminals.size := by
      have subset : (name :: names) ⊆ List.range parser.grammar.nonTerminals.size :=
        fun other member => List.mem_range.mpr (names_lt other member)
      simpa using (nodup.subperm subset).length_le
    simp only [List.length_cons] at fits
    simp only [slack, List.length_cons]
    change _ - _ + _ * (_ - state.cursor) + 1 ≤ _
    lia

namespace Room

variable {depth depth' : Nat} {id : ExprId} {follow : KindSet} {parts : Repetition}
  {bound bound' : ExprId} {names : List NonTerminalId}

theorem move
    {task other : Task} (room : parser.Room depth task state bound names)
    (smaller : bound' ≤ bound) (lower : bound' + depth ≤ bound + depth')
    (within : other.Within parser.grammar bound') (le : state.cursor ≤ after.cursor)
    (inside : after.cursor ≤ parser.document.size)
    (rounds : ∀ parts follow count, other = .rounds parts follow count →
      parser.document.size - after.cursor < count)
    (step : parser.Decided state task → state.cursor < after.cursor ∨
      state.Unmoved after ∧ parser.Decided state other ∧
        ∀ name, other.Leftmost parser.grammar name → task.Leftmost parser.grammar name) :
    ∃ names', parser.Room depth' other after bound' names' := by
  obtain ⟨names', entered, less⟩ := room.entered.move le inside step
  have depth_le := room.depth_le
  have product := Nat.mul_le_mul_left (parser.grammar.exprs.size + 1) less
  exact ⟨names', within, smaller.trans room.bound_le, inside, entered, by lia, rounds⟩

theorem part
    {task : Task} (room : parser.Room depth task state bound names) (other : Task)
    (within : other.Within parser.grammar bound)
    (rounds : ∀ parts follow count, other = .rounds parts follow count →
      parser.document.size - state.cursor < count)
    (decided : parser.Decided state task → parser.Decided state other)
    (leftmost : ∀ name, other.Leftmost parser.grammar name → task.Leftmost parser.grammar name) :
    ∃ names', parser.Room depth other state bound names' :=
  room.move (Nat.le_refl _) (Nat.le_refl _) within (Nat.le_refl _) room.inside rounds fun known =>
    .inr ⟨.refl _, decided known, leftmost⟩

theorem firstElement
    (predictive : parser.Predictive)
    (room : parser.Room (depth + 1) (.chain id follow) state bound names) :
    ∃ names', parser.Room depth
      (.element id (parser.followOfElement id follow) (parser.grammar.expr id).element)
      (parser.arrive id follow state) id names' := by
  have below : id < bound := room.within
  have arrived := parser.reads_arrive id follow state
  refine room.move below.le (by lia) (predictive.ordered.within_element _ (Nat.le_refl _))
    arrived.cursor_le (arrived.inside room.inside) (by simp) fun decided => ?_
  refine .inr ⟨decided.arrives predictive, ?_, fun name stands => stands.leftmost⟩
  exact (decided.firstElement (below.trans_le room.bound_le) predictive).imp_right And.left

theorem rest
    {next : ExprId} {node : Tree} (predictive : parser.Predictive)
    (room : parser.Room (depth + 1) (.chain id follow) state bound names)
    (following : (parser.grammar.expr id).next = some next)
    (element : parser.Runs depth'
      (.element id (parser.followOfElement id follow) (parser.grammar.expr id).element)
      (parser.arrive id follow state) (.node node) after) :
    ∃ names', parser.Room depth (.chain next follow) after id names' := by
  have below : id < bound := room.within
  have inside := below.trans_le room.bound_le
  have reads := (parser.reads_arrive id follow state).append (element.reads trivial)
  refine room.move below.le (by lia) (predictive.ordered.next_lt following)
    reads.cursor_le (reads.inside room.inside) (by simp) fun decided => ?_
  have still := decided.arrives predictive
  have within := predictive.ordered.within_element (parser.followOfElement id follow) inside.le
  rcases decided.firstElement inside predictive with starts | ⟨passes, rest⟩
  · have moved := element.cursor_lt predictive within (.of_unmoved still starts) trivial
    exact .inl (still.cursor ▸ moved)
  · have quiet := element.quiet predictive within (passes.of_unmoved still) (by simp)
    refine .inr ⟨still.trans quiet.unmoved, rest next following, fun name stands => ?_⟩
    exact .later following passes.nullable stands

theorem enter
    {name : NonTerminalId} (predictive : parser.Predictive)
    (terminating : ¬ parser.grammar.LeftRecursive)
    (room : parser.Room depth (.element id follow (.nonTerminal name)) state bound names)
    (starts : parser.at? state
      (parser.prediction.firstOf (parser.grammar.ruleOf name)).tokens = true) :
    parser.Room depth (.chain (parser.grammar.ruleOf name) follow) (parser.openFrame name state)
      parser.grammar.exprs.size (name :: names) := by
  rw [predictive.predicted, at?_iff] at starts
  obtain ⟨entered, less⟩ := room.entered.enter terminating (room.within.2 name rfl) starts
  have depth_le := room.depth_le
  have product := Nat.mul_le_mul_left (parser.grammar.exprs.size + 1) less
  exact ⟨predictive.ordered.rule_lt name, Nat.le_refl _, room.inside, entered, by lia, by simp⟩

theorem inner
    {inner : ExprId} (predictive : parser.Predictive)
    (room : parser.Room depth (.element id follow (.optional inner)) state bound names)
    (starts : parser.at? state (parser.prediction.firstOf inner).tokens = true) :
    ∃ names', parser.Room depth (.chain inner follow) state bound names' := by
  rw [predictive.predicted, at?_iff] at starts
  exact room.part (.chain _ _) (room.within.1 _ (by simp [Element.parts])) (by simp)
    (fun _ => .inl starts) (fun name stands => stands)

theorem branch
    {branch : ExprId} {branches : List ExprId} (predictive : parser.Predictive)
    (room : parser.Room depth (.element id follow (.alternation branches)) state bound names)
    (chosen : parser.chooseBranch state branches = some branch) :
    ∃ names', parser.Room depth (.chain branch follow) state bound names' := by
  have member := (chooseBranch_eq_some chosen).1
  exact room.part (.chain _ _) (room.within.1 _ member) (by simp)
    (fun decided => decided.branch predictive chosen) (fun name stands => ⟨_, member, stands⟩)

theorem items
    (room : parser.Room depth (.element id follow (.repetition parts)) state bound names) :
    ∃ names', parser.Room depth (.repetition parts follow) state bound names' :=
  room.part (.repetition _ _)
    ⟨room.within.1 _ (by simp [Element.parts]), room.within.1 _ (by simp [Element.parts])⟩
    (by simp) (fun decided => decided.items) (fun name stands => stands)

theorem lead
    (predictive : parser.Predictive)
    (room : parser.Room depth (.repetition parts follow) state bound names) :
    ∃ names', parser.Room depth (.lead parts follow) state bound names' :=
  room.part (.lead _ _) room.within (by simp)
    (fun decided => (decided.lead predictive).imp_right And.left)
    (fun name stands => .inl stands)

theorem leadingSeparator
    (predictive : parser.Predictive)
    (room : parser.Room depth (.lead parts follow) state bound names)
    (leads : parser.leads state (parser.planRepetition parts follow) = true) :
    ∃ names', parser.Room depth
      (.chain parts.separator (parser.planRepetition parts follow).afterSeparator)
      state bound names' :=
  room.part (.chain _ _) room.within.2 (by simp)
    (fun decided => decided.leadingSeparator predictive leads)
    (fun name stands => ⟨leading_of_leads leads, stands⟩)

theorem rounds
    {items : List (List Tree)} (predictive : parser.Predictive)
    (room : parser.Room depth (.repetition parts follow) state bound names)
    (lead : parser.Runs depth' (.lead parts follow) state (.items items) after) :
    ∃ names', parser.Room depth
      (.rounds parts follow (parser.document.size - after.cursor + 1)) after bound names' := by
  have within : (Task.lead parts follow).Within parser.grammar parser.grammar.exprs.size :=
    ⟨room.within.1.trans_le room.bound_le, room.within.2.trans_le room.bound_le⟩
  have reads := lead.reads trivial
  refine room.move (Nat.le_refl _) (Nat.le_refl _) room.within reads.cursor_le
    (reads.inside room.inside) ?_ fun decided => ?_
  · rintro _ _ _ ⟨⟩
    lia
  · rcases decided.lead predictive with starts | ⟨passes, later⟩
    · exact .inl (lead.cursor_lt predictive within starts trivial)
    · have quiet := lead.quiet predictive within passes (by simp)
      refine .inr ⟨quiet.unmoved, later.rounds _, fun name stands => ?_⟩
      exact .inr ⟨Grammar.nullable_leadFirst.mp passes.nullable, stands⟩

theorem round
    {count : Nat} (room : parser.Room depth (.rounds parts follow count) state bound names) :
    ∃ names', parser.Room depth (.round parts follow) state bound names' :=
  room.part (.round _ _) room.within (by simp) (fun decided => decided.round)
    (fun name stands => stands)

theorem moreRounds
    {count : Nat} {items : List (List Tree)}
    (room : parser.Room depth (.rounds parts follow (count + 1)) state bound names)
    (round : parser.Runs depth' (.round parts follow) state (.round items true) after)
    (moved : after.cursor ≠ state.cursor) :
    ∃ names', parser.Room depth (.rounds parts follow count) after bound names' := by
  have reads := round.reads trivial
  have le := reads.cursor_le
  have inside := reads.inside room.inside
  refine room.move (Nat.le_refl _) (Nat.le_refl _) room.within le inside ?_
    fun _ => .inl (by lia)
  rintro _ _ _ ⟨⟩
  have fewer := room.rounds_lt _ _ _ rfl
  lia

theorem nextRound
    {items : List (List Tree)} {more : Bool}
    (room : parser.Room depth (.round parts follow) state bound names)
    (round : parser.Runs depth' (.round parts follow) state (.round items more) after)
    (moved : after.cursor ≠ state.cursor) :
    ∃ names', parser.Room depth (.round parts follow) after bound names' := by
  have reads := round.reads trivial
  have le := reads.cursor_le
  exact room.move (Nat.le_refl _) (Nat.le_refl _) room.within le (reads.inside room.inside)
    (by simp) fun _ => .inl (by lia)

theorem content
    (predictive : parser.Predictive)
    (room : parser.Room depth (.round parts follow) state bound names) :
    ∃ names', parser.Room depth
      (.chain parts.content (parser.planRepetition parts follow).afterContent)
      state bound names' :=
  room.part (.chain _ _) room.within.1 (by simp)
    (fun decided => (decided.content predictive).imp_right And.left)
    (fun name stands => .inl stands)

theorem separator
    {content : List Tree} (predictive : parser.Predictive)
    (room : parser.Room depth (.round parts follow) state bound names)
    (first : parser.Runs depth'
      (.chain parts.content (parser.planRepetition parts follow).afterContent)
      state (.chain content) after) :
    ∃ names', parser.Room depth
      (.chain parts.separator (parser.planRepetition parts follow).afterSeparator)
      (parser.settle (parser.planRepetition parts follow) after) bound names' := by
  have within := room.within.1.trans_le room.bound_le
  have reads := (first.reads trivial).andThen
    (parser.reads_settle (parser.planRepetition parts follow) after)
  refine room.move (Nat.le_refl _) (Nat.le_refl _) room.within.2 reads.cursor_le
    (reads.inside room.inside) (by simp) fun decided => ?_
  rcases decided.content predictive with starts | ⟨passes, settled, later⟩
  · have moved := first.cursor_lt predictive within starts trivial
    exact .inl (moved.trans_le (parser.reads_settle _ after).cursor_le)
  · have quiet := first.quiet predictive within passes (by simp)
    rw [settled after quiet.unmoved]
    exact .inr ⟨quiet.unmoved, later, fun name stands => .inr ⟨passes.nullable, stands⟩⟩

end Room

/-- With enough room no task goes on without end. -/
theorem Runs.finite {depth : Nat} {task : Task} {outcome : Outcome} {bound : ExprId}
    {names : List NonTerminalId} (run : parser.Runs depth task state outcome after)
    (predictive : parser.Predictive) (terminating : ¬ parser.grammar.LeftRecursive)
    (room : parser.Room depth task state bound names) : outcome ≠ .stopped .endless := by
  induction run generalizing bound names with
  | exhausted =>
      have below : _ < bound := room.within
      have depth_le := room.depth_le
      lia
  | noRoundsLeft =>
      have fewer := room.rounds_lt _ _ _ rfl
      lia
  | stoppedFirst _ element =>
      obtain ⟨names', room⟩ := room.firstElement predictive
      simpa using element room
  | stoppedNext following element _ _ rest =>
      obtain ⟨names', room⟩ := room.rest predictive following element
      simpa using rest room
  | enteredStopped starts _ child =>
      simpa using child (room.enter predictive terminating starts)
  | optionalStopped starts _ child =>
      obtain ⟨names', room⟩ := room.inner predictive starts
      simpa using child room
  | alternationStopped chosen _ child =>
      obtain ⟨names', room⟩ := room.branch predictive chosen
      simpa using child room
  | repetitionStopped _ items =>
      obtain ⟨names', room⟩ := room.items
      simpa using items room
  | ledStopped leads _ separator =>
      obtain ⟨names', room⟩ := room.leadingSeparator predictive leads
      simpa using separator room
  | leadStopped _ lead =>
      obtain ⟨names', room⟩ := room.lead predictive
      simpa using lead room
  | filledStopped lead _ _ _ rounds =>
      obtain ⟨names', room⟩ := room.rounds predictive lead
      simpa using rounds room
  | roundStopped _ round =>
      obtain ⟨names', room⟩ := room.round
      simpa using round room
  | moreStopped round moved _ _ rounds =>
      obtain ⟨names', room⟩ := room.moreRounds round moved
      simpa using rounds room
  | contentStopped _ content =>
      obtain ⟨names', room⟩ := room.content predictive
      simpa using content room
  | separatorStopped content _ _ _ _ separator =>
      obtain ⟨names', room⟩ := room.separator predictive content
      simpa using separator room
  | _ => simp

def startState (parser : Parser) (start : NonTerminalId) (setsAnnounced : Bool) : ParseState :=
  parser.openFrame start (parser.observe (.initial setsAnnounced))

theorem startState_cursor (parser : Parser) (start : NonTerminalId) (setsAnnounced : Bool) :
    (parser.startState start setsAnnounced).cursor = 0 :=
  (parser.samePlace_observe (.initial setsAnnounced)).cursor

theorem room_of_depthLimit_le {depth : Nat} {id : ExprId} {follow : KindSet}
    (within : id < parser.grammar.exprs.size) (inside : state.cursor ≤ parser.document.size)
    (enough : parser.depthLimit ≤ depth) :
    parser.Room depth (.chain id follow) state parser.grammar.exprs.size [] where
  within := within
  bound_le := Nat.le_refl _
  inside := inside
  entered := entered_nil _ _
  depth_le := by
    refine Nat.le_trans ?_ enough
    generalize sizes : parser.grammar.exprs.size = exprs
    rw [slack, depthLimit, sizes]
    simp only [List.length_nil, Nat.sub_zero]
    generalize parser.grammar.nonTerminals.size = names
    generalize parser.document.size = tokens
    calc
      exprs + (exprs + 1) * (names + (names + 1) * (tokens - state.cursor))
          ≤ exprs + (exprs + 1) * (names + (names + 1) * tokens) :=
        Nat.add_le_add_left (Nat.mul_le_mul_left _
          (Nat.add_le_add_left (Nat.mul_le_mul_left _ (Nat.sub_le _ _)) _)) _
      _ ≤ (exprs + 1) * (1 + names + (names + 1) * tokens) := by
        rw [Nat.add_assoc 1, Nat.mul_add _ 1]
        lia
      _ = (tokens + 1) * (names + 1) * (exprs + 1) := by ring
      _ ≤ (tokens + 2) * (names + 2) * (exprs + 2) :=
        Nat.mul_le_mul (Nat.mul_le_mul (by lia) (by lia)) (by lia)
  rounds_lt := by simp

/-- Without left recursion the descent never reaches its depth limit. -/
theorem Runs.finite_of_depthLimit {start : NonTerminalId} {setsAnnounced : Bool}
    {outcome : Outcome} (predictive : parser.Predictive)
    (terminating : ¬ parser.grammar.LeftRecursive)
    (run : parser.Runs parser.depthLimit (.chain (parser.grammar.ruleOf start) .empty)
      (parser.startState start setsAnnounced) outcome after) : outcome ≠ .stopped .endless :=
  run.finite predictive terminating (room_of_depthLimit_le (predictive.ordered.rule_lt start)
    ((startState_cursor ..).trans_le (Nat.zero_le _)) (Nat.le_refl _))

/-- How a parse of a whole document ends. -/
inductive Finishes (parser : Parser) (start : NonTerminalId) (setsAnnounced : Bool) :
    Parser.Run → Prop where
  | parsed {child : List Tree} {after : ParseState} :
      parser.Runs parser.depthLimit (.chain (parser.grammar.ruleOf start) .empty)
        (parser.startState start setsAnnounced) (.chain child) after →
      Finishes parser start setsAnnounced
        (parser.finish (.nonTerminal (parser.grammar.ruleOf start) start child)
          (parser.sweep (parser.closeFrame start false after)))
  | aborted {expr : ExprId} {found : Option TokenId} {after : ParseState} :
      parser.Runs parser.depthLimit (.chain (parser.grammar.ruleOf start) .empty)
        (parser.startState start setsAnnounced) (.stopped (.aborted expr found)) after →
      Finishes parser start setsAnnounced
        (parser.finish (.missing expr found)
          ((parser.closeFrame start true after).note (.aborted found)))

theorem run?_finishes
    (predictive : parser.Predictive) (terminating : ¬ parser.grammar.LeftRecursive)
    (start : NonTerminalId) (setsAnnounced : Bool) :
    ∃ run, parser.run? start setsAnnounced = some run ∧
      parser.Finishes start setsAnnounced run := by
  have follows := parser.follows_parseChain parser.depthLimit
  unfold run? within
  dsimp only
  rw [← startState]
  cases done : parser.parseChain parser.depthLimit (parser.grammar.ruleOf start) .empty
      (parser.startState start setsAnnounced) with
  | ok child after => exact ⟨_, rfl, .parsed (follows.of_ok done)⟩
  | error stop after =>
      cases stop with
      | aborted expr found => exact ⟨_, rfl, .aborted (follows.of_error done)⟩
      | endless =>
          exact ((follows.of_error done).finite_of_depthLimit predictive terminating rfl).elim

end Parser

end Reparse
