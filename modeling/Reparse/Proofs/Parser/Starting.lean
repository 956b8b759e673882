import Reparse.Proofs.Parser.Passing

/-!
# Tasks that the current token starts

What comes before the place where a task can take the current token passes, so the token is the
first leaf of what comes out.
-/

namespace Reparse.Parser

variable {parser : Parser} {state after : ParseState} {kind : TokenKind}

/-- The rest of a chain that the current token starts comes after an element that passes, unless the
token starts the element. -/
theorem passes_firstElement
    {id next : ExprId} {follow : KindSet} (inside : id < parser.grammar.exprs.size)
    (predictive : parser.Predictive) (current : parser.currentKind? state = some kind)
    (following : (parser.grammar.expr id).next = some next)
    (starts : kind ∈ (parser.grammar.predict.firstOf id).tokens)
    (other : ¬ kind ∈ (parser.grammar.startOf (parser.grammar.expr id).element).tokens) :
    parser.Passes state
        (.element id (parser.followOfElement id follow) (parser.grammar.expr id).element) ∧
      kind ∈ (parser.grammar.predict.firstOf next).tokens := by
  rw [Grammar.firstOf_of_next inside following, FirstSet.mem_andThen] at starts
  obtain ⟨nullable, later⟩ := starts.resolve_left other
  refine ⟨⟨nullable, ?_, ?_⟩, later⟩
  · intro kind' current'
    rwa [Option.some.inj (current'.symm.trans current)]
  · intro _ kind' current'
    rw [Option.some.inj (current'.symm.trans current), Task.Spares, followOfElement, following,
      KindSet.mem_union, predictive.predicted]
    exact .inr (Grammar.mem_consumableOf_of_mem_firstOf later)

theorem passes_lead
    {parts : Repetition} {follow : KindSet} (predictive : parser.Predictive)
    (current : parser.currentKind? state = some kind)
    (starts : kind ∈ ((Task.repetition parts follow).first parser.grammar).tokens)
    (other : ¬ kind ∈ ((Task.lead parts follow).first parser.grammar).tokens) :
    parser.Passes state (.lead parts follow) ∧
      kind ∈ ((Task.round parts follow).first parser.grammar).tokens := by
  rw [Task.first, Grammar.repetitionFirst_eq, FirstSet.mem_andThen] at starts
  obtain ⟨nullable, later⟩ := starts.resolve_left other
  refine ⟨⟨nullable, ?_, ?_⟩, later⟩
  · intro kind' current'
    rwa [Option.some.inj (current'.symm.trans current)]
  · intro _ kind' current'
    rw [Option.some.inj (current'.symm.trans current)]
    by_cases prohibited : parts.leading = .prohibited
    · exact .inl prohibited
    · rw [Task.first, Grammar.mem_leadFirst] at other
      rw [Grammar.bodyFirst, FirstSet.mem_andThen] at later
      refine .inr (mem_afterSeparator.mpr (.inr ?_))
      rw [predictive.predicted]
      exact later.resolve_right fun separator => other ⟨prohibited, separator.2⟩

theorem passes_content
    {parts : Repetition} {follow : KindSet} (predictive : parser.Predictive)
    (current : parser.currentKind? state = some kind)
    (starts : kind ∈ ((Task.round parts follow).first parser.grammar).tokens)
    (other : ¬ kind ∈ (parser.grammar.predict.firstOf parts.content).tokens) :
    parser.Passes state
        (.chain parts.content (parser.planRepetition parts follow).afterContent) ∧
      kind ∈ (parser.grammar.predict.firstOf parts.separator).tokens := by
  rw [Task.first, Grammar.bodyFirst, FirstSet.mem_andThen] at starts
  obtain ⟨nullable, later⟩ := starts.resolve_left other
  refine ⟨⟨nullable, ?_, ?_⟩, later⟩
  · intro kind' current'
    rwa [Option.some.inj (current'.symm.trans current)]
  · intro _ kind' current'
    rw [Option.some.inj (current'.symm.trans current)]
    exact mem_afterContent.mpr (.inr (.inl (by rwa [predictive.predicted])))

theorem settle_of_separator
    {parts : Repetition} {follow : KindSet} (predictive : parser.Predictive)
    (current : parser.currentKind? state = some kind)
    (starts : kind ∈ (parser.grammar.predict.firstOf parts.separator).tokens) :
    parser.settle (parser.planRepetition parts follow) state = state := by
  apply settle_eq_self
  intro _ kind' current'
  rw [Option.some.inj (current'.symm.trans current), mem_afterContent, predictive.predicted]
  exact .inr (.inl starts)

open Reparse.Tree in
/-- A content that the current token does not start stays before the token, which starts the
separator then. -/
theorem Runs.content_stays {depth : Nat} {parts : Repetition} {follow : KindSet}
    {content : List Tree}
    (first : parser.Runs depth
      (.chain parts.content (parser.planRepetition parts follow).afterContent) state
      (.chain content) after)
    (predictive : parser.Predictive) (within : parts.content < parser.grammar.exprs.size)
    (current : parser.currentKind? state = some kind)
    (starts : kind ∈ ((Task.round parts follow).first parser.grammar).tokens)
    (other : ¬ kind ∈ (parser.grammar.predict.firstOf parts.content).tokens) :
    state.cursor = after.cursor ∧ leavesIn [content] = [] ∧
      parser.currentKind? after = some kind ∧
      parser.settle (parser.planRepetition parts follow) after = after ∧
      kind ∈ (parser.grammar.predict.firstOf parts.separator).tokens := by
  obtain ⟨passes, later⟩ := passes_content predictive current starts other
  have quiet := first.quiet predictive within passes (by simp)
  have current' := (currentKind?_of_unmoved quiet.unmoved).trans current
  exact ⟨quiet.unmoved.cursor.symm, quiet.leaves, current',
    settle_of_separator predictive current' later, later⟩

theorem chooseBranch_of_starts {branches : List ExprId} {branch : ExprId}
    (predictive : parser.Predictive) (current : parser.currentKind? state = some kind)
    (starts : kind ∈ (parser.grammar.startOf (.alternation branches)).tokens)
    (chosen : parser.chooseBranch state branches = some branch) :
    kind ∈ (parser.grammar.predict.firstOf branch).tokens := by
  obtain ⟨_, matched⟩ := chooseBranch_eq_some chosen
  rw [predictive.predicted] at matched
  rcases matched with atBranch | ⟨_, others⟩
  · obtain ⟨kind', current', starts'⟩ := at?_iff.mp atBranch
    rwa [Option.some.inj (current.symm.trans current')]
  · rw [Grammar.startOf, Grammar.mem_elementFirst_alternation] at starts
    obtain ⟨other, member, starts⟩ := starts
    exact (at?_eq_false_iff.mp (others other member) kind current starts).elim

/-- The first of the leaves is the token of a number. -/
def TokenFirst (id : TokenId) (leaves : List Tree) : Prop :=
  ∃ expr rest, leaves = .token expr id :: rest

theorem TokenFirst.append {id : TokenId} {leaves : List Tree}
    (first : TokenFirst id leaves) (more : List Tree) : TokenFirst id (leaves ++ more) := by
  obtain ⟨expr, rest, rfl⟩ := first
  exact ⟨expr, rest ++ more, rfl⟩

theorem not_starts_of_not_at? {set : KindSet}
    (other : parser.at? state set = false) (current : parser.currentKind? state = some kind) :
    ¬ kind ∈ set :=
  at?_eq_false_iff.mp other kind current

open Reparse.Tree in
/-- A task that the current token starts takes it before anything else. -/
theorem Runs.takes_current {depth : Nat} {task : Task} {outcome : Outcome}
    (run : parser.Runs depth task state outcome after) (predictive : parser.Predictive)
    (within : task.Within parser.grammar parser.grammar.exprs.size)
    (current : parser.currentKind? state = some kind)
    (starts : kind ∈ (task.first parser.grammar).tokens) (succeeds : outcome.Succeeds) :
    TokenFirst state.cursor (leavesIn outcome.chains) := by
  have ordered := predictive.ordered
  have arrives : ∀ {id : ExprId} (follow : KindSet) {state : ParseState},
      parser.currentKind? state = some kind →
      kind ∈ (parser.grammar.predict.firstOf id).tokens →
      state.Unmoved (parser.arrive id follow state) := by
    intro id follow state current starts
    refine unmoved_arrive fun _ kind' current' => .inr ?_
    rwa [Option.some.inj (current'.symm.trans current), predictive.predicted]
  induction run with
  | exhausted | stoppedFirst | stoppedNext | aborted | enteredStopped | optionalStopped
  | alternationStopped | repetitionStopped | ledStopped | leadStopped | filledStopped
  | noRoundsLeft | roundStopped | moreStopped | contentStopped | separatorStopped =>
      exact succeeds.elim
  | @last depth id follow state after node last _ element =>
      have still := arrives follow current starts
      rw [← still.cursor]
      refine element (ordered.within_element _ within.le)
        ((currentKind?_of_unmoved still).trans current) ?_ trivial
      rwa [Task.first, ← Grammar.firstOf_of_last within last]
  | @cons depth id next follow state middle after node nodes following first _ element rest =>
      have still := arrives follow current starts
      have current' := (currentKind?_of_unmoved still).trans current
      rw [Outcome.chains, leavesIn_chain_cons, ← still.cursor]
      by_cases starts' : kind ∈ (parser.grammar.startOf (parser.grammar.expr id).element).tokens
      · exact (element (ordered.within_element _ within.le) current' starts' trivial).append _
      · obtain ⟨passes, later⟩ :=
          passes_firstElement within predictive current' following starts starts'
        have quiet := first.quiet predictive (ordered.within_element _ within.le) passes (by simp)
        have found := rest ((ordered.next_lt following).trans within)
          ((currentKind?_of_unmoved quiet.unmoved).trans current') later trivial
        rw [quiet.unmoved.cursor] at found
        rwa [show leavesIn [[node]] = [] from quiet.leaves]
  | token => exact ⟨_, [], leavesIn_token _ _⟩
  | missing _ lacks => exact ((lacks.full predictive).2 kind current starts).elim
  | entered _ _ child =>
      rw [Outcome.chains, leavesIn_nonTerminal]
      exact child (ordered.rule_lt _) current starts trivial
  | absent other =>
      rw [predictive.predicted] at other
      exact (not_starts_of_not_at? other current starts).elim
  | empty => simp [Task.first, Grammar.startOf] at starts
  | optional _ _ child =>
      have found := child (within.1 _ (by simp [Element.parts])) current starts trivial
      simpa [Outcome.chains] using found
  | optionalAbsent other =>
      rw [predictive.predicted] at other
      exact (not_starts_of_not_at? other current starts).elim
  | alternation chosen _ child =>
      have found := child (within.1 _ (chooseBranch_eq_some chosen).1) current
        (chooseBranch_of_starts predictive current starts chosen) trivial
      simpa [Outcome.chains] using found
  | repetition _ items =>
      have found := items
        ⟨within.1 _ (by simp [Element.parts]), within.1 _ (by simp [Element.parts])⟩
        current starts trivial
      simpa [Outcome.chains] using found
  | led _ _ separator =>
      exact separator within.2 current (Grammar.mem_leadFirst.mp starts).2 trivial
  | unled unled =>
      have unled := mt leads_iff.mpr (by simpa using unled)
      rw [predictive.predicted, at?_iff] at unled
      obtain ⟨allowed, starts⟩ := Grammar.mem_leadFirst.mp starts
      refine (unled ?_).elim
      cases leading : Repetition.leading _ with
      | required => exact .inl rfl
      | optional => exact .inr ⟨rfl, kind, current, starts⟩
      | prohibited => exact (allowed leading).elim
  | @leadOnly depth parts follow state after items first ended lead =>
      by_cases starts' : kind ∈ ((Task.lead parts follow).first parser.grammar).tokens
      · exact lead within current starts' trivial
      · obtain ⟨passes, _⟩ := passes_lead predictive current starts starts'
        have quiet := first.quiet predictive within passes (by simp)
        rw [currentKind?_of_unmoved quiet.unmoved, current] at ended
        simp at ended
  | @filled depth parts follow state middle after items rest first _ _ lead rounds =>
      rw [Outcome.chains, leavesIn_append]
      by_cases starts' : kind ∈ ((Task.lead parts follow).first parser.grammar).tokens
      · exact (lead within current starts' trivial).append _
      · obtain ⟨passes, later⟩ := passes_lead predictive current starts starts'
        have quiet := first.quiet predictive within passes (by simp)
        have found := rounds within ((currentKind?_of_unmoved quiet.unmoved).trans current) later
          trivial
        rw [quiet.unmoved.cursor] at found
        rwa [show leavesIn items = [] from quiet.leaves]
  | lastRound _ round | stuckRound _ _ round => exact round within current starts trivial
  | moreRounds _ _ _ round =>
      rw [Outcome.chains, leavesIn_append]
      exact (round within current starts trivial).append _
  | @joined depth parts follow state after content first joins contentFound =>
      rw [Outcome.chains, leavesIn_cons]
      by_cases starts' : kind ∈ (parser.grammar.predict.firstOf parts.content).tokens
      · exact (contentFound within.1 current starts' trivial).append _
      · obtain ⟨-, -, current', settled, -⟩ :=
          first.content_stays predictive within.1 current starts starts'
        rw [settled, joins_iff, predictive.predicted, at?_iff] at joins
        obtain ⟨_, kind', current'', starts''⟩ := joins
        rw [Option.some.inj (current''.symm.trans current')] at starts''
        exact (starts' starts'').elim
  | @separated depth parts follow state middle after content separator first _ _ _ contentFound
      separatorFound =>
      rw [Outcome.chains, leavesIn_cons]
      by_cases starts' : kind ∈ (parser.grammar.predict.firstOf parts.content).tokens
      · exact (contentFound within.1 current starts' trivial).append _
      · obtain ⟨same, noLeaves, current', settled, later⟩ :=
          first.content_stays predictive within.1 current starts starts'
        rw [settled] at separatorFound
        rw [same, noLeaves]
        exact separatorFound within.2 current' later trivial
  | @ended depth parts follow state middle after content separator first _ unseparated _ _
      contentFound =>
      rw [Outcome.chains, leavesIn_cons]
      by_cases starts' : kind ∈ (parser.grammar.predict.firstOf parts.content).tokens
      · exact (contentFound within.1 current starts' trivial).append _
      · obtain ⟨-, -, current', settled, later⟩ :=
          first.content_stays predictive within.1 current starts starts'
        rw [settled, predictive.predicted] at unseparated
        exact (not_starts_of_not_at? unseparated current' later).elim
  | @closed depth parts follow state after content first _ unseparated _ contentFound =>
      by_cases starts' : kind ∈ (parser.grammar.predict.firstOf parts.content).tokens
      · exact contentFound within.1 current starts' trivial
      · obtain ⟨-, -, current', settled, later⟩ :=
          first.content_stays predictive within.1 current starts starts'
        rw [settled, predictive.predicted] at unseparated
        exact (not_starts_of_not_at? unseparated current' later).elim

end Reparse.Parser
