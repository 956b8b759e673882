import Reparse.Proofs.Parser.Lookahead

/-!
# Tasks that go by

A task that can match nothing, that the current token does not start and that has no reason to skip
the token goes by without a trace.
-/

namespace Reparse

open ParseState

namespace Parser

variable {parser : Parser} {state after : ParseState}

/-- Nothing at the place is for the task: it can match nothing, and the current token neither starts
it nor is skipped by it. -/
structure Passes (parser : Parser) (state : ParseState) (task : Task) : Prop where
  nullable : (task.first parser.grammar).nullable = true
  other : ∀ kind, parser.currentKind? state = some kind →
    ¬ kind ∈ (task.first parser.grammar).tokens
  spared : parser.leniency.skipsUnknown = true →
    ∀ kind, parser.currentKind? state = some kind → task.Spares parser kind

/-- The task came to its end without a trace. -/
structure NoTrace (state : ParseState) (outcome : Outcome) (after : ParseState) : Prop where
  succeeds : outcome.Succeeds
  unmoved : state.Unmoved after
  leaves : Tree.leavesIn outcome.chains = []
  /-- No further round follows. -/
  closed : ∀ items, outcome ≠ .round items true

namespace Passes

variable {id next : ExprId} {follow : KindSet} {parts : Repetition} {middle : ParseState}

theorem of_unmoved {task : Task} (passes : parser.Passes state task)
    (unmoved : state.Unmoved after) : parser.Passes after task where
  nullable := passes.nullable
  other := by simpa only [currentKind?_of_unmoved unmoved] using passes.other
  spared := by simpa only [currentKind?_of_unmoved unmoved] using passes.spared

theorem arrives (passes : parser.Passes state (.chain id follow)) :
    state.Unmoved (parser.arrive id follow state) :=
  unmoved_arrive fun skipsUnknown kind current => .inl (passes.spared skipsUnknown kind current)

theorem mem_followOfElement (kind : TokenKind) (held : kind ∈ follow) :
    kind ∈ parser.followOfElement id follow := by
  unfold followOfElement
  split
  · exact held
  · exact KindSet.mem_union.mpr (.inl held)

theorem firstElement
    (inside : id < parser.grammar.exprs.size) (passes : parser.Passes state (.chain id follow)) :
    parser.Passes state
      (.element id (parser.followOfElement id follow) (parser.grammar.expr id).element) where
  nullable := Grammar.nullable_startOf_of_nullable_firstOf inside passes.nullable
  other kind current starts :=
    passes.other kind current (Grammar.mem_firstOf_of_mem_startOf inside starts)
  spared skipsUnknown kind current :=
    mem_followOfElement kind (passes.spared skipsUnknown kind current)

theorem rest
    (inside : id < parser.grammar.exprs.size)
    (following : (parser.grammar.expr id).next = some next)
    (passes : parser.Passes state (.chain id follow)) :
    parser.Passes state (.chain next follow) := by
  have nullable := passes.nullable
  have other := passes.other
  simp only [Task.first, Grammar.firstOf_of_next inside following, FirstSet.nullable_andThen,
    Bool.and_eq_true, FirstSet.mem_andThen] at nullable other
  refine ⟨nullable.2, fun kind current starts => ?_, passes.spared⟩
  exact other kind current (.inr ⟨nullable.1, starts⟩)

theorem lead (passes : parser.Passes state (.repetition parts follow)) :
    parser.Passes state (.lead parts follow) := by
  have nullable := passes.nullable
  have other := passes.other
  simp only [Task.first, Grammar.repetitionFirst_eq, FirstSet.nullable_andThen,
    Bool.and_eq_true, FirstSet.mem_andThen] at nullable other
  refine ⟨nullable.1, fun kind current starts => other kind current (.inl starts), ?_⟩
  intro skipsUnknown kind current
  exact .inr (mem_afterSeparator.mpr (.inl (passes.spared skipsUnknown kind current)))

theorem rounds (count : Nat) (passes : parser.Passes state (.repetition parts follow)) :
    parser.Passes state (.rounds parts follow count) := by
  have nullable := passes.nullable
  have other := passes.other
  simp only [Task.first, Grammar.repetitionFirst_eq, FirstSet.nullable_andThen,
    Bool.and_eq_true, FirstSet.mem_andThen] at nullable other
  refine ⟨nullable.2, fun kind current starts => ?_, passes.spared⟩
  exact other kind current (.inr ⟨nullable.1, starts⟩)

theorem leadingSeparator
    (predictive : parser.Predictive) (passes : parser.Passes state (.lead parts follow))
    (leads : parser.leads state (parser.planRepetition parts follow) = true) :
    parser.Passes state
      (.chain parts.separator (parser.planRepetition parts follow).afterSeparator) := by
  have other := passes.other
  simp only [Task.first, Grammar.mem_leadFirst, not_and] at other
  rw [leads_iff, predictive.predicted, at?_iff] at leads
  rcases leads with required | ⟨optional, kind, current, starts⟩
  · refine ⟨Grammar.nullable_leadFirst.mp passes.nullable required, ?_, ?_⟩
    · exact fun kind current => other kind current (by simp [required])
    · intro skipsUnknown kind current
      exact (passes.spared skipsUnknown kind current).resolve_left (by simp [required])
  · exact (other kind current (by simp [optional]) starts).elim

theorem round {count : Nat} (passes : parser.Passes state (.rounds parts follow count)) :
    parser.Passes state (.round parts follow) :=
  ⟨passes.nullable, passes.other, passes.spared⟩

theorem content
    (passes : parser.Passes state (.round parts follow)) :
    parser.Passes state
      (.chain parts.content (parser.planRepetition parts follow).afterContent) := by
  have nullable := passes.nullable
  have other := passes.other
  simp only [Task.first, Grammar.bodyFirst, FirstSet.nullable_andThen, Bool.and_eq_true,
    FirstSet.mem_andThen] at nullable other
  refine ⟨nullable.1, fun kind current starts => other kind current (.inl starts), ?_⟩
  intro skipsUnknown kind current
  exact mem_afterContent.mpr (.inl (passes.spared skipsUnknown kind current))

theorem separator
    (passes : parser.Passes state (.round parts follow)) :
    parser.Passes state
      (.chain parts.separator (parser.planRepetition parts follow).afterSeparator) := by
  have nullable := passes.nullable
  have other := passes.other
  simp only [Task.first, Grammar.bodyFirst, FirstSet.nullable_andThen, Bool.and_eq_true,
    FirstSet.mem_andThen] at nullable other
  refine ⟨nullable.2, fun kind current starts => ?_, ?_⟩
  · exact other kind current (.inr ⟨nullable.1, starts⟩)
  · intro skipsUnknown kind current
    exact mem_afterSeparator.mpr (.inl (passes.spared skipsUnknown kind current))

/-- After the content of a passing round nothing is skipped, and there is neither another content
nor a separator. -/
theorem settle
    (passes : parser.Passes state (.round parts follow)) :
    parser.settle (parser.planRepetition parts follow) state = state :=
  settle_eq_self fun skipsUnknown kind current =>
    mem_afterContent.mpr (.inl (passes.spared skipsUnknown kind current))

theorem not_at_content
    (predictive : parser.Predictive) (passes : parser.Passes state (.round parts follow)) :
    parser.at? state (parser.prediction.firstOf parts.content).tokens = false := by
  rw [at?_eq_false_iff, predictive.predicted]
  exact fun kind current starts =>
    passes.content.other kind current starts

theorem not_at_separator
    (predictive : parser.Predictive) (passes : parser.Passes state (.round parts follow)) :
    parser.at? state (parser.prediction.firstOf parts.separator).tokens = false := by
  rw [at?_eq_false_iff, predictive.predicted]
  exact fun kind current starts =>
    passes.separator.other kind current starts

end Passes

theorem Passes.branch {id branch : ExprId} {follow : KindSet} {branches : List ExprId}
    (predictive : parser.Predictive)
    (passes : parser.Passes state (.element id follow (.alternation branches)))
    (chosen : parser.chooseBranch state branches = some branch) :
    parser.Passes state (.chain branch follow) := by
  obtain ⟨member, matched⟩ := chooseBranch_eq_some chosen
  have other : ∀ kind, parser.currentKind? state = some kind →
      ¬ kind ∈ (parser.grammar.predict.firstOf branch).tokens := by
    intro kind current starts
    apply passes.other kind current
    rw [Task.first, Grammar.startOf, Grammar.mem_elementFirst_alternation]
    exact ⟨branch, member, starts⟩
  rw [predictive.predicted] at matched
  rcases matched with starts | ⟨nullable, _⟩
  · obtain ⟨kind, current, starts⟩ := at?_iff.mp starts
    exact (other kind current starts).elim
  · exact ⟨nullable, other, passes.spared⟩

open Reparse.Tree in
/-- A task that passes goes by without a trace. -/
theorem Runs.quiet {depth : Nat} {task : Task} {outcome : Outcome}
    (run : parser.Runs depth task state outcome after) (predictive : parser.Predictive)
    (within : task.Within parser.grammar parser.grammar.exprs.size)
    (passes : parser.Passes state task) (finite : outcome ≠ .stopped .endless) :
    NoTrace state outcome after := by
  have ordered := predictive.ordered
  induction run with
  | exhausted | noRoundsLeft => exact (finite rfl).elim
  | last _ _ element =>
      have still := passes.arrives
      have quiet := element (ordered.within_element _ within.le)
        ((passes.firstElement within).of_unmoved still) (by simp)
      exact ⟨trivial, still.trans quiet.unmoved, quiet.leaves, by simp⟩
  | cons following _ _ element rest =>
      have still := passes.arrives
      have quiet := element (ordered.within_element _ within.le)
        ((passes.firstElement within).of_unmoved still) (by simp)
      have unmoved := still.trans quiet.unmoved
      have quietRest := rest ((ordered.next_lt following).trans within)
        ((passes.rest within following).of_unmoved unmoved) (by simp)
      refine ⟨trivial, unmoved.trans quietRest.unmoved, ?_, by simp⟩
      rw [Outcome.chains, leavesIn_chain_cons]
      exact List.append_eq_nil_iff.mpr ⟨quiet.leaves, quietRest.leaves⟩
  | stoppedFirst _ element =>
      have quiet := element (ordered.within_element _ within.le)
        ((passes.firstElement within).of_unmoved passes.arrives) finite
      exact quiet.succeeds.elim
  | stoppedNext following _ _ element rest =>
      have still := passes.arrives
      have quiet := element (ordered.within_element _ within.le)
        ((passes.firstElement within).of_unmoved still) (by simp)
      have quietRest := rest ((ordered.next_lt following).trans within)
        ((passes.rest within following).of_unmoved (still.trans quiet.unmoved)) finite
      exact quietRest.succeeds.elim
  | token current =>
      have nullable := passes.nullable
      simp [Task.first, Grammar.startOf] at nullable
  | missing _ lacks | aborted _ lacks =>
      have nullable := passes.nullable
      rw [Task.first, (lacks.full predictive).1] at nullable
      simp at nullable
  | entered starts | enteredStopped starts =>
      rw [predictive.predicted, at?_iff] at starts
      obtain ⟨kind, current, starts⟩ := starts
      exact (passes.other kind current starts).elim
  | optional starts | optionalStopped starts =>
      rw [predictive.predicted, at?_iff] at starts
      obtain ⟨kind, current, starts⟩ := starts
      exact (passes.other kind current starts).elim
  | absent | empty | optionalAbsent | unled =>
      exact ⟨trivial, .refl _, by simp [Outcome.chains], by simp⟩
  | alternation chosen _ child =>
      have quiet := child (within.1 _ (chooseBranch_eq_some chosen).1)
        (passes.branch predictive chosen) (by simp)
      exact ⟨trivial, quiet.unmoved, by simpa [Outcome.chains] using quiet.leaves, by simp⟩
  | alternationStopped chosen _ child =>
      have quiet := child (within.1 _ (chooseBranch_eq_some chosen).1)
        (passes.branch predictive chosen) finite
      exact quiet.succeeds.elim
  | repetition _ items =>
      have quiet := items
        ⟨within.1 _ (by simp [Element.parts]), within.1 _ (by simp [Element.parts])⟩
        ⟨passes.nullable, passes.other, passes.spared⟩ (by simp)
      exact ⟨trivial, quiet.unmoved, by simpa [Outcome.chains] using quiet.leaves, by simp⟩
  | repetitionStopped _ items =>
      have quiet := items
        ⟨within.1 _ (by simp [Element.parts]), within.1 _ (by simp [Element.parts])⟩
        ⟨passes.nullable, passes.other, passes.spared⟩ finite
      exact quiet.succeeds.elim
  | led leads _ separator =>
      have quiet := separator within.2 (passes.leadingSeparator predictive leads) (by simp)
      exact ⟨trivial, quiet.unmoved, quiet.leaves, by simp⟩
  | ledStopped leads _ separator =>
      have quiet := separator within.2 (passes.leadingSeparator predictive leads) finite
      exact quiet.succeeds.elim
  | leadOnly _ _ lead => exact lead within passes.lead (by simp)
  | leadStopped _ lead => exact lead within passes.lead finite
  | filled _ _ _ lead rest =>
      have quiet := lead within passes.lead (by simp)
      have quietRest := rest within ((passes.rounds _).of_unmoved quiet.unmoved) (by simp)
      refine ⟨trivial, quiet.unmoved.trans quietRest.unmoved, ?_, by simp⟩
      rw [Outcome.chains, leavesIn_append]
      exact List.append_eq_nil_iff.mpr ⟨quiet.leaves, quietRest.leaves⟩
  | filledStopped _ _ _ lead rest =>
      have quiet := lead within passes.lead (by simp)
      exact (rest within ((passes.rounds _).of_unmoved quiet.unmoved) finite).succeeds.elim
  | lastRound _ round =>
      have quiet := round within passes.round (by simp)
      exact ⟨trivial, quiet.unmoved, quiet.leaves, by simp⟩
  | stuckRound _ _ round | moreRounds _ _ _ round | moreStopped _ _ _ round =>
      exact ((round within passes.round (by simp)).closed _ rfl).elim
  | roundStopped _ round => exact round within passes.round finite
  | contentStopped _ content =>
      exact (content within.1 passes.content finite).succeeds.elim
  | joined _ joins content =>
      have passed := passes.of_unmoved (content within.1 passes.content (by simp)).unmoved
      rw [joins_iff, passed.settle, passed.not_at_content predictive] at joins
      simp at joins
  | separated _ _ separates _ content =>
      have passed := passes.of_unmoved (content within.1 passes.content (by simp)).unmoved
      rw [passed.settle, passed.not_at_separator predictive] at separates
      simp at separates
  | ended _ _ _ _ _ content separator =>
      have quiet := content within.1 passes.content (by simp)
      have passed := passes.of_unmoved quiet.unmoved
      rw [passed.settle] at separator
      have quietSeparator := separator within.2 passed.separator (by simp)
      refine ⟨trivial, quiet.unmoved.trans quietSeparator.unmoved, ?_, by simp⟩
      rw [Outcome.chains, leavesIn_cons]
      exact List.append_eq_nil_iff.mpr ⟨quiet.leaves, quietSeparator.leaves⟩
  | separatorStopped _ _ _ _ content separator =>
      have passed := passes.of_unmoved (content within.1 passes.content (by simp)).unmoved
      rw [passed.settle] at separator
      exact (separator within.2 passed.separator finite).succeeds.elim
  | closed _ _ _ _ content =>
      have quiet := content within.1 passes.content (by simp)
      rw [(passes.of_unmoved quiet.unmoved).settle]
      exact ⟨trivial, quiet.unmoved, quiet.leaves, by simp⟩

end Parser

end Reparse
