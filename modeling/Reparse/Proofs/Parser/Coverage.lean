import Reparse.Proofs.Parser.Termination

/-!
# A parse loses no token

Every token of a document is either consumed in the tree of its parse or skipped, and none is both
or twice.
-/

namespace Reparse.Parser

variable {parser : Parser} {state after : ParseState}

open Reparse.Tree

theorem spans_skipRest (skipsUnknown : parser.leniency.skipsUnknown = true) (count : Nat)
    (state : ParseState) (enough : parser.document.size - state.cursor ≤ count)
    (inside : state.cursor ≤ parser.document.size) :
    ∃ skipped, parser.Spans state [] skipped (parser.skipRest count state) ∧
      (parser.skipRest count state).cursor = parser.document.size := by
  induction count generalizing state with
  | zero =>
      refine ⟨[], ⟨by simp [skipRest], .refl _, id, fun _ => rfl⟩, ?_⟩
      change state.cursor = _
      lia
  | succ count induction =>
      unfold skipRest currentId?
      by_cases more : state.cursor < parser.document.size
      · simp only [more, if_true]
        obtain ⟨skipped, spans, ended⟩ := induction
          { state.note (.skippingTrailing (parser.shown state.cursor)) with
            cursor := state.cursor + 1
            skipped := state.skipped ++ [state.cursor] }
          (by simp only; lia) more
        refine ⟨state.cursor :: skipped, ⟨?_, ?_, fun _ => ended.le, by simp [skipsUnknown]⟩, ended⟩
        · rw [spans.skipped_eq, List.append_assoc, List.singleton_append]
        · exact (Covers.skips state.cursor).append spans.covers
      · simp only [more, if_false]
        exact ⟨[], ⟨by simp, .refl _, id, fun _ => rfl⟩, by lia⟩

theorem spans_sweep (state : ParseState) (inside : state.cursor ≤ parser.document.size) :
    ∃ skipped, parser.Spans state [] skipped (parser.sweep state) ∧
      (parser.leniency.skipsUnknown = true →
        (parser.sweep state).cursor = parser.document.size) := by
  unfold sweep
  split
  · rename_i skipsUnknown
    obtain ⟨skipped, spans, ended⟩ :=
      spans_skipRest skipsUnknown _ state (Nat.le_refl _) inside
    exact ⟨skipped, spans, fun _ => ended⟩
  · rename_i strict
    exact ⟨[], ⟨by simp, .refl _, id, fun _ => rfl⟩, fun skipsUnknown => (strict skipsUnknown).elim⟩

theorem currentId?_of_samePlace (same : state.SamePlace after) :
    parser.currentId? after = parser.currentId? state := by
  rw [currentId?, currentId?, same.cursor]

/-- A parse is aborted at the place that it has come to, and only without error tolerance. -/
theorem Runs.aborted_at {depth : Nat} {task : Task} {outcome : Outcome} {expr : ExprId}
    {found : Option TokenId} (run : parser.Runs depth task state outcome after)
    (stopped : outcome = .stopped (.aborted expr found)) :
    parser.leniency.toleratesErrors = false ∧ found = parser.currentId? after := by
  induction run with
  | @aborted _ _ _ place _ strict =>
      simp only [Outcome.stopped.injEq, Stop.aborted.injEq] at stopped
      exact ⟨strict, stopped.2.symm⟩
  | enteredStopped _ _ inner =>
      simp only [Outcome.stopped.injEq] at stopped
      rw [currentId?_of_samePlace (parser.samePlace_closeFrame ..)]
      exact inner (congrArg Outcome.stopped stopped)
  | stoppedFirst _ inner | stoppedNext _ _ _ _ inner
  | optionalStopped _ _ inner | alternationStopped _ _ inner | repetitionStopped _ inner
  | ledStopped _ _ inner | leadStopped _ inner | filledStopped _ _ _ _ inner
  | roundStopped _ inner | moreStopped _ _ _ _ inner | contentStopped _ inner
  | separatorStopped _ _ _ _ _ inner =>
      simp only [Outcome.stopped.injEq] at stopped
      exact inner (congrArg Outcome.stopped stopped)
  | _ => simp at stopped

theorem Runs.not_tolerant {depth : Nat} {task : Task} {outcome : Outcome} {expr : ExprId}
    {found : Option TokenId} (run : parser.Runs depth task state outcome after)
    (stopped : outcome = .stopped (.aborted expr found)) :
    parser.leniency.toleratesErrors = false :=
  (run.aborted_at stopped).1

/-- The tokens of a document are divided between those consumed in a parse and those skipped. -/
structure TokensDivided (size : Nat) (leniency : Leniency) (parse : Parse) : Prop where
  consumedAscends : (parse.nodes.filterMap consumed?).Pairwise (· < ·)
  skippedAscends : parse.skipped.Pairwise (· < ·)
  disjoint : ∀ id ∈ parse.nodes.filterMap consumed?, ¬ id ∈ parse.skipped
  /-- Together they are all tokens if unknown ones are skipped. -/
  complete : leniency.skipsUnknown = true →
    ∀ id, id ∈ parse.nodes.filterMap consumed? ∨ id ∈ parse.skipped ↔ id < size
  /-- If unknown tokens are not skipped then none is, and a first part is consumed. -/
  prefixed : leniency.skipsUnknown = false →
    parse.skipped = [] ∧
      ∃ count, count ≤ size ∧ parse.nodes.filterMap consumed? = List.range count

theorem tokensDivided_of_runs {start : NonTerminalId} {setsAnnounced : Bool} {child : List Tree}
    (run : parser.Runs parser.depthLimit (.chain (parser.grammar.ruleOf start) .empty)
      (parser.startState start setsAnnounced) (.chain child) after) :
    TokensDivided parser.document.size parser.leniency
      (parser.finish (.nonTerminal (parser.grammar.ruleOf start) start child)
        (parser.sweep (parser.closeFrame start false after))).parse := by
  obtain ⟨skipped, spans⟩ := run.spans trivial
  have inside := spans.inside ((startState_cursor ..).trans_le (Nat.zero_le _))
  have closed := parser.samePlace_closeFrame start false after
  obtain ⟨swept, sweeps, complete⟩ :=
    spans_sweep (parser.closeFrame start false after) (closed.cursor.trans_le inside)
  have started : (parser.startState start setsAnnounced).skipped = [] :=
    (parser.samePlace_observe (.initial setsAnnounced)).skipped
  have covers := spans.covers
  rw [startState_cursor, ← closed.cursor] at covers
  have whole := covers.append sweeps.covers
  have skipped_eq : (parser.sweep (parser.closeFrame start false after)).skipped =
      skipped ++ swept := by
    rw [sweeps.skipped_eq, closed.skipped, spans.skipped_eq, started, List.nil_append]
  have consumed_eq :
      (Tree.nonTerminal (parser.grammar.ruleOf start) start child).walk.filterMap consumed? =
        consumedIn [child] := by
    rw [filterMap_consumed?_walk, consumedIn, leavesIn_nonTerminal, consumedIn]
  rw [Outcome.chains, ← consumed_eq, List.append_nil, ← skipped_eq] at whole
  refine ⟨whole.takenAscends, whole.skippedAscends, whole.disjoint, ?_, ?_⟩
  · intro skipsUnknown id
    rw [← complete skipsUnknown]
    exact (whole.mem_iff id).trans (and_iff_right (Nat.zero_le id))
  · intro strict
    have none_skipped : (parser.sweep (parser.closeFrame start false after)).skipped = [] := by
      rw [skipped_eq, spans.strict strict, sweeps.strict strict, List.append_nil]
    rw [none_skipped] at whole
    refine ⟨none_skipped, _, sweeps.inside (closed.cursor.trans_le inside), ?_⟩
    rw [List.range_eq_range']
    exact whole.taken_eq

theorem Finishes.parsed_of_tolerant {start : NonTerminalId} {setsAnnounced : Bool}
    {run : Parser.Run} (finishes : parser.Finishes start setsAnnounced run)
    (tolerant : parser.leniency.toleratesErrors = true) :
    ∃ child after,
      parser.Runs parser.depthLimit (.chain (parser.grammar.ruleOf start) .empty)
        (parser.startState start setsAnnounced) (.chain child) after ∧
      run.parse.tree = .nonTerminal (parser.grammar.ruleOf start) start child ∧
      run.parse.document = parser.document ∧
      TokensDivided run.parse.document.size parser.leniency run.parse := by
  cases finishes with
  | parsed childRun => exact ⟨_, _, childRun, rfl, rfl, tokensDivided_of_runs childRun⟩
  | aborted childRun =>
      exact (Bool.false_ne_true ((childRun.not_tolerant rfl).symm.trans tolerant)).elim

/-- Every document has a parse, and one that is not aborted divides the tokens. -/
theorem run?_covers (grammar : Grammar) (document : Document) (leniency : Leniency)
    (start : NonTerminalId) (setsAnnounced : Bool)
    (built : grammar.Built) (terminating : ¬ grammar.LeftRecursive) :
    ∃ run, Parser.run? ⟨grammar, grammar.predict, document, leniency⟩ start setsAnnounced =
        some run ∧
      (leniency.toleratesErrors = true → run.parse.tree.isMissing = false) ∧
      (run.parse.tree.isMissing = false →
        TokensDivided document.size leniency run.parse) := by
  have predictive : Predictive ⟨grammar, grammar.predict, document, leniency⟩ :=
    ⟨built.ordered, rfl⟩
  obtain ⟨run, done, finishes⟩ := run?_finishes predictive terminating start setsAnnounced
  refine ⟨run, done, ?_⟩
  cases finishes with
  | parsed run => exact ⟨fun _ => rfl, fun _ => tokensDivided_of_runs run⟩
  | aborted run =>
      have strict := run.not_tolerant rfl
      refine ⟨fun tolerant => ?_, by simp [finish, isMissing]⟩
      exact (Bool.false_ne_true (strict.symm.trans tolerant)).elim

/-- Two empty lists in a list. -/
def bracketDocument : Document :=
  let kinds := [0, 0, 1, 2, 0, 1, 1]
  { scanner := default
    current :=
      { source := "[[],[]]".toList
        tokens := (kinds.zipIdx.map fun (kind, place) => ⟨kind, ⟨place, place + 1⟩⟩).toArray
        obstacle := none }
    history := none }

theorem run?_covers_bracketDocument :
    ∃ run, Parser.run?
        ⟨Grammar.bracketLists, Grammar.bracketLists.predict, bracketDocument, .standard⟩ 0 false =
        some run ∧
      (Leniency.standard.toleratesErrors = true → run.parse.tree.isMissing = false) ∧
      (run.parse.tree.isMissing = false →
        TokensDivided bracketDocument.size .standard run.parse) :=
  run?_covers _ bracketDocument .standard 0 false Grammar.built_bracketLists
    Grammar.not_leftRecursive_bracketLists

end Reparse.Parser
