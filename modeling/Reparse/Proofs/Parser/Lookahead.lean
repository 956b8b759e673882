import Reparse.Proofs.Grammar.Prediction
import Reparse.Proofs.Parser.Motion

/-!
# What the current token tells about a run

The choices of the descent compare the current token with the first sets of its tasks.  Where no
token is visible, no task moves.
-/

namespace Reparse

namespace ParseState

/-- Between the states only the log and the announcement of the token sets may differ. -/
def Unmoved (state after : ParseState) : Prop :=
  after = { state with log := after.log, setsAnnounced := after.setsAnnounced }

theorem Unmoved.refl (state : ParseState) : state.Unmoved state := rfl

theorem Unmoved.trans
    {state middle after : ParseState}
    (first : state.Unmoved middle) (second : middle.Unmoved after) : state.Unmoved after := by
  unfold Unmoved at *
  rw [second, first]

theorem Unmoved.cursor {state after : ParseState} (unmoved : state.Unmoved after) :
    after.cursor = state.cursor := by
  rw [unmoved]

end ParseState

open ParseState

namespace Task

/-- What a task starts with. -/
def first (grammar : Grammar) : Task → FirstSet
  | .chain id _ => grammar.predict.firstOf id
  | .element _ _ own => grammar.startOf own
  | .repetition parts _ => Grammar.repetitionFirst grammar.predict.toPredictionSets parts
  | .lead parts _ => Grammar.leadFirst grammar.predict.toPredictionSets parts
  | .rounds parts _ _ => Grammar.bodyFirst grammar.predict.toPredictionSets parts
  | .round parts _ => Grammar.bodyFirst grammar.predict.toPredictionSets parts

/-- The kind may come after the task, so that it is never skipped there. -/
def Spares (parser : Parser) (kind : TokenKind) : Task → Prop
  | .chain _ follow => kind ∈ follow
  | .element _ follow _ => kind ∈ follow
  | .repetition _ follow => kind ∈ follow
  | .lead parts follow =>
      parts.leading = .prohibited ∨ kind ∈ (parser.planRepetition parts follow).afterSeparator
  | .rounds _ follow _ => kind ∈ follow
  | .round _ follow => kind ∈ follow

/-- The task is about expressions below a bound and about names of the grammar. -/
def Within (grammar : Grammar) (bound : ExprId) : Task → Prop
  | .chain id _ => id < bound
  | .element _ _ own =>
      (∀ part ∈ own.parts, part < bound) ∧
        ∀ name, own = .nonTerminal name → name < grammar.nonTerminals.size
  | .repetition parts _ => parts.content < bound ∧ parts.separator < bound
  | .lead parts _ => parts.content < bound ∧ parts.separator < bound
  | .rounds parts _ _ => parts.content < bound ∧ parts.separator < bound
  | .round parts _ => parts.content < bound ∧ parts.separator < bound

end Task

theorem Grammar.Ordered.within_element
    {grammar : Grammar} {id bound : ExprId} (ordered : grammar.Ordered) (follow : KindSet)
    (below : id ≤ bound) :
    Task.Within grammar bound (.element id follow (grammar.expr id).element) :=
  ⟨fun _ member => Nat.lt_of_lt_of_le (ordered.part_lt member) below, fun _ => ordered.name_lt⟩

namespace Parser

variable {parser : Parser} {state after : ParseState} {kind : TokenKind}

/-- The parser looks ahead by the prediction of its grammar. -/
structure Predictive (parser : Parser) : Prop where
  ordered : parser.grammar.Ordered
  predicted : parser.prediction = parser.grammar.predict

theorem at?_iff {set : KindSet} :
    parser.at? state set = true ↔ ∃ kind, parser.currentKind? state = some kind ∧ kind ∈ set := by
  simp [at?, Option.any_eq_true, Membership.mem]

theorem at?_eq_false_iff {set : KindSet} :
    parser.at? state set = false ↔
      ∀ kind, parser.currentKind? state = some kind → ¬ kind ∈ set := by
  rw [← Bool.not_eq_true, at?_iff]
  simp

theorem currentKind?_of_unmoved (unmoved : state.Unmoved after) :
    parser.currentKind? after = parser.currentKind? state := by
  rw [unmoved]
  rfl

theorem within_of_starts {grammar : Grammar} {id : ExprId}
    (starts : kind ∈ (grammar.predict.firstOf id).tokens) : id < grammar.exprs.size := by
  by_contra outside
  simp [Grammar.firstOf_of_size_le (Nat.le_of_not_lt outside)] at starts

/-! ## Repetitions -/

theorem joins_iff {parts : Repetition} {follow : KindSet} :
    parser.joins state (parser.planRepetition parts follow) = true ↔
      (parser.prediction.firstOf parts.separator).nullable = true ∧
        parser.at? state (parser.prediction.firstOf parts.content).tokens = true := by
  simp [joins, planRepetition]

theorem mem_afterContent {parts : Repetition} {follow : KindSet} :
    kind ∈ (parser.planRepetition parts follow).afterContent ↔
      kind ∈ follow ∨ kind ∈ (parser.prediction.firstOf parts.separator).tokens ∨
        (parser.prediction.firstOf parts.separator).nullable = true ∧
          kind ∈ (parser.prediction.firstOf parts.content).tokens := by
  unfold planRepetition
  dsimp only
  split <;> simp_all [or_assoc]

theorem mem_afterSeparator {parts : Repetition} {follow : KindSet} :
    kind ∈ (parser.planRepetition parts follow).afterSeparator ↔
      kind ∈ follow ∨ kind ∈ (parser.prediction.firstOf parts.content).tokens := by
  simp [planRepetition]

theorem leads_iff {parts : Repetition} {follow : KindSet} :
    parser.leads state (parser.planRepetition parts follow) = true ↔
      parts.leading = .required ∨ parts.leading = .optional ∧
        parser.at? state (parser.prediction.firstOf parts.separator).tokens = true := by
  unfold leads
  cases leading : parts.leading <;> simp [planRepetition, leading]

theorem leading_of_leads {parts : Repetition} {follow : KindSet}
    (leads : parser.leads state (parser.planRepetition parts follow) = true) :
    parts.leading ≠ .prohibited := by
  rcases leads_iff.mp leads with required | ⟨optional, _⟩
  · simp [required]
  · simp [optional]

/-! ## Places where nothing is skipped -/

theorem unmoved_announceSets (parser : Parser) (state : ParseState) :
    state.Unmoved (parser.announceSets state) := by
  unfold announceSets
  split <;> rfl

theorem skipWithin_eq_self (sets : List KindSet) (count : Nat)
    (stops : ∀ kind, parser.currentKind? state = some kind → ∃ set ∈ sets, kind ∈ set) :
    parser.skipWithin sets count state = state := by
  cases count with
  | zero => rfl
  | succ count =>
      unfold skipWithin
      split
      · rfl
      · rename_i kind current
        have held : sets.any (·.contains kind) = true := List.any_eq_true.mpr (stops kind current)
        rw [if_pos held]

theorem unmoved_arrive {id : ExprId} {follow : KindSet}
    (stops : parser.leniency.skipsUnknown = true → ∀ kind,
      parser.currentKind? state = some kind →
        kind ∈ follow ∨ kind ∈ (parser.prediction.firstOf id).tokens) :
    state.Unmoved (parser.arrive id follow state) := by
  have announced :
      state.Unmoved
        (if parser.usesSets (parser.grammar.expr id) then parser.announceSets state
          else state) := by
    split
    · exact parser.unmoved_announceSets state
    · exact .refl state
  unfold arrive
  dsimp only
  split
  · rename_i skipsUnknown
    rw [skipUpTo, skipWithin_eq_self]
    · exact announced
    · intro kind current
      rw [currentKind?_of_unmoved announced] at current
      have := stops skipsUnknown kind current
      simp only [List.mem_cons, List.not_mem_nil, or_false, exists_eq_or_imp, exists_eq_left]
      exact this.imp_right .inr
  · exact announced

theorem settle_eq_self {parts : Repetition} {follow : KindSet}
    (stops : parser.leniency.skipsUnknown = true → ∀ kind,
      parser.currentKind? state = some kind →
        kind ∈ (parser.planRepetition parts follow).afterContent) :
    parser.settle (parser.planRepetition parts follow) state = state := by
  unfold settle
  split
  · rename_i skipsUnknown
    exact skipWithin_eq_self _ _ fun kind current =>
      ⟨_, List.mem_cons_self, stops skipsUnknown kind current⟩
  · rfl

theorem settle_of_end {plan : RepetitionPlan} (ended : parser.currentKind? state = none) :
    parser.settle plan state = state := by
  unfold settle
  split
  · exact skipWithin_eq_self _ _ (by simp [ended])
  · rfl

/-! ## Alternations and missing elements -/

/-- The branch of an alternation starts with the current token, or else no branch does and this one
can match nothing. -/
theorem chooseBranch_eq_some {branches : List ExprId} {branch : ExprId}
    (chosen : parser.chooseBranch state branches = some branch) :
    branch ∈ branches ∧
      (parser.at? state (parser.prediction.firstOf branch).tokens = true ∨
        (parser.prediction.firstOf branch).nullable = true ∧
          ∀ other ∈ branches,
            parser.at? state (parser.prediction.firstOf other).tokens = false) := by
  unfold chooseBranch at chosen
  cases current : parser.currentKind? state with
  | none =>
      simp only [current, Option.bind_eq_bind, Option.bind_none] at chosen
      refine ⟨List.mem_of_find?_eq_some chosen, .inr ⟨?_, ?_⟩⟩
      · simpa using List.find?_some chosen
      · simp [at?, current]
  | some kind =>
      simp only [current, Option.bind_eq_bind, Option.bind_some] at chosen
      split at chosen
      · rename_i starting found
        obtain rfl := Option.some.inj chosen
        refine ⟨List.mem_of_find?_eq_some found, .inl ?_⟩
        have held := List.find?_some found
        simpa [at?, current] using held
      · rename_i unfound
        refine ⟨List.mem_of_find?_eq_some chosen, .inr ⟨?_, ?_⟩⟩
        · simpa using List.find?_some chosen
        · intro other member
          have := List.find?_eq_none.mp unfound other member
          simpa [at?, current] using this

theorem chooseBranch_eq_none {branches : List ExprId}
    (unchosen : parser.chooseBranch state branches = none) :
    ∀ branch ∈ branches, (parser.prediction.firstOf branch).nullable = false ∧
      parser.at? state (parser.prediction.firstOf branch).tokens = false := by
  intro branch member
  unfold chooseBranch at unchosen
  cases current : parser.currentKind? state with
  | none =>
      simp only [current, Option.bind_eq_bind, Option.bind_none] at unchosen
      have full := List.find?_eq_none.mp unchosen branch member
      simpa [at?, current] using full
  | some kind =>
      simp only [current, Option.bind_eq_bind, Option.bind_some] at unchosen
      split at unchosen
      · simp at unchosen
      · rename_i unfound
        have full := List.find?_eq_none.mp unchosen branch member
        have other := List.find?_eq_none.mp unfound branch member
        simpa [at?, current] using And.intro full other

theorem Lacks.full
    (predictive : parser.Predictive) {element : Element} (lacks : parser.Lacks state element) :
    (parser.grammar.startOf element).nullable = false ∧
      ∀ kind, parser.currentKind? state = some kind →
        ¬ kind ∈ (parser.grammar.startOf element).tokens := by
  cases element with
  | token own =>
      refine ⟨rfl, fun kind current starts => lacks ?_⟩
      rw [Grammar.startOf, Grammar.elementFirst_token, FirstSet.mem_ofKind] at starts
      rw [current, starts]
  | nonTerminal name =>
      obtain ⟨other, full⟩ := lacks
      rw [predictive.predicted] at other full
      exact ⟨full, at?_eq_false_iff.mp other⟩
  | alternation branches =>
      have unmatched := chooseBranch_eq_none lacks
      rw [predictive.predicted] at unmatched
      refine ⟨?_, fun kind current starts => ?_⟩
      · rw [← Bool.not_eq_true, Grammar.startOf, Grammar.nullable_elementFirst_alternation]
        rintro ⟨branch, member, nullable⟩
        have full := (unmatched branch member).1
        exact Bool.false_ne_true (full.symm.trans nullable)
      · rw [Grammar.startOf, Grammar.mem_elementFirst_alternation] at starts
        obtain ⟨branch, member, starts⟩ := starts
        exact at?_eq_false_iff.mp (unmatched branch member).2 kind current starts
  | empty | optional | repetition => exact lacks.elim

/-! ## At the end of the input -/

theorem unmoved_noteMissing (parser : Parser) (id : ExprId) (state : ParseState) :
    state.Unmoved (parser.noteMissing id state) := rfl

/-- At the end of the input, and where it is hidden, a run does not move. -/
theorem Runs.unmoved_of_end {depth : Nat} {task : Task} {outcome : Outcome}
    (run : parser.Runs depth task state outcome after)
    (ended : parser.currentKind? state = none) : state.Unmoved after := by
  have nowhere : ∀ {state : ParseState} {set : KindSet}, parser.currentKind? state = none →
      parser.at? state set ≠ true := by
    simp +contextual [at?]
  have arrives : ∀ {id : ExprId} {follow : KindSet} {state : ParseState},
      parser.currentKind? state = none → state.Unmoved (parser.arrive id follow state) :=
    fun ended => unmoved_arrive (by simp [ended])
  have stays : ∀ {state after : ParseState}, state.Unmoved after →
      parser.currentKind? state = none → parser.currentKind? after = none :=
    fun unmoved ended => (currentKind?_of_unmoved unmoved).trans ended
  induction run with
  | exhausted | unled | noRoundsLeft | absent | empty | optionalAbsent => exact .refl _
  | missing | aborted => exact parser.unmoved_noteMissing _ _
  | token current => simp [ended] at current
  | entered starts | enteredStopped starts | optional starts | optionalStopped starts =>
      exact (nowhere ended starts).elim
  | last _ _ element | stoppedFirst _ element =>
      exact (arrives ended).trans (element (stays (arrives ended) ended))
  | cons _ _ _ element rest | stoppedNext _ _ _ element rest =>
      have moved := (arrives ended).trans (element (stays (arrives ended) ended))
      exact moved.trans (rest (stays moved ended))
  | alternation _ _ part | alternationStopped _ _ part => exact part ended
  | repetition _ part | repetitionStopped _ part => exact part ended
  | led _ _ part | ledStopped _ _ part => exact part ended
  | leadOnly _ _ part | leadStopped _ part => exact part ended
  | lastRound _ part | roundStopped _ part => exact part ended
  | filled _ visible _ lead | filledStopped _ visible _ lead =>
      exact (visible (stays (lead ended) ended)).elim
  | stuckRound _ _ round => exact (round ended).trans rfl
  | moreRounds _ moved _ round | moreStopped _ moved _ round =>
      exact (moved (round ended).cursor).elim
  | contentStopped _ content => exact content ended
  | joined _ _ content | closed _ _ _ _ content =>
      have unmoved := content ended
      rwa [settle_of_end (stays unmoved ended)]
  | separated _ _ separates _ content =>
      have still := stays (content ended) ended
      rw [settle_of_end still] at separates
      exact (nowhere still separates).elim
  | ended _ _ _ _ _ content separator | separatorStopped _ _ _ _ content separator =>
      have unmoved := content ended
      have still := stays unmoved ended
      rw [settle_of_end still] at separator
      exact unmoved.trans (separator still)

end Parser

end Reparse
