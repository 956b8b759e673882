import Reparse.Proofs.Parser.Acceptance

/-!
# Accepted repetitions

A round of a repetition takes a content and what follows it, and tells from the next token whether
another round has to come.
-/

namespace Reparse

open Reparse.Tree

namespace Parser

variable {parser : Parser} {state after : ParseState} {kind : TokenKind}
  {word rest : List TokenKind} {start : NonTerminalId} {place : Place}

/-- Every run of a round takes the rest of the input up to a place, and goes on as told. -/
def RoundTakes (parser : Parser) (parts : Repetition) (state : ParseState) (more : Bool)
    (rest : List TokenKind) : Prop :=
  ∀ {depth : Nat} {follow : KindSet} {outcome : Outcome} {after : ParseState},
    parser.Runs depth (.round parts follow) state outcome after →
    outcome ≠ .stopped .endless →
    (∃ items, outcome = .round items more) ∧ parser.Takes outcome after rest

variable {id : ExprId} {parts : Repetition} {first : List TokenKind}

theorem joins_iff_of_ready
    (plain : parser.Plain) (ready : parser.Ready state word) {follow : KindSet} :
    parser.joins (parser.settle (parser.planRepetition parts follow) state)
        (parser.planRepetition parts follow) = true ↔
      (parser.grammar.predict.firstOf parts.separator).nullable = true ∧
        ∃ kind ∈ word.head?, kind ∈ (parser.grammar.predict.firstOf parts.content).tokens := by
  rw [plain.settle, joins_iff, plain.predictive.predicted, ready.at?_iff]

theorem separates_iff_of_ready
    (plain : parser.Plain) (ready : parser.Ready state word) {follow : KindSet} :
    parser.at? (parser.settle (parser.planRepetition parts follow) state)
        (parser.prediction.firstOf parts.separator).tokens = true ↔
      ∃ kind ∈ word.head?, kind ∈ (parser.grammar.predict.firstOf parts.separator).tokens := by
  rw [plain.settle, plain.predictive.predicted, ready.at?_iff]

theorem roundTakes_joined
    (plain : parser.Plain) (ready : parser.Ready state (first ++ kind :: rest))
    (nullable : (parser.grammar.predict.firstOf parts.separator).nullable = true)
    (starts : kind ∈ (parser.grammar.predict.firstOf parts.content).tokens)
    (follows : MayFollow parser.grammar start place.content (.chain parts.content) (kind :: rest))
    (content : parser.Accepts start place.content (.chain parts.content) first) :
    RoundTakes parser parts state true (kind :: rest) := by
  intro depth follow outcome after run finite
  cases run with
  | contentStopped run => exact (content .chain run finite ready follows).succeeds.elim
  | joined run =>
      have takes := content .chain run (by simp) ready follows
      refine ⟨⟨_, rfl⟩, trivial, by simpa [plain.settle] using takes.ready, ?_⟩
      rw [Outcome.chains, leavesIn_cons]
      simpa [Outcome.chains] using takes.complete
  | separated run apart | ended run apart | separatorStopped run apart | closed run apart =>
      have takes := content .chain run (by simp) ready follows
      refine (Bool.false_ne_true (apart.symm.trans ?_)).elim
      exact (joins_iff_of_ready plain takes.ready).mpr ⟨nullable, kind, rfl, starts⟩

theorem continues_iff_of_ready
    (plain : parser.Plain) (ready : parser.Ready state word) {follow : KindSet} :
    parser.continues state (parser.planRepetition parts follow) = true ↔
      (∃ kind ∈ word.head?, kind ∈ (parser.grammar.predict.firstOf parts.content).tokens) ∨
        parts.trailing = .prohibited := by
  rw [← ready.at?_iff, ← plain.predictive.predicted, continues, Bool.or_eq_true,
    decide_eq_true_iff]
  rfl

theorem not_joins_of_ready
    (plain : parser.Plain) (ready : parser.Ready state word) {follow : KindSet}
    (other : ∀ kind ∈ word.head?,
      ¬ kind ∈ (parser.grammar.predict.firstOf parts.content).tokens) :
    parser.joins (parser.settle (parser.planRepetition parts follow) state)
      (parser.planRepetition parts follow) ≠ true := by
  rw [Ne, joins_iff_of_ready plain ready]
  rintro ⟨_, kind, member, starts⟩
  exact other kind member starts

theorem roundTakes_separated
    {second : List TokenKind} {more : Bool}
    (plain : parser.Plain) (ready : parser.Ready state (first ++ (kind :: second ++ rest)))
    (starts : kind ∈ (parser.grammar.predict.firstOf parts.separator).tokens)
    (apart : ¬ kind ∈ (parser.grammar.predict.firstOf parts.content).tokens)
    (continues : (∃ kind ∈ rest.head?,
        kind ∈ (parser.grammar.predict.firstOf parts.content).tokens) ∨
      parts.trailing = .prohibited ↔ more = true)
    (contentFollows : MayFollow parser.grammar start place.content (.chain parts.content)
      (kind :: second ++ rest))
    (separatorFollows : MayFollow parser.grammar start place.separator (.chain parts.separator)
      rest)
    (content : parser.Accepts start place.content (.chain parts.content) first)
    (separator : parser.Accepts start place.separator (.chain parts.separator)
      (kind :: second)) :
    RoundTakes parser parts state more rest := by
  intro depth follow outcome after run finite
  have other : ∀ own ∈ (kind :: second ++ rest).head?,
      ¬ own ∈ (parser.grammar.predict.firstOf parts.content).tokens := by
    intro own member
    obtain rfl : kind = own := by simpa using member
    exact apart
  cases run with
  | contentStopped run => exact (content .chain run finite ready contentFollows).succeeds.elim
  | joined run joins =>
      have takes := content .chain run (by simp) ready contentFollows
      exact (not_joins_of_ready plain takes.ready other joins).elim
  | separated run _ _ separatorRun =>
      have takes := content .chain run (by simp) ready contentFollows
      have settled := plain.ready_settle (parser.planRepetition parts follow) takes.ready
      have takesSeparator := separator .chain separatorRun (by simp) settled separatorFollows
      have more_eq : parser.continues after (parser.planRepetition parts follow) = more := by
        rw [Bool.eq_iff_iff, continues_iff_of_ready plain takesSeparator.ready, continues]
      refine ⟨⟨_, by rw [more_eq]⟩, trivial, takesSeparator.ready, ?_⟩
      rw [Outcome.chains, leavesIn_cons]
      intro leaf member
      rcases List.mem_append.mp member with first | later
      · exact takes.complete leaf first
      · exact takesSeparator.complete leaf later
  | separatorStopped run _ _ separatorRun =>
      have takes := content .chain run (by simp) ready contentFollows
      have settled := plain.ready_settle (parser.planRepetition parts follow) takes.ready
      exact (separator .chain separatorRun finite settled separatorFollows).succeeds.elim
  | ended run _ unseparated | closed run _ unseparated =>
      have takes := content .chain run (by simp) ready contentFollows
      refine (Bool.false_ne_true (unseparated.symm.trans ?_)).elim
      exact (separates_iff_of_ready plain takes.ready).mpr ⟨kind, rfl, starts⟩

theorem roundTakes_closed
    (plain : parser.Plain) (ready : parser.Ready state (first ++ rest))
    (noContent : ∀ kind ∈ rest.head?,
      ¬ kind ∈ (parser.grammar.predict.firstOf parts.content).tokens)
    (noSeparator : ∀ kind ∈ rest.head?,
      ¬ kind ∈ (parser.grammar.predict.firstOf parts.separator).tokens)
    (contentFollows : MayFollow parser.grammar start place.content (.chain parts.content) rest)
    (content : parser.Accepts start place.content (.chain parts.content) first)
    (separatorFollows : parts.trailing = .required →
      MayFollow parser.grammar start place.separator (.chain parts.separator) rest)
    (separator : parts.trailing = .required →
      parser.Accepts start place.separator (.chain parts.separator) []) :
    RoundTakes parser parts state false rest := by
  intro depth follow outcome after run finite
  have unseparated : ∀ {middle : ParseState}, parser.Ready middle rest →
      parser.at? (parser.settle (parser.planRepetition parts follow) middle)
        (parser.prediction.firstOf parts.separator).tokens ≠ true := by
    intro middle ready
    rw [Ne, separates_iff_of_ready plain ready]
    rintro ⟨kind, member, starts⟩
    exact noSeparator kind member starts
  cases run with
  | contentStopped run => exact (content .chain run finite ready contentFollows).succeeds.elim
  | joined run joins =>
      have takes := content .chain run (by simp) ready contentFollows
      exact (not_joins_of_ready plain takes.ready noContent joins).elim
  | separated run _ separates =>
      have takes := content .chain run (by simp) ready contentFollows
      exact (unseparated takes.ready separates).elim
  | ended run _ _ required separatorRun =>
      have takes := content .chain run (by simp) ready contentFollows
      have settled := plain.ready_settle (parser.planRepetition parts follow) takes.ready
      have takesSeparator :=
        separator required .chain separatorRun (by simp) settled (separatorFollows required)
      refine ⟨⟨_, rfl⟩, trivial, takesSeparator.ready, ?_⟩
      rw [Outcome.chains, leavesIn_cons]
      intro leaf member
      rcases List.mem_append.mp member with first | later
      · exact takes.complete leaf first
      · exact takesSeparator.complete leaf later
  | separatorStopped run _ separates separatorRun =>
      have takes := content .chain run (by simp) ready contentFollows
      have required := separates.resolve_left (unseparated takes.ready)
      have settled := plain.ready_settle (parser.planRepetition parts follow) takes.ready
      have takesSeparator :=
        separator required .chain separatorRun finite settled (separatorFollows required)
      exact takesSeparator.succeeds.elim
  | closed run =>
      have takes := content .chain run (by simp) ready contentFollows
      exact ⟨⟨_, rfl⟩, trivial, by simpa [plain.settle] using takes.ready, takes.complete⟩

theorem takes_of_lastRound
    {depth count : Nat} {follow : KindSet} {outcome : Outcome}
    (round : RoundTakes parser parts state false rest)
    (run : parser.Runs depth (.rounds parts follow count) state outcome after)
    (finite : outcome ≠ .stopped .endless) : parser.Takes outcome after rest := by
  cases run with
  | noRoundsLeft => exact (finite rfl).elim
  | lastRound run =>
      obtain ⟨_, takes⟩ := round run (by simp)
      exact ⟨trivial, takes.ready, takes.complete⟩
  | stuckRound run =>
      obtain ⟨⟨_, impossible⟩, _⟩ := round run (by simp)
      simp at impossible
  | moreRounds run | moreStopped run =>
      obtain ⟨⟨_, impossible⟩, _⟩ := round run (by simp)
      simp at impossible
  | roundStopped run =>
      obtain ⟨⟨_, impossible⟩, _⟩ := round run finite
      simp at impossible

theorem takes_of_moreRounds
    {depth count : Nat} {follow : KindSet} {outcome : Outcome}
    (predictive : parser.Predictive)
    (round : RoundTakes parser parts state true (word ++ rest))
    (contents : parser.Accepts start place (.contents parts) word)
    (follows : MayFollow parser.grammar start place (.contents parts) rest)
    (run : parser.Runs depth (.rounds parts follow count) state outcome after)
    (finite : outcome ≠ .stopped .endless) : parser.Takes outcome after rest := by
  cases run with
  | noRoundsLeft => exact (finite rfl).elim
  | lastRound run =>
      obtain ⟨⟨_, impossible⟩, _⟩ := round run (by simp)
      simp at impossible
  | stuckRound run stuck => exact (run.round_moves predictive stuck).elim
  | moreRounds run _ restRun =>
      obtain ⟨_, takes⟩ := round run (by simp)
      have takesRest := contents .contents restRun (by simp) takes.ready follows
      refine ⟨trivial, takesRest.ready, ?_⟩
      rw [Outcome.chains, leavesIn_append]
      intro leaf member
      rcases List.mem_append.mp member with first | later
      · exact takes.complete leaf first
      · exact takesRest.complete leaf later
  | moreStopped run _ restRun =>
      obtain ⟨_, takes⟩ := round run (by simp)
      exact (contents .contents restRun finite takes.ready follows).succeeds.elim
  | roundStopped run =>
      obtain ⟨⟨_, impossible⟩, _⟩ := round run finite
      simp at impossible

namespace Accepts

variable {second third : List TokenKind}

theorem content
    (plain : parser.Plain) (conflictFree : parser.grammar.ConflictFree start)
    (occurs : parser.grammar.Occurs start place id)
    (found : (parser.grammar.expr id).element = .repetition parts)
    (optional : parts.trailing ≠ .required)
    (content : parser.Accepts start place.content (.chain parts.content) word) :
    parser.Accepts start place (.contents parts) word := by
  intro depth task state outcome after rest parses run finite ready follows
  obtain ⟨⟩ := parses
  refine takes_of_lastRound (roundTakes_closed plain ready ?_ ?_ ?_ content ?_ ?_) run finite
  · exact fun kind member starts =>
      conflictFree.contentApart occurs found kind starts (follows kind member)
  · exact fun kind member starts =>
      conflictFree.separatorApart occurs found kind starts (follows kind member)
  · exact fun kind member =>
      .contentLast occurs found (fun required => (optional required).elim) (follows kind member)
  · exact fun required => (optional required).elim
  · exact fun required => (optional required).elim

theorem trailing
    (plain : parser.Plain) (conflictFree : parser.grammar.ConflictFree start)
    (occurs : parser.grammar.Occurs start place id)
    (found : (parser.grammar.expr id).element = .repetition parts)
    (allowed : parts.trailing ≠ .prohibited)
    (covers : Grammar.Covers (parser.grammar.predict.firstOf parts.separator) second)
    (content : parser.Accepts start place.content (.chain parts.content) first)
    (separator : parser.Accepts start place.separator (.chain parts.separator) second) :
    parser.Accepts start place (.contents parts) (first ++ second) := by
  intro depth task state outcome after rest parses run finite ready follows
  obtain ⟨⟩ := parses
  rw [List.append_assoc] at ready
  have noContent : ∀ kind ∈ rest.head?,
      ¬ kind ∈ (parser.grammar.predict.firstOf parts.content).tokens :=
    fun kind member starts =>
      conflictFree.contentApart occurs found kind starts (follows kind member)
  have separatorFollows : MayFollow parser.grammar start place.separator
      (.chain parts.separator) rest :=
    fun kind member => .separatorLast occurs found (fun prohibited => (allowed prohibited).elim)
      (follows kind member)
  cases second with
  | nil =>
      refine takes_of_lastRound (roundTakes_closed plain ready noContent ?_ ?_ content
        (fun _ => separatorFollows) fun _ => separator) run finite
      · exact fun kind member starts =>
          conflictFree.separatorApart occurs found kind starts (follows kind member)
      · exact fun kind member =>
          .contentLast occurs found (fun _ => covers) (follows kind member)
  | cons kind second =>
      refine takes_of_lastRound (roundTakes_separated plain ready covers ?_ ?_ ?_
        separatorFollows content separator) run finite
      · exact fun starts => conflictFree.partsDisjoint occurs found kind starts covers
      · simp only [allowed, or_false, Bool.false_eq_true, iff_false]
        rintro ⟨kind, member, starts⟩
        exact noContent kind member starts
      · intro own member
        obtain rfl : kind = own := by simpa using member
        exact .contentSeparator occurs found covers

theorem separated
    (plain : parser.Plain) (conflictFree : parser.grammar.ConflictFree start)
    (occurs : parser.grammar.Occurs start place id)
    (found : (parser.grammar.expr id).element = .repetition parts)
    (separatorCovers : Grammar.Covers (parser.grammar.predict.firstOf parts.separator) second)
    (covers : Grammar.Covers (parser.grammar.phraseFirst (.contents parts)) third)
    (content : parser.Accepts start place.content (.chain parts.content) first)
    (separator : parser.Accepts start place.separator (.chain parts.separator) second)
    (contents : parser.Accepts start place (.contents parts) third) :
    parser.Accepts start place (.contents parts) (first ++ (second ++ third)) := by
  intro depth task state outcome after rest parses run finite ready follows
  obtain ⟨⟩ := parses
  obtain ⟨kind, third, rfl, starts⟩ := conflictFree.contents_starts occurs found covers
  simp only [List.append_assoc] at ready
  cases second with
  | nil =>
      refine takes_of_moreRounds plain.predictive
        (roundTakes_joined plain ready separatorCovers starts ?_ content) contents follows run
        finite
      intro own member
      obtain rfl : kind = own := by simpa using member
      exact .contentContent occurs found separatorCovers starts
  | cons separatorKind second =>
      refine takes_of_moreRounds plain.predictive
        (roundTakes_separated plain ready separatorCovers ?_ ?_ ?_ ?_ content separator) contents
        follows run finite
      · exact fun starts =>
          conflictFree.partsDisjoint occurs found separatorKind starts separatorCovers
      · simp only [iff_true]
        exact .inl ⟨kind, rfl, starts⟩
      · intro own member
        obtain rfl : separatorKind = own := by simpa using member
        exact .contentSeparator occurs found separatorCovers
      · intro own member
        obtain rfl : kind = own := by simpa using member
        exact .separatorContent occurs found starts

theorem repetition
    (lead : List TokenKind) (contentsWord : ∃ kind tail, word = kind :: tail)
    (leads : ∀ {depth : Nat} {follow : KindSet} {state : ParseState} {outcome : Outcome}
      {after : ParseState} {rest : List TokenKind},
      parser.Runs depth (.lead parts follow) state outcome after →
      outcome ≠ .stopped .endless → parser.Ready state (lead ++ (word ++ rest)) →
      parser.Takes outcome after (word ++ rest))
    (contents : parser.Accepts start place (.contents parts) word) :
    parser.Accepts start place (.element (.repetition parts)) (lead ++ word) := by
  obtain ⟨kind, tail, rfl⟩ := contentsWord
  intro depth task state outcome after rest parses run finite ready follows
  obtain ⟨⟩ := parses
  rw [List.append_assoc] at ready
  cases run with
  | missing _ lacks => exact lacks.elim
  | aborted _ lacks => exact lacks.elim
  | repetition run =>
      cases run with
      | leadOnly run ended =>
          have takes := leads run (by simp) ready
          rw [takes.ready.currentKind?] at ended
          simp at ended
      | filled run _ restRun =>
          have takes := leads run (by simp) ready
          have takesRest := contents .contents restRun (by simp) takes.ready follows
          refine ⟨trivial, takesRest.ready, ?_⟩
          rw [Outcome.chains, leavesIn_repetition, leavesIn_append]
          intro leaf member
          rcases List.mem_append.mp member with first | later
          · exact takes.complete leaf first
          · exact takesRest.complete leaf later
  | repetitionStopped run =>
      cases run with
      | leadStopped run => exact (leads run finite ready).succeeds.elim
      | filledStopped run _ restRun =>
          have takes := leads run (by simp) ready
          exact (contents .contents restRun finite takes.ready follows).succeeds.elim

theorem unled
    (plain : parser.Plain) (conflictFree : parser.grammar.ConflictFree start)
    (occurs : parser.grammar.Occurs start place id)
    (found : (parser.grammar.expr id).element = .repetition parts)
    (optional : parts.leading ≠ .required)
    (covers : Grammar.Covers (parser.grammar.phraseFirst (.contents parts)) word)
    (contents : parser.Accepts start place (.contents parts) word) :
    parser.Accepts start place (.element (.repetition parts)) word := by
  obtain ⟨kind, tail, rfl, starts⟩ := conflictFree.contents_starts occurs found covers
  refine repetition [] ⟨kind, tail, rfl⟩ ?_ contents
  intro depth follow state outcome after rest run finite ready
  have unled : parser.leads state (parser.planRepetition parts follow) ≠ true := by
    rw [Ne, leads_iff, plain.predictive.predicted, ready.at?_iff]
    rintro (required | ⟨_, own, member, startsSeparator⟩)
    · exact optional required
    · obtain rfl : kind = own := by simpa using member
      exact conflictFree.partsDisjoint occurs found kind starts startsSeparator
  cases run with
  | led leads | ledStopped leads => exact (unled leads).elim
  | unled => exact ⟨trivial, ready, by simp [Outcome.chains]⟩

theorem led
    (plain : parser.Plain) (conflictFree : parser.grammar.ConflictFree start)
    (occurs : parser.grammar.Occurs start place id)
    (found : (parser.grammar.expr id).element = .repetition parts)
    (allowed : parts.leading ≠ .prohibited)
    (separatorCovers : Grammar.Covers (parser.grammar.predict.firstOf parts.separator) first)
    (covers : Grammar.Covers (parser.grammar.phraseFirst (.contents parts)) word)
    (separator : parser.Accepts start place.separator (.chain parts.separator) first)
    (contents : parser.Accepts start place (.contents parts) word) :
    parser.Accepts start place (.element (.repetition parts)) (first ++ word) := by
  obtain ⟨kind, tail, rfl, starts⟩ := conflictFree.contents_starts occurs found covers
  refine repetition first ⟨kind, tail, rfl⟩ ?_ contents
  intro depth follow state outcome after rest run finite ready
  have follows : MayFollow parser.grammar start place.separator (.chain parts.separator)
      (kind :: tail ++ rest) := by
    intro own member
    obtain rfl : kind = own := by simpa using member
    exact .separatorContent occurs found starts
  cases run with
  | led _ run =>
      have takes := separator .chain run (by simp) ready follows
      exact ⟨trivial, takes.ready, takes.complete⟩
  | ledStopped _ run => exact (separator .chain run finite ready follows).succeeds.elim
  | unled unled =>
      cases first with
      | nil => exact ⟨trivial, ready, by simp [Outcome.chains]⟩
      | cons separatorKind first =>
          refine (Bool.false_ne_true (unled.symm.trans (leads_iff.mpr ?_))).elim
          rw [plain.predictive.predicted, ready.at?_iff]
          cases leading : parts.leading with
          | required => exact .inl rfl
          | optional => exact .inr ⟨rfl, separatorKind, rfl, separatorCovers⟩
          | prohibited => exact (allowed leading).elim

end Accepts

end Parser

end Reparse
