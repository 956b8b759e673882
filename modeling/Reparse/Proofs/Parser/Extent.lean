import Mathlib.Data.List.Sort
import Reparse.Proofs.Parser.Starting

/-!
# The tokens between two places

What a run takes and what it skips are together the tokens between the places where it starts and
ends.
-/

namespace Reparse

/-- The ids from the first bound up to the second one are divided between two ascending lists. -/
structure Covers (taken skipped : List TokenId) (start stop : TokenId) : Prop where
  le : start ≤ stop
  takenAscends : taken.Pairwise (· < ·)
  skippedAscends : skipped.Pairwise (· < ·)
  disjoint : ∀ id ∈ taken, ¬ id ∈ skipped
  mem_iff : ∀ id, id ∈ taken ∨ id ∈ skipped ↔ start ≤ id ∧ id < stop

namespace Covers

theorem refl (place : TokenId) : Covers [] [] place place where
  le := Nat.le_refl _
  takenAscends := .nil
  skippedAscends := .nil
  disjoint := by simp
  mem_iff := by
    intro id
    simp only [List.not_mem_nil, or_self, false_iff]
    lia

theorem takes (place : TokenId) : Covers [place] [] place (place + 1) where
  le := Nat.le_succ _
  takenAscends := List.pairwise_singleton _ _
  skippedAscends := .nil
  disjoint := by simp
  mem_iff := by
    intro id
    simp only [List.mem_singleton, List.not_mem_nil, or_false]
    lia

theorem skips (place : TokenId) : Covers [] [place] place (place + 1) where
  le := Nat.le_succ _
  takenAscends := .nil
  skippedAscends := List.pairwise_singleton _ _
  disjoint := by simp
  mem_iff := by
    intro id
    simp only [List.mem_singleton, List.not_mem_nil, false_or]
    lia

theorem append
    {taken taken' skipped skipped' : List TokenId} {start middle stop : TokenId}
    (first : Covers taken skipped start middle) (second : Covers taken' skipped' middle stop) :
    Covers (taken ++ taken') (skipped ++ skipped') start stop where
  le := Nat.le_trans first.le second.le
  takenAscends := by
    refine List.pairwise_append.mpr ⟨first.takenAscends, second.takenAscends, ?_⟩
    intro id member id' member'
    have before := (first.mem_iff id).mp (.inl member)
    have behind := (second.mem_iff id').mp (.inl member')
    exact Nat.lt_of_lt_of_le before.2 behind.1
  skippedAscends := by
    refine List.pairwise_append.mpr ⟨first.skippedAscends, second.skippedAscends, ?_⟩
    intro id member id' member'
    have before := (first.mem_iff id).mp (.inr member)
    have behind := (second.mem_iff id').mp (.inr member')
    exact Nat.lt_of_lt_of_le before.2 behind.1
  disjoint := by
    intro id
    have firstIff := first.mem_iff id
    have secondIff := second.mem_iff id
    have firstApart := first.disjoint id
    have secondApart := second.disjoint id
    simp only [List.mem_append]
    lia
  mem_iff := by
    intro id
    have firstIff := first.mem_iff id
    have secondIff := second.mem_iff id
    have le := first.le
    have le' := second.le
    simp only [List.mem_append]
    lia

theorem taken_eq {taken : List TokenId} {start stop : TokenId}
    (covers : Covers taken [] start stop) : taken = List.range' start (stop - start) := by
  have members : ∀ id, id ∈ taken ↔ id ∈ List.range' start (stop - start) := by
    intro id
    have iff := covers.mem_iff id
    have le := covers.le
    simp only [List.not_mem_nil, or_false] at iff
    rw [iff, List.mem_range'_1]
    lia
  have perm : taken.Perm (List.range' start (stop - start)) :=
    (List.perm_ext_iff_of_nodup (covers.takenAscends.imp Nat.ne_of_lt)
      List.nodup_range').mpr members
  exact perm.eq_of_pairwise (fun _ _ _ _ first second => (Nat.lt_asymm first second).elim)
    covers.takenAscends List.pairwise_lt_range'

end Covers

namespace Parser

variable {parser : Parser} {state after : ParseState}

open Reparse.Tree

/-- Two states stand around tokens that were taken and tokens that were skipped. -/
structure Spans (parser : Parser) (state : ParseState) (taken skipped : List TokenId)
    (after : ParseState) : Prop where
  skipped_eq : after.skipped = state.skipped ++ skipped
  covers : Covers taken skipped state.cursor after.cursor
  inside : state.cursor ≤ parser.document.size → after.cursor ≤ parser.document.size
  strict : parser.leniency.skipsUnknown = false → skipped = []

theorem Reads.spans {leaves : List Tree} (reads : parser.Reads state leaves after) :
    ∃ skipped, parser.Spans state (leaves.filterMap consumed?) skipped after := by
  induction reads with
  | @stays state after same =>
      refine ⟨[], by simp [same.skipped], ?_, by simp [same.cursor], fun _ => rfl⟩
      rw [same.cursor]
      exact .refl _
  | @takes state kind id current =>
      have inside := cursor_lt_of_currentKind? current
      have same := samePlace_advance inside
      refine ⟨[], by simp [same.skipped], ?_, ?_, fun _ => rfl⟩
      · rw [same.cursor]
        exact .takes _
      · rw [same.cursor]
        exact fun _ => inside
  | misses => exact ⟨[], by simp [noteMissing, ParseState.note], .refl _, id, fun _ => rfl⟩
  | @skips state kind skipsUnknown current =>
      have inside := cursor_lt_of_currentKind? current
      have same := samePlace_skip inside
      refine ⟨[state.cursor], same.skipped, ?_, ?_, by simp [skipsUnknown]⟩
      · rw [same.cursor]
        exact .skips _
      · rw [same.cursor]
        exact fun _ => inside
  | append _ _ first second =>
      obtain ⟨skipped, first⟩ := first
      obtain ⟨skipped', second⟩ := second
      refine ⟨skipped ++ skipped', ?_, ?_, fun inside => second.inside (first.inside inside), ?_⟩
      · rw [second.skipped_eq, first.skipped_eq, List.append_assoc]
      · rw [List.filterMap_append]
        exact first.covers.append second.covers
      · intro strict
        rw [first.strict strict, second.strict strict, List.append_nil]

/-- A run that succeeds takes and skips the tokens between its ends. -/
theorem Runs.spans {depth : Nat} {task : Task} {outcome : Outcome}
    (run : parser.Runs depth task state outcome after) (succeeds : outcome.Succeeds) :
    ∃ skipped, parser.Spans state (consumedIn outcome.chains) skipped after :=
  (run.reads succeeds).spans

theorem Reads.cursor_le {leaves : List Tree} (reads : parser.Reads state leaves after) :
    state.cursor ≤ after.cursor := by
  obtain ⟨skipped, spans⟩ := reads.spans
  exact spans.covers.le

theorem Reads.inside {leaves : List Tree} (reads : parser.Reads state leaves after)
    (inside : state.cursor ≤ parser.document.size) : after.cursor ≤ parser.document.size := by
  obtain ⟨skipped, spans⟩ := reads.spans
  exact spans.inside inside

/-- Behind the end of the text nothing moves. -/
theorem Reads.inside_of_moved {leaves : List Tree} (reads : parser.Reads state leaves after)
    (moved : state.cursor < after.cursor) : after.cursor ≤ parser.document.size := by
  induction reads with
  | stays same => exact (moved.ne same.cursor.symm).elim
  | takes _ current =>
      have inside := cursor_lt_of_currentKind? current
      exact (samePlace_advance inside).cursor.trans_le inside
  | misses => exact (Nat.lt_irrefl _ moved).elim
  | skips _ current =>
      have inside := cursor_lt_of_currentKind? current
      exact (samePlace_skip inside).cursor.trans_le inside
  | append first second induction induction' =>
      rcases second.cursor_le.lt_or_eq with later | same
      · exact induction' later
      · exact same ▸ induction (same ▸ moved)

/-- The current token starts the task. -/
def Starts (parser : Parser) (state : ParseState) (task : Task) : Prop :=
  ∃ kind, parser.currentKind? state = some kind ∧ kind ∈ (task.first parser.grammar).tokens

theorem Runs.cursor_lt {depth : Nat} {task : Task} {outcome : Outcome}
    (run : parser.Runs depth task state outcome after) (predictive : parser.Predictive)
    (within : task.Within parser.grammar parser.grammar.exprs.size)
    (starts : parser.Starts state task) (succeeds : outcome.Succeeds) :
    state.cursor < after.cursor := by
  obtain ⟨kind, current, starts⟩ := starts
  obtain ⟨expr, rest, leaves⟩ := run.takes_current predictive within current starts succeeds
  obtain ⟨skipped, spans⟩ := run.spans succeeds
  have taken : state.cursor ∈ consumedIn outcome.chains := by
    rw [consumedIn, leaves]
    exact List.mem_cons_self
  exact ((spans.covers.mem_iff _).mp (.inl taken)).2

end Parser

end Reparse
