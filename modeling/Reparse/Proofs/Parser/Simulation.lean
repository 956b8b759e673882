import Reparse.Proofs.Parser.Steps
import Reparse.Proofs.Parser.Telling

/-!
# Runs on two documents side by side

The descent sees no more of a document than its size and the kinds of its tokens, and no more of a
state than the cursor and whether the input is hidden.  Where each motion keeps two states alike in
this, the runs from them are alike.  The documents may have different sizes where the runs come to
no end of either.
-/

namespace Reparse

/-- What was told before is still told, and the parser has not gone back over the tokens. -/
structure ParseState.Precedes (state after : ParseState) : Prop where
  remembers : ∀ event ∈ state.log, event ∈ after.log
  cursor_le : state.cursor ≤ after.cursor

namespace Parser

variable {parser : Parser} {state after : ParseState}

theorem Runs.precedes {depth : Nat} {task : Task} {outcome : Outcome}
    (run : parser.Runs depth task state outcome after) : state.Precedes after :=
  ⟨run.tells.remembers, run.cursor_le⟩

theorem precedes_note (state : ParseState) (event : Event) : state.Precedes (state.note event) :=
  ⟨fun _ told => Array.mem_push_of_mem _ told, Nat.le_refl _⟩

theorem precedes_closeFrame (parser : Parser) (name : NonTerminalId) (cutShort : Bool)
    (state : ParseState) : state.Precedes (parser.closeFrame name cutShort state) :=
  ⟨(parser.tells_closeFrame name cutShort state).remembers,
    (parser.samePlace_closeFrame name cutShort state).cursor.ge⟩

theorem precedes_settle (parser : Parser) (plan : RepetitionPlan) (state : ParseState) :
    state.Precedes (parser.settle plan state) :=
  ⟨(parser.tells_settle plan state).remembers, (builds_settle plan state).cursor_le⟩

theorem precedes_skips (skipsUnknown : parser.leniency.skipsUnknown = true)
    (sets : List KindSet) (count : Nat) (state : ParseState) :
    (parser.advance state).Precedes
      (parser.skipWithin sets count (parser.skip state state.cursor)) where
  remembers := fun _ told =>
    (parser.tells_skipWithin _ _ _).remembers _ (Array.mem_push_of_mem _ told)
  cursor_le :=
    (builds_skipWithin skipsUnknown sets count (parser.skip state state.cursor)).cursor_le

/-! ## What the choices depend on -/

def reading (parser : Parser) (document : Document) : Parser := { parser with document }

def under (parser : Parser) (leniency : Leniency) : Parser := { parser with leniency }

section Choices

variable {parser' : Parser} {state' : ParseState}

theorem at?_congr (kind : parser'.currentKind? state' = parser.currentKind? state)
    (set : KindSet) : parser'.at? state' set = parser.at? state set := by
  rw [at?, at?, kind]

theorem joins_congr (kind : parser'.currentKind? state' = parser.currentKind? state)
    (plan : RepetitionPlan) : parser'.joins state' plan = parser.joins state plan := by
  rw [joins, joins, at?_congr kind]

theorem leads_congr (kind : parser'.currentKind? state' = parser.currentKind? state)
    (plan : RepetitionPlan) : parser'.leads state' plan = parser.leads state plan := by
  simp only [leads, at?_congr kind]

theorem continues_congr (kind : parser'.currentKind? state' = parser.currentKind? state)
    (plan : RepetitionPlan) : parser'.continues state' plan = parser.continues state plan := by
  rw [continues, continues, at?_congr kind]

theorem chooseBranch_congr (prediction : parser'.prediction = parser.prediction)
    (kind : parser'.currentKind? state' = parser.currentKind? state) (branches : List ExprId) :
    parser'.chooseBranch state' branches = parser.chooseBranch state branches := by
  simp only [chooseBranch, prediction, kind]

theorem Lacks.congr {element : Element} (lacks : parser.Lacks state element)
    (grammar : parser'.grammar = parser.grammar)
    (prediction : parser'.prediction = parser.prediction)
    (kind : parser'.currentKind? state' = parser.currentKind? state) :
    parser'.Lacks state' element := by
  cases element with
  | token own => exact fun current => lacks (kind.symm.trans current)
  | nonTerminal name =>
      rw [Lacks] at lacks ⊢
      rwa [grammar, prediction, at?_congr kind]
  | alternation branches => exact (chooseBranch_congr prediction kind branches).trans lacks
  | empty | optional | repetition => exact lacks.elim

end Choices

/-! ## Runs side by side -/

/-- The count of rounds does not show in a run that passes fewer tokens. -/
theorem Runs.recount {depth count count' : Nat} {parts : Repetition} {follow : KindSet}
    {outcome : Outcome} (run : parser.Runs depth (.rounds parts follow count) state outcome after)
    (within : after.cursor < state.cursor + count)
    (within' : after.cursor < state.cursor + count') :
    parser.Runs depth (.rounds parts follow count') state outcome after := by
  have forward := run.cursor_le
  induction count generalizing state outcome count' with
  | zero => lia
  | succ count induction =>
      obtain ⟨count', rfl⟩ : ∃ fewer, count' = fewer + 1 :=
        Nat.exists_eq_add_of_le' (by lia)
      cases run with
      | lastRound round => exact .lastRound round
      | stuckRound round stuck => exact .stuckRound round stuck
      | roundStopped round => exact .roundStopped round
      | moreRounds round moved rest =>
          have moves := round.cursor_le
          exact .moreRounds round moved (induction rest (by lia) (by lia) rest.cursor_le)
      | moreStopped round moved rest =>
          have moves := round.cursor_le
          exact .moreStopped round moved (induction rest (by lia) (by lia) rest.cursor_le)

/-- States that are alike see the same token and stay alike, as long as the states that are reached
are admissible.  Either the documents have the same size, or admissible states are before both
ends. -/
structure Accords (parser : Parser) (document : Document)
    (Alike : ParseState → ParseState → Prop) (Admissible : ParseState → Prop) : Prop where
  earlier : ∀ {state after : ParseState}, state.Precedes after → Admissible after →
    Admissible state
  ends : document.size = parser.document.size ∨ ∀ {state : ParseState}, Admissible state →
    state.cursor < parser.document.size ∧ state.cursor < document.size
  place : ∀ {state state' : ParseState}, Alike state state' → state.SamePlace state'
  kind : ∀ {state state' : ParseState}, Alike state state' →
    (parser.reading document).currentKind? state' = parser.currentKind? state
  told : ∀ {state state' after after' : ParseState}, Alike state state' →
    state.Unmoved after → state'.Unmoved after' → Alike after after'
  advance : ∀ {state state' : ParseState}, Alike state state' →
    Admissible (parser.advance state) →
    Alike (parser.advance state) ((parser.reading document).advance state')
  skipped : ∀ {state state' : ParseState} (id : TokenId), Alike state state' →
    Alike { state with skipped := state.skipped ++ [id] }
      { state' with skipped := state'.skipped ++ [id] }
  openFrame : ∀ {state state' : ParseState} (name : NonTerminalId), Alike state state' →
    Alike (parser.openFrame name state) ((parser.reading document).openFrame name state')
  closeFrame : ∀ {state state' : ParseState} (name : NonTerminalId) (cutShort : Bool),
    Alike state state' →
    Alike (parser.closeFrame name cutShort state)
      ((parser.reading document).closeFrame name cutShort state')

namespace Accords

variable {document : Document} {Alike : ParseState → ParseState → Prop}
  {Admissible : ParseState → Prop} {state' after' : ParseState}

theorem currentId? (accords : parser.Accords document Alike Admissible)
    (alike : Alike state state') (admissible : Admissible state) :
    (parser.reading document).currentId? state' = parser.currentId? state := by
  rw [Parser.currentId?, Parser.currentId?, (accords.place alike).cursor]
  rcases accords.ends with same | before
  · rw [reading, same]
  · obtain ⟨here, there⟩ := before admissible
    rw [if_pos here]
    exact if_pos there

theorem chooseBranch (accords : parser.Accords document Alike Admissible)
    (alike : Alike state state') (branches : List ExprId) :
    (parser.reading document).chooseBranch state' branches =
      parser.chooseBranch state branches := by
  have prediction : (parser.reading document).prediction = parser.prediction := rfl
  exact chooseBranch_congr prediction (accords.kind alike) branches

theorem skipWithin (accords : parser.Accords document Alike Admissible)
    (skipsUnknown : parser.leniency.skipsUnknown = true)
    (sets : List KindSet) (count : Nat) (alike : Alike state state')
    (admissible : Admissible (parser.skipWithin sets count state)) :
    Alike (parser.skipWithin sets count state)
      ((parser.reading document).skipWithin sets count state') := by
  induction count generalizing state state' with
  | zero => exact alike
  | succ count induction =>
      unfold Parser.skipWithin at admissible ⊢
      rw [accords.kind alike]
      split
      · exact alike
      · rename_i kind current
        rw [current] at admissible
        dsimp only at admissible
        split
        · exact alike
        · rename_i unheld
          rw [if_neg unheld] at admissible
          apply induction _ admissible
          have advanced := accords.advance alike
            (accords.earlier (precedes_skips skipsUnknown _ _ _) admissible)
          rw [(accords.place alike).cursor]
          exact accords.skipped state.cursor (accords.told advanced rfl rfl)

/-- As many tokens as the larger document has left are enough for both. -/
theorem skipUpTo (accords : parser.Accords document Alike Admissible)
    (skipsUnknown : parser.leniency.skipsUnknown = true)
    (sets : List KindSet) (alike : Alike state state')
    (admissible : Admissible (parser.skipUpTo sets state)) :
    Alike (parser.skipUpTo sets state) ((parser.reading document).skipUpTo sets state') := by
  let count := max (parser.document.size - state.cursor) (document.size - state'.cursor)
  have here : parser.skipWithin sets count state = parser.skipUpTo sets state :=
    skipWithin_of_le (Nat.le_refl _) (Nat.le_max_left ..)
  have there : (parser.reading document).skipWithin sets count state' =
      (parser.reading document).skipUpTo sets state' :=
    skipWithin_of_le (Nat.le_refl _) (Nat.le_max_right ..)
  rw [← here] at admissible
  rw [← here, ← there]
  exact accords.skipWithin skipsUnknown sets count alike admissible

theorem arrive (accords : parser.Accords document Alike Admissible)
    (id : ExprId) (follow : KindSet) (alike : Alike state state')
    (admissible : Admissible (parser.arrive id follow state)) :
    Alike (parser.arrive id follow state)
      ((parser.reading document).arrive id follow state') := by
  have announced : Alike
      (if parser.usesSets (parser.grammar.expr id) then parser.announceSets state else state)
      (if parser.usesSets (parser.grammar.expr id) then parser.announceSets state'
        else state') := by
    split
    · exact accords.told alike (parser.unmoved_announceSets _) (parser.unmoved_announceSets _)
    · exact alike
  unfold Parser.arrive at admissible ⊢
  dsimp only at admissible ⊢
  change Alike _ (if parser.leniency.skipsUnknown then _ else _)
  split
  · rename_i skipsUnknown
    rw [if_pos skipsUnknown] at admissible
    exact accords.skipUpTo skipsUnknown _ announced admissible
  · exact announced

theorem settle (accords : parser.Accords document Alike Admissible)
    (plan : RepetitionPlan) (alike : Alike state state')
    (admissible : Admissible (parser.settle plan state)) :
    Alike (parser.settle plan state) ((parser.reading document).settle plan state') := by
  unfold Parser.settle at admissible ⊢
  change Alike _ (if parser.leniency.skipsUnknown then _ else _)
  split
  · rename_i skipsUnknown
    rw [if_pos skipsUnknown] at admissible
    exact accords.skipUpTo skipsUnknown _ alike admissible
  · exact alike

theorem rounds (accords : parser.Accords document Alike Admissible) {depth : Nat}
    {parts : Repetition} {follow : KindSet} {outcome : Outcome}
    (run : (parser.reading document).Runs depth
      (.rounds parts follow (parser.document.size - state.cursor + 1)) state' outcome after')
    (alike : Alike state state') (alike' : Alike after after') (admissible : Admissible after) :
    (parser.reading document).Runs depth
      (.rounds parts follow (document.size - state'.cursor + 1)) state' outcome after' := by
  have cursor := (accords.place alike).cursor
  rcases accords.ends with same | before
  · rwa [same, cursor]
  · obtain ⟨here, there⟩ := before admissible
    rw [← (accords.place alike').cursor] at here there
    exact run.recount (by lia) (by lia)

/-- From alike states a task has alike runs. -/
theorem runs (accords : parser.Accords document Alike Admissible)
    {depth : Nat} {task : Task} {outcome : Outcome}
    (run : parser.Runs depth task state outcome after) (alike : Alike state state')
    (admissible : Admissible after) :
    ∃ after', (parser.reading document).Runs depth task state' outcome after' ∧
      Alike after after' := by
  induction run generalizing state' with
  | exhausted => exact ⟨_, .exhausted, alike⟩
  | last following run element =>
      have arrived := accords.arrive _ _ alike (accords.earlier run.precedes admissible)
      obtain ⟨after', run', alike'⟩ := element arrived admissible
      exact ⟨after', .last following run', alike'⟩
  | cons following run rest element chain =>
      have middle := accords.earlier rest.precedes admissible
      have arrived := accords.arrive _ _ alike (accords.earlier run.precedes middle)
      obtain ⟨middle', run', alike'⟩ := element arrived middle
      obtain ⟨after', rest', alike''⟩ := chain alike' admissible
      exact ⟨after', .cons following run' rest', alike''⟩
  | stoppedFirst run element =>
      have arrived := accords.arrive _ _ alike (accords.earlier run.precedes admissible)
      obtain ⟨after', run', alike'⟩ := element arrived admissible
      exact ⟨after', .stoppedFirst run', alike'⟩
  | stoppedNext following run rest element chain =>
      have middle := accords.earlier rest.precedes admissible
      have arrived := accords.arrive _ _ alike (accords.earlier run.precedes middle)
      obtain ⟨middle', run', alike'⟩ := element arrived middle
      obtain ⟨after', rest', alike''⟩ := chain alike' admissible
      exact ⟨after', .stoppedNext following run' rest', alike''⟩
  | @token depth id follow state kind current =>
      have run : (parser.reading document).Runs depth (.element id follow (.token kind)) state'
          (.node (.token id state'.cursor)) _ := .token ((accords.kind alike).trans current)
      rw [(accords.place alike).cursor] at run
      exact ⟨_, run, accords.advance alike admissible⟩
  | @missing depth id follow state element tolerant lacks =>
      have run : (parser.reading document).Runs depth (.element id follow element) state'
          (.node (.missing id ((parser.reading document).currentId? state'))) _ :=
        .missing tolerant (lacks.congr rfl rfl (accords.kind alike))
      rw [accords.currentId? alike (accords.earlier (precedes_note _ _) admissible)] at run
      exact ⟨_, run, accords.told alike rfl rfl⟩
  | @aborted depth id follow state element strict lacks =>
      have run : (parser.reading document).Runs depth (.element id follow element) state'
          (.stopped (.aborted id ((parser.reading document).currentId? state'))) _ :=
        .aborted strict (lacks.congr rfl rfl (accords.kind alike))
      rw [accords.currentId? alike (accords.earlier (precedes_note _ _) admissible)] at run
      exact ⟨_, run, accords.told alike rfl rfl⟩
  | entered starts run chain =>
      have inner := accords.earlier (parser.precedes_closeFrame _ _ _) admissible
      obtain ⟨after', run', alike'⟩ := chain (accords.openFrame _ alike) inner
      rw [← at?_congr (accords.kind alike)] at starts
      exact ⟨_, .entered starts run', accords.closeFrame _ _ alike'⟩
  | enteredStopped starts run chain =>
      have inner := accords.earlier (parser.precedes_closeFrame _ _ _) admissible
      obtain ⟨after', run', alike'⟩ := chain (accords.openFrame _ alike) inner
      rw [← at?_congr (accords.kind alike)] at starts
      exact ⟨_, .enteredStopped starts run', accords.closeFrame _ _ alike'⟩
  | absent other nullable =>
      rw [← at?_congr (accords.kind alike)] at other
      exact ⟨_, .absent other nullable, alike⟩
  | empty => exact ⟨_, .empty, alike⟩
  | optional starts _ chain =>
      rw [← at?_congr (accords.kind alike)] at starts
      obtain ⟨after', run', alike'⟩ := chain alike admissible
      exact ⟨after', .optional starts run', alike'⟩
  | optionalStopped starts _ chain =>
      rw [← at?_congr (accords.kind alike)] at starts
      obtain ⟨after', run', alike'⟩ := chain alike admissible
      exact ⟨after', .optionalStopped starts run', alike'⟩
  | optionalAbsent other =>
      rw [← at?_congr (accords.kind alike)] at other
      exact ⟨_, .optionalAbsent other, alike⟩
  | alternation chosen _ chain =>
      obtain ⟨after', run', alike'⟩ := chain alike admissible
      rw [← accords.chooseBranch alike] at chosen
      exact ⟨after', .alternation chosen run', alike'⟩
  | alternationStopped chosen _ chain =>
      obtain ⟨after', run', alike'⟩ := chain alike admissible
      rw [← accords.chooseBranch alike] at chosen
      exact ⟨after', .alternationStopped chosen run', alike'⟩
  | repetition _ items =>
      obtain ⟨after', run', alike'⟩ := items alike admissible
      exact ⟨after', .repetition run', alike'⟩
  | repetitionStopped _ items =>
      obtain ⟨after', run', alike'⟩ := items alike admissible
      exact ⟨after', .repetitionStopped run', alike'⟩
  | led leads _ separator =>
      obtain ⟨after', run', alike'⟩ := separator alike admissible
      have leads' := (leads_congr (accords.kind alike) _).trans leads
      exact ⟨after', .led leads' run', alike'⟩
  | ledStopped leads _ separator =>
      obtain ⟨after', run', alike'⟩ := separator alike admissible
      have leads' := (leads_congr (accords.kind alike) _).trans leads
      exact ⟨after', .ledStopped leads' run', alike'⟩
  | unled unled =>
      exact ⟨_, .unled ((leads_congr (accords.kind alike) _).trans unled), alike⟩
  | leadOnly _ ended lead =>
      obtain ⟨after', run', alike'⟩ := lead alike admissible
      exact ⟨after', .leadOnly run' ((accords.kind alike').trans ended), alike'⟩
  | leadStopped _ lead =>
      obtain ⟨after', run', alike'⟩ := lead alike admissible
      exact ⟨after', .leadStopped run', alike'⟩
  | filled _ visible rest lead rounds =>
      obtain ⟨middle', run', alike'⟩ := lead alike (accords.earlier rest.precedes admissible)
      obtain ⟨after', rest', alike''⟩ := rounds alike' admissible
      have rest' := accords.rounds rest' alike' alike'' admissible
      rw [← accords.kind alike'] at visible
      exact ⟨after', .filled run' visible rest', alike''⟩
  | filledStopped _ visible rest lead rounds =>
      obtain ⟨middle', run', alike'⟩ := lead alike (accords.earlier rest.precedes admissible)
      obtain ⟨after', rest', alike''⟩ := rounds alike' admissible
      have rest' := accords.rounds rest' alike' alike'' admissible
      rw [← accords.kind alike'] at visible
      exact ⟨after', .filledStopped run' visible rest', alike''⟩
  | noRoundsLeft => exact ⟨_, .noRoundsLeft, alike⟩
  | lastRound _ round =>
      obtain ⟨after', run', alike'⟩ := round alike admissible
      exact ⟨after', .lastRound run', alike'⟩
  | stuckRound _ stuck round =>
      obtain ⟨after', run', alike'⟩ := round alike (accords.earlier (precedes_note _ _) admissible)
      rw [← (accords.place alike).cursor, ← (accords.place alike').cursor] at stuck
      exact ⟨_, .stuckRound run' stuck, accords.told alike' rfl rfl⟩
  | moreRounds _ moved rest round rounds =>
      obtain ⟨middle', run', alike'⟩ := round alike (accords.earlier rest.precedes admissible)
      obtain ⟨after', rest', alike''⟩ := rounds alike' admissible
      rw [← (accords.place alike).cursor, ← (accords.place alike').cursor] at moved
      exact ⟨after', .moreRounds run' moved rest', alike''⟩
  | roundStopped _ round =>
      obtain ⟨after', run', alike'⟩ := round alike admissible
      exact ⟨after', .roundStopped run', alike'⟩
  | moreStopped _ moved rest round rounds =>
      obtain ⟨middle', run', alike'⟩ := round alike (accords.earlier rest.precedes admissible)
      obtain ⟨after', rest', alike''⟩ := rounds alike' admissible
      rw [← (accords.place alike).cursor, ← (accords.place alike').cursor] at moved
      exact ⟨after', .moreStopped run' moved rest', alike''⟩
  | contentStopped _ content =>
      obtain ⟨after', run', alike'⟩ := content alike admissible
      exact ⟨after', .contentStopped run', alike'⟩
  | joined _ joins content =>
      obtain ⟨after', run', alike'⟩ :=
        content alike (accords.earlier (parser.precedes_settle _ _) admissible)
      have settled := accords.settle _ alike' admissible
      rw [← joins_congr (accords.kind settled)] at joins
      exact ⟨_, .joined run' joins, settled⟩
  | separated _ apart separates rest content separator =>
      have middle := accords.earlier rest.precedes admissible
      obtain ⟨middle', run', alike'⟩ :=
        content alike (accords.earlier (parser.precedes_settle _ _) middle)
      have settled := accords.settle _ alike' middle
      obtain ⟨after', rest', alike''⟩ := separator settled admissible
      rw [← joins_congr (accords.kind settled)] at apart
      rw [← at?_congr (accords.kind settled)] at separates
      rw [← continues_congr (accords.kind alike'')]
      exact ⟨after', .separated run' apart separates rest', alike''⟩
  | ended _ apart unseparated required rest content separator =>
      have middle := accords.earlier rest.precedes admissible
      obtain ⟨middle', run', alike'⟩ :=
        content alike (accords.earlier (parser.precedes_settle _ _) middle)
      have settled := accords.settle _ alike' middle
      obtain ⟨after', rest', alike''⟩ := separator settled admissible
      rw [← joins_congr (accords.kind settled)] at apart
      rw [← at?_congr (accords.kind settled)] at unseparated
      exact ⟨after', .ended run' apart unseparated required rest', alike''⟩
  | separatorStopped _ apart required rest content separator =>
      have middle := accords.earlier rest.precedes admissible
      obtain ⟨middle', run', alike'⟩ :=
        content alike (accords.earlier (parser.precedes_settle _ _) middle)
      have settled := accords.settle _ alike' middle
      obtain ⟨after', rest', alike''⟩ := separator settled admissible
      rw [← joins_congr (accords.kind settled)] at apart
      rw [← at?_congr (accords.kind settled)] at required
      exact ⟨after', .separatorStopped run' apart required rest', alike''⟩
  | closed _ apart unseparated optional content =>
      obtain ⟨after', run', alike'⟩ :=
        content alike (accords.earlier (parser.precedes_settle _ _) admissible)
      have settled := accords.settle _ alike' admissible
      rw [← joins_congr (accords.kind settled)] at apart
      rw [← at?_congr (accords.kind settled)] at unseparated
      exact ⟨_, .closed run' apart unseparated optional, settled⟩

end Accords

/-- States that are alike see the same token and stay alike, as long as only admissible events are
told. -/
structure Simulates (parser : Parser) (document : Document)
    (Alike : ParseState → ParseState → Prop) (Admissible : Event → Prop) : Prop where
  size : document.size = parser.document.size
  place : ∀ {state state' : ParseState}, Alike state state' → state.SamePlace state'
  kind : ∀ {state state' : ParseState}, Alike state state' →
    (parser.reading document).currentKind? state' = parser.currentKind? state
  told : ∀ {state state' after after' : ParseState}, Alike state state' →
    state.Unmoved after → state'.Unmoved after' → Alike after after'
  advance : ∀ {state state' : ParseState}, Alike state state' →
    (∀ event ∈ (parser.advance state).log, Admissible event) →
    Alike (parser.advance state) ((parser.reading document).advance state')
  skipped : ∀ {state state' : ParseState} (id : TokenId), Alike state state' →
    Alike { state with skipped := state.skipped ++ [id] }
      { state' with skipped := state'.skipped ++ [id] }
  openFrame : ∀ {state state' : ParseState} (name : NonTerminalId), Alike state state' →
    Alike (parser.openFrame name state) ((parser.reading document).openFrame name state')
  closeFrame : ∀ {state state' : ParseState} (name : NonTerminalId) (cutShort : Bool),
    Alike state state' →
    Alike (parser.closeFrame name cutShort state)
      ((parser.reading document).closeFrame name cutShort state')

namespace Simulates

variable {document : Document} {Alike : ParseState → ParseState → Prop}
  {Admissible : Event → Prop} {state' : ParseState}

theorem accords (simulates : parser.Simulates document Alike Admissible) :
    parser.Accords document Alike fun state => ∀ event ∈ state.log, Admissible event where
  earlier precedes admissible event told := admissible event (precedes.remembers event told)
  ends := .inl simulates.size
  place := simulates.place
  kind := simulates.kind
  told := simulates.told
  advance := simulates.advance
  skipped := simulates.skipped
  openFrame := simulates.openFrame
  closeFrame := simulates.closeFrame

theorem skipRest (simulates : parser.Simulates document Alike Admissible) (count : Nat)
    (same : state.SamePlace state') :
    (parser.skipRest count state).SamePlace
      ((parser.reading document).skipRest count state') := by
  induction count generalizing state state' with
  | zero => exact same
  | succ count induction =>
      unfold Parser.skipRest Parser.currentId?
      rw [same.cursor, reading, simulates.size]
      by_cases more : state.cursor < parser.document.size
      · simp only [more, if_true]
        apply induction
        exact ⟨rfl, congrArg (· ++ [state.cursor]) same.skipped⟩
      · simpa only [more, if_false] using same

theorem sweep (simulates : parser.Simulates document Alike Admissible)
    (same : state.SamePlace state') :
    (parser.sweep state).SamePlace ((parser.reading document).sweep state') := by
  unfold Parser.sweep
  rw [same.cursor]
  change ParseState.SamePlace _ (if parser.leniency.skipsUnknown then _ else _)
  split
  · rw [reading, simulates.size]
    exact simulates.skipRest _ same
  · exact same

/-- Parses that begin alike have the same tree and skip the same tokens. -/
theorem finishes (simulates : parser.Simulates document Alike Admissible)
    {start : NonTerminalId} {announced announced' : Bool} {run : Parser.Run}
    (alike : Alike (parser.startState start announced)
      ((parser.reading document).startState start announced'))
    (finishes : parser.Finishes start announced run)
    (admissible : ∀ event ∈ run.log, Admissible event) :
    ∃ run', (parser.reading document).Finishes start announced' run' ∧
      run'.parse.tree = run.parse.tree ∧ run'.parse.skipped = run.parse.skipped := by
  have limit : (parser.reading document).depthLimit = parser.depthLimit := by
    rw [depthLimit, depthLimit, reading, simulates.size]
  cases finishes with
  | @parsed child after run =>
      obtain ⟨after', run', alike'⟩ := simulates.accords.runs run alike fun event told =>
        admissible event
          (((parser.tells_closeFrame _ _ _).trans (parser.tells_sweep _)).remembers _ told)
      rw [← limit] at run'
      refine ⟨_, .parsed run', rfl, ?_⟩
      exact (simulates.sweep (simulates.place (simulates.closeFrame start false alike'))).skipped
  | @aborted expr found after run =>
      obtain ⟨after', run', alike'⟩ := simulates.accords.runs run alike fun event told =>
        admissible event
          (Array.mem_push_of_mem _ ((parser.tells_closeFrame _ _ _).remembers _ told))
      rw [← limit] at run'
      refine ⟨_, .aborted run', rfl, ?_⟩
      exact (simulates.place (simulates.closeFrame start true alike')).skipped

end Simulates

/-! ## Whether the token sets were announced -/

theorem unmoved_iff :
    state.Unmoved after ↔
      ∃ log announced, after = { state with log := log, setsAnnounced := announced } := by
  constructor
  · exact fun unmoved => ⟨_, _, unmoved⟩
  · rintro ⟨log, announced, rfl⟩
    rfl

theorem unmoved_symm (unmoved : state.Unmoved after) : after.Unmoved state := by
  obtain ⟨log, announced, rfl⟩ := unmoved_iff.mp unmoved
  rfl

section Told

variable {state' : ParseState}

theorem unmoved_leaveRegion (unmoved : state.Unmoved state') :
    (parser.leaveRegion state).Unmoved (parser.leaveRegion state') := by
  obtain ⟨log, announced, rfl⟩ := unmoved_iff.mp unmoved
  unfold leaveRegion
  dsimp only
  cases boundary? state.frames state.regionStart <;> rfl

theorem unmoved_observe (unmoved : state.Unmoved state') :
    (parser.observe state).Unmoved (parser.observe state') := by
  have current : parser.currentId? state' = parser.currentId? state := by
    rw [unmoved]
    rfl
  have region : state'.inRegion = state.inRegion := by rw [unmoved]
  unfold observe
  rw [current, region]
  split
  · exact unmoved
  · cases parser.currentId? state with
    | none => exact unmoved
    | some id =>
        dsimp only
        cases state.inRegion <;> cases parser.document.isChanged id
        case false.true =>
          obtain ⟨log, announced, rfl⟩ := unmoved_iff.mp unmoved
          rfl
        case true.false =>
          apply unmoved_leaveRegion
          obtain ⟨log, announced, rfl⟩ := unmoved_iff.mp unmoved
          rfl
        all_goals exact unmoved

theorem unmoved_advance (unmoved : state.Unmoved state') :
    (parser.advance state).Unmoved (parser.advance state') := by
  obtain ⟨log, announced, rfl⟩ := unmoved_iff.mp unmoved
  have current : parser.currentId? { state with log := log, setsAnnounced := announced } =
    parser.currentId? state := rfl
  unfold advance
  rw [current]
  cases parser.currentId? state with
  | none => exact unmoved_observe unmoved
  | some id => exact unmoved_observe (unmoved_iff.mpr ⟨_, _, rfl⟩)

theorem unmoved_openFrame (name : NonTerminalId) (unmoved : state.Unmoved state') :
    (parser.openFrame name state).Unmoved (parser.openFrame name state') := by
  obtain ⟨log, announced, rfl⟩ := unmoved_iff.mp unmoved
  rfl

theorem unmoved_closeFrame (name : NonTerminalId) (cutShort : Bool)
    (unmoved : state.Unmoved state') :
    (parser.closeFrame name cutShort state).Unmoved
      (parser.closeFrame name cutShort state') := by
  obtain ⟨log, announced, rfl⟩ := unmoved_iff.mp unmoved
  unfold closeFrame
  dsimp only
  split <;> rfl

end Told

theorem simulates_unmoved (parser : Parser) :
    parser.Simulates parser.document ParseState.Unmoved fun _ => True where
  size := rfl
  place := by
    intro state state' unmoved
    obtain ⟨log, announced, rfl⟩ := unmoved_iff.mp unmoved
    exact ⟨rfl, rfl⟩
  kind := currentKind?_of_unmoved
  told := by
    intro state state' after after' unmoved first second
    obtain ⟨log, announced, rfl⟩ := unmoved_iff.mp first
    obtain ⟨log', announced', rfl⟩ := unmoved_iff.mp unmoved
    exact second
  advance := fun unmoved _ => unmoved_advance unmoved
  skipped := by
    intro state state' id unmoved
    obtain ⟨log, announced, rfl⟩ := unmoved_iff.mp unmoved
    rfl
  openFrame := unmoved_openFrame
  closeFrame := unmoved_closeFrame

/-- It makes no difference for a parse whether the token sets were announced before. -/
theorem finishes_announced {start : NonTerminalId} {announced : Bool} {run : Parser.Run}
    (announced' : Bool) (finishes : parser.Finishes start announced run) :
    ∃ run', parser.Finishes start announced' run' ∧
      run'.parse.tree = run.parse.tree ∧ run'.parse.skipped = run.parse.skipped := by
  have started : (parser.startState start announced).Unmoved
      (parser.startState start announced') := unmoved_openFrame start (unmoved_observe rfl)
  exact parser.simulates_unmoved.finishes started finishes fun _ _ => trivial

end Parser

end Reparse
