import Reparse.Proofs.Parser.Calls
import Reparse.Proofs.Parser.Hiding

/-!
# Documents with unknown tokens put in

A document is padded by putting tokens between its own that no expression of the grammar asks for.
The descent comes through both documents in the same gap between two own tokens.
-/

namespace Reparse

def Document.kind? (document : Document) (id : TokenId) : Option TokenKind :=
  (document.token? id).map Token.kind

theorem Document.kind?_isSome_iff {document : Document} {id : TokenId} :
    (document.kind? id).isSome = true ↔ id < document.size := by
  simp [kind?, token?, size]

theorem Document.kind?_eq_none_iff {document : Document} {id : TokenId} :
    document.kind? id = none ↔ document.size ≤ id := by
  rw [← Option.not_isSome_iff_eq_none, kind?_isSome_iff, Nat.not_lt]

/-- The second document has the tokens of the first one at their new places, in their order, and
other tokens of unknown kinds between them.  No edits are remembered. -/
structure Pads (grammar : Grammar) (place : TokenId → TokenId) (document padded : Document) :
    Prop where
  unedited : document.history = none
  unedited' : padded.history = none
  ascends : ∀ {first second}, first < second → second < document.size →
    place first < place second
  kept : ∀ {own}, own < document.size → padded.kind? (place own) = document.kind? own
  unknown : ∀ {id kind}, padded.kind? id = some kind →
    (∀ own < document.size, place own ≠ id) → ¬ kind ∈ grammar.kinds

namespace Pads

variable {grammar : Grammar} {place : TokenId → TokenId} {document padded : Document}

theorem hasChanges (pads : Pads grammar place document padded) : document.hasChanges = false := by
  simp [Document.hasChanges, Document.changedRegion, pads.unedited]

theorem hasChanges' (pads : Pads grammar place document padded) : padded.hasChanges = false := by
  simp [Document.hasChanges, Document.changedRegion, pads.unedited']

theorem place_lt (pads : Pads grammar place document padded) {own : TokenId}
    (inside : own < document.size) : place own < padded.size := by
  rw [← Document.kind?_isSome_iff, pads.kept inside, Document.kind?_isSome_iff]
  exact inside

theorem place_lt_iff (pads : Pads grammar place document padded) {first second : TokenId}
    (inside : first < document.size) (inside' : second < document.size) :
    place first < place second ↔ first < second := by
  constructor
  · intro less
    by_contra other
    rcases Nat.lt_or_eq_of_le (Nat.le_of_not_lt other) with more | rfl
    · exact absurd (pads.ascends more inside) (Nat.lt_asymm less)
    · exact Nat.lt_irrefl _ less
  · exact fun less => pads.ascends less inside'

theorem eq_of_place_eq (pads : Pads grammar place document padded) {first second : TokenId}
    (inside : first < document.size) (inside' : second < document.size)
    (same : place first = place second) : first = second := by
  have less := pads.place_lt_iff inside inside'
  have more := pads.place_lt_iff inside' inside
  lia

theorem exists_own (pads : Pads grammar place document padded) {id : TokenId} {kind : TokenKind}
    (here : padded.kind? id = some kind) (known : kind ∈ grammar.kinds) :
    ∃ own < document.size, place own = id := by
  by_contra foreign
  exact pads.unknown here (fun own inside same => foreign ⟨own, inside, same⟩) known

end Pads

namespace Parser

variable {parser : Parser} {state after : ParseState}

/-! ## Sets of known kinds -/

namespace Predictive

variable {id : ExprId} {parts : Repetition} {follow : KindSet}

theorem knows_followOfElement (predictive : parser.Predictive)
    (known : parser.grammar.Knows follow) :
    parser.grammar.Knows (parser.followOfElement id follow) := by
  unfold followOfElement
  split
  · exact known
  · rw [predictive.predicted]
    exact known.union Grammar.knows_consumableOf

theorem knows_afterContent (predictive : parser.Predictive)
    (known : parser.grammar.Knows follow) :
    parser.grammar.Knows (parser.planRepetition parts follow).afterContent := by
  intro kind member
  rw [mem_afterContent, predictive.predicted] at member
  rcases member with follows | separates | ⟨_, starts⟩
  · exact known kind follows
  · exact Grammar.knows_firstOf kind separates
  · exact Grammar.knows_firstOf kind starts

theorem knows_afterSeparator (predictive : parser.Predictive)
    (known : parser.grammar.Knows follow) :
    parser.grammar.Knows (parser.planRepetition parts follow).afterSeparator := by
  intro kind member
  rw [mem_afterSeparator, predictive.predicted] at member
  exact member.elim (known kind) (Grammar.knows_firstOf kind)

end Predictive

/-! ## Skipping in one document -/

/-- The parser stands within its document and sees it. -/
structure Stands (parser : Parser) (state : ParseState) : Prop where
  visible : state.hiddenUntil = none
  inside : state.cursor ≤ parser.document.size

theorem currentKind?_of_visible (visible : state.hiddenUntil = none) :
    parser.currentKind? state = parser.document.kind? state.cursor := by
  rw [currentKind?, visible]
  rfl

theorem exists_currentKind? (visible : state.hiddenUntil = none)
    (inside : state.cursor < parser.document.size) :
    ∃ kind, parser.currentKind? state = some kind := by
  rw [currentKind?_of_visible visible]
  exact Option.isSome_iff_exists.mp (Document.kind?_isSome_iff.mpr inside)

theorem Stands.currentKind? (stands : parser.Stands state) :
    parser.currentKind? state = parser.document.kind? state.cursor :=
  currentKind?_of_visible stands.visible

/-- Skipping goes on to the first token that a set holds, or to the end. -/
structure SkipsTo (parser : Parser) (sets : List KindSet) (state after : ParseState) : Prop where
  stands : parser.Stands after
  le : state.cursor ≤ after.cursor
  passed : ∀ {id kind}, state.cursor ≤ id → id < after.cursor →
    parser.document.kind? id = some kind → ¬ ∃ set ∈ sets, kind ∈ set
  stops : ∀ {kind}, parser.document.kind? after.cursor = some kind → ∃ set ∈ sets, kind ∈ set

theorem Stands.skip {kind : TokenKind} (unedited : parser.document.hasChanges = false)
    (stands : parser.Stands state) (current : parser.currentKind? state = some kind) :
    parser.Stands (parser.skip state state.cursor) ∧
      (parser.skip state state.cursor).cursor = state.cursor + 1 := by
  have inside := cursor_lt_of_currentKind? current
  have moved := (samePlace_skip inside).cursor
  refine ⟨⟨?_, moved.trans_le inside⟩, moved⟩
  exact (hiddenUntil_advance_of_unedited unedited state).trans stands.visible

theorem skipsTo_skipWithin (unedited : parser.document.hasChanges = false) (sets : List KindSet)
    {count : Nat} (stands : parser.Stands state)
    (enough : parser.document.size - state.cursor ≤ count) :
    parser.SkipsTo sets state (parser.skipWithin sets count state) := by
  have stays : ∀ {state}, parser.Stands state →
      (∀ kind, parser.currentKind? state = some kind → ∃ set ∈ sets, kind ∈ set) →
      parser.SkipsTo sets state state := by
    intro state stands stops
    refine ⟨stands, Nat.le_refl _, fun first second => absurd second (Nat.not_lt.mpr first), ?_⟩
    exact fun here => stops _ (stands.currentKind?.trans here)
  induction count generalizing state with
  | zero =>
      apply stays stands
      intro kind current
      have inside := cursor_lt_of_currentKind? current
      lia
  | succ count induction =>
      rw [skipWithin]
      split
      · rename_i ended
        exact stays stands (by simp [ended])
      · rename_i kind current
        split
        · rename_i held
          apply stays stands
          intro kind' current'
          obtain rfl : kind' = kind := Option.some.inj (current'.symm.trans current)
          exact List.any_eq_true.mp held
        · rename_i unheld
          obtain ⟨stands', moved⟩ := stands.skip unedited current
          have rest := induction stands' (by lia)
          refine ⟨rest.stands, by have := rest.le; lia, ?_, rest.stops⟩
          intro id kind' first second here held
          rcases Nat.lt_or_eq_of_le first with later | rfl
          · exact rest.passed (by lia) second here held
          · rw [stands.currentKind?] at current
            obtain rfl : kind' = kind := Option.some.inj (here.symm.trans current)
            exact unheld (List.any_eq_true.mpr held)

theorem skipsTo_skipUpTo (unedited : parser.document.hasChanges = false) (sets : List KindSet)
    (stands : parser.Stands state) : parser.SkipsTo sets state (parser.skipUpTo sets state) :=
  skipsTo_skipWithin unedited sets stands (Nat.le_refl _)

/-! ## Standing in one gap -/

variable {place : TokenId → TokenId} {padded : Document} {state' after' : ParseState}

/-- The parsers of the two documents stand in the same gap between own tokens. -/
structure SameGap (parser : Parser) (place : TokenId → TokenId) (padded : Document)
    (state state' : ParseState) : Prop where
  stands : parser.Stands state
  stands' : (parser.reading padded).Stands state'
  before : ∀ {own}, own < parser.document.size →
    (place own < state'.cursor ↔ own < state.cursor)

/-- They stand at the end of the gap: at the same own token, or at the end of their documents. -/
structure Aligned (parser : Parser) (place : TokenId → TokenId) (padded : Document)
    (state state' : ParseState) : Prop extends parser.SameGap place padded state state' where
  at_own : state.cursor < parser.document.size → state'.cursor = place state.cursor
  at_end : state.cursor = parser.document.size → state'.cursor = padded.size

/-- The parser drops unknown tokens, and there are more of them in the padded document. -/
structure Overlooks (parser : Parser) (place : TokenId → TokenId) (padded : Document) : Prop where
  predictive : parser.Predictive
  skipsUnknown : parser.leniency.skipsUnknown = true
  pads : Pads parser.grammar place parser.document padded

theorem SameGap.of_cursor (gap : parser.SameGap place padded state state')
    (cursor : after.cursor = state.cursor) (visible : after.hiddenUntil = none)
    (cursor' : after'.cursor = state'.cursor) (visible' : after'.hiddenUntil = none) :
    parser.SameGap place padded after after' where
  stands := ⟨visible, cursor.trans_le gap.stands.inside⟩
  stands' := ⟨visible', cursor'.trans_le gap.stands'.inside⟩
  before inside := by rw [cursor, cursor', gap.before inside]

/-- At a token of a known kind, and at the end of the padded document, the gap ends. -/
theorem SameGap.aligned (pads : Pads parser.grammar place parser.document padded)
    (gap : parser.SameGap place padded state state')
    (known : ∀ {kind}, padded.kind? state'.cursor = some kind → kind ∈ parser.grammar.kinds) :
    parser.Aligned place padded state state' := by
  have own_here : state'.cursor < padded.size →
      ∃ own < parser.document.size, place own = state'.cursor := by
    intro inside
    obtain ⟨kind, here⟩ := Option.isSome_iff_exists.mp (Document.kind?_isSome_iff.mpr inside)
    exact pads.exists_own here (known here)
  refine ⟨gap, fun inside => ?_, fun ended => ?_⟩
  · have behind := gap.before inside
    obtain ⟨own, inside', same⟩ := own_here (by have := pads.place_lt inside; lia)
    have before := gap.before inside'
    have places := pads.place_lt_iff inside inside'
    obtain rfl : own = state.cursor := by lia
    exact same.symm
  · by_contra other
    have inside := gap.stands'.inside
    change state'.cursor ≤ padded.size at inside
    obtain ⟨own, inside', same⟩ := own_here (by lia)
    have before := gap.before inside'
    lia

/-- Skipping up to sets of known kinds goes through the rest of the gap. -/
theorem SameGap.skipsTo {sets : List KindSet}
    (pads : Pads parser.grammar place parser.document padded)
    (known : ∀ set ∈ sets, parser.grammar.Knows set)
    (gap : parser.SameGap place padded state state')
    (skips : parser.SkipsTo sets state after)
    (skips' : (parser.reading padded).SkipsTo sets state' after') :
    parser.Aligned place padded after after' := by
  have known_here : ∀ {kind}, padded.kind? after'.cursor = some kind →
      kind ∈ parser.grammar.kinds := by
    intro kind here
    obtain ⟨set, member, held⟩ := skips'.stops here
    exact known set member kind held
  refine SameGap.aligned pads ⟨skips.stands, skips'.stands, fun {own} inside => ⟨?_, ?_⟩⟩
    known_here
  · intro before'
    by_contra reached
    have inside_after : after.cursor < parser.document.size := by lia
    obtain ⟨kind, here⟩ := Option.isSome_iff_exists.mp
      (Document.kind?_isSome_iff.mpr inside_after)
    have ahead : state'.cursor ≤ place after.cursor := by
      have := (gap.before inside_after).mp
      have := skips.le
      lia
    have passed : place after.cursor < after'.cursor := by
      have := pads.place_lt_iff inside inside_after
      lia
    exact skips'.passed ahead passed ((pads.kept inside_after).trans here) (skips.stops here)
  · intro before
    by_contra reached
    have inside' : after'.cursor < padded.size := by
      have := pads.place_lt inside
      lia
    obtain ⟨kind, here'⟩ := Option.isSome_iff_exists.mp (Document.kind?_isSome_iff.mpr inside')
    obtain ⟨other, inside_other, same⟩ := pads.exists_own here' (known_here here')
    have here : parser.document.kind? other = some kind := by
      rw [← pads.kept inside_other, same]
      exact here'
    have ahead : state.cursor ≤ other := by
      have := (gap.before inside_other).mpr
      have := skips'.le
      lia
    have passed : other < after.cursor := by
      have := pads.place_lt_iff inside inside_other
      lia
    exact skips.passed ahead passed here (skips'.stops here')

namespace SameGap

theorem skipUpTo {sets : List KindSet}
    (pads : Pads parser.grammar place parser.document padded)
    (known : ∀ set ∈ sets, parser.grammar.Knows set)
    (gap : parser.SameGap place padded state state') :
    parser.Aligned place padded (parser.skipUpTo sets state)
      ((parser.reading padded).skipUpTo sets state') := by
  have skips' : (parser.reading padded).SkipsTo sets state'
      ((parser.reading padded).skipUpTo sets state') :=
    skipsTo_skipUpTo pads.hasChanges' sets gap.stands'
  exact gap.skipsTo pads known (skipsTo_skipUpTo pads.hasChanges sets gap.stands) skips'

theorem announceSets (gap : parser.SameGap place padded state state') :
    parser.SameGap place padded (parser.announceSets state)
      ((parser.reading padded).announceSets state') := by
  have visible : ∀ (parser : Parser) (state : ParseState),
      (parser.announceSets state).hiddenUntil = state.hiddenUntil := by
    intro parser state
    unfold Parser.announceSets
    split <;> rfl
  apply gap.of_cursor
  · exact (parser.samePlace_announceSets state).cursor
  · exact (visible _ _).trans gap.stands.visible
  · exact ((parser.reading padded).samePlace_announceSets state').cursor
  · exact (visible _ _).trans gap.stands'.visible

theorem openFrame (name : NonTerminalId) (gap : parser.SameGap place padded state state') :
    parser.SameGap place padded (parser.openFrame name state)
      ((parser.reading padded).openFrame name state') :=
  gap.of_cursor rfl gap.stands.visible rfl gap.stands'.visible

theorem closeFrame (name : NonTerminalId) (gap : parser.SameGap place padded state state') :
    parser.SameGap place padded (parser.closeFrame name false state)
      ((parser.reading padded).closeFrame name false state') := by
  apply gap.of_cursor
  · exact (parser.samePlace_closeFrame name false state).cursor
  · exact closeFrame_of_visible name false gap.stands.visible
  · exact ((parser.reading padded).samePlace_closeFrame name false state').cursor
  · exact closeFrame_of_visible name false gap.stands'.visible

theorem arrive {id : ExprId} {follow : KindSet} (overlooks : parser.Overlooks place padded)
    (known : parser.grammar.Knows follow) (gap : parser.SameGap place padded state state') :
    parser.Aligned place padded (parser.arrive id follow state)
      ((parser.reading padded).arrive id follow state') := by
  have announced : parser.SameGap place padded
      (if parser.usesSets (parser.grammar.expr id) then parser.announceSets state else state)
      (if parser.usesSets (parser.grammar.expr id) then
        (parser.reading padded).announceSets state' else state') := by
    split
    · exact gap.announceSets
    · exact gap
  unfold Parser.arrive
  rw [if_pos overlooks.skipsUnknown]
  change parser.Aligned place padded _ (if parser.leniency.skipsUnknown then _ else _)
  rw [if_pos overlooks.skipsUnknown]
  apply announced.skipUpTo overlooks.pads
  simp only [overlooks.predictive.predicted, List.forall_mem_cons]
  exact ⟨known, Grammar.knows_consumableOf, Grammar.knows_firstOf, by simp⟩

theorem settle {parts : Repetition} {follow : KindSet} (overlooks : parser.Overlooks place padded)
    (known : parser.grammar.Knows follow) (gap : parser.SameGap place padded state state') :
    parser.Aligned place padded (parser.settle (parser.planRepetition parts follow) state)
      ((parser.reading padded).settle (parser.planRepetition parts follow) state') := by
  unfold Parser.settle
  rw [if_pos overlooks.skipsUnknown]
  change parser.Aligned place padded _ (if parser.leniency.skipsUnknown then _ else _)
  rw [if_pos overlooks.skipsUnknown]
  apply gap.skipUpTo overlooks.pads
  simp only [List.forall_mem_cons]
  refine ⟨overlooks.predictive.knows_afterContent known, ?_, by simp⟩
  simp only [planRepetition, overlooks.predictive.predicted]
  exact Grammar.knows_firstOf

theorem currentKind?_ne_none (pads : Pads parser.grammar place parser.document padded)
    (gap : parser.SameGap place padded state state') (more : parser.currentKind? state ≠ none) :
    (parser.reading padded).currentKind? state' ≠ none := by
  rw [gap.stands.currentKind?, ← Option.isSome_iff_ne_none, Document.kind?_isSome_iff] at more
  rw [gap.stands'.currentKind?, ← Option.isSome_iff_ne_none, Document.kind?_isSome_iff]
  have behind := gap.before more
  have inside := pads.place_lt more
  change state'.cursor < padded.size
  lia

end SameGap

namespace Aligned

variable (pads : Pads parser.grammar place parser.document padded)
  (aligned : parser.Aligned place padded state state')

include pads aligned

theorem currentKind? :
    (parser.reading padded).currentKind? state' = parser.currentKind? state := by
  rw [aligned.stands.currentKind?, aligned.stands'.currentKind?]
  change padded.kind? state'.cursor = _
  rcases Nat.lt_or_eq_of_le aligned.stands.inside with inside | ended
  · rw [aligned.at_own inside, pads.kept inside]
  · rw [Document.kind?_eq_none_iff.mpr ended.ge,
      Document.kind?_eq_none_iff.mpr (aligned.at_end ended).ge]

theorem currentId? :
    (parser.reading padded).currentId? state' = (parser.currentId? state).map place := by
  unfold Parser.currentId?
  change (if state'.cursor < padded.size then _ else _) = _
  rcases Nat.lt_or_eq_of_le aligned.stands.inside with inside | ended
  · have inside' := pads.place_lt inside
    rw [aligned.at_own inside, if_pos inside, if_pos inside', Option.map_some]
  · rw [aligned.at_end ended, ended, if_neg (Nat.lt_irrefl _), if_neg (Nat.lt_irrefl _),
      Option.map_none]

/-- From the same own token both advance into the gap behind it. -/
theorem advance {kind : TokenKind} (current : parser.currentKind? state = some kind) :
    parser.SameGap place padded (parser.advance state)
      ((parser.reading padded).advance state') := by
  have current' := (aligned.currentKind? pads).trans current
  have inside := cursor_lt_of_currentKind? current
  have inside' := cursor_lt_of_currentKind? current'
  have moved := (samePlace_advance inside).cursor
  have moved' := (samePlace_advance inside').cursor
  have unedited' : (parser.reading padded).document.hasChanges = false := pads.hasChanges'
  have here := aligned.at_own inside
  refine ⟨⟨?_, moved.trans_le inside⟩, ⟨?_, moved'.trans_le inside'⟩, fun {own} inside_own => ?_⟩
  · exact (hiddenUntil_advance_of_unedited pads.hasChanges state).trans aligned.stands.visible
  · exact (hiddenUntil_advance_of_unedited unedited' state').trans aligned.stands'.visible
  · rw [moved, moved']
    change place own < state'.cursor + 1 ↔ own < state.cursor + 1
    have behind := pads.place_lt_iff inside inside_own
    lia

omit pads in
theorem noteMissing (id : ExprId) :
    parser.SameGap place padded (parser.noteMissing id state)
      ((parser.reading padded).noteMissing id state') :=
  aligned.toSameGap.of_cursor rfl aligned.stands.visible rfl aligned.stands'.visible

end Aligned

/-! ## The next own token -/

/-- The kind of the next own token from a place of the padded document on. -/
def nextOwn? (place : TokenId → TokenId) (document : Document) (cursor : TokenId) :
    Option TokenKind :=
  ((List.range document.size).find? fun own => cursor ≤ place own).bind document.kind?

theorem SameGap.nextOwn? (gap : parser.SameGap place padded state state') :
    Parser.nextOwn? place parser.document state'.cursor = parser.currentKind? state := by
  rw [gap.stands.currentKind?, Parser.nextOwn?]
  rcases Nat.lt_or_eq_of_le gap.stands.inside with inside | ended
  · have found : (List.range parser.document.size).find?
        (fun own => decide (state'.cursor ≤ place own)) = some state.cursor := by
      rw [List.find?_range_eq_some]
      refine ⟨by have := gap.before inside; simpa using by lia, by simpa using inside, ?_⟩
      intro own before
      have := gap.before (before.trans inside)
      simp
      lia
    rw [found, Option.bind_some]
  · have none_left : (List.range parser.document.size).find?
        (fun own => decide (state'.cursor ≤ place own)) = none := by
      rw [List.find?_eq_none]
      intro own member
      have := gap.before (List.mem_range.mp member)
      have := List.mem_range.mp member
      simp
      lia
    rw [none_left, Option.bind_none, Document.kind?_eq_none_iff.mpr ended.ge]

end Parser

end Reparse
