import Reparse.Proofs.Document.Region
import Reparse.Proofs.Parser.Hiding
import Reparse.Proofs.Parser.Steps

/-!
# The parser and the changed region

Where a parse leaves the changed region, the end of the input comes before the rest of the text
until some frame returns.  That happens once at most, and no token is passed while it lasts.
-/

namespace Reparse.Parser

variable {parser : Parser} {start : NonTerminalId} {announced : Bool}
  {state after : ParseState}

/-! ## Across the border of the changed region -/

theorem visible_of_currentKind? {kind : TokenKind}
    (current : parser.currentKind? state = some kind) : state.hiddenUntil = none := by
  unfold currentKind? at current
  split at current
  · simp at current
  · assumption

theorem inRegion_leaveRegion (parser : Parser) (state : ParseState) :
    (parser.leaveRegion state).inRegion = state.inRegion := by
  unfold leaveRegion
  split <;> rfl

theorem hiddenUntil_leaveRegion (visible : state.hiddenUntil = none) :
    (parser.leaveRegion state).hiddenUntil = boundary? state.frames state.regionStart := by
  unfold leaveRegion
  split
  · rename_i unbounded
    rw [visible, unbounded]
  · rename_i depth bounded
    simp [visible, bounded]

/-- The region is left at this place. -/
def Leaves (parser : Parser) (state : ParseState) : Prop :=
  state.cursor < parser.document.size ∧ state.inRegion = true ∧
    parser.document.isChanged state.cursor = false

/-- What the parser has seen of the changed region. -/
structure Observed (parser : Parser) (state after : ParseState) : Prop where
  region : state.cursor < parser.document.size →
    after.inRegion = parser.document.isChanged state.cursor
  ended : ¬ state.cursor < parser.document.size → after.inRegion = state.inRegion
  left : parser.Leaves state → after.hiddenUntil = boundary? state.frames state.regionStart
  stayed : ¬ parser.Leaves state → after.hiddenUntil = none

theorem observe_of_inside (edited : parser.document.hasChanges = true)
    (inside : state.cursor < parser.document.size) :
    parser.observe state =
      match state.inRegion, parser.document.isChanged state.cursor with
      | false, true =>
          { state.note (.enteringRegion (parser.shown state.cursor)) with
            inRegion := true
            regionStart := some state.cursor }
      | true, false =>
          parser.leaveRegion
            { state.note (.leavingRegion (parser.shown state.cursor)) with inRegion := false }
      | _, _ => state := by
  unfold observe currentId?
  rw [edited, if_pos inside]
  rfl

theorem observe_of_outside (outside : ¬ state.cursor < parser.document.size) :
    parser.observe state = state := by
  unfold observe currentId?
  rw [if_neg outside]
  split <;> rfl

theorem observed_observe (visible : state.hiddenUntil = none)
    (unedited : parser.document.hasChanges = false → state.inRegion = false) :
    parser.Observed state (parser.observe state) := by
  by_cases inside : state.cursor < parser.document.size
  · by_cases edited : parser.document.hasChanges = true
    · rw [observe_of_inside edited inside]
      cases region : state.inRegion <;> cases changed : parser.document.isChanged state.cursor
      case true.false =>
        constructor
        · intro _
          exact (parser.inRegion_leaveRegion _).trans changed.symm
        · exact fun outside => (outside inside).elim
        · intro _
          exact hiddenUntil_leaveRegion visible
        · exact fun stays => (stays ⟨inside, region, changed⟩).elim
      all_goals
        have stays : ¬ parser.Leaves state := by simp [Leaves, region, changed]
        constructor
        · intro _
          simp [region, changed]
        · exact fun outside => (outside inside).elim
        · exact fun leaves => (stays leaves).elim
        · intro _
          exact visible
    · have unchanged := Document.isChanged_of_unedited (by simpa using edited) state.cursor
      have outside := unedited (by simpa using edited)
      rw [observe_of_unedited (by simpa using edited)]
      constructor
      · exact fun _ => outside.trans unchanged.symm
      · exact fun _ => rfl
      · exact fun leaves => (Bool.false_ne_true (outside.symm.trans leaves.2.1)).elim
      · exact fun _ => visible
  · rw [observe_of_outside inside]
    constructor
    · exact fun there => (inside there).elim
    · exact fun _ => rfl
    · exact fun leaves => (inside leaves.1).elim
    · exact fun _ => visible

theorem observed_advance {kind : TokenKind} (current : parser.currentKind? state = some kind)
    (tracked : state.inRegion = parser.document.isChanged state.cursor) :
    parser.Observed { state with cursor := state.cursor + 1 } (parser.advance state) := by
  have visible := visible_of_currentKind? current
  unfold advance currentId?
  rw [if_pos (cursor_lt_of_currentKind? current)]
  refine observed_observe visible fun unedited => ?_
  exact tracked.trans (Document.isChanged_of_unedited unedited state.cursor)

/-! ## The frame that bounds the edit -/

theorem boundary?_lt {frames : List Frame} {regionStart : Option TokenId} {depth : Nat}
    (found : boundary? frames regionStart = some depth) : depth < frames.length := by
  unfold boundary? at found
  dsimp only at found
  split at found
  · rename_i outermost block
    obtain rfl := Option.some.inj found
    simpa using (List.findIdx?_eq_some_iff_getElem.mp block).1
  · split at found
    · simp at found
    · obtain ⟨index, entry, rfl⟩ := Option.map_eq_some_iff.mp found
      have inside := (List.findIdx?_eq_some_iff_getElem.mp entry).1
      omega

/-- A block that was entered in the region, or one around it, bounds the edit. -/
theorem exists_boundary? {inner base : List Frame} {block : Frame}
    (regionStart : Option TokenId) (member : block ∈ base) (isBlock : block.isBlock = true)
    (entered : block.entryChanged = true) :
    ∃ depth < base.length, boundary? (inner ++ base) regionStart = some depth := by
  let entersBlock : Frame → Bool := fun frame => frame.isBlock && frame.entryChanged
  have found : (base.reverse.findIdx? entersBlock).isSome = true := by
    rw [List.findIdx?_isSome, List.any_reverse, List.any_eq_true]
    exact ⟨block, member, by simp [entersBlock, isBlock, entered]⟩
  obtain ⟨depth, outermost⟩ := Option.isSome_iff_exists.mp found
  have inside : depth < base.length := by
    simpa using (List.findIdx?_eq_some_iff_getElem.mp outermost).1
  have whole : (inner ++ base).reverse.findIdx? entersBlock = some depth := by
    rw [List.reverse_append, List.findIdx?_append, outermost]
    rfl
  refine ⟨depth, inside, ?_⟩
  unfold boundary?
  simp only [entersBlock] at whole
  simp only [whole]

/-! ## What every step keeps -/

/-- The state knows where it stands to the changed region.  Hidden input is hidden until a frame
that is open, and begins right behind the region. -/
structure Tracks (parser : Parser) (state : ParseState) : Prop where
  region : state.frames ≠ [] → state.cursor < parser.document.size →
    state.inRegion = parser.document.isChanged state.cursor
  hidden : ∀ depth, state.hiddenUntil = some depth →
    depth < state.frames.length ∧ parser.document.FirstAfterRegion state.cursor

theorem Tracks.of_visible (visible : state.hiddenUntil = none)
    (region : state.frames ≠ [] → state.cursor < parser.document.size →
      state.inRegion = parser.document.isChanged state.cursor) : parser.Tracks state where
  region := region
  hidden depth hidden := by simp [visible] at hidden

theorem Tracks.visible_of_closed (tracks : parser.Tracks state) (closed : state.frames = []) :
    state.hiddenUntil = none := by
  cases hidden : state.hiddenUntil with
  | none => rfl
  | some depth =>
      have inside := (tracks.hidden depth hidden).1
      simp [closed] at inside

theorem Tracks.tracked {kind : TokenKind} (tracks : parser.Tracks state)
    (underWay : state.frames ≠ []) (current : parser.currentKind? state = some kind) :
    state.inRegion = parser.document.isChanged state.cursor :=
  tracks.region underWay (cursor_lt_of_currentKind? current)

theorem cursor_advance {kind : TokenKind} (current : parser.currentKind? state = some kind) :
    (parser.advance state).cursor = state.cursor + 1 :=
  (samePlace_advance (cursor_lt_of_currentKind? current)).cursor

theorem Tracks.advance {kind : TokenKind} (tracks : parser.Tracks state)
    (scanned : parser.document.Scanned) (underWay : state.frames ≠ [])
    (current : parser.currentKind? state = some kind) : parser.Tracks (parser.advance state) := by
  have tracked := tracks.tracked underWay current
  have observed := observed_advance current tracked
  have cursor := cursor_advance current
  constructor
  · intro _ inside
    rw [cursor] at inside ⊢
    exact observed.region inside
  · intro depth hidden
    by_cases leaves : parser.Leaves { state with cursor := state.cursor + 1 }
    · obtain ⟨inside, region, unchanged⟩ := leaves
      rw [observed.left ⟨inside, region, unchanged⟩] at hidden
      rw [frames_advance, cursor]
      refine ⟨boundary?_lt hidden, ?_⟩
      exact scanned.firstAfterRegion (tracked.symm.trans region) inside unchanged
    · rw [observed.stayed leaves] at hidden
      simp at hidden

theorem inRegion_closeFrame (parser : Parser) (name : NonTerminalId) (cutShort : Bool)
    (state : ParseState) :
    (parser.closeFrame name cutShort state).inRegion = state.inRegion := by
  unfold closeFrame
  dsimp only
  split <;> rfl

/-- Where a frame returns, the input is visible again unless it is hidden until an outer one
does. -/
theorem hiddenUntil_closeFrame (parser : Parser) (name : NonTerminalId) (cutShort : Bool)
    (state : ParseState) :
    (parser.closeFrame name cutShort state).hiddenUntil =
      state.hiddenUntil.filter (· < state.frames.tail.length) := by
  unfold closeFrame
  cases hidden : state.hiddenUntil with
  | none => simp [ParseState.note]
  | some depth =>
      by_cases returned : state.frames.tail.length ≤ depth
      · have lifted : ¬ depth < state.frames.tail.length := Nat.not_lt.mpr returned
        simp only [ParseState.note, Option.any_some, decide_eq_true_eq, if_pos returned,
          Option.filter_some, if_neg lifted]
      · have lasts : depth < state.frames.tail.length := Nat.lt_of_not_le returned
        simp only [ParseState.note, Option.any_some, decide_eq_true_eq, if_neg returned,
          Option.filter_some, if_pos lasts]

theorem observed_initial (parser : Parser) (announced : Bool) :
    parser.Observed (.initial announced) (parser.observe (.initial announced)) :=
  observed_observe rfl fun _ => rfl

theorem hiddenUntil_observe_initial (parser : Parser) (announced : Bool) :
    (parser.observe (.initial announced)).hiddenUntil = none :=
  hiddenUntil_observe_of_outside rfl

theorem Tracks.of_unmoved (tracks : parser.Tracks state) (unmoved : state.Unmoved after) :
    parser.Tracks after := by
  obtain ⟨log, announced, rfl⟩ := unmoved_iff.mp unmoved
  exact ⟨tracks.region, tracks.hidden⟩

theorem Tracks.openFrame (tracks : parser.Tracks state) (underWay : state.frames ≠ [])
    (name : NonTerminalId) : parser.Tracks (parser.openFrame name state) where
  region _ inside := tracks.region underWay inside
  hidden depth hidden := by
    obtain ⟨inside, first⟩ := tracks.hidden depth hidden
    exact ⟨Nat.lt_succ_of_lt inside, first⟩

theorem Tracks.closeFrame (tracks : parser.Tracks state) (name : NonTerminalId)
    (cutShort : Bool) : parser.Tracks (parser.closeFrame name cutShort state) := by
  have cursor := (parser.samePlace_closeFrame name cutShort state).cursor
  constructor
  · intro underWay inside
    rw [frames_closeFrame] at underWay
    rw [cursor] at inside ⊢
    rw [inRegion_closeFrame]
    exact tracks.region (fun closed => underWay (by rw [closed, List.tail_nil])) inside
  · intro depth hidden
    rw [hiddenUntil_closeFrame, Option.filter_eq_some_iff, decide_eq_true_eq] at hidden
    rw [frames_closeFrame, cursor]
    exact ⟨hidden.2, (tracks.hidden depth hidden.1).2⟩

theorem Step.tracks (step : parser.Step start state after) (scanned : parser.document.Scanned)
    (tracks : parser.Tracks state) : parser.Tracks after := by
  cases step with
  | observes announced =>
      refine .of_visible (parser.hiddenUntil_observe_initial announced) fun underWay => ?_
      exact (underWay (parser.frames_observe _)).elim
  | starts announced =>
      have visible : (parser.startState start announced).hiddenUntil = none :=
        parser.hiddenUntil_observe_initial announced
      have begins := parser.startState_cursor start announced
      refine .of_visible visible fun _ inside => ?_
      rw [begins] at inside ⊢
      exact (parser.observed_initial announced).region inside
  | tells unmoved => exact tracks.of_unmoved unmoved
  | takes underWay current => exact tracks.advance scanned underWay current
  | skips underWay _ current =>
      have advanced := tracks.advance scanned underWay current
      exact ⟨advanced.region, advanced.hidden⟩
  | enters underWay => exact tracks.openFrame underWay _
  | returns cutShort => exact tracks.closeFrame _ cutShort
  | trails closed =>
      have visible : (parser.skipTrailing state).hiddenUntil = none :=
        tracks.visible_of_closed closed
      exact .of_visible visible fun underWay => (underWay closed).elim

theorem Tracks.along (tracks : parser.Tracks state) (scanned : parser.document.Scanned)
    (path : Relation.ReflTransGen (parser.Step start) state after) : parser.Tracks after := by
  induction path with
  | refl => exact tracks
  | tail _ step induction => exact step.tracks scanned induction

theorem Reachable.tracks (reachable : parser.Reachable start announced state)
    (scanned : parser.document.Scanned) : parser.Tracks state := by
  have begins : parser.Tracks (.initial announced) :=
    .of_visible rfl fun underWay => (underWay rfl).elim
  exact begins.along scanned reachable

/-! ## While the input is hidden -/

/-- A step while the input is hidden until a frame returns.  Frames are counted from the outermost
one. -/
structure Waits (depth : Nat) (state after : ParseState) : Prop where
  cursor : after.cursor = state.cursor
  frames : after.frames = state.frames ∨ ∃ frame, state.frames = frame :: after.frames
  hidden : after.hiddenUntil = if depth < after.frames.length then some depth else none

theorem not_currentKind?_of_hidden {depth : Nat} {kind : TokenKind}
    (hidden : state.hiddenUntil = some depth) : parser.currentKind? state ≠ some kind := by
  intro current
  simp [visible_of_currentKind? current] at hidden

/-- Hidden input is shown where the frame returns that bounds the edit, and nothing moves before. -/
theorem Step.of_hidden {depth : Nat} (step : parser.Step start state after)
    (tracks : parser.Tracks state) (hidden : state.hiddenUntil = some depth) :
    Waits depth state after := by
  have inside := (tracks.hidden depth hidden).1
  cases step with
  | observes => cases hidden
  | starts announced => simp [hiddenUntil_observe_initial] at hidden
  | tells unmoved =>
      obtain ⟨log, announced, rfl⟩ := unmoved_iff.mp unmoved
      exact ⟨rfl, .inl rfl, hidden.trans (if_pos inside).symm⟩
  | takes _ current | skips _ _ current => exact (not_currentKind?_of_hidden hidden current).elim
  | enters _ starts =>
      obtain ⟨kind, current, -⟩ := at?_iff.mp starts
      exact (not_currentKind?_of_hidden hidden current).elim
  | @returns _ frame rest cutShort frames =>
      have tail : (parser.closeFrame frame.nonTerminal cutShort state).frames = rest := by
        rw [frames_closeFrame, frames, List.tail_cons]
      constructor
      · exact (parser.samePlace_closeFrame _ cutShort state).cursor
      · exact .inr ⟨frame, by rw [tail, frames]⟩
      · rw [tail, hiddenUntil_closeFrame, hidden, frames, List.tail_cons, Option.filter_some]
        simp only [decide_eq_true_eq]
  | trails closed => simp [closed] at inside

/-! ## Where the input becomes hidden -/

theorem Step.cursor_le (step : parser.Step start state after) : state.cursor ≤ after.cursor := by
  cases step with
  | observes => exact Nat.zero_le _
  | starts announced => exact Nat.le_refl _
  | tells unmoved => exact unmoved.cursor.ge
  | takes _ current => exact (cursor_advance current).symm ▸ Nat.le_succ _
  | skips _ _ current =>
      exact (samePlace_skip (cursor_lt_of_currentKind? current)).cursor.symm ▸ Nat.le_succ _
  | enters => exact Nat.le_refl _
  | returns cutShort => exact (parser.samePlace_closeFrame _ cutShort state).cursor.ge
  | trails => exact Nat.le_succ _

theorem cursor_le_of_path (path : Relation.ReflTransGen (parser.Step start) state after) :
    state.cursor ≤ after.cursor := by
  induction path with
  | refl => exact Nat.le_refl _
  | tail _ step induction => exact induction.trans step.cursor_le

/-- The input becomes hidden by the step of some state. -/
def Hides (parser : Parser) (start : NonTerminalId) (state after : ParseState) : Prop :=
  parser.Step start state after ∧ state.hiddenUntil = none ∧ after.hiddenUntil ≠ none

/-- Input becomes hidden where a token is passed. -/
theorem Hides.cursor (hides : parser.Hides start state after) :
    after.cursor = state.cursor + 1 := by
  obtain ⟨step, visible, hidden⟩ := hides
  cases step with
  | observes => exact (hidden (parser.hiddenUntil_observe_initial _)).elim
  | starts | enters | trails => exact (hidden visible).elim
  | tells unmoved =>
      obtain ⟨log, announced, rfl⟩ := unmoved_iff.mp unmoved
      exact (hidden visible).elim
  | takes _ current => exact cursor_advance current
  | skips _ _ current => exact (samePlace_skip (cursor_lt_of_currentKind? current)).cursor
  | returns cutShort => exact (hidden (closeFrame_of_visible _ cutShort visible)).elim

theorem Hides.firstAfterRegion (hides : parser.Hides start state after)
    (scanned : parser.document.Scanned) (tracks : parser.Tracks state) :
    parser.document.FirstAfterRegion after.cursor := by
  obtain ⟨step, -, hidden⟩ := hides
  obtain ⟨depth, until'⟩ := Option.ne_none_iff_exists'.mp hidden
  exact ((step.tracks scanned tracks).hidden depth until').2

/-- The input is hidden at one place of the text, which the parser reaches once. -/
theorem hides_once {later last : ParseState} (hides : parser.Hides start state after)
    (scanned : parser.document.Scanned) (tracks : parser.Tracks state)
    (path : Relation.ReflTransGen (parser.Step start) after later) :
    ¬ parser.Hides start later last := by
  intro again
  have tracks' := (hides.1.tracks scanned tracks).along scanned path
  have place := hides.firstAfterRegion scanned tracks
  have place' := again.firstAfterRegion scanned tracks'
  have same : after.cursor = last.cursor := place.unique place'
  have le := cursor_le_of_path path
  have next := again.cursor
  lia

end Reparse.Parser
