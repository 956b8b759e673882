import Reparse.Proofs.Parser.Acceptance
import Reparse.Proofs.Parser.Simulation

/-!
# Parses that hide nothing

Edits have an influence on a parse only where the end of the input is put before the rest of the
text, and that is always told.
-/

namespace Reparse

/-- The event does not tell that the rest of the input is hidden. -/
def Event.HidesNothing (event : Event) : Prop := ∀ rule, event ≠ .endUntil rule

/-- The states are at one place, where the input is visible. -/
structure ParseState.BothSee (state state' : ParseState) : Prop where
  place : state.SamePlace state'
  visible : state.hiddenUntil = none
  visible' : state'.hiddenUntil = none

/-- What is visible stays so, or it is told that it is hidden. -/
def ParseState.ShowsOrTells (state after : ParseState) : Prop :=
  after.hiddenUntil = state.hiddenUntil ∨ ∃ rule, .endUntil rule ∈ after.log

theorem ParseState.ShowsOrTells.visible {state after : ParseState}
    (shows : state.ShowsOrTells after) (visible : state.hiddenUntil = none)
    (untold : ∀ event ∈ after.log, event.HidesNothing) :
    after.hiddenUntil = none := by
  rcases shows with same | ⟨rule, told⟩
  · exact same.trans visible
  · exact (untold _ told rule rfl).elim

namespace Parser

variable {parser : Parser} {state after : ParseState}

theorem showsOrTells_leaveRegion (parser : Parser) (state : ParseState) :
    state.ShowsOrTells (parser.leaveRegion state) := by
  unfold leaveRegion
  split
  · exact .inl rfl
  · exact .inr ⟨_, Array.mem_push_self ..⟩

theorem hiddenUntil_observe_of_outside (outside : state.inRegion = false) :
    (parser.observe state).hiddenUntil = state.hiddenUntil := by
  unfold observe
  rw [outside]
  repeat' split
  all_goals first | rfl | simp_all

theorem showsOrTells_observe (parser : Parser) (state : ParseState) :
    state.ShowsOrTells (parser.observe state) := by
  unfold observe
  repeat' split
  · exact .inl rfl
  · exact .inl rfl
  · exact .inl rfl
  · exact parser.showsOrTells_leaveRegion _
  · exact .inl rfl

theorem showsOrTells_advance (parser : Parser) (state : ParseState) :
    state.ShowsOrTells (parser.advance state) := by
  unfold advance
  split
  · exact parser.showsOrTells_observe state
  · exact parser.showsOrTells_observe { state with cursor := state.cursor + 1 }

theorem samePlace_advance_of_size {parser' : Parser} {state' : ParseState}
    (size : parser'.document.size = parser.document.size) (place : state.SamePlace state') :
    (parser.advance state).SamePlace (parser'.advance state') := by
  by_cases inside : state.cursor < parser.document.size
  · have inside' : state'.cursor < parser'.document.size := by rwa [place.cursor, size]
    have moved := samePlace_advance inside
    have moved' := samePlace_advance inside'
    constructor
    · rw [moved'.cursor, moved.cursor, place.cursor]
    · rw [moved'.skipped, moved.skipped, place.skipped]
  · have outside' : ¬ state'.cursor < parser'.document.size := by rwa [place.cursor, size]
    unfold advance currentId?
    rw [if_neg inside, if_neg outside']
    have stays := parser.samePlace_observe state
    have stays' := parser'.samePlace_observe state'
    constructor
    · rw [stays'.cursor, stays.cursor, place.cursor]
    · rw [stays'.skipped, stays.skipped, place.skipped]

theorem hiddenUntil_advance_of_unedited (unedited : parser.document.hasChanges = false)
    (state : ParseState) : (parser.advance state).hiddenUntil = state.hiddenUntil := by
  unfold advance
  split <;> rw [observe_of_unedited unedited]

theorem closeFrame_of_visible (name : NonTerminalId) (cutShort : Bool)
    (visible : state.hiddenUntil = none) :
    (parser.closeFrame name cutShort state).hiddenUntil = none := by
  simp [closeFrame, visible, ParseState.note]

section BothSee

variable {parser' : Parser} {state' : ParseState}

theorem bothSee_of_unmoved {after' : ParseState} (sees : state.BothSee state')
    (first : state.Unmoved after) (second : state'.Unmoved after') : after.BothSee after' := by
  obtain ⟨log, announced, rfl⟩ := unmoved_iff.mp first
  obtain ⟨log', announced', rfl⟩ := unmoved_iff.mp second
  exact ⟨⟨sees.place.cursor, sees.place.skipped⟩, sees.visible, sees.visible'⟩

theorem bothSee_skipped (id : TokenId) (sees : state.BothSee state') :
    ParseState.BothSee { state with skipped := state.skipped ++ [id] }
      { state' with skipped := state'.skipped ++ [id] } :=
  ⟨⟨sees.place.cursor, congrArg (· ++ [id]) sees.place.skipped⟩, sees.visible, sees.visible'⟩

theorem bothSee_openFrame (name : NonTerminalId) (sees : state.BothSee state') :
    (parser.openFrame name state).BothSee (parser'.openFrame name state') :=
  ⟨⟨sees.place.cursor, sees.place.skipped⟩, sees.visible, sees.visible'⟩

theorem bothSee_closeFrame (name : NonTerminalId) (cutShort : Bool) (sees : state.BothSee state') :
    (parser.closeFrame name cutShort state).BothSee
      (parser'.closeFrame name cutShort state') := by
  have closed := parser.samePlace_closeFrame name cutShort state
  have closed' := parser'.samePlace_closeFrame name cutShort state'
  refine ⟨⟨?_, ?_⟩, closeFrame_of_visible _ _ sees.visible, closeFrame_of_visible _ _ sees.visible'⟩
  · rw [closed'.cursor, closed.cursor, sees.place.cursor]
  · rw [closed'.skipped, closed.skipped, sees.place.skipped]

theorem bothSee_startState (parser parser' : Parser) (start : NonTerminalId)
    (announced announced' : Bool) :
    (parser.startState start announced).BothSee (parser'.startState start announced') := by
  have place := parser.samePlace_observe (.initial announced)
  have place' := parser'.samePlace_observe (.initial announced')
  refine ⟨⟨place'.cursor.trans place.cursor.symm, place'.skipped.trans place.skipped.symm⟩, ?_, ?_⟩
  · exact hiddenUntil_observe_of_outside rfl
  · exact hiddenUntil_observe_of_outside rfl

end BothSee

theorem simulates_forgetEdits (parser : Parser) :
    parser.Simulates parser.document.forgetEdits ParseState.BothSee Event.HidesNothing where
  size := rfl
  place := ParseState.BothSee.place
  kind := by
    rintro state state' ⟨place, visible, visible'⟩
    simp only [currentKind?, visible, visible', place.cursor]
    rfl
  told := bothSee_of_unmoved
  advance := by
    rintro state state' ⟨place, visible, visible'⟩ untold
    refine ⟨samePlace_advance_of_size rfl place, ?_, ?_⟩
    · exact (parser.showsOrTells_advance state).visible visible untold
    · exact (hiddenUntil_advance_of_unedited rfl state').trans visible'
  skipped := bothSee_skipped
  openFrame := bothSee_openFrame
  closeFrame := bothSee_closeFrame

/-- A parse that tells of no hidden input is the parse of the text alone. -/
theorem Finishes.forgetEdits {start : NonTerminalId} {announced : Bool} {run : Parser.Run}
    (announced' : Bool) (finishes : parser.Finishes start announced run)
    (untold : ∀ event ∈ run.log, event.HidesNothing) :
    ∃ run', (parser.reading parser.document.forgetEdits).Finishes start announced' run' ∧
      run'.parse.tree = run.parse.tree ∧ run'.parse.skipped = run.parse.skipped := by
  exact parser.simulates_forgetEdits.finishes (bothSee_startState ..) finishes untold

end Parser

end Reparse
