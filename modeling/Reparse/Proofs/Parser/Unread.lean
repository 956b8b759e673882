import Reparse.Proofs.Parser.Padding

/-!
# Tokens that are not read

The descent looks at the current token and at no later one, and of a token it sees the kind only.

Main statement: `run?_aborts_alike`.
-/

namespace Reparse.Parser

variable {parser : Parser} {document : Document} {limit : TokenId}

/-- The states are at one place up to the limit, where the input is visible. -/
structure BothSeeUpTo (limit : TokenId) (state state' : ParseState) : Prop where
  sees : state.BothSee state'
  upTo : state.cursor ≤ limit

theorem bothSee_advance {parser' : Parser} {state state' : ParseState}
    (unedited : parser.document.hasChanges = false)
    (unedited' : parser'.document.hasChanges = false) (sees : state.BothSee state')
    (inside : state.cursor < parser.document.size)
    (inside' : state.cursor < parser'.document.size) :
    (parser.advance state).BothSee (parser'.advance state') := by
  have moved := samePlace_advance inside
  have moved' := samePlace_advance (sees.place.cursor.symm ▸ inside')
  constructor
  · constructor
    · rw [moved'.cursor, moved.cursor, sees.place.cursor]
    · rw [moved'.skipped, moved.skipped, sees.place.skipped]
  · exact (hiddenUntil_advance_of_unedited unedited state).trans sees.visible
  · exact (hiddenUntil_advance_of_unedited unedited' state').trans sees.visible'

/-- Documents with the same kinds up to a token have the same runs up to it. -/
theorem accords_upTo (unedited : parser.document.hasChanges = false)
    (unedited' : document.hasChanges = false)
    (kinds : ∀ id ≤ limit, document.kind? id = parser.document.kind? id)
    (inside : limit < parser.document.size) :
    parser.Accords document (BothSeeUpTo limit) fun state => state.cursor ≤ limit := by
  have inside' : limit < document.size := by
    rwa [← Document.kind?_isSome_iff, kinds limit (Nat.le_refl _), Document.kind?_isSome_iff]
  exact {
    earlier := fun precedes upTo => precedes.cursor_le.trans upTo
    ends := .inr fun upTo => ⟨upTo.trans_lt inside, upTo.trans_lt inside'⟩
    place := fun alike => alike.sees.place
    kind := by
      rintro state state' ⟨⟨place, visible, visible'⟩, upTo⟩
      simp only [currentKind?, visible, visible', place.cursor]
      exact kinds _ upTo
    told := fun alike first second =>
      ⟨bothSee_of_unmoved alike.sees first second, first.cursor.trans_le alike.upTo⟩
    advance := fun alike upTo =>
      ⟨bothSee_advance unedited unedited' alike.sees (alike.upTo.trans_lt inside)
        (alike.upTo.trans_lt inside'), upTo⟩
    skipped := fun id alike => ⟨bothSee_skipped id alike.sees, alike.upTo⟩
    openFrame := fun name alike => ⟨bothSee_openFrame name alike.sees, alike.upTo⟩
    closeFrame := fun name cutShort alike =>
      ⟨bothSee_closeFrame name cutShort alike.sees,
        (parser.samePlace_closeFrame name cutShort _).cursor.trans_le alike.upTo⟩ }

theorem Runs.finishes_aborted {depth : Nat} {start : NonTerminalId} {announced : Bool}
    {expr : ExprId} {found : Option TokenId} {after : ParseState} (predictive : parser.Predictive)
    (terminating : ¬ parser.grammar.LeftRecursive)
    (run : parser.Runs depth (.chain (parser.grammar.ruleOf start) .empty)
      (parser.startState start announced) (.stopped (.aborted expr found)) after) :
    parser.Finishes start announced
      (parser.finish (.missing expr found)
        ((parser.closeFrame start true after).note (.aborted found))) := by
  obtain ⟨_, _, finishes⟩ := run?_finishes predictive terminating start announced
  cases finishes with
  | parsed other =>
      obtain ⟨same, -⟩ := run.same_of_finite other (by simp) (by simp)
      cases same
  | aborted other =>
      obtain ⟨same, rfl⟩ := run.same_of_finite other (by simp) (by simp)
      cases same
      exact .aborted other

theorem Finishes.aborts_alike {start : NonTerminalId} {announced : Bool} {run : Parser.Run}
    {expr : ExprId} {found : TokenId} (finishes : parser.Finishes start announced run)
    (aborted : run.parse.tree = .missing expr (some found)) (announced' : Bool)
    (predictive : (parser.reading document).Predictive)
    (terminating : ¬ parser.grammar.LeftRecursive)
    (unedited : parser.document.hasChanges = false) (unedited' : document.hasChanges = false)
    (kinds : ∀ id ≤ found, document.kind? id = parser.document.kind? id) :
    ∃ run', (parser.reading document).Finishes start announced' run' ∧
      run'.parse.tree = run.parse.tree ∧ run'.parse.skipped = run.parse.skipped := by
  cases finishes with
  | parsed => cases aborted
  | @aborted expr' found' after descent =>
      cases aborted
      obtain ⟨-, place⟩ := descent.aborted_at rfl
      obtain ⟨inside, rfl⟩ : after.cursor < parser.document.size ∧ after.cursor = found := by
        simpa [currentId?] using place.symm
      have accords := accords_upTo unedited unedited' kinds inside
      have alike : BothSeeUpTo after.cursor (parser.startState start announced)
          ((parser.reading document).startState start announced') :=
        ⟨bothSee_startState .., (startState_cursor ..).trans_le (Nat.zero_le _)⟩
      obtain ⟨after', descent', alike'⟩ := accords.runs descent alike (Nat.le_refl _)
      have closed : (parser.closeFrame start true after).BothSee
          ((parser.reading document).closeFrame start true after') :=
        bothSee_closeFrame start true alike'.sees
      exact ⟨_, descent'.finishes_aborted predictive terminating, rfl, closed.place.skipped⟩

/-- A parse that the first error ends looks at no token behind the one where the error is found. -/
theorem run?_aborts_alike (grammar : Grammar) (document document' : Document)
    (skipsUnknown : Bool) (start : NonTerminalId) (announced announced' : Bool)
    (built : grammar.Built) (terminating : ¬ grammar.LeftRecursive)
    (unedited : document.changedRegion = none) (unedited' : document'.changedRegion = none)
    (last : TokenId) (kinds : ∀ id ≤ last, document'.kind? id = document.kind? id)
    {run : Parser.Run} {expr : ExprId} {found : TokenId} (within : found ≤ last)
    (parsed : Parser.run? ⟨grammar, grammar.predict, document, ⟨false, skipsUnknown⟩⟩ start
      announced = some run)
    (aborted : run.parse.tree = .missing expr (some found)) :
    ∃ run', Parser.run? ⟨grammar, grammar.predict, document', ⟨false, skipsUnknown⟩⟩ start
        announced' = some run' ∧
      run'.parse.tree = .missing expr (some found) ∧
        run'.parse.skipped = run.parse.skipped := by
  have predictive : Predictive ⟨grammar, grammar.predict, document', ⟨false, skipsUnknown⟩⟩ :=
    ⟨built.ordered, rfl⟩
  have kinds : ∀ id ≤ found, document'.kind? id = document.kind? id :=
    fun id le => kinds id (le.trans within)
  have finishes := run?_eq_some_iff.mp parsed
  obtain ⟨run', finishes', tree, skipped⟩ :=
    finishes.aborts_alike aborted announced' predictive terminating
      (by simp [Document.hasChanges, unedited]) (by simp [Document.hasChanges, unedited']) kinds
  exact ⟨run', finishes'.run?_eq, tree.trans aborted, skipped⟩

/-- A list that is not closed before a comma, with an unknown token in it, and what comes then. -/
def commaDocument (rest : List TokenKind) : Document :=
  let kinds := [0, 7, 0, 2] ++ rest
  { scanner := default
    current :=
      { source := "[ ? [ ,".toList
        tokens := (kinds.zipIdx.map fun (kind, place) => ⟨kind, ⟨2 * place, 2 * place + 1⟩⟩).toArray
        obstacle := none }
    history := none }

theorem run?_aborts_alike_commaDocument :
    ∃ run', Parser.run? ⟨Grammar.bracketLists, Grammar.bracketLists.predict,
        commaDocument [0], ⟨false, true⟩⟩ 0 true = some run' ∧
      run'.parse.tree = .missing 2 (some 3) ∧ run'.parse.skipped = [1] := by
  have first : (Parser.run? ⟨Grammar.bracketLists, Grammar.bracketLists.predict,
      commaDocument [1, 1], ⟨false, true⟩⟩ 0 false).map (fun run =>
        (run.parse.tree.isMissing, run.parse.tree.expr, run.parse.tree.ownToken?,
          run.parse.skipped)) = some (true, 2, some 3, [1]) := by
    decide +kernel
  obtain ⟨run, parsed, same⟩ := Option.map_eq_some_iff.mp first
  simp only [Prod.mk.injEq] at same
  obtain ⟨missing, expr, found, skipped⟩ := same
  have tree : run.parse.tree = .missing 2 (some 3) := by
    cases node : run.parse.tree with
    | missing => simp_all [Tree.expr, Tree.ownToken?]
    | _ => simp [node, Tree.isMissing] at missing
  have kinds : ∀ id ≤ 3, (commaDocument [0]).kind? id = (commaDocument [1, 1]).kind? id := by
    decide +kernel
  rw [← skipped]
  exact run?_aborts_alike _ _ _ true 0 false true Grammar.built_bracketLists
    Grammar.not_leftRecursive_bracketLists rfl rfl 3 kinds (Nat.le_refl _) parsed tree

end Reparse.Parser
