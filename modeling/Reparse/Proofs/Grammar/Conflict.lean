import Mathlib.Tactic.IntervalCases
import Reparse.Proofs.Grammar.Derivation
import Reparse.Proofs.Grammar.LeftRecursion

/-!
# Grammars without conflicts

In a grammar without conflicts the current token tells at every place how a derivation goes on.

Main statements: `Derives.covers` and `ConflictFree.not_follows`.
-/

namespace Reparse.Grammar

/-- The conditions under which one token is enough to choose. -/
structure ConflictFree (grammar : Grammar) (start : NonTerminalId) : Prop where
  branchesDisjoint : ∀ {place : Place} {id : ExprId} {branches : List ExprId},
    Occurs grammar start place id → (grammar.expr id).element = .alternation branches →
    ∀ branch ∈ branches, ∀ other ∈ branches, branch ≠ other →
    ∀ kind ∈ (grammar.predict.firstOf branch).tokens,
      ¬ kind ∈ (grammar.predict.firstOf other).tokens
  branchesApart : ∀ {place : Place} {id : ExprId} {branches : List ExprId},
    Occurs grammar start place id → (grammar.expr id).element = .alternation branches →
    (∃ branch ∈ branches, (grammar.predict.firstOf branch).nullable = true) →
    ∀ branch ∈ branches, ∀ kind ∈ (grammar.predict.firstOf branch).tokens,
      ¬ Follows grammar start (.element place) kind
  optionalApart : ∀ {place : Place} {id inner : ExprId},
    Occurs grammar start place id → (grammar.expr id).element = .optional inner →
    ∀ kind ∈ (grammar.predict.firstOf inner).tokens, ¬ Follows grammar start (.element place) kind
  contentNotNullable : ∀ {place : Place} {id : ExprId} {parts : Repetition},
    Occurs grammar start place id → (grammar.expr id).element = .repetition parts →
    (grammar.predict.firstOf parts.content).nullable = false
  partsDisjoint : ∀ {place : Place} {id : ExprId} {parts : Repetition},
    Occurs grammar start place id → (grammar.expr id).element = .repetition parts →
    ∀ kind ∈ (grammar.predict.firstOf parts.content).tokens,
      ¬ kind ∈ (grammar.predict.firstOf parts.separator).tokens
  contentApart : ∀ {place : Place} {id : ExprId} {parts : Repetition},
    Occurs grammar start place id → (grammar.expr id).element = .repetition parts →
    ∀ kind ∈ (grammar.predict.firstOf parts.content).tokens,
      ¬ Follows grammar start (.element place) kind
  separatorApart : ∀ {place : Place} {id : ExprId} {parts : Repetition},
    Occurs grammar start place id → (grammar.expr id).element = .repetition parts →
    ∀ kind ∈ (grammar.predict.firstOf parts.separator).tokens,
      ¬ Follows grammar start (.element place) kind

def phraseFirst (grammar : Grammar) : Phrase → FirstSet
  | .chain id => grammar.predict.firstOf id
  | .element own => grammar.startOf own
  | .contents parts => bodyFirst grammar.predict.toPredictionSets parts

/-- The phrase stands at a place, an element or the contents of a repetition at the start of the
chain there. -/
def At (grammar : Grammar) (start : NonTerminalId) (place : Place) : Phrase → Prop
  | .chain id => Occurs grammar start place id
  | .element own => ∃ id, Occurs grammar start place id ∧ (grammar.expr id).element = own
  | .contents parts =>
      ∃ id, Occurs grammar start place id ∧ (grammar.expr id).element = .repetition parts

/-- A first set covers a word if it holds its first kind, or the empty match for the empty word. -/
def Covers (first : FirstSet) : List TokenKind → Prop
  | [] => first.nullable = true
  | kind :: _ => kind ∈ first.tokens

theorem Covers.andThen
    {first second : FirstSet} {word rest : List TokenKind}
    (covers : Covers first word) (later : Covers second rest) :
    Covers (first.andThen second) (word ++ rest) := by
  cases word with
  | nil =>
      cases rest with
      | nil =>
          simp only [Covers] at covers later
          simp [Covers, covers, later]
      | cons kind rest => exact FirstSet.mem_andThen.mpr (.inr ⟨covers, later⟩)
  | cons kind word => exact FirstSet.mem_andThen.mpr (.inl covers)

theorem Covers.mono
    {first second : FirstSet} {word : List TokenKind} (covers : Covers first word)
    (below : first.Below second) : Covers second word := by
  cases word with
  | nil => exact below.nullable covers
  | cons kind word => exact below.tokens kind covers

variable {grammar : Grammar} {start : NonTerminalId} {place : Place} {phrase : Phrase}
  {word : List TokenKind}

theorem Covers.exists_cons {first : FirstSet} (covers : Covers first word)
    (full : first.nullable = false) : ∃ kind rest, word = kind :: rest ∧ kind ∈ first.tokens := by
  cases word with
  | nil => exact (Bool.false_ne_true (full.symm.trans covers)).elim
  | cons kind rest => exact ⟨kind, rest, rfl, covers⟩

theorem Derives.covers
    (derives : grammar.Derives phrase word) (ordered : grammar.Ordered)
    (conflictFree : grammar.ConflictFree start) (at_ : grammar.At start place phrase) :
    Covers (grammar.phraseFirst phrase) word := by
  induction derives generalizing place with
  | last last _ element =>
      rw [phraseFirst, firstOf_of_last (at_.inside ordered) last]
      exact element ⟨_, at_, rfl⟩
  | cons following _ _ element rest =>
      rw [phraseFirst, firstOf_of_next (at_.inside ordered) following]
      exact (element ⟨_, at_, rfl⟩).andThen (rest (at_.next following))
  | token => simp [Covers, phraseFirst, startOf]
  | nonTerminal _ rule =>
      obtain ⟨id, occurs, found⟩ := at_
      exact rule (occurs.rule found)
  | empty => rfl
  | optional _ inner =>
      obtain ⟨id, occurs, found⟩ := at_
      exact (inner (occurs.inner found)).mono ⟨fun _ starts => starts, fun _ => rfl⟩
  | optionalAbsent => rfl
  | alternation member _ branch =>
      obtain ⟨id, occurs, found⟩ := at_
      refine (branch (occurs.branch found member)).mono ⟨fun kind starts => ?_, fun nullable => ?_⟩
      · rw [phraseFirst, startOf, mem_elementFirst_alternation]
        exact ⟨_, member, starts⟩
      · rw [phraseFirst, startOf, nullable_elementFirst_alternation]
        exact ⟨_, member, nullable⟩
  | @unled parts word optional _ contents =>
      rw [phraseFirst, startOf, elementFirst_repetition, repetitionFirst_eq, ← List.nil_append word]
      have lead : Covers (leadFirst grammar.predict.toPredictionSets parts) [] :=
        nullable_leadFirst.mpr fun required => (optional required).elim
      exact lead.andThen (contents at_)
  | @led parts separator contents allowed _ _ separatorCovers contentsCovers =>
      obtain ⟨id, occurs, found⟩ := at_
      rw [phraseFirst, startOf, elementFirst_repetition, repetitionFirst_eq]
      have lead : Covers (leadFirst grammar.predict.toPredictionSets parts) separator := by
        refine (separatorCovers (occurs.separator found)).mono ⟨fun kind starts => ?_, ?_⟩
        · exact mem_leadFirst.mpr ⟨allowed, starts⟩
        · exact fun nullable => nullable_leadFirst.mpr fun _ => nullable
      exact lead.andThen (contentsCovers ⟨id, occurs, found⟩)
  | content _ _ content =>
      obtain ⟨id, occurs, found⟩ := at_
      obtain ⟨kind, rest, rfl, starts⟩ :=
        (content (occurs.content found)).exists_cons (conflictFree.contentNotNullable occurs found)
      exact FirstSet.mem_andThen.mpr (.inl starts)
  | trailing _ _ _ content separator =>
      obtain ⟨id, occurs, found⟩ := at_
      exact (content (occurs.content found)).andThen (separator (occurs.separator found))
  | separated _ _ _ content =>
      obtain ⟨id, occurs, found⟩ := at_
      obtain ⟨kind, rest, rfl, starts⟩ :=
        (content (occurs.content found)).exists_cons (conflictFree.contentNotNullable occurs found)
      exact FirstSet.mem_andThen.mpr (.inl starts)

theorem ConflictFree.contents_starts
    (conflictFree : grammar.ConflictFree start) {id : ExprId} {parts : Repetition}
    (occurs : grammar.Occurs start place id)
    (found : (grammar.expr id).element = .repetition parts)
    (covers : Covers (grammar.phraseFirst (.contents parts)) word) :
    ∃ kind rest, word = kind :: rest ∧ kind ∈ (grammar.predict.firstOf parts.content).tokens := by
  have full := conflictFree.contentNotNullable occurs found
  cases word with
  | nil =>
      simp only [Covers, phraseFirst, bodyFirst, FirstSet.nullable_andThen, Bool.and_eq_true]
        at covers
      exact (Bool.false_ne_true (full.symm.trans covers.1)).elim
  | cons kind rest =>
      refine ⟨kind, rest, rfl, (FirstSet.mem_andThen.mp covers).resolve_right fun later => ?_⟩
      exact Bool.false_ne_true (full.symm.trans later.1)

theorem ConflictFree.not_followsElement
    (conflictFree : grammar.ConflictFree start) {id : ExprId} {kind : TokenKind}
    {sets : PredictionSets} (below : sets.Below grammar.predict.toPredictionSets)
    (rules : ∀ name, (grammar.expr id).element = .nonTerminal name →
      kind ∈ (sets.firstOf (grammar.ruleOf name)).tokens →
      (grammar.predict.firstOf (grammar.ruleOf name)).nullable = true →
      ¬ grammar.Follows start (.rule name) kind)
    (occurs : grammar.Occurs start place id)
    (starts : kind ∈ (grammar.elementFirst sets (grammar.expr id).element).tokens)
    (nullable : (grammar.startOf (grammar.expr id).element).nullable = true) :
    ¬ grammar.Follows start (.element place) kind := by
  cases found : (grammar.expr id).element with
  | token own => simp [found, startOf] at nullable
  | nonTerminal name =>
      rw [found] at starts nullable
      exact fun follows => rules name found starts nullable (.rule occurs found follows)
  | empty => simp [found] at starts
  | optional inner =>
      rw [found] at starts
      exact conflictFree.optionalApart occurs found kind ((below.firstOf inner).tokens kind starts)
  | alternation branches =>
      rw [found, mem_elementFirst_alternation] at starts
      rw [found, startOf, nullable_elementFirst_alternation] at nullable
      obtain ⟨branch, member, starts⟩ := starts
      exact conflictFree.branchesApart occurs found nullable branch member kind
        ((below.firstOf branch).tokens kind starts)
  | repetition parts =>
      rw [found, startOf, elementFirst_repetition, nullable_repetitionFirst,
        conflictFree.contentNotNullable occurs found] at nullable
      simp at nullable

/-- A kind that starts a chain does not come after it where the chain can match nothing. -/
def Apart (grammar : Grammar) (start : NonTerminalId) : Fact → Prop
  | .starts id kind => ∀ place, grammar.Occurs start place id →
      (grammar.predict.firstOf id).nullable = true → ¬ grammar.Follows start place kind
  | _ => True

theorem ConflictFree.apart_of_entails
    (conflictFree : grammar.ConflictFree start) {sets : PredictionSets}
    (below : sets.Below grammar.predict.toPredictionSets)
    (earlier : ∀ fact, sets.Knows fact → grammar.Apart start fact) {fact : Fact}
    (inside : fact.expr < grammar.exprs.size) (entailed : grammar.Entails sets fact) :
    grammar.Apart start fact := by
  cases fact with
  | vanishes | consumes => trivial
  | starts id kind =>
      intro place occurs nullable follows
      have rules : ∀ name, (grammar.expr id).element = .nonTerminal name →
          kind ∈ (sets.firstOf (grammar.ruleOf name)).tokens →
          (grammar.predict.firstOf (grammar.ruleOf name)).nullable = true →
          ¬ grammar.Follows start (.rule name) kind :=
        fun name found starts nullable =>
          earlier (.starts _ kind) starts _ (occurs.rule found) nullable
      change id < grammar.exprs.size at inside
      change kind ∈ (grammar.chainFirst sets (grammar.expr id)).tokens at entailed
      unfold chainFirst at entailed
      cases following : (grammar.expr id).next with
      | none =>
          rw [following] at entailed
          rw [firstOf_of_last inside following] at nullable
          exact conflictFree.not_followsElement below rules occurs entailed nullable
            (.last occurs following follows)
      | some next =>
          rw [firstOf_of_next inside following, FirstSet.nullable_andThen, Bool.and_eq_true]
            at nullable
          rw [following, FirstSet.mem_andThen] at entailed
          rcases entailed with own | ⟨_, later⟩
          · exact conflictFree.not_followsElement below rules occurs own nullable.1
              (.vanishes occurs following nullable.2 follows)
          · exact earlier (.starts next kind) later _ (occurs.next following) nullable.2
              (.next follows)

/-- What starts a chain that can match nothing does not come after it. -/
theorem ConflictFree.not_follows
    (conflictFree : grammar.ConflictFree start) {id : ExprId} {kind : TokenKind}
    (occurs : grammar.Occurs start place id)
    (starts : kind ∈ (grammar.predict.firstOf id).tokens)
    (nullable : (grammar.predict.firstOf id).nullable = true) :
    ¬ grammar.Follows start place kind := by
  have apart : grammar.Apart start (.starts id kind) :=
    knows_induction (grammar.Apart start)
      (fun sets below earlier fact inside entailed =>
        conflictFree.apart_of_entails below earlier inside entailed) starts
  exact apart place occurs nullable

/-! ## Lists in brackets -/

/-- The only choices in the rule of lists are whether there are any lists in the brackets and how
the repetition of these goes on. -/
theorem choices_bracketLists (id : ExprId) :
    (∀ branches, (bracketLists.expr id).element ≠ .alternation branches) ∧
      (∀ inner, (bracketLists.expr id).element = .optional inner → (id = 6 ∨ id = 7) ∧ inner = 5) ∧
      ∀ parts, (bracketLists.expr id).element = .repetition parts →
        id = 5 ∧ parts = ⟨4, 3, .prohibited, .optional⟩ := by
  by_cases inside : id < 9
  · interval_cases id <;> simp [expr, exprs_bracketLists, eq_comm]
  · have outside : bracketLists.expr id = ⟨.empty, none⟩ :=
      expr_of_size_le (by rw [exprs_bracketLists]; exact Nat.le_of_not_lt inside)
    simp [outside]

theorem next_bracketLists {id next : ExprId}
    (following : (bracketLists.expr id).next = some next) :
    id = 7 ∧ next = 2 ∨ id = 8 ∧ next = 7 := by
  by_cases inside : id < 9
  · interval_cases id <;> simp_all [expr, exprs_bracketLists]
  · have outside : bracketLists.expr id = ⟨.empty, none⟩ :=
      expr_of_size_le (by rw [exprs_bracketLists]; exact Nat.le_of_not_lt inside)
    simp [outside] at following

theorem follows_bracketLists {place : Place} {kind : TokenKind}
    (occurs : Occurs bracketLists 0 place 7)
    (follows : Follows bracketLists 0 (.element place) kind) : kind = 1 := by
  have following : (bracketLists.expr 7).next = some 2 := by simp [expr, exprs_bracketLists]
  have closes : bracketLists.predict.firstOf 2 = .ofKind 1 := by decide +kernel
  cases follows with
  | starts occurs' following' starts =>
      obtain rfl := occurs.unique occurs'
      obtain rfl := Option.some.inj (following.symm.trans following')
      simpa [closes] using starts
  | vanishes occurs' following' nullable =>
      obtain rfl := occurs.unique occurs'
      obtain rfl := Option.some.inj (following.symm.trans following')
      simp [closes] at nullable
  | last occurs' last =>
      obtain rfl := occurs.unique occurs'
      simp [following] at last

theorem occurs_bracketLists {place : Place} {id : ExprId}
    (occurs : Occurs bracketLists 0 place id) :
    id ≠ 6 ∧ (id = 5 → ∃ outer, place = .inner outer ∧ Occurs bracketLists 0 outer 7) := by
  induction occurs with
  | start => rcases ruleOf_bracketLists 0 with rule | rule <;> simp [rule]
  | @rule _ _ name => rcases ruleOf_bracketLists name with rule | rule <;> simp [rule]
  | next _ following => rcases next_bracketLists following with found | found <;> simp [found]
  | inner occurs found known =>
      obtain ⟨outer, rfl⟩ := (choices_bracketLists _).2.1 _ found
      obtain rfl := outer.resolve_left known.1
      exact ⟨by decide, fun _ => ⟨_, rfl, occurs⟩⟩
  | branch _ found => exact ((choices_bracketLists _).1 _ found).elim
  | content _ found => simp [((choices_bracketLists _).2.2 _ found).2]
  | separator _ found => simp [((choices_bracketLists _).2.2 _ found).2]

theorem follows_items_bracketLists {place : Place} {kind : TokenKind}
    (occurs : Occurs bracketLists 0 place 5)
    (follows : Follows bracketLists 0 (.element place) kind) : kind = 1 := by
  have last : (bracketLists.expr 5).next = none := by simp [expr, exprs_bracketLists]
  have after : Follows bracketLists 0 place kind := by
    cases follows with
    | starts occurs' following | vanishes occurs' following =>
        obtain rfl := occurs.unique occurs'
        simp [last] at following
    | last _ _ follows => exact follows
  obtain ⟨outer, rfl, occurs'⟩ := (occurs_bracketLists occurs).2 rfl
  cases after with
  | inner follows => exact follows_bracketLists occurs' follows

theorem conflictFree_bracketLists : ConflictFree bracketLists 0 := by
  have content : bracketLists.predict.firstOf 4 = .ofKind 0 := by decide +kernel
  have separator : bracketLists.predict.firstOf 3 = .ofKind 2 := by decide +kernel
  have items : bracketLists.predict.firstOf 5 = .ofKind 0 := by decide +kernel
  constructor
  case branchesDisjoint => exact fun _ found => ((choices_bracketLists _).1 _ found).elim
  case branchesApart => exact fun _ found => ((choices_bracketLists _).1 _ found).elim
  case optionalApart =>
    intro place id inner occurs found kind starts follows
    obtain ⟨own, rfl⟩ := (choices_bracketLists id).2.1 inner found
    obtain rfl := own.resolve_left (occurs_bracketLists occurs).1
    obtain rfl := follows_bracketLists occurs follows
    simp [items] at starts
  case contentNotNullable =>
    intro place id parts occurs found
    obtain ⟨rfl, rfl⟩ := (choices_bracketLists id).2.2 parts found
    simp [content]
  case partsDisjoint =>
    intro place id parts occurs found
    obtain ⟨rfl, rfl⟩ := (choices_bracketLists id).2.2 parts found
    simp [content, separator]
  case contentApart =>
    intro place id parts occurs found kind starts follows
    obtain ⟨rfl, rfl⟩ := (choices_bracketLists id).2.2 parts found
    obtain rfl := follows_items_bracketLists occurs follows
    simp [content] at starts
  case separatorApart =>
    intro place id parts occurs found kind starts follows
    obtain ⟨rfl, rfl⟩ := (choices_bracketLists id).2.2 parts found
    obtain rfl := follows_items_bracketLists occurs follows
    simp [separator] at starts

theorem derives_bracketLists :
    Derives bracketLists (.chain (bracketLists.ruleOf 0)) [0, 0, 1, 2, 0, 1, 1] := by
  have expr : ∀ id : ExprId, bracketLists.expr id = bracketLists.exprs.getD id default :=
    fun _ => rfl
  rw [exprs_bracketLists] at expr
  have rule : bracketLists.ruleOf 0 = 8 := by decide +kernel
  have list : ∀ word, Derives bracketLists (.element (.optional 5)) word →
      Derives bracketLists (.chain 8) ([0] ++ (word ++ [1])) := by
    intro word items
    have close : Derives bracketLists (.chain 2) [1] :=
      .last (by simp [expr]) (by simpa [expr] using .token)
    have inner : Derives bracketLists (.chain 7) (word ++ [1]) :=
      .cons (by simp [expr]) (by simpa [expr] using items) close
    exact .cons (by simp [expr]) (by simpa [expr] using .token) inner
  have item : Derives bracketLists (.chain 4) [0, 1] := by
    have brackets := list [] .optionalAbsent
    rw [← rule] at brackets
    exact .last (by simp [expr]) (by simpa [expr] using .nonTerminal brackets)
  have comma : Derives bracketLists (.chain 3) [2] :=
    .last (by simp [expr]) (by simpa [expr] using .token)
  have lastItem : Derives bracketLists (.contents ⟨4, 3, .prohibited, .optional⟩) [0, 1] :=
    .content (by decide) item
  have items : Derives bracketLists (.contents ⟨4, 3, .prohibited, .optional⟩) [0, 1, 2, 0, 1] :=
    .separated item comma lastItem
  have repetition : Derives bracketLists (.chain 5) [0, 1, 2, 0, 1] :=
    .last (by simp [expr]) (by simpa [expr] using .unled (by decide) items)
  rw [rule]
  exact list _ (.optional repetition)

end Reparse.Grammar
