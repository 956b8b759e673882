import Reparse.Proofs.Description.Declaration

/-!
# Languages built of descriptions

Rules may refer to names whose rules come later, as all names are declared first.  The rule of one
name stays when another name gets its own, and blocks do not change rules.

Main statement: `build_keeps_meaning`.
-/

namespace Reparse

namespace Grammar

variable {grammar middle after : Grammar} {id other : NonTerminalId} {name : String}

/-! ## Changed non-terminals -/

theorem getD_modify {α : Type} (items : Array α) (index other : Nat) (change : α → α)
    (default : α) :
    (items.modify index change).getD other default =
      if index = other ∧ other < items.size then change (items.getD other default)
      else items.getD other default := by
  by_cases inside : other < items.size
  · simp [inside, Array.getElem_modify]
  · simp [inside]

theorem nonTerminalOf_setRule (grammar : Grammar) (rule : ExprId) (id other : NonTerminalId) :
    (grammar.setRule id rule).nonTerminalOf other =
      if id = other ∧ other < grammar.nonTerminals.size then
        { grammar.nonTerminalOf other with rule }
      else grammar.nonTerminalOf other :=
  getD_modify ..

theorem nonTerminalOf_setBlock (grammar : Grammar) (isBlock : Bool) (id other : NonTerminalId) :
    (grammar.setBlock id isBlock).nonTerminalOf other =
      if id = other ∧ other < grammar.nonTerminals.size then
        { grammar.nonTerminalOf other with isBlock }
      else grammar.nonTerminalOf other :=
  getD_modify ..

theorem names_modify (grammar : Grammar) (id : NonTerminalId) (change : NonTerminal → NonTerminal)
    (same : ∀ nonTerminal, (change nonTerminal).name = nonTerminal.name) :
    (grammar.nonTerminals.modify id change).map NonTerminal.name = grammar.names := by
  apply Array.ext
  · simp [names]
  · intro index _ _
    simp only [names, Array.getElem_map, Array.getElem_modify]
    split
    · exact same _
    · rfl

theorem Grows.setRule (grammar : Grammar) (id : NonTerminalId) (rule : ExprId) :
    grammar.Grows (grammar.setRule id rule) :=
  ⟨Nat.le_refl _, fun _ => rfl, rfl,
    names_modify grammar id (fun old => { old with rule }) fun _ => rfl⟩

theorem Grows.setBlock (grammar : Grammar) (id : NonTerminalId) (isBlock : Bool) :
    grammar.Grows (grammar.setBlock id isBlock) :=
  ⟨Nat.le_refl _, fun _ => rfl, rfl,
    names_modify grammar id (fun old => { old with isBlock }) fun _ => rfl⟩

def Stores (grammar : Grammar) (name : String) (rule : RuleExpr) : Prop :=
  ∃ id all, grammar.findNonTerminal? name = some id ∧
    grammar.Lists (grammar.ruleOf id) all ∧ grammar.Spells rule (.elements all)

theorem Stores.mono {rule : RuleExpr} (stores : grammar.Stores name rule)
    (grows : grammar.Grows after)
    (same : ∀ id, grammar.findNonTerminal? name = some id → after.ruleOf id = grammar.ruleOf id) :
    after.Stores name rule := by
  obtain ⟨id, all, found, lists, spells⟩ := stores
  refine ⟨id, all, (grows.findNonTerminal?_eq name).trans found, ?_, spells.mono grows⟩
  rw [same id found]
  exact lists.mono grows

end Grammar

namespace Description

open Grammar

variable {grammar middle after : Grammar} {name : String} {rule : RuleExpr}

/-! ## Rules -/

/-- Names have got their rules, and the other names still have theirs. -/
structure Installs (rules : List (String × RuleExpr)) (grammar after : Grammar) : Prop where
  built : after.Built
  grows : grammar.Grows after
  isBlock : ∀ id, (after.nonTerminalOf id).isBlock = (grammar.nonTerminalOf id).isBlock
  installed : ∀ name rule, (name, rule) ∈ rules → after.Stores name rule
  kept : ∀ name rule, (∀ pair ∈ rules, pair.1 ≠ name) → grammar.Stores name rule →
    after.Stores name rule

theorem Installs.nil (built : grammar.Built) : Installs [] grammar grammar where
  built := built
  grows := .refl grammar
  isBlock _ := rfl
  installed := by simp
  kept _ _ _ stores := stores

theorem Installs.cons {pair : String × RuleExpr} {rest : List (String × RuleExpr)}
    (first : Installs [pair] grammar middle) (others : Installs rest middle after)
    (different : ∀ other ∈ rest, other.1 ≠ pair.1) : Installs (pair :: rest) grammar after where
  built := others.built
  grows := first.grows.trans others.grows
  isBlock id := (others.isBlock id).trans (first.isBlock id)
  installed name rule member := by
    rcases List.mem_cons.mp member with rfl | later
    · exact others.kept _ _ different (first.installed _ _ (List.mem_singleton_self _))
    · exact others.installed name rule later
  kept name rule apart stores := by
    have unlike : ∀ other ∈ [pair], other.1 ≠ name := by
      simpa using apart pair List.mem_cons_self
    exact others.kept name rule (fun other member => apart other (List.mem_cons_of_mem _ member))
      (first.kept name rule unlike stores)

theorem installs_of_addRule (built : grammar.Built) (nothing : grammar.Lists emptyExpr [])
    (done : addRule grammar name rule = .ok after) : Installs [(name, rule)] grammar after := by
  simp only [addRule, bind_eq_ok, pure_eq_ok, resolveNonTerminal_eq_ok] at done
  obtain ⟨⟨expr, middle⟩, lowered, id, found, rfl⟩ := done
  obtain ⟨enlarges, all, lists, spells⟩ := lower_spells built nothing rule lowered
  have inside := (name_of_findNonTerminal? found).1
  have last := Grows.setRule middle id expr
  have same : ∀ other, middle.nonTerminalOf other = grammar.nonTerminalOf other := by
    intro other
    rw [nonTerminalOf, enlarges.extended.nonTerminals_eq, nonTerminalOf]
  constructor
  case built => exact .setRule enlarges.built lists.inside
  case grows => exact enlarges.grows.trans last
  case isBlock =>
    intro other
    rw [nonTerminalOf_setRule, ← same]
    split <;> rfl
  case installed =>
    intro other otherRule member
    obtain ⟨rfl, rfl⟩ := Prod.mk.inj (List.mem_singleton.mp member)
    refine ⟨id, all, (last.findNonTerminal?_eq _).trans found, ?_, spells.mono last⟩
    rw [ruleOf, nonTerminalOf_setRule, if_pos ⟨rfl, inside⟩]
    exact lists.mono last
  case kept =>
    -- A name is found at its own number, so another name has another number.
    intro other otherRule apart stores
    refine stores.mono (enlarges.grows.trans last) fun number found' => ?_
    have different : id ≠ number := by
      rintro rfl
      rw [← enlarges.grows.findNonTerminal?_eq] at found'
      have named := (name_of_findNonTerminal? found).2
      have named' := (name_of_findNonTerminal? found').2
      exact apart _ (List.mem_singleton_self _) (named.symm.trans named')
    rw [ruleOf, nonTerminalOf_setRule, if_neg fun both => different both.1, same, ruleOf]

theorem exists_addRule_iff (built : grammar.Built) (nothing : grammar.Lists emptyExpr []) :
    (∃ after, addRule grammar name rule = .ok after) ↔
      (∀ reference ∈ rule.references, grammar.Resolves reference) ∧
        grammar.Resolves (.nonTerminal name) := by
  apply exists_bind_eq_ok_iff (exists_lower_iff built nothing rule)
  rintro ⟨expr, middle⟩ lowered
  obtain ⟨enlarges, -⟩ := lower_spells built nothing rule lowered
  rw [← enlarges.grows.resolves_iff, ← exists_resolveNonTerminal_iff]
  exact exists_bind_pure_iff

def addRules (grammar : Grammar) (rules : List (String × RuleExpr)) :
    Except DescriptionError Grammar :=
  rules.foldlM (fun grammar (name, rule) => addRule grammar name rule) grammar

theorem addRules_cons (grammar : Grammar) (pair : String × RuleExpr)
    (rest : List (String × RuleExpr)) :
    addRules grammar (pair :: rest) =
      addRule grammar pair.1 pair.2 >>= fun after => addRules after rest :=
  List.foldlM_cons

theorem installs_of_addRules {rules : List (String × RuleExpr)} (built : grammar.Built)
    (nothing : grammar.Lists emptyExpr []) (sorted : Sorted rules)
    (done : addRules grammar rules = .ok after) : Installs rules grammar after := by
  induction rules generalizing grammar with
  | nil =>
      cases done
      exact .nil built
  | cons pair rest induction =>
      rw [addRules_cons, bind_eq_ok] at done
      obtain ⟨middle, first, others⟩ := done
      obtain ⟨smallest, sortedRest⟩ := List.pairwise_cons.mp sorted
      have installs := installs_of_addRule built nothing first
      exact installs.cons
        (induction installs.built (nothing.mono installs.grows) sortedRest others)
        fun other member => (smallest other member).ne'

theorem exists_addRules_iff {rules : List (String × RuleExpr)} (built : grammar.Built)
    (nothing : grammar.Lists emptyExpr []) :
    (∃ after, addRules grammar rules = .ok after) ↔
      ∀ pair ∈ rules, (∀ reference ∈ pair.2.references, grammar.Resolves reference) ∧
        grammar.Resolves (.nonTerminal pair.1) := by
  induction rules generalizing grammar with
  | nil => simp [addRules, pure, Except.pure]
  | cons pair rest induction =>
      rw [addRules_cons, List.forall_mem_cons]
      apply exists_bind_eq_ok_iff (exists_addRule_iff built nothing)
      intro middle done
      have installs := installs_of_addRule built nothing done
      simp only [← installs.grows.resolves_iff]
      exact induction installs.built (nothing.mono installs.grows)

/-! ## Blocks -/

/-- Names have become blocks, and nothing else changed. -/
structure Delimits (blocks : List String) (grammar after : Grammar) : Prop where
  built : after.Built
  grows : grammar.Grows after
  ruleOf_eq : ∀ id, after.ruleOf id = grammar.ruleOf id
  isBlock_iff : ∀ name id, grammar.findNonTerminal? name = some id →
    ((after.nonTerminalOf id).isBlock = true ↔
      (grammar.nonTerminalOf id).isBlock = true ∨ name ∈ blocks)

theorem delimits_of_addBlock (built : grammar.Built) (done : addBlock grammar name = .ok after) :
    Delimits [name] grammar after := by
  simp only [addBlock, bind_eq_ok, pure_eq_ok, resolveNonTerminal_eq_ok] at done
  obtain ⟨id, found, rfl⟩ := done
  obtain ⟨inside, named⟩ := name_of_findNonTerminal? found
  constructor
  case built => exact .setBlock built
  case grows => exact .setBlock grammar id true
  case ruleOf_eq => exact ruleOf_setBlock grammar id true
  case isBlock_iff =>
    intro other number found'
    rw [nonTerminalOf_setBlock, List.mem_singleton]
    split
    · rename_i both
      obtain ⟨rfl, -⟩ := both
      have named' := (name_of_findNonTerminal? found').2
      simp [named'.symm.trans named]
    · rename_i apart
      have different : other ≠ name := by
        rintro rfl
        obtain rfl := Option.some.inj (found.symm.trans found')
        exact apart ⟨rfl, inside⟩
      simp [different]

theorem delimits_of_addBlocks {blocks : List String} (built : grammar.Built)
    (done : blocks.foldlM addBlock grammar = .ok after) : Delimits blocks grammar after := by
  induction blocks generalizing grammar with
  | nil =>
      cases done
      exact ⟨built, .refl _, fun _ => rfl, by simp⟩
  | cons name rest induction =>
      rw [List.foldlM_cons, bind_eq_ok] at done
      obtain ⟨middle, first, others⟩ := done
      have one := delimits_of_addBlock built first
      have more := induction one.built others
      constructor
      case built => exact more.built
      case grows => exact one.grows.trans more.grows
      case ruleOf_eq => exact fun id => (more.ruleOf_eq id).trans (one.ruleOf_eq id)
      case isBlock_iff =>
        intro other id found
        rw [more.isBlock_iff other id ((one.grows.findNonTerminal?_eq other).trans found),
          one.isBlock_iff other id found, List.mem_singleton, List.mem_cons, or_assoc]

theorem exists_addBlocks_iff {blocks : List String} (built : grammar.Built) :
    (∃ after, blocks.foldlM addBlock grammar = .ok after) ↔
      ∀ name ∈ blocks, grammar.Resolves (.nonTerminal name) := by
  induction blocks generalizing grammar with
  | nil => simp [pure, Except.pure]
  | cons name rest induction =>
      rw [List.foldlM_cons, List.forall_mem_cons]
      apply exists_bind_eq_ok_iff
      · exact exists_bind_pure_iff.trans exists_resolveNonTerminal_iff
      · intro middle done
        have one := delimits_of_addBlock built done
        simp only [← one.grows.resolves_iff]
        exact induction one.built

/-! ## Whole descriptions -/

/-- The language has the names of a description, its blocks and its start, and each name derives
what it does in the description. -/
structure Implements (description : Description) (language : Language) : Prop where
  names : ∀ name, (language.grammar.findNonTerminal? name).isSome = true ↔
    (description.rule? name).isSome = true
  /-- A name has one non-terminal. -/
  distinct : ∀ id < language.grammar.nonTerminals.size,
    language.grammar.findNonTerminal? (language.grammar.nonTerminalOf id).name = some id
  words : ∀ name id, language.grammar.findNonTerminal? name = some id → ∀ word,
    (∃ kinds, kinds.map language.grammar.tokenName = word ∧
        language.grammar.Derives (.element (.nonTerminal id)) kinds) ↔
      description.Derives (.rule (.nonTerminal name)) word
  blocks : ∀ name id, language.grammar.findNonTerminal? name = some id →
    ((language.grammar.nonTerminalOf id).isBlock = true ↔ name ∈ description.blocks)
  start : language.grammar.findNonTerminal? description.start = some language.start

theorem declared_eq (description : Description) {tokenGrammar : Grammar}
    (same : tokenGrammar =
      Grammar.initial.withTokens (description.tokens.map TokenPattern.name)) :
    description.declared =
      (sortRules description.rules).foldl
        (fun grammar (name, _) => (grammar.nonTerminal name).2)
        (match description.fallback with
        | none => (none, tokenGrammar)
        | some name =>
            (some (tokenGrammar.token name).1, (tokenGrammar.token name).2)).2 := by
  rw [same, declared, withNonTerminals, List.foldl_map, withTokens, List.foldl_append]
  cases description.fallback <;> rfl

variable {compile : Text → Option Matcher}

/-- A language is built by putting rules and blocks into the grammar with the declared names. -/
theorem buildBy_eq_ok_iff {description : Description} {start : NonTerminalId} :
    (∃ scanner, description.buildBy compile = .ok ⟨grammar, scanner, start⟩) ↔
      ((∀ token ∈ description.tokens, (compile token.pattern).isSome = true) ∧
        ∀ pattern, description.skip = some pattern → (compile pattern).isSome = true) ∧
      ∃ ruled, addRules description.declared (sortRules description.rules) = .ok ruled ∧
        description.blocks.foldlM addBlock ruled = .ok grammar ∧
        grammar.findNonTerminal? description.start = some start := by
  rw [← @exists_declareTokens_iff compile .initial, ← exists_skip_iff]
  simp only [buildBy, bind_eq_ok, pure_eq_ok, ← resolveNonTerminal_eq_ok]
  constructor
  · rintro ⟨scanner, ⟨tokenRules, tokenGrammar⟩, tokens, skip, skips, ruled, rules, blocked, blocks,
      start, resolved, language⟩
    have installed : addRules description.declared (sortRules description.rules) = .ok ruled := by
      rw [declared_eq description (eq_withTokens_of_declareTokens tokens)]
      exact rules
    obtain ⟨rfl, -, rfl⟩ := Language.mk.inj language
    exact ⟨⟨⟨_, tokens⟩, skip, skips⟩, ruled, installed, blocks, resolved⟩
  · rintro ⟨⟨⟨⟨tokenRules, tokenGrammar⟩, tokens⟩, skip, skips⟩, ruled, rules, blocks, resolved⟩
    rw [declared_eq description (eq_withTokens_of_declareTokens tokens)] at rules
    exact ⟨_, _, tokens, skip, skips, ruled, rules, grammar, blocks, start, resolved, rfl⟩

theorem exists_ruled_iff (description : Description) :
    (∃ ruled, addRules description.declared (sortRules description.rules) = .ok ruled) ↔
      ∀ name rule, description.rule? name = some rule →
        ∀ reference ∈ rule.references, description.Defines reference := by
  have bare := bare_declared description
  rw [exists_addRules_iff bare.built bare.nothing]
  simp only [resolves_declared_iff]
  constructor
  · intro resolved name rule has
    exact (resolved (name, rule) ((mem_sortRules_iff _).mpr has)).1
  · rintro resolved ⟨name, rule⟩ member
    have has : description.rule? name = some rule := (mem_sortRules_iff _).mp member
    exact ⟨resolved name rule has, Option.isSome_iff_exists.mpr ⟨rule, has⟩⟩

/-- A grammar has the rules and the blocks of a description. -/
structure Completes (description : Description) (ruled grammar : Grammar) : Prop where
  installs : Installs (sortRules description.rules) description.declared ruled
  delimits : Delimits description.blocks ruled grammar

namespace Completes

variable {description : Description} {ruled : Grammar}

theorem of_added (rules : addRules description.declared (sortRules description.rules) = .ok ruled)
    (blocks : description.blocks.foldlM addBlock ruled = .ok grammar) :
    description.Completes ruled grammar := by
  have bare := bare_declared description
  have installs := installs_of_addRules bare.built bare.nothing (sorted_sortRules _) rules
  exact ⟨installs, delimits_of_addBlocks installs.built blocks⟩

theorem grows (completes : description.Completes ruled grammar) :
    description.declared.Grows grammar :=
  completes.installs.grows.trans completes.delimits.grows

theorem resolves_iff (completes : description.Completes ruled grammar) (reference : Reference) :
    grammar.Resolves reference ↔ description.Defines reference := by
  rw [completes.grows.resolves_iff, resolves_declared_iff]

theorem distinct (completes : description.Completes ruled grammar) (id : NonTerminalId)
    (inside : id < grammar.nonTerminals.size) :
    grammar.findNonTerminal? (grammar.nonTerminalOf id).name = some id := by
  have sizes := congrArg Array.size completes.grows.names_eq
  rw [names, names, Array.size_map, Array.size_map] at sizes
  have found := (bare_declared description).distinct id (sizes ▸ inside)
  rw [completes.grows.findNonTerminal?_eq, name_nonTerminalOf, completes.grows.names_eq,
    ← name_nonTerminalOf]
  exact found

theorem transcribes (completes : description.Completes ruled grammar) :
    grammar.Transcribes description := by
  intro name id found
  have resolves : grammar.Resolves (.nonTerminal name) := Option.isSome_iff_exists.mpr ⟨id, found⟩
  obtain ⟨rule, has⟩ := Option.isSome_iff_exists.mp ((completes.resolves_iff _).mp resolves)
  have member : (name, rule) ∈ sortRules description.rules := (mem_sortRules_iff _).mpr has
  have stores := (completes.installs.installed name rule member).mono completes.delimits.grows
    fun other _ => completes.delimits.ruleOf_eq other
  obtain ⟨other, all, found', lists, spells⟩ := stores
  obtain rfl := Option.some.inj (found.symm.trans found')
  exact ⟨rule, all, has, lists, spells⟩

theorem isBlock_iff (completes : description.Completes ruled grammar) {id : NonTerminalId}
    (found : grammar.findNonTerminal? name = some id) :
    (grammar.nonTerminalOf id).isBlock = true ↔ name ∈ description.blocks := by
  have found' := (completes.delimits.grows.findNonTerminal?_eq name).symm.trans found
  rw [completes.delimits.isBlock_iff name id found', completes.installs.isBlock,
    (bare_declared description).isBlock]
  simp

theorem implements (completes : description.Completes ruled grammar) {scanner : Tokenizer}
    {start : NonTerminalId} (found : grammar.findNonTerminal? description.start = some start) :
    description.Implements ⟨grammar, scanner, start⟩ where
  names name := completes.resolves_iff (.nonTerminal name)
  distinct := completes.distinct
  words _ _ found := completes.transcribes.derives_iff found
  blocks _ _ found := completes.isBlock_iff found
  start := found

end Completes

theorem exists_buildBy_iff (compile : Text → Option Matcher) (description : Description) :
    (∃ language, description.buildBy compile = .ok language) ↔
      description.WellFormed compile := by
  constructor
  · rintro ⟨⟨grammar, scanner, start⟩, built⟩
    obtain ⟨⟨tokens, skip⟩, ruled, rules, blocks, found⟩ := buildBy_eq_ok_iff.mp ⟨scanner, built⟩
    have completes := Completes.of_added rules blocks
    constructor
    case tokens => exact tokens
    case skip => exact skip
    case rules => exact (exists_ruled_iff description).mp ⟨ruled, rules⟩
    case blocks =>
      intro name member
      have known := (exists_addBlocks_iff completes.installs.built).mp ⟨grammar, blocks⟩ name member
      rwa [← completes.delimits.grows.resolves_iff, completes.resolves_iff] at known
    case start =>
      exact (completes.resolves_iff (.nonTerminal description.start)).mp
        (Option.isSome_iff_exists.mpr ⟨start, found⟩)
  · intro wellFormed
    obtain ⟨ruled, rules⟩ := (exists_ruled_iff description).mpr wellFormed.rules
    have bare := bare_declared description
    have installs := installs_of_addRules bare.built bare.nothing (sorted_sortRules _) rules
    have known : ∀ name ∈ description.blocks, ruled.Resolves (.nonTerminal name) := by
      intro name member
      rw [installs.grows.resolves_iff, resolves_declared_iff]
      exact wellFormed.blocks name member
    obtain ⟨grammar, blocks⟩ := (exists_addBlocks_iff installs.built).mpr known
    have completes := Completes.of_added rules blocks
    obtain ⟨start, found⟩ := Option.isSome_iff_exists.mp
      ((completes.resolves_iff (.nonTerminal description.start)).mpr wellFormed.start)
    obtain ⟨scanner, built⟩ := buildBy_eq_ok_iff.mpr
      ⟨⟨wellFormed.tokens, wellFormed.skip⟩, ruled, rules, blocks, found⟩
    exact ⟨_, built⟩

/-- Whatever compiles the patterns, a description can be built exactly if they compile and its names
are defined, and the language that is built means what the description does. -/
theorem build_keeps_meaning (compile : Text → Option Matcher) (description : Description) :
    ((∃ language, description.buildBy compile = .ok language) ↔
        description.WellFormed compile) ∧
      ∀ language, description.buildBy compile = .ok language →
        description.Implements language := by
  refine ⟨exists_buildBy_iff compile description, ?_⟩
  rintro ⟨grammar, scanner, start⟩ done
  obtain ⟨-, ruled, rules, blocks, found⟩ := buildBy_eq_ok_iff.mp ⟨scanner, done⟩
  exact (Completes.of_added rules blocks).implements found

/-! ## Lists with commas -/

def literalMatcher (literal : Text) : Matcher where
  matchEnd? text := if literal.isPrefixOf text then some literal.length else none
  withinText := by
    intro text found matched
    split at matched
    · rename_i starts
      cases matched
      exact (List.isPrefixOf_iff_prefix.mp starts).length_le
    · cases matched

/-- Compiles patterns in which each character stands for itself. -/
def literal? (pattern : Text) : Option Matcher :=
  if pattern.any fun char => "\\.+*?()[]|^$\x7b\x7d".toList.contains char then none
  else some (literalMatcher pattern)

/-- Items with commas between them and perhaps after the last one.  The rule for an item comes after
the list, and the sequence for one content is nested and has empty parts. -/
def commaLists : Description where
  tokens := [⟨"a", "a".toList⟩, ⟨"comma", ",".toList⟩]
  skip := some " ".toList
  fallback := some "other"
  rules :=
    [("list",
      .repetition (.sequence [.sequence [.empty, .nonTerminal "item", .empty], .sequence []])
        (some (.token "comma")) .prohibited .optional),
      ("item", .alternation [.token "a", .token "other"])]
  blocks := ["list"]
  start := "list"

theorem build_keeps_meaning_commaLists :
    commaLists.WellFormed literal? ∧
      ∃ language, commaLists.buildBy literal? = .ok language ∧ commaLists.Implements language := by
  have succeeds : (commaLists.buildBy literal?).isOk = true := by decide +kernel
  obtain ⟨built_iff, keeps⟩ := build_keeps_meaning literal? commaLists
  cases done : commaLists.buildBy literal? with
  | error error => simp [done, Except.isOk, Except.toBool] at succeeds
  | ok language =>
      exact ⟨built_iff.mp ⟨language, done⟩, language, rfl, keeps language done⟩

end Description

end Reparse
