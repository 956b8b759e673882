import Reparse.Proofs.Description.Lowering
import Mathlib.Data.String.Basic

/-!
# Names declared in a grammar

Before any rule is put into a grammar, its tokens and its non-terminals are declared.  Of the rules
of one name the last one counts.
-/

namespace Reparse

namespace Grammar

variable {grammar : Grammar} {name other : String}

/-! ## Names -/

theorem resolves_token_iff : grammar.Resolves (.token name) ↔ name ∈ grammar.tokens := by
  rw [Resolves, findToken?, Array.findIdx?_isSome]
  simp [Array.mem_iff_getElem]

theorem resolves_nonTerminal_iff :
    grammar.Resolves (.nonTerminal name) ↔ name ∈ grammar.names := by
  rw [Resolves, findNonTerminal?_eq, Array.findIdx?_isSome]
  simp [Array.mem_iff_getElem]

theorem mem_tokens_token :
    other ∈ (grammar.token name).2.tokens ↔ other ∈ grammar.tokens ∨ other = name := by
  unfold token
  cases found : grammar.findToken? name with
  | some kind =>
      have known : name ∈ grammar.tokens :=
        resolves_token_iff.mp (by rw [Resolves, found]; rfl)
      constructor
      · exact .inl
      · rintro (member | rfl)
        · exact member
        · exact known
  | none => exact Array.mem_push

theorem names_nonTerminal_of_none (missing : grammar.findNonTerminal? name = none) :
    (grammar.nonTerminal name).2.names = grammar.names.push name := by
  simp only [nonTerminal, missing, names, Array.map_push]

theorem mem_names_nonTerminal :
    other ∈ (grammar.nonTerminal name).2.names ↔ other ∈ grammar.names ∨ other = name := by
  cases found : grammar.findNonTerminal? name with
  | some id =>
      have known : name ∈ grammar.names :=
        resolves_nonTerminal_iff.mp (by rw [Resolves, found]; rfl)
      simp only [nonTerminal, found]
      constructor
      · exact .inl
      · rintro (member | rfl)
        · exact member
        · exact known
  | none =>
      rw [names_nonTerminal_of_none found]
      exact Array.mem_push

theorem name_nonTerminalOf (grammar : Grammar) (id : NonTerminalId) :
    (grammar.nonTerminalOf id).name = grammar.names.getD id default := by
  rw [nonTerminalOf, names, Array.getD_eq_getD_getElem?, Array.getD_eq_getD_getElem?,
    Array.getElem?_map]
  cases grammar.nonTerminals[id]? <;> rfl

/-- A grammar that has names only. -/
structure Bare (grammar : Grammar) : Prop where
  built : grammar.Built
  exprs_eq : grammar.exprs = initial.exprs
  isBlock : ∀ id, (grammar.nonTerminalOf id).isBlock = false
  /-- No name was given to two non-terminals. -/
  distinct : ∀ id < grammar.nonTerminals.size,
    grammar.findNonTerminal? (grammar.nonTerminalOf id).name = some id

namespace Bare

theorem initial : Bare .initial where
  built := .initial
  exprs_eq := rfl
  isBlock _ := rfl
  distinct id inside := by simp [Grammar.initial] at inside

theorem token (bare : grammar.Bare) (name : String) : (grammar.token name).2.Bare := by
  have built : (grammar.token name).2.Built := .token name bare.built
  unfold Grammar.token at built ⊢
  split
  · exact bare
  · rename_i missing
    simp only [missing] at built
    exact ⟨built, bare.exprs_eq, bare.isBlock, bare.distinct⟩

theorem nonTerminal (bare : grammar.Bare) (name : String) : (grammar.nonTerminal name).2.Bare := by
  have built : (grammar.nonTerminal name).2.Built := .nonTerminal name bare.built
  cases missing : grammar.findNonTerminal? name with
  | some id => simpa only [Grammar.nonTerminal, missing] using bare
  | none =>
      have pushed : (grammar.nonTerminal name).2.nonTerminals =
          grammar.nonTerminals.push ⟨name, emptyExpr, false⟩ := by
        simp only [Grammar.nonTerminal, missing]
      refine ⟨built, ?_, fun id => ?_, fun id inside => ?_⟩
      · simpa only [Grammar.nonTerminal, missing] using bare.exprs_eq
      · rw [nonTerminalOf, pushed, Array.getD_eq_getD_getElem?, Array.getElem?_push]
        split
        · rfl
        · rw [← Array.getD_eq_getD_getElem?]
          exact bare.isBlock id
      · rw [findNonTerminal?_eq, name_nonTerminalOf, names_nonTerminal_of_none missing,
          Array.findIdx?_push, Array.getD_eq_getD_getElem?, Array.getElem?_push]
        split
        · rename_i last
          rw [findNonTerminal?_eq] at missing
          simp [missing, last]
        · rename_i earlier
          have inside' : id < grammar.nonTerminals.size := by
            rw [pushed, Array.size_push] at inside
            rw [names, Array.size_map] at earlier
            lia
          have found := bare.distinct id inside'
          rw [findNonTerminal?_eq, name_nonTerminalOf] at found
          rw [← Array.getD_eq_getD_getElem?, found]
          rfl

theorem nothing (bare : grammar.Bare) : grammar.Lists emptyExpr [] := by
  have own : grammar.expr emptyExpr = ⟨.empty, none⟩ := by
    rw [expr, bare.exprs_eq]
    rfl
  have inside : emptyExpr < grammar.exprs.size := by
    rw [bare.exprs_eq]
    decide
  have lists := Lists.last inside (by rw [own])
  rw [own] at lists
  exact lists

end Bare

def withTokens (grammar : Grammar) (names : List String) : Grammar :=
  names.foldl (fun grammar name => (grammar.token name).2) grammar

def withNonTerminals (grammar : Grammar) (names : List String) : Grammar :=
  names.foldl (fun grammar name => (grammar.nonTerminal name).2) grammar

theorem Bare.withTokens (bare : grammar.Bare) (names : List String) :
    (grammar.withTokens names).Bare := by
  induction names generalizing grammar with
  | nil => exact bare
  | cons name rest induction => exact induction (bare.token name)

theorem Bare.withNonTerminals (bare : grammar.Bare) (names : List String) :
    (grammar.withNonTerminals names).Bare := by
  induction names generalizing grammar with
  | nil => exact bare
  | cons name rest induction => exact induction (bare.nonTerminal name)

theorem nonTerminals_token (grammar : Grammar) (name : String) :
    (grammar.token name).2.nonTerminals = grammar.nonTerminals := by
  unfold token
  split <;> rfl

theorem tokens_nonTerminal (grammar : Grammar) (name : String) :
    (grammar.nonTerminal name).2.tokens = grammar.tokens := by
  unfold nonTerminal
  split <;> rfl

theorem nonTerminals_withTokens (grammar : Grammar) (names : List String) :
    (grammar.withTokens names).nonTerminals = grammar.nonTerminals := by
  induction names generalizing grammar with
  | nil => rfl
  | cons name rest induction =>
      exact (induction (grammar.token name).2).trans (nonTerminals_token grammar name)

theorem tokens_withNonTerminals (grammar : Grammar) (names : List String) :
    (grammar.withNonTerminals names).tokens = grammar.tokens := by
  induction names generalizing grammar with
  | nil => rfl
  | cons name rest induction =>
      exact (induction (grammar.nonTerminal name).2).trans (tokens_nonTerminal grammar name)

theorem mem_tokens_withTokens {names : List String} :
    name ∈ (grammar.withTokens names).tokens ↔ name ∈ grammar.tokens ∨ name ∈ names := by
  induction names generalizing grammar with
  | nil => simp [withTokens]
  | cons first rest induction =>
      rw [withTokens, List.foldl_cons, ← withTokens, induction, mem_tokens_token, List.mem_cons,
        or_assoc]

theorem mem_names_withNonTerminals {names : List String} :
    name ∈ (grammar.withNonTerminals names).names ↔ name ∈ grammar.names ∨ name ∈ names := by
  induction names generalizing grammar with
  | nil => simp [withNonTerminals]
  | cons first rest induction =>
      rw [withNonTerminals, List.foldl_cons, ← withNonTerminals, induction,
        mem_names_nonTerminal, List.mem_cons, or_assoc]

end Grammar

namespace Description

/-! ## Rules sorted by name -/

section Sorting

variable {α : Type} {name key : String} {rule : α} {rules : List (String × α)}

theorem lookup_cons (pair : String × α) (rules : List (String × α)) :
    (pair :: rules).lookup key = if key = pair.1 then some pair.2 else rules.lookup key := by
  rw [List.lookup_cons]
  by_cases same : key = pair.1
  · rw [beq_iff_eq.mpr same, if_pos same]
  · rw [beq_eq_false_iff_ne.mpr same, if_neg same]

theorem lookup_insertRule :
    (insertRule name rule rules).lookup key =
      if key = name then some rule else rules.lookup key := by
  induction rules with
  | nil => exact lookup_cons (name, rule) []
  | cons first rest induction =>
      obtain ⟨other, otherRule⟩ := first
      rw [insertRule]
      by_cases before : name < other
      · rw [if_pos before, lookup_cons]
      · rw [if_neg before]
        by_cases same : name = other
        · rw [if_pos same, lookup_cons, lookup_cons, same]
          split <;> rfl
        · rw [if_neg same, lookup_cons, lookup_cons, induction]
          split_ifs with here own
          · exact (same (own.symm.trans here)).elim
          · rfl
          · rfl
          · rfl

theorem name_of_mem_insertRule {pair : String × α} (member : pair ∈ insertRule name rule rules) :
    pair.1 = name ∨ pair ∈ rules := by
  induction rules with
  | nil => exact .inl (by rw [List.mem_singleton.mp member])
  | cons first rest induction =>
      rw [insertRule] at member
      split_ifs at member
      · exact (List.mem_cons.mp member).imp (congrArg Prod.fst) id
      · exact (List.mem_cons.mp member).imp (congrArg Prod.fst) (List.mem_cons_of_mem _)
      · rcases List.mem_cons.mp member with rfl | later
        · exact .inr List.mem_cons_self
        · exact (induction later).imp id (List.mem_cons_of_mem _)

def Sorted (rules : List (String × α)) : Prop :=
  rules.Pairwise fun first second => first.1 < second.1

theorem Sorted.insertRule (sorted : Sorted rules) (name : String) (rule : α) :
    Sorted (insertRule name rule rules) := by
  induction rules with
  | nil => exact List.pairwise_singleton _ _
  | cons first rest induction =>
      obtain ⟨smallest, others⟩ := List.pairwise_cons.mp sorted
      rw [Description.insertRule]
      split_ifs with before equal
      · refine List.pairwise_cons.mpr ⟨fun pair member => ?_, sorted⟩
        rcases List.mem_cons.mp member with rfl | later
        · exact before
        · exact before.trans (smallest pair later)
      · exact List.pairwise_cons.mpr ⟨fun pair member => equal ▸ smallest pair member, others⟩
      · refine List.pairwise_cons.mpr ⟨fun pair member => ?_, induction others⟩
        rcases name_of_mem_insertRule member with rfl | later
        · exact lt_of_le_of_ne (not_lt.mp before) (Ne.symm equal)
        · exact smallest pair later

theorem Sorted.mem_iff (sorted : Sorted rules) :
    (name, rule) ∈ rules ↔ rules.lookup name = some rule := by
  induction rules with
  | nil => simp
  | cons first rest induction =>
      obtain ⟨other, otherRule⟩ := first
      obtain ⟨smallest, others⟩ := List.pairwise_cons.mp sorted
      rw [List.mem_cons, induction others, lookup_cons]
      split_ifs with same
      · have later : rest.lookup name ≠ some rule := by
          intro found
          have below := smallest _ ((induction others).mpr found)
          exact absurd below (by rw [same]; exact lt_irrefl _)
        constructor
        · rintro (own | found)
          · rw [(Prod.mk.inj own).2]
          · exact (later found).elim
        · intro own
          exact .inl (Prod.ext same (Option.some.inj own).symm)
      · simp [same]

theorem sorted_sortRules (rules : List (String × α)) : Sorted (sortRules rules) := by
  unfold sortRules
  refine List.foldlRecOn rules _ (motive := Sorted) List.Pairwise.nil ?_
  intro sorted known pair _
  exact known.insertRule pair.1 pair.2

/-- The rule that a name has among the sorted ones is its last one. -/
theorem lookup_sortRules (rules : List (String × α)) :
    (sortRules rules).lookup name = rules.reverse.lookup name := by
  unfold sortRules
  induction rules using List.reverseRecOn with
  | nil => rfl
  | append_singleton rules pair induction =>
      rw [List.foldl_concat, lookup_insertRule, induction, List.reverse_concat, lookup_cons]

theorem mem_sortRules_iff (rules : List (String × α)) :
    (name, rule) ∈ sortRules rules ↔ rules.reverse.lookup name = some rule := by
  rw [(sorted_sortRules rules).mem_iff, lookup_sortRules]

end Sorting

/-! ## Patterns -/

variable {compile : Text → Option Matcher}

theorem exists_matcherBy_iff {name : String} {pattern : Text} :
    (∃ matcher, matcherBy compile name pattern = .ok matcher) ↔
      (compile pattern).isSome = true := by
  rw [matcherBy]
  cases compile pattern <;> simp

theorem exists_declareTokens_iff {grammar : Grammar} {patterns : List TokenPattern} :
    (∃ result, declareTokens compile grammar patterns = .ok result) ↔
      ∀ token ∈ patterns, (compile token.pattern).isSome = true := by
  induction patterns generalizing grammar with
  | nil => simp [declareTokens]
  | cons first rest induction =>
      rw [declareTokens, List.forall_mem_cons]
      apply exists_bind_eq_ok_iff exists_matcherBy_iff
      intro matcher _
      rw [← induction]
      exact exists_bind_pure_iff

theorem eq_withTokens_of_declareTokens {grammar declared : Grammar}
    {patterns : List TokenPattern} {rules : List (TokenKind × Matcher)}
    (done : declareTokens compile grammar patterns = .ok (rules, declared)) :
    declared = grammar.withTokens (patterns.map TokenPattern.name) := by
  induction patterns generalizing grammar rules with
  | nil =>
      cases done
      rfl
  | cons first rest induction =>
      simp only [declareTokens, bind_eq_ok, pure_eq_ok, Prod.mk.injEq] at done
      obtain ⟨_, _, ⟨_, _⟩, later, _, rfl⟩ := done
      exact induction later

theorem exists_skip_iff {skip : Option Text} :
    (∃ matcher, skip.mapM (matcherBy compile "skip") = .ok matcher) ↔
      ∀ pattern, skip = some pattern → (compile pattern).isSome = true := by
  cases skip with
  | none => simp [pure, Except.pure]
  | some pattern =>
      have mapped : (some pattern).mapM (matcherBy compile "skip") =
          matcherBy compile "skip" pattern >>= fun matcher => pure (some matcher) := rfl
      rw [mapped, exists_bind_pure_iff, exists_matcherBy_iff]
      simp

/-! ## The names of a description -/

/-- The grammar with the names of a description and no rules yet. -/
def declared (description : Description) : Grammar :=
  let tokens := description.tokens.map TokenPattern.name ++ description.fallback.toList
  (Grammar.initial.withTokens tokens).withNonTerminals
    ((sortRules description.rules).map Prod.fst)

theorem bare_declared (description : Description) : description.declared.Bare :=
  (Grammar.Bare.initial.withTokens _).withNonTerminals _

/-- The names that are declared are those that the description defines. -/
theorem resolves_declared_iff (description : Description) (reference : Reference) :
    description.declared.Resolves reference ↔ description.Defines reference := by
  cases reference with
  | token name =>
      rw [Grammar.resolves_token_iff, declared, Grammar.tokens_withNonTerminals,
        Grammar.mem_tokens_withTokens]
      simp [Grammar.initial, Defines, eq_comm]
  | nonTerminal name =>
      rw [Grammar.resolves_nonTerminal_iff, declared, Grammar.mem_names_withNonTerminals,
        Grammar.names, Grammar.nonTerminals_withTokens]
      have ruled : (∃ rule, (name, rule) ∈ sortRules description.rules) ↔
          (description.rule? name).isSome = true := by
        simp only [mem_sortRules_iff, rule?, Option.isSome_iff_exists]
      rw [Defines, ← ruled]
      simp [Grammar.initial]

end Description

end Reparse
