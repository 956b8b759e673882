import Reparse.Proofs.Description.Spelling
import Reparse.Proofs.Document.Editing
import Reparse.Proofs.Grammar.LeastSets
import Mathlib.Data.List.Forall2

/-!
# Rules put into a grammar

Lowering a rule adds expressions to a grammar and leaves those that are there as they are, so what
was spelled before stays spelled.

Main statement: `lower_spells`.
-/

namespace Reparse

section Computations

variable {ε α β : Type} {first : Except ε α}

theorem exists_bind_eq_ok_iff {rest : α → Except ε β} {starts continues : Prop}
    (firstSucceeds : (∃ value, first = .ok value) ↔ starts)
    (restSucceeds : ∀ value, first = .ok value →
      ((∃ result, rest value = .ok result) ↔ continues)) :
    (∃ result, first >>= rest = .ok result) ↔ starts ∧ continues := by
  cases outcome : first with
  | error error =>
      have fails : ¬ starts := by simp [← firstSucceeds, outcome]
      simp [bind, Except.bind, fails]
  | ok value =>
      have succeeds : starts := firstSucceeds.mp ⟨value, outcome⟩
      rw [← restSucceeds value outcome]
      simp [bind, Except.bind, succeeds]

theorem exists_bind_pure_iff {wrap : α → β} :
    (∃ result, (first >>= fun value => pure (wrap value)) = .ok result) ↔
      ∃ value, first = .ok value := by
  cases first <;> simp [bind, Except.bind, pure, Except.pure]

end Computations

namespace Grammar

/-! ## Grammars that grow -/

def names (grammar : Grammar) : Array String := grammar.nonTerminals.map NonTerminal.name

theorem findNonTerminal?_eq (grammar : Grammar) (name : String) :
    grammar.findNonTerminal? name = grammar.names.findIdx? (· == name) := by
  rw [names, Array.findIdx?_map]
  rfl

/-- One grammar has all the expressions of another one, and the same names. -/
structure Grows (grammar larger : Grammar) : Prop where
  size_le : grammar.exprs.size ≤ larger.exprs.size
  expr_eq : ∀ {id : ExprId}, id < grammar.exprs.size → larger.expr id = grammar.expr id
  tokens_eq : larger.tokens = grammar.tokens
  names_eq : larger.names = grammar.names

def Resolves (grammar : Grammar) : Reference → Prop
  | .token name => (grammar.findToken? name).isSome = true
  | .nonTerminal name => (grammar.findNonTerminal? name).isSome = true

/-- One grammar is made of another one by adding expressions. -/
structure Enlarges (grammar larger : Grammar) : Prop where
  built : larger.Built
  extended : grammar.Extends larger
  tokens_eq : larger.tokens = grammar.tokens

variable {grammar middle larger : Grammar}

namespace Grows

theorem refl (grammar : Grammar) : grammar.Grows grammar :=
  ⟨Nat.le_refl _, fun _ => rfl, rfl, rfl⟩

theorem trans (first : grammar.Grows middle) (second : middle.Grows larger) :
    grammar.Grows larger where
  size_le := Nat.le_trans first.size_le second.size_le
  expr_eq below := by
    rw [second.expr_eq (Nat.lt_of_lt_of_le below first.size_le), first.expr_eq below]
  tokens_eq := second.tokens_eq.trans first.tokens_eq
  names_eq := second.names_eq.trans first.names_eq

theorem findToken?_eq (grows : grammar.Grows larger) (name : String) :
    larger.findToken? name = grammar.findToken? name := by
  rw [findToken?, grows.tokens_eq, findToken?]

theorem findNonTerminal?_eq (grows : grammar.Grows larger) (name : String) :
    larger.findNonTerminal? name = grammar.findNonTerminal? name := by
  rw [larger.findNonTerminal?_eq, grows.names_eq, grammar.findNonTerminal?_eq]

theorem resolves_iff (grows : grammar.Grows larger) (reference : Reference) :
    larger.Resolves reference ↔ grammar.Resolves reference := by
  cases reference with
  | token name => rw [Resolves, Resolves, grows.findToken?_eq]
  | nonTerminal name => rw [Resolves, Resolves, grows.findNonTerminal?_eq]

end Grows

namespace Enlarges

theorem refl (built : grammar.Built) : grammar.Enlarges grammar :=
  ⟨built, .refl grammar, rfl⟩

theorem trans (first : grammar.Enlarges middle) (second : middle.Enlarges larger) :
    grammar.Enlarges larger :=
  ⟨second.built, first.extended.trans second.extended, second.tokens_eq.trans first.tokens_eq⟩

theorem grows (enlarges : grammar.Enlarges larger) : grammar.Grows larger where
  size_le := enlarges.extended.size_le
  expr_eq := enlarges.extended.expr_eq
  tokens_eq := enlarges.tokens_eq
  names_eq := by rw [names, enlarges.extended.nonTerminals_eq, names]

theorem push {element : Element} {next : Option ExprId}
    (built : (grammar.push element next).2.Built) :
    grammar.Enlarges (grammar.push element next).2 :=
  ⟨built, extends_push grammar element next, rfl⟩

end Enlarges

theorem Lists.inside {id : ExprId} {all : List Element} (lists : grammar.Lists id all) :
    id < grammar.exprs.size := by
  cases lists with
  | last inside => exact inside
  | cons inside => exact inside

theorem Lists.mono {id : ExprId} {all : List Element} (lists : grammar.Lists id all)
    (grows : grammar.Grows larger) : larger.Lists id all := by
  induction lists with
  | last inside ends =>
      have same := grows.expr_eq inside
      rw [← same] at ends ⊢
      exact .last (Nat.lt_of_lt_of_le inside grows.size_le) ends
  | cons inside following _ induction =>
      have same := grows.expr_eq inside
      rw [← same] at following ⊢
      exact .cons (Nat.lt_of_lt_of_le inside grows.size_le) following induction

theorem Spells.mono {rule : RuleExpr} {spelling : Spelling} (spells : grammar.Spells rule spelling)
    (grows : grammar.Grows larger) : larger.Spells rule spelling := by
  induction spells with
  | token found => exact .token ((grows.findToken?_eq _).trans found)
  | nonTerminal found => exact .nonTerminal ((grows.findNonTerminal?_eq _).trans found)
  | optional lists _ inner => exact .optional (lists.mono grows) inner
  | alternationNil => exact .alternationNil
  | alternationCons lists _ _ branch others =>
      exact .alternationCons (lists.mono grows) branch others
  | repetition contents _ separators _ content separator =>
      exact .repetition (contents.mono grows) content (separators.mono grows) separator
  | single _ own => exact .single own
  | empty => exact .empty
  | sequenceNil => exact .sequenceNil
  | sequenceCons _ _ item others => exact .sequenceCons item others

/-! ## Chains -/

theorem lists_push_last (grammar : Grammar) (element : Element) :
    (grammar.push element none).2.Lists (grammar.push element none).1 element.nonempty := by
  have own := grammar.expr_pushed element none
  have lists := Lists.last (pushed_lt ..) (congrArg Expr.next own)
  rw [own] at lists
  exact lists

theorem Lists.push {next : ExprId} {rest : List Element} (lists : grammar.Lists next rest)
    (element : Element) :
    (grammar.push element (some next)).2.Lists (grammar.push element (some next)).1
      (element.nonempty ++ rest) := by
  have own := grammar.expr_pushed element (some next)
  have extended := extends_push grammar element (some next)
  have grows : grammar.Grows (grammar.push element (some next)).2 :=
    ⟨extended.size_le, extended.expr_eq, rfl, rfl⟩
  have longer := Lists.cons (pushed_lt ..) (congrArg Expr.next own) (lists.mono grows)
  rw [own] at longer
  exact longer

theorem tokens_copyChain (count : Nat) (grammar : Grammar) (left right : ExprId) :
    (copyChain count grammar left right).2.tokens = grammar.tokens := by
  induction count generalizing left with
  | zero => rfl
  | succ count induction =>
      simp only [copyChain]
      split
      · split
        · rfl
        · rfl
      · exact induction _

/-- A copied chain has the elements of the left chain and then those of the right one. -/
theorem Lists.copyChain (ordered : grammar.Ordered) {count : Nat} {left right : ExprId}
    {first second : List Element} (enough : left < count) (leftLists : grammar.Lists left first)
    (rightLists : grammar.Lists right second) :
    (copyChain count grammar left right).2.Lists (copyChain count grammar left right).1
      (first ++ second) := by
  -- Numbers fall along the left chain, so the count does not run out before its end.
  induction count generalizing left first with
  | zero => exact (Nat.not_lt_zero left enough).elim
  | succ count induction =>
      simp only [Grammar.copyChain]
      cases leftLists with
      | last inside ends =>
          rw [ends]
          dsimp only
          split
          · rename_i empty
            rw [empty]
            exact rightLists
          · exact rightLists.push _
      | cons inside following rest =>
          rw [following, List.append_assoc]
          have below := ordered.next_lt following
          exact (induction (by lia) rest).push _

theorem Lists.seq (built : grammar.Built) {left right : ExprId} {first second : List Element}
    (leftLists : grammar.Lists left first) (rightLists : grammar.Lists right second) :
    grammar.Enlarges (grammar.seq left right).2 ∧
      (grammar.seq left right).2.Lists (grammar.seq left right).1 (first ++ second) := by
  constructor
  · exact
      { built := .seq built leftLists.inside rightLists.inside
        extended := extends_copyChain ..
        tokens_eq := tokens_copyChain .. }
  · exact leftLists.copyChain built.ordered leftLists.inside rightLists

theorem forall₂_lists_mono {ids : List ExprId} {pieces : List (List Element)}
    (all : List.Forall₂ grammar.Lists ids pieces) (grows : grammar.Grows larger) :
    List.Forall₂ larger.Lists ids pieces :=
  all.imp fun _ _ lists => lists.mono grows

theorem forall₂_lists_inside {ids : List ExprId} {pieces : List (List Element)}
    (all : List.Forall₂ grammar.Lists ids pieces) : ∀ id ∈ ids, id < grammar.exprs.size := by
  induction all with
  | nil => simp
  | cons lists _ induction =>
      intro id member
      rcases List.mem_cons.mp member with rfl | later
      · exact lists.inside
      · exact induction id later

/-- Chains are put in front of another one, the nearest one first. -/
theorem Lists.foldl_seq (built : grammar.Built) {items : List ExprId}
    {pieces : List (List Element)} {chain : ExprId} {tail : List Element}
    (all : List.Forall₂ grammar.Lists items pieces) (lists : grammar.Lists chain tail) :
    let result := items.foldl (fun (chain, grammar) item => grammar.seq item chain) (chain, grammar)
    grammar.Enlarges result.2 ∧ result.2.Lists result.1 (pieces.reverse.flatten ++ tail) := by
  induction items generalizing grammar pieces chain tail with
  | nil =>
      cases all
      exact ⟨.refl built, lists⟩
  | cons item items induction =>
      cases all with
      | cons first others =>
          obtain ⟨enlarges, longer⟩ := first.seq built lists
          obtain ⟨further, longest⟩ := induction enlarges.built
            (forall₂_lists_mono others enlarges.grows) longer
          refine ⟨enlarges.trans further, ?_⟩
          simpa only [List.foldl_cons, List.reverse_cons, List.flatten_append,
            List.flatten_singleton, List.append_assoc] using longest

theorem lists_seqAll (built : grammar.Built) (nothing : grammar.Lists emptyExpr [])
    {items : List ExprId} {pieces : List (List Element)}
    (all : List.Forall₂ grammar.Lists items pieces) :
    grammar.Enlarges (grammar.seqAll items).2 ∧
      (grammar.seqAll items).2.Lists (grammar.seqAll items).1 pieces.flatten := by
  have reversed := List.forall₂_reverse_iff.mpr all
  obtain ⟨backwards, same⟩ : ∃ backwards, pieces.reverse = backwards := ⟨_, rfl⟩
  obtain rfl : pieces = backwards.reverse := by rw [← same, List.reverse_reverse]
  rw [List.reverse_reverse] at reversed
  unfold seqAll
  generalize items.reverse = turned at reversed ⊢
  cases reversed with
  | nil => exact ⟨.refl built, nothing⟩
  | cons lists others =>
      have result := Lists.foldl_seq built others lists
      simpa only [List.reverse_cons, List.flatten_append, List.flatten_singleton] using result

theorem forall₂_spells_mono {rules : List RuleExpr} {pieces : List (List Element)}
    (spells : List.Forall₂ (fun rule piece => grammar.Spells rule (.elements piece)) rules pieces)
    (grows : grammar.Grows larger) :
    List.Forall₂ (fun rule piece => larger.Spells rule (.elements piece)) rules pieces :=
  spells.imp fun _ _ spelled => spelled.mono grows

theorem Spells.alternation {branches : List RuleExpr} {ids : List ExprId}
    {pieces : List (List Element)} (lists : List.Forall₂ grammar.Lists ids pieces)
    (spells : List.Forall₂ (fun branch piece => grammar.Spells branch (.elements piece))
      branches pieces) :
    grammar.Spells (.alternation branches) (.element (.alternation ids)) := by
  induction spells generalizing ids with
  | nil =>
      cases lists
      exact .alternationNil
  | cons branch _ induction =>
      cases lists with
      | cons first others => exact .alternationCons first branch (induction others)

theorem Spells.sequence {items : List RuleExpr} {pieces : List (List Element)}
    (spells : List.Forall₂ (fun item piece => grammar.Spells item (.elements piece))
      items pieces) :
    grammar.Spells (.sequence items) (.elements pieces.flatten) := by
  induction spells with
  | nil => exact .sequenceNil
  | cons item _ others => exact .sequenceCons item others

end Grammar

namespace Description

open Grammar

variable {grammar larger : Grammar}

/-! ## Lowered rules -/

/-- A chain spells a rule in a grammar that has more expressions. -/
def Lowered (grammar : Grammar) (rule : RuleExpr) (id : ExprId) (larger : Grammar) : Prop :=
  grammar.Enlarges larger ∧
    ∃ all, larger.Lists id all ∧ larger.Spells rule (.elements all)

theorem Lowered.push {middle : Grammar} {rule : RuleExpr} {element : Element}
    (enlarges : grammar.Enlarges middle) (built : (middle.push element none).2.Built)
    (proper : element ≠ .empty)
    (spells : (middle.push element none).2.Spells rule (.element element)) :
    Lowered grammar rule (middle.push element none).1 (middle.push element none).2 := by
  have lists := lists_push_last middle element
  rw [Element.nonempty, if_neg proper] at lists
  exact ⟨enlarges.trans (.push built), _, lists, .single spells⟩

theorem resolveNonTerminal_eq_ok {name : String} {id : NonTerminalId} :
    resolveNonTerminal grammar name = .ok id ↔ grammar.findNonTerminal? name = some id := by
  unfold resolveNonTerminal
  cases grammar.findNonTerminal? name <;> simp

theorem Lowered.repetition {middle : Grammar} {content : RuleExpr} (separator : Option RuleExpr)
    {first between : ExprId} (leading trailing : Presence) {contents separators : List Element}
    (enlarges : grammar.Enlarges middle) (contentLists : middle.Lists first contents)
    (contentSpells : middle.Spells content (.elements contents))
    (separatorLists : middle.Lists between separators)
    (separatorSpells : middle.Spells (separator.getD .empty) (.elements separators)) :
    Lowered grammar (.repetition content separator leading trailing)
      (middle.repetition ⟨first, between, leading, trailing⟩).1
      (middle.repetition ⟨first, between, leading, trailing⟩).2 := by
  have built : (middle.repetition ⟨first, between, leading, trailing⟩).2.Built :=
    .repetition enlarges.built contentLists.inside separatorLists.inside
  have grown := (Enlarges.push built).grows
  exact .push enlarges built nofun
    (.repetition (contentLists.mono grown) (contentSpells.mono grown) (separatorLists.mono grown)
      (separatorSpells.mono grown))

mutual

/-- A lowered rule is spelled by its chain. -/
theorem lower_spells {grammar larger : Grammar} {id : ExprId} (built : grammar.Built)
    (nothing : grammar.Lists emptyExpr []) (rule : RuleExpr)
    (lowered : lower grammar rule = .ok (id, larger)) : Lowered grammar rule id larger := by
  cases rule with
  | token name =>
      simp only [lower] at lowered
      split at lowered
      · rename_i kind found
        cases lowered
        exact .push (.refl built) (.tokenExpr kind built) nofun (.token found)
      · cases lowered
  | nonTerminal name =>
      simp only [lower, bind_eq_ok, pure_eq_ok] at lowered
      obtain ⟨id, resolved, lowered⟩ := lowered
      cases lowered
      have found := resolveNonTerminal_eq_ok.mp resolved
      exact .push (.refl built) (.nonTerminalExpr built (name_of_findNonTerminal? found).1) nofun
        (.nonTerminal found)
  | empty =>
      cases lowered
      exact ⟨.refl built, [], nothing, .empty⟩
  | optional inner =>
      simp only [lower, bind_eq_ok, pure_eq_ok] at lowered
      obtain ⟨⟨part, middle⟩, lowered, whole⟩ := lowered
      obtain ⟨enlarges, all, lists, spells⟩ := lower_spells built nothing inner lowered
      cases whole
      have grown := (Enlarges.push (.optional enlarges.built lists.inside)).grows
      exact .push enlarges (.optional enlarges.built lists.inside) nofun
        (.optional (lists.mono grown) (spells.mono grown))
  | alternation branches =>
      simp only [lower, bind_eq_ok, pure_eq_ok] at lowered
      obtain ⟨⟨ids, middle⟩, lowered, whole⟩ := lowered
      obtain ⟨enlarges, pieces, lists, spells⟩ := lowerAll_spells built nothing branches lowered
      cases whole
      have built' : (middle.alternation ids).2.Built :=
        .alternation enlarges.built fun id member => (forall₂_lists_inside lists id member)
      have grown := (Enlarges.push built').grows
      exact .push enlarges built' nofun
        (.alternation (forall₂_lists_mono lists grown) (forall₂_spells_mono spells grown))
  | sequence items =>
      simp only [lower, bind_eq_ok, pure_eq_ok] at lowered
      obtain ⟨⟨ids, middle⟩, lowered, whole⟩ := lowered
      obtain ⟨enlarges, pieces, lists, spells⟩ := lowerAll_spells built nothing items lowered
      obtain ⟨further, all⟩ := lists_seqAll enlarges.built (nothing.mono enlarges.grows) lists
      rw [whole] at further all
      exact ⟨enlarges.trans further, _, all, (Spells.sequence spells).mono further.grows⟩
  | repetition content separator leading trailing =>
      cases separator with
      | none =>
          simp only [lower, bind_eq_ok, pure_eq_ok] at lowered
          obtain ⟨⟨part, middle⟩, lowered, whole⟩ := lowered
          obtain ⟨enlarges, all, lists, spells⟩ := lower_spells built nothing content lowered
          cases whole
          exact .repetition none leading trailing enlarges lists spells
            (nothing.mono enlarges.grows) .empty
      | some separator =>
          simp only [lower, bind_eq_ok, pure_eq_ok] at lowered
          obtain ⟨⟨part, middle⟩, lowered, ⟨between, last⟩, lowered', whole⟩ := lowered
          obtain ⟨enlarges, all, lists, spells⟩ := lower_spells built nothing content lowered
          obtain ⟨further, all', lists', spells'⟩ :=
            lower_spells enlarges.built (nothing.mono enlarges.grows) separator lowered'
          cases whole
          exact .repetition (some separator) leading trailing (enlarges.trans further)
            (lists.mono further.grows) (spells.mono further.grows) lists' spells'

theorem lowerAll_spells {grammar larger : Grammar} {ids : List ExprId} (built : grammar.Built)
    (nothing : grammar.Lists emptyExpr []) (items : List RuleExpr)
    (lowered : lowerAll grammar items = .ok (ids, larger)) :
    grammar.Enlarges larger ∧
      ∃ pieces, List.Forall₂ larger.Lists ids pieces ∧
        List.Forall₂ (fun item piece => larger.Spells item (.elements piece)) items pieces := by
  cases items with
  | nil =>
      cases lowered
      exact ⟨.refl built, [], .nil, .nil⟩
  | cons item rest =>
      simp only [lowerAll, bind_eq_ok, pure_eq_ok, Prod.mk.injEq] at lowered
      obtain ⟨⟨first, middle⟩, lowered, ⟨others, last⟩, loweredAll, rfl, rfl⟩ := lowered
      obtain ⟨enlarges, piece, lists, spells⟩ := lower_spells built nothing item lowered
      obtain ⟨further, pieces, allLists, allSpells⟩ :=
        lowerAll_spells enlarges.built (nothing.mono enlarges.grows) rest loweredAll
      exact ⟨enlarges.trans further, piece :: pieces, .cons (lists.mono further.grows) allLists,
        .cons (spells.mono further.grows) allSpells⟩

end

/-! ## Rules that can be lowered -/

theorem exists_resolveNonTerminal_iff {name : String} :
    (∃ id, resolveNonTerminal grammar name = .ok id) ↔ grammar.Resolves (.nonTerminal name) := by
  simp only [resolveNonTerminal_eq_ok, Resolves, Option.isSome_iff_exists]

mutual

/-- A rule can be lowered if the grammar has its names. -/
theorem exists_lower_iff {grammar : Grammar} (built : grammar.Built)
    (nothing : grammar.Lists emptyExpr []) (rule : RuleExpr) :
    (∃ result, lower grammar rule = .ok result) ↔
      ∀ reference ∈ rule.references, grammar.Resolves reference := by
  cases rule with
  | token name =>
      simp only [lower, RuleExpr.references, List.mem_singleton, forall_eq, Resolves]
      cases grammar.findToken? name <;> simp
  | nonTerminal name =>
      simp only [lower, RuleExpr.references, List.mem_singleton, forall_eq]
      rw [exists_bind_pure_iff, exists_resolveNonTerminal_iff]
  | empty => simp [lower, RuleExpr.references]
  | optional inner =>
      rw [lower, RuleExpr.references, ← exists_lower_iff built nothing inner]
      exact exists_bind_pure_iff
  | alternation branches =>
      rw [lower, RuleExpr.references, ← exists_lowerAll_iff built nothing branches]
      exact exists_bind_pure_iff
  | sequence items =>
      rw [lower, RuleExpr.references, ← exists_lowerAll_iff built nothing items]
      exact exists_bind_pure_iff
  | repetition content separator leading trailing =>
      cases separator with
      | none =>
          rw [lower, RuleExpr.references, ← exists_lower_iff built nothing content]
          exact exists_bind_pure_iff
      | some separator =>
          rw [lower, RuleExpr.references, List.forall_mem_append]
          apply exists_bind_eq_ok_iff (exists_lower_iff built nothing content)
          rintro ⟨id, middle⟩ lowered
          obtain ⟨enlarges, -⟩ := lower_spells built nothing content lowered
          simp only [← enlarges.grows.resolves_iff]
          rw [← exists_lower_iff enlarges.built (nothing.mono enlarges.grows) separator]
          exact exists_bind_pure_iff

theorem exists_lowerAll_iff {grammar : Grammar} (built : grammar.Built)
    (nothing : grammar.Lists emptyExpr []) (items : List RuleExpr) :
    (∃ result, lowerAll grammar items = .ok result) ↔
      ∀ reference ∈ RuleExpr.allReferences items, grammar.Resolves reference := by
  cases items with
  | nil => simp [lowerAll, RuleExpr.allReferences]
  | cons item rest =>
      rw [lowerAll, RuleExpr.allReferences, List.forall_mem_append]
      apply exists_bind_eq_ok_iff (exists_lower_iff built nothing item)
      rintro ⟨id, middle⟩ lowered
      obtain ⟨enlarges, -⟩ := lower_spells built nothing item lowered
      simp only [← enlarges.grows.resolves_iff]
      rw [← exists_lowerAll_iff enlarges.built (nothing.mono enlarges.grows) rest]
      exact exists_bind_pure_iff

end

end Description

end Reparse
