import Reparse.Proofs.Description.Meaning
import Reparse.Proofs.Grammar.Derivation

/-!
# Rules spelled in a grammar

Sequences leave no trace in the chain of a nested rule, and empty elements may stand anywhere in it
or be missing.  `Spells` says that elements stand for a rule in this way.

Main statement: `Transcribes.derives_iff`.
-/

namespace Reparse

/-- What stands for a part of a rule. -/
inductive Spelling where
  | element (own : Element)
  /-- The elements of a chain, less the empty ones. -/
  | elements (all : List Element)

/-- The element as a list, which leaves out the empty one. -/
def Element.nonempty (element : Element) : List Element :=
  if element = .empty then [] else [element]

namespace Grammar

/-- The elements of a chain, less the empty ones. -/
inductive Lists (grammar : Grammar) : ExprId → List Element → Prop where
  | last {id : ExprId} :
      id < grammar.exprs.size → (grammar.expr id).next = none →
      Lists grammar id (grammar.expr id).element.nonempty
  | cons {id next : ExprId} {rest : List Element} :
      id < grammar.exprs.size → (grammar.expr id).next = some next → Lists grammar next rest →
      Lists grammar id ((grammar.expr id).element.nonempty ++ rest)

/-- What stands in a grammar for a rule. -/
inductive Spells (grammar : Grammar) : RuleExpr → Spelling → Prop where
  | token {name : String} {kind : TokenKind} :
      grammar.findToken? name = some kind →
      Spells grammar (.token name) (.element (.token kind))
  | nonTerminal {name : String} {id : NonTerminalId} :
      grammar.findNonTerminal? name = some id →
      Spells grammar (.nonTerminal name) (.element (.nonTerminal id))
  | optional {inner : RuleExpr} {id : ExprId} {all : List Element} :
      grammar.Lists id all → Spells grammar inner (.elements all) →
      Spells grammar (.optional inner) (.element (.optional id))
  | alternationNil : Spells grammar (.alternation []) (.element (.alternation []))
  | alternationCons {branch : RuleExpr} {branches : List RuleExpr} {id : ExprId}
      {ids : List ExprId} {all : List Element} :
      grammar.Lists id all → Spells grammar branch (.elements all) →
      Spells grammar (.alternation branches) (.element (.alternation ids)) →
      Spells grammar (.alternation (branch :: branches)) (.element (.alternation (id :: ids)))
  | repetition {content : RuleExpr} {separator : Option RuleExpr} {leading trailing : Presence}
      {first between : ExprId} {contents separators : List Element} :
      grammar.Lists first contents → Spells grammar content (.elements contents) →
      grammar.Lists between separators →
      Spells grammar (separator.getD .empty) (.elements separators) →
      Spells grammar (.repetition content separator leading trailing)
        (.element (.repetition ⟨first, between, leading, trailing⟩))
  | single {rule : RuleExpr} {own : Element} :
      Spells grammar rule (.element own) → Spells grammar rule (.elements [own])
  | empty : Spells grammar .empty (.elements [])
  | sequenceNil : Spells grammar (.sequence []) (.elements [])
  | sequenceCons {item : RuleExpr} {rest : List RuleExpr} {first others : List Element} :
      Spells grammar item (.elements first) → Spells grammar (.sequence rest) (.elements others) →
      Spells grammar (.sequence (item :: rest)) (.elements (first ++ others))

/-- Elements derive words one after the other. -/
inductive Yields (derives : Element → List TokenKind → Prop) :
    List Element → List TokenKind → Prop where
  | nil : Yields derives [] []
  | cons {own : Element} {rest : List Element} {first others : List TokenKind} :
      derives own first → Yields derives rest others →
      Yields derives (own :: rest) (first ++ others)

/-- The rules of the names of a description are spelled in the grammar. -/
def Transcribes (grammar : Grammar) (description : Description) : Prop :=
  ∀ name id, grammar.findNonTerminal? name = some id →
    ∃ rule all, description.rule? name = some rule ∧
      grammar.Lists (grammar.ruleOf id) all ∧ grammar.Spells rule (.elements all)

variable {grammar : Grammar} {description : Description}

/-! ## Elements one after the other -/

namespace Yields

variable {derives : Element → List TokenKind → Prop} {first second : List Element}
  {word : List TokenKind}

theorem singleton {own : Element} (derived : derives own word) : Yields derives [own] word := by
  simpa only [List.append_nil] using Yields.cons derived .nil

theorem of_singleton {own : Element} (yields : Yields derives [own] word) : derives own word := by
  cases yields with
  | cons derived rest =>
      cases rest
      simpa only [List.append_nil] using derived

theorem append {others : List TokenKind} (left : Yields derives first word)
    (right : Yields derives second others) :
    Yields derives (first ++ second) (word ++ others) := by
  induction left with
  | nil => exact right
  | cons derived _ induction =>
      simpa only [List.cons_append, List.append_assoc] using Yields.cons derived induction

theorem exists_append (yields : Yields derives (first ++ second) word) :
    ∃ left right, word = left ++ right ∧ Yields derives first left ∧
      Yields derives second right := by
  induction first generalizing word with
  | nil => exact ⟨[], word, rfl, .nil, yields⟩
  | cons own rest induction =>
      cases yields with
      | @cons _ _ head _ derived others =>
          obtain ⟨left, right, rfl, leftYields, rightYields⟩ := induction others
          exact ⟨head ++ left, right, (List.append_assoc ..).symm, .cons derived leftYields,
            rightYields⟩

end Yields

theorem eq_nil_of_derives_empty {word : List TokenKind}
    (derived : grammar.Derives (.element .empty) word) : word = [] := by
  cases derived
  rfl

/-- The empty element is left out as it derives the empty word only. -/
theorem yields_nonempty {derives : Element → List TokenKind → Prop} {element : Element}
    {word : List TokenKind} (derived : grammar.Derives (.element element) word)
    (means : derives element word) : Yields derives element.nonempty word := by
  unfold Element.nonempty
  split
  · rename_i empty
    rw [empty] at derived
    rw [eq_nil_of_derives_empty derived]
    exact .nil
  · exact .singleton means

theorem derives_of_yields_nonempty {element : Element} {word : List TokenKind}
    (yields : Yields (fun own => grammar.Derives (.element own)) element.nonempty word) :
    grammar.Derives (.element element) word := by
  unfold Element.nonempty at yields
  split at yields
  · rename_i empty
    cases yields
    rw [empty]
    exact .empty
  · exact yields.of_singleton

theorem Lists.derives {id : ExprId} {all : List Element} {word : List TokenKind}
    (lists : grammar.Lists id all)
    (yields : Yields (fun own => grammar.Derives (.element own)) all word) :
    grammar.Derives (.chain id) word := by
  induction lists generalizing word with
  | last _ ends => exact .last ends (derives_of_yields_nonempty yields)
  | cons _ following _ induction =>
      obtain ⟨first, rest, rfl, here, later⟩ := yields.exists_append
      exact .cons following (derives_of_yields_nonempty here) (induction later)

/-! ## From the grammar to the description -/

theorem tokenName_of_findToken? {name : String} {kind : TokenKind}
    (found : grammar.findToken? name = some kind) : grammar.tokenName kind = name := by
  obtain ⟨inside, same, -⟩ := Array.findIdx?_eq_some_iff_getElem.mp found
  simpa [tokenName, inside] using same

theorem name_of_findNonTerminal? {name : String} {id : NonTerminalId}
    (found : grammar.findNonTerminal? name = some id) :
    id < grammar.nonTerminals.size ∧ (grammar.nonTerminalOf id).name = name := by
  obtain ⟨inside, same, -⟩ := Array.findIdx?_eq_some_iff_getElem.mp found
  exact ⟨inside, by simpa [nonTerminalOf, inside] using same⟩

theorem Spells.exists_branch {rule : RuleExpr} {ids : List ExprId} {id : ExprId}
    (spells : grammar.Spells rule (.element (.alternation ids))) (member : id ∈ ids) :
    ∃ branches branch all, rule = .alternation branches ∧ branch ∈ branches ∧
      grammar.Lists id all ∧ grammar.Spells branch (.elements all) := by
  induction ids generalizing rule with
  | nil => simp at member
  | cons first rest induction =>
      cases spells with
      | @alternationCons branch branches _ _ all lists spelled others =>
          rcases List.mem_cons.mp member with rfl | later
          · exact ⟨_, branch, all, rfl, List.mem_cons_self, lists, spelled⟩
          · obtain ⟨_, branch, all, same, member, found⟩ := induction others later
            cases same
            exact ⟨_, branch, all, rfl, List.mem_cons_of_mem _ member, found⟩

theorem Spells.exists_ids {branches : List RuleExpr} {own : Element}
    (spells : grammar.Spells (.alternation branches) (.element own)) :
    ∃ ids, own = .alternation ids := by
  cases spells <;> exact ⟨_, rfl⟩

theorem Spells.exists_id {branches : List RuleExpr} {branch : RuleExpr} {ids : List ExprId}
    (spells : grammar.Spells (.alternation branches) (.element (.alternation ids)))
    (member : branch ∈ branches) :
    ∃ id all, id ∈ ids ∧ grammar.Lists id all ∧ grammar.Spells branch (.elements all) := by
  induction branches generalizing ids with
  | nil => simp at member
  | cons first rest induction =>
      cases spells with
      | @alternationCons _ _ id _ all lists spelled others =>
          rcases List.mem_cons.mp member with rfl | later
          · exact ⟨id, all, List.mem_cons_self, lists, spelled⟩
          · obtain ⟨id, all, member, found⟩ := induction others later
            exact ⟨id, all, List.mem_cons_of_mem _ member, found⟩

/-- What an element means: the rules that it stands for derive the word. -/
def Means (grammar : Grammar) (description : Description) (own : Element)
    (word : List TokenKind) : Prop :=
  ∀ rule, grammar.Spells rule (.element own) →
    description.Derives (.rule rule) (word.map grammar.tokenName)

theorem Spells.derives {rule : RuleExpr} {all : List Element} {word : List TokenKind}
    (spells : grammar.Spells rule (.elements all))
    (yields : Yields (grammar.Means description) all word) :
    description.Derives (.rule rule) (word.map grammar.tokenName) := by
  generalize same : Spelling.elements all = spelling at spells
  induction spells generalizing all word with
  | single spells =>
      cases same
      exact yields.of_singleton _ spells
  | empty =>
      cases same
      cases yields
      exact .empty
  | sequenceNil =>
      cases same
      cases yields
      exact .sequenceNil
  | sequenceCons _ _ first others =>
      cases same
      obtain ⟨left, right, rfl, leftYields, rightYields⟩ := yields.exists_append
      rw [List.map_append]
      exact .sequenceCons (first leftYields rfl) (others rightYields rfl)
  | _ => cases same

/-- What the description derives for a phrase of the grammar. -/
def Reads (grammar : Grammar) (description : Description) :
    Phrase → List TokenKind → Prop
  | .chain id, word =>
      ∀ all, grammar.Lists id all → Yields (grammar.Means description) all word
  | .element own, word => grammar.Means description own word
  | .contents parts, word =>
      ∀ content separator contents separators,
        grammar.Lists parts.content contents → grammar.Spells content (.elements contents) →
        grammar.Lists parts.separator separators →
        grammar.Spells separator (.elements separators) →
        description.Derives (.contents content separator parts.trailing)
          (word.map grammar.tokenName)

/-- A rule derives what the grammar derives for it. -/
theorem Transcribes.reads (transcribes : grammar.Transcribes description) {phrase : Phrase}
    {word : List TokenKind} (derived : grammar.Derives phrase word) :
    grammar.Reads description phrase word := by
  -- By induction on the derivation each element of a chain means what its rules derive; `Spells`
  -- then puts the elements of a rule together.
  induction derived with
  | last ends derived means =>
      intro all lists
      cases lists with
      | last => exact yields_nonempty derived means
      | cons _ following => simp [ends] at following
  | cons following derived _ means rest =>
      intro all lists
      cases lists with
      | last _ ends => simp [following] at ends
      | cons _ following' lists =>
          obtain rfl := Option.some.inj (following.symm.trans following')
          exact (yields_nonempty derived means).append (rest _ lists)
  | token =>
      intro rule spells
      cases spells with
      | token found =>
          rw [List.map_singleton, tokenName_of_findToken? found]
          exact .token
  | nonTerminal _ reads =>
      intro rule spells
      cases spells with
      | nonTerminal found =>
          obtain ⟨rule, all, has, lists, spells⟩ := transcribes _ _ found
          exact .nonTerminal has (spells.derives (reads all lists))
  | empty =>
      intro rule spells
      cases spells
  | optional _ reads =>
      intro rule spells
      cases spells with
      | optional lists spells => exact .optional (spells.derives (reads _ lists))
  | optionalAbsent =>
      intro rule spells
      cases spells with
      | optional lists spells => exact .optionalAbsent
  | alternation member _ reads =>
      intro rule spells
      obtain ⟨branches, branch, all, rfl, member, lists, spells⟩ := spells.exists_branch member
      exact .alternation member (spells.derives (reads all lists))
  | unled leading _ reads =>
      intro rule spells
      cases spells with
      | repetition contents content separators separator =>
          exact .unled leading (reads _ _ _ _ contents content separators separator)
  | led leading _ _ lead reads =>
      intro rule spells
      cases spells with
      | repetition contents content separators separator =>
          rw [List.map_append]
          exact .led leading (separator.derives (lead _ separators))
            (reads _ _ _ _ contents content separators separator)
  | content trailing _ reads =>
      intro _ _ _ _ contents content _ _
      exact .content trailing (content.derives (reads _ contents))
  | trailing trailing _ _ reads trail =>
      intro _ _ _ _ contents content separators separator
      rw [List.map_append]
      exact .trailing trailing (content.derives (reads _ contents))
        (separator.derives (trail _ separators))
  | separated _ _ _ first between rest =>
      intro _ _ _ _ contents content separators separator
      rw [List.map_append, List.map_append]
      exact .separated (content.derives (first _ contents))
        (separator.derives (between _ separators))
        (rest _ _ _ _ contents content separators separator)

/-! ## From the description to the grammar -/

/-- What the grammar derives for a phrase of the description. -/
def Writes (grammar : Grammar) : Description.Phrase → List String → Prop
  | .rule rule, word =>
      ∀ all, grammar.Spells rule (.elements all) →
        ∃ kinds, kinds.map grammar.tokenName = word ∧
          Yields (fun own => grammar.Derives (.element own)) all kinds
  | .contents content separator trailing, word =>
      ∀ parts contents separators, parts.trailing = trailing →
        grammar.Lists parts.content contents → grammar.Spells content (.elements contents) →
        grammar.Lists parts.separator separators →
        grammar.Spells separator (.elements separators) →
        ∃ kinds, kinds.map grammar.tokenName = word ∧
          grammar.Derives (.contents parts) kinds

/-- The rule is spelled with one element: it is neither empty nor a sequence. -/
def IsSingle : RuleExpr → Prop
  | .empty => False
  | .sequence _ => False
  | _ => True

theorem writes_of_element {rule : RuleExpr} {word : List String} (single : IsSingle rule)
    (writes : ∀ own, grammar.Spells rule (.element own) →
      ∃ kinds, kinds.map grammar.tokenName = word ∧ grammar.Derives (.element own) kinds) :
    grammar.Writes (.rule rule) word := by
  intro all spells
  cases spells with
  | single spells =>
      obtain ⟨kinds, named, derived⟩ := writes _ spells
      exact ⟨kinds, named, .singleton derived⟩
  | empty => exact single.elim
  | sequenceNil => exact single.elim
  | sequenceCons => exact single.elim

/-- A rule derives a word through the chain that it is spelled with. -/
theorem Writes.exists_derives {rule : RuleExpr} {word : List String} {id : ExprId}
    {all : List Element} (writes : grammar.Writes (.rule rule) word) (lists : grammar.Lists id all)
    (spells : grammar.Spells rule (.elements all)) :
    ∃ kinds, kinds.map grammar.tokenName = word ∧ grammar.Derives (.chain id) kinds := by
  obtain ⟨kinds, named, yields⟩ := writes all spells
  exact ⟨kinds, named, lists.derives yields⟩

/-- The grammar derives for a rule what the rule derives. -/
theorem Transcribes.writes (transcribes : grammar.Transcribes description)
    {phrase : Description.Phrase} {word : List String}
    (derived : description.Derives phrase word) : grammar.Writes phrase word := by
  -- Only the items of a sequence share a chain; the other rules have an element of their own.
  induction derived with
  | @token name =>
      refine writes_of_element trivial ?_
      intro own spells
      cases spells with
      | @token _ kind found =>
          exact ⟨[kind], by rw [List.map_singleton, tokenName_of_findToken? found], .token⟩
  | nonTerminal has _ writes =>
      refine writes_of_element trivial ?_
      intro own spells
      cases spells with
      | nonTerminal found =>
          obtain ⟨rule, all, has', lists, spells⟩ := transcribes _ _ found
          obtain rfl := Option.some.inj (has.symm.trans has')
          obtain ⟨kinds, named, derived⟩ := Writes.exists_derives writes lists spells
          exact ⟨kinds, named, .nonTerminal derived⟩
  | empty =>
      intro all spells
      cases spells with
      | single spells => cases spells
      | empty => exact ⟨[], rfl, .nil⟩
  | optional _ writes =>
      refine writes_of_element trivial ?_
      intro own spells
      cases spells with
      | optional lists spells =>
          obtain ⟨kinds, named, derived⟩ := Writes.exists_derives writes lists spells
          exact ⟨kinds, named, .optional derived⟩
  | optionalAbsent =>
      refine writes_of_element trivial ?_
      intro own spells
      cases spells with
      | optional lists spells =>
          exact ⟨[], rfl, .optionalAbsent⟩
  | alternation member _ writes =>
      refine writes_of_element trivial ?_
      intro own spells
      obtain ⟨ids, rfl⟩ := spells.exists_ids
      obtain ⟨id, all, member, lists, spells⟩ := spells.exists_id member
      obtain ⟨kinds, named, derived⟩ := Writes.exists_derives writes lists spells
      exact ⟨kinds, named, .alternation member derived⟩
  | sequenceNil =>
      intro all spells
      cases spells with
      | single spells => cases spells
      | sequenceNil => exact ⟨[], rfl, .nil⟩
  | sequenceCons _ _ first others =>
      intro all spells
      cases spells with
      | single spells => cases spells
      | sequenceCons item rest =>
          obtain ⟨left, named, leftYields⟩ := first _ item
          obtain ⟨right, named', rightYields⟩ := others _ rest
          exact ⟨left ++ right, by rw [List.map_append, named, named'],
            leftYields.append rightYields⟩
  | unled leading _ writes =>
      refine writes_of_element trivial ?_
      intro own spells
      cases spells with
      | repetition contents content separators separator =>
          obtain ⟨kinds, named, derived⟩ :=
            writes ⟨_, _, _, _⟩ _ _ rfl contents content separators separator
          exact ⟨kinds, named, .unled leading derived⟩
  | led leading _ _ lead writes =>
      refine writes_of_element trivial ?_
      intro own spells
      cases spells with
      | repetition contents content separators separator =>
          obtain ⟨left, named, leads⟩ := Writes.exists_derives lead separators separator
          obtain ⟨right, named', derived⟩ :=
            writes ⟨_, _, _, _⟩ _ _ rfl contents content separators separator
          exact ⟨left ++ right, by rw [List.map_append, named, named'],
            .led leading leads derived⟩
  | content trailing _ writes =>
      rintro parts _ _ rfl contents content _ _
      obtain ⟨kinds, named, derived⟩ := Writes.exists_derives writes contents content
      exact ⟨kinds, named, .content trailing derived⟩
  | trailing trailing _ _ writes trail =>
      rintro parts _ _ rfl contents content separators separator
      obtain ⟨left, named, derived⟩ := Writes.exists_derives writes contents content
      obtain ⟨right, named', trails⟩ := Writes.exists_derives trail separators separator
      exact ⟨left ++ right, by rw [List.map_append, named, named'],
        .trailing trailing derived trails⟩
  | separated _ _ _ first between rest =>
      rintro parts _ _ rfl contents content separators separator
      obtain ⟨left, named, derived⟩ := Writes.exists_derives first contents content
      obtain ⟨middle, named', separates⟩ := Writes.exists_derives between separators separator
      obtain ⟨right, named'', others⟩ :=
        rest _ _ _ rfl contents content separators separator
      refine ⟨left ++ (middle ++ right), ?_, .separated derived separates others⟩
      rw [List.map_append, List.map_append, named, named', named'']

theorem Transcribes.derives_iff (transcribes : grammar.Transcribes description) {name : String}
    {id : NonTerminalId} (found : grammar.findNonTerminal? name = some id) (word : List String) :
    (∃ kinds, kinds.map grammar.tokenName = word ∧
        grammar.Derives (.element (.nonTerminal id)) kinds) ↔
      description.Derives (.rule (.nonTerminal name)) word := by
  constructor
  · rintro ⟨kinds, rfl, derived⟩
    exact transcribes.reads derived _ (.nonTerminal found)
  · intro derived
    obtain ⟨kinds, named, yields⟩ :=
      transcribes.writes derived _ (.single (.nonTerminal found))
    exact ⟨kinds, named, yields.of_singleton⟩

end Grammar

end Reparse
