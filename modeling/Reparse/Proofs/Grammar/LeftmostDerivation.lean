import Reparse.Proofs.Grammar.Conflict

/-!
# Leftmost derivations

What a first set holds begins some form that the chain leads to.  The converse needs that a
repetition whose contents can match nothing has separators that can, as a single empty content does
not show in its first set.

Main statement: `firstOf_agrees`.
-/

namespace Reparse

namespace Grammar

def wordForm (word : List TokenKind) : List Phrase := word.map fun kind => .element (.token kind)

/-- What a phrase may be replaced by.  Nothing replaces a token. -/
inductive Rewrites (grammar : Grammar) : Phrase → List Phrase → Prop where
  | last {id : ExprId} :
      (grammar.expr id).next = none →
      Rewrites grammar (.chain id) [.element (grammar.expr id).element]
  | cons {id next : ExprId} :
      (grammar.expr id).next = some next →
      Rewrites grammar (.chain id) [.element (grammar.expr id).element, .chain next]
  | nonTerminal {name : NonTerminalId} :
      Rewrites grammar (.element (.nonTerminal name)) [.chain (grammar.ruleOf name)]
  | empty : Rewrites grammar (.element .empty) []
  | optional {inner : ExprId} : Rewrites grammar (.element (.optional inner)) [.chain inner]
  | optionalAbsent {inner : ExprId} : Rewrites grammar (.element (.optional inner)) []
  | alternation {branch : ExprId} {branches : List ExprId} :
      branch ∈ branches → Rewrites grammar (.element (.alternation branches)) [.chain branch]
  | unled {parts : Repetition} :
      parts.leading ≠ .required →
      Rewrites grammar (.element (.repetition parts)) [.contents parts]
  | led {parts : Repetition} :
      parts.leading ≠ .prohibited →
      Rewrites grammar (.element (.repetition parts)) [.chain parts.separator, .contents parts]
  | content {parts : Repetition} :
      parts.trailing ≠ .required → Rewrites grammar (.contents parts) [.chain parts.content]
  | trailing {parts : Repetition} :
      parts.trailing ≠ .prohibited →
      Rewrites grammar (.contents parts) [.chain parts.content, .chain parts.separator]
  | separated {parts : Repetition} :
      Rewrites grammar (.contents parts)
        [.chain parts.content, .chain parts.separator, .contents parts]

/-- A step of a leftmost derivation: before the phrase that is replaced there are tokens only. -/
inductive LeftmostStep (grammar : Grammar) : List Phrase → List Phrase → Prop where
  | replace {phrase : Phrase} {replacement : List Phrase} (word : List TokenKind)
      (rest : List Phrase) :
      grammar.Rewrites phrase replacement →
      LeftmostStep grammar (wordForm word ++ phrase :: rest)
        (wordForm word ++ (replacement ++ rest))

/-- A leftmost derivation leads from one form to another one. -/
def LeadsTo (grammar : Grammar) : List Phrase → List Phrase → Prop :=
  Relation.ReflTransGen grammar.LeftmostStep

/-- Some leftmost derivation from the form reaches one that starts with a token of the kind. -/
def Begins (grammar : Grammar) (form : List Phrase) (kind : TokenKind) : Prop :=
  ∃ rest, grammar.LeadsTo form (.element (.token kind) :: rest)

/-- By the prediction, repetitions whose contents can match nothing have separators that can match
nothing. -/
def SeparatorsVanish (grammar : Grammar) : Prop :=
  ∀ id parts, (grammar.expr id).element = .repetition parts →
    (grammar.predict.firstOf parts.content).nullable = true →
    (grammar.predict.firstOf parts.separator).nullable = true

variable {grammar : Grammar} {phrase : Phrase} {form form' rest : List Phrase}
  {word later : List TokenKind} {kind : TokenKind} {id : ExprId}

@[simp]
theorem wordForm_append (word later : List TokenKind) :
    wordForm (word ++ later) = wordForm word ++ wordForm later := List.map_append

/-! ## Steps in a larger form -/

theorem LeftmostStep.append (step : grammar.LeftmostStep form form') (rest : List Phrase) :
    grammar.LeftmostStep (form ++ rest) (form' ++ rest) := by
  cases step with
  | replace word own rewrites =>
      simp only [List.append_assoc, List.cons_append]
      exact .replace word (own ++ rest) rewrites

theorem LeftmostStep.after (step : grammar.LeftmostStep form form') (word : List TokenKind) :
    grammar.LeftmostStep (wordForm word ++ form) (wordForm word ++ form') := by
  cases step with
  | replace own rest rewrites =>
      simp only [← List.append_assoc, ← wordForm_append]
      simp only [List.append_assoc]
      exact .replace (word ++ own) rest rewrites

namespace LeadsTo

theorem append (leads : grammar.LeadsTo form form') (rest : List Phrase) :
    grammar.LeadsTo (form ++ rest) (form' ++ rest) :=
  Relation.ReflTransGen.lift (· ++ rest) (fun _ _ step => step.append rest) _ _ leads

theorem after (leads : grammar.LeadsTo form form') (word : List TokenKind) :
    grammar.LeadsTo (wordForm word ++ form) (wordForm word ++ form') :=
  Relation.ReflTransGen.lift (wordForm word ++ ·) (fun _ _ step => step.after word) _ _ leads

theorem cons (first : grammar.LeadsTo [phrase] (wordForm word))
    (second : grammar.LeadsTo rest (wordForm later)) :
    grammar.LeadsTo (phrase :: rest) (wordForm (word ++ later)) := by
  have head : grammar.LeadsTo (phrase :: rest) (wordForm word ++ rest) := first.append rest
  rw [wordForm_append]
  exact head.trans (second.after word)

theorem of_rewrites (rewrites : grammar.Rewrites phrase form) (leads : grammar.LeadsTo form form') :
    grammar.LeadsTo [phrase] form' := by
  have step : grammar.LeftmostStep [phrase] form := by
    simpa [wordForm] using LeftmostStep.replace [] [] rewrites
  exact leads.head step

end LeadsTo

/-! ## The words of leftmost derivations -/

/-- The phrases of the form derive the word, one after the other. -/
def DerivesAll (grammar : Grammar) : List Phrase → List TokenKind → Prop
  | [], word => word = []
  | phrase :: rest, word =>
      ∃ first later, word = first ++ later ∧ grammar.Derives phrase first ∧
        grammar.DerivesAll rest later

@[simp]
theorem derivesAll_nil : grammar.DerivesAll [] word ↔ word = [] := Iff.rfl

theorem derivesAll_cons :
    grammar.DerivesAll (phrase :: rest) word ↔
      ∃ first later, word = first ++ later ∧ grammar.Derives phrase first ∧
        grammar.DerivesAll rest later := Iff.rfl

@[simp]
theorem derivesAll_singleton :
    grammar.DerivesAll [phrase] word ↔ grammar.Derives phrase word := by
  simp [derivesAll_cons]

theorem derivesAll_append :
    grammar.DerivesAll (form ++ rest) word ↔
      ∃ first later, word = first ++ later ∧ grammar.DerivesAll form first ∧
        grammar.DerivesAll rest later := by
  induction form generalizing word with
  | nil => simp
  | cons phrase form induction =>
      simp only [List.cons_append, derivesAll_cons, induction]
      constructor
      · rintro ⟨first, _, rfl, derives, second, third, rfl, derives', derives''⟩
        exact ⟨first ++ second, third, (List.append_assoc ..).symm,
          ⟨first, second, rfl, derives, derives'⟩, derives''⟩
      · rintro ⟨_, third, rfl, ⟨first, second, rfl, derives, derives'⟩, derives''⟩
        exact ⟨first, second ++ third, List.append_assoc .., derives, second, third, rfl,
          derives', derives''⟩

theorem derivesAll_wordForm (word : List TokenKind) :
    grammar.DerivesAll (wordForm word) word := by
  induction word with
  | nil => rfl
  | cons kind word induction => exact ⟨[kind], word, rfl, .token, induction⟩

theorem Rewrites.derives (rewrites : grammar.Rewrites phrase form)
    (derives : grammar.DerivesAll form word) : grammar.Derives phrase word := by
  cases rewrites with
  | last last =>
      rw [derivesAll_singleton] at derives
      exact .last last derives
  | cons following =>
      obtain ⟨first, later, rfl, own, next⟩ := derives
      rw [derivesAll_singleton] at next
      exact .cons following own next
  | nonTerminal =>
      rw [derivesAll_singleton] at derives
      exact .nonTerminal derives
  | empty =>
      obtain rfl := derives
      exact .empty
  | optional =>
      rw [derivesAll_singleton] at derives
      exact .optional derives
  | optionalAbsent =>
      obtain rfl := derives
      exact .optionalAbsent
  | alternation member =>
      rw [derivesAll_singleton] at derives
      exact .alternation member derives
  | unled optional =>
      rw [derivesAll_singleton] at derives
      exact .unled optional derives
  | led allowed =>
      obtain ⟨first, later, rfl, separator, contents⟩ := derives
      rw [derivesAll_singleton] at contents
      exact .led allowed separator contents
  | content optional =>
      rw [derivesAll_singleton] at derives
      exact .content optional derives
  | trailing allowed =>
      obtain ⟨first, later, rfl, content, separator⟩ := derives
      rw [derivesAll_singleton] at separator
      exact .trailing allowed content separator
  | separated =>
      obtain ⟨first, _, rfl, content, second, later, rfl, separator, contents⟩ := derives
      rw [derivesAll_singleton] at contents
      exact .separated content separator contents

theorem LeftmostStep.derivesAll (step : grammar.LeftmostStep form form')
    (derives : grammar.DerivesAll form' word) : grammar.DerivesAll form word := by
  cases step with
  | replace before rest rewrites =>
      obtain ⟨first, _, rfl, tokens, derives⟩ := derivesAll_append.mp derives
      obtain ⟨second, third, rfl, replacement, others⟩ := derivesAll_append.mp derives
      exact derivesAll_append.mpr ⟨first, second ++ third, rfl, tokens, second, third, rfl,
        rewrites.derives replacement, others⟩

theorem LeadsTo.derivesAll (leads : grammar.LeadsTo form form')
    (derives : grammar.DerivesAll form' word) : grammar.DerivesAll form word := by
  induction leads using Relation.ReflTransGen.head_induction_on with
  | refl => exact derives
  | head step _ derives => exact step.derivesAll derives

theorem Derives.leadsTo (derives : grammar.Derives phrase word) :
    grammar.LeadsTo [phrase] (wordForm word) := by
  induction derives with
  | last last _ element => exact .of_rewrites (.last last) element
  | cons following _ _ element rest => exact .of_rewrites (.cons following) (element.cons rest)
  | token => exact .refl
  | nonTerminal _ rule => exact .of_rewrites .nonTerminal rule
  | empty => exact .of_rewrites .empty .refl
  | optional _ inner => exact .of_rewrites .optional inner
  | optionalAbsent => exact .of_rewrites .optionalAbsent .refl
  | alternation member _ branch => exact .of_rewrites (.alternation member) branch
  | unled optional _ contents => exact .of_rewrites (.unled optional) contents
  | led allowed _ _ separator contents =>
      exact .of_rewrites (.led allowed) (separator.cons contents)
  | content optional _ content => exact .of_rewrites (.content optional) content
  | trailing allowed _ _ content separator =>
      exact .of_rewrites (.trailing allowed) (content.cons separator)
  | separated _ _ _ content separator rest =>
      exact .of_rewrites .separated (content.cons (separator.cons rest))

/-- The words that a phrase derives are those of its leftmost derivations. -/
theorem derives_iff_leadsTo :
    grammar.Derives phrase word ↔ grammar.LeadsTo [phrase] (wordForm word) := by
  constructor
  · exact Derives.leadsTo
  · intro leads
    exact derivesAll_singleton.mp (leads.derivesAll (derivesAll_wordForm word))

/-! ## What first sets hold begins a form -/

namespace Begins

theorem append (begins : grammar.Begins form kind) (rest : List Phrase) :
    grammar.Begins (form ++ rest) kind := by
  obtain ⟨own, leads⟩ := begins
  exact ⟨own ++ rest, leads.append rest⟩

theorem of_rewrites (rewrites : grammar.Rewrites phrase form) (begins : grammar.Begins form kind) :
    grammar.Begins [phrase] kind := by
  obtain ⟨rest, leads⟩ := begins
  exact ⟨rest, .of_rewrites rewrites leads⟩

theorem cons (vanishes : grammar.Derives phrase []) (begins : grammar.Begins form kind) :
    grammar.Begins (phrase :: form) kind := by
  obtain ⟨rest, leads⟩ := begins
  have head : grammar.LeadsTo (phrase :: form) form := vanishes.leadsTo.append form
  exact ⟨rest, head.trans leads⟩

end Begins

section Soundness

variable {sets : PredictionSets}
  (vanishes : ∀ id, (sets.firstOf id).nullable = true → grammar.Derives (.chain id) [])
  (begins : ∀ id, ∀ kind ∈ (sets.firstOf id).tokens, grammar.Begins [.chain id] kind)

include vanishes begins

theorem begins_of_mem_bodyFirst {parts : Repetition}
    (starts : kind ∈ (bodyFirst sets parts).tokens) : grammar.Begins [.contents parts] kind := by
  rw [bodyFirst, FirstSet.mem_andThen] at starts
  rcases starts with content | ⟨nullable, separator⟩
  · exact .of_rewrites .separated ((begins _ kind content).append _)
  · exact .of_rewrites .separated
      (.cons (vanishes _ nullable) ((begins _ kind separator).append _))

theorem begins_of_mem_elementFirst {element : Element}
    (starts : kind ∈ (grammar.elementFirst sets element).tokens) :
    grammar.Begins [.element element] kind := by
  cases element with
  | token own =>
      obtain rfl := FirstSet.mem_ofKind.mp starts
      exact ⟨[], .refl⟩
  | nonTerminal name => exact .of_rewrites .nonTerminal (begins _ kind starts)
  | empty => simp at starts
  | optional inner => exact .of_rewrites .optional (begins _ kind starts)
  | alternation branches =>
      obtain ⟨branch, member, starts⟩ := mem_elementFirst_alternation.mp starts
      exact .of_rewrites (.alternation member) (begins _ kind starts)
  | repetition parts =>
      rw [elementFirst_repetition, mem_repetitionFirst] at starts
      rcases starts with ⟨allowed, separator⟩ | ⟨nullable, body⟩
      · exact .of_rewrites (.led allowed) ((begins _ kind separator).append _)
      · have contents := begins_of_mem_bodyFirst vanishes begins body
        by_cases required : parts.leading = .required
        · exact .of_rewrites (.led (by simp [required]))
            (.cons (vanishes _ (nullable required)) contents)
        · exact .of_rewrites (.unled required) contents

theorem begins_of_mem_chainFirst
    (starts : kind ∈ (grammar.chainFirst sets (grammar.expr id)).tokens) :
    grammar.Begins [.chain id] kind := by
  unfold chainFirst at starts
  cases following : (grammar.expr id).next with
  | none =>
      rw [following] at starts
      exact .of_rewrites (.last following) (begins_of_mem_elementFirst vanishes begins starts)
  | some next =>
      rw [following, FirstSet.mem_andThen] at starts
      rcases starts with own | ⟨nullable, later⟩
      · exact .of_rewrites (.cons following)
          ((begins_of_mem_elementFirst vanishes begins own).append _)
      · exact .of_rewrites (.cons following)
          (.cons (derives_nil_of_elementFirst vanishes nullable) (begins next kind later))

end Soundness

theorem begins_of_mem_firstOf (starts : kind ∈ (grammar.predict.firstOf id).tokens) :
    grammar.Begins [.chain id] kind := by
  refine knows_induction
    (fun fact => ∀ id kind, fact = .starts id kind → grammar.Begins [.chain id] kind) ?_
    (show grammar.predict.Knows (.starts id kind) from starts) id kind rfl
  rintro sets below earlier fact - entailed id kind rfl
  have vanishes : ∀ id, (sets.firstOf id).nullable = true → grammar.Derives (.chain id) [] :=
    fun id nullable => derives_nil_of_nullable ((below.firstOf id).nullable nullable)
  have begins : ∀ id, ∀ kind ∈ (sets.firstOf id).tokens, grammar.Begins [.chain id] kind :=
    fun id kind starts => earlier (.starts id kind) starts id kind rfl
  exact begins_of_mem_chainFirst vanishes begins entailed

/-! ## What begins a form is in its first set -/

def formFirst (grammar : Grammar) : List Phrase → FirstSet
  | [] => .epsilon
  | phrase :: rest => (grammar.phraseFirst phrase).andThen (grammar.formFirst rest)

@[simp]
theorem formFirst_nil : grammar.formFirst [] = .epsilon := rfl

@[simp]
theorem formFirst_cons :
    grammar.formFirst (phrase :: rest) =
      (grammar.phraseFirst phrase).andThen (grammar.formFirst rest) := rfl

@[simp]
theorem formFirst_append :
    grammar.formFirst (form ++ rest) =
      (grammar.formFirst form).andThen (grammar.formFirst rest) := by
  induction form with
  | nil => simp
  | cons phrase form induction => simp [induction, FirstSet.andThen_assoc]

theorem phraseFirst_contents (parts : Repetition) :
    grammar.phraseFirst (.contents parts) =
      (grammar.phraseFirst (.chain parts.content)).andThen
        (grammar.phraseFirst (.chain parts.separator)) := rfl

theorem phraseFirst_repetition (parts : Repetition) :
    grammar.phraseFirst (.element (.repetition parts)) =
      (leadFirst grammar.predict.toPredictionSets parts).andThen
        (grammar.phraseFirst (.contents parts)) := repetitionFirst_eq parts

/-- The phrase is a chain of the grammar, or a part of one. -/
def HasPhrase (grammar : Grammar) : Phrase → Prop
  | .chain id => id < grammar.exprs.size
  | .element own => ∃ id < grammar.exprs.size, (grammar.expr id).element = own
  | .contents parts => ∃ id < grammar.exprs.size, (grammar.expr id).element = .repetition parts

theorem HasPhrase.parts {parts : Repetition} (has : grammar.HasPhrase (.contents parts))
    (ordered : grammar.Ordered) :
    grammar.HasPhrase (.chain parts.content) ∧ grammar.HasPhrase (.chain parts.separator) := by
  obtain ⟨id, inside, found⟩ := has
  have below : ∀ part ∈ (grammar.expr id).element.parts, part < grammar.exprs.size :=
    fun part member => (ordered.part_lt member).trans inside
  constructor
  · exact below _ (by simp [found, Element.parts])
  · exact below _ (by simp [found, Element.parts])

theorem Rewrites.hasPhrase (rewrites : grammar.Rewrites phrase form) (ordered : grammar.Ordered)
    (has : grammar.HasPhrase phrase) : ∀ part ∈ form, grammar.HasPhrase part := by
  cases rewrites with
  | @last id =>
      have own : grammar.HasPhrase (.element (grammar.expr id).element) := ⟨id, has, rfl⟩
      simpa using own
  | @cons id next following =>
      have own : grammar.HasPhrase (.element (grammar.expr id).element) := ⟨id, has, rfl⟩
      have later : grammar.HasPhrase (.chain next) := (ordered.next_lt following).trans has
      simpa using ⟨own, later⟩
  | @nonTerminal name =>
      have rule : grammar.HasPhrase (.chain (grammar.ruleOf name)) := ordered.rule_lt name
      simpa using rule
  | empty | optionalAbsent => simp
  | @optional inner =>
      obtain ⟨id, inside, found⟩ := has
      have chain : grammar.HasPhrase (.chain inner) :=
        (ordered.part_lt (by simp [found, Element.parts])).trans inside
      simpa using chain
  | @alternation branch branches member =>
      obtain ⟨id, inside, found⟩ := has
      have chain : grammar.HasPhrase (.chain branch) :=
        (ordered.part_lt (by simpa [found, Element.parts])).trans inside
      simpa using chain
  | @unled parts =>
      have contents : grammar.HasPhrase (.contents parts) := has
      simpa using contents
  | @led parts =>
      have contents : grammar.HasPhrase (.contents parts) := has
      simpa using ⟨(contents.parts ordered).2, contents⟩
  | content => simpa using (has.parts ordered).1
  | trailing => simpa using has.parts ordered
  | separated => simpa using ⟨(has.parts ordered).1, (has.parts ordered).2, has⟩

/-- What may replace a phrase starts with nothing that the phrase does not start with. -/
theorem Rewrites.below (rewrites : grammar.Rewrites phrase form)
    (vanish : grammar.SeparatorsVanish) (has : grammar.HasPhrase phrase) :
    (grammar.formFirst form).Below (grammar.phraseFirst phrase) := by
  cases rewrites with
  | last last =>
      have same := firstOf_of_last has last
      simpa [phraseFirst, same] using FirstSet.Below.refl _
  | cons following =>
      have same := firstOf_of_next has following
      simpa [phraseFirst, same] using FirstSet.Below.refl _
  | nonTerminal =>
      rw [formFirst_cons, formFirst_nil, FirstSet.andThen_epsilon]
      exact .refl _
  | empty => exact .refl _
  | optional =>
      rw [formFirst_cons, formFirst_nil, FirstSet.andThen_epsilon]
      exact ⟨fun _ starts => starts, fun _ => rfl⟩
  | optionalAbsent => exact ⟨by simp, fun _ => rfl⟩
  | @alternation branch branches member =>
      rw [formFirst_cons, formFirst_nil, FirstSet.andThen_epsilon]
      constructor
      · intro kind starts
        rw [phraseFirst, startOf, mem_elementFirst_alternation]
        exact ⟨branch, member, starts⟩
      · intro nullable
        rw [phraseFirst, startOf, nullable_elementFirst_alternation]
        exact ⟨branch, member, nullable⟩
  | @unled parts optional =>
      have absent : FirstSet.epsilon.Below (leadFirst grammar.predict.toPredictionSets parts) :=
        ⟨by simp, fun _ => nullable_leadFirst.mpr fun required => (optional required).elim⟩
      rw [phraseFirst_repetition]
      simpa using absent.andThen (.refl (grammar.phraseFirst (.contents parts)))
  | @led parts allowed =>
      have lead : (grammar.phraseFirst (.chain parts.separator)).Below
          (leadFirst grammar.predict.toPredictionSets parts) :=
        ⟨fun _ starts => mem_leadFirst.mpr ⟨allowed, starts⟩,
          fun nullable => nullable_leadFirst.mpr fun _ => nullable⟩
      rw [phraseFirst_repetition]
      simpa using lead.andThen (.refl (grammar.phraseFirst (.contents parts)))
  | @content parts =>
      obtain ⟨id, _, found⟩ := has
      have nullable : (grammar.predict.firstOf parts.content).nullable = true →
          (grammar.predict.firstOf parts.separator).nullable = true := vanish id parts found
      rw [formFirst_cons, formFirst_nil, FirstSet.andThen_epsilon, phraseFirst_contents]
      constructor
      · intro kind starts
        exact FirstSet.mem_andThen.mpr (.inl starts)
      · intro content
        rw [FirstSet.nullable_andThen, Bool.and_eq_true]
        exact ⟨content, nullable content⟩
  | trailing =>
      rw [phraseFirst_contents]
      simpa using FirstSet.Below.refl _
  | separated =>
      simp only [formFirst_cons, formFirst_nil, FirstSet.andThen_epsilon, phraseFirst_contents]
      constructor
      · intro kind starts
        simp only [FirstSet.mem_andThen] at starts ⊢
        tauto
      · intro nullable
        simp only [FirstSet.nullable_andThen, Bool.and_eq_true] at nullable ⊢
        exact ⟨nullable.1, nullable.2.1⟩

/-- A step of a derivation finds nothing new to start with. -/
theorem LeftmostStep.below (step : grammar.LeftmostStep form form') (ordered : grammar.Ordered)
    (vanish : grammar.SeparatorsVanish) (has : ∀ part ∈ form, grammar.HasPhrase part) :
    (grammar.formFirst form').Below (grammar.formFirst form) ∧
      ∀ part ∈ form', grammar.HasPhrase part := by
  cases step with
  | @replace phrase replacement word rest rewrites =>
      have own : grammar.HasPhrase phrase := has phrase (by simp)
      constructor
      · simp only [formFirst_append, formFirst_cons]
        exact .andThen (.refl _) ((rewrites.below vanish own).andThen (.refl _))
      · intro part member
        rcases List.mem_append.mp member with token | member
        · exact has part (List.mem_append_left _ token)
        · rcases List.mem_append.mp member with new | old
          · exact rewrites.hasPhrase ordered own part new
          · exact has part (by simp [old])

theorem LeadsTo.below (leads : grammar.LeadsTo form form') (ordered : grammar.Ordered)
    (vanish : grammar.SeparatorsVanish) (has : ∀ part ∈ form, grammar.HasPhrase part) :
    (grammar.formFirst form').Below (grammar.formFirst form) := by
  induction leads using Relation.ReflTransGen.head_induction_on with
  | refl => exact .refl _
  | head step _ induction =>
      obtain ⟨below, has'⟩ := step.below ordered vanish has
      exact (induction has').trans below

/-- What first sets tell is derived, and conversely if separators can match nothing wherever
contents can. -/
theorem firstOf_agrees (built : grammar.Built) (inside : id < grammar.exprs.size) :
    ((grammar.predict.firstOf id).nullable = true → grammar.Derives (.chain id) []) ∧
      (∀ kind ∈ (grammar.predict.firstOf id).tokens, grammar.Begins [.chain id] kind) ∧
      (grammar.SeparatorsVanish →
        (grammar.Derives (.chain id) [] → (grammar.predict.firstOf id).nullable = true) ∧
          ∀ kind, grammar.Begins [.chain id] kind →
            kind ∈ (grammar.predict.firstOf id).tokens) := by
  refine ⟨derives_nil_of_nullable, fun kind => begins_of_mem_firstOf, fun vanish => ?_⟩
  have has : ∀ part ∈ [Phrase.chain id], grammar.HasPhrase part :=
    List.forall_mem_singleton.mpr inside
  have below : ∀ {form}, grammar.LeadsTo [.chain id] form →
      (grammar.formFirst form).Below (grammar.predict.firstOf id) := by
    intro form leads
    simpa [phraseFirst] using leads.below built.ordered vanish has
  constructor
  · intro derives
    exact (below derives.leadsTo).nullable rfl
  · rintro kind ⟨rest, leads⟩
    have starts : kind ∈ (grammar.formFirst (.element (.token kind) :: rest)).tokens := by
      simp [phraseFirst, startOf]
    exact (below leads).tokens kind starts

/-- In brackets there may be nothing, or lists that start with an opening bracket. -/
theorem firstOf_agrees_bracketLists :
    Built bracketLists ∧ 6 < bracketLists.exprs.size ∧ SeparatorsVanish bracketLists ∧
      Derives bracketLists (.chain 6) [] ∧
      ∀ kind, Begins bracketLists [.chain 6] kind ↔ kind = 0 := by
  have first : bracketLists.predict.firstOf 6 = ⟨.singleton 0, true⟩ := by decide +kernel
  have content : bracketLists.predict.firstOf 4 = .ofKind 0 := by decide +kernel
  have vanish : SeparatorsVanish bracketLists := by
    intro id parts found nullable
    obtain ⟨-, rfl⟩ := (choices_bracketLists id).2.2 parts found
    simp [content] at nullable
  have inside : 6 < bracketLists.exprs.size := by decide +kernel
  obtain ⟨empty, begins, complete⟩ := firstOf_agrees built_bracketLists inside
  refine ⟨built_bracketLists, inside, vanish, empty (by rw [first]), fun kind => ⟨?_, ?_⟩⟩
  · intro begun
    have member := (complete vanish).2 kind begun
    simpa [first] using member
  · rintro rfl
    exact begins 0 (by simp [first])

end Grammar

end Reparse
