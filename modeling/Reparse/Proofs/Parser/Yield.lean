import Reparse.Proofs.Grammar.Conflict
import Reparse.Proofs.Parser.Shape

/-!
# The tokens of a derivation tree are a word of the grammar

A derivation tree in which nothing is missing and every repetition has a content derives the kinds
of the tokens that were consumed in it, also where tokens were skipped or hidden.
-/

namespace Reparse

open Grammar (Occurs ConflictFree)

namespace Tree

/-- Nothing is missing at the node, and if it is a repetition then it has a content. -/
structure Whole (grammar : Grammar) (node : Tree) : Prop where
  present : node.isMissing = false
  filled : ∀ expr items, node = .repetition expr items → node.contents grammar ≠ []

def wordIn (document : Document) (chains : List (List Tree)) : List TokenKind :=
  (consumedIn chains).filterMap fun id => (document.token? id).map Token.kind

variable {grammar : Grammar} {document : Document}

theorem wordIn_cons (chain : List Tree) (rest : List (List Tree)) :
    wordIn document (chain :: rest) = wordIn document [chain] ++ wordIn document rest := by
  rw [wordIn, consumedIn, leavesIn_cons]
  simp [wordIn, consumedIn]

theorem wordIn_cons_cons (first second : List Tree) (rest : List (List Tree)) :
    wordIn document (first :: second :: rest) =
      wordIn document [first] ++ (wordIn document [second] ++ wordIn document rest) := by
  rw [wordIn_cons, wordIn_cons second]

theorem wordIn_chain_cons (node : Tree) (next : List Tree) :
    wordIn document [node :: next] = wordIn document [[node]] ++ wordIn document [next] := by
  rw [wordIn, consumedIn, leavesIn_chain_cons]
  simp [wordIn, consumedIn]

theorem NodeFits.expr_eq {id : ExprId} {node : Tree} (fits : NodeFits grammar document id node) :
    node.expr = id := by
  cases fits <;> rfl

theorem ChainFits.head {id : ExprId} {nodes : List Tree}
    (fits : ChainFits grammar document id nodes) : nodes.head?.map Tree.expr = some id := by
  cases fits with
  | last _ node => simp [node.expr_eq]
  | cons _ node => simp [node.expr_eq]

theorem contents_repetition {expr : ExprId} {parts : Repetition} {items : List (List Tree)}
    (found : (grammar.expr expr).element = .repetition parts) :
    (Tree.repetition expr items).contents grammar =
      items.filter fun item => (item.head?.map Tree.expr) = some parts.content := by
  simp [contents, itemsFor, found]

variable {start : NonTerminalId}

theorem ne_content_of_derives {place : Place} {id : ExprId} {parts : Repetition}
    {word : List TokenKind} (ordered : grammar.Ordered)
    (conflictFree : ConflictFree grammar start) (occurs : Occurs grammar start place id)
    (found : (grammar.expr id).element = .repetition parts)
    (derives : grammar.Derives (.chain parts.separator) word) :
    parts.separator ≠ parts.content := by
  intro same
  rw [same] at derives
  have filled := conflictFree.contentNotNullable occurs found
  have covers := derives.covers ordered conflictFree (occurs.content found)
  obtain ⟨kind, rest, rfl, starts⟩ := covers.exists_cons filled
  exact conflictFree.partsDisjoint occurs found kind starts (same ▸ starts)

mutual

theorem ChainFits.derives (ordered : grammar.Ordered)
    (conflictFree : ConflictFree grammar start) {id : ExprId} {nodes : List Tree}
    (fits : ChainFits grammar document id nodes) :
    ∀ {place : Place}, Occurs grammar start place id →
      (∀ node ∈ chainPreorder nodes, node.Whole grammar) →
      grammar.Derives (.chain id) (wordIn document [nodes]) := by
  match fits with
  | .last last node =>
      intro place occurs whole
      exact .last last (node.derives ordered conflictFree occurs
        fun below member => whole below (by simpa [chainPreorder] using member))
  | .cons following first rest =>
      intro place occurs whole
      rw [wordIn_chain_cons]
      apply Grammar.Derives.cons following
      · exact first.derives ordered conflictFree occurs
          fun below member => whole below (List.mem_append_left _ member)
      · exact rest.derives ordered conflictFree (occurs.next following)
          fun below member => whole below (List.mem_append_right _ member)

theorem NodeFits.derives (ordered : grammar.Ordered)
    (conflictFree : ConflictFree grammar start) {id : ExprId} {node : Tree}
    (fits : NodeFits grammar document id node) :
    ∀ {place : Place}, Occurs grammar start place id →
      (∀ below ∈ node.preorder, below.Whole grammar) →
      grammar.Derives (.element (grammar.expr id).element) (wordIn document [[node]]) := by
  match fits with
  | .token own kind =>
      intro place occurs whole
      rw [own]
      simpa [wordIn, consumedIn, consumed?, kind] using .token
  | .nonTerminal own child =>
      intro place occurs whole
      rw [own]
      have derived := child.derives ordered conflictFree (occurs.rule own)
        fun below member => whole below (List.mem_cons_of_mem _ member)
      simpa [wordIn, consumedIn] using .nonTerminal derived
  | .absent own nullable =>
      intro place occurs whole
      rw [own]
      simpa [wordIn, consumedIn] using .nonTerminal (Grammar.derives_nil_of_nullable nullable)
  | .empty own =>
      intro place occurs whole
      rw [own]
      simpa [wordIn, consumedIn] using .empty
  | .optional own child =>
      intro place occurs whole
      rw [own]
      have derived := child.derives ordered conflictFree (occurs.inner own)
        fun below member => whole below (List.mem_cons_of_mem _ member)
      simpa [wordIn, consumedIn] using .optional derived
  | .optionalAbsent own =>
      intro place occurs whole
      rw [own]
      simpa [wordIn, consumedIn] using .optionalAbsent
  | .alternation own member child =>
      intro place occurs whole
      rw [own]
      have derived := child.derives ordered conflictFree (occurs.branch own member)
        fun below member => whole below (List.mem_cons_of_mem _ member)
      simpa [wordIn, consumedIn] using .alternation member derived
  | .repetition own items =>
      intro place occurs whole
      rw [own]
      have derived := items.derives ordered conflictFree occurs own
        ((whole _ List.mem_cons_self).filled _ _ rfl)
        fun below member => whole below (List.mem_cons_of_mem _ member)
      simpa [wordIn, consumedIn] using derived
  | .missing _ =>
      intro place occurs whole
      simpa [isMissing] using (whole _ List.mem_cons_self).present

theorem ItemsFit.derives (ordered : grammar.Ordered)
    (conflictFree : ConflictFree grammar start) {parts : Repetition}
    {items : List (List Tree)} (fits : ItemsFit grammar document parts items) :
    ∀ {place : Place} {id : ExprId}, Occurs grammar start place id →
      (grammar.expr id).element = .repetition parts →
      (Tree.repetition id items).contents grammar ≠ [] →
      (∀ below ∈ chainsPreorder items, below.Whole grammar) →
      grammar.Derives (.element (.repetition parts)) (wordIn document items) := by
  match fits with
  | .none _ =>
      intro place id occurs found filled whole
      simp [contents_repetition found] at filled
  | .noContent allowed separator =>
      intro place id occurs found filled whole
      have derived := separator.derives ordered conflictFree (occurs.separator found)
        fun below member => whole below (by simpa [chainsPreorder] using member)
      have other := ne_content_of_derives ordered conflictFree occurs found derived
      rw [contents_repetition found, List.filter_cons, separator.head] at filled
      simp [other] at filled
  | .unled allowed contents =>
      intro place id occurs found filled whole
      exact .unled allowed (contents.derives ordered conflictFree occurs found whole)
  | .led allowed separator contents =>
      intro place id occurs found filled whole
      rw [wordIn_cons]
      apply Grammar.Derives.led allowed
      · exact separator.derives ordered conflictFree (occurs.separator found)
          fun below member => whole below (List.mem_append_left _ member)
      · exact contents.derives ordered conflictFree occurs found
          fun below member => whole below (List.mem_append_right _ member)

theorem ContentsFit.derives (ordered : grammar.Ordered)
    (conflictFree : ConflictFree grammar start) {parts : Repetition} {items : List (List Tree)}
    (fits : ContentsFit grammar document parts items) :
    ∀ {place : Place} {id : ExprId}, Occurs grammar start place id →
      (grammar.expr id).element = .repetition parts →
      (∀ below ∈ chainsPreorder items, below.Whole grammar) →
      grammar.Derives (.contents parts) (wordIn document items) := by
  match fits with
  | .content allowed content =>
      intro place id occurs found whole
      exact .content allowed (content.derives ordered conflictFree (occurs.content found)
        fun below member => whole below (List.mem_append_left _ member))
  | .trailing allowed content separator =>
      intro place id occurs found whole
      rw [wordIn_cons]
      apply Grammar.Derives.trailing allowed
      · exact content.derives ordered conflictFree (occurs.content found)
          fun below member => whole below (List.mem_append_left _ member)
      · exact separator.derives ordered conflictFree (occurs.separator found)
          fun below member => whole below
            (List.mem_append_right _ (List.mem_append_left _ member))
  | .separated content separator rest =>
      intro place id occurs found whole
      rw [wordIn_cons_cons]
      apply Grammar.Derives.separated
      · exact content.derives ordered conflictFree (occurs.content found)
          fun below member => whole below (List.mem_append_left _ member)
      · exact separator.derives ordered conflictFree (occurs.separator found)
          fun below member => whole below
            (List.mem_append_right _ (List.mem_append_left _ member))
      · exact rest.derives ordered conflictFree occurs found
          fun below member => whole below
            (List.mem_append_right _ (List.mem_append_right _ member))
  | .joined content nullable rest =>
      intro place id occurs found whole
      rw [wordIn_cons_cons]
      apply Grammar.Derives.separated
      · exact content.derives ordered conflictFree (occurs.content found)
          fun below member => whole below (List.mem_append_left _ member)
      · simpa [wordIn, consumedIn] using Grammar.derives_nil_of_nullable nullable
      · exact rest.derives ordered conflictFree occurs found
          fun below member => whole below
            (List.mem_append_right _ (List.mem_append_right _ member))

end

/-- A derivation tree of which nothing is missing and nothing is left out derives the kinds of its
tokens. -/
theorem Derives.word {tree : Tree} (derives : Derives grammar document start tree)
    (ordered : grammar.Ordered) (conflictFree : ConflictFree grammar start)
    (whole : ∀ node ∈ tree.walk, node.Whole grammar) :
    grammar.Derives (.chain (grammar.ruleOf start)) (wordIn document [[tree]]) := by
  obtain ⟨child, rfl, fits⟩ := derives
  rw [walk_eq_preorder] at whole
  have derived := fits.derives ordered conflictFree .start
    fun below member => whole below (List.mem_cons_of_mem _ member)
  simpa [wordIn, consumedIn] using derived

/-- If the tokens of the tree are all tokens of the document, then the kinds of the document are
derived. -/
theorem wordIn_of_all {chains : List (List Tree)}
    (all : consumedIn chains = List.range document.size) :
    wordIn document chains = document.tokens.toList.map Token.kind := by
  have found : (List.range document.size).map
      (fun id => (document.token? id).map Token.kind) =
        (document.tokens.toList.map Token.kind).map some := by
    apply List.ext_getElem
    · simp [Document.size]
    · intro place inside _
      have inside : place < document.tokens.size := by simpa [Document.size] using inside
      simp [Document.token?, inside]
  calc
    wordIn document chains
        = ((List.range document.size).map
            (fun id => (document.token? id).map Token.kind)).filterMap id := by
          rw [wordIn, all, List.filterMap_map]
          rfl
    _ = document.tokens.toList.map Token.kind := by
          rw [found, List.filterMap_map]
          simp

end Tree

end Reparse
