import Reparse.Tree.Basic

/-!
# The visit of a tree is its preorder

The nodes of a tree are visited with a stack of chains.  Here the preorder is defined by recursion
on the tree.

Main statements: `visit_eq_chainsLinks` and `walk_eq_preorder`.
-/

namespace Reparse.Tree

mutual

/-- A node and everything below it. -/
def preorder : Tree → List Tree
  | .token expr id => [.token expr id]
  | .nonTerminal expr id child => .nonTerminal expr id child :: chainPreorder child
  | .empty expr => [.empty expr]
  | .optional expr child => .optional expr child :: chainPreorder child
  | .alternation expr child => .alternation expr child :: chainPreorder child
  | .repetition expr items => .repetition expr items :: chainsPreorder items
  | .missing expr found => [.missing expr found]

/-- The nodes of a chain, each followed by everything below it. -/
def chainPreorder : List Tree → List Tree
  | [] => []
  | node :: next => preorder node ++ chainPreorder next

def chainsPreorder : List (List Tree) → List Tree
  | [] => []
  | chain :: rest => chainPreorder chain ++ chainsPreorder rest

end

@[simp]
theorem chainPreorder_append (first second : List Tree) :
    chainPreorder (first ++ second) = chainPreorder first ++ chainPreorder second := by
  induction first with
  | nil => simp [chainPreorder]
  | cons node next induction => simp [chainPreorder, induction]

@[simp]
theorem chainsPreorder_append (first second : List (List Tree)) :
    chainsPreorder (first ++ second) = chainsPreorder first ++ chainsPreorder second := by
  induction first with
  | nil => simp [chainsPreorder]
  | cons chain rest induction => simp [chainsPreorder, induction]

theorem chainsPreorder_cons (chain : List Tree) (rest : List (List Tree)) :
    chainsPreorder (chain :: rest) = chainsPreorder [chain] ++ chainsPreorder rest := by
  simp [chainsPreorder]

@[simp]
theorem chainsPreorder_singleton (chain : List Tree) :
    chainsPreorder [chain] = chainPreorder chain := by
  simp [chainsPreorder]

theorem chainsPreorder_part (child : List Tree) :
    chainsPreorder (part child) = chainPreorder child := by
  cases child with
  | nil => simp [part, chainsPreorder, chainPreorder]
  | cons node next => simp [part]

theorem preorder_eq_cons (node : Tree) :
    node.preorder = node :: chainsPreorder node.children := by
  cases node <;> simp [preorder, children, chainsPreorder_part, chainsPreorder]

theorem stackSteps_append (first second : List (List Tree)) :
    stackSteps (first ++ second) = stackSteps first + stackSteps second := by
  induction first with
  | nil => simp [stackSteps]
  | cons chain rest induction => simp [stackSteps, induction, Nat.add_assoc]

/-- The visit to a node takes one step more than the visits to its parts. -/
theorem stackSteps_children_lt (node : Tree) : stackSteps node.children < node.steps := by
  have part_le : ∀ child, stackSteps (part child) ≤ chainSteps child := by
    intro child
    cases child <;> simp [part, stackSteps]
  cases node with
  | nonTerminal expr id child => have := part_le child; simp [children, steps]; omega
  | optional expr child => have := part_le child; simp [children, steps]; omega
  | alternation expr child => have := part_le child; simp [children, steps]; omega
  | repetition expr items => simp [children, steps]
  | token | empty | missing => simp [children, steps, stackSteps]

mutual

/-- Everything below a node: for each of its parts in order the whole chain.  Each node is given
with the rest of its chain. -/
def linksBelow : Tree → List (Tree × List Tree)
  | .nonTerminal _ _ child => chainLinks child
  | .optional _ child => chainLinks child
  | .alternation _ child => chainLinks child
  | .repetition _ items => chainsLinks items
  | .token _ _ => []
  | .empty _ => []
  | .missing _ _ => []

/-- The nodes of a chain, each followed by everything below it before the next one. -/
def chainLinks : List Tree → List (Tree × List Tree)
  | [] => []
  | node :: next => (node, next) :: (linksBelow node ++ chainLinks next)

def chainsLinks : List (List Tree) → List (Tree × List Tree)
  | [] => []
  | chain :: rest => chainLinks chain ++ chainsLinks rest

end

theorem chainsLinks_append (first second : List (List Tree)) :
    chainsLinks (first ++ second) = chainsLinks first ++ chainsLinks second := by
  induction first with
  | nil => simp [chainsLinks]
  | cons chain rest induction => simp [chainsLinks, induction]

theorem chainsLinks_part (child : List Tree) : chainsLinks (part child) = chainLinks child := by
  cases child <;> simp [part, chainsLinks, chainLinks]

theorem linksBelow_eq (node : Tree) : node.linksBelow = chainsLinks node.children := by
  cases node <;> simp [linksBelow, children, chainsLinks_part, chainsLinks]

mutual

theorem map_fst_linksBelow (node : Tree) :
    node :: node.linksBelow.map Prod.fst = node.preorder := by
  cases node with
  | nonTerminal expr id child | optional expr child | alternation expr child =>
      simp [linksBelow, preorder, map_fst_chainLinks child]
  | repetition expr items => simp [linksBelow, preorder, map_fst_chainsLinks items]
  | token | empty | missing => simp [linksBelow, preorder]

theorem map_fst_chainLinks (chain : List Tree) :
    (chainLinks chain).map Prod.fst = chainPreorder chain := by
  cases chain with
  | nil => simp [chainLinks, chainPreorder]
  | cons node next =>
      simp [chainLinks, chainPreorder, ← map_fst_linksBelow node, map_fst_chainLinks next]

theorem map_fst_chainsLinks (chains : List (List Tree)) :
    (chainsLinks chains).map Prod.fst = chainsPreorder chains := by
  cases chains with
  | nil => simp [chainsLinks, chainsPreorder]
  | cons chain rest =>
      simp [chainsLinks, chainsPreorder, map_fst_chainLinks chain, map_fst_chainsLinks rest]

end

/-- With enough steps a visit gives all links of the chains on the stack. -/
theorem visit_eq_chainsLinks
    (fuel : Nat) (stack : List (List Tree)) (enough : stackSteps stack ≤ fuel) :
    visit fuel stack = chainsLinks stack := by
  induction fuel generalizing stack with
  | zero =>
      cases stack with
      | nil => simp [visit, chainsLinks]
      | cons chain rest =>
          cases chain with
          | nil => simp [stackSteps, chainSteps] at enough
          | cons node next =>
              have := stackSteps_children_lt node
              simp only [stackSteps, chainSteps] at enough
              omega
  | succ fuel induction =>
      match stack with
      | [] => simp [visit, chainsLinks]
      | [] :: rest =>
          simp only [stackSteps, chainSteps] at enough
          simpa [visit, chainsLinks, chainLinks] using induction rest (by omega)
      | (node :: next) :: rest =>
          have fewer := stackSteps_children_lt node
          simp only [stackSteps, chainSteps] at enough
          have below := induction (node.children ++ next :: rest) (by
            rw [stackSteps_append, stackSteps]
            omega)
          simp [visit, below, chainsLinks, chainLinks, chainsLinks_append, linksBelow_eq]

theorem walk_eq_preorder (node : Tree) : node.walk = node.preorder := by
  rw [walk, walkLinks, visit_eq_chainsLinks _ _ (Nat.le_refl _), map_fst_chainsLinks]
  simp [chainsPreorder, chainPreorder]

theorem walkChain_eq_chainPreorder (chain : List Tree) :
    walkChain chain = chainPreorder chain := by
  induction chain with
  | nil => rfl
  | cons node next induction =>
      rw [chainPreorder, ← induction, ← walk_eq_preorder]
      simp [walkChain]

def consumed? : Tree → Option TokenId
  | .token _ id => some id
  | _ => none

def isLeaf : Tree → Bool
  | .token .. => true
  | .missing .. => true
  | _ => false

def leavesIn (chains : List (List Tree)) : List Tree := (chainsPreorder chains).filter isLeaf

def consumedIn (chains : List (List Tree)) : List TokenId := (leavesIn chains).filterMap consumed?

@[simp]
theorem leavesIn_nil : leavesIn [] = [] := rfl

@[simp]
theorem leavesIn_append (first second : List (List Tree)) :
    leavesIn (first ++ second) = leavesIn first ++ leavesIn second := by
  simp [leavesIn]

theorem leavesIn_cons (chain : List Tree) (rest : List (List Tree)) :
    leavesIn (chain :: rest) = leavesIn [chain] ++ leavesIn rest := by
  simp [leavesIn, chainsPreorder]

theorem leavesIn_chain_cons (node : Tree) (next : List Tree) :
    leavesIn [node :: next] = leavesIn [[node]] ++ leavesIn [next] := by
  simp [leavesIn, chainsPreorder, chainPreorder]

@[simp]
theorem leavesIn_chain_nil : leavesIn [[]] = [] := by
  simp [leavesIn, chainsPreorder, chainPreorder]

theorem leavesIn_node (node : Tree) :
    leavesIn [[node]] = if node.isLeaf then [node] else leavesIn node.children := by
  cases node <;>
    simp [leavesIn, chainsPreorder, chainPreorder, preorder, isLeaf, children, chainsPreorder_part]

@[simp]
theorem leavesIn_token (expr : ExprId) (id : TokenId) :
    leavesIn [[.token expr id]] = [.token expr id] := leavesIn_node _

@[simp]
theorem leavesIn_missing (expr : ExprId) (found : Option TokenId) :
    leavesIn [[.missing expr found]] = [.missing expr found] := leavesIn_node _

@[simp]
theorem leavesIn_empty (expr : ExprId) : leavesIn [[.empty expr]] = [] := leavesIn_node _

theorem leavesIn_part (child : List Tree) : leavesIn (part child) = leavesIn [child] := by
  simp [leavesIn, chainsPreorder_part, chainsPreorder]

@[simp]
theorem leavesIn_nonTerminal (expr : ExprId) (id : NonTerminalId) (child : List Tree) :
    leavesIn [[.nonTerminal expr id child]] = leavesIn [child] :=
  (leavesIn_node _).trans (leavesIn_part child)

@[simp]
theorem leavesIn_optional (expr : ExprId) (child : List Tree) :
    leavesIn [[.optional expr child]] = leavesIn [child] :=
  (leavesIn_node _).trans (leavesIn_part child)

@[simp]
theorem leavesIn_alternation (expr : ExprId) (child : List Tree) :
    leavesIn [[.alternation expr child]] = leavesIn [child] :=
  (leavesIn_node _).trans (leavesIn_part child)

@[simp]
theorem leavesIn_repetition (expr : ExprId) (items : List (List Tree)) :
    leavesIn [[.repetition expr items]] = leavesIn items := leavesIn_node _

theorem filterMap_consumed?_filter_isLeaf (nodes : List Tree) :
    (nodes.filter isLeaf).filterMap consumed? = nodes.filterMap consumed? := by
  rw [List.filterMap_filter]
  congr 1
  funext node
  cases node <;> rfl

theorem filterMap_consumed?_chainsPreorder (chains : List (List Tree)) :
    (chainsPreorder chains).filterMap consumed? = consumedIn chains :=
  (filterMap_consumed?_filter_isLeaf _).symm

theorem leavesIn_eq_filter_walk (node : Tree) : leavesIn [[node]] = node.walk.filter isLeaf := by
  rw [walk_eq_preorder, leavesIn]
  simp only [chainsPreorder, chainPreorder, List.append_nil]

theorem filterMap_consumed?_walk (node : Tree) :
    node.walk.filterMap consumed? = consumedIn [[node]] := by
  rw [walk_eq_preorder, ← filterMap_consumed?_chainsPreorder]
  simp only [chainsPreorder, chainPreorder, List.append_nil]

theorem isMissing_of_mem_walk {node : Tree}
    (complete : ∀ leaf ∈ leavesIn [[node]], leaf.isMissing = false) :
    ∀ below ∈ node.walk, below.isMissing = false := by
  intro below member
  cases missing : below.isMissing with
  | false => rfl
  | true =>
      have leaf : below.isLeaf = true := by
        cases below <;> simp_all [isMissing, isLeaf]
      rw [walk_eq_preorder] at member
      have found := complete below (List.mem_filter.mpr
        ⟨by simpa [chainsPreorder, chainPreorder] using member, leaf⟩)
      exact missing.symm.trans found

theorem missingNodes_eq_filter_leavesIn (chain : List Tree) :
    missingNodes chain = (leavesIn [chain]).filter isMissing := by
  rw [missingNodes, walkChain_eq_chainPreorder, leavesIn, List.filter_filter]
  simp only [chainsPreorder, List.append_nil]
  congr 1
  funext node
  cases node <;> rfl

theorem hasErrors_eq_any_leavesIn (chain : List Tree) :
    hasErrors chain = (leavesIn [chain]).any isMissing := by
  rw [hasErrors, walkChain_eq_chainPreorder, leavesIn, List.any_filter]
  simp only [chainsPreorder, List.append_nil]
  congr 1
  funext node
  cases node <;> rfl

end Reparse.Tree
