import Reparse.Proofs.Tree.Preorder

/-!
# Trees with other token numbers

The tokens of a tree may be numbered in another way, while its shape and the expressions of its
nodes stay the same.
-/

namespace Reparse.Tree

variable (place : TokenId → TokenId)

mutual

@[simp]
def renumber : Tree → Tree
  | .token expr id => .token expr (place id)
  | .nonTerminal expr id child => .nonTerminal expr id (renumberChain child)
  | .empty expr => .empty expr
  | .optional expr child => .optional expr (renumberChain child)
  | .alternation expr child => .alternation expr (renumberChain child)
  | .repetition expr items => .repetition expr (renumberChains items)
  | .missing expr found => .missing expr (found.map place)

@[simp]
def renumberChain : List Tree → List Tree
  | [] => []
  | node :: next => renumber node :: renumberChain next

@[simp]
def renumberChains : List (List Tree) → List (List Tree)
  | [] => []
  | chain :: rest => renumberChain chain :: renumberChains rest

end

@[simp]
theorem renumberChains_append (first second : List (List Tree)) :
    renumberChains place (first ++ second) =
      renumberChains place first ++ renumberChains place second := by
  induction first with
  | nil => simp
  | cons chain rest induction => simp [induction]

@[simp]
theorem length_renumberChains (chains : List (List Tree)) :
    (renumberChains place chains).length = chains.length := by
  induction chains with
  | nil => simp
  | cons chain rest induction => simp [induction]

mutual

theorem preorder_renumber (node : Tree) :
    (node.renumber place).preorder = node.preorder.map (renumber place) := by
  cases node with
  | nonTerminal expr id child | optional expr child | alternation expr child =>
      simp [preorder, chainPreorder_renumberChain child]
  | repetition expr items => simp [preorder, chainsPreorder_renumberChains items]
  | token | empty | missing => simp [preorder]

theorem chainPreorder_renumberChain (chain : List Tree) :
    chainPreorder (renumberChain place chain) = (chainPreorder chain).map (renumber place) := by
  cases chain with
  | nil => simp [chainPreorder]
  | cons node next =>
      simp [chainPreorder, preorder_renumber node, chainPreorder_renumberChain next]

theorem chainsPreorder_renumberChains (chains : List (List Tree)) :
    chainsPreorder (renumberChains place chains) =
      (chainsPreorder chains).map (renumber place) := by
  cases chains with
  | nil => simp [chainsPreorder]
  | cons chain rest =>
      simp [chainsPreorder, chainPreorder_renumberChain chain,
        chainsPreorder_renumberChains rest]

end

theorem consumed?_renumber (node : Tree) :
    (node.renumber place).consumed? = node.consumed?.map place := by
  cases node <;> rfl

theorem filterMap_consumed?_walk_renumber (node : Tree) :
    (node.renumber place).walk.filterMap consumed? = (node.walk.filterMap consumed?).map place := by
  rw [walk_eq_preorder, walk_eq_preorder, preorder_renumber, List.filterMap_map,
    List.map_filterMap]
  congr 1
  funext below
  exact consumed?_renumber place below

end Reparse.Tree
