import Mathlib.Data.List.Pairwise
import Reparse.Proofs.Document.Composition
import Reparse.Proofs.Document.Region
import Reparse.Proofs.Tree.Addresses

/-!
# The spans of nodes

Where the tokens of a tree stand in the order of the text, the span of a node holds those of all its
tokens.  So spans of nodes lie within one another or side by side as the nodes do.
-/

namespace Reparse

namespace Document

variable {document : Document}

theorem Scanned.tokenSpan_mono (scanned : document.Scanned) {id later : TokenId}
    (before : id ≤ later) (inside : later < document.size) :
    (document.tokenSpan id).start ≤ (document.tokenSpan later).start ∧
      (document.tokenSpan id).stop ≤ (document.tokenSpan later).stop := by
  rcases before.lt_or_eq with earlier | rfl
  · have apart := scanned.tokenSpan_ascends earlier inside
    have forward := scanned.tokenSpan_forward (earlier.trans inside)
    have forward' := scanned.tokenSpan_forward inside
    omega
  · exact ⟨Nat.le_refl _, Nat.le_refl _⟩

/-- The span reaches from one of the tokens to another one. -/
def Reaches (document : Document) (ids : List TokenId) (span : Span) : Prop :=
  ∃ first ∈ ids, ∃ last ∈ ids, span = (document.tokenSpan first).hull (document.tokenSpan last)

theorem Reaches.mono {ids others : List TokenId} {span : Span} (reaches : document.Reaches ids span)
    (subset : ids ⊆ others) : document.Reaches others span := by
  obtain ⟨first, member, last, member', rfl⟩ := reaches
  exact ⟨first, subset member, last, subset member', rfl⟩

/-- What holds the tokens holds a span between them. -/
theorem Reaches.within {ids : List TokenId} {span wide : Span} (reaches : document.Reaches ids span)
    (holds : ∀ id ∈ ids, wide.contains (document.tokenSpan id) = true) :
    wide.contains span = true := by
  obtain ⟨first, member, last, member', rfl⟩ := reaches
  have holdsFirst := Span.contains_iff.mp (holds first member)
  have holdsLast := Span.contains_iff.mp (holds last member')
  exact Span.contains_iff.mpr
    ⟨Nat.le_min.mpr ⟨holdsFirst.1, holdsLast.1⟩, Nat.max_le.mpr ⟨holdsFirst.2, holdsLast.2⟩⟩

section Order

variable {ids others : List TokenId} {span span' : Span}

theorem Scanned.start_le_start (scanned : document.Scanned) (reaches : document.Reaches ids span)
    (reaches' : document.Reaches others span') (inside : ∀ id ∈ others, id < document.size)
    (before : ∀ id ∈ ids, ∀ id' ∈ others, id ≤ id') : span.start ≤ span'.start := by
  obtain ⟨first, member, last, member', rfl⟩ := reaches
  obtain ⟨first', found, last', found', rfl⟩ := reaches'
  have start_le : ∀ id' ∈ others,
      (document.tokenSpan first).start ≤ (document.tokenSpan id').start := fun id' member' =>
    (scanned.tokenSpan_mono (before first member id' member') (inside id' member')).1
  exact (Nat.min_le_left ..).trans (Nat.le_min.mpr ⟨start_le _ found, start_le _ found'⟩)

theorem Scanned.stop_le_start_of_before (scanned : document.Scanned)
    (reaches : document.Reaches ids span) (reaches' : document.Reaches others span')
    (inside : ∀ id ∈ others, id < document.size)
    (before : ∀ id ∈ ids, ∀ id' ∈ others, id < id') : span.stop ≤ span'.start := by
  obtain ⟨first, member, last, member', rfl⟩ := reaches
  obtain ⟨first', found, last', found', rfl⟩ := reaches'
  have stop_le : ∀ id ∈ ids, ∀ id' ∈ others,
      (document.tokenSpan id).stop ≤ (document.tokenSpan id').start := fun id member id' member' =>
    scanned.tokenSpan_ascends (before id member id' member') (inside id' member')
  exact Nat.max_le.mpr
    ⟨Nat.le_min.mpr ⟨stop_le _ member _ found, stop_le _ member _ found'⟩,
      Nat.le_min.mpr ⟨stop_le _ member' _ found, stop_le _ member' _ found'⟩⟩

end Order

end Document

namespace Tree

variable {document : Document} {node : Tree}

theorem reaches_of_tokenSpan? {span : Span} (found : node.tokenSpan? document = some span) :
    document.Reaches node.tokens span := by
  obtain ⟨first, head, found⟩ := Option.bind_eq_some_iff.mp found
  obtain ⟨last, ending, found⟩ := Option.bind_eq_some_iff.mp found
  exact ⟨first, List.mem_of_head? head, last, List.mem_of_getLast? ending,
    (Option.some.inj found).symm⟩

/-- The tokens of a tree are tokens of a text, in its order. -/
structure Spread (document : Document) (node : Tree) : Prop where
  scanned : document.Scanned
  inside : ∀ id ∈ node.tokens, id < document.size
  ordered : node.tokens.Pairwise (· ≤ ·)

namespace Spread

theorem of_mem_walk {below : Tree} (spread : node.Spread document) (member : below ∈ node.walk) :
    below.Spread document where
  scanned := spread.scanned
  inside id token := spread.inside id ((tokens_sublist_of_mem_walk member).subset token)
  ordered := spread.ordered.sublist (tokens_sublist_of_mem_walk member)

theorem exists_tokenSpan?_contains (spread : node.Spread document) {id : TokenId}
    (member : id ∈ node.tokens) :
    ∃ span, node.tokenSpan? document = some span ∧
      span.contains (document.tokenSpan id) = true := by
  have nonempty : node.tokens ≠ [] := List.ne_nil_of_mem member
  have last_inside := spread.inside _ (List.getLast_mem nonempty)
  have first_le : node.tokens.head nonempty ≤ id := spread.ordered.rel_head member
  have le_last : id ≤ node.tokens.getLast nonempty := spread.ordered.rel_getLast member
  have starts := (spread.scanned.tokenSpan_mono first_le (le_last.trans_lt last_inside)).1
  have stops := (spread.scanned.tokenSpan_mono le_last last_inside).2
  refine ⟨_, by
    rw [tokenSpan?, firstToken?, lastToken?, List.head?_eq_some_head nonempty,
      List.getLast?_eq_some_getLast nonempty]
    rfl, Span.contains_iff.mpr ⟨?_, ?_⟩⟩
  · exact (Nat.min_le_left ..).trans starts
  · exact stops.trans (Nat.le_max_right ..)

/-- A span of some tokens of a node lies within that of the node. -/
theorem exists_tokenSpan?_contains_of_reaches (spread : node.Spread document)
    {ids : List TokenId} {span : Span} (reaches : document.Reaches ids span)
    (subset : ids ⊆ node.tokens) :
    ∃ wide, node.tokenSpan? document = some wide ∧ wide.contains span = true := by
  obtain ⟨first, member, -⟩ := id reaches
  obtain ⟨wide, found, -⟩ := spread.exists_tokenSpan?_contains (subset member)
  refine ⟨wide, found, reaches.within fun id token => ?_⟩
  obtain ⟨wide', found', contains⟩ := spread.exists_tokenSpan?_contains (subset token)
  obtain rfl : wide = wide' := Option.some.inj (found.symm.trans found')
  exact contains

end Spread

end Tree

end Reparse
