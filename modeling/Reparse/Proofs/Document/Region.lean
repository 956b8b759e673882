import Reparse.Proofs.Document.Delimiting

/-!
# The tokens of the changed region

No token begins before the one in front of it has ended.  So the tokens that meet the changed region
lie side by side.
-/

namespace Reparse

namespace Document

variable {document : Document}

/-- The tokens of the document are those of its text. -/
def Scanned (document : Document) : Prop :=
  document.current = .ofText document.scanner document.source

theorem Faithful.scanned (faithful : document.Faithful) : document.Scanned := faithful.current

theorem Scanned.nonempty (scanned : document.Scanned) {id : TokenId} {token : Token}
    (found : document.token? id = some token) : token.span.start < token.span.stop := by
  have member : token ∈ document.current.tokens := Array.mem_of_getElem? found
  rw [scanned] at member
  exact (ScannedText.within_of_mem member).nonempty

theorem Scanned.stop_le_start (scanned : document.Scanned) {id later : TokenId}
    {token partner : Token} (found : document.token? id = some token)
    (found' : document.token? later = some partner) (before : id < later) :
    token.span.stop ≤ partner.span.start := by
  have ascends : document.tokens.toList.Pairwise fun token later =>
      token.span.stop ≤ later.span.start := by
    rw [tokens, scanned]
    exact document.scanner.ascends document.source
  obtain ⟨inside, rfl⟩ := Array.getElem?_eq_some_iff.mp found
  obtain ⟨inside', rfl⟩ := Array.getElem?_eq_some_iff.mp found'
  exact List.pairwise_iff_getElem.mp ascends id later (by simpa using inside)
    (by simpa using inside') before

theorem exists_token? {id : TokenId} (inside : id < document.size) :
    ∃ token, document.token? id = some token ∧ document.tokenSpan id = token.span := by
  have found : document.token? id = some document.tokens[id] := Array.getElem?_eq_getElem inside
  exact ⟨_, found, by simp only [tokenSpan, found]⟩

theorem Scanned.tokenSpan_forward (scanned : document.Scanned) {id : TokenId}
    (inside : id < document.size) :
    (document.tokenSpan id).start < (document.tokenSpan id).stop := by
  obtain ⟨token, found, span⟩ := exists_token? inside
  exact span ▸ scanned.nonempty found

theorem Scanned.tokenSpan_ascends (scanned : document.Scanned) {id later : TokenId}
    (before : id < later) (inside : later < document.size) :
    (document.tokenSpan id).stop ≤ (document.tokenSpan later).start := by
  obtain ⟨token, found, span⟩ := exists_token? (before.trans inside)
  obtain ⟨partner, found', span'⟩ := exists_token? inside
  rw [span, span']
  exact scanned.stop_le_start found found' before

theorem isChanged_iff {id : TokenId} :
    document.isChanged id = true ↔
      ∃ region token, document.changedRegion = some region ∧ document.token? id = some token ∧
        region.start < token.span.stop ∧ token.span.start < region.stop := by
  unfold isChanged
  cases document.changedRegion with
  | none => simp
  | some region =>
      cases document.token? id with
      | none => simp
      | some token => simp [Span.meets]

theorem lt_size_of_isChanged {id : TokenId} (changed : document.isChanged id = true) :
    id < document.size := by
  obtain ⟨_, token, -, found, -⟩ := isChanged_iff.mp changed
  exact (Array.getElem?_eq_some_iff.mp found).1

theorem isChanged_of_unedited (unedited : document.hasChanges = false) (id : TokenId) :
    document.isChanged id = false := by
  rw [← Bool.not_eq_true, isChanged_iff]
  rintro ⟨region, token, marked, -⟩
  simp [hasChanges, marked] at unedited

theorem Scanned.isChanged_of_between (scanned : document.Scanned) {first id last : TokenId}
    (firstChanged : document.isChanged first = true) (lastChanged : document.isChanged last = true)
    (after : first ≤ id) (before : id ≤ last) : document.isChanged id = true := by
  obtain ⟨region, token, marked, found, start, -⟩ := isChanged_iff.mp firstChanged
  obtain ⟨region', token', marked', found', -, stop⟩ := isChanged_iff.mp lastChanged
  obtain rfl : region = region' := Option.some.inj (marked.symm.trans marked')
  have inside : id < document.size := before.trans_lt (lt_size_of_isChanged lastChanged)
  obtain ⟨between, here⟩ : ∃ between, document.token? id = some between :=
    ⟨_, Array.getElem?_eq_getElem inside⟩
  have nonempty := scanned.nonempty here
  refine isChanged_iff.mpr ⟨region, between, marked, here, ?_, ?_⟩
  · rcases after.lt_or_eq with later | rfl
    · have := scanned.stop_le_start found here later
      omega
    · obtain rfl : token = between := Option.some.inj (found.symm.trans here)
      exact start
  · rcases before.lt_or_eq with earlier | rfl
    · have := scanned.stop_le_start here found' earlier
      omega
    · obtain rfl : between = token' := Option.some.inj (here.symm.trans found')
      exact stop

/-- The token is the first one behind those of the changed region. -/
structure FirstAfterRegion (document : Document) (id : TokenId) : Prop where
  inside : id < document.size
  unchanged : document.isChanged id = false
  follows : ∃ last, document.isChanged last = true ∧ id = last + 1
  behind : ∀ other, document.isChanged other = true → other < id

/-- A token behind a changed one is the first behind the region unless it is changed too. -/
theorem Scanned.firstAfterRegion (scanned : document.Scanned) {id : TokenId}
    (changed : document.isChanged id = true) (inside : id + 1 < document.size)
    (unchanged : document.isChanged (id + 1) = false) : document.FirstAfterRegion (id + 1) where
  inside := inside
  unchanged := unchanged
  follows := ⟨id, changed, rfl⟩
  behind other otherChanged := by
    by_contra later
    have between := scanned.isChanged_of_between changed otherChanged (Nat.le_succ id)
      (Nat.le_of_not_lt later)
    exact Bool.false_ne_true (unchanged.symm.trans between)

theorem FirstAfterRegion.unique {id other : TokenId} (first : document.FirstAfterRegion id)
    (second : document.FirstAfterRegion other) : id = other := by
  obtain ⟨last, changed, rfl⟩ := first.follows
  obtain ⟨last', changed', rfl⟩ := second.follows
  have le := second.behind last changed
  have le' := first.behind last' changed'
  lia

end Document

end Reparse
