import Reparse.Document.Difference
import Reparse.Proofs.Document.Composition
import Reparse.Proofs.Document.Region

/-!
# The changed region is aligned to the tokens

The region is extended once, over the tokens that meet it.  Tokens do not overlap, so the extended
region cuts no other token, and extended again it stays as it is.
-/

namespace Reparse

section Parts

variable {α : Type}

theorem eq_filter_append {test : α → Bool} {items : List α}
    (first : items.Pairwise fun item later => test later = true → test item = true) :
    items = items.filter test ++ items.filter fun item => !test item := by
  induction items with
  | nil => rfl
  | cons item rest induction =>
      obtain ⟨before, rest_first⟩ := List.pairwise_cons.mp first
      by_cases passes : test item = true
      · simpa [passes] using induction rest_first
      · have none_passes : rest.filter test = [] :=
          List.filter_eq_nil_iff.mpr fun later member taken => passes (before later member taken)
        have whole := induction rest_first
        rw [none_passes, List.nil_append] at whole
        simpa [passes, none_passes] using whole

/-- The items that pass an early test, those that pass neither test and those that pass a late one
follow one another. -/
theorem eq_early_append_late {early late : α → Bool} {items : List α}
    (first : items.Pairwise fun item later => early later = true → early item = true)
    (last : items.Pairwise fun item later => late item = true → late later = true)
    (apart : ∀ item ∈ items, early item = true → late item = false) :
    items = items.filter early ++ (items.filter fun item => !early item && !late item) ++
      items.filter late := by
  have rest := eq_filter_append
    ((last.imp fun kept => by simpa using mt kept :
      items.Pairwise fun item later => (!late later) = true → (!late item) = true).filter
        fun item => !early item)
  have onlyLate : (items.filter fun item => late item && !early item) = items.filter late := by
    refine List.filter_congr fun item member => ?_
    cases passes : early item with
    | false => simp
    | true => simp [apart item member passes]
  simp only [List.filter_filter, Bool.not_not, onlyLate, Bool.and_comm (!late _)] at rest
  rw [List.append_assoc, ← rest]
  exact eq_filter_append first

end Parts

namespace Document

section Extension

variable {tokens : Array Token} {region : Span} {token : Token}

theorem extendOver_contains_token (member : token ∈ tokens)
    (meets : token.span.meets region = true) :
    (extendOver region tokens).contains token.span = true := by
  have grown : ∀ place, (inside : place < tokens.size) → place < tokens.size →
      tokens[place].span.meets region = true →
        (extendOver region tokens).contains tokens[place].span = true := by
    unfold extendOver
    refine Array.foldl_induction
      (fun count (wide : Span) => ∀ place, (inside : place < tokens.size) → place < count →
        tokens[place].span.meets region = true → wide.contains tokens[place].span = true)
      (by simp) ?_
    intro index wide contains place inside before meets
    rcases Nat.lt_succ_iff_lt_or_eq.mp before with earlier | rfl
    · have contains := contains place inside earlier meets
      split
      · exact Span.contains_trans (Span.hull_contains_left ..) contains
      · exact contains
    · simp only [Fin.getElem_fin, meets, if_true]
      exact Span.hull_contains_right ..
  obtain ⟨place, inside, rfl⟩ := Array.mem_iff_getElem.mp member
  exact grown place inside inside meets

/-- An extension begins where the region does or a token that meets it, and ends so too. -/
theorem extendOver_ends (region : Span) (tokens : Array Token) :
    ((extendOver region tokens).start = region.start ∨
        ∃ token ∈ tokens, token.span.meets region = true ∧
          (extendOver region tokens).start = token.span.start) ∧
      ((extendOver region tokens).stop = region.stop ∨
        ∃ token ∈ tokens, token.span.meets region = true ∧
          (extendOver region tokens).stop = token.span.stop) := by
  unfold extendOver
  refine Array.foldl_induction
    (fun _ (wide : Span) =>
      (wide.start = region.start ∨
          ∃ token ∈ tokens, token.span.meets region = true ∧ wide.start = token.span.start) ∧
        (wide.stop = region.stop ∨
          ∃ token ∈ tokens, token.span.meets region = true ∧ wide.stop = token.span.stop))
    ⟨.inl rfl, .inl rfl⟩ ?_
  rintro index wide ⟨starts, stops⟩
  split
  · rename_i meets
    have member : tokens[index] ∈ tokens := Array.getElem_mem _
    constructor
    · rcases min_choice wide.start tokens[index].span.start with own | other
      · simpa only [Span.hull, own] using starts
      · exact .inr ⟨_, member, meets, other⟩
    · rcases max_choice wide.stop tokens[index].span.stop with own | other
      · simpa only [Span.hull, own] using stops
      · exact .inr ⟨_, member, meets, other⟩
  · exact ⟨starts, stops⟩

theorem extendOver_eq_self
    (holds : ∀ token ∈ tokens, token.span.meets region = true →
      region.contains token.span = true) :
    extendOver region tokens = region := by
  unfold extendOver
  refine Array.foldl_induction (fun _ (wide : Span) => wide = region) rfl ?_
  rintro index wide rfl
  split
  · rename_i meets
    have contains := Span.contains_iff.mp (holds _ (Array.getElem_mem _) meets)
    simp only [Span.hull, Fin.getElem_fin, Nat.min_eq_left contains.1, Nat.max_eq_left contains.2]
  · rfl

end Extension

section Alignment

variable {document : Document} {region : Span}

theorem Scanned.eq_or_apart (scanned : document.Scanned) {token other : Token}
    (member : token ∈ document.tokens) (member' : other ∈ document.tokens) :
    token = other ∨ token.span.stop ≤ other.span.start ∨ other.span.stop ≤ token.span.start := by
  obtain ⟨id, found⟩ := Array.getElem?_of_mem member
  obtain ⟨id', found'⟩ := Array.getElem?_of_mem member'
  rcases Nat.lt_trichotomy id id' with before | rfl | behind
  · exact .inr (.inl (scanned.stop_le_start found found' before))
  · exact .inl (Option.some.inj (found.symm.trans found'))
  · exact .inr (.inr (scanned.stop_le_start found' found behind))

/-- The extension of a region cuts no token: one that does not meet the region is not reached by
those that do. -/
theorem Scanned.within_or_apart (scanned : document.Scanned) (region : Span) {token : Token}
    (member : token ∈ document.tokens) :
    (extendOver region document.tokens).contains token.span = true ∨
      token.span.stop ≤ (extendOver region document.tokens).start ∨
      (extendOver region document.tokens).stop ≤ token.span.start := by
  by_cases meets : token.span.meets region = true
  · exact .inl (extendOver_contains_token member meets)
  right
  obtain ⟨id, found⟩ := Array.getElem?_of_mem member
  have forward := scanned.nonempty found
  obtain ⟨starts, stops⟩ := extendOver_ends region document.tokens
  simp only [Span.meets, Bool.not_eq_true', Bool.or_eq_false_iff, decide_eq_false_iff_not] at *
  by_cases before : token.span.stop ≤ region.start
  · left
    rcases starts with own | ⟨first, member', meets', same⟩
    · omega
    · rcases scanned.eq_or_apart member member' with rfl | earlier | later <;> omega
  · right
    rcases stops with own | ⟨last, member', meets', same⟩
    · omega
    · rcases scanned.eq_or_apart member member' with rfl | earlier | later <;> omega

/-- The tokens that end where the region begins, or before. -/
def tokensBefore (document : Document) (region : Span) : List TokenId :=
  (List.range document.size).filter fun id => (document.tokenSpan id).stop ≤ region.start

/-- The tokens that begin where the region ends, or later. -/
def tokensAfter (document : Document) (region : Span) : List TokenId :=
  (List.range document.size).filter fun id => region.stop ≤ (document.tokenSpan id).start

/-- The changed region cuts no token. -/
structure Aligned (document : Document) (region : Span) : Prop where
  whole : ∀ id token, document.token? id = some token →
    document.isChanged id = true ∧ region.contains token.span = true ∨
      document.isChanged id = false ∧
        (token.span.stop ≤ region.start ∨ region.stop ≤ token.span.start)
  consecutive : ∃ first count, document.insertedTokens = List.range' first count
  inOrder : List.range document.size =
    document.tokensBefore region ++ document.insertedTokens ++ document.tokensAfter region
  stable : extendOver region document.tokens = region

theorem isChanged_eq_meets {id : TokenId} {token : Token}
    (marked : document.changedRegion = some region) (found : document.token? id = some token) :
    document.isChanged id = token.span.meets region := by
  simp only [isChanged, marked, found]

theorem Scanned.before_first (scanned : document.Scanned) (region : Span) :
    (List.range document.size).Pairwise fun id later =>
      decide ((document.tokenSpan later).stop ≤ region.start) = true →
        decide ((document.tokenSpan id).stop ≤ region.start) = true := by
  refine List.pairwise_lt_range.imp_of_mem fun {id later} _ inside before early => ?_
  rw [List.mem_range] at inside
  have behind := scanned.tokenSpan_ascends before inside
  have forward := scanned.tokenSpan_forward inside
  rw [decide_eq_true_eq] at early ⊢
  omega

theorem Scanned.after_last (scanned : document.Scanned) (region : Span) :
    (List.range document.size).Pairwise fun id later =>
      decide (region.stop ≤ (document.tokenSpan id).start) = true →
        decide (region.stop ≤ (document.tokenSpan later).start) = true := by
  refine List.pairwise_lt_range.imp_of_mem fun {id later} inside inside' before late => ?_
  rw [List.mem_range] at inside inside'
  have behind := scanned.tokenSpan_ascends before inside'
  have forward := scanned.tokenSpan_forward inside
  rw [decide_eq_true_eq] at late ⊢
  omega

theorem Scanned.range_size_eq (scanned : document.Scanned)
    (marked : document.changedRegion = some region) (forward : region.start ≤ region.stop) :
    List.range document.size =
      document.tokensBefore region ++ document.insertedTokens ++ document.tokensAfter region := by
  have meets : document.insertedTokens = (List.range document.size).filter fun id =>
      !decide ((document.tokenSpan id).stop ≤ region.start) &&
        !decide (region.stop ≤ (document.tokenSpan id).start) := by
    refine List.filter_congr fun id inside => ?_
    obtain ⟨token, found, span⟩ := exists_token? (List.mem_range.mp inside)
    rw [isChanged_eq_meets marked found, span, Span.meets, Bool.not_or]
  rw [meets]
  refine eq_early_append_late (scanned.before_first region) (scanned.after_last region) ?_
  intro id inside early
  have nonempty := scanned.tokenSpan_forward (List.mem_range.mp inside)
  simp only [decide_eq_true_eq, decide_eq_false_iff_not] at early ⊢
  omega

theorem eq_range'_of_range_eq {size : Nat} {before part after : List Nat}
    (whole : List.range size = before ++ part ++ after) :
    part = List.range' before.length part.length := by
  rw [List.range_eq_range'] at whole
  obtain ⟨count, -, front, -⟩ := List.range'_eq_append_iff.mp whole
  obtain ⟨first, -, rfl, rfl⟩ := List.range'_eq_append_iff.mp front.symm
  simp

/-- The changed region cuts no token, and the tokens before it, in it and after it are all. -/
theorem Reached.aligned_changedRegion (reached : document.Reached)
    (marked : document.changedRegion = some region) : document.Aligned region := by
  have scanned := reached.faithful.scanned
  have inOrder := scanned.range_size_eq marked (reached.separates marked).forward
  obtain ⟨edited, -, -, extended⟩ := reached.exists_edited
  obtain ⟨narrow, -, rfl⟩ := Option.map_eq_some_iff.mp (extended.symm.trans marked)
  refine ⟨?_, ⟨_, _, eq_range'_of_range_eq inOrder⟩, inOrder, ?_⟩
  · intro id token found
    have forward := scanned.nonempty found
    rw [isChanged_eq_meets marked found, Span.contains_iff]
    have apart := scanned.within_or_apart narrow (Array.mem_of_getElem? found)
    simp only [Span.contains_iff, Span.meets, Bool.not_eq_true', Bool.not_eq_false',
      Bool.or_eq_true, Bool.or_eq_false_iff, decide_eq_true_eq, decide_eq_false_iff_not] at *
    omega
  · refine extendOver_eq_self fun token member meets => ?_
    rcases scanned.within_or_apart narrow member with within | outside
    · exact within
    · simp only [Span.meets, Bool.not_eq_true', Bool.or_eq_false_iff,
        decide_eq_false_iff_not] at meets
      omega

/-- Nothing is left of a deleted digit, but the number around it is changed. -/
theorem aligned_numbers :
    ∃ after, (ofText numbers "12 345 6".toList).update [⟨[], ⟨1, 4⟩, ⟨1, 5⟩⟩] = .ok after ∧
      after.Reached ∧ after.changedRegion = some ⟨3, 5⟩ ∧ after.insertedTokens = [1] ∧
      after.Aligned ⟨3, 5⟩ := by
  have outcome : ((ofText numbers "12 345 6".toList).update
      [⟨[], ⟨1, 4⟩, ⟨1, 5⟩⟩]).toOption.map (fun after => (after.changedRegion,
        after.insertedTokens)) = some (some ⟨3, 5⟩, [1]) := by
    decide +kernel
  cases accepted : (ofText numbers "12 345 6".toList).update [⟨[], ⟨1, 4⟩, ⟨1, 5⟩⟩] with
  | error error =>
      rw [accepted] at outcome
      cases outcome
  | ok after =>
      rw [accepted] at outcome
      obtain ⟨marked, inserted⟩ := Prod.mk.inj (Option.some.inj outcome)
      have reached : after.Reached := (Reached.ofText _ _).update accepted
      exact ⟨after, rfl, reached, marked, inserted, reached.aligned_changedRegion marked⟩

end Alignment

end Document

end Reparse
