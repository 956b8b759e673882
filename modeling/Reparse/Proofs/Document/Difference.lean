import Reparse.Proofs.Document.Alignment
import Reparse.Proofs.Document.Deletion

/-!
# Deleted tokens are a difference of multisets

Of the base tokens in the place of the changed region, each inserted token takes the first one of
its kind and text that no other one has taken.  The order of the inserted tokens makes no
difference.
-/

namespace Reparse.Document

section Partners

variable {α κ : Type} [DecidableEq κ]

theorem withoutPartners_sublist (key : α → κ) (partners : List κ) (items : List α) :
    (withoutPartners key partners items).Sublist items := by
  induction items generalizing partners with
  | nil => exact .slnil
  | cons item rest induction =>
      unfold withoutPartners
      split
      · exact (induction _).cons item
      · exact (induction _).cons_cons item

theorem withoutPartners_map_self (key : α → κ) (items : List α) :
    withoutPartners key (items.map key) items = [] := by
  induction items with
  | nil => rfl
  | cons item rest induction => simpa [withoutPartners] using induction

/-- Takes an item out of a list and leaves the other ones in some order. -/
def TakesOne (remove : List κ → κ → List κ) : Prop :=
  ∀ (items : List κ) (item : κ), item ∈ items → items.Perm (item :: remove items item)

/-- Drops the items whose key has a partner, with partners that are taken out in some way. -/
def withoutPartnersBy (remove : List κ → κ → List κ) (key : α → κ) : List κ → List α → List α
  | _, [] => []
  | partners, item :: rest =>
      if key item ∈ partners then
        withoutPartnersBy remove key (remove partners (key item)) rest
      else
        item :: withoutPartnersBy remove key partners rest

theorem withoutPartnersBy_eq {remove : List κ → κ → List κ} (takesOne : TakesOne remove)
    (key : α → κ) {partners others : List κ} (same : partners.Perm others) (items : List α) :
    withoutPartnersBy remove key partners items = withoutPartners key others items := by
  induction items generalizing partners others with
  | nil => rfl
  | cons item rest induction =>
      by_cases partnered : key item ∈ partners
      · have partnered' : key item ∈ others := same.mem_iff.mp partnered
        rw [withoutPartnersBy, if_pos partnered, withoutPartners, if_pos partnered']
        apply induction
        have taken := takesOne partners (key item) partnered
        have erased := List.perm_cons_erase partnered'
        exact (taken.symm.trans (same.trans erased)).cons_inv
      · have alone : key item ∉ others := mt same.mem_iff.mpr partnered
        rw [withoutPartnersBy, if_neg partnered, withoutPartners, if_neg alone, induction same]

/-- Puts the last item of a list in the place of the first one that equals the given one. -/
def swapRemove : List κ → κ → List κ
  | [], _ => []
  | first :: rest, item =>
      if first = item then
        match rest.getLast? with
        | none => []
        | some last => last :: rest.dropLast
      else first :: swapRemove rest item

theorem takesOne_swapRemove : TakesOne (swapRemove : List κ → κ → List κ) := by
  intro items item member
  induction items with
  | nil => simp at member
  | cons first rest induction =>
      by_cases same : first = item
      · rw [swapRemove, if_pos same, same]
        refine List.Perm.cons item ?_
        cases last : rest.getLast? with
        | none => exact .of_eq (List.getLast?_eq_none_iff.mp last)
        | some value =>
            obtain ⟨front, rfl⟩ := List.getLast?_eq_some_iff.mp last
            rw [List.dropLast_concat]
            exact List.perm_append_singleton value front
      · have later : item ∈ rest := (List.mem_cons.mp member).resolve_left (Ne.symm same)
        rw [swapRemove, if_neg same]
        exact ((induction later).cons first).trans (.swap item first _)

end Partners

section Window

variable {document : Document} {region : Span}

theorem filterMap_range' {α : Type} (items : List α) (first count : Nat) :
    (List.range' first count).filterMap (fun id => items[id]?) = (items.drop first).take count := by
  induction count generalizing first with
  | zero => simp
  | succ count induction =>
      rw [List.range'_succ, List.filterMap_cons, induction]
      cases found : items[first]? with
      | none =>
          have outside := List.getElem?_eq_none_iff.mp found
          rw [List.drop_eq_nil_of_le outside, List.drop_eq_nil_of_le (Nat.le_succ_of_le outside)]
          simp
      | some item =>
          obtain ⟨inside, rfl⟩ := List.getElem?_eq_some_iff.mp found
          rw [List.drop_eq_getElem_cons inside, List.take_succ_cons]

def insertedLexemes (document : Document) : List (TokenKind × Text) :=
  document.insertedTokens.filterMap fun id => (document.token? id).map document.current.lexeme

/-- The base tokens that are left when as many are counted off at its ends as there are tokens
before and after the region. -/
def baseBetween (document : Document) (region : Span) : List (TokenId × Token) :=
  let before := (document.tokensBefore region).length
  let after := (document.tokensAfter region).length
  (List.range' before (document.base.tokens.size - after - before)).filterMap fun id =>
    (document.base.tokens[id]?).map fun token => (id, token)

theorem length_takeWhile {α : Type} {test : α → Bool} {items : List α}
    (first : items.Pairwise fun item later => test later = true → test item = true) :
    (items.takeWhile test).length = items.countP test := by
  induction items with
  | nil => rfl
  | cons item rest induction =>
      obtain ⟨before, rest_first⟩ := List.pairwise_cons.mp first
      by_cases passes : test item = true
      · rw [List.takeWhile_cons_of_pos passes, List.countP_cons_of_pos passes, List.length_cons,
          induction rest_first]
      · have none_passes : rest.countP test = 0 :=
          List.countP_eq_zero.mpr fun later member taken => passes (before later member taken)
        rw [List.takeWhile_cons_of_neg passes, List.countP_cons_of_neg passes, none_passes]
        rfl

theorem map_span_tokens (document : Document) :
    document.tokens.toList.map Token.span = (List.range document.size).map document.tokenSpan := by
  apply List.ext_getElem
  · simp [size]
  · intro place inside _
    have inside : place < document.size := by simpa [size] using inside
    obtain ⟨token, found, span⟩ := exists_token? inside
    obtain ⟨_, rfl⟩ := Array.getElem?_eq_some_iff.mp found
    simpa using span.symm

theorem Scanned.countBefore_eq (scanned : document.Scanned) (region : Span) :
    document.countBefore region = (document.tokensBefore region).length := by
  have spans := congrArg
    (fun spans => (spans.takeWhile fun span : Span => span.stop ≤ region.start).length)
    document.map_span_tokens
  simp only [List.takeWhile_map, List.length_map] at spans
  have first := length_takeWhile (scanned.before_first region)
  rw [tokensBefore, ← List.countP_eq_length_filter, ← first]
  exact spans

theorem Scanned.countAfter_eq (scanned : document.Scanned) (region : Span) :
    document.countAfter region = (document.tokensAfter region).length := by
  have spans := congrArg
    (fun spans => (spans.reverse.takeWhile fun span : Span => region.stop ≤ span.start).length)
    document.map_span_tokens
  simp only [← List.map_reverse, List.takeWhile_map, List.length_map] at spans
  have last := length_takeWhile (List.pairwise_reverse.mpr (scanned.after_last region))
  rw [List.countP_reverse] at last
  rw [tokensAfter, ← List.countP_eq_length_filter, ← last]
  exact spans

theorem getElem?_numbered {α : Type} (items : List α) (id : Nat) :
    ((List.range items.length).zip items)[id]? = items[id]?.map fun item => (id, item) := by
  by_cases inside : id < items.length
  · simp [inside, List.zip_eq_zipWith]
  · simp [Nat.not_lt.mp inside]

/-- The base tokens in the place of the region are those that are left between the others. -/
theorem Scanned.baseWindow_eq (scanned : document.Scanned) (region : Span) :
    document.baseWindow region = document.baseBetween region := by
  rw [baseWindow, baseBetween, scanned.countBefore_eq, scanned.countAfter_eq]
  simp only [← Array.getElem?_toList, ← getElem?_numbered, filterMap_range', Array.length_toList]

theorem ascends_baseBetween (document : Document) (region : Span) :
    ((document.baseBetween region).map Prod.fst).Pairwise (· < ·) := by
  rw [baseBetween, List.map_filterMap]
  refine List.Pairwise.filterMap _ ?_ List.pairwise_lt_range'
  intro id later before number found number' found'
  obtain ⟨rfl, rfl⟩ : id = number ∧ later = number' := by
    simp only [Option.map_map, Option.map_eq_some_iff] at found found'
    exact ⟨found.choose_spec.2, found'.choose_spec.2⟩
  exact before

theorem Scanned.lexemes_baseBetween (scanned : document.Scanned)
    (marked : document.changedRegion = some region) (forward : region.start ≤ region.stop)
    (same : document.tokens.toList.map document.current.lexeme =
      document.base.tokens.toList.map document.base.lexeme) :
    (document.baseBetween region).map (fun item => document.base.lexeme item.2) =
      document.insertedLexemes := by
  have whole := scanned.range_size_eq marked forward
  have sizes := congrArg List.length whole
  have sizes' := congrArg List.length same
  simp only [List.length_append, List.length_range, List.length_map, Array.length_toList]
    at sizes sizes'
  have count : document.base.tokens.size - (document.tokensAfter region).length -
      (document.tokensBefore region).length = document.insertedTokens.length := by
    rw [← sizes', ← size, sizes]
    omega
  rw [baseBetween, insertedLexemes, count, eq_range'_of_range_eq whole, List.map_filterMap]
  simp only [List.length_range']
  congr 1
  funext id
  have lexemes := congrArg (·[id]?) same
  simpa [token?, Function.comp_def] using lexemes.symm

end Window

/-- The deleted tokens are what the inserted ones leave of the base tokens in their place. -/
structure ListsDifference (document : Document) (region : Span) : Prop where
  inOrder : document.deletedTokens.Sublist (document.baseBetween region)
  ascends : (document.deletedTokens.map Prod.fst).Pairwise (· < ·)
  /-- Of each kind and text the first ones are left out, as many as were inserted. -/
  afterFirst : ∀ lexeme,
    (document.deletedTokens.filter fun item => document.base.lexeme item.2 = lexeme) =
      ((document.baseBetween region).filter fun item => document.base.lexeme item.2 = lexeme).drop
        (document.insertedLexemes.countP fun inserted => inserted = lexeme)
  anyOrder : ∀ remove, TakesOne remove →
    withoutPartnersBy remove (fun item => document.base.lexeme item.2) document.insertedLexemes
      (document.baseBetween region) = document.deletedTokens
  unchanged : document.tokens.toList.map document.current.lexeme =
      document.base.tokens.toList.map document.base.lexeme →
    document.deletedTokens = []

/-- The tokens that are reported as deleted are the difference of the base tokens in the place of
the region and the inserted tokens. -/
theorem Reached.lists_difference {document : Document} {region : Span}
    (reached : document.Reached) (marked : document.changedRegion = some region) :
    document.ListsDifference region := by
  have scanned := reached.faithful.scanned
  have listed : document.deletedTokens =
      withoutPartners (fun item => document.base.lexeme item.2) document.insertedLexemes
        (document.baseBetween region) := by
    simp only [deletedTokens, marked, ← scanned.baseWindow_eq region, insertedLexemes]
  constructor
  case inOrder => exact listed ▸ withoutPartners_sublist _ _ _
  case ascends =>
    rw [listed]
    exact (document.ascends_baseBetween region).sublist
      ((withoutPartners_sublist _ _ _).map Prod.fst)
  case afterFirst =>
    intro lexeme
    rw [listed]
    exact filter_withoutPartners _ _ _ lexeme
  case anyOrder =>
    intro remove takesOne
    rw [listed]
    exact withoutPartnersBy_eq takesOne _ (.refl _) _
  case unchanged =>
    intro same
    rw [listed, ← scanned.lexemes_baseBetween marked (reached.separates marked).forward same]
    exact withoutPartners_map_self _ _

/-- Three numbers are replaced by one that equals them. -/
theorem lists_difference_numbers :
    ∃ after, (ofText numbers "1 2 2 2 3".toList).update [⟨"2".toList, ⟨1, 2⟩, ⟨1, 7⟩⟩] =
        .ok after ∧
      after.Reached ∧ after.changedRegion = some ⟨2, 3⟩ ∧
      after.deletedTokens.map Prod.fst = [2, 3] ∧ after.ListsDifference ⟨2, 3⟩ ∧
      withoutPartnersBy swapRemove (fun item => after.base.lexeme item.2) after.insertedLexemes
        (after.baseBetween ⟨2, 3⟩) = after.deletedTokens := by
  have outcome : ((ofText numbers "1 2 2 2 3".toList).update
      [⟨"2".toList, ⟨1, 2⟩, ⟨1, 7⟩⟩]).toOption.map (fun after => (after.changedRegion,
        after.deletedTokens.map Prod.fst)) = some (some ⟨2, 3⟩, [2, 3]) := by
    decide +kernel
  cases accepted : (ofText numbers "1 2 2 2 3".toList).update
      [⟨"2".toList, ⟨1, 2⟩, ⟨1, 7⟩⟩] with
  | error error =>
      rw [accepted] at outcome
      cases outcome
  | ok after =>
      rw [accepted] at outcome
      obtain ⟨marked, deleted⟩ := Prod.mk.inj (Option.some.inj outcome)
      have reached : after.Reached := (Reached.ofText _ _).update accepted
      have lists := reached.lists_difference marked
      exact ⟨after, rfl, reached, marked, deleted, lists,
        lists.anyOrder swapRemove takesOne_swapRemove⟩

end Reparse.Document
