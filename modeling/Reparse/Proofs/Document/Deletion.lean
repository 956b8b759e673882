import Mathlib.Data.List.DropRight
import Mathlib.Data.List.Forall2
import Reparse.Document.Difference
import Reparse.Proofs.Document.Separation

/-!
# Deleted tokens

As many base tokens are left out at both ends as there are current tokens before and after the
changed region.  A token that the edit cut short can end at the region without meeting it.  Then the
token it was cut from is lost unreported.
-/

namespace Reparse

open Text (byteSize)

namespace ScannedText

/-- How often a kind and text occurs among some tokens of the text. -/
def occurrences (scanned : ScannedText) (tokens : List Token) (lexeme : TokenKind × Text) : Nat :=
  tokens.countP fun token => scanned.lexeme token = lexeme

variable {scanned : ScannedText} {lexeme : TokenKind × Text}

@[simp]
theorem occurrences_append (first second : List Token) :
    scanned.occurrences (first ++ second) lexeme =
      scanned.occurrences first lexeme + scanned.occurrences second lexeme := by
  simp [occurrences]

variable (scanned lexeme) in
theorem occurrences_le {first second : List Token} (part : first.Sublist second) :
    scanned.occurrences first lexeme ≤ scanned.occurrences second lexeme :=
  part.countP_le

theorem occurrences_eq {scanned other : ScannedText} {tokens others : List Token}
    (alike : List.Forall₂ (fun token partner => scanned.lexeme token = other.lexeme partner)
      tokens others) :
    scanned.occurrences tokens lexeme = other.occurrences others lexeme := by
  unfold occurrences
  induction alike with
  | nil => rfl
  | cons same _ induction => simp only [List.countP_cons, same, induction]

end ScannedText

namespace Document

/-- Each token of the base is there in the current text or listed as deleted. -/
def ReportsDeletions (document : Document) : Prop :=
  ∀ lexeme,
    document.base.occurrences document.base.tokens.toList lexeme ≤
      document.current.occurrences document.tokens.toList lexeme +
        document.base.occurrences (document.deletedTokens.map Prod.snd) lexeme

/-- The base tokens that are counted off at both ends. -/
def baseOutside (document : Document) (region : Span) : List Token :=
  let tokens := document.base.tokens.toList
  let before := document.countBefore region
  tokens.take before ++ tokens.drop (max before (tokens.length - document.countAfter region))

def baseInside (document : Document) (region : Span) : List Token :=
  let tokens := document.base.tokens.toList
  let before := document.countBefore region
  (tokens.drop before).take (tokens.length - document.countAfter region - before)

def currentOutside (document : Document) (region : Span) : List Token :=
  document.tokens.toList.filter fun token => !token.span.meets region

def currentInside (document : Document) (region : Span) : List Token :=
  document.tokens.toList.filter fun token => token.span.meets region

/-- The base tokens that are counted off have their counterparts among the current tokens outside
the region and among those in it that no base token takes for its partner. -/
def Accounts (document : Document) (region : Span) : Prop :=
  ∀ lexeme,
    document.base.occurrences (document.baseOutside region) lexeme ≤
      document.current.occurrences (document.currentOutside region) lexeme +
        (document.current.occurrences (document.currentInside region) lexeme -
          document.base.occurrences (document.baseInside region) lexeme)

/-- The token has the kind of another one and lies as far from the end of its text. -/
structure SameFromEnd (text base : Text) (token other : Token) : Prop where
  kind : other.kind = token.kind
  start : other.span.start + byteSize text = token.span.start + byteSize base
  stop : other.span.stop + byteSize text = token.span.stop + byteSize base

/-- The tokens before the region and those after it are tokens of the base. -/
structure KeepsTokens (document : Document) (region : Span) : Prop where
  before : document.base.tokens.toList.take (document.countBefore region) =
    document.tokens.toList.take (document.countBefore region)
  after : List.Forall₂ (SameFromEnd document.source document.baseSource)
    (document.tokens.toList.drop (document.size - document.countAfter region))
    (document.base.tokens.toList.drop
      (document.base.tokens.toList.length - document.countAfter region))

section Counting

variable {document : Document} {lexeme : TokenKind × Text}

theorem occurrences_base (document : Document) (region : Span) (lexeme : TokenKind × Text) :
    document.base.occurrences document.base.tokens.toList lexeme =
      document.base.occurrences (document.baseOutside region) lexeme +
        document.base.occurrences (document.baseInside region) lexeme := by
  let tokens := document.base.tokens.toList
  let before := document.countBefore region
  let count := tokens.length - document.countAfter region - before
  have whole : tokens = tokens.take before ++
      ((tokens.drop before).take count ++ tokens.drop (before + count)) := by
    rw [← List.drop_drop, List.take_append_drop, List.take_append_drop]
  have last : before + count = max before (tokens.length - document.countAfter region) := by
    omega
  have counts := congrArg (document.base.occurrences · lexeme) whole
  simp only [ScannedText.occurrences_append, last] at counts
  simp only [baseOutside, baseInside, ScannedText.occurrences_append]
  exact counts.trans (by ac_rfl)

theorem occurrences_current (document : Document) (region : Span) (lexeme : TokenKind × Text) :
    document.current.occurrences document.tokens.toList lexeme =
      document.current.occurrences (document.currentOutside region) lexeme +
        document.current.occurrences (document.currentInside region) lexeme := by
  simp only [ScannedText.occurrences, currentOutside, currentInside]
  rw [Nat.add_comm]
  exact List.countP_eq_countP_filter_add _ _ fun token : Token => token.span.meets region

/-- Of the items with one key the first ones are dropped, one for each partner. -/
theorem filter_withoutPartners {α κ : Type} [DecidableEq κ] (key : α → κ) (partners : List κ)
    (items : List α) (wanted : κ) :
    (withoutPartners key partners items).filter (fun item => key item = wanted) =
      (items.filter fun item => key item = wanted).drop
        (partners.countP fun partner => partner = wanted) := by
  change _ = (items.filter fun item => key item = wanted).drop (partners.count wanted)
  induction items generalizing partners with
  | nil => simp [withoutPartners]
  | cons item rest induction =>
      by_cases partnered : key item ∈ partners
      · rw [withoutPartners, if_pos partnered, induction]
        by_cases same : key item = wanted
        · have more : partners.count wanted = (partners.erase wanted).count wanted + 1 := by
            have positive : 0 < partners.count wanted := List.count_pos_iff.mpr (same ▸ partnered)
            rw [List.count_erase_self, Nat.sub_add_cancel positive]
          rw [List.filter_cons_of_pos (by simpa using same), same, more, List.drop_succ_cons]
        · rw [List.filter_cons_of_neg (by simpa using same), List.count_erase_of_ne (Ne.symm same)]
      · rw [withoutPartners, if_neg partnered, List.filter_cons, List.filter_cons, induction]
        by_cases same : key item = wanted
        · have none : partners.count wanted = 0 := List.count_eq_zero.mpr (same ▸ partnered)
          simp only [same, none, List.drop_zero]
        · simp only [same, decide_false, Bool.false_eq_true, if_false]

theorem countP_withoutPartners {α κ : Type} [DecidableEq κ] (key : α → κ) (partners : List κ)
    (items : List α) (wanted : κ) :
    (withoutPartners key partners items).countP (fun item => key item = wanted) =
      items.countP (fun item => key item = wanted) -
        partners.countP (fun partner => partner = wanted) := by
  rw [List.countP_eq_length_filter, filter_withoutPartners, List.length_drop,
    ← List.countP_eq_length_filter]

theorem filterMap_range (tokens : List α) :
    (List.range tokens.length).filterMap (fun id => tokens[id]?) = tokens := by
  induction tokens with
  | nil => rfl
  | cons token rest induction =>
      rw [List.length_cons, List.range_succ_eq_map]
      simpa [List.filterMap_map, Function.comp_def] using induction

theorem inserted_lexemes {region : Span} (marked : document.changedRegion = some region) :
    (document.insertedTokens.filterMap fun id =>
        (document.token? id).map document.current.lexeme) =
      (document.currentInside region).map document.current.lexeme := by
  have found : document.tokens.toList = (List.range document.size).filterMap document.token? := by
    conv_lhs => rw [← filterMap_range document.tokens.toList]
    simp only [Array.length_toList, Array.getElem?_toList]
    rfl
  rw [currentInside, found, insertedTokens, List.filterMap_filter, List.filter_filterMap,
    List.map_filterMap]
  congr 1
  funext id
  cases here : document.token? id with
  | none => simp [isChanged, marked, here]
  | some token =>
      by_cases meets : token.span.meets region = true
      · simp [isChanged, marked, here, meets, Option.filter]
      · simp [isChanged, marked, here, meets, Option.filter]

theorem map_snd_baseWindow (document : Document) (region : Span) :
    (document.baseWindow region).map Prod.snd = document.baseInside region := by
  simp only [baseWindow, baseInside, List.map_take, List.map_drop]
  rw [List.map_snd_zip (by simp)]

theorem occurrences_deletedTokens {region : Span} (marked : document.changedRegion = some region) :
    document.base.occurrences (document.deletedTokens.map Prod.snd) lexeme =
      document.base.occurrences (document.baseInside region) lexeme -
        document.current.occurrences (document.currentInside region) lexeme := by
  have counts := countP_withoutPartners (fun item => document.base.lexeme item.2)
    ((document.currentInside region).map document.current.lexeme) (document.baseWindow region)
    lexeme
  simpa only [deletedTokens, marked, inserted_lexemes marked, ScannedText.occurrences,
    ← map_snd_baseWindow, List.countP_map, Function.comp_def] using counts

theorem exists_between {α : Type} {first last : α → Bool} {items : List α}
    (apart : ∀ item ∈ items, first item = true → last item = false) :
    ∃ between, items = items.takeWhile first ++ between ++ items.rtakeWhile last := by
  obtain ⟨rest, front⟩ := items.takeWhile_prefix first
  obtain ⟨rest', back⟩ := items.rtakeWhile_suffix last
  rcases List.append_eq_append_iff.mp (front.trans back.symm) with
    ⟨between, longer, -⟩ | ⟨both, longer, shorter⟩
  · exact ⟨between, by rw [← longer, back]⟩
  · cases both with
    | nil => exact ⟨[], by rw [longer, List.append_nil, List.append_nil, back]⟩
    | cons item more =>
        have early : first item = true := List.mem_takeWhile_imp (by rw [longer]; simp)
        have late : last item = true := List.mem_rtakeWhile_imp (by rw [shorter]; simp)
        have member : item ∈ items := by rw [← back, shorter]; simp
        exact absurd late (by simp [apart item member early])

end Counting

section Outside

variable {document : Document} {region : Span}

theorem take_countBefore (document : Document) (region : Span) :
    document.tokens.toList.take (document.countBefore region) =
      document.tokens.toList.takeWhile fun token => token.span.stop ≤ region.start :=
  (List.prefix_iff_eq_take.mp (List.takeWhile_prefix _)).symm

theorem drop_countAfter (document : Document) (region : Span) :
    document.tokens.toList.drop (document.size - document.countAfter region) =
      document.tokens.toList.rtakeWhile fun token => region.stop ≤ token.span.start := by
  rw [List.suffix_iff_eq_drop.mp (List.rtakeWhile_suffix (fun token => _) document.tokens.toList)]
  simp [List.rtakeWhile, countAfter, size]

theorem outside_sublist (forward : ∀ token ∈ document.tokens, token.span.start < token.span.stop)
    (ordered : region.start ≤ region.stop) :
    (document.tokens.toList.take (document.countBefore region) ++
      document.tokens.toList.drop (document.size - document.countAfter region)).Sublist
        (document.currentOutside region) := by
  rw [take_countBefore, drop_countAfter]
  have apart : ∀ token ∈ document.tokens.toList,
      decide (token.span.stop ≤ region.start) = true →
        decide (region.stop ≤ token.span.start) = false := by
    intro token member early
    have nonempty := forward token (Array.mem_toList_iff.mp member)
    simp only [decide_eq_true_eq, decide_eq_false_iff_not] at early ⊢
    omega
  obtain ⟨between, whole⟩ := exists_between apart
  have part := List.Sublist.append
    (List.sublist_append_left (document.tokens.toList.takeWhile fun token =>
      token.span.stop ≤ region.start) between)
    (List.Sublist.refl (document.tokens.toList.rtakeWhile fun token =>
      region.stop ≤ token.span.start))
  rw [← whole] at part
  have outside := part.filter fun token => !token.span.meets region
  rwa [List.filter_eq_self.mpr] at outside
  intro token member
  rcases List.mem_append.mp member with before | after
  · have early := List.mem_takeWhile_imp before
    simp [Span.meets, of_decide_eq_true early]
  · have late := List.mem_rtakeWhile_imp after
    simp [Span.meets, of_decide_eq_true late]

end Outside

namespace Reached

variable {document : Document}

theorem base_eq_current (reached : Reached document) (unmarked : document.changedRegion = none) :
    document.base = document.current := by
  have edits := reached.faithful.edits
  rw [reached.changes_eq_nil unmarked, Text.edit_nil] at edits
  rw [reached.base_eq, Except.ok.inj edits, reached.faithful.current]

/-- Where the tokens before and after the region are tokens of the base, the base tokens that are
counted off are found there again. -/
theorem countsOff_le (reached : Reached document) {region : Span}
    (marked : document.changedRegion = some region) (keeps : document.KeepsTokens region)
    (lexeme : TokenKind × Text) :
    document.base.occurrences (document.baseOutside region) lexeme ≤
      document.current.occurrences (document.currentOutside region) lexeme := by
  have separates := reached.separates marked
  have delimits : ∀ token ∈ document.tokens, token.span.Delimits document.source :=
    fun token member => (reached.faithful.delimits_token member).1
  have before : document.base.occurrences
      (document.base.tokens.toList.take (document.countBefore region)) lexeme =
        document.current.occurrences
          (document.tokens.toList.take (document.countBefore region)) lexeme := by
    rw [keeps.before]
    refine List.countP_congr fun token member => ?_
    have inside : token ∈ document.tokens := Array.mem_toList_iff.mp (List.mem_of_mem_take member)
    rw [take_countBefore] at member
    have early : token.span.stop ≤ region.start := by
      simpa using List.mem_takeWhile_imp member
    have same : document.base.lexeme token = document.current.lexeme token :=
      congrArg (token.kind, ·) (separates.textIn_before (delimits token inside) early)
    rw [same]
  have after : document.current.occurrences
      (document.tokens.toList.drop (document.size - document.countAfter region)) lexeme =
        document.base.occurrences (document.base.tokens.toList.drop
          (document.base.tokens.toList.length - document.countAfter region)) lexeme := by
    apply ScannedText.occurrences_eq
    have late : ∀ token ∈ document.tokens.toList.drop
        (document.size - document.countAfter region),
          token ∈ document.tokens ∧ region.stop ≤ token.span.start := by
      intro token member
      refine ⟨Array.mem_toList_iff.mp (List.mem_of_mem_drop member), ?_⟩
      rw [drop_countAfter] at member
      simpa using List.mem_rtakeWhile_imp member
    refine ((List.forall₂_and_left _ _).mpr ⟨late, keeps.after⟩).imp ?_
    rintro token other ⟨⟨member, late⟩, same⟩
    have text := separates.textIn_after (delimits token member) late same.start same.stop
    simp only [ScannedText.lexeme, same.kind]
    exact congrArg _ text.symm
  have outside := ScannedText.occurrences_le document.current lexeme
    (outside_sublist (fun token member => (reached.faithful.delimits_token member).2)
      separates.forward)
  have rest := ScannedText.occurrences_le document.base lexeme
    (List.drop_sublist_drop_left document.base.tokens.toList
      (Nat.le_max_right (document.countBefore region)
        (document.base.tokens.toList.length - document.countAfter region)))
  rw [ScannedText.occurrences_append] at outside
  simp only [baseOutside, ScannedText.occurrences_append]
  omega

/-- The deletions are reported exactly when the base tokens that are counted off are accounted for.
-/
theorem reportsDeletions_iff (reached : Reached document) :
    (document.ReportsDeletions ↔
        ∀ region, document.changedRegion = some region → document.Accounts region) ∧
      ((∀ region, document.changedRegion = some region → document.KeepsTokens region) →
        document.ReportsDeletions) := by
  have exactly : document.ReportsDeletions ↔
      ∀ region, document.changedRegion = some region → document.Accounts region := by
    cases marked : document.changedRegion with
    | none =>
        have nothing : document.ReportsDeletions := by
          intro lexeme
          rw [reached.base_eq_current marked]
          exact Nat.le_add_right ..
        simpa using nothing
    | some region =>
        constructor
        · rintro reports _ ⟨⟩ lexeme
          have all := reports lexeme
          rw [occurrences_base document region, occurrences_current document region,
            occurrences_deletedTokens marked] at all
          omega
        · intro accounts lexeme
          have all := accounts region rfl lexeme
          rw [occurrences_base document region, occurrences_current document region,
            occurrences_deletedTokens marked]
          omega
  refine ⟨exactly, fun keeps => exactly.mpr fun region marked lexeme => ?_⟩
  have outside := reached.countsOff_le marked (keeps region marked) lexeme
  omega

end Reached

theorem update_ofText {scanner : Tokenizer} {base : Text} {changes : List Change}
    {before current : ScannedText} (edited : Edited) (more : changes ≠ [])
    (applied : Edited.applyAll base changes = .ok edited)
    (first : ScannedText.ofText scanner base = before)
    (second : ScannedText.ofText scanner edited.source = current) :
    (ofText scanner base).update changes =
      .ok ⟨scanner, current, some ⟨before, changes,
        edited.changed.map fun region => extendOver region current.tokens⟩⟩ := by
  subst first second
  have all : Edited.applyAll (ofText scanner base).baseSource
      ((ofText scanner base).changes ++ changes) = .ok edited := applied
  rw [update, if_neg (by simpa using more)]
  dsimp only
  rw [all]
  rfl

/-! ## A number that is replaced -/

/-- The numbers 1, 2 and 3 after 45 took the place of the second. -/
def replacedNumber : Document where
  scanner := numbers
  current := ⟨"1 45 3".toList, #[⟨0, ⟨0, 1⟩⟩, ⟨0, ⟨2, 4⟩⟩, ⟨0, ⟨5, 6⟩⟩], none⟩
  history := some ⟨⟨"1 2 3".toList, #[⟨0, ⟨0, 1⟩⟩, ⟨0, ⟨2, 3⟩⟩, ⟨0, ⟨4, 5⟩⟩], none⟩,
    [⟨"45".toList, ⟨1, 2⟩, ⟨1, 3⟩⟩], some ⟨2, 4⟩⟩

theorem reportsDeletions_replacedNumber :
    (ofText numbers "1 2 3".toList).update [⟨"45".toList, ⟨1, 2⟩, ⟨1, 3⟩⟩] = .ok replacedNumber ∧
      replacedNumber.ReportsDeletions := by
  have updated : (ofText numbers "1 2 3".toList).update [⟨"45".toList, ⟨1, 2⟩, ⟨1, 3⟩⟩] =
      .ok replacedNumber :=
    update_ofText ⟨"1 45 3".toList, some ⟨2, 4⟩⟩ (by simp) (by decide +kernel)
      (by decide +kernel) (by decide +kernel)
  have reached : Reached replacedNumber := (Reached.ofText _ _).update updated
  refine ⟨updated, reached.reportsDeletions_iff.2 ?_⟩
  rintro region ⟨⟩
  constructor
  · decide +kernel
  · exact .cons ⟨by decide +kernel, by decide +kernel, by decide +kernel⟩ .nil

/-! ## A number that is cut short -/

/-- The number 12 after its second digit was deleted. -/
def shortenedNumber : Document where
  scanner := numbers
  current := ⟨"1".toList, #[⟨0, ⟨0, 1⟩⟩], none⟩
  history := some ⟨⟨"12".toList, #[⟨0, ⟨0, 2⟩⟩], none⟩, [⟨[], ⟨1, 1⟩, ⟨1, 2⟩⟩], some ⟨1, 1⟩⟩

theorem not_reportsDeletions_shortenedNumber :
    (ofText numbers "12".toList).update [⟨[], ⟨1, 1⟩, ⟨1, 2⟩⟩] = .ok shortenedNumber ∧
      ¬ shortenedNumber.ReportsDeletions := by
  have updated : (ofText numbers "12".toList).update [⟨[], ⟨1, 1⟩, ⟨1, 2⟩⟩] =
      .ok shortenedNumber :=
    update_ofText ⟨"1".toList, some ⟨1, 1⟩⟩ (by simp) (by decide +kernel) (by decide +kernel)
      (by decide +kernel)
  refine ⟨updated, fun reports => ?_⟩
  have counted := reports (0, "12".toList)
  revert counted
  decide +kernel

end Document

end Reparse
