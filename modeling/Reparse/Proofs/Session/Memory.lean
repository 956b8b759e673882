import Reparse.Document.Difference
import Reparse.Proofs.Session.Recovery

/-!
# What a session remembers

Every edit since the last successful parse is recorded in the document of the last one, so the base
of that is the successful text.  Second passes replace the recorded edits by others of the same
base.

Main statement: `remembers_last_and_successful`.
-/

namespace Reparse

namespace Document

variable {document after : Document}

theorem base_update {changes : List Change} (done : document.update changes = .ok after) :
    after.base = document.base := by
  unfold update at done
  split at done
  · cases done
    rfl
  · simp only [bind_eq_ok, pure_eq_ok] at done
    obtain ⟨edited, -, rfl⟩ := done
    rfl

theorem base_mark {span : Span} (done : document.mark span = .ok after) :
    after.base = document.base := by
  unfold mark at done
  dsimp only at done
  split at done
  · exact base_update done
  · simp at done

theorem base_of_settled (settled : document.history = none) : document.base = document.current := by
  rw [base, settled]

theorem mem_of_mem_withoutPartners {α κ : Type} [DecidableEq κ] {key : α → κ} {partners : List κ}
    {items : List α} {item : α} (member : item ∈ withoutPartners key partners items) :
    item ∈ items := by
  induction items generalizing partners with
  | nil => simp [withoutPartners] at member
  | cons first rest induction =>
      rw [withoutPartners] at member
      split at member
      · exact List.mem_cons_of_mem _ (induction member)
      · rcases List.mem_cons.mp member with rfl | later
        · exact List.mem_cons_self
        · exact List.mem_cons_of_mem _ (induction later)

/-- Deleted tokens are tokens of the base, with their numbers there. -/
theorem token_of_mem_deletedTokens {id : TokenId} {token : Token}
    (member : (id, token) ∈ document.deletedTokens) :
    document.base.tokens[id]? = some token := by
  unfold deletedTokens at member
  split at member
  · simp at member
  · rename_i region _
    have inWindow : (id, token) ∈ document.baseWindow region := mem_of_mem_withoutPartners member
    have numbered : (id, token) ∈
        (List.range document.base.tokens.toList.length).zip document.base.tokens.toList :=
      List.mem_of_mem_drop (List.mem_of_mem_take inWindow)
    obtain ⟨index, inside, found⟩ := List.mem_iff_getElem.mp numbered
    rw [List.getElem_zip, List.getElem_range] at found
    obtain ⟨rfl, rfl⟩ := Prod.mk.inj found
    simp

end Document

namespace Session

variable {session next : Session} {changes : List Change} {log : Log}

theorem base_markAll {document : Document} {spans : List Span} {marked : Document × Log}
    (done : markAll document spans = .ok marked) : marked.1.base = document.base := by
  induction spans generalizing document marked with
  | nil =>
      cases done
      rfl
  | cons span rest induction =>
      simp only [markAll, bind_eq_ok, pure_eq_ok] at done
      obtain ⟨first, one, others, more, rfl⟩ := done
      exact (induction more).trans (Document.base_mark one)

theorem base_markBlocks {document marked : Document} {lastSuccessful : Parse}
    {blocks : List (TokenId × Span)} {markLog : Log}
    (done : markBlocks document lastSuccessful blocks = .ok (marked, markLog)) :
    marked.base = document.base ∨ marked.base = lastSuccessful.document.base := by
  unfold markBlocks at done
  split at done
  · cases done
    exact .inl rfl
  · simp only [bind_eq_ok, pure_eq_ok, Prod.mk.injEq] at done
    obtain ⟨widened, widens, edited, edits, rfl, -⟩ := done
    exact .inr ((Document.base_update edits).trans (base_markAll widens))

/-- The last parse and the last successful one are in step. -/
structure InStep (session : Session) : Prop where
  complete : ∀ successful, session.lastSuccessful = some successful →
    successful.hasErrors = false
  settled : ∀ successful, session.lastSuccessful = some successful →
    successful.document.history = none
  follows : ∀ successful, session.lastSuccessful = some successful →
    ∃ last, session.last = some last ∧ last.document.base = successful.document.current
  latest : ∀ last, session.last = some last → last.hasErrors = false →
    session.lastSuccessful = some last

namespace InStep

theorem new (language : Language) (settings : Settings) : (new language settings).InStep := by
  constructor <;> simp [Session.new]

theorem base_document (inStep : session.InStep) {successful : Parse}
    (remembered : session.lastSuccessful = some successful) :
    session.document.base = successful.document.current := by
  obtain ⟨last, found, base⟩ := inStep.follows successful remembered
  rw [Session.document, found]
  exact base

theorem keep (inStep : session.InStep) {parse : Parse}
    (based : parse.hasErrors = true → ∀ successful, session.lastSuccessful = some successful →
      parse.document.base = successful.document.current) : (session.keep parse).InStep := by
  cases errors : parse.hasErrors with
  | true =>
      rw [keep_of_errors errors]
      constructor
      case complete => exact inStep.complete
      case settled => exact inStep.settled
      case follows =>
        intro successful remembered
        exact ⟨parse, rfl, based errors successful remembered⟩
      case latest =>
        rintro last ⟨⟩ complete
        simp [errors] at complete
  | false =>
      rw [keep_of_complete errors]
      constructor
      case complete =>
        rintro successful ⟨⟩
        exact errors
      case settled =>
        rintro successful ⟨⟩
        rfl
      case follows =>
        rintro successful ⟨⟩
        exact ⟨parse.forgetEdits, rfl, rfl⟩
      case latest =>
        rintro last ⟨⟩ _
        rfl

/-- An update keeps one parse; if that has errors it was made of edits of the last successful
text. -/
theorem keeps (inStep : session.InStep) (sound : session.Sound)
    (passes : session.Passes changes log next) :
    ∃ announced parse, next = { session with setsAnnounced := announced }.keep parse ∧
      (parse.hasErrors = true → ∀ successful, session.lastSuccessful = some successful →
        parse.document.base = successful.document.current) := by
  cases passes with
  | clean edited parsed complete =>
      obtain ⟨_, _, _, _, rfl⟩ := parse?_eq_some_iff.mp parsed
      refine ⟨_, _, rfl, fun errors => ?_⟩
      simp [complete] at errors
  | @erroneous document first _ _ edited parsed incomplete =>
      obtain ⟨_, _, _, _, rfl⟩ := parse?_eq_some_iff.mp parsed
      refine ⟨_, _, rfl, fun _ successful remembered => ?_⟩
      exact (Document.base_update edited).trans (inStep.base_document remembered)
  | @recovered document marked _ lastSuccessful second _ _ _ _ _ edited parsed incomplete confines
      found marks reparsed tells =>
      have middle := (sound.parsed parsed).2.1
      have same := (middle.parsed reparsed).1
      obtain ⟨_, _, _, _, rfl⟩ := parse?_eq_some_iff.mp reparsed
      obtain ⟨_, _, _, _, rfl⟩ := parse?_eq_some_iff.mp parsed
      refine ⟨_, second, rfl, fun _ successful remembered => ?_⟩
      obtain rfl : lastSuccessful = successful := Option.some.inj (found.symm.trans remembered)
      rw [same]
      rcases base_markBlocks marks with edits | marked
      · rw [edits]
        exact (Document.base_update edited).trans (inStep.base_document remembered)
      · rw [marked]
        exact Document.base_of_settled (inStep.settled lastSuccessful remembered)

theorem passes (inStep : session.InStep) (sound : session.Sound)
    (passes : session.Passes changes log next) : next.InStep := by
  obtain ⟨announced, parse, rfl, based⟩ := inStep.keeps sound passes
  have announces : InStep { session with setsAnnounced := announced } :=
    ⟨inStep.complete, inStep.settled, inStep.follows, inStep.latest⟩
  exact announces.keep based

theorem advance (inStep : session.InStep) (sound : session.Sound) (changes : List Change) :
    (session.advance changes).InStep := by
  unfold Session.advance
  split
  · rename_i next log updated
    exact inStep.passes sound (.of_update updated)
  · exact inStep

theorem advanceAll (inStep : session.InStep) (sound : session.Sound)
    (edits : List (List Change)) : (session.advanceAll edits).InStep := by
  induction edits generalizing session with
  | nil => exact inStep
  | cons changes rest induction =>
      exact induction (inStep.advance sound changes) (sound.advance changes)

end InStep

/-! ## The updates that were stored -/

section Stored

variable {language : Language} {settings : Settings} {edits : List (List Change)}

/-- One of the updates did not fail and stored its parse in the session. -/
def Stores (language : Language) (settings : Settings) (edits : List (List Change))
    (stored : Session) : Prop :=
  ∃ before changes after log, edits = before ++ changes :: after ∧
    ((new language settings).advanceAll before).update changes = .ok (stored, log)

theorem not_stores_nil : ¬ Stores language settings [] session := by
  rintro ⟨before, changes, after, log, split, -⟩
  simp at split

theorem stores_concat :
    Stores language settings (edits ++ [changes]) session ↔
      Stores language settings edits session ∨
        ∃ log, ((new language settings).advanceAll edits).update changes = .ok (session, log) := by
  constructor
  · rintro ⟨before, own, after, log, split, updated⟩
    rcases List.eq_nil_or_concat after with rfl | ⟨rest, last, rfl⟩
    · obtain ⟨rfl, same⟩ := List.append_inj' split rfl
      obtain rfl := List.singleton_inj.mp same
      exact .inr ⟨log, updated⟩
    · have longer : edits ++ [changes] = (before ++ own :: rest) ++ [last] := by simpa using split
      obtain ⟨rfl, -⟩ := List.append_inj' longer rfl
      exact .inl ⟨before, own, rest, log, rfl, updated⟩
  · rintro (⟨before, own, after, log, rfl, updated⟩ | ⟨log, updated⟩)
    · exact ⟨before, own, after ++ [changes], log, by simp, updated⟩
    · exact ⟨edits, changes, [], log, rfl, updated⟩

theorem isSome_last_keep (session : Session) (parse : Parse) :
    (session.keep parse).last.isSome = true := by
  unfold keep
  split <;> rfl

theorem isSome_lastSuccessful_keep (session : Session) (parse : Parse) :
    (session.keep parse).lastSuccessful.isSome = true ↔
      session.lastSuccessful.isSome = true ∨
        ∃ last, (session.keep parse).last = some last ∧ last.hasErrors = false := by
  cases errors : parse.hasErrors with
  | true =>
      rw [keep_of_errors errors]
      simp [errors]
  | false =>
      rw [keep_of_complete errors]
      have complete : parse.forgetEdits.hasErrors = false := errors
      simp [complete]

theorem isSome_iff_stores (language : Language) (settings : Settings)
    (edits : List (List Change)) :
    let session := (new language settings).advanceAll edits
    (session.last.isSome = true ↔ ∃ stored, Stores language settings edits stored) ∧
      (session.lastSuccessful.isSome = true ↔
        ∃ stored, Stores language settings edits stored ∧
          ∃ last, stored.last = some last ∧ last.hasErrors = false) := by
  induction edits using List.reverseRecOn with
  | nil => simp [Session.new, Session.advanceAll, not_stores_nil]
  | append_singleton edits changes induction =>
      intro session
      obtain ⟨exists_last, exists_successful⟩ := induction
      cases updated : ((new language settings).advanceAll edits).update changes with
      | error error =>
          have unchanged : session = (new language settings).advanceAll edits := by
            simp only [session, advanceAll_concat, Session.advance, updated]
          rw [unchanged]
          simpa [stores_concat, updated] using ⟨exists_last, exists_successful⟩
      | ok result =>
          obtain ⟨next, log⟩ := result
          have reached : session = next := by
            simp only [session, advanceAll_concat, Session.advance, updated]
          have stores : Stores language settings (edits ++ [changes]) next :=
            stores_concat.mpr (.inr ⟨log, updated⟩)
          obtain ⟨announced, parse, kept⟩ := (Passes.of_update updated).exists_keep
          rw [reached]
          constructor
          · have last : next.last.isSome = true := by
              rw [kept]
              exact isSome_last_keep _ parse
            exact iff_of_true last ⟨next, stores⟩
          · have successful : next.lastSuccessful.isSome = true ↔
                ((new language settings).advanceAll edits).lastSuccessful.isSome = true ∨
                  ∃ last, next.last = some last ∧ last.hasErrors = false := by
              rw [kept]
              exact isSome_lastSuccessful_keep _ parse
            rw [successful, exists_successful]
            constructor
            · rintro (⟨stored, earlier, complete⟩ | complete)
              · exact ⟨stored, stores_concat.mpr (.inl earlier), complete⟩
              · exact ⟨next, stores, complete⟩
            · rintro ⟨stored, some_update, complete⟩
              rcases stores_concat.mp some_update with earlier | ⟨_, again⟩
              · exact .inl ⟨stored, earlier, complete⟩
              · obtain ⟨rfl, -⟩ := Prod.mk.inj (Except.ok.inj (updated.symm.trans again))
                exact .inr complete

end Stored

/-- What a session keeps is what updates stored, so what an edit deletes is looked up among the
tokens of the last successful parse. -/
theorem remembers_last_and_successful (language : Language) (settings : Settings)
    (built : language.grammar.Built) (terminating : ¬ language.grammar.LeftRecursive)
    (edits : List (List Change)) :
    let session := (new language settings).advanceAll edits
    (session.last.isSome = true ↔ ∃ stored, Stores language settings edits stored) ∧
      (session.lastSuccessful.isSome = true ↔
        ∃ stored, Stores language settings edits stored ∧
          ∃ last, stored.last = some last ∧ last.hasErrors = false) ∧
      (∀ last, session.last = some last → last.hasErrors = false →
        session.lastSuccessful = some last) ∧
      ∀ successful, session.lastSuccessful = some successful →
        successful.hasErrors = false ∧ successful.document.changes = [] ∧
          successful.document.changedRegion = none ∧
          (∃ last, session.last = some last ∧
            last.document.baseSource = successful.document.source ∧
            last.document.base.tokens = successful.document.tokens) ∧
          ∀ changes document, session.document.update changes = .ok document →
            ∀ id token, (id, token) ∈ document.deletedTokens →
              successful.document.token? id = some token := by
  intro session
  have start : (new language settings).Sound := .new settings built terminating
  have inStep : session.InStep := (InStep.new language settings).advanceAll start edits
  obtain ⟨exists_last, exists_successful⟩ := isSome_iff_stores language settings edits
  refine ⟨exists_last, exists_successful, inStep.latest, fun successful remembered => ?_⟩
  have settled : successful.document.history = none := inStep.settled successful remembered
  obtain ⟨last, found, base⟩ := inStep.follows successful remembered
  refine ⟨inStep.complete successful remembered, ?_, ?_, ⟨last, found, ?_, ?_⟩, ?_⟩
  · simp only [Document.changes, settled]
  · simp only [Document.changedRegion, settled, Option.bind_none]
  · exact congrArg ScannedText.source base
  · exact congrArg ScannedText.tokens base
  · intro changes document edited id token member
    have same : document.base = successful.document.current :=
      (Document.base_update edited).trans (inStep.base_document remembered)
    have deleted := Document.token_of_mem_deletedTokens member
    rw [same] at deleted
    exact deleted

/-- A text without errors loses its last token, and then an edit fails because its line does not
exist. -/
theorem remembers_lineFeed :
    let session := (new lineFeedLanguage .standard).advanceAll
      [[.insert .origin "x\nab".toList], [deletion], [.insert ⟨9, 1⟩ "b".toList]]
    lineFeedBlocks.Built ∧ ¬ lineFeedBlocks.LeftRecursive ∧
      ∃ last successful, session.last = some last ∧ session.lastSuccessful = some successful ∧
        last.hasErrors = true ∧ last.document.baseSource = "x\nab".toList ∧
        successful.hasErrors = false := by
  intro session
  have errors : session.last.map (·.hasErrors) = some true := by decide +kernel
  have source : session.lastSuccessful.map (·.document.source) = some "x\nab".toList := by
    decide +kernel
  obtain ⟨successful, remembered, same⟩ := Option.map_eq_some_iff.mp source
  obtain ⟨-, -, -, follows⟩ := remembers_last_and_successful lineFeedLanguage .standard
    built_lineFeedBlocks not_leftRecursive_lineFeedBlocks
    [[.insert .origin "x\nab".toList], [deletion], [.insert ⟨9, 1⟩ "b".toList]]
  obtain ⟨complete, -, -, ⟨last, found, base, -⟩, -⟩ := follows successful remembered
  obtain ⟨other, found', erroneous⟩ := Option.map_eq_some_iff.mp errors
  obtain rfl : other = last := Option.some.inj (found'.symm.trans found)
  exact ⟨built_lineFeedBlocks, not_leftRecursive_lineFeedBlocks, other, successful, found,
    remembered, erroneous, base.trans same, complete⟩

end Session

end Reparse
