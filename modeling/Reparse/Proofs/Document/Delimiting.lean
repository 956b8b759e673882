import Mathlib.Order.MinMax
import Reparse.Parse.Covering
import Reparse.Proofs.Document.Editing

/-!
# Spans that are parts of a text

A token is a part of the text and not empty.  So is the span of a node or of a block.
-/

namespace Reparse

open Text (byteSize isBoundary)

/-- The span is a part of the text.  Only the one at the start of the text may be empty. -/
structure Span.Delimits (text : Text) (span : Span) : Prop where
  start : isBoundary text span.start = true
  stop : isBoundary text span.stop = true
  forward : span.start < span.stop ∨ span = .point 0

namespace Span.Delimits

variable {text : Text} {span other : Span}

theorem origin (text : Text) : Delimits text (.point 0) := by
  have boundary : isBoundary text 0 = true := Text.isBoundary_iff.mpr ⟨[], text, rfl, rfl⟩
  exact ⟨boundary, boundary, .inr rfl⟩

theorem hull (first : Delimits text span) (second : Delimits text other) :
    Delimits text (span.hull other) := by
  constructor
  · rcases min_choice span.start other.start with here | there
    · simpa [Span.hull, here] using first.start
    · simpa [Span.hull, there] using second.start
  · rcases max_choice span.stop other.stop with here | there
    · simpa [Span.hull, here] using first.stop
    · simpa [Span.hull, there] using second.stop
  · rcases first.forward with one | rfl
    · rcases second.forward with other | rfl
      · left
        simp only [Span.hull]
        omega
      · left
        simp only [Span.hull, point]
        omega
    · rcases second.forward with other | rfl
      · left
        simp only [Span.hull, point]
        omega
      · right
        rfl

theorem cut (delimits : Delimits text span) :
    ∃ before part after, text = before ++ part ++ after ∧ span.start = byteSize before ∧
      span.stop = byteSize (before ++ part) ∧ (part = [] → before = []) := by
  obtain ⟨before, rest, whole, start⟩ := Text.isBoundary_iff.mp delimits.start
  obtain ⟨upTo, after, whole', stop⟩ := Text.isBoundary_iff.mp delimits.stop
  have ordered : byteSize before ≤ byteSize upTo := by
    rcases delimits.forward with forward | rfl
    · omega
    · simp only [point] at start stop
      omega
  obtain ⟨part, rfl, -⟩ :=
    Text.exists_append_of_byteSize_le (whole.symm.trans whole') ordered
  refine ⟨before, part, after, whole', start.symm, stop.symm, ?_⟩
  rintro rfl
  rcases delimits.forward with forward | rfl
  · rw [List.append_nil] at stop
    omega
  · exact Text.byteSize_eq_zero_iff.mp start

end Span.Delimits

theorem ScannedText.within_of_mem {scanner : Tokenizer} {text : Text} {token : Token}
    (member : token ∈ (ScannedText.ofText scanner text).tokens) : token.Within text :=
  scanner.within (List.mem_toArray.mp member)

namespace Document

variable {document : Document}

theorem Faithful.delimits_token (faithful : document.Faithful) {token : Token}
    (member : token ∈ document.current.tokens) :
    token.span.Delimits document.source ∧ token.span.start < token.span.stop := by
  rw [faithful.current] at member
  have within := ScannedText.within_of_mem member
  exact ⟨⟨within.start, within.stop, .inl within.nonempty⟩, within.nonempty⟩

theorem Faithful.delimits_tokenSpan (faithful : document.Faithful) (id : TokenId) :
    (document.tokenSpan id).Delimits document.source := by
  unfold tokenSpan
  cases found : document.token? id with
  | none => exact .origin _
  | some token => exact (faithful.delimits_token (Array.mem_of_getElem? found)).1

theorem Faithful.delimits_nodeSpan (faithful : document.Faithful) {node : Tree} {span : Span}
    (found : node.tokenSpan? document = some span) : span.Delimits document.source := by
  obtain ⟨first, -, last, -, rfl⟩ : ∃ first, node.firstToken? = some first ∧
      ∃ last, node.lastToken? = some last ∧
        (document.tokenSpan first).hull (document.tokenSpan last) = span := by
    simpa [Tree.tokenSpan?, Option.bind_eq_some_iff] using found
  exact (faithful.delimits_tokenSpan first).hull (faithful.delimits_tokenSpan last)

end Document

namespace Parse

theorem delimits_blockSpan {parse : Parse} {grammar : Grammar} {id : TokenId} {span : Span}
    (faithful : parse.document.Faithful) (found : parse.blockSpan grammar id = some span) :
    span.Delimits parse.document.source := by
  obtain ⟨node, -, nodeFound⟩ := Option.bind_eq_some_iff.mp found
  exact faithful.delimits_nodeSpan nodeFound

end Parse

end Reparse
