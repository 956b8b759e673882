import Reparse.Document.Basic

/-!
# What an edit inserted and deleted

The inserted tokens of a document are the current ones that meet the changed region.  The base
tokens that stand in the same place are deleted, unless an inserted token of the same kind and text
takes their part.
-/

namespace Reparse.Document

def insertedTokens (document : Document) : List TokenId :=
  (List.range document.size).filter document.isChanged

def countBefore (document : Document) (region : Span) : Nat :=
  (document.tokens.toList.takeWhile fun token => token.span.stop ≤ region.start).length

def countAfter (document : Document) (region : Span) : Nat :=
  (document.tokens.toList.reverse.takeWhile fun token => region.stop ≤ token.span.start).length

/-- Drops the items whose key has a partner, each partner serving once. -/
def withoutPartners [DecidableEq κ] (key : α → κ) : List κ → List α → List α
  | _, [] => []
  | partners, item :: rest =>
      if key item ∈ partners then withoutPartners key (partners.erase (key item)) rest
      else item :: withoutPartners key partners rest

/-- The base tokens in the place of the changed region: those before and after it in the current
text are counted off the base. -/
def baseWindow (document : Document) (region : Span) : List (TokenId × Token) :=
  let before := document.countBefore region
  let after := document.countAfter region
  let tokens := document.base.tokens.toList
  let numbered := (List.range tokens.length).zip tokens
  (numbered.drop before).take (tokens.length - after - before)

/-- The base tokens in the changed region that no inserted token matches, with their numbers in the
base. -/
def deletedTokens (document : Document) : List (TokenId × Token) :=
  match document.changedRegion with
  | none => []
  | some region =>
      let inserted := document.insertedTokens.filterMap fun id =>
        (document.token? id).map document.current.lexeme
      withoutPartners (fun item => document.base.lexeme item.2) inserted
        (document.baseWindow region)

end Reparse.Document
