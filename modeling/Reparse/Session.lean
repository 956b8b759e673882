import Reparse.Document.Difference
import Reparse.Language
import Reparse.Parse.Covering
import Reparse.Parse.Diagnostic
import Reparse.Parser.Descent

/-!
# Sessions

A session keeps a document that is being edited parsed.  After each edit the whole text is parsed
afresh.  If that finds errors and an earlier text had none, the text is parsed once more with the
edits since then marked, so that the errors stay within the blocks that were edited.  An edit that
only deleted tokens leaves nothing to mark; then the blocks that lost a token are marked instead.
-/

namespace Reparse

structure Settings where
  leniency : Leniency
  /-- Parse an erroneous edit again with the damage kept within blocks. -/
  confinesErrors : Bool
  deriving DecidableEq, Repr

namespace Settings

def standard : Settings := ⟨.standard, true⟩

instance : Inhabited Settings := ⟨standard⟩

end Settings

inductive UpdateError where
  | edit (error : EditError)
  /-- The grammar is left recursive. -/
  | endless
  deriving DecidableEq, Repr

structure Session where
  language : Language
  prediction : Prediction
  settings : Settings
  last : Option Parse
  lastSuccessful : Option Parse
  /-- Whether the token sets of the grammar were announced. -/
  setsAnnounced : Bool

namespace Session

def new (language : Language) (settings : Settings) : Session where
  language := language
  prediction := language.grammar.predict
  settings := settings
  last := none
  lastSuccessful := none
  setsAnnounced := false

def grammar (session : Session) : Grammar := session.language.grammar

/-- The document of the last parse; before the first one, an empty document. -/
def document (session : Session) : Document :=
  match session.last with
  | some parse => parse.document
  | none => .ofText session.language.scanner []

def source (session : Session) : Text := session.document.source

/-- Keeps a parse as the last one.  One without errors is the last successful one too, and the edits
that led to it are forgotten. -/
def keep (session : Session) (parse : Parse) : Session :=
  if parse.hasErrors then
    { session with last := some parse }
  else
    { session with last := some parse.forgetEdits, lastSuccessful := some parse.forgetEdits }

/-- Parses a document by the session's grammar; the session then knows whether the token sets were
announced. -/
def parse? (session : Session) (document : Document) (leniency : Leniency) :
    Option (Parse × Log × Session) :=
  let parser : Parser := ⟨session.grammar, session.prediction, document, leniency⟩
  (parser.run? session.language.start session.setsAnnounced).map fun run =>
    (run.parse, run.log, { session with setsAnnounced := run.setsAnnounced })

/-- The blocks of a parse that hold the tokens, each block once, with the first of its tokens. -/
def blocksOf (grammar : Grammar) (parse : Parse) (deleted : List TokenId) :
    List (TokenId × Span) :=
  deleted.foldl
    (fun blocks id =>
      match parse.blockSpan grammar id with
      | none => blocks
      | some block => if blocks.any (·.2 = block) then blocks else blocks ++ [(id, block)])
    []

/-- The blocks to mark for an edit: those of the last successful tree that lost a token, if the edit
starts from that tree and inserted nothing. -/
def blocksToMark (grammar : Grammar) (document : Document) (lastSuccessful : Parse) :
    List (TokenId × Span) :=
  let deleted := document.deletedTokens
  if deleted.isEmpty || !document.insertedTokens.isEmpty ||
      document.baseSource ≠ lastSuccessful.document.source then
    []
  else
    blocksOf grammar lastSuccessful (deleted.map Prod.fst)

/-- The document with spans of its text marked one after the other, and what that tells. -/
def markAll (document : Document) : List Span → Except EditError (Document × Log)
  | [] => .ok (document, #[])
  | span :: rest => do
      let marked ← document.mark span
      let (document, log) ← markAll marked rest
      return (document, marked.updateEvents.toArray ++ log)

/-- The document with the blocks marked as changed before its own changes. -/
def markBlocks (document : Document) (lastSuccessful : Parse)
    (blocks : List (TokenId × Span)) : Except EditError (Document × Log) := do
  if blocks.isEmpty then
    return (document, #[])
  else
    let noticed := blocks.map fun (id, block) => Event.widening id block
    let (marked, log) ← markAll lastSuccessful.document (blocks.map Prod.snd)
    let marked ← marked.update document.changes
    return (marked, noticed.toArray ++ log ++ marked.updateEvents.toArray)

/-- The second pass over an erroneous text: the blocks that lost tokens are marked, and the parse is
tolerant whatever the session's settings are. -/
def recover (session : Session) (document : Document) (lastSuccessful : Parse) :
    Except UpdateError (Session × Log) := do
  let blocks := blocksToMark session.grammar document lastSuccessful
  let (document, markLog) ← (markBlocks document lastSuccessful blocks).mapError .edit
  match session.parse? document .standard with
  | none => throw .endless
  | some (second, log, session) =>
      let finished := Event.recoveryErrors second.missingNodes.length
      return (session.keep second, markLog ++ log.push finished)

/-- Applies changes to the document and parses it again.  Where that fails nothing is changed. -/
def update (session : Session) (changes : List Change) : Except UpdateError (Session × Log) := do
  let document ← (session.document.update changes).mapError .edit
  let editLog := if changes.isEmpty then #[] else document.updateEvents.toArray
  match session.parse? document.forgetEdits session.settings.leniency with
  | none => throw .endless
  | some (first, log, session) =>
      let log := editLog ++ log
      if first.hasErrors then
        let log := log.push (.firstPassErrors first.missingNodes.length)
        match session.lastSuccessful, session.settings.confinesErrors with
        | some lastSuccessful, true =>
            let (session, recoveryLog) ← session.recover document lastSuccessful
            return (session, log ++ recoveryLog)
        | _, _ => return (session.keep { first with document }, log.push .recoverySkipped)
      else
        return (session.keep first, log.push .parsedCleanly)

/-- The diagnostics of the last parse.  Naming what was expected uses the token sets, so they are
announced if they were not used before. -/
def diagnose (session : Session) : List Diagnostic × Log × Session :=
  match session.last with
  | none => ([], #[], session)
  | some parse =>
      let found := parse.diagnostics session.grammar session.prediction
      if session.setsAnnounced || !parse.hasErrors then
        (found, #[], session)
      else
        (found, #[.setsConverged session.prediction.rounds], { session with setsAnnounced := true })

end Session

end Reparse
