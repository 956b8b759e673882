import Reparse.Grammar.Description
import Reparse.Json.Fields
import Reparse.Session

/-!
# Written forms

How descriptions of grammars, changes and settings are read from JSON values.  Names of fields are
written in camel case.
-/

namespace Reparse

namespace Presence

def ofJson? (json : Json) : Option Presence := do
  let (name, data) ← json.choice?
  if !Json.isUnit data then none
  else if name = "required" then some .required
  else if name = "optional" then some .optional
  else if name = "prohibited" then some .prohibited
  else none

/-- A presence whose form nests at most `depth` deep. -/
def ofJsonWithin? : Nat → Json → Option Presence
  | 0, .object _ => none
  | _, json => ofJson? json

end Presence

namespace RuleExpr

mutual

/-- A rule expression whose form nests at most `depth` deep. -/
def ofJsonWithin? : Nat → Json → Option RuleExpr
  | 0, .string (some "empty") => some .empty
  | 0, _ => none
  | depth + 1, json => do
      let (name, data) ← json.choice?
      match name, data with
      | "empty", data => if Json.isUnit data then some .empty else none
      | "token", some data => data.string?.map .token
      | "nonTerminal", some data => data.string?.map .nonTerminal
      | "optional", some data => (ofJsonWithin? depth data).map .optional
      | "alternation", some data => (listWithin? depth data).map .alternation
      | "sequence", some data => (listWithin? depth data).map .sequence
      | "repeat", some data => repetitionWithin? depth data
      | _, _ => none

def listWithin? : Nat → Json → Option (List RuleExpr)
  | 0, _ => none
  | depth + 1, json => json.listOf? (ofJsonWithin? depth)

def repetitionWithin? : Nat → Json → Option RuleExpr
  | 0, _ => none
  | depth + 1, json =>
      match json.record? ["content", "separator", "leading", "trailing"] with
      | some [content, separator, leading, trailing] => do
          let content ← Json.required? (ofJsonWithin? depth) content
          let separator ← Json.nullable? (ofJsonWithin? depth) separator
          let leading ← Json.withDefault? .prohibited (Presence.ofJsonWithin? depth) leading
          let trailing ← Json.withDefault? .prohibited (Presence.ofJsonWithin? depth) trailing
          return .repetition content separator leading trailing
      | _ => none

end

/-- An expression stands in the object of the rules, which stands in the description. -/
def ofJson? (json : Json) : Option RuleExpr := ofJsonWithin? (Json.nestingLimit - 2) json

end RuleExpr

namespace TokenPattern

def ofJson? (json : Json) : Option TokenPattern :=
  match json.record? ["name", "pattern"] with
  | some [name, pattern] => do
      let name ← Json.required? Json.string? name
      let pattern ← Json.required? Json.string? pattern
      return ⟨name, pattern.toList⟩
  | _ => none

end TokenPattern

namespace Description

def rulesOfJson? : Json → Option (List (String × RuleExpr))
  | .object members =>
      members.mapM fun (name, rule) => do return (← name, ← RuleExpr.ofJson? rule)
  | _ => none

def ofJson? (json : Json) : Option Description :=
  match json.record? ["tokens", "skip", "fallback", "rules", "cut", "start"] with
  | some [tokens, skip, fallback, rules, blocks, start] => do
      let tokens ← Json.required? (Json.listOf? TokenPattern.ofJson?) tokens
      let skip ← Json.nullable? Json.string? skip
      let fallback ← Json.nullable? Json.string? fallback
      let rules ← Json.required? rulesOfJson? rules
      let blocks ← Json.withDefault? [] (Json.listOf? Json.string?) blocks
      let start ← Json.required? Json.string? start
      return ⟨tokens, skip.map String.toList, fallback, rules, blocks, start⟩
  | _ => none

end Description

namespace Position

def ofJson? (json : Json) : Option Position :=
  match json.record? ["line", "column"] with
  | some [line, column] => do
      let line ← Json.required? Json.number? line
      let column ← Json.required? Json.number? column
      return ⟨line, column⟩
  | _ => none

end Position

namespace Change

def ofJson? (json : Json) : Option Change :=
  match json.record? ["text", "start", "end"] with
  | some [text, start, stop] => do
      let text ← Json.required? Json.string? text
      let start ← Json.required? Position.ofJson? start
      let stop ← Json.required? Position.ofJson? stop
      return ⟨text.toList, start, stop⟩
  | _ => none

end Change

namespace Leniency

def ofJson? (json : Json) : Option Leniency :=
  match json.record? ["errorTolerant", "skipUnknownTokens"] with
  | some [toleratesErrors, skipsUnknown] => do
      let toleratesErrors ← Json.withDefault? true Json.bool? toleratesErrors
      let skipsUnknown ← Json.withDefault? true Json.bool? skipsUnknown
      return ⟨toleratesErrors, skipsUnknown⟩
  | _ => none

end Leniency

namespace Settings

def ofJson? (json : Json) : Option Settings :=
  match json.record? ["parser", "changeBasedErrorRecovery"] with
  | some [leniency, recovery] => do
      let leniency ← Json.withDefault? .standard Leniency.ofJson? leniency
      let recovery ← Json.withDefault? true Json.bool? recovery
      return ⟨leniency, recovery⟩
  | _ => none

end Settings

end Reparse
