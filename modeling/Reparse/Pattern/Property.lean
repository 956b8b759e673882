import Reparse.Pattern.CharSet
import Reparse.Unicode.Alphabetic
import Reparse.Unicode.Binary
import Reparse.Unicode.Category
import Reparse.Unicode.Extending
import Reparse.Unicode.Script

/-!
# Properties of characters by name

A name alone is a property that characters have or lack, a general category or a script.  Case,
spaces, hyphens, low lines, characters beyond ASCII and a leading "is" do not matter.
-/

namespace Reparse

open Unicode (Category NamedRanges)

namespace CharSet

def ofCategories (categories : List Category) : CharSet :=
  .ofRanges (categories.flatMap Category.ranges)

def assigned : CharSet := ofCategories Category.assigned

def ascii : CharSet := ⟨[(0, 127)]⟩

/-- The categories and groups of categories by name. -/
def categories? : String → Option (List Category)
  | "l" | "letter" => some Category.letters
  | "lc" | "casedletter" => some Category.casedLetters
  | "lu" | "uppercaseletter" => some [.uppercaseLetter]
  | "ll" | "lowercaseletter" => some [.lowercaseLetter]
  | "lt" | "titlecaseletter" => some [.titlecaseLetter]
  | "lm" | "modifierletter" => some [.modifierLetter]
  | "lo" | "otherletter" => some [.otherLetter]
  | "m" | "mark" | "combiningmark" => some Category.marks
  | "mn" | "nonspacingmark" => some [.nonspacingMark]
  | "mc" | "spacingmark" => some [.spacingMark]
  | "me" | "enclosingmark" => some [.enclosingMark]
  | "n" | "number" => some Category.numbers
  | "nd" | "decimalnumber" | "digit" => some [.decimalNumber]
  | "nl" | "letternumber" => some [.letterNumber]
  | "no" | "othernumber" => some [.otherNumber]
  | "p" | "punctuation" | "punct" => some Category.punctuation
  | "pc" | "connectorpunctuation" => some [.connector]
  | "pd" | "dashpunctuation" => some [.dash]
  | "ps" | "openpunctuation" => some [.opening]
  | "pe" | "closepunctuation" => some [.closing]
  | "pi" | "initialpunctuation" => some [.initialQuote]
  | "pf" | "finalpunctuation" => some [.finalQuote]
  | "po" | "otherpunctuation" => some [.otherPunctuation]
  | "s" | "symbol" => some Category.symbols
  | "sm" | "mathsymbol" => some [.mathSymbol]
  | "sc" | "currencysymbol" => some [.currencySymbol]
  | "sk" | "modifiersymbol" => some [.modifierSymbol]
  | "so" | "othersymbol" => some [.otherSymbol]
  | "z" | "separator" => some Category.separators
  | "zs" | "spaceseparator" => some [.spaceSeparator]
  | "zl" | "lineseparator" => some [.lineSeparator]
  | "zp" | "paragraphseparator" => some [.paragraphSeparator]
  | "cc" | "control" | "cntrl" => some [.control]
  | "cf" | "format" => some [.format]
  | "co" | "privateuse" => some [.privateUse]
  | _ => none

/-- The categories by name, and the sets that count as categories: all characters, those that are
assigned, those that are not, and the ASCII characters. -/
def category? : String → Option CharSet
  | "any" => some everything
  | "assigned" => some assigned
  | "ascii" => some ascii
  | "cn" | "unassigned" => some assigned.complement
  | "c" | "other" => some (union assigned.complement (ofCategories Category.others))
  | name => (categories? name).map ofCategories

def script? (name : String) : Option CharSet :=
  (NamedRanges.find? Unicode.Script.all name).map fun ranges => ⟨ranges⟩

def lowercase : CharSet :=
  union (ofCategories [.lowercaseLetter]) ⟨Unicode.Binary.otherLowercaseRanges⟩

def uppercase : CharSet :=
  union (ofCategories [.uppercaseLetter]) ⟨Unicode.Binary.otherUppercaseRanges⟩

def identifierStart : CharSet :=
  difference
    (union (ofCategories (.letterNumber :: Category.letters)) ⟨Unicode.Binary.otherIdStartRanges⟩)
    ⟨Unicode.Binary.patternSyntaxRanges⟩

def identifierContinue : CharSet :=
  union identifierStart
    (union (ofCategories [.nonspacingMark, .spacingMark, .decimalNumber, .connector])
      ⟨Unicode.Binary.otherIdContinueRanges⟩)

/-- The assigned characters that are drawn onto the one before them. -/
def extending : CharSet := intersection ⟨Unicode.extendingRanges⟩ assigned

/-- The properties that are derived from categories. -/
def derived? : String → Option CharSet
  | "alpha" | "alphabetic" => some (intersection ⟨Unicode.alphabeticRanges⟩ assigned)
  | "lower" | "lowercase" => some lowercase
  | "upper" | "uppercase" => some uppercase
  | "cased" => some (union (union lowercase uppercase) (ofCategories [.titlecaseLetter]))
  | "ci" | "caseignorable" =>
      some (union
        (ofCategories [.nonspacingMark, .enclosingMark, .format, .modifierLetter, .modifierSymbol])
        ⟨Unicode.Binary.otherCaseIgnorableRanges⟩)
  | "math" => some (union (ofCategories [.mathSymbol]) ⟨Unicode.Binary.otherMathRanges⟩)
  | "ids" | "idstart" => some identifierStart
  | "idc" | "idcontinue" => some identifierContinue
  | "xids" | "xidstart" =>
      some (difference identifierStart ⟨Unicode.Binary.unstableStartRanges⟩)
  | "xidc" | "xidcontinue" =>
      some (difference identifierContinue ⟨Unicode.Binary.unstableContinueRanges⟩)
  | "grext" | "graphemeextend" => some extending
  | "grbase" | "graphemebase" =>
      some (difference assigned
        (union extending
          (ofCategories (.lineSeparator :: .paragraphSeparator :: Category.others))))
  | "wspace" | "whitespace" | "space" => some blank
  | _ => none

/-- The characters that have a property, which others lack. -/
def binary? (name : String) : Option CharSet :=
  derived? name <|>
    (NamedRanges.find? Unicode.Binary.all name).map fun ranges => ⟨ranges⟩

/-- The characters that a name alone means. -/
def named? (name : String) : Option CharSet := binary? name <|> category? name <|> script? name

/-- The form in which names are compared.  The "is" of "isc" belongs to the name. -/
def looseName (name : List Char) : String :=
  let folded := fun name : List Char =>
    (name.filter fun char => char.toNat < 128 && char ∉ [' ', '_', '-']).map Char.toLower
  match name with
  | 'i' :: 's' :: rest | 'i' :: 'S' :: rest | 'I' :: 's' :: rest | 'I' :: 'S' :: rest =>
      let rest := folded rest
      if rest = ['c'] then "isc" else String.ofList rest
  | _ => String.ofList (folded name)

/-- The characters whose value of a property has a name. -/
def valued? (property value : String) : Option CharSet :=
  match property with
  | "gc" | "generalcategory" => category? value
  | "sc" | "script" => script? value
  | _ => none

/-- The text before the first place where a separator stands, and the text after it. -/
def splitAt? (separator : List Char) : List Char → Option (List Char × List Char)
  | [] => none
  | char :: rest =>
      if separator.isPrefixOf (char :: rest) then
        some ([], (char :: rest).drop separator.length)
      else
        (splitAt? separator rest).map fun (before, after) => (char :: before, after)

/-- The characters that a written property means.  A property and its value are separated by an
equals sign or a colon; an exclamation mark before the equals sign is allowed and means nothing. -/
def property? (written : List Char) : Option CharSet :=
  match splitAt? ['!', '='] written <|> splitAt? [':'] written <|> splitAt? ['='] written with
  | some (property, value) => valued? (looseName property) (looseName value)
  | none => named? (looseName written)

end CharSet

end Reparse
