import Reparse.Text
import Reparse.Unicode.Extending
import Reparse.Unicode.Hidden

/-!
# Quoted text

Token texts are shown between double quotes and single characters between apostrophes.  The quote
in use, the backslash and the usual control characters are written with a backslash; characters
that would not be seen on their own are written by their code.
-/

namespace Reparse.Text

/-- A code point in hexadecimal between braces. -/
def escapedCode (char : Char) : List Char :=
  ['\\', 'u', '\x7b'] ++ Nat.toDigits 16 char.toNat ++ ['\x7d']

/-- The written form of one character between marks `quote`. -/
def escaped (quote char : Char) : List Char :=
  match char with
  | '\x00' => ['\\', '0']
  | '\t' => ['\\', 't']
  | '\r' => ['\\', 'r']
  | '\n' => ['\\', 'n']
  | '\\' => ['\\', '\\']
  | _ =>
      if char = quote then ['\\', char]
      else if Unicode.isExtending char || Unicode.isHidden char then escapedCode char
      else [char]

def quoted (text : Text) : String :=
  String.ofList ('"' :: text.flatMap (escaped '"') ++ ['"'])

def quotedChar (char : Char) : String :=
  String.ofList ('\'' :: escaped '\'' char ++ ['\''])

end Reparse.Text
