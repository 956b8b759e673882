import Reparse.Grammar.Basic
import Reparse.Tokenizer

/-!
# Languages

A language is a grammar, what cuts texts into the grammar's tokens, and the non-terminal that a
whole text stands for.
-/

namespace Reparse

structure Language where
  grammar : Grammar
  scanner : Tokenizer
  start : NonTerminalId

end Reparse
