import Reparse.Grammar.Description
import Reparse.Pattern.Program
import Reparse.Pattern.Reader

/-!
# Patterns as matchers

The program compiles the patterns of a description to those of this library.  What is proved of
descriptions holds of any compiler.
-/

namespace Reparse

namespace Matcher

def ofPattern (pattern : Pattern) : Matcher where
  matchEnd? := Pattern.matchEnd? (.ofPattern pattern)
  withinText := Pattern.matchEnd?_le_length (.ofPattern pattern)

def compile? (pattern : Text) : Option Matcher :=
  (Pattern.readAtStart? pattern).map ofPattern

end Matcher

namespace Description

def matcher? : String → Text → Except DescriptionError Matcher := matcherBy Matcher.compile?

def build : Description → Except DescriptionError Language := buildBy Matcher.compile?

end Description

end Reparse
