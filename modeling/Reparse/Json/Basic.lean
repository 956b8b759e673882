/-!
# JSON values

Objects keep their members as written, repeated names included.  Of numbers only the plain integers
matter here.  A string with half of a surrogate pair is no text, so strings and names hold a text or
nothing.
-/

namespace Reparse

inductive Json where
  | null
  | bool (value : Bool)
  /-- A number written without sign, fraction and exponent. -/
  | integer (value : Nat)
  | otherNumber
  | string (text : Option String)
  | array (items : List Json)
  | object (members : List (Option String × Json))
  deriving Repr

namespace Json

instance : Inhabited Json := ⟨.null⟩

/-- How many arrays and objects may be read one inside the other.  What is not read may nest
deeper. -/
def nestingLimit : Nat := 127

end Json

end Reparse
