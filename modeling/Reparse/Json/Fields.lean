import Reparse.Json.Basic

/-!
# Records and choices in JSON

A record is an object, or an array of its fields in their order.  An object may have members of
other names, but no field twice; an array may end early where the rest of the fields have defaults.
-/

namespace Reparse.Json

/-- The largest number that positions and other counts may be. -/
def largestNumber : Nat := 4294967295

def number? : Json → Option Nat
  | .integer value => if value ≤ largestNumber then some value else none
  | _ => none

def bool? : Json → Option Bool
  | .bool value => some value
  | _ => none

def string? : Json → Option String
  | .string text => text
  | _ => none

def listOf? (item? : Json → Option α) : Json → Option (List α)
  | .array items => items.mapM item?
  | _ => none

/-- The member of a name: nothing if it is not there, and a failure if it is there twice. -/
def member? (members : List (Option String × Json)) (name : String) : Option (Option Json) :=
  match members.filter (·.1 == some name) with
  | [] => some none
  | [(_, value)] => some (some value)
  | _ => none

/-- The fields of a record by their names, in the order of the names. -/
def record? (names : List String) : Json → Option (List (Option Json))
  | .object members =>
      if members.all (·.1.isSome) then names.mapM (member? members) else none
  | .array items =>
      if items.length ≤ names.length then
        some (items.map some ++ List.replicate (names.length - items.length) none)
      else
        none
  | _ => none

def required? (read? : Json → Option α) (field : Option Json) : Option α := field.bind read?

def withDefault? (default : α) (read? : Json → Option α) : Option Json → Option α
  | none => some default
  | some value => read? value

def nullable? (read? : Json → Option α) : Option Json → Option (Option α)
  | none => some none
  | some .null => some none
  | some value => (read? value).map some

/-- The alternative that a value chooses, with its data if it has any. -/
def choice? : Json → Option (String × Option Json)
  | .string (some name) => some (name, none)
  | .object [(some name, value)] => some (name, some value)
  | _ => none

/-- Whether the data of an alternative that has none are as they have to be. -/
def isUnit : Option Json → Bool
  | none => true
  | some .null => true
  | some _ => false

end Reparse.Json
