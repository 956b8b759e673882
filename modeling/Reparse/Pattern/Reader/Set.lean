import Reparse.Pattern.Reader.Escape

/-!
# Bracketed sets in written patterns

A bracketed set lists members and combines such lists by operations, which are grouped from the
left.  Each set is read together with its height: how deep brackets, lists and operations are nested
in it.
-/

namespace Reparse.Pattern.Reader

/-- The members listed so far. -/
structure Members where
  set : CharSet
  count : Nat
  /-- The greatest height of a member. -/
  height : Nat

namespace Members

def none : Members := ⟨.nothing, 0, 0⟩

def add (members : Members) (set : CharSet) (height : Nat) : Members :=
  ⟨members.set.union set, members.count + 1, max members.height height⟩

/-- The height of the list, which counts if it has several members. -/
def listHeight (members : Members) : Nat :=
  if 2 ≤ members.count then members.height + 1 else members.height

end Members

inductive SetOperation where
  | intersection
  | difference
  | symmetricDifference

def SetOperation.apply : SetOperation → CharSet → CharSet → CharSet
  | .intersection => .intersection
  | .difference => .difference
  | .symmetricDifference => .symmetricDifference

/-- The left side of an operation whose right side is being read. -/
structure LeftSide where
  set : CharSet
  height : Nat
  operation : SetOperation

/-- The set and the height of the members, put together with the left side that waits for them. -/
def settle (flags : Flags) (left : Option LeftSide) (members : Members) : CharSet × Nat :=
  match left with
  | .none => (members.set, members.listHeight)
  | some left =>
      (left.operation.apply (flags.foldCase left.set) (flags.foldCase members.set),
        max left.height members.listHeight + 1)

def charSet? (flags : Flags) (char : Char) : Option CharSet :=
  let set := CharSet.single char
  if flags.admits set then some set else none

def escapedSet? (flags : Flags) : Escape → Option CharSet
  | .char char _ => charSet? flags char
  | .set set negated => set.meaning? flags negated
  | .property set negated => if flags.unicode then flags.foldAndNegate? negated set else none
  | _ => none

/-- A character or what a backslash introduces. -/
def member (flags : Flags) : Text → Option (Escape × Text)
  | [] => none
  | '\\' :: rest => escape flags rest
  | char :: rest => some (.char char false, rest)

/-- The character that decides whether a hyphen, which the text starts after, makes a range: the
next one that is not blank and not the hash of a comment. -/
def afterHyphen? (flags : Flags) (text : Text) : Option Char :=
  let next :=
    match text.dropWhile Unicode.isBlank with
    | '#' :: rest => rest.dropWhile Unicode.isBlank
    | rest => rest
  if flags.spaced then next.head? <|> text.head? else text.head?

/-- A member of a bracketed set, or a range of characters. -/
def memberRange (flags : Flags) (text : Text) : Option (CharSet × Text) := do
  let (first, rest) ← member flags text
  match skip flags rest with
  | [] => none
  | '-' :: after =>
      let next := afterHyphen? flags after
      if next = some ']' ∨ next = some '-' then
        return (← escapedSet? flags first, '-' :: after)
      else
        let (last, rest) ← member flags (skip flags after)
        match first, last with
        | .char low _, .char high _ =>
            let set := CharSet.range low high
            if low ≤ high ∧ flags.admits set then some (set, rest) else none
        | _, _ => none
  | rest => return (← escapedSet? flags first, rest)

/-- A named set `[:name:]` or `[:^name:]`. -/
def namedSet (flags : Flags) : Text → Option (Option CharSet × Text)
  | '[' :: ':' :: rest =>
      let (negated, rest) :=
        match rest with
        | '^' :: rest => (true, rest)
        | _ => (false, rest)
      match rest.dropWhile (· != ':') with
      | ':' :: ']' :: after =>
          (CharSet.posix? (rest.takeWhile (· != ':'))).map fun set =>
            (flags.foldAndNegate? negated set, after)
      | _ => none
  | _ => none

/-- The hyphens that stand for themselves because they come first. -/
def leadingHyphens (flags : Flags) : Nat → Members → Text → Members × Text
  | fuel + 1, members, '-' :: rest =>
      leadingHyphens flags fuel (members.add (.single '-') 0) (skip flags rest)
  | _, members, text => (members, text)

/-- After an opening bracket: whether the set is negated, and the hyphens and the closing bracket
that stand for themselves because they come first. -/
def setOpening (flags : Flags) (text : Text) : Bool × Members × Text :=
  let (negated, rest) :=
    match skip flags text with
    | '^' :: rest => (true, skip flags rest)
    | rest => (false, rest)
  let (members, rest) := leadingHyphens flags rest.length .none rest
  match members.count, rest with
  | 0, ']' :: rest => (negated, members.add (.single ']') 0, skip flags rest)
  | _, _ => (negated, members, rest)

/-- The rest of a bracketed set up to its closing bracket, with its height. -/
def setBody (flags : Flags) :
    Nat → Option LeftSide → Members → Text → Option ((CharSet × Nat) × Text)
  | 0, _, _, _ => none
  | fuel + 1, left, members, text =>
      let operation := fun operation rest =>
        let (set, height) := settle flags left members
        setBody flags fuel (some ⟨set, height, operation⟩) .none rest
      match skip flags text with
      | [] => none
      | ']' :: rest => some (settle flags left members, rest)
      | '&' :: '&' :: rest => operation .intersection rest
      | '-' :: '-' :: rest => operation .difference rest
      | '~' :: '~' :: rest => operation .symmetricDifference rest
      | '[' :: rest =>
          match namedSet flags ('[' :: rest) with
          | some (named, rest) => do
              setBody flags fuel left (members.add (← named) 0) rest
          | .none => do
              let (negated, first, rest) := setOpening flags rest
              let ((inner, height), rest) ← setBody flags fuel .none first rest
              let inner ← flags.foldAndNegate? negated inner
              setBody flags fuel left (members.add inner (height + 1)) rest
      | text => do
          let (set, rest) ← memberRange flags text
          setBody flags fuel left (members.add set 0) rest

/-- A bracketed set, after its opening bracket, with its height. -/
def bracketed (flags : Flags) (text : Text) : Option ((CharSet × Nat) × Text) := do
  let (negated, first, rest) := setOpening flags text
  let ((set, height), rest) ← setBody flags (rest.length + 1) none first rest
  return ((← flags.foldAndNegate? negated set, height + 1), rest)

end Reparse.Pattern.Reader
