import Reparse.Text

/-!
# Files by path

A directory of files as a program sees them that was started in it.  Only a directory can be walked
on from, and only a file has a text.
-/

namespace Reparse

inductive FileError where
  | notFound
  | denied
  | notDirectory
  | isDirectory
  | nameTooLong
  | notText
  deriving DecidableEq, Repr

def FileError.message : FileError → String
  | .notFound => "No such file or directory (os error 2)"
  | .denied => "Permission denied (os error 13)"
  | .notDirectory => "Not a directory (os error 20)"
  | .isDirectory => "Is a directory (os error 21)"
  | .nameTooLong => "File name too long (os error 36)"
  | .notText => "stream did not contain valid UTF-8"

/-- The files below a directory, by their paths from there. -/
structure Directory where
  files : List (List String × Except FileError Text)

namespace Directory

def longestName : Nat := 255

def longestPath : Nat := 4095

def names (path : String) : List String := path.splitOn "/"

def ofFiles (files : List (String × Except FileError Text)) : Directory :=
  ⟨files.map fun (path, content) => (names path, content)⟩

/-- A place that a path leads to: one below the directory, or some directory above it. -/
inductive Place where
  | below (path : List String)
  | above
  deriving DecidableEq, Repr

def isFile (directory : Directory) : Place → Bool
  | .below path => (directory.files.lookup path).isSome
  | .above => false

/-- Whether there is a file at the path or below it. -/
def has (directory : Directory) (path : List String) : Bool :=
  directory.files.any fun (file, _) => path.isPrefixOf file

/-- Goes from a place to what a name means there. -/
def enter (directory : Directory) (place : Place) (name : String) : Except FileError Place :=
  if directory.isFile place then .error .notDirectory
  else if name = "" ∨ name = "." then .ok place
  else if name = ".." then
    match place with
    | .below (last :: path) => .ok (.below (last :: path).dropLast)
    | _ => .ok .above
  else if longestName < name.utf8ByteSize then .error .nameTooLong
  else
    match place with
    | .above => .error .notFound
    | .below path =>
        let path := path ++ [name]
        if directory.has path then .ok (.below path) else .error .notFound

/-- The place of a path.  A path that starts with a slash starts above. -/
def find (directory : Directory) (path : String) : Except FileError Place :=
  if path = "" then .error .notFound
  else if longestPath < path.utf8ByteSize then .error .nameTooLong
  else
    let start := if path.startsWith "/" then .above else .below []
    (names path).foldlM directory.enter start

/-- The device that is an empty file wherever the program was started. -/
def nullDevice : String := "/dev/null"

def read (directory : Directory) (path : String) : Except FileError Text :=
  if path = nullDevice then .ok []
  else
    match directory.find path with
    | .error error => .error error
    | .ok .above => .error .isDirectory
    | .ok (.below path) => (directory.files.lookup path).getD (.error .isDirectory)

end Directory

end Reparse
