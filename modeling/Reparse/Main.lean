import Reparse.CommandLine

/-!
# The program

Reads the files that the arguments name, runs the command line on them, and prints what it
collected.
-/

namespace Reparse

/-- Why a file could not be read.  A directory is opened without complaint, so the error of reading
it names no file. -/
def fileError : IO.Error → FileError
  | .inappropriateType none .. => .isDirectory
  | .inappropriateType (some _) .. => .notDirectory
  | .invalidArgument .. => .nameTooLong
  | .permissionDenied .. => .denied
  | _ => .notFound

/-- The text of a file, or why there is none. -/
def readText (name : String) : IO (Except FileError Text) := do
  try
    let bytes ← IO.FS.readBinFile name
    match String.fromUTF8? bytes with
    | some text => return .ok text.toList
    | none => return .error .notText
  catch error =>
    return .error (fileError error)

end Reparse

/-- Every argument is tried as the name of a file before the run starts. -/
def main (arguments : List String) : IO UInt32 := do
  let level ← IO.getEnv "RUST_LOG"
  let read ← arguments.mapM fun name => do return (name, ← Reparse.readText name)
  let files := fun name => (read.lookup name).getD (.error .notFound)
  let outcome := Reparse.CommandLine.run files level arguments
  IO.print outcome.output.stdout
  IO.eprint outcome.output.stderr
  return UInt32.ofNat outcome.code
