import SubscriptLint.CommandLine.Run
/-!
# The program

Reads the files that are needed for what is asked for, does it, and writes what it leaves.
-/

namespace SubscriptLint

/-- What is wrong with a file that the system cannot read. -/
def FileFault.ofError : IO.Error → FileFault
  | .inappropriateType none .. => .isDirectory
  | .inappropriateType (some _) .. => .notDirectory
  | .invalidArgument _ 22 _ => .zeroCharacter
  | .invalidArgument .. => .tooLong
  | .permissionDenied .. => .denied
  | _ => .notFound

/-- Reads one file. -/
def readPath (path : String) : IO (Except FileFault String) := do
  try
    let bytes ← IO.FS.readBinFile path
    match String.fromUTF8? bytes with
    | some text => return .ok text
    | none => return .error .notText
  catch e => return .error (.ofError e)

/-- Reads the files that a command may ask for. -/
def readPaths (paths : List String) : IO FileReader := do
  let texts ← paths.mapM fun path => do return (path, ← readPath path)
  return fun path => (texts.lookup path).getD (.error .notFound)

end SubscriptLint

open SubscriptLint in
/-- Runs the program. -/
def main (args : List String) : IO UInt32 := do
  let files ← readPaths ((Request.ofArgs? args).elim [] Request.paths)
  let outcome := Request.runArgs files args
  IO.print outcome.output
  IO.eprint outcome.errors
  return outcome.exitCode.toUInt32
