/-
The program.

It runs a command over the files of the machine, prints what the command printed and ends
with its exit code.
-/
import ProviderGen.CommandLine.Run

set_option autoImplicit false

namespace ProviderGen

/-- A fault of the system, by its kind and number. -/
def FileFault.ofSystem : IO.Error → FileFault
  | .noFileOrDirectory _ _ _ => .notFound
  | .alreadyExists _ _ _ => .exists
  | .inappropriateType _ 20 _ => .notDirectory
  | .inappropriateType _ 21 _ => .isDirectory
  | .illegalOperation _ _ => .invalidPath
  | .invalidArgument _ 36 _ => .nameTooLong
  | .permissionDenied _ code _ => .other ("Permission denied (os error " ++ toString code ++ ")")
  | error => .other error.toString

/-- The outcome of an operation, with its fault as a value. -/
def outcomeOf {α : Type} (operation : IO α) : IO (Except FileFault α) := do
  match ← operation.toBaseIO with
  | .ok value => return .ok value
  | .error error => return .error (.ofSystem error)

/-- Whether a path leads to a directory. -/
def leadsToDirectory (path : String) : IO Bool := do
  match ← (IO.FS.realPath path).toBaseIO with
  | .ok place => place.isDir
  | .error _ => return false

/-- Whether a path leads to a file that can be read. -/
def leadsToFile (path : String) : IO Bool := do
  match ← (IO.FS.readBinFile path).toBaseIO with
  | .ok _ => return true
  | .error _ => return false

/-- The operations on the files of the machine. -/
def systemFiles : Files IO where
  isFile := leadsToFile
  isDirectory := leadsToDirectory
  read path := outcomeOf (IO.FS.readBinFile path)
  write path contents := outcomeOf (IO.FS.writeBinFile path contents)
  makeDirectory path := outcomeOf (IO.FS.createDir path)

end ProviderGen

/-- Runs the program. -/
def main (arguments : List String) : IO UInt32 := do
  let outcome ← ProviderGen.CommandLine.run ProviderGen.systemFiles arguments
  IO.print outcome.out
  IO.eprint outcome.err
  return UInt32.ofNat outcome.exitCode
