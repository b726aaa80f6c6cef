/-
Access to files, whatever holds them.

The generator reads and writes through a record of five operations in a monad `m`. It
runs over the files of the machine and, in the same words, over a tree in memory. Every
other operation on files is made of these.
-/
import ProviderGen.Path
import ProviderGen.Text.Utf8

set_option autoImplicit false

namespace ProviderGen

open ProviderGen.Text

/-! ## Faults -/

/-- Why an operation on a file fails. -/
inductive FileFault where
  | notFound
  | exists
  | notDirectory
  | isDirectory
  | nameTooLong
  /-- A path with a NUL character. -/
  | invalidPath
  /-- Any other reason, in the words of the system. -/
  | other (reason : String)
  deriving DecidableEq, Repr

/-- The wording of a fault. -/
def FileFault.message : FileFault → String
  | .notFound => "No such file or directory (os error 2)"
  | .exists => "File exists (os error 17)"
  | .notDirectory => "Not a directory (os error 20)"
  | .isDirectory => "Is a directory (os error 21)"
  | .nameTooLong => "File name too long (os error 36)"
  | .invalidPath => "file name contained an unexpected NUL byte"
  | .other reason => reason

/-! ## Operations -/

/-- The operations on files. -/
structure Files (m : Type → Type) where
  isFile : String → m Bool
  isDirectory : String → m Bool
  read : String → m (Except FileFault ByteArray)
  /-- Writes a file and replaces what it held. -/
  write : String → ByteArray → m (Except FileFault Unit)
  /-- Makes a directory in one that exists. -/
  makeDirectory : String → m (Except FileFault Unit)

namespace Files

variable {m : Type → Type} [Monad m]

/-- The text of a file, or the reason why there is none. -/
def readText (files : Files m) (path : String) : m (Except String String) := do
  match ← files.read path with
  | .error fault => return .error fault.message
  | .ok bytes =>
    match decodeUtf8 bytes with
    | .ok text => return .ok text
    | .error _ => return .error "stream did not contain valid UTF-8"

/-- Makes a directory unless it is there already. -/
def ensureDirectory (files : Files m) (path : String) : m (Except FileFault Unit) := do
  match ← files.makeDirectory path with
  | .ok () => return .ok ()
  | .error fault => if ← files.isDirectory path then return .ok () else return .error fault

/-- Makes the directory with the given components, the last one first, and whichever of
those around it are missing. -/
def ensureComponents (files : Files m) : List (List Char) → m (Except FileFault Unit)
  | [] => return .ok ()
  | last :: around => do
    let path := Path.ofPieces (last :: around).reverse
    match ← files.ensureDirectory path with
    | .error .notFound =>
      if around = [] then return .error .notFound
      match ← files.ensureComponents around with
      | .ok () => files.ensureDirectory path
      | .error fault => return .error fault
    | outcome => return outcome

/-- Makes a directory and those around it that are missing. -/
def ensureDirectories (files : Files m) (path : String) : m (Except FileFault Unit) :=
  if path = "" then return .ok () else files.ensureComponents (Path.components path).reverse

end Files

end ProviderGen
