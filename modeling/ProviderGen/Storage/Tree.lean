/-
A tree of files in memory.

A tree lists its entries by their paths from the root; it has no links, so every entry
has one path. A path is looked up piece by piece from the root or from the working
directory, and every piece but the last one has to lead to a directory.
-/
import ProviderGen.Storage.Basic

set_option autoImplicit false

namespace ProviderGen

open ProviderGen.Naming

/-! ## Trees -/

/-- The names on the way from the root to an entry. -/
abbrev Trail := List (List Char)

/-- What a tree holds at a path. -/
inductive TreeEntry where
  | directory
  | file (contents : ByteArray)

/-- Whether two entries hold the same. -/
def TreeEntry.same : TreeEntry → TreeEntry → Bool
  | directory, directory => true
  | file a, file b => a.data == b.data
  | _, _ => false

/-- A tree of files. -/
structure FileTree where
  /-- Where relative paths start. -/
  workingDirectory : Trail
  entries : List (Trail × TreeEntry)

namespace FileTree

/-- The entry at a trail; the root is a directory. -/
def entry? (tree : FileTree) (trail : Trail) : Option TreeEntry :=
  if trail = [] then some .directory else tree.entries.lookup trail

/-- The entries with one of them set. -/
def setEntry (trail : Trail) (entry : TreeEntry) :
    List (Trail × TreeEntry) → List (Trail × TreeEntry)
  | [] => [(trail, entry)]
  | (t, e) :: rest =>
    if t = trail then (t, entry) :: rest else (t, e) :: setEntry trail entry rest

/-- The tree with an entry set. -/
def set (tree : FileTree) (trail : Trail) (entry : TreeEntry) : FileTree :=
  { tree with entries := setEntry trail entry tree.entries }

/-! ## Paths -/

/-- The longest name, in bytes. -/
def maxNameBytes : Nat := 255

/-- The longest path, in bytes. -/
def maxPathBytes : Nat := 4095

/-- Goes on from a trail, which has to be that of a directory, by one piece of a path. -/
def stepInto (tree : FileTree) (trail : Trail) (piece : List Char) : Except FileFault Trail :=
  match tree.entry? trail with
  | none => .error .notFound
  | some (.file _) => .error .notDirectory
  | some .directory =>
    if Path.isIdle piece then .ok trail
    else if piece = ['.', '.'] then .ok trail.dropLast
    else if (String.ofList piece).utf8ByteSize > maxNameBytes then .error .nameTooLong
    else .ok (trail ++ [piece])

/-- The trail that a path leads to, where nothing need be yet. -/
def locate (tree : FileTree) (path : String) : Except FileFault Trail :=
  if path = "" then .error .notFound
  else if path.toList.any fun c => c.toNat == 0 then .error .invalidPath
  else if path.utf8ByteSize > maxPathBytes then .error .nameTooLong
  else
    (pieces '/' path.toList).foldlM tree.stepInto
      (if Path.isAbsolute path then [] else tree.workingDirectory)

/-- The entry that a path leads to. -/
def find (tree : FileTree) (path : String) : Except FileFault TreeEntry := do
  match tree.entry? (← tree.locate path) with
  | some entry => .ok entry
  | none => .error .notFound

/-! ## Operations -/

/-- Whether a path leads to a file. -/
def isFile (tree : FileTree) (path : String) : Bool :=
  match tree.find path with
  | .ok (.file _) => true
  | _ => false

/-- Whether a path leads to a directory. -/
def isDirectory (tree : FileTree) (path : String) : Bool :=
  match tree.find path with
  | .ok .directory => true
  | _ => false

/-- The contents of a file. -/
def read (tree : FileTree) (path : String) : Except FileFault ByteArray := do
  match ← tree.find path with
  | .file contents => .ok contents
  | .directory => .error .isDirectory

/-- The tree with a file written. -/
def write (tree : FileTree) (path : String) (contents : ByteArray) : Except FileFault FileTree := do
  let trail ← tree.locate path
  match tree.entry? trail with
  | some .directory => .error .isDirectory
  | _ => .ok (tree.set trail (.file contents))

/-- The tree with a directory made. -/
def makeDirectory (tree : FileTree) (path : String) : Except FileFault FileTree := do
  let trail ← tree.locate path
  match tree.entry? trail with
  | some _ => .error .exists
  | none => .ok (tree.set trail .directory)

/-- An operation that changes the tree unless it fails. -/
def change (operation : FileTree → Except FileFault FileTree) :
    StateM FileTree (Except FileFault Unit) := fun tree =>
  match operation tree with
  | .ok changed => (.ok (), changed)
  | .error fault => (.error fault, tree)

/-- The operations on a tree. -/
def files : Files (StateM FileTree) where
  isFile path := do return (← get).isFile path
  isDirectory path := do return (← get).isDirectory path
  read path := do return (← get).read path
  write path contents := change fun tree => tree.write path contents
  makeDirectory path := change fun tree => tree.makeDirectory path

/-! ## Changes -/

/-- The entries that are new or different since an earlier tree. -/
def changesSince (tree earlier : FileTree) : List (Trail × TreeEntry) :=
  tree.entries.filter fun (trail, entry) =>
    !(earlier.entries.lookup trail).any fun before => before.same entry

end FileTree

end ProviderGen
