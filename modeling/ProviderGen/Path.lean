/-
File paths as texts.

A path is absolute if it starts with a slash. Joining a relative path puts it behind a
directory; an absolute one takes the place of the directory. The parent of a path drops
its last component, and with it the slashes and single dots before that.
-/
import ProviderGen.Naming

set_option autoImplicit false

namespace ProviderGen.Path

open ProviderGen.Naming

/-- Whether a path starts at the root. -/
def isAbsolute (path : String) : Bool := path.toList.head? == some '/'

/-- The path that leads from a directory on to another path. -/
def join (directory path : String) : String :=
  if isAbsolute path then path
  else if directory = "" ∨ directory.toList.getLast? = some '/' then directory ++ path
  else directory ++ "/" ++ path

/-- Whether a piece between slashes stays in the directory where it stands. -/
def isIdle (piece : List Char) : Bool := piece == [] || piece == ['.']

/-- The pieces of a path without those that change nothing; the first piece, which tells
whether and from where the path is relative, is always kept. -/
def components (path : String) : List (List Char) :=
  match pieces '/' path.toList with
  | [] => []
  | first :: rest => first :: rest.filter fun piece => !isIdle piece

/-- The path with the given pieces. -/
def ofPieces (parts : List (List Char)) : String :=
  if parts = [[]] then "/" else String.ofList (['/'].intercalate parts)

/-- The pieces without the idle ones at the end, the first piece excepted. -/
def trimPieces : List (List Char) → List (List Char)
  | [] => []
  | first :: rest => first :: (rest.reverse.dropWhile isIdle).reverse

/-- The path without its last component; what has one component has the empty parent. -/
def parent (path : String) : String :=
  match trimPieces (trimPieces (pieces '/' path.toList)).dropLast with
  | [] => ""
  | parts => ofPieces parts

/-- The rest of a path that starts with a component, or the path itself. -/
def dropFirst (component path : String) : String :=
  if (component.toList ++ ['/']).isPrefixOf path.toList then
    String.ofList ((path.toList.drop (component.toList.length + 1)).dropWhile (· == '/'))
  else path

end ProviderGen.Path
