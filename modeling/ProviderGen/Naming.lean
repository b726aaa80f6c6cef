/-
Identifier spellings and the names read off URL paths.

Resource names come from path segments (`internalNetworks` gives
`internal_network`) and field names from property keys (`isGlobal` gives
`is_global`); generated identifiers are the Pascal spelling of those snake
names. Everything here works on the characters of the text, so that each law is
an induction over a list.
-/
import ProviderGen.Text.Blank
import ProviderGen.Text.Case

set_option autoImplicit false

namespace ProviderGen.Naming

open ProviderGen.Text

/-! ## Pieces of a text -/

/-- The pieces between the occurrences of `sep`; a text without `sep` is one piece. -/
def pieces (sep : Char) : List Char → List (List Char)
  | [] => [[]]
  | c :: rest =>
    if c = sep then [] :: pieces sep rest
    else
      match pieces sep rest with
      | [] => [[c]]
      | piece :: more => (c :: piece) :: more

/-! ## Snake case -/

/-- Characters that part words in a key or a path segment. -/
def isSeparator (c : Char) : Bool := c == '-' || c == ' ' || c == '.' || c == '_'

/-- Adds an underscore to a reversed text unless the text is empty or ends in one. -/
def underscore (out : List Char) : List Char :=
  match out with
  | [] => []
  | c :: _ => if c = '_' then out else '_' :: out

/-- One character of the input: `prev` is the character before it and `out` the
reversed output so far. A capital after a small letter or a digit starts a word. -/
def snakeStep (prev : Option Char) (out : List Char) (c : Char) : List Char :=
  if isSeparator c then underscore out
  else if isUpper c then
    let starts := match prev with
      | some p => isLower p || isAsciiDigit p
      | none => false
    (lower c).reverse ++ (if starts then underscore out else out)
  else c :: out

/-- The reversed output after all characters. -/
def snakeFold : Option Char → List Char → List Char → List Char
  | _, out, [] => out
  | prev, out, c :: rest => snakeFold (some c) (snakeStep prev out c) rest

/-- Snake spelling of a text given as characters. -/
def snakeChars (s : List Char) : List Char :=
  ((snakeFold none [] s).dropWhile (· == '_')).reverse

/-- The snake spelling: words in lower case, parted by single underscores. An
underscore stands at every change from a small letter or digit to a capital, and
hyphens, blanks and dots count as underscores. -/
def snake (s : String) : String := String.ofList (snakeChars s.toList)

/-! ## Pascal and camel case -/

/-- The word with its first character in upper case. -/
def capitalize : List Char → List Char
  | [] => []
  | c :: rest => upper c ++ rest

/-- Pascal spelling of a text given as characters. -/
def pascalChars (s : List Char) : List Char := (pieces '_' s).flatMap capitalize

/-- The Pascal spelling: the words between underscores, each capitalized. -/
def pascal (s : String) : String := String.ofList (pascalChars s.toList)

/-- The camel spelling: the Pascal spelling with its first character in lower case. -/
def camel (s : String) : String :=
  match pascalChars s.toList with
  | [] => ""
  | c :: rest => String.ofList (lower c ++ rest)

/-! ## Singular -/

/-- Segments that end in `s` without being plurals. -/
def invariantSegments : List (List Char) := ["whois".toList, "dns".toList]

/-- Drops the one plural `s` at the end, if there is one. Endings in `ss` and `us`
and the invariant segments are no plurals; letters count without their case. -/
def singularChars (s : List Char) : List Char :=
  if invariantSegments.contains (s.map asciiLower) then s
  else
    match s.reverse with
    | last :: before :: front =>
      if asciiLower last = 's' ∧ asciiLower before ≠ 's' ∧ asciiLower before ≠ 'u' then
        (before :: front).reverse
      else s
    | _ => s

/-- The singular of a path segment. -/
def singular (s : String) : String := String.ofList (singularChars s.toList)

/-! ## URL paths -/

/-- The segments of a URL path that are not empty. -/
def segments (path : String) : List (List Char) :=
  (pieces '/' path.toList).filter fun piece => !piece.isEmpty

/-- The last segment that is not empty. -/
def lastSegment (path : String) : Option String := (segments path).getLast?.map String.ofList

/-- The resource name of a collection path: its last segment, singular and in
snake case. The root path has the empty name. -/
def resourceName (path : String) : String :=
  match (segments path).getLast? with
  | some segment => String.ofList (snakeChars (singularChars segment))
  | none => ""

/-- The collection an item path belongs to: all before its first `{`, without the
slashes at the end. -/
def itemPrefix (path : String) : String :=
  String.ofList (dropEndWhile (· == '/') (path.toList.takeWhile (· != '\x7b')))

end ProviderGen.Naming
