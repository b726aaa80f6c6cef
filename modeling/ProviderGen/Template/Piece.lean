/-
The pieces of a template text.

A template text is cut into literal text, comments, places where a value is shown and
statements. The latter two are lists of lexemes. A hyphen inside the delimiter of a
piece removes the blanks of the literal text on that side of it.
-/
import ProviderGen.Text.Blank
import ProviderGen.Text.Case

set_option autoImplicit false

namespace ProviderGen

open ProviderGen.Text

/-! ## Pieces -/

/-- A word of an expression or a statement. -/
inductive Lexeme where
  /-- Names parted by dots. -/
  | path (names : List String)
  | number (n : Nat)
  | text (s : String)
  | symbol (s : String)
  deriving DecidableEq, Repr

/-- What stands between delimiters. -/
inductive Tag where
  | comment
  | value (lexemes : List Lexeme)
  | statement (lexemes : List Lexeme)
  deriving Repr

/-- A piece of a template text; a tag says whether blanks before and after it go. -/
inductive Piece where
  | text (s : List Char)
  | tag (trimBefore trimAfter : Bool) (tag : Tag)
  deriving Repr

/-! ## Lexemes -/

/-- A character of a name. -/
def isNameChar (c : Char) : Bool := isAsciiLetter c || isAsciiDigit c || c == '_'

/-- A blank between lexemes. -/
def isGap (c : Char) : Bool := c == ' ' || c == '\t' || c == '\r' || c == '\n'

/-- The names of a dotted word, each of at least one character. -/
def dottedNames : List Char → List Char → Option (List String)
  | [], name => if name = [] then none else some [String.ofList name.reverse]
  | c :: rest, name =>
    if c = '.' then
      if name = [] then none
      else (dottedNames rest []).map (String.ofList name.reverse :: ·)
    else dottedNames rest (c :: name)

/-- The symbols, each before the symbols that it starts with. -/
def symbols : List String :=
  ["==", "!=", "<=", ">=", "<", ">", "|", "~", "(", ")", "[", "]", ",", "="]

/-- The first symbol that a text starts with, and what follows it. -/
def symbolAt (s : List Char) : Option (String × List Char) :=
  symbols.findSome? fun symbol =>
    if symbol.toList.isPrefixOf s then some (symbol, s.drop symbol.length) else none

/-- The rest of a text after a start, if it has that start. -/
def afterStart (start s : List Char) : Option (List Char) :=
  if start.isPrefixOf s then some (s.drop start.length) else none

/-- The lexemes up to a closing delimiter, whether a hyphen is before the delimiter, and
the rest of the text. The fuel bounds the lexemes by the characters. -/
def lexemes (close : List Char) : Nat → List Char → Option (List Lexeme × Bool × List Char)
  | 0, _ => none
  | fuel + 1, s =>
    let s := s.dropWhile isGap
    match afterStart ('-' :: close) s, afterStart close s, s with
    | some rest, _, _ => some ([], true, rest)
    | none, some rest, _ => some ([], false, rest)
    | none, none, [] => none
    | none, none, c :: others =>
      let more (lexeme : Lexeme) (rest : List Char) :=
        (lexemes close fuel rest).map fun (found, trim, rest) => (lexeme :: found, trim, rest)
      if isAsciiDigit c then
        let digits := s.takeWhile isAsciiDigit
        more (.number (digits.foldl (fun n d => n * 10 + (d.toNat - '0'.toNat)) 0))
          (s.dropWhile isAsciiDigit)
      else if isNameChar c then
        let inWord (d : Char) : Bool := isNameChar d || d == '.'
        match dottedNames (s.takeWhile inWord) [] with
        | some names => more (.path names) (s.dropWhile inWord)
        | none => none
      else if c = '"' ∨ c = '\x27' ∨ c = '\x60' then
        match others.dropWhile (· != c) with
        | [] => none
        | _ :: rest => more (.text (String.ofList (others.takeWhile (· != c)))) rest
      else
        match symbolAt s with
        | some (symbol, rest) => more (.symbol symbol) rest
        | none => none

/-! ## Cutting a text -/

/-- What follows a comment that is open, and whether it ends with a hyphen. -/
def afterComment : List Char → Option (Bool × List Char)
  | [] => none
  | '-' :: '#' :: '\x7d' :: rest => some (true, rest)
  | '#' :: '\x7d' :: rest => some (false, rest)
  | _ :: rest => afterComment rest

/-- The rest of a text after a hyphen, and whether there was one. -/
def afterHyphen : List Char → Bool × List Char
  | '-' :: rest => (true, rest)
  | s => (false, s)

/-- The piece with literal text, unless that is empty, before others. -/
def withText (text : List Char) (pieces : List Piece) : List Piece :=
  if text = [] then pieces else .text text.reverse :: pieces

/-- The pieces of a text; `seen` is the literal text before it, in reverse. -/
def cutFrom : Nat → List Char → List Char → Option (List Piece)
  | 0, _, _ => none
  | _ + 1, seen, [] => some (withText seen [])
  | fuel + 1, seen, '\x7b' :: '#' :: rest => do
    let (before, rest) := afterHyphen rest
    let (after, rest) ← afterComment rest
    return withText seen (.tag before after .comment :: (← cutFrom fuel [] rest))
  | fuel + 1, seen, '\x7b' :: '\x7b' :: rest => do
    let (before, rest) := afterHyphen rest
    let (found, after, rest) ← lexemes ['\x7d', '\x7d'] (rest.length + 1) rest
    return withText seen (.tag before after (.value found) :: (← cutFrom fuel [] rest))
  | fuel + 1, seen, '\x7b' :: '%' :: rest => do
    let (before, rest) := afterHyphen rest
    let (found, after, rest) ← lexemes ['%', '\x7d'] (rest.length + 1) rest
    return withText seen (.tag before after (.statement found) :: (← cutFrom fuel [] rest))
  | fuel + 1, seen, c :: rest => cutFrom fuel (c :: seen) rest

/-- The pieces of a text with the blanks around tags as they are. -/
def cut (s : List Char) : Option (List Piece) := cutFrom (s.length + 1) [] s

/-! ## Blanks around tags -/

/-- Whether the first piece removes the blanks before it. -/
def trimsBefore : List Piece → Bool
  | .tag before _ _ :: _ => before
  | _ => false

/-- The pieces without the blanks that tags remove, where `trim` tells whether the piece
before removes those after it. -/
def trimBlanks : Bool → List Piece → List Piece
  | _, [] => []
  | trim, .text s :: rest =>
    let s := if trim then trimStart s else s
    .text (if trimsBefore rest then trimEnd s else s) :: trimBlanks false rest
  | _, .tag before after tag :: rest => .tag before after tag :: trimBlanks after rest

end ProviderGen
