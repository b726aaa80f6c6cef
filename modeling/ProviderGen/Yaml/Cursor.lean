/-
A place in a YAML text.

A cursor holds what is left of the text and says where that is: how many characters
came before it, on which line it stands and in which column. A line ends in a line
feed, a carriage return, both together, or one of three Unicode separators.
-/
set_option autoImplicit false

namespace ProviderGen.Yaml

/-! ## Character classes -/

/-- A blank within a line. -/
def isBlank (c : Char) : Bool := c == ' ' || c == '\t'

/-- A line break. -/
def isBreak (c : Char) : Bool :=
  c == '\n' || c == '\r' || c == '\u0085' || c == '\u2028' || c == '\u2029'

/-- A character of directive names, anchors and tag handles. -/
def isWord (c : Char) : Bool :=
  ('a' ≤ c && c ≤ 'z') || ('A' ≤ c && c ≤ 'Z') || ('0' ≤ c && c ≤ '9') || c == '_' || c == '-'

/-- A character that a YAML text may contain. -/
def isAllowed (c : Char) : Bool :=
  let n := c.toNat
  n == 9 || n == 10 || n == 13 || (0x20 ≤ n && n ≤ 0x7E) || n == 0x85 ||
    (0xA0 ≤ n && n ≤ 0xD7FF) || (0xE000 ≤ n && n ≤ 0xFFFD) || 0x10000 ≤ n

/-! ## Cursors -/

/-- What is left of a text, and where it begins. -/
structure Cursor where
  rest : List Char
  index : Nat := 0
  line : Nat := 0
  column : Nat := 0

namespace Cursor

/-- The character `k` places ahead. -/
def peek (c : Cursor) (k : Nat) : Option Char := c.rest[k]?

/-- The next character is `x`. -/
def sees (c : Cursor) (x : Char) : Bool := c.rest.head? == some x

/-- The character `k` places ahead is `x`. -/
def ahead (c : Cursor) (k : Nat) (x : Char) : Bool := c.peek k == some x

/-- The character `k` places ahead is a line break. -/
def breakAhead (c : Cursor) (k : Nat) : Bool := (c.peek k).any isBreak

/-- The character `k` places ahead is a blank. -/
def blankAhead (c : Cursor) (k : Nat) : Bool := (c.peek k).any isBlank

/-- A blank, a line break or the end of the text is `k` places ahead. -/
def gapAhead (c : Cursor) (k : Nat) : Bool :=
  match c.peek k with
  | none => true
  | some x => isBlank x || isBreak x

/-- The end of the line or of the text is next. -/
def atLineEnd (c : Cursor) : Bool :=
  match c.rest with
  | [] => true
  | x :: _ => isBreak x

/-- The place `n` characters further on the line. -/
def skip (c : Cursor) (n : Nat) : Cursor :=
  { c with rest := c.rest.drop n, index := c.index + n, column := c.column + n }

/-- The place after a line break. -/
def skipLine (c : Cursor) : Cursor :=
  let n := if c.sees '\r' && c.ahead 1 '\n' then 2 else 1
  { rest := c.rest.drop n, index := c.index + n, line := c.line + 1, column := 0 }

/-- What a line break stands for in a scalar: the Unicode separators for themselves,
every other break for a line feed, and anything else for nothing. -/
def lineText (c : Cursor) : List Char :=
  match c.rest with
  | [] => []
  | x :: _ =>
    if x == '\u2028' || x == '\u2029' then [x] else if isBreak x then ['\n'] else []

/-- The place after the line break, if one is next. -/
def pastBreak (c : Cursor) : Cursor := if c.breakAhead 0 then c.skipLine else c

/-- The place after all characters of a class. -/
def skipWhile (p : Char → Bool) (c : Cursor) : Cursor := c.skip (c.rest.takeWhile p).length

/-- A document marker, three times `x` before a gap, begins the line here. -/
def atMarker (c : Cursor) (x : Char) : Bool :=
  c.column == 0 && c.sees x && c.ahead 1 x && c.ahead 2 x && c.gapAhead 3

end Cursor

end ProviderGen.Yaml
