/-
Letter case of single characters.

`upper` and `lower` give the full case mapping of one character, which may be
several characters (`ß` becomes `SS`). `isUpper` and `isLower` are the Unicode
properties Uppercase and Lowercase. ASCII characters are answered without the
tables; all others are looked up in them.
-/
import ProviderGen.Text.CaseTable

set_option autoImplicit false

namespace ProviderGen.Text

/-! ## ASCII -/

/-- The ASCII capitals. -/
def isAsciiUpper (c : Char) : Bool := 'A' ≤ c && c ≤ 'Z'

/-- The ASCII small letters. -/
def isAsciiLower (c : Char) : Bool := 'a' ≤ c && c ≤ 'z'

/-- The ASCII digits. -/
def isAsciiDigit (c : Char) : Bool := '0' ≤ c && c ≤ '9'

/-- The ASCII letters of either case. -/
def isAsciiLetter (c : Char) : Bool := isAsciiUpper c || isAsciiLower c

/-- ASCII capitals become small letters; every other character stays. -/
def asciiLower (c : Char) : Char :=
  if isAsciiUpper c then Char.ofNat (c.toNat + 32) else c

/-! ## Look-up -/

/-- The distance from code point `n` to its case partner, if a run holds `n`. -/
def shiftOf (table : List CaseShift) (n : Nat) : Option Int :=
  (table.find? fun run => run.toCodeRun.holds n).map CaseShift.shift

/-- The full mapping of code point `n`: an expansion, a shifted code point, or `n` itself. -/
def mapCode (expansions : List (Nat × List Nat)) (shifts : List CaseShift) (n : Nat) : List Nat :=
  match expansions.lookup n with
  | some codes => codes
  | none =>
    match shiftOf shifts n with
    | some distance => [((n : Int) + distance).toNat]
    | none => [n]

/-! ## Case of a character -/

/-- Upper case of one character, without regard to its neighbours. -/
def upper (c : Char) : List Char :=
  if c.toNat < 128 then
    [if isAsciiLower c then Char.ofNat (c.toNat - 32) else c]
  else
    (mapCode upperExpansions upperShifts c.toNat).map Char.ofNat

/-- Lower case of one character, without regard to its neighbours. -/
def lower (c : Char) : List Char :=
  if c.toNat < 128 then
    [asciiLower c]
  else
    (mapCode lowerExpansions lowerShifts c.toNat).map Char.ofNat

/-- The property Uppercase. -/
def isUpper (c : Char) : Bool :=
  if c.toNat < 128 then isAsciiUpper c else uppercaseRuns.any fun run => run.holds c.toNat

/-- The property Lowercase. -/
def isLower (c : Char) : Bool :=
  if c.toNat < 128 then isAsciiLower c else lowercaseRuns.any fun run => run.holds c.toNat

end ProviderGen.Text
