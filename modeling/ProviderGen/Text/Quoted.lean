/-
Quoted text.

A text is quoted between double quotes; the quote, the backslash and the control
characters inside it are written as escapes and every other character stands for
itself. The same form is a JSON string and an interpreted Go string literal.
-/
set_option autoImplicit false

namespace ProviderGen.Text

/-- The lower-case hexadecimal digit of a number below sixteen. -/
def hexDigit (n : Nat) : Char :=
  if n < 10 then Char.ofNat ('0'.toNat + n) else Char.ofNat ('a'.toNat + (n - 10))

/-- One character between the quotes. -/
def escape (c : Char) : List Char :=
  if c = '"' then ['\\', '"']
  else if c = '\\' then ['\\', '\\']
  else if c.toNat = 8 then ['\\', 'b']
  else if c.toNat = 9 then ['\\', 't']
  else if c.toNat = 10 then ['\\', 'n']
  else if c.toNat = 12 then ['\\', 'f']
  else if c.toNat = 13 then ['\\', 'r']
  else if c.toNat < 32 then
    ['\\', 'u', '0', '0', hexDigit (c.toNat / 16), hexDigit (c.toNat % 16)]
  else [c]

/-- The characters of a quoted text. -/
def quoteChars (s : List Char) : List Char := '"' :: s.flatMap escape ++ ['"']

/-- The text between quotes, with escapes. -/
def quote (s : String) : String := String.ofList (quoteChars s.toList)

end ProviderGen.Text
