/-
JSON values and their texts.

Objects keep their members in order, as a list of pairs. A number is a whole
number of 64 bits, with or without a sign, or a double: two numbers that are
written differently, `1` and `1.0`, are different values. `compact` writes a value
without blanks; `pretty` writes one member or item a line.
-/
import ProviderGen.Number.Shortest
import ProviderGen.Text.Quoted

set_option autoImplicit false

namespace ProviderGen

open ProviderGen.Text

/-! ## Values -/

/-- A JSON number. -/
inductive Number where
  /-- A whole number between `-2 ^ 63` and `2 ^ 64 - 1`. -/
  | whole (n : Int)
  /-- A number with a fraction or an exponent, or one too large to be whole. -/
  | double (x : Double)
  deriving DecidableEq, Repr, Inhabited

/-- The text of a number. -/
def Number.text : Number → String
  | .whole n => toString n
  | .double x => x.text .standard

/-- A JSON value. -/
inductive Json where
  | null
  | bool (b : Bool)
  | number (n : Number)
  | string (s : String)
  | array (items : List Json)
  | object (members : List (String × Json))
  deriving Repr, Inhabited

namespace Json

/-- A text, or `null` if there is none. -/
def ofOption {α : Type} (encode : α → Json) : Option α → Json
  | none => null
  | some a => encode a

/-- A list of texts. -/
def strings (items : List String) : Json := array (items.map string)

/-- A natural number. -/
def nat (n : Nat) : Json := number (.whole n)

/-- The first member of an object under a key. -/
def get? (key : String) : Json → Option Json
  | object members => members.lookup key
  | _ => none

/-! ## Texts -/

mutual

/-- The text of a value without blanks. -/
def compact : Json → String
  | null => "null"
  | bool b => if b then "true" else "false"
  | number n => n.text
  | string s => quote s
  | array items => "[" ++ compactItems items ++ "]"
  | object members => "\x7b" ++ compactMembers members ++ "\x7d"

/-- The items of an array, parted by commas. -/
def compactItems : List Json → String
  | [] => ""
  | [item] => compact item
  | item :: rest => compact item ++ "," ++ compactItems rest

/-- The members of an object, parted by commas. -/
def compactMembers : List (String × Json) → String
  | [] => ""
  | [(key, value)] => quote key ++ ":" ++ compact value
  | (key, value) :: rest => quote key ++ ":" ++ compact value ++ "," ++ compactMembers rest

end

/-- Two blanks for each level of nesting. -/
def margin (depth : Nat) : String := String.ofList (List.replicate (2 * depth) ' ')

mutual

/-- The text of a value at a level of nesting, one item or member a line. -/
def prettyAt (depth : Nat) : Json → String
  | null => "null"
  | bool b => if b then "true" else "false"
  | number n => n.text
  | string s => quote s
  | array [] => "[]"
  | array items => "[\n" ++ prettyItems (depth + 1) items ++ "\n" ++ margin depth ++ "]"
  | object [] => "\x7b\x7d"
  | object members =>
    "\x7b\n" ++ prettyMembers (depth + 1) members ++ "\n" ++ margin depth ++ "\x7d"

/-- The lines of the items of an array. -/
def prettyItems (depth : Nat) : List Json → String
  | [] => ""
  | [item] => margin depth ++ prettyAt depth item
  | item :: rest => margin depth ++ prettyAt depth item ++ ",\n" ++ prettyItems depth rest

/-- The lines of the members of an object. -/
def prettyMembers (depth : Nat) : List (String × Json) → String
  | [] => ""
  | [(key, value)] => margin depth ++ quote key ++ ": " ++ prettyAt depth value
  | (key, value) :: rest =>
    margin depth ++ quote key ++ ": " ++ prettyAt depth value ++ ",\n" ++
      prettyMembers depth rest

end

/-- The text of a value on several lines. -/
def pretty (value : Json) : String := value.prettyAt 0

end Json

end ProviderGen
