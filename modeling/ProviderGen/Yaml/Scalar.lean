/-
What a YAML scalar means.

A plain scalar is a null, a truth value, a number or a text, by its spelling; a
quoted or block scalar is a text. A tag of the core schema asks for one of these
readings and is a fault if the text does not allow it. Digits with a zero before them
are a text. A decimal beyond all doubles is a text as well.
-/
import ProviderGen.Decode.Node
import ProviderGen.Yaml.Event

set_option autoImplicit false

namespace ProviderGen.Yaml

/-! ## Words -/

/-- The spellings of a null. -/
def isNull (s : List Char) : Bool :=
  ["null", "Null", "NULL", "~"].any fun word => word.toList == s

/-- The truth value a spelling stands for. -/
def boolOf (s : List Char) : Option Bool :=
  if ["true", "True", "TRUE"].any fun word => word.toList == s then some true
  else if ["false", "False", "FALSE"].any fun word => word.toList == s then some false
  else none

/-! ## Whole numbers -/

/-- The value of a digit in bases up to sixteen. -/
def digitOf (base : Nat) (c : Char) : Option Nat :=
  let value :=
    if '0' ≤ c ∧ c ≤ '9' then some (c.toNat - '0'.toNat)
    else if 'a' ≤ c ∧ c ≤ 'f' then some (c.toNat - 'a'.toNat + 10)
    else if 'A' ≤ c ∧ c ≤ 'F' then some (c.toNat - 'A'.toNat + 10)
    else none
  value.filter (· < base)

/-- The number that digits of a base write; there has to be one. -/
def digitsOf (base : Nat) (s : List Char) : Option Nat :=
  if s.isEmpty then none else s.foldlM (fun n c => (digitOf base c).map (n * base + ·)) 0

/-- The text without one sign at its start. -/
def unsigned : List Char → List Char
  | '-' :: rest => rest
  | '+' :: rest => rest
  | s => s

/-- Several digits of which the first is a zero. -/
def hasLeadingZero (s : List Char) : Bool :=
  match unsigned s with
  | '0' :: c :: rest => (c :: rest).all Char.isDigit
  | _ => false

/-- The base a prefix announces, and the digits after it. -/
def basePrefix : List Char → Option (Nat × List Char)
  | '0' :: 'x' :: rest => some (16, rest)
  | '0' :: 'o' :: rest => some (8, rest)
  | '0' :: 'b' :: rest => some (2, rest)
  | _ => none

/-- The whole number a spelling stands for, of any size. -/
def wholeOf (s : List Char) : Option Int :=
  if hasLeadingZero s then none
  else
    match s with
    | '-' :: rest => (magnitude rest).map fun n => -(n : Int)
    | '+' :: rest => (magnitude rest).map fun n => (n : Int)
    | rest => (magnitude rest).map fun n => (n : Int)
where
  /-- The number after the sign. -/
  magnitude (s : List Char) : Option Nat :=
    match basePrefix s with
    | some (base, digits) => digitsOf base digits
    | none => digitsOf 10 s

/-- A whole number as a scalar: one of up to 64 bits is a number, one of up to 128 bits
is too large, and a still larger one is no whole number. -/
def wholeAtom (s : List Char) : Option Atom :=
  match wholeOf s with
  | none => none
  | some n =>
    if -(twoTo 63 : Int) ≤ n ∧ n < twoTo 64 then some (.number (.whole n))
    else if -(twoTo 127 : Int) ≤ n ∧ n < twoTo 128 then some .huge
    else none

/-! ## Doubles -/

/-- The digits before and behind the point and the exponent of a decimal. -/
def decimalParts (s : List Char) : Option (List Char × List Char × Int) := do
  let whole := s.takeWhile Char.isDigit
  let rest := s.dropWhile Char.isDigit
  let (fraction, rest) := match rest with
    | '.' :: rest => (rest.takeWhile Char.isDigit, rest.dropWhile Char.isDigit)
    | rest => ([], rest)
  if whole.isEmpty ∧ fraction.isEmpty then none
  else
    match rest with
    | [] => some (whole, fraction, 0)
    | c :: rest =>
      if c = 'e' ∨ c = 'E' then
        let size ← digitsOf 10 (unsigned rest)
        some (whole, fraction, if rest.head? = some '-' then -(size : Int) else size)
      else none

/-- The value of a decimal with or without a minus sign, if it is not too large. -/
def decimalOf (s : List Char) : Option Double := do
  let (negative, digits) := match s with
    | '-' :: rest => (true, rest)
    | rest => (false, rest)
  let (whole, fraction, exponent) ← decimalParts digits
  let value := (whole ++ fraction).foldl (fun n c => n * 10 + (c.toNat - '0'.toNat)) 0
  Double.ofDecimal negative value (exponent - fraction.length)

/-- A double as a scalar. -/
def doubleAtom (s : List Char) : Option Atom :=
  let positive := match s with
    | '+' :: rest => rest
    | s => s
  if s.head? = some '+' ∧ (positive.head? = some '+' ∨ positive.head? = some '-') then none
  else if [".inf", ".Inf", ".INF"].any fun word => word.toList == positive then some .nonFinite
  else if ["-.inf", "-.Inf", "-.INF", ".nan", ".NaN", ".NAN"].any fun word => word.toList == s then
    some .nonFinite
  else (decimalOf positive).map fun x => .number (.double x)

/-! ## Scalars -/

/-- What a plain scalar means by its spelling. -/
def plainAtom (s : List Char) : Atom :=
  if s.isEmpty || isNull s then .null
  else
    match boolOf s with
    | some b => .bool b
    | none =>
      match wholeAtom s with
      | some atom => atom
      | none =>
        if hasLeadingZero s then .text (String.ofList s)
        else (doubleAtom s).getD (.text (String.ofList s))

/-- The address of a type of the core schema. -/
def coreTag (name : String) : String := "tag:yaml.org,2002:" ++ name

/-- What a scalar means to a target without a type. -/
def atomOf (tag : Option String) (s : List Char) (style : Style) : Except Fault Atom :=
  let demand : Option Atom → Except Fault Atom
    | some atom => .ok atom
    | none => .error .invalidValue
  match tag with
  | some tag =>
    if tag = coreTag "bool" then demand ((boolOf s).map .bool)
    else if tag = coreTag "int" then demand (wholeAtom s)
    else if tag = coreTag "float" then demand (doubleAtom s)
    else if tag = coreTag "null" then demand (if isNull s then some .null else none)
    else .ok (.text (String.ofList s))
  | none =>
    if style = .plain then .ok (plainAtom s) else .ok (.text (String.ofList s))

/-- A scalar with all of its views. -/
def scalar (tag : Option String) (text : String) (style : Style) : Scalar :=
  let s := text.toList
  let plain := style == .plain
  { text := some text
    flag :=
      if plain || (style == .literal && tag == some (coreTag "bool")) then boolOf s else none
    absent :=
      if plain then
        match tag with
        | some tag =>
          if tag = coreTag "null" then if isNull s then .ok true else .error .invalidValue
          else .ok false
        | none => .ok (s.isEmpty || isNull s)
      else .ok false
    hollow := s.isEmpty && plain
    tagged := isCustom tag
    value := atomOf tag s style }
where
  /-- A tag that belongs to the document. -/
  isCustom (tag : Option String) : Bool := tag.any fun tag => tag.toList.head? == some '!'

end ProviderGen.Yaml
