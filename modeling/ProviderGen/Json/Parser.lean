/-
Reading JSON text.

The reader turns a text into a node. It never fails: where the text goes wrong it
leaves a `broken` node and closes nothing around it, so the decoder that visits the
tree meets the fault at its place. Strings with an unpaired surrogate and numbers
beyond all doubles are well delimited but have no value, and become `unreadable`.
-/
import ProviderGen.Decode.Decoder

set_option autoImplicit false

namespace ProviderGen.Json

/-! ## Blanks and words -/

/-- The blanks between the parts of a JSON text. -/
def isBlank (c : Char) : Bool := c == ' ' || c == '\t' || c == '\n' || c == '\r'

/-- The text after its leading blanks. -/
def skipBlanks (s : List Char) : List Char := s.dropWhile isBlank

/-- The text after a word it has to start with. -/
def afterWord : List Char → List Char → Option (List Char)
  | [], s => some s
  | w :: word, c :: s => if w = c then afterWord word s else none
  | _ :: _, [] => none

/-! ## Strings -/

/-- A part of a string: a character, or a 16-bit unit given by its number. -/
inductive Piece where
  | char (c : Char)
  | unit (n : Nat)

/-- The value of a hexadecimal digit. -/
def hexValue (c : Char) : Option Nat :=
  if '0' ≤ c ∧ c ≤ '9' then some (c.toNat - '0'.toNat)
  else if 'a' ≤ c ∧ c ≤ 'f' then some (c.toNat - 'a'.toNat + 10)
  else if 'A' ≤ c ∧ c ≤ 'F' then some (c.toNat - 'A'.toNat + 10)
  else none

/-- The number that four hexadecimal digits write. -/
def hexUnit (a b c d : Char) : Option Nat := do
  let a ← hexValue a
  let b ← hexValue b
  let c ← hexValue c
  let d ← hexValue d
  some (((a * 16 + b) * 16 + c) * 16 + d)

/-- The character of an escape with one letter. -/
def escaped (c : Char) : Option Char :=
  if c = '"' ∨ c = '\\' ∨ c = '/' then some c
  else if c = 'b' then some '\x08'
  else if c = 'f' then some '\x0c'
  else if c = 'n' then some '\n'
  else if c = 'r' then some '\r'
  else if c = 't' then some '\t'
  else none

/-- The parts of a string, in reverse, up to its closing quote, and the text after it. -/
def readPieces (done : List Piece) : List Char → Option (List Piece × List Char)
  | [] => none
  | '"' :: rest => some (done, rest)
  | '\\' :: 'u' :: a :: b :: c :: d :: rest =>
    match hexUnit a b c d with
    | some n => readPieces (.unit n :: done) rest
    | none => none
  | '\\' :: c :: rest =>
    match escaped c with
    | some c => readPieces (.char c :: done) rest
    | none => none
  | c :: rest => if c.toNat < 32 ∨ c = '\\' then none else readPieces (.char c :: done) rest

/-- The text of the parts, if every surrogate has its partner. -/
def joinPieces : List Piece → Option (List Char)
  | [] => some []
  | .char c :: rest => (joinPieces rest).map (c :: ·)
  | .unit high :: .unit low :: rest =>
    if 0xD800 ≤ high ∧ high < 0xDC00 then
      if 0xDC00 ≤ low ∧ low < 0xE000 then
        let code := 0x10000 + (high - 0xD800) * 0x400 + (low - 0xDC00)
        (joinPieces rest).map (Char.ofNat code :: ·)
      else none
    else if 0xDC00 ≤ high ∧ high < 0xE000 then none
    else (joinPieces (.unit low :: rest)).map (Char.ofNat high :: ·)
  | .unit n :: rest =>
    if 0xD800 ≤ n ∧ n < 0xE000 then none else (joinPieces rest).map (Char.ofNat n :: ·)

/-- The string after an opening quote, and the text after its closing quote. -/
def readString (s : List Char) : Option (Node × List Char) := do
  let (pieces, rest) ← readPieces [] s
  match joinPieces pieces.reverse with
  | some text => some (.scalar (.ofAtom (.text (String.ofList text))), rest)
  | none => some (.unreadable, rest)

/-! ## Numbers -/

/-- The greatest whole number without a sign. -/
def maxWhole : Nat := twoTo 64 - 1

/-- The digits of a number as far as they fit 64 bits. A digit that does not fit is
left out; before the point it still counts as a place, behind the point neither it
nor any later one does. -/
structure Digits where
  value : Nat := 0
  /-- The power of ten the value is to be multiplied with. -/
  power : Int := 0
  /-- A digit has been left out. -/
  full : Bool := false

/-- Takes in a digit before the point. -/
def Digits.push (d : Digits) (digit : Nat) : Digits :=
  if d.full ∨ d.value * 10 + digit > maxWhole then { d with power := d.power + 1, full := true }
  else { d with value := d.value * 10 + digit }

/-- Takes in a digit behind the point; `stopped` tells that one has been left out there. -/
def Digits.pushFraction (state : Digits × Bool) (digit : Nat) : Digits × Bool :=
  let (d, stopped) := state
  if stopped ∨ d.value * 10 + digit > maxWhole then (d, true)
  else ({ d with value := d.value * 10 + digit, power := d.power - 1 }, false)

/-- The value of a decimal digit. -/
def digitValue (c : Char) : Nat := c.toNat - '0'.toNat

/-- The power `10 ^ n` as a double, for `n` up to 308. -/
def tenPower (n : Nat) : Double := (Double.ofQuotient false (tenTo n) 1).getD (.zero false)

/-- Divides a number of 64 bits by `10 ^ n`, by at most 308 places at a time. Twice
that many places leave nothing of it. -/
def divideByTens (x : Double) (n : Nat) : Option Double :=
  if n ≤ 308 then x.div (tenPower n)
  else if n ≤ 616 then (x.div (tenPower 308)).bind fun y => y.div (tenPower (n - 308))
  else some (.zero x.negative)

/-- The double of `value · 10 ^ power`: the value is rounded to a double first, and
the product or quotient with the power of ten a second time. -/
def toDouble (negative : Bool) (value : Nat) (power : Int) : Option Double := do
  let x ← Double.ofQuotient false value 1
  let y ←
    if 0 ≤ power then
      if power ≤ 308 then x.mul (tenPower power.toNat)
      else if x.mantissa = 0 then some x
      else none
    else divideByTens x (-power).toNat
  some (if negative then y.neg else y)

/-- The longest exponent that is computed with; a longer one decides alone. -/
def maxExponent : Nat := twoTo 31 - 1

/-- The node of a number from its sign, its digits, whether it has a fraction, and
its exponent. -/
def numberNode (negative : Bool) (digits : Digits) (fraction : Bool)
    (exponent : Option (Bool × Nat)) : Node :=
  let ofDouble : Option Double → Node
    | some x => .scalar (.ofAtom (.number (.double x)))
    | none => .unreadable
  match exponent with
  | some (small, size) =>
    if size > maxExponent then
      if digits.value = 0 ∨ small then ofDouble (some (.zero negative)) else .unreadable
    else
      ofDouble (toDouble negative digits.value
        (if small then digits.power - size else digits.power + size))
  | none =>
    if fraction ∨ digits.full then ofDouble (toDouble negative digits.value digits.power)
    else if negative = false then .scalar (.ofAtom (.number (.whole digits.value)))
    else if digits.value = 0 ∨ digits.value > twoTo 63 then
      ofDouble (toDouble true digits.value 0)
    else .scalar (.ofAtom (.number (.whole (-(digits.value : Int)))))

/-- The exponent of a number, if its text goes on with one. -/
def readExponent : List Char → Option (Option (Bool × Nat) × List Char)
  | c :: rest =>
    if c = 'e' ∨ c = 'E' then
      let (small, rest) := match rest with
        | '+' :: rest => (false, rest)
        | '-' :: rest => (true, rest)
        | rest => (false, rest)
      let digits := rest.takeWhile Char.isDigit
      if digits.isEmpty then none
      else
        let size := digits.foldl (fun n c => min (n * 10 + digitValue c) (maxExponent + 1)) 0
        some (some (small, size), rest.dropWhile Char.isDigit)
    else some (none, c :: rest)
  | [] => some (none, [])

/-- The number after its sign, and the text after it. -/
def readUnsigned (negative : Bool) (s : List Char) : Option (Node × List Char) :=
  let whole := s.takeWhile Char.isDigit
  let rest := s.dropWhile Char.isDigit
  if whole.isEmpty ∨ (whole.length > 1 ∧ whole.head? = some '0') then none
  else
    let digits := whole.foldl (fun d c => d.push (digitValue c)) {}
    match rest with
    | '.' :: rest =>
      let places := rest.takeWhile Char.isDigit
      if places.isEmpty then none
      else do
        let (digits, _) :=
          places.foldl (fun d c => Digits.pushFraction d (digitValue c)) (digits, false)
        let (exponent, rest) ← readExponent (rest.dropWhile Char.isDigit)
        some (numberNode negative digits true exponent, rest)
    | rest => do
      let (exponent, rest) ← readExponent rest
      some (numberNode negative digits false exponent, rest)

/-! ## Values -/

/-- The text after a value; nothing if the text has gone wrong. -/
abbrev Rest := Option (List Char)

/-- A scalar at the start of the text. -/
def readScalar : List Char → Node × Rest
  | [] => (.broken, none)
  | '"' :: rest => found (readString rest)
  | '-' :: rest => found (readUnsigned true rest)
  | s =>
    match afterWord "null".toList s, afterWord "true".toList s, afterWord "false".toList s with
    | some rest, _, _ => (.scalar (.ofAtom .null), some rest)
    | _, some rest, _ => (.scalar (.ofAtom (.bool true)), some rest)
    | _, _, some rest => (.scalar (.ofAtom (.bool false)), some rest)
    | none, none, none => found (readUnsigned false s)
where
  /-- What was read, or the break. -/
  found : Option (Node × List Char) → Node × Rest
    | some (node, rest) => (node, some rest)
    | none => (.broken, none)

/-- Whether a value, or at least its opening bracket, stands at the start of the text. -/
def opensValue (s : List Char) : Bool :=
  match s with
  | '[' :: _ => true
  | '\x7b' :: _ => true
  | _ =>
    match readScalar s with
    | (.scalar _, _) => true
    | _ => false

mutual

/-- A value after its leading blanks, and the text after it. Every call takes a
character or ends, so the length of the text bounds the number of nested calls. -/
def readValue : Nat → List Char → Node × Rest
  | 0, _ => (.broken, none)
  | fuel + 1, s =>
    match skipBlanks s with
    | '[' :: rest =>
      match skipBlanks rest with
      | ']' :: rest => (.list false [] .closed, some rest)
      | rest =>
        let (items, ending, rest) := readItems fuel rest
        (.list false items ending, rest)
    | '\x7b' :: rest =>
      match skipBlanks rest with
      | '\x7d' :: rest => (.record false [] .closed, some rest)
      | '"' :: rest =>
        let (members, ending, rest) := readMembers fuel rest
        (.record false members ending, rest)
      | rest => (.record false [] (if opensValue rest then .misplaced else .broken), none)
    | s => readScalar s

/-- The items of an array from the next one on. -/
def readItems : Nat → List Char → List Node × Ending × Rest
  | 0, _ => ([], .broken, none)
  | fuel + 1, s =>
    match readValue fuel s with
    | (item, none) => ([item], .broken, none)
    | (item, some rest) =>
      match skipBlanks rest with
      | ']' :: rest => ([item], .closed, some rest)
      | ',' :: rest =>
        let (items, ending, rest) := readItems fuel rest
        (item :: items, ending, rest)
      | _ => ([item], .broken, none)

/-- The members of an object from the next key on, whose opening quote is read. -/
def readMembers : Nat → List Char → List (Node × Node) × Ending × Rest
  | 0, _ => ([], .broken, none)
  | fuel + 1, s =>
    match readString s with
    | none => ([(.broken, .broken)], .broken, none)
    | some (key, rest) =>
      match skipBlanks rest with
      | ':' :: rest =>
        match readValue fuel rest with
        | (value, none) => ([(key, value)], .broken, none)
        | (value, some rest) =>
          match skipBlanks rest with
          | '\x7d' :: rest => ([(key, value)], .closed, some rest)
          | ',' :: rest =>
            match skipBlanks rest with
            | '"' :: rest =>
              let (members, ending, rest) := readMembers fuel rest
              ((key, value) :: members, ending, rest)
            | _ => ([(key, value)], .broken, none)
          | _ => ([(key, value)], .broken, none)
      | _ => ([(key, .broken)], .broken, none)

end

/-- How many containers a JSON text may nest. -/
def nestingLimit : Nat := 127

/-- A JSON text as a document. -/
def read (text : String) : Reading :=
  let s := text.toList
  let (root, rest) := readValue (s.length + 1) s
  { root
    setting := { anchors := [], aliasLimit := 0, listRecords := true }
    depth := nestingLimit
    clean := match rest with
      | some rest => (skipBlanks rest).isEmpty
      | none => false }

/-- The JSON value of a text. -/
def parse (text : String) : Except Fault Json := (read text).decode (tree text.length)
where
  /-- Any value, with its members in the order of the text. -/
  tree : Nat → Decoder Json
    | 0 => fun _ _ _ => Decoder.fail .malformed
    | fuel + 1 => fun setting depth node =>
      match node with
      | .scalar s =>
        match s.value with
        | .ok .null => pure .null
        | .ok (.bool b) => pure (.bool b)
        | .ok (.number n) => pure (.number n)
        | .ok (.text s) => pure (.string s)
        | _ => Decoder.fail .malformed
      | .list _ _ _ => Json.array <$> Decoder.list (tree fuel) setting depth node
      | .record _ _ _ => Json.object <$> Decoder.table (tree fuel) setting depth node
      | _ => Decoder.fail .malformed

end ProviderGen.Json
