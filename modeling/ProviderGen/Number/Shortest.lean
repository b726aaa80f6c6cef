/-
The decimal text of a double.

Of all decimals that round to a double, the text shows one with the fewest
digits, and of those the nearest to the exact value. The reals that round to a
double form an interval whose ends lie halfway to its neighbours; the ends belong
to it exactly when the mantissa is even. `shortest` looks for the first decimal
grid with a point in that interval, and the two grid points around the exact
value are the only ones it has to test. How the digits are laid out is a separate
decision, `Layout`.
-/
import ProviderGen.Number.Double

set_option autoImplicit false

namespace ProviderGen.Double

/-! ## The interval of a double -/

/-- Four times the ends of the interval, and the exact value, in units of `2 ^ (exponent - 2)`. -/
def bounds (x : Double) : Nat × Nat × Nat :=
  let value := 4 * x.mantissa
  let narrow := x.mantissa = twoTo 52 ∧ minExponent < x.exponent
  (if narrow then value - 1 else value - 2, value, value + 2)

/-- Compares `a · 2 ^ p` with `b · 10 ^ q` by whole numbers. -/
def compareScaled (a : Nat) (p : Int) (b : Nat) (q : Int) : Ordering :=
  compare (a * twoTo p.toNat * tenTo (-q).toNat) (b * tenTo q.toNat * twoTo (-p).toNat)

/-- Whether the decimal `digits · 10 ^ power` rounds to the double. -/
def readsBack (x : Double) (digits : Nat) (power : Int) : Bool :=
  let (low, _, high) := x.bounds
  let even := x.mantissa % 2 == 0
  let below := compareScaled low (x.exponent - 2) digits power
  let above := compareScaled high (x.exponent - 2) digits power
  (below == .lt || (even && below == .eq)) && (above == .gt || (even && above == .eq))

/-! ## The search -/

/-- The power `k` with `10 ^ k ≤ x < 10 ^ (k + 1)`, for a double that is not zero. -/
def decimalExponent (x : Double) : Int :=
  let guess := ((x.mantissa.log2 : Int) + x.exponent) * 30103 / 100000
  let fits := fun k => compareScaled x.mantissa x.exponent 1 k != .lt
  ([guess + 2, guess + 1, guess, guess - 1].find? fits).getD (guess - 2)

/-- The grid point of `10 ^ power` that rounds to the double and is nearest to it. -/
def gridPoint (x : Double) (power : Int) : Option Nat :=
  let (num, den) := x.quotient
  let num := num * tenTo (-power).toNat
  let den := den * tenTo power.toNat
  let lower := num / den
  match x.readsBack lower power, x.readsBack (lower + 1) power with
  | true, true => some (if 2 * num ≤ (2 * lower + 1) * den then lower else lower + 1)
  | true, false => some lower
  | false, true => some (lower + 1)
  | false, false => none

/-- Moves the zeros at the end of `digits` into the power of ten. -/
def stripZeros : Nat → Nat → Int → Nat × Int
  | 0, digits, power => (digits, power)
  | fuel + 1, digits, power =>
    if digits % 10 = 0 ∧ digits ≠ 0 then stripZeros fuel (digits / 10) (power + 1)
    else (digits, power)

/-- The digits and the power of ten of the shortest decimal that reads back. -/
def shortest (x : Double) : Nat × Int :=
  if x.mantissa = 0 then (0, 0)
  else
    let top := x.decimalExponent
    let grids := (List.range 17).map fun (n : Nat) => top - (n : Int)
    match grids.findSome? fun power => (x.gridPoint power).map fun digits => (digits, power) with
    | some (digits, power) => stripZeros 20 digits power
    | none => (x.mantissa, x.exponent)

/-! ## Layout -/

/-- Decisions about the text of a number that are no matter of its value. -/
structure Layout where
  /-- The least decimal exponent written positionally. -/
  leastFixed : Int
  /-- The greatest decimal exponent written positionally. -/
  greatestFixed : Int
  /-- The sign of an exponent that is not negative. -/
  positiveSign : String

/-- Numbers are positional from `0.00001` up to sixteen digits before the point. -/
def Layout.standard : Layout := ⟨-5, 15, "+"⟩

/-- A positional text, with at least one digit on each side of the point. -/
def fixedText (digits : String) (power : Int) : String :=
  if 0 ≤ power then
    digits ++ String.ofList (List.replicate power.toNat '0') ++ ".0"
  else
    let places := (-power).toNat
    let padded := List.replicate (places + 1 - digits.length) '0' ++ digits.toList
    String.ofList (padded.take (padded.length - places)) ++ "." ++
      String.ofList (padded.drop (padded.length - places))

/-- A text with an exponent; the point stands after the first digit if there are more. -/
def scientificText (layout : Layout) (digits : String) (exponent : Int) : String :=
  let fraction := digits.toList.drop 1
  String.ofList (digits.toList.take 1) ++
    (if fraction.isEmpty then "" else "." ++ String.ofList fraction) ++
    "e" ++ (if exponent < 0 then "-" else layout.positiveSign) ++ toString exponent.natAbs

/-- The text of a double. -/
def text (layout : Layout) (x : Double) : String :=
  let (digits, power) := x.shortest
  let written := toString digits
  let exponent := power + written.length - 1
  (if x.negative then "-" else "") ++
    (if layout.leastFixed ≤ exponent ∧ exponent ≤ layout.greatestFixed then
      fixedText written power
    else scientificText layout written exponent)

end ProviderGen.Double
