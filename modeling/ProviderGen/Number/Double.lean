/-
Finite numbers in double precision, as exact values.

A double is a sign and `mantissa · 2 ^ exponent` with at most 53 binary digits,
in its normal form, so that equal numbers of one sign are equal structures. Every
operation computes the exact result as a quotient of natural numbers and rounds
it once, to the nearest double and on a tie to the even mantissa. A result beyond
the largest double is absent. There is no infinity and no NaN here.
-/
set_option autoImplicit false

namespace ProviderGen

/-! ## Powers -/

/-- Two to the power of `n`. -/
def twoTo (n : Nat) : Nat := Nat.pow 2 n

/-- Ten to the power of `n`. -/
def tenTo (n : Nat) : Nat := Nat.pow 10 n

/-! ## The type -/

/-- The number `mantissa · 2 ^ exponent`, negated if `negative` is set. -/
structure Double where
  negative : Bool
  mantissa : Nat
  exponent : Int
  deriving DecidableEq, Repr, Inhabited

namespace Double

/-- The exponent of the smallest positive doubles. -/
def minExponent : Int := -1074

/-- The exponent of the largest doubles. -/
def maxExponent : Int := 971

/-- Zero of either sign. -/
def zero (negative : Bool) : Double := ⟨negative, 0, minExponent⟩

/-- The double with the other sign. -/
def neg (x : Double) : Double := { x with negative := !x.negative }

/-! ## Rounding -/

/-- The natural number nearest to `num / den`; a tie goes to the even one. -/
def roundHalfEven (num den : Nat) : Nat :=
  let floor := num / den
  let twice := 2 * (num % den)
  if twice < den ∨ (twice = den ∧ floor % 2 = 0) then floor else floor + 1

/-- `num / den · 2 ^ -exponent` as a quotient of natural numbers. -/
def scaled (num den : Nat) (exponent : Int) : Nat × Nat :=
  if exponent < 0 then (num * twoTo (-exponent).toNat, den) else (num, den * twoTo exponent.toNat)

/-- The exponent that leaves 53 binary digits before the point of `num / den`,
but none below the smallest. -/
def exponentFor (num den : Nat) : Int :=
  let guess : Int := (num.log2 : Int) - den.log2 - 52
  let (n, d) := scaled num den guess
  let exponent := if n < twoTo 52 * d then guess - 1 else guess
  max exponent minExponent

/-- The double nearest to `num / den`, or nothing if that is beyond the largest one. -/
def ofQuotient (negative : Bool) (num den : Nat) : Option Double :=
  if num = 0 then some (zero negative)
  else
    let exponent := exponentFor num den
    let (n, d) := scaled num den exponent
    let mantissa := roundHalfEven n d
    let (mantissa, exponent) :=
      if mantissa = twoTo 53 then (twoTo 52, exponent + 1) else (mantissa, exponent)
    if exponent > maxExponent then none else some ⟨negative, mantissa, exponent⟩

/-- The double nearest to `digits · 10 ^ power`. A decimal point far to the left or
to the right of all doubles is settled by its place alone. -/
def ofDecimal (negative : Bool) (digits : Nat) (power : Int) : Option Double :=
  let point := power + (Nat.toDigits 10 digits).length
  if digits = 0 ∨ point < -323 then some (zero negative)
  else if point > 309 then none
  else if power < 0 then ofQuotient negative digits (tenTo (-power).toNat)
  else ofQuotient negative (digits * tenTo power.toNat) 1

/-! ## Arithmetic -/

/-- The absolute value as a quotient of natural numbers. -/
def quotient (x : Double) : Nat × Nat :=
  if x.exponent < 0 then (x.mantissa, twoTo (-x.exponent).toNat)
  else (x.mantissa * twoTo x.exponent.toNat, 1)

/-- The rounded product. -/
def mul (x y : Double) : Option Double :=
  let (a, b) := x.quotient
  let (c, d) := y.quotient
  ofQuotient (x.negative != y.negative) (a * c) (b * d)

/-- The rounded quotient; the divisor is taken to differ from zero. -/
def div (x y : Double) : Option Double :=
  let (a, b) := x.quotient
  let (c, d) := y.quotient
  ofQuotient (x.negative != y.negative) (a * d) (b * c)

end Double

end ProviderGen
