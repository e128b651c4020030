/-
Binary floating point numbers of 64 bits, as exact dyadic fractions. A
value is plus or minus `mantissa * 2 ^ exponent` in the normal form that
`round` gives: 53 bits of mantissa, or fewer at the least exponent. There
are no infinities: an operation whose result is too large has none.
Rounding goes to the nearest value, a tie to the even mantissa, and works
on an exact quotient of natural numbers.
-/

namespace CheckGateway

/-- A finite binary64 value in normal form. -/
structure Binary64 where
  negative : Bool
  mantissa : Nat
  exponent : Int
  deriving DecidableEq, Repr

namespace Binary64

/-- The least exponent of a normal form. -/
def minExponent : Int := -1074

/-- The greatest exponent of a normal form. -/
def maxExponent : Int := 971

/-- Zero of either sign. -/
def zero (negative : Bool) : Binary64 := ⟨negative, 0, minExponent⟩

/-- The quotient rounded to the nearest whole number, a tie to the even
one. -/
def roundDiv (num den : Nat) : Nat :=
  let q := num / den
  let r := num % den
  if 2 * r < den then q
  else if den < 2 * r then q + 1
  else if q % 2 = 0 then q else q + 1

/-- Numerator and denominator of `num / den / 2 ^ e`. -/
def scaled (num den : Nat) (e : Int) : Nat × Nat :=
  if 0 ≤ e then (num, den * Nat.pow 2 e.toNat)
  else (num * Nat.pow 2 (-e).toNat, den)

/-- The least mantissa in normal form: the power of two with 53 bits. -/
def leastNormal : Nat := 4503599627370496

/-- The exponent at which the quotient has 53 bits before its point, but
never below the least one. -/
def exponentOf (num den : Nat) : Int :=
  let guess : Int := (num.log2 : Int) - (den.log2 : Int) - 52
  let (n, d) := scaled num den guess
  max minExponent (if n / d < leastNormal then guess - 1 else guess)

/-- The value nearest to a quotient; `none` beyond the largest one. -/
def round (negative : Bool) (num den : Nat) : Option Binary64 :=
  if num = 0 ∨ den = 0 then some (zero negative)
  else
    let e := exponentOf num den
    let (n, d) := scaled num den e
    let m := roundDiv n d
    let value : Binary64 :=
      if m = 2 * leastNormal then ⟨negative, leastNormal, e + 1⟩
      else ⟨negative, m, e⟩
    if maxExponent < value.exponent then none else some value

/-- Numerator and denominator of the magnitude. -/
def fraction (x : Binary64) : Nat × Nat :=
  if 0 ≤ x.exponent then (x.mantissa * Nat.pow 2 x.exponent.toNat, 1)
  else (x.mantissa, Nat.pow 2 (-x.exponent).toNat)

/-- The value is zero. -/
def isZero (x : Binary64) : Bool := x.mantissa == 0

/-- The value with the opposite sign. -/
def neg (x : Binary64) : Binary64 := { x with negative := !x.negative }

/-- The nearest value to a natural number. -/
def ofNat? (n : Nat) : Option Binary64 := round false n 1

/-- The rounded product. -/
def mul? (x y : Binary64) : Option Binary64 :=
  let (a, b) := x.fraction
  let (c, d) := y.fraction
  round (x.negative != y.negative) (a * c) (b * d)

/-- The rounded quotient; `none` also for a divisor of zero. -/
def div? (x y : Binary64) : Option Binary64 :=
  if y.isZero then none
  else
    let (a, b) := x.fraction
    let (c, d) := y.fraction
    round (x.negative != y.negative) (a * d) (b * c)

theorem round_zero (negative : Bool) (den : Nat) :
    round negative 0 den = some (zero negative) := by
  simp [round]

end Binary64

end CheckGateway
