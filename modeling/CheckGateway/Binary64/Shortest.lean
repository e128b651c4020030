/-
The shortest decimal that reads back as a given value. A value stands
for the interval of reals that round to it, ends included when its
mantissa is even. For one digit, two digits, and so on, the two
neighbours of the value among the decimals of that many digits are tried;
the first count with a neighbour in the interval wins, and of two the
nearer (of two equally near, the one with the even last digit).
-/
import CheckGateway.Binary64.Basic
import CheckGateway.Text.Decimal

namespace CheckGateway.Binary64

/-- Numerator and denominator of `n * 2 ^ e`. -/
def dyadic (n : Nat) (e : Int) : Nat × Nat :=
  if 0 ≤ e then (n * Nat.pow 2 e.toNat, 1) else (n, Nat.pow 2 (-e).toNat)

/-- Numerator and denominator of `n * 10 ^ k`. -/
def decimal (n : Nat) (k : Int) : Nat × Nat :=
  if 0 ≤ k then (n * Nat.pow 10 k.toNat, 1) else (n, Nat.pow 10 (-k).toNat)

/-- Order of two quotients. -/
def quotientLt (x y : Nat × Nat) : Bool := x.1 * y.2 < y.1 * x.2

/-- The lower end of the reals that round to the value. The gap below a
power of two is half the gap above it. -/
def lowerEnd (x : Binary64) : Nat × Nat :=
  if x.mantissa = leastNormal ∧ minExponent < x.exponent then
    dyadic (4 * x.mantissa - 1) (x.exponent - 2)
  else dyadic (2 * x.mantissa - 1) (x.exponent - 1)

/-- The upper end of the reals that round to the value. -/
def upperEnd (x : Binary64) : Nat × Nat :=
  dyadic (2 * x.mantissa + 1) (x.exponent - 1)

/-- A positive decimal rounds to the magnitude of the value. -/
def roundsHere (x : Binary64) (y : Nat × Nat) : Bool :=
  let lo := x.lowerEnd
  let hi := x.upperEnd
  if x.mantissa % 2 = 0 then !quotientLt y lo && !quotientLt hi y
  else quotientLt lo y && quotientLt y hi

/-- The least `k` from `j` on with `1 ≤ num / den * 10 ^ k`; the fuel
bounds the search. -/
def leadingZeros (num den : Nat) (j : Nat) : Nat → Nat
  | 0 => j
  | fuel + 1 =>
      if den ≤ num * Nat.pow 10 j then j
      else leadingZeros num den (j + 1) fuel

/-- The power of ten of the leading digit of a positive quotient. -/
def leadingPower (num den : Nat) : Int :=
  if den ≤ num then ((Text.digits (num / den)).length : Int) - 1
  else -((leadingZeros num den 1 400 : Nat) : Int)

/-- The better of the two neighbours of the value among the multiples of
`10 ^ k`, if one of them rounds to the value. -/
def neighbour? (x : Binary64) (k : Int) : Option Nat :=
  let (num, den) := x.fraction
  let (n, d) := if 0 ≤ k then (num, den * Nat.pow 10 k.toNat)
    else (num * Nat.pow 10 (-k).toNat, den)
  let below := n / d
  let rest := n % d
  let lowOk := below ≠ 0 ∧ roundsHere x (decimal below k) = true
  let highOk := roundsHere x (decimal (below + 1) k) = true
  if lowOk ∧ highOk then
    if 2 * rest < d ∨ (2 * rest = d ∧ below % 2 = 0) then some below
    else some (below + 1)
  else if lowOk then some below
  else if highOk then some (below + 1)
  else none

/-- Drops trailing zeros of a significand and counts them in the power. -/
def stripZeros (n : Nat) (k : Int) : Nat → Nat × Int
  | 0 => (n, k)
  | fuel + 1 =>
      if n % 10 = 0 ∧ n ≠ 0 then stripZeros (n / 10) (k + 1) fuel else (n, k)

/-- Tries `count` digits, then one more, as long as there is fuel. -/
def shortestFrom (x : Binary64) (top : Int) (count : Nat) : Nat → Nat × Int
  | 0 => (x.mantissa, x.exponent)
  | fuel + 1 =>
      let k := top - count + 1
      match x.neighbour? k with
      | some n => stripZeros n k 20
      | none => shortestFrom x top (count + 1) fuel

/-- Significand and power of ten of the shortest decimal that reads back
as the magnitude of the value. Seventeen digits always suffice. -/
def shortest (x : Binary64) : Nat × Int :=
  if x.isZero then (0, 0)
  else
    let (num, den) := x.fraction
    shortestFrom x (leadingPower num den) 1 20

end CheckGateway.Binary64
