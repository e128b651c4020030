/-
How a floating point number is written. `text` places the shortest
digits: positional when the power of the leading digit is between -5 and
15, with at least one digit after the point, and otherwise with an
exponent that carries its sign. `fixed` writes a given number of places,
rounding the exact value.
-/
import CheckGateway.Binary64.Shortest

namespace CheckGateway.Binary64

/-- The least power of the leading digit that is written positionally. -/
def leastPositional : Int := -5

/-- The greatest power of the leading digit that is written
positionally. -/
def greatestPositional : Int := 15

/-- Digits with a point after the first `whole` of them, filled up with
zeros on either side. -/
def positional (ds : List Char) (power : Int) : List Char :=
  if power < 0 then
    ['0', '.'] ++ List.replicate ((-power).toNat - 1) '0' ++ ds
  else
    let whole := power.toNat + 1
    if ds.length ≤ whole then
      ds ++ List.replicate (whole - ds.length) '0' ++ ['.', '0']
    else ds.take whole ++ ['.'] ++ ds.drop whole

/-- Digits with a point after the first, and the power of ten of that
digit. -/
def exponential (ds : List Char) (power : Int) : List Char :=
  let digits := match ds with
    | [d] => [d]
    | d :: rest => d :: '.' :: rest
    | [] => []
  let sign := if power < 0 then '-' else '+'
  digits ++ ['e', sign] ++ Text.digits power.natAbs

/-- The shortest text that reads back as the value. -/
def text (x : Binary64) : String :=
  let (n, k) := x.shortest
  let ds := Text.digits n
  let power : Int := if n = 0 then 0 else (ds.length : Int) + k - 1
  let body :=
    if leastPositional ≤ power ∧ power ≤ greatestPositional then
      positional ds power
    else exponential ds power
  String.ofList (if x.negative then '-' :: body else body)

/-- The value with a fixed number of places after the point; a tie goes
to the even last digit. -/
def fixed (places : Nat) (x : Binary64) : String :=
  let (num, den) := x.fraction
  let unit := Nat.pow 10 places
  let n := roundDiv (num * unit) den
  let body := Text.ofInt (n / unit : Nat) ++ "."
    ++ Text.padded places (n % unit)
  if x.negative then "-" ++ body else body

end CheckGateway.Binary64
