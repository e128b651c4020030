/-
Whole numbers in decimal text, in both directions, and fixed-width
digits. Reading is strict: an optional sign, then ASCII digits and
nothing else, any number of leading zeros, and a value inside the bounds
of the field it is for.
-/

namespace CheckGateway.Text

/-- The value of an ASCII digit. -/
def digit? (c : Char) : Option Nat :=
  if '0' ≤ c ∧ c ≤ '9' then some (c.toNat - '0'.toNat) else none

/-- The value of a run of digits read on from `acc`; `none` at any other
character. -/
def digitsFrom? (acc : Nat) : List Char → Option Nat
  | [] => some acc
  | c :: cs => (digit? c).bind fun d => digitsFrom? (acc * 10 + d) cs

/-- The value of a non-empty run of digits. -/
def natural? : List Char → Option Nat
  | [] => none
  | cs => digitsFrom? 0 cs

/-- A whole number of at most `max`, with an optional plus sign. -/
def readNatural? (max : Nat) (s : String) : Option Nat :=
  let digits := match s.toList with
    | '+' :: cs => cs
    | cs => cs
  (natural? digits).filter (· ≤ max)

/-- A whole number between `min` and `max`, with an optional sign. -/
def readInteger? (min max : Int) (s : String) : Option Int :=
  let value : Option Int := match s.toList with
    | '-' :: cs => (natural? cs).map fun n => -(n : Int)
    | '+' :: cs => (natural? cs).map Int.ofNat
    | cs => (natural? cs).map Int.ofNat
  value.filter fun n => min ≤ n && n ≤ max

/-- Bounds of the signed 32-bit numbers. -/
def int32Min : Int := -2147483648

/-- The largest signed 32-bit number. -/
def int32Max : Int := 2147483647

/-- The smallest signed 64-bit number. -/
def int64Min : Int := -9223372036854775808

/-- The largest signed 64-bit number. -/
def int64Max : Int := 9223372036854775807

/-- The largest unsigned 64-bit number. -/
def nat64Max : Nat := 18446744073709551615

/-- The decimal digits of a number, most significant first. -/
def digits (n : Nat) : List Char :=
  Nat.toDigits 10 n

/-- Digits padded on the left with zeros to at least `width`. -/
def padded (width n : Nat) : String :=
  let ds := digits n
  String.ofList (List.replicate (width - ds.length) '0' ++ ds)

/-- A number in decimal, with a minus sign when negative. -/
def ofInt (i : Int) : String :=
  if i < 0 then "-" ++ String.ofList (digits i.natAbs)
  else String.ofList (digits i.natAbs)

/-- The digit of a value below sixteen, in lower case. -/
def hexDigit (n : Nat) : Char :=
  (Nat.toDigits 16 (n % 16)).headD '0'

/-- The value of a hexadecimal digit of either case. -/
def hexValue? (c : Char) : Option Nat :=
  if '0' ≤ c ∧ c ≤ '9' then some (c.toNat - '0'.toNat)
  else if 'a' ≤ c ∧ c ≤ 'f' then some (c.toNat - 'a'.toNat + 10)
  else if 'A' ≤ c ∧ c ≤ 'F' then some (c.toNat - 'A'.toNat + 10)
  else none

end CheckGateway.Text
