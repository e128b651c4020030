/-
Reading numbers. A whole number is kept exactly while it fits 64 bits;
any other number becomes a binary64 in a fixed number of roundings: its
leading digits up to 64 bits make a whole significand, the digits after
them only shift the power of ten, and the rounded significand is once
multiplied or divided by a rounded power of ten. Powers beyond 308 are
taken in steps, and a result too large is no number.
-/
import CheckGateway.Json.Value

namespace CheckGateway.Json

/-- The parts of a number as written. -/
structure Numeral where
  negative : Bool
  whole : List Char
  fraction : List Char
  /-- Sign and digits of the exponent. -/
  exponent : Option (Bool × List Char)
  deriving Repr

namespace Numeral

/-- Reads digits into a significand as long as it stays below `2 ^ 64`;
returns it with the digits that are left. -/
def significand (acc : Nat) : List Char → Nat × List Char
  | [] => (acc, [])
  | c :: cs =>
      let next := acc * 10 + (Text.digit? c).getD 0
      if Text.nat64Max < next then (acc, c :: cs) else significand next cs

/-- The greatest exponent that is read; a longer one is out of range in
either direction. -/
def exponentLimit : Nat := 2147483647

/-- The greatest power of ten that has a binary64 value. -/
def maxPower : Nat := 308

/-- A significand times a power of ten. Dividing by `10 ^ 308` is
repeated, as long as there is fuel, while the power is below -308. -/
def scale (x : Binary64) (power : Int) : Nat → Option Binary64
  | 0 => some (Binary64.zero false)
  | fuel + 1 =>
      if x.isZero then some x
      else if 0 ≤ power then
        if power.toNat ≤ maxPower then
          (Binary64.ofNat? (Nat.pow 10 power.toNat)).bind x.mul?
        else none
      else if (-power).toNat ≤ maxPower then
        (Binary64.ofNat? (Nat.pow 10 (-power).toNat)).bind x.div?
      else
        ((Binary64.ofNat? (Nat.pow 10 maxPower)).bind x.div?).bind fun y =>
          scale y (power + maxPower) fuel

/-- The binary64 of a significand and a power of ten. -/
def realOf (negative : Bool) (n : Nat) (power : Int) : Option Number :=
  ((Binary64.ofNat? n).bind fun x => scale x power 4).map fun y =>
    .real { y with negative := negative }

/-- The number that a numeral with a fraction or an exponent, or with too
many digits, stands for. -/
def real? (numeral : Numeral) : Option Number :=
  let (n, dropped) := significand 0 numeral.whole
  let (m, rest) := significand n numeral.fraction
  let used := numeral.fraction.length - rest.length
  let power : Int := (dropped.length : Int) - used
  match numeral.exponent with
  | none => realOf numeral.negative m power
  | some (down, digits) =>
      match Text.digitsFrom? 0 digits with
      | none => none
      | some e =>
          if exponentLimit < e then
            if m = 0 ∨ down then some (.real (Binary64.zero numeral.negative))
            else none
          else realOf numeral.negative m (if down then power - e else power + e)

/-- The number that a numeral stands for; `none` when it is too large.
Minus zero is a binary64, as is a whole number beyond 64 bits. -/
def number? (numeral : Numeral) : Option Number :=
  match numeral.fraction, numeral.exponent with
  | [], none =>
      let n := (Text.digitsFrom? 0 numeral.whole).getD 0
      if numeral.negative then
        if n ≠ 0 ∧ n ≤ 9223372036854775808 then some (.whole (-(n : Int)))
        else if n ≤ Text.nat64Max then realOf true n 0
        else numeral.real?
      else if n ≤ Text.nat64Max then some (.whole n)
      else numeral.real?
  | _, _ => numeral.real?

end Numeral

end CheckGateway.Json
