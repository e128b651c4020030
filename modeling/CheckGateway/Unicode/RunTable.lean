/-
Tables that give every code point a value, as run-length texts over all
code points from zero: a count (left out when it is one), then the symbol
of the value, which has a fixed number of characters and no digits.
-/
import CheckGateway.Unicode.CodePointSet

namespace CheckGateway.Unicode

/-- A table: ranges that follow one another, each with a value. -/
abbrev RunTable (α : Type) := List ((Nat × Nat) × α)

namespace RunTable

variable {α : Type}

/-- Decodes runs from `start` on; `count` holds the digits and `symbol` the
characters of the symbol read so far. -/
def decodeFrom (width : Nat) (value : List Char → α) (start count : Nat)
    (symbol : List Char) : List Char → RunTable α
  | [] => []
  | c :: cs =>
      if c.isDigit then
        decodeFrom width value start (count * 10 + (c.toNat - '0'.toNat)) [] cs
      else if symbol.length + 1 < width then
        decodeFrom width value start count (symbol ++ [c]) cs
      else
        let stop := start + (if count = 0 then 1 else count)
        ((start, stop - 1), value (symbol ++ [c]))
          :: decodeFrom width value stop 0 [] cs

/-- The table that a text spells with symbols of a width. -/
def ofText (width : Nat) (value : List Char → α) (text : List String) :
    RunTable α :=
  decodeFrom width value 0 0 [] (String.join text).toList

/-- The value of a code point. -/
def get? (table : RunTable α) (n : Nat) : Option α :=
  (table.find? fun run => inRange n run.1).map Prod.snd

/-- The code points whose value satisfies a condition. -/
def preimage (table : RunTable α) (p : α → Bool) : CodePointSet :=
  .ofList (table.filterMap fun run => if p run.2 then some run.1 else none)

end RunTable

end CheckGateway.Unicode
