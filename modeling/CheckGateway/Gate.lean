/-
Gates hold whoever comes to them until they are opened. An open gate stays
open, and counts everyone who comes.
-/

namespace CheckGateway

/-- A gate. -/
structure Gate where
  isOpen : Bool := false
  /-- How many have come to it. -/
  reached : Nat := 0
  deriving DecidableEq, Repr

namespace Gate

/-- The gate after one more has come. -/
def arrive (g : Gate) : Gate := { g with reached := g.reached + 1 }

/-- The gate, open. -/
def opened (g : Gate) : Gate := { g with isOpen := true }

end Gate

end CheckGateway
