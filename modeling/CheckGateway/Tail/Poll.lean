/-
Polling a message queue for what is new. The first poll for a key only
notes the newest entry, the watermark. A later poll reads the queue newest
first, page by page, and stops at the first entry that is the watermark or
older than it; what came before is new, and the first entry read becomes
the watermark. A failed read ends the poll before anything is noted.

A poll is a routine: looking up the watermark, asking for the length,
reading a page and noting a watermark are its calls, and anything may
happen between them.
-/
import CheckGateway.Routine
import CheckGateway.Tail.Key

namespace CheckGateway.Tail

/-- What a poll asks of the store and of the queue. -/
inductive Call where
  | watermark (key : WatermarkKey)
  | length (path : String)
  /-- At most `count` entries, newest first, after the `offset` newest. -/
  | page (path : String) (offset count : Nat)
  | note (key : WatermarkKey) (entry : QueuedMessage)
  deriving Repr

/-- The answers to a poll; reads may fail. -/
def Answer (ε : Type) : Call → Type
  | .watermark _ => Option QueuedMessage
  | .length _ => Except ε Nat
  | .page .. => Except ε (List QueuedMessage)
  | .note .. => Unit

/-- What a poll reports. -/
inductive Report where
  /-- There was no watermark yet. -/
  | initialized
  /-- The entries above the watermark, newest first. -/
  | new (entries : List QueuedMessage)
  deriving DecidableEq, Repr

/-- A poll of queues whose reads fail with errors of a type. -/
abbrev Poll (ε α : Type) := Routine Call (Answer ε) α

/-- An entry at which a scan stops. -/
def stops (mark m : QueuedMessage) : Bool :=
  m.sameEntry mark || decide (m.date < mark.date)

/-- The entries that a scan reports, where `entries` are newest first. -/
def newer (mark : QueuedMessage) (entries : List QueuedMessage) :
    List QueuedMessage :=
  entries.takeWhile fun m => !stops mark m

/-- Looks up a watermark. -/
def watermark {ε : Type} (key : WatermarkKey) :
    Poll ε (Option QueuedMessage) :=
  .call (.watermark key) .done

/-- Asks for the length of a queue. -/
def length {ε : Type} (path : String) : Poll ε (Except ε Nat) :=
  .call (.length path) .done

/-- Reads a page of a queue. -/
def page {ε : Type} (path : String) (offset count : Nat) :
    Poll ε (Except ε (List QueuedMessage)) :=
  .call (.page path offset count) .done

/-- Notes a watermark. -/
def note {ε : Type} (key : WatermarkKey) (entry : QueuedMessage) :
    Poll ε Unit :=
  .call (.note key entry) .done

/-- What a scan has found: the first entry it read and the new ones. -/
structure Found where
  newest : Option QueuedMessage := none
  fresh : List QueuedMessage := []
  deriving DecidableEq, Repr

/-- What a scan has found after one more page. -/
def Found.add (found : Found) (mark : QueuedMessage)
    (entries : List QueuedMessage) : Found :=
  ⟨found.newest.or entries.head?, found.fresh ++ newer mark entries⟩

/-- Reads pages from an offset on until an entry stops the scan, a page is
empty, or the offset reaches the length. Every page moves the offset, so
as many rounds as there are entries are enough. -/
def scan {ε : Type} (pageSize : Nat) (path : String) (mark : QueuedMessage)
    (length : Nat) : Nat → Nat → Found → Poll ε (Except ε Found)
  | 0, _, found => .done (.ok found)
  | rounds + 1, offset, found =>
      if length ≤ offset then .done (.ok found)
      else do
        match ← page path offset pageSize with
        | .error e => .done (.error e)
        | .ok [] => .done (.ok found)
        | .ok entries =>
            if entries.any (stops mark) then
              .done (.ok (found.add mark entries))
            else
              scan pageSize path mark length rounds (offset + entries.length)
                (found.add mark entries)

/-- The first poll of a key. -/
def establish {ε : Type} (key : WatermarkKey) (path : String) :
    Poll ε (Except ε Report) := do
  match ← page path 0 1 with
  | .error e => .done (.error e)
  | .ok [] => .done (.ok .initialized)
  | .ok (entry :: _) => do
      note key entry
      .done (.ok .initialized)

/-- A poll of a key that has a watermark. -/
def advance {ε : Type} (pageSize : Nat) (key : WatermarkKey) (path : String)
    (mark : QueuedMessage) : Poll ε (Except ε Report) := do
  match ← length path with
  | .error e => .done (.error e)
  | .ok n =>
      match ← scan pageSize path mark n n 0 {} with
      | .error e => .done (.error e)
      | .ok found => do
          match found.newest with
          | some entry => note key entry
          | none => pure ()
          .done (.ok (.new found.fresh))

/-- Polls a queue; a page has at least one entry. -/
def poll {ε : Type} (pageSize : Nat) (key : WatermarkKey) (path : String) :
    Poll ε (Except ε Report) := do
  match ← watermark key with
  | none => establish key path
  | some mark => advance (pageSize.max 1) key path mark

end CheckGateway.Tail
