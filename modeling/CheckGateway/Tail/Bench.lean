/-
Polls on the bench: a queue held in memory, which can report a wrong
length, cut its pages short and fail, the watermarks, and a log of what is
read.
-/
import CheckGateway.Error
import CheckGateway.Tail.Poll

namespace CheckGateway.Tail

/-- A queue held in memory. -/
structure BenchQueue where
  /-- The entries, oldest first. -/
  entries : List QueuedMessage := []
  /-- The length that is reported in place of the true one. -/
  length : Option Nat := none
  /-- The most entries in a page. -/
  maxPage : Option Nat := none
  failLength : Option GatewayError := none
  /-- Pages fail from an offset on. -/
  failPage : Option (Nat × GatewayError) := none
  deriving Repr

namespace BenchQueue

/-- The length that the queue reports. -/
def reportLength (q : BenchQueue) : Outcome Nat :=
  match q.failLength with
  | some e => .error e
  | none => .ok (q.length.getD q.entries.length)

/-- The entries of a page, if reading it does not fail. -/
def pageEntries (q : BenchQueue) (offset count : Nat) : List QueuedMessage :=
  (q.entries.reverse.drop offset).take ((q.maxPage.getD count).min count)

/-- Reads a page. -/
def readPage (q : BenchQueue) (offset count : Nat) :
    Outcome (List QueuedMessage) :=
  match q.failPage with
  | some (start, e) =>
      if start ≤ offset then .error e else .ok (q.pageEntries offset count)
  | none => .ok (q.pageEntries offset count)

end BenchQueue

/-- The bench. -/
structure Bench where
  queue : BenchQueue := {}
  watermarks : Watermarks := .empty
  /-- The reads of the queue, in order. -/
  reads : List Call := []

namespace Bench

/-- Answers a call of a poll. -/
def perform : (c : Call) → Bench → Answer GatewayError c × Bench
  | .watermark key, b => (b.watermarks.get? key, b)
  | .length path, b =>
      (b.queue.reportLength, { b with reads := b.reads ++ [.length path] })
  | .page path offset count, b =>
      (b.queue.readPage offset count,
        { b with reads := b.reads ++ [.page path offset count] })
  | .note key entry, b =>
      ((), { b with watermarks := b.watermarks.insert key entry })

/-- Polls the queue; the log then holds the reads of this poll. -/
def poll (b : Bench) (pageSize : Nat) (key : WatermarkKey) (path : String) :
    Outcome Report × Bench :=
  (Tail.poll pageSize key path).run perform { b with reads := [] }

end Bench

end CheckGateway.Tail
