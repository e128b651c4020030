/-
A pool on the bench: its jobs wait at a gate, if they name one, and then
give a value or die. What the pool does is recorded, and between inputs it
is left to itself until nothing more can happen.
-/
import CheckGateway.Gate
import CheckGateway.Pool.Basic
import CheckGateway.Table

namespace CheckGateway

/-- A job that waits at a gate, if it names one, and then ends. -/
structure BenchJob (Reply : Type) where
  gate : Option String
  /-- The job has come to its gate. -/
  arrived : Bool := false
  /-- Its value, or `none` if it dies. -/
  outcome : Option Reply
  deriving Repr

/-- A pool on the bench. -/
structure Bench (Reply : Type) where
  pool : Pool (BenchJob Reply) Reply
  gates : Table String Gate := .empty
  /-- Released fingerprints, in order. -/
  hooks : List String := []
  /-- Delivered outcomes by ticket. -/
  outcomes : List (Nat × Option Reply) := []

namespace Bench

variable {Reply : Type}

/-- The gate with a name. -/
def gate (b : Bench Reply) (name : String) : Gate :=
  (b.gates.get? name).getD {}

/-- Records what the pool did. -/
def record (b : Bench Reply) (event : Pool.Event Reply) : Bench Reply :=
  match event with
  | .took _ => b
  | .released _ fingerprint => { b with hooks := b.hooks ++ [fingerprint] }
  | .delivered ticket outcome =>
      { b with outcomes := b.outcomes ++ [(ticket, outcome)] }

/-- Goes on with the job under a ticket; `none` if it has to wait. -/
def work? (b : Bench Reply) (ticket : Nat) (job : BenchJob Reply) :
    Option (Bench Reply) :=
  match job.gate with
  | none => some { b with pool := b.pool.finish ticket job.outcome }
  | some name =>
      if !job.arrived then
        some
          { b with
            gates := b.gates.insert name (b.gate name).arrive
            pool := b.pool.resume ticket { job with arrived := true } }
      else if (b.gate name).isOpen then
        some { b with pool := b.pool.finish ticket job.outcome }
      else none

/-- One thing that can happen next. -/
def step? (b : Bench Reply) : Option (Bench Reply) :=
  match b.pool.next? with
  | some (event, pool) => some ({ b with pool := pool }.record event)
  | none => b.pool.running.findSome? fun (ticket, job) => b.work? ticket job

/-- The bench after a number of steps, fewer if nothing more can happen. -/
def run (b : Bench Reply) : Nat → Bench Reply
  | 0 => b
  | n + 1 =>
      match b.step? with
      | some b => b.run n
      | none => b

/-- The bench when nothing more can happen: an item takes five steps, to
be taken, to come to its gate, to end, to be released and delivered. -/
def settle (b : Bench Reply) : Bench Reply :=
  b.run (5 * (b.pool.queue.length + b.pool.taken.length))

/-- Submits a job. -/
def submit (b : Bench Reply) (ticket : Nat) (fingerprint : String)
    (job : BenchJob Reply) : Outcome (Bench Reply) := do
  let pool ← b.pool.submit ⟨ticket, fingerprint, job⟩
  return { b with pool := pool }.settle

/-- Opens a gate for good. -/
def openGate (b : Bench Reply) (name : String) : Bench Reply :=
  { b with gates := b.gates.insert name (b.gate name).opened }.settle

/-- Shuts the pool down. -/
def shutDown (b : Bench Reply) : Bench Reply :=
  { b with pool := b.pool.shutDown }

/-- What was delivered under a ticket. -/
def outcome? (b : Bench Reply) (ticket : Nat) : Option (Option Reply) :=
  b.outcomes.lookup ticket

end Bench

end CheckGateway
