/-
The reaper: a task that evicts idle tenants at regular times of a timer of
its own. The first sweep is at once. A sweep that comes late by more than
a few milliseconds has been missed, and so have all others up to then: the
next one is at the next regular time. Any other sweep is followed by one
an interval after it was due.
-/
import CheckGateway.Gateway.Registry

namespace CheckGateway

/-- The reaper's counts. -/
structure ReaperMetrics where
  sweeps : Nat := 0
  evicted : Nat := 0
  errors : Nat := 0
  deriving DecidableEq, Repr

/-- A reaper; times are in milliseconds of its timer. -/
structure Reaper where
  interval : Nat
  time : Nat := 0
  due : Nat := 0
  metrics : ReaperMetrics := {}
  isFinished : Bool := false
  deriving DecidableEq, Repr

namespace Reaper

/-- How late a sweep can be without counting as missed. -/
def tolerance : Nat := 5

/-- When the sweep after one that happens now is due. -/
def nextDue (r : Reaper) : Nat :=
  if r.due + tolerance < r.time then
    r.time + r.interval - (r.time - r.due) % r.interval
  else r.due + r.interval

/-- A sweep. -/
def sweep (r : Reaper) (g : Gateway) : Reaper × Gateway :=
  let m := { r.metrics with sweeps := r.metrics.sweeps + 1 }
  match g.evictIdle g.clock with
  | (.ok n, g) =>
      ({ r with due := r.nextDue, metrics := { m with evicted := m.evicted + n } },
        g)
  | (.error _, g) =>
      ({ r with due := r.nextDue, metrics := { m with errors := m.errors + 1 } },
        g)

/-- Sweeps while one is due, a number of times at most. -/
def sweepDue (r : Reaper) (g : Gateway) : Nat → Reaper × Gateway
  | 0 => (r, g)
  | n + 1 =>
      if !r.isFinished && r.due ≤ r.time then
        let (r, g) := r.sweep g
        r.sweepDue g n
      else (r, g)

/-- The sweeps that can be due at one time: a first one, and those that are
not late enough to be missed. -/
def maxSweeps : Nat := tolerance + 2

/-- Starts a reaper. -/
def start (g : Gateway) : Reaper × Gateway :=
  ({ interval := g.config.reaperInterval } : Reaper).sweepDue g maxSweeps

/-- Moves the timer on. -/
def advance (r : Reaper) (g : Gateway) (ms : Nat) : Reaper × Gateway :=
  ({ r with time := r.time + ms } : Reaper).sweepDue g maxSweeps

/-- Sets the signal to finish, or not to. -/
def signal (r : Reaper) (finish : Bool) : Reaper :=
  { r with isFinished := r.isFinished || finish }

end Reaper

end CheckGateway
