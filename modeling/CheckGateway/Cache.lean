/-
Snapshots of remote collections, kept for a while. A cache has not been
filled yet, or holds a snapshot, or holds the failure of the last fetch.
Within its time to live a read is answered with what it holds, a failure
too. Every fetch, failed or not, starts a new period. A clock that has
gone back leaves what the cache holds as young as can be.

A fetch that dies leaves the cache unusable for good.
-/
import CheckGateway.Error
import CheckGateway.Time.Timestamp
import CheckGateway.Binary64.Layout

namespace CheckGateway

/-- A snapshot as a read gives it. -/
structure Read (α : Type) where
  items : List α
  refreshedAt : Timestamp
  /-- The snapshot was there already. -/
  hit : Bool
  deriving DecidableEq, Repr

/-- What a cache holds. -/
inductive Held (α : Type) where
  | nothing
  | snapshot (items : List α) (since : Timestamp)
  | failure (e : GatewayError) (since : Timestamp)
  deriving Repr

/-- How often a cache was used. -/
structure CacheStats where
  /-- Reads answered with what the cache held. -/
  hits : Nat := 0
  /-- Reads that fetched. -/
  misses : Nat := 0
  /-- Fetches that failed. -/
  failures : Nat := 0
  deriving DecidableEq, Repr

/-- Hits per read; zero before the first read. -/
def CacheStats.hitRate (s : CacheStats) : Binary64 :=
  let rate := do
    let hits ← Binary64.ofNat? s.hits
    let total ← Binary64.ofNat? (s.hits + s.misses)
    hits.div? total
  rate.getD (.zero false)

/-- A cache of snapshots. -/
structure Cache (α : Type) where
  name : String
  ttl : Span
  held : Held α := .nothing
  stats : CacheStats := {}
  poisoned : Bool := false
  deriving Repr

namespace Cache

variable {α : Type}

/-- What the poisoned lock of a cache is called. -/
def lockName (name : String) : String := name ++ " cache"

/-- What was fetched at one time is still served at another. -/
def fresh (c : Cache α) (refreshedAt now : Timestamp) : Bool :=
  Timestamp.nanosBetween refreshedAt now < c.ttl.nanos

/-- What a read without a fetch gives, if it may be answered so. -/
def heldAt? (c : Cache α) (now : Timestamp) : Option (Outcome (Read α)) :=
  match c.held with
  | .nothing => none
  | .snapshot items since =>
      if c.fresh since now then some (.ok ⟨items, since, true⟩) else none
  | .failure e since =>
      if c.fresh since now then some (.error e) else none

/-- The cache after a read that it answered. -/
def countHit (c : Cache α) : Cache α :=
  { c with stats := { c.stats with hits := c.stats.hits + 1 } }

/-- The cache when a fetch begins. -/
def countMiss (c : Cache α) : Cache α :=
  { c with stats := { c.stats with misses := c.stats.misses + 1 } }

/-- The failure of a fetch, as readers get it. -/
def refreshFailure (c : Cache α) (cause : GatewayError) : GatewayError :=
  .refreshFailed c.name cause

/-- The cache after a fetch, and what the reader gets. -/
def settle (c : Cache α) (fetched : Outcome (List α)) (now : Timestamp) :
    Outcome (Read α) × Cache α :=
  match fetched with
  | .ok items =>
      (.ok ⟨items, now, false⟩, { c with held := .snapshot items now })
  | .error cause =>
      let e := c.refreshFailure cause
      (.error e,
        { c with
          held := .failure e now
          stats := { c.stats with failures := c.stats.failures + 1 } })

/-- A fetch as it would go: its outcome and the time when it ends. -/
structure Fetch (α : Type) where
  outcome : Except Fault (List α)
  endsAt : Timestamp

/-- A fetch that begins at a time and takes some milliseconds. It dies at
once where the clock cannot show when it ends. -/
def Fetch.lasting (begins : Timestamp) (ms : Nat)
    (outcome : Except Fault (List α)) : Fetch α :=
  match begins.advance? ms with
  | some ends => ⟨outcome, ends⟩
  | none => ⟨.error .panicked, begins⟩

/-- Reads the cache at a time, fetching if it must or is told to. The
fetch is only looked at when it is made. -/
def get (c : Cache α) (force : Bool) (now : Timestamp)
    (fetch : Fetch α) : Except Fault (Read α) × Cache α :=
  if c.poisoned then
    (.error (.failed (.lockPoisoned (lockName c.name))), c)
  else
    match if force then none else c.heldAt? now with
    | some r => (r.mapError .failed, c.countHit)
    | none =>
        match fetch.outcome with
        | .ok items =>
            let (r, c) := c.countMiss.settle (.ok items) fetch.endsAt
            (r.mapError .failed, c)
        | .error (.failed e) =>
            let (r, c) := c.countMiss.settle (.error e) fetch.endsAt
            (r.mapError .failed, c)
        | .error .panicked =>
            (.error .panicked, { c.countMiss with poisoned := true })

/-- A read at a time runs the fetch. -/
def fetches (c : Cache α) (force : Bool) (now : Timestamp) : Bool :=
  !c.poisoned && (force || (c.heldAt? now).isNone)

end Cache

end CheckGateway
