/-
The programs that workers run. A job is a routine over the calls below:
it reads the clock, opens sessions and sends queries, looks up and notes
watermarks, takes and gives back locks, and reads and changes what the
tenant keeps between requests. What the calls do is the gateway's affair,
and between two of them other jobs may run.

A job ends with a value or a fault. `withSession` and `withLock` give back
what they took on every way out; a lock that was held when its holder died
is poisoned, and nobody gets it again.
-/
import CheckGateway.Cache
import CheckGateway.Remote.Query
import CheckGateway.Remote.Row
import CheckGateway.Routine
import CheckGateway.Slot
import CheckGateway.Tail.Key

namespace CheckGateway

/-- The kinds of handlers that a tenant keeps. -/
inductive HandlerKind where
  | jobs | disks | system | subsystems | commands
  deriving DecidableEq, Repr

namespace HandlerKind

/-- The kinds in the order in which they are listed. -/
def all : List HandlerKind := [jobs, disks, system, subsystems, commands]

/-- The name of a kind's slot. -/
def slotName : HandlerKind → String
  | jobs => "jobs"
  | disks => "disks"
  | system => "system"
  | subsystems => "subsystems"
  | commands => "commands"

/-- The name of a kind in listings. -/
def title : HandlerKind → String
  | jobs => "Jobs"
  | disks => "Disks"
  | system => "System"
  | subsystems => "Subsystems"
  | commands => "Commands"

end HandlerKind

/-- The locks of a tenant. A handler is known by its number among those of
its kind. -/
inductive Lock where
  | slot (kind : HandlerKind)
  | jobCache (handler : Nat)
  | diskCache (handler : Nat)
  | systemSession (handler : Nat)
  deriving DecidableEq, Repr

/-- What is poisoned when the lock is. -/
def Lock.subject : Lock → String
  | slot kind => Slot.lockName kind.slotName
  | jobCache _ => Cache.lockName RemoteQuery.activeJobs.name
  | diskCache _ => Cache.lockName RemoteQuery.diskUnits.name
  | systemSession _ => "system session"

namespace Job

/-- What a job asks of the gateway. Sessions and handlers have numbers. -/
inductive Call where
  | now
  | openSession
  | query (session : Nat) (q : RemoteQuery)
  | closeSession (session : Nat)
  | watermark (key : WatermarkKey)
  | note (key : WatermarkKey) (entry : QueuedMessage)
  | acquire (lock : Lock)
  /-- Gives a lock back, poisoned if its holder died. -/
  | release (lock : Lock) (poison : Bool)
  /-- The handler in a slot. -/
  | handler (kind : HandlerKind)
  /-- Puts a new handler into its slot. -/
  | install (kind : HandlerKind)
  /-- Puts a new system handler with its session into its slot. -/
  | installSystem (session : Nat)
  | jobCache (handler : Nat)
  | saveJobCache (handler : Nat) (cache : Cache ActiveJob)
  | diskCache (handler : Nat)
  | saveDiskCache (handler : Nat) (cache : Cache DiskUnit)
  /-- The session of a system handler. -/
  | session (handler : Nat)
  | replaceSession (handler session : Nat)
  /-- Keeps a system handler from being dropped. -/
  | hold (handler : Nat)
  | letGo (handler : Nat)

/-- The answers to a job. -/
def Answer : Call → Type
  | .now => Timestamp
  | .openSession => Except Fault Nat
  | .query .. => Except Fault (List Record)
  | .watermark _ => Option QueuedMessage
  | .acquire _ => Bool
  | .handler _ => Option Nat
  | .install _ => Nat
  | .installSystem _ => Nat
  | .jobCache _ => Cache ActiveJob
  | .diskCache _ => Cache DiskUnit
  | .session _ => Nat
  | _ => Unit

end Job

/-- A program of a worker. -/
abbrev JobRoutine := Routine Job.Call Job.Answer

/-- A program of a worker that may end in a fault. -/
abbrev Job := ExceptT Fault JobRoutine

namespace Job

/-- Makes a call. -/
def ask (c : Call) : JobRoutine (Answer c) := Routine.ask c

/-- Makes a call inside a job that may end in a fault. -/
def askM (c : Call) : Job (Answer c) := ExceptT.lift (ask c)

/-- Ends in an error. -/
def fail {α : Type} (e : GatewayError) : Job α := throw (.failed e)

/-- Goes on with an outcome. -/
def ofOutcome {α : Type} : Outcome α → Job α
  | .ok a => pure a
  | .error e => fail e

/-- The outcome of a job; only its death goes on to the caller. -/
def attempt {α : Type} (job : Job α) : Job (Outcome α) :=
  ExceptT.mk do
    match ← job.run with
    | .ok a => return .ok (.ok a)
    | .error (.failed e) => return .ok (.error e)
    | .error .panicked => return .error .panicked

/-- The clock. -/
def now : Job Timestamp := askM .now

/-- Opens a session. -/
def openSession : Job Nat :=
  ExceptT.mk do
    let r : Except Fault Nat ← ask .openSession
    return r

/-- Sends a query. -/
def query (session : Nat) (q : RemoteQuery) : Job (List Record) :=
  ExceptT.mk do
    let r : Except Fault (List Record) ← ask (.query session q)
    return r

/-- Sends a query and reads its rows. -/
def fetch (α : Type) [RowShape α] (session : Nat) (q : RemoteQuery) :
    Job (List α) := do
  let rows ← query session q
  ofOutcome (readRows α q.name rows)

/-- Runs a job on a fresh session, which is closed on every way out. -/
def withSession {α : Type} (body : Nat → Job α) : Job α := do
  let session ← openSession
  ExceptT.mk do
    let r ← (body session).run
    ask (.closeSession session)
    return r

/-- The fault is the death of the worker. -/
def isDeath {α : Type} : Except Fault α → Bool
  | .error .panicked => true
  | _ => false

/-- Runs a job under a lock. -/
def withLock {α : Type} (lock : Lock) (body : Job α) : Job α :=
  ExceptT.mk do
    let taken : Bool ← ask (.acquire lock)
    if taken then
      let r ← body.run
      ask (.release lock (isDeath r))
      return r
    else return .error (.failed (.lockPoisoned lock.subject))

/-- Runs a job that uses a system handler, which is let go on every way
out. -/
def holding {α : Type} (handler : Nat) (body : Job α) : Job α :=
  ExceptT.mk do
    let r ← body.run
    ask (.letGo handler)
    return r

end Job

end CheckGateway
