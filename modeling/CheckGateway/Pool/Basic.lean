/-
Worker pools. A pool has a bounded queue and a fixed number of workers. An
item that is accepted waits in the queue until a worker takes it, in the
order of acceptance. The worker runs the item's job; when the job has
returned or died, the item's fingerprint is released, and only then is the
outcome delivered, `none` for a job that died. A pool that is shut down
accepts nothing more but still works off what it has accepted.

Each of these is one step of the pool, and the steps of different workers
may interleave in any way; `next?` is the order in which a pool left to
itself takes the steps that are due.
-/
import CheckGateway.Check
import CheckGateway.Error

namespace CheckGateway

/-- A piece of work with the ticket its submitter holds. -/
structure Item (Job : Type) where
  ticket : Nat
  fingerprint : String
  job : Job
  deriving Repr

/-- How far a worker is with an item. -/
inductive Stage (Job Reply : Type) where
  | running (job : Job)
  /-- The job is over and its fingerprint not released yet. -/
  | finished (outcome : Option Reply)
  /-- The fingerprint is released and the outcome not delivered yet. -/
  | released (outcome : Option Reply)
  deriving Repr

/-- An item in the hands of a worker. -/
structure Taken (Job Reply : Type) where
  ticket : Nat
  fingerprint : String
  stage : Stage Job Reply
  deriving Repr

/-- A worker pool. -/
structure Pool (Job Reply : Type) where
  name : String
  workers : Nat
  capacity : Nat
  /-- How long a submitter waits for room, in milliseconds. -/
  timeout : Nat
  queue : List (Item Job) := []
  taken : List (Taken Job Reply) := []
  isShutDown : Bool := false
  deriving Repr

/-- The shape of a pool. -/
structure PoolSpec where
  host : String
  kind : PoolKind
  workers : Nat
  capacity : Nat
  timeout : Nat
  deriving Repr

namespace PoolSpec

/-- The name of the pool started as the `n`th one. -/
def name (spec : PoolSpec) (n : Nat) : String :=
  spec.host ++ "-pool-" ++ spec.kind.word ++ "-" ++ Text.ofInt n

/-- The longest queue there can be. -/
def maxCapacity : Nat := 0x1FFFFFFFFFFFFFFF

/-- The most workers there can be, by the room their handles take. -/
def maxWorkers : Nat := 0x7FFFFFFFFFFFFFFF / 24

/-- Workers can be named after the host: names of threads end at the
character of code zero, so they cannot hold one. -/
def nameable (host : String) : Bool := !host.toList.contains '\x00'

end PoolSpec

namespace Pool

variable {Job Reply : Type}

/-- Starts a pool as the `n`th one; a pool has at least one worker and
room for one item. `none` if it dies for want of room for its queue or its
workers, or because it cannot name them. The system is taken to start every
thread that is asked of it: where it has none left, the source gives an error
of its own and registers nothing, and that is not modelled. -/
def start? (spec : PoolSpec) (n : Nat) : Option (Pool Job Reply) :=
  let capacity := spec.capacity.max 1
  let workers := spec.workers.max 1
  if PoolSpec.maxCapacity < capacity ∨ PoolSpec.maxWorkers < workers
      ∨ PoolSpec.nameable spec.host = false then none
  else
    some
      { name := spec.name n, workers := workers, capacity := capacity,
        timeout := spec.timeout }

/-- The items that are being run. -/
def active (p : Pool Job Reply) : Nat :=
  p.taken.countP fun t =>
    match t.stage with
    | .running _ => true
    | _ => false

/-- The items that wait, as far as a pool that is not shut down shows. -/
def queued (p : Pool Job Reply) : Nat :=
  if p.isShutDown then 0 else p.queue.length

/-- Nothing waits and no worker holds anything. -/
def isIdle (p : Pool Job Reply) : Bool :=
  p.queue.isEmpty && p.taken.isEmpty

-- ========================================================= submission

/-- There is room in the queue. -/
def hasRoom (p : Pool Job Reply) : Bool :=
  p.queue.length < p.capacity

/-- The pool with an item at the end of its queue. -/
def enqueue (p : Pool Job Reply) (item : Item Job) : Pool Job Reply :=
  { p with queue := p.queue ++ [item] }

/-- The error of a submission that waited in vain. -/
def timedOut (p : Pool Job Reply) : GatewayError :=
  .queueTimeout p.name p.timeout

/-- The error of a submission to a pool that is shut down. -/
def refusal (p : Pool Job Reply) : GatewayError := .poolShutDown p.name

/-- Submits an item to a pool in which nothing moves until it is answered:
without room the wait is in vain. -/
def submit (p : Pool Job Reply) (item : Item Job) :
    Outcome (Pool Job Reply) :=
  if p.isShutDown then .error p.refusal
  else if p.hasRoom then .ok (p.enqueue item)
  else .error p.timedOut

/-- The pool, accepting nothing more. -/
def shutDown (p : Pool Job Reply) : Pool Job Reply :=
  { p with isShutDown := true }

-- ============================================================== work

/-- An idle worker takes the first item that waits. -/
def take? (p : Pool Job Reply) : Option (Pool Job Reply) :=
  match p.queue with
  | [] => none
  | item :: rest =>
      if p.taken.length < p.workers then
        some
          { p with
            queue := rest
            taken := p.taken ++
              [⟨item.ticket, item.fingerprint, .running item.job⟩] }
      else none

/-- Changes the item with a ticket. -/
def update (p : Pool Job Reply) (ticket : Nat)
    (f : Taken Job Reply → Taken Job Reply) : Pool Job Reply :=
  { p with
    taken := p.taken.map fun t => if t.ticket = ticket then f t else t }

/-- The item that is run under a ticket goes on as another job. -/
def resume (p : Pool Job Reply) (ticket : Nat) (job : Job) :
    Pool Job Reply :=
  p.update ticket fun t => { t with stage := .running job }

/-- The job under a ticket is over. -/
def finish (p : Pool Job Reply) (ticket : Nat) (outcome : Option Reply) :
    Pool Job Reply :=
  p.update ticket fun t => { t with stage := .finished outcome }

/-- What a pool does besides running jobs. -/
inductive Event (Reply : Type) where
  | took (ticket : Nat)
  | released (ticket : Nat) (fingerprint : String)
  | delivered (ticket : Nat) (outcome : Option Reply)
  deriving Repr

/-- Releases the fingerprint of a finished item. -/
def release? (p : Pool Job Reply) (t : Taken Job Reply) :
    Option (Event Reply × Pool Job Reply) :=
  match t.stage with
  | .finished outcome =>
      some (.released t.ticket t.fingerprint,
        p.update t.ticket fun t => { t with stage := .released outcome })
  | _ => none

/-- Delivers the outcome of a released item; its worker is idle again. -/
def deliver? (p : Pool Job Reply) (t : Taken Job Reply) :
    Option (Event Reply × Pool Job Reply) :=
  match t.stage with
  | .released outcome =>
      some (.delivered t.ticket outcome,
        { p with taken := p.taken.filter fun u => u.ticket ≠ t.ticket })
  | _ => none

/-- The step that is due in a pool left to itself: to release, to deliver,
or to take, for the item that was taken first. -/
def next? (p : Pool Job Reply) : Option (Event Reply × Pool Job Reply) :=
  (p.taken.findSome? fun t => (p.release? t).or (p.deliver? t)).or <|
    p.take?.map fun q => (.took ((p.queue.head?.map Item.ticket).getD 0), q)

/-- The jobs that are being run, with their tickets. -/
def running (p : Pool Job Reply) : List (Nat × Job) :=
  p.taken.filterMap fun t =>
    match t.stage with
    | .running job => some (t.ticket, job)
    | _ => none

theorem mem_enqueue (p : Pool Job Reply) (item other : Item Job) :
    other ∈ (p.enqueue item).queue ↔ other ∈ p.queue ∨ other = item := by
  simp [enqueue]

theorem submit_shutDown (p : Pool Job Reply) (item : Item Job) :
    p.shutDown.submit item = .error p.refusal := rfl

/-- An accepted item finds room. -/
theorem length_queue_of_submit {p q : Pool Job Reply} {item : Item Job}
    (h : p.submit item = .ok q) : q.queue.length ≤ q.capacity := by
  unfold submit at h
  split at h
  · cases h
  · split at h
    · rename_i hroom
      injection h with h
      subst h
      simp only [hasRoom, decide_eq_true_eq] at hroom
      simp only [enqueue, List.length_append, List.length_singleton]
      omega
    · cases h

/-- No more items are in the hands of workers than there are workers. -/
theorem length_taken_of_take? {p q : Pool Job Reply}
    (h : p.take? = some q) : q.taken.length ≤ q.workers := by
  unfold take? at h
  split at h
  · cases h
  · split at h
    · rename_i hidle
      injection h with h
      subst h
      simp only [List.length_append, List.length_singleton]
      omega
    · cases h

end Pool

end CheckGateway
