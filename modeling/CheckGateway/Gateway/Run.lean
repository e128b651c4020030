/-
A gateway at work. `step?` is one thing that can happen next: a pool takes
an item, releases a fingerprint or delivers an answer, or a job goes on
until it ends or has to wait. A gateway left to itself takes such steps
until every job waits at a gate or for a lock held by one that does.
-/
import CheckGateway.Gateway.State

namespace CheckGateway.Gateway

/-- Changes a pool of a tenant. -/
def updatePool (g : Gateway) (t : Nat) (kind : PoolKind)
    (f : Pool Work Response → Pool Work Response) : Gateway :=
  g.update t fun x => { x with pools := x.pools.set kind (f (x.pools.get kind)) }

/-- What follows from something a pool of a tenant has done. -/
def follow (g : Gateway) (t : Nat) : Pool.Event Response → Gateway
  | .took _ => g
  | .released _ fingerprint =>
      g.update t fun x => { x with inFlight := x.inFlight.finish fingerprint }
  | .delivered ticket answer =>
      { g with answers := g.answers ++ [(ticket, answer)] }

/-- The step that is due in a pool. -/
def poolStep? (g : Gateway) (t : Nat) (kind : PoolKind)
    (p : Pool Work Response) : Option Gateway :=
  p.next?.map fun (event, p) => (g.updatePool t kind fun _ => p).follow t event

/-- The job can go on. -/
def isRunnable (g : Gateway) (tenant : Tenant) (w : Work) : Bool :=
  match w.routine with
  | .done _ => true
  | .call c _ => g.canPerform tenant w.gate c

/-- Lets a job go on as far as it can. -/
def work (g : Gateway) (t : Nat) (kind : PoolKind) (ticket : Nat) (w : Work) :
    Gateway :=
  let (rest, g) := advance t w.gate w.routine g
  match rest with
  | (.done answer, _) => g.updatePool t kind fun p => p.finish ticket answer
  | (routine, gate) =>
      g.updatePool t kind fun p => p.resume ticket ⟨routine, gate⟩

/-- The first job of a pool that can go on does so. -/
def jobStep? (g : Gateway) (t : Nat) (tenant : Tenant) (kind : PoolKind)
    (p : Pool Work Response) : Option Gateway :=
  (p.running.find? fun (_, w) => g.isRunnable tenant w).map
    fun (ticket, w) => g.work t kind ticket w

/-- The tenants with their numbers. -/
def numbered (g : Gateway) : List (Tenant × Nat) := g.tenants.zipIdx

/-- One thing that can happen next. -/
def step? (g : Gateway) : Option Gateway :=
  (g.numbered.findSome? fun (tenant, t) =>
    tenant.pools.toList.findSome? fun (kind, p) => g.poolStep? t kind p).or <|
  g.numbered.findSome? fun (tenant, t) =>
    tenant.pools.toList.findSome? fun (kind, p) => g.jobStep? t tenant kind p

/-- The gateway after a number of steps, fewer if nothing more can
happen. -/
def run (g : Gateway) : Nat → Gateway
  | 0 => g
  | n + 1 =>
      match g.step? with
      | some g => g.run n
      | none => g

/-- The items that wait or are in the hands of workers. -/
def pending (g : Gateway) : Nat :=
  let counts := g.tenants.flatMap fun tenant =>
    tenant.pools.toList.map fun (_, p) => p.queue.length + p.taken.length
  counts.foldr (· + ·) 0

/-- The steps that an item takes at most before it is delivered or waits
for good: it is taken, released and delivered, and its job stops at most
once for each lock and once at a gate. -/
def stepsPerItem : Nat := 16

/-- The gateway when nothing more can happen. -/
def settle (g : Gateway) : Gateway := g.run (stepsPerItem * g.pending)

end CheckGateway.Gateway
