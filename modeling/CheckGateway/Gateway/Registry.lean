/-
The registry of tenants, and how requests get to them. A tenant is made
when it is first asked for and found by its key from then on. A request is
admitted unless the same payload is in flight, and queued in the pool of
its command; its answer is delivered under a ticket. Tenants that have
been idle for too long are evicted; watermarks stay.
-/
import CheckGateway.Gateway.Run

namespace CheckGateway.Gateway

/-- A gateway of some build with no tenants, over a remote system without a
script. -/
def create (config : Config) (clock : Timestamp) (overflow : Overflow) :
    Outcome Gateway := do
  config.validate
  return { config := config, clock := clock, overflow := overflow }

/-- The error of a registry whose lock is poisoned. -/
def registryPoisoned : GatewayError := .lockPoisoned "dispatcher registry"

/-- How many tenants are registered, as far as the registry can tell. -/
def size (g : Gateway) : Nat :=
  if g.poisoned then 0 else g.registered.length

-- ============================================================= resolve

/-- The registered tenant with a key. -/
def find? (g : Gateway) (key : CredentialKey) : Option Nat :=
  g.registered.find? fun t => (g.tenants[t]?.map Tenant.key) == some key

/-- Marks a tenant as used. -/
def touch (g : Gateway) (t : Nat) : Gateway :=
  g.update t fun x => { x with lastUsed := g.clock }

/-- The shape of a tenant's pool. -/
def poolSpec (config : Config) (host : String) (kind : PoolKind) : PoolSpec where
  host := host
  kind := kind
  workers :=
    match kind with
    | .global => config.globalPoolSize
    | .jobs => config.jobPoolSize
    | .disks => config.diskPoolSize
  capacity := config.queueCapacity
  timeout := config.submissionTimeout

/-- Starts the pools of a tenant one after the other, after `started`
others: the pools, unless one of them dies, and how many have been started
then. -/
def startPools (config : Config) (host : String) (started : Nat) :
    Option TenantPools × Nat :=
  let start (kind : PoolKind) (n : Nat) : Option (Pool Work Response) :=
    Pool.start? (poolSpec config host kind) n
  match start .global (started + 1) with
  | none => (none, started + 1)
  | some global =>
      match start .jobs (started + 2) with
      | none => (none, started + 2)
      | some jobs =>
          match start .disks (started + 3) with
          | none => (none, started + 3)
          | some disks => (some ⟨global, jobs, disks⟩, started + 3)

/-- Makes a tenant and registers it. If it dies, the registry is
poisoned. -/
def register (g : Gateway) (who : Credentials) : Except Fault Nat × Gateway :=
  match startPools g.config who.host g.poolsStarted with
  | (none, started) =>
      (.error .panicked, { g with poolsStarted := started, poisoned := true })
  | (some pools, started) =>
      let t := g.tenants.length
      (.ok t,
        { g with
          poolsStarted := started
          tenants := g.tenants ++
            [{ credentials := who, pools := pools, lastUsed := g.clock }]
          registered := t :: g.registered })

/-- The tenant of an account, made if there is none, and marked as
used. -/
def resolve (g : Gateway) (who : Credentials) : Except Fault Nat × Gateway :=
  if g.poisoned then (.error (.failed registryPoisoned), g)
  else
    match g.find? who.key with
    | some t => (.ok t, g.touch t)
    | none => g.register who

/-- Notes that callers hold on to a tenant. -/
def keep (g : Gateway) (t : Nat) : Gateway :=
  if g.kept.contains t then g else { g with kept := t :: g.kept }

-- ============================================================== submit

/-- What the jobs of a tenant run with. -/
def context (g : Gateway) (tenant : Tenant) : JobContext where
  credentials := tenant.credentials
  pageSize := g.config.messagePageSize
  overflow := g.overflow

/-- The program for a request of a tenant. -/
def program (g : Gateway) (tenant : Tenant) (r : Request) : Work :=
  ⟨CheckGateway.work (g.context tenant) r, none⟩

/-- Admits a request to a tenant. -/
def accept (g : Gateway) (t : Nat) (r : Request) : Outcome Gateway :=
  match g.tenants[t]? with
  | none => .error registryPoisoned
  | some tenant => do
      let inFlight ← tenant.inFlight.accept r.payload g.clock
      return g.update t fun x => { x with inFlight := inFlight }

/-- Releases a request that was admitted but not queued. -/
def release (g : Gateway) (t : Nat) (r : Request) : Gateway :=
  g.update t fun x => { x with inFlight := x.inFlight.finish r.payload }

/-- Queues an admitted request in its pool, under the next ticket. -/
def enqueue (g : Gateway) (t : Nat) (r : Request) : Outcome Gateway :=
  match g.tenants[t]? with
  | none => .error registryPoisoned
  | some tenant => do
      let ticket := g.tickets + 1
      let item : Item Work := ⟨ticket, r.payload, g.program tenant r⟩
      let p ← (tenant.pools.get r.pool).submit item
      return { g.updatePool t r.pool fun _ => p with tickets := ticket }

/-- Submits a request to a tenant: its ticket, or why it was not queued.
Nothing of it has been worked on yet. -/
def offer (g : Gateway) (t : Nat) (r : Request) : Outcome Nat × Gateway :=
  let g := g.touch t
  match g.accept t r with
  | .error e => (.error e, g)
  | .ok g =>
      match g.enqueue t r with
      | .error e => (.error e, g.release t r)
      | .ok g => (.ok g.tickets, g)

/-- Submits a request to a tenant and lets the gateway work. -/
def submit (g : Gateway) (t : Nat) (r : Request) : Outcome Nat × Gateway :=
  let (ticket, g) := g.offer t r
  (ticket, g.settle)

/-- What has been delivered under a ticket. -/
def answer? (g : Gateway) (ticket : Nat) : Option (Option Response) :=
  g.answers.lookup ticket

/-- The name of the pool that works on a request of a tenant. -/
def poolName (g : Gateway) (t : Nat) (r : Request) : String :=
  (g.tenants[t]?.map fun x => (x.pools.get r.pool).name).getD ""

/-- Submits a request to a tenant and waits for its answer. Whatever goes
wrong becomes an answer too. -/
def dispatchTo (g : Gateway) (t : Nat) (r : Request) : Response × Gateway :=
  match g.submit t r with
  | (.error e, g) => (.ofError e, g)
  | (.ok ticket, g) =>
      match g.answer? ticket with
      | some (some response) => (response, g)
      | _ => (.ofError (.workerLost (g.poolName t r)), g)

/-- Finds the tenant of a request and waits for its answer; `none` if the
registry dies over it. -/
def dispatch (g : Gateway) (r : Request) : Option Response × Gateway :=
  match g.resolve r.credentials with
  | (.error .panicked, g) => (none, g)
  | (.error (.failed e), g) => (some (.ofError e), g)
  | (.ok t, g) =>
      let (response, g) := g.dispatchTo t r
      (some response, g)

/-- Reads a payload and waits for its answer. -/
def dispatchPayload (g : Gateway) (payload : String) :
    Option Response × Gateway :=
  match Request.ofPayload payload with
  | .error e => (some (.ofError e), g)
  | .ok r => g.dispatch r

/-- Carries out a request of a tenant at once, outside of its pools; `none`
if it would have to wait. -/
def execute (g : Gateway) (t : Nat) (r : Request) :
    Option (Except Fault Handler.Result) × Gateway :=
  match g.tenants[t]? with
  | none => (none, g)
  | some tenant =>
      match advance t none (carryOut (g.context tenant) r).run g with
      | ((.done outcome, _), g) => (some outcome, g.settle)
      | (_, g) => (none, g)

/-- A submission that is given up right after it was started: whether it
was waiting for room, the requests in flight while it was, and after. -/
structure Abandoned where
  pending : Bool
  during : Nat
  after : Nat
  deriving Repr

/-- The requests of a tenant in flight. -/
def inFlight (g : Gateway) (t : Nat) : Nat :=
  (g.tenants[t]?.map fun x => x.inFlight.size).getD 0

/-- Starts a submission and gives it up at once. Only one that waits for
room is undone by that. -/
def abandon (g : Gateway) (t : Nat) (r : Request) : Abandoned × Gateway :=
  let g := g.touch t
  match g.accept t r with
  | .error _ => (⟨false, g.inFlight t, g.inFlight t⟩, g)
  | .ok admitted =>
      match admitted.enqueue t r with
      | .ok g => (⟨false, g.inFlight t, g.inFlight t⟩, g.settle)
      | .error (.queueTimeout ..) =>
          (⟨true, admitted.inFlight t, g.inFlight t⟩, g)
      | .error _ => (⟨false, g.inFlight t, g.inFlight t⟩, g)

-- ============================================================== stats

/-- The state of a tenant's cache of active jobs; its handler is made if
there is none. -/
def jobStats (g : Gateway) (t : Nat) : Except Fault CacheStats × Gateway :=
  let job : Job CacheStats := do
    let h ← Handler.obtain .jobs
    let c : Cache ActiveJob ← Job.askM (.jobCache h)
    return c.stats
  match advance t none job.run g with
  | ((.done r, _), g) => (r, g)
  | (_, g) => (.error .panicked, g)

/-- The state of a tenant's cache of disk units; its handler is made if
there is none. -/
def diskStats (g : Gateway) (t : Nat) : Except Fault CacheStats × Gateway :=
  let job : Job CacheStats := do
    let h ← Handler.obtain .disks
    let c : Cache DiskUnit ← Job.askM (.diskCache h)
    return c.stats
  match advance t none job.run g with
  | ((.done r, _), g) => (r, g)
  | (_, g) => (.error .panicked, g)

-- =============================================================== end

/-- Shuts a tenant down: its pools accept nothing more, and its slots
forget their handlers. Sessions that nobody uses any more are left to be
reclaimed. -/
def close (g : Gateway) (t : Nat) : Gateway :=
  g.update t fun x =>
    { x with pools := x.pools.map Pool.shutDown, slots := x.slots.clear }

/-- Shuts a tenant down. -/
def shutDownTenant (g : Gateway) (t : Nat) : Gateway :=
  (g.close t).reclaim t

/-- Shuts a tenant down and waits for its workers. -/
def joinTenant (g : Gateway) (t : Nat) : Gateway :=
  (g.shutDownTenant t).settle

/-- What remains to be disconnected when tenants are dropped, unless
callers hold on to them. -/
def dropTenants (g : Gateway) (ts : List Nat) : Gateway :=
  ts.foldl
    (fun g t =>
      if g.kept.contains t then g
      else g.update t fun x => { x with slots := x.slots.clear })
    g

/-- Disconnects what several tenants have left, in the order in which the
sessions were opened. -/
def reclaimAll (g : Gateway) (ts : List Nat) : Gateway :=
  let orphans := ts.flatMap fun t =>
    (g.tenants[t]?.map Tenant.orphans).getD []
  (ts.foldl (fun g t => g.update t Tenant.disown) g).disconnect
    (orphans.mergeSort (· ≤ ·))

/-- A tenant is idle for too long at a time. -/
def isIdle (g : Gateway) (now : Timestamp) (t : Nat) : Bool :=
  match g.tenants[t]? with
  | none => false
  | some x =>
      x.inFlight.size == 0
        && g.config.tenantIdleTimeout < x.lastUsed.elapsedMs now

/-- Evicts the tenants that are idle for too long at a time: how many. -/
def evictIdle (g : Gateway) (now : Timestamp) : Outcome Nat × Gateway :=
  if g.poisoned then (.error registryPoisoned, g)
  else
    let idle := g.registered.filter (g.isIdle now)
    let g := { g with registered := g.registered.filter fun t => !g.isIdle now t }
    let g := idle.foldl close g
    (.ok idle.length, (g.dropTenants idle).reclaimAll idle)

/-- Removes every tenant, shuts it down and waits for its workers. -/
def shutDown (g : Gateway) : Outcome Unit × Gateway :=
  if g.poisoned then (.error registryPoisoned, g)
  else
    let all := g.registered
    let g := all.foldl close { g with registered := [] }
    let g := (g.reclaimAll all).settle
    (.ok (), (g.dropTenants all).reclaimAll all)

end CheckGateway.Gateway
