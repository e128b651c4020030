/-
The state of a gateway: its settings and clock, the remote system, the
watermarks, and the tenants. A tenant has three pools, the requests in
flight, slots for its handlers, and the handlers themselves, numbered by
kind. A slot that is cleared only forgets its handler: who still uses it
goes on, and the session of a system handler is disconnected when neither
slot nor user knows it any more.

`perform` is what each call of a job does to the state.
-/
import CheckGateway.Gateway.Checks
import CheckGateway.InFlight
import CheckGateway.Pool.Basic
import CheckGateway.Remote.Scripted

namespace CheckGateway

/-- A request in the hands of a worker: what is left to do, and the gate at
which its query waits. -/
structure Work where
  routine : JobRoutine (Option Response)
  gate : Option Nat := none

/-- A handler with a session of its own. -/
structure SystemHandler where
  /-- `none` once it is dropped. -/
  session : Option Nat
  /-- How many jobs use it. -/
  users : Nat := 0
  poisoned : Bool := false
  deriving Repr

/-- The pools of a tenant. -/
structure TenantPools where
  global : Pool Work Response
  jobs : Pool Work Response
  disks : Pool Work Response

namespace TenantPools

/-- The pool of a kind. -/
def get (ps : TenantPools) : PoolKind → Pool Work Response
  | .global => ps.global
  | .jobs => ps.jobs
  | .disks => ps.disks

/-- The pools with one of them changed. -/
def set (ps : TenantPools) (kind : PoolKind) (p : Pool Work Response) :
    TenantPools :=
  match kind with
  | .global => { ps with global := p }
  | .jobs => { ps with jobs := p }
  | .disks => { ps with disks := p }

/-- The pools, each changed by a function. -/
def map (ps : TenantPools) (f : Pool Work Response → Pool Work Response) :
    TenantPools :=
  ⟨f ps.global, f ps.jobs, f ps.disks⟩

/-- The pools with their kinds, in order. -/
def toList (ps : TenantPools) : List (PoolKind × Pool Work Response) :=
  PoolKind.all.map fun kind => (kind, ps.get kind)

end TenantPools

/-- The slots of a tenant, each with the number of its handler. -/
structure HandlerSlots where
  jobs : Slot Nat := ⟨HandlerKind.jobs.slotName, none, false⟩
  disks : Slot Nat := ⟨HandlerKind.disks.slotName, none, false⟩
  system : Slot Nat := ⟨HandlerKind.system.slotName, none, false⟩
  subsystems : Slot Nat := ⟨HandlerKind.subsystems.slotName, none, false⟩
  commands : Slot Nat := ⟨HandlerKind.commands.slotName, none, false⟩
  deriving Repr

namespace HandlerSlots

/-- The slot of a kind. -/
def get (s : HandlerSlots) : HandlerKind → Slot Nat
  | .jobs => s.jobs
  | .disks => s.disks
  | .system => s.system
  | .subsystems => s.subsystems
  | .commands => s.commands

/-- The slots with one of them changed. -/
def set (s : HandlerSlots) (kind : HandlerKind) (slot : Slot Nat) :
    HandlerSlots :=
  match kind with
  | .jobs => { s with jobs := slot }
  | .disks => { s with disks := slot }
  | .system => { s with system := slot }
  | .subsystems => { s with subsystems := slot }
  | .commands => { s with commands := slot }

/-- The slots with their handlers forgotten. -/
def clear (s : HandlerSlots) : HandlerSlots where
  jobs := s.jobs.clear
  disks := s.disks.clear
  system := s.system.clear
  subsystems := s.subsystems.clear
  commands := s.commands.clear

/-- The kinds of which there is a handler. -/
def initialized (s : HandlerSlots) : List HandlerKind :=
  HandlerKind.all.filter fun kind => ((s.get kind).get?).isSome

end HandlerSlots

/-- A tenant. -/
structure Tenant where
  credentials : Credentials
  pools : TenantPools
  lastUsed : Timestamp
  inFlight : InFlight := {}
  slots : HandlerSlots := {}
  jobCaches : List (Cache ActiveJob) := []
  diskCaches : List (Cache DiskUnit) := []
  systems : List SystemHandler := []
  /-- The locks that are taken. -/
  locked : List Lock := []

namespace Tenant

/-- The tenant's identity. -/
def key (t : Tenant) : CredentialKey := t.credentials.key

/-- Every pool is shut down. -/
def isShutDown (t : Tenant) : Bool :=
  t.pools.toList.all fun p => p.2.isShutDown

/-- Diagnostics of a tenant. -/
def shown (t : Tenant) : String :=
  "TenantDispatcher \x7b key: " ++ t.key.shown ++ ", in_flight: "
    ++ Text.ofInt t.inFlight.size ++ ", last_used: " ++ t.lastUsed.text
    ++ ", .. \x7d"

/-- What a lock guards was left in an unknown state. -/
def isPoisoned (t : Tenant) : Lock → Bool
  | .slot kind => (t.slots.get kind).poisoned
  | .jobCache h => (t.jobCaches[h]?.map Cache.poisoned).getD false
  | .diskCache h => (t.diskCaches[h]?.map Cache.poisoned).getD false
  | .systemSession h => (t.systems[h]?.map SystemHandler.poisoned).getD false

/-- The tenant with what a lock guards in an unknown state. -/
def poison (t : Tenant) : Lock → Tenant
  | .slot kind =>
      { t with
        slots := t.slots.set kind { t.slots.get kind with poisoned := true } }
  | .jobCache h =>
      { t with
        jobCaches := t.jobCaches.modify h fun c => { c with poisoned := true } }
  | .diskCache h =>
      { t with
        diskCaches := t.diskCaches.modify h fun c =>
          { c with poisoned := true } }
  | .systemSession h =>
      { t with
        systems := t.systems.modify h fun s => { s with poisoned := true } }

/-- The tenant with a handler put into its slot. -/
def fill (t : Tenant) (kind : HandlerKind) (handler : Nat) : Tenant :=
  { t with
    slots := t.slots.set kind
      { t.slots.get kind with handler := some handler } }

/-- A system handler that neither its slot nor a job knows any more. -/
def isDropped (t : Tenant) (handler : Nat) (s : SystemHandler) : Bool :=
  s.users == 0 && t.slots.system.get? != some handler

/-- The sessions of system handlers that are to be disconnected. -/
def orphans (t : Tenant) : List Nat :=
  (t.systems.zipIdx.filter fun (s, h) => t.isDropped h s).filterMap
    fun (s, _) => s.session

/-- The tenant without the sessions of dropped system handlers. -/
def disown (t : Tenant) : Tenant :=
  { t with
    systems := t.systems.zipIdx.map fun (s, h) =>
      if t.isDropped h s then { s with session := none } else s }

end Tenant

/-- A gateway. Tenants are numbered in the order in which they were made
and keep their numbers when they are evicted. -/
structure Gateway where
  config : Config
  clock : Timestamp
  /-- How the gateway was built. -/
  overflow : Overflow := .panics
  remote : ScriptedRemote := {}
  watermarks : Watermarks := .empty
  tenants : List Tenant := []
  /-- The registered tenants. -/
  registered : List Nat := []
  /-- Tenants that callers hold on to. -/
  kept : List Nat := []
  /-- The registry's lock is poisoned. -/
  poisoned : Bool := false
  poolsStarted : Nat := 0
  tickets : Nat := 0
  /-- Delivered answers by ticket; `none` where the worker died. -/
  answers : List (Nat × Option Response) := []

namespace Gateway

/-- Changes a tenant. -/
def update (g : Gateway) (t : Nat) (f : Tenant → Tenant) : Gateway :=
  { g with tenants := g.tenants.modify t f }

/-- Disconnects sessions, one after the other. -/
def disconnect (g : Gateway) (sessions : List Nat) : Gateway :=
  { g with remote := sessions.foldl ScriptedRemote.disconnect g.remote }

/-- Disconnects the sessions of a tenant's dropped system handlers. -/
def reclaim (g : Gateway) (t : Nat) : Gateway :=
  match g.tenants[t]? with
  | none => g
  | some tenant =>
      (g.update t Tenant.disown).disconnect tenant.orphans

/-- What a call comes to: an answer, or it has to wait. -/
inductive Performed (c : Job.Call) where
  | answered (a : Job.Answer c) (g : Gateway)
  | waits (gate : Option Nat) (g : Gateway)

/-- Does what a call of a tenant's job asks for. `gate` is where its query
waits already. -/
def perform (g : Gateway) (t : Nat) (tenant : Tenant) (gate : Option Nat) :
    (c : Job.Call) → Performed c
  | .now => .answered g.clock g
  | .openSession =>
      let (r, remote) :=
        g.remote.openSession tenant.credentials g.config.socketPolicy
      .answered r { g with remote := remote }
  | .query session q =>
      match gate with
      | some k =>
          if g.remote.isOpen k then .answered (g.remote.script.answer q) g
          else .waits gate g
      | none =>
          match g.remote.send session q with
          | (.answered r, remote) => .answered r { g with remote := remote }
          | (.held k, remote) => .waits (some k) { g with remote := remote }
  | .closeSession session => .answered () (g.disconnect [session])
  | .watermark key => .answered (g.watermarks.get? key) g
  | .note key entry =>
      .answered () { g with watermarks := g.watermarks.insert key entry }
  | .acquire lock =>
      if tenant.locked.contains lock then .waits none g
      else if tenant.isPoisoned lock then .answered false g
      else
        .answered true
          (g.update t fun x => { x with locked := lock :: x.locked })
  | .release lock poison =>
      .answered ()
        (g.update t fun x =>
          let x := { x with locked := x.locked.erase lock }
          if poison then x.poison lock else x)
  | .handler kind => .answered (tenant.slots.get kind).handler g
  | .install kind =>
      match kind with
      | .jobs =>
          let h := tenant.jobCaches.length
          .answered h <| g.update t fun x =>
            { x.fill .jobs h with
              jobCaches := x.jobCaches ++
                [⟨RemoteQuery.activeJobs.name, g.config.cacheTtl, .nothing, {},
                  false⟩] }
      | .disks =>
          let h := tenant.diskCaches.length
          .answered h <| g.update t fun x =>
            { x.fill .disks h with
              diskCaches := x.diskCaches ++
                [⟨RemoteQuery.diskUnits.name, g.config.cacheTtl, .nothing, {},
                  false⟩] }
      | kind => .answered (0 : Nat) (g.update t fun x => x.fill kind 0)
  | .installSystem session =>
      let h := tenant.systems.length
      .answered h <| g.update t fun x =>
        { x.fill .system h with
          systems := x.systems ++ [⟨some session, 0, false⟩] }
  | .jobCache h =>
      .answered (tenant.jobCaches.getD h ⟨"", (0 : Nat), .nothing, {}, false⟩) g
  | .saveJobCache h c =>
      .answered ()
        (g.update t fun x => { x with jobCaches := x.jobCaches.set h c })
  | .diskCache h =>
      .answered (tenant.diskCaches.getD h ⟨"", (0 : Nat), .nothing, {}, false⟩) g
  | .saveDiskCache h c =>
      .answered ()
        (g.update t fun x => { x with diskCaches := x.diskCaches.set h c })
  | .session h =>
      .answered (((tenant.systems[h]?).bind SystemHandler.session).getD 0) g
  | .replaceSession h session =>
      .answered ()
        (g.update t fun x =>
          { x with
            systems := x.systems.modify h fun s =>
              { s with session := some session } })
  | .hold h =>
      .answered ()
        (g.update t fun x =>
          { x with
            systems := x.systems.modify h fun s =>
              { s with users := s.users + 1 } })
  | .letGo h =>
      .answered ()
        ((g.update t fun x =>
          { x with
            systems := x.systems.modify h fun s =>
              { s with users := s.users - 1 } }).reclaim t)

/-- The call can be answered now, or at least be sent. -/
def canPerform (g : Gateway) (tenant : Tenant) (gate : Option Nat) :
    Job.Call → Bool
  | .query .. =>
      match gate with
      | some k => g.remote.isOpen k
      | none => true
  | .acquire lock => !tenant.locked.contains lock
  | _ => true

/-- A tenant's job goes on as far as it can: what is left of it, and the
gate where its query waits. -/
def advance {α : Type} (t : Nat) (gate : Option Nat) :
    JobRoutine α → Gateway → (JobRoutine α × Option Nat) × Gateway
  | .done a, g => ((.done a, none), g)
  | .call c next, g =>
      match g.tenants[t]? with
      | none => ((.call c next, gate), g)
      | some tenant =>
          match g.perform t tenant gate c with
          | .answered a g => advance t none (next a) g
          | .waits gate g => ((.call c next, gate), g)

end Gateway

end CheckGateway
