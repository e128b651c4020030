/-
Sweeps and the calls that they overtake.

# Calls

A call of `dispatch` does three things that others can come between: it
finds its tenant, with the registry locked, it marks the tenant as used once
more, and it is admitted to the tenant's filter. Only from then on is
anything in flight. A sweep takes out the registered tenants with nothing in
flight that have not been used for longer than the idle timeout, and shuts
down their pools one by one when it has let go of the registry.

Everything is one step at a time here and anybody may come next, as for one
dispatcher: `Floor` has the registry of a gateway, the dispatcher of every
tenant, and the calls that are not admitted yet. The clock moves as it likes,
and the registry is never shut down.

# The window

A call whose tenant is taken out before it is admitted holds on to that
tenant, and is refused by a pool that is shut down. `SweptInBetween` is what
must have happened then, and it is the only way to such a refusal: after the
admission the tenant is not idle, before the call has found it it is found
no more once it is taken out. And it happens: whenever a sweep finds the
tenant of a call idle, the call can come to be refused
(`refused_only_when_swept`).
-/
import CheckGateway.Proofs.Dispatch.Exact
import CheckGateway.Proofs.Gateway.Turnover
import Mathlib.Data.List.Induction

namespace CheckGateway.Dispatch

-- ============================================== refusals of a dispatcher

section

variable {Job Reply : Type} {pools : PoolKind → Pool Job Reply}
  {log : List (Deed Job Reply)} {d d' : Dispatcher Job Reply} {kind : PoolKind}

theorem mem_admissions {c : Nat × String} :
    c ∈ admissions log ↔
      ∃ kind item, .admitted kind item ∈ log ∧ (item.ticket, item.fingerprint) = c := by
  unfold admissions
  rw [List.mem_filterMap]
  constructor
  · intro hsome
    obtain ⟨deed, hmem, hdeed⟩ := hsome
    cases deed with
    | admitted kind item => exact ⟨kind, item, hmem, Option.some.inj hdeed⟩
    | rejected | lane | handedOff | dropped => cases hdeed
  · intro hadmitted
    obtain ⟨kind, item, hmem, rfl⟩ := hadmitted
    exact ⟨_, hmem, rfl⟩

/-- A ticket is used up by an admission. -/
theorem Run.admitted_of_ticket (h : Run pools log d) {ticket : Nat}
    (hticket : ticket ∈ d.tickets) : ∃ fp, (ticket, fp) ∈ admissions log := by
  induction h with
  | start => cases hticket
  | step _ hstep ih =>
      rcases hstep.inFlight with ⟨c, _, hnew, -, -, htickets, -⟩ | ⟨c, hnew, -, htickets, -⟩
        | ⟨hnew, -, htickets, -⟩
      · rw [admissions_snoc, hnew]
        rw [htickets] at hticket
        rcases List.mem_cons.1 hticket with rfl | hticket
        · exact ⟨c.2, List.mem_append_right _ (List.mem_singleton.2 rfl)⟩
        · obtain ⟨fp, hmem⟩ := ih hticket
          exact ⟨fp, List.mem_append_left _ hmem⟩
      · rw [admissions_snoc, hnew, List.append_nil]
        exact ih (htickets ▸ hticket)
      · rw [admissions_snoc, hnew, List.append_nil]
        exact ih (htickets ▸ hticket)

/-- Where a pool says that it is shut down, it is, and the admission of the
item has not been released. -/
theorem Run.shut_of_refused {specs : PoolKind → PoolSpec} {numbers : PoolKind → Nat}
    (hstart : ∀ kind, Pool.start? (specs kind) (numbers kind) = some (pools kind))
    (h : Run pools log d) {ticket : Nat} {name : String}
    (hstep : Step d (.lane kind (.refused ticket (.poolShutDown name))) d') :
    .lane kind .shutDown ∈ log ∧ ∃ fp, Unreleased log (ticket, fp) := by
  have hfresh : ∀ kind, Pool.Fresh (pools kind) := fun kind => (Pool.start?_eq (hstart kind)).1
  have hbooks := (h.lane kind).books (hfresh kind)
  have hshut : (d.lanes kind).pool.isShutDown = true → .lane kind .shutDown ∈ log := fun hshut =>
    mem_laneLog.1 (hbooks.shut.1 hshut)
  cases hstep with
  | @refuse _ item front back s e hguard hlane =>
      refine ⟨hshut ?_, item.fingerprint, (h.ledger hfresh).unreleased_iff.2 ?_⟩
      · generalize hact : Pool.Act.refused item.ticket (.poolShutDown name) = act at hlane
        cases hlane with
        | turnAway hcalling hshut => exact hshut
        | timeOut => cases (Pool.Act.refused.inj hact).2
        | close hwaiting hgone =>
            refine (hbooks.bounded.closed ?_).1
            obtain ⟨-, hworkers, -, -⟩ := hbooks.bounded.shape
            rw [hgone, hworkers, (Pool.start?_eq (hstart kind)).2.1]
            exact Nat.le_max_right ..
        | release _ hrelease =>
            obtain ⟨_, _, rfl, _⟩ := Pool.release?_eq hrelease
            cases hact
        | deliver _ hdeliver =>
            obtain ⟨_, _, rfl, _⟩ := Pool.deliver?_eq hdeliver
            cases hact
        | _ => cases hact
      · refine List.mem_append_left _ (List.mem_filterMap.2 ⟨⟨kind, item, .calling⟩, ?_, rfl⟩)
        rw [hguard]
        exact List.mem_append_right _ (List.mem_cons_self ..)
  | move _ hfree => cases hfree

/-- A pool has been asked for nothing that was not admitted. -/
theorem Run.not_asked (hfresh : ∀ kind, Pool.Fresh (pools kind)) (h : Run pools log d)
    {ticket : Nat} (hnew : ticket ∉ d.tickets) (kind : PoolKind) :
    ticket ∉ (d.lanes kind).tickets := by
  intro hmem
  refine hnew ((h.tied hfresh).tickets.mem_iff.2 (List.mem_append_right _ ?_))
  exact (overLanes_perm d kind Pool.Live.tickets).mem_iff.2 (List.mem_append_left _ hmem)

/-- An item that is admitted when its pool is shut down can be refused for
that. -/
theorem Run.refusable (hfresh : ∀ kind, Pool.Fresh (pools kind)) (h : Run pools log d)
    {item : Item Job} (hnew : item.ticket ∉ d.tickets)
    (habsent : d.inFlight.holds item.fingerprint = false)
    (hshut : (d.lanes kind).pool.isShutDown = true) :
    ∃ d₁ d₂ d₃ name, Step d (.admitted kind item) d₁ ∧ Step d₁ (.lane kind (.asked item)) d₂
      ∧ Step d₂ (.lane kind (.refused item.ticket (.poolShutDown name))) d₃ := by
  obtain ⟨f, haccept⟩ := (InFlight.accept_isOk d.inFlight _ ⟨0, 0⟩).2 habsent
  have hadmit := Step.letIn kind item ⟨0, 0⟩ hnew haccept
  have hask : Step _ (.lane kind (.asked item)) _ := .ask (d := { d with
      inFlight := f
      guards := d.guards ++ [⟨kind, item, .admitted⟩]
      tickets := item.ticket :: d.tickets }) rfl (.ask item (h.not_asked hfresh hnew kind))
  exact ⟨_, _, _, (d.lanes kind).pool.name, hadmit, hask,
    .refuse rfl (step_setLane _ (.turnAway rfl hshut))⟩

end

end CheckGateway.Dispatch

namespace CheckGateway.Eviction

open Dispatch (Dispatcher Deed admissions releases)

-- ============================================================ the steps

/-- A call that has found its tenant and is not admitted yet. -/
structure Caller where
  call : Nat
  tenant : Nat
  /-- It has marked the tenant as used, and asks to be admitted next. -/
  submits : Bool

/-- A gateway with the dispatchers of its tenants, one for each, and the
calls that are on the way. -/
structure Floor where
  gateway : Gateway
  crews : List (Dispatcher Work Response) := []
  callers : List Caller := []
  /-- The numbers that calls have had. -/
  calls : List Nat := []
  /-- The tenants that sweeps have taken out. -/
  taken : List Nat := []

/-- What can happen. A call has its number as the ticket of its item. -/
inductive Act where
  /-- A call has found its tenant. -/
  | resolved (call t : Nat) (time : Timestamp)
  /-- It has marked the tenant as used once more. -/
  | submitted (call t : Nat) (time : Timestamp)
  | swept (now : Timestamp) (ts : List Nat)
  | did (t : Nat) (a : Deed Work Response)
  | other

/-- The pools of a dispatcher. -/
def poolsOf (d : Dispatcher Work Response) : TenantPools :=
  ⟨(d.lanes .global).pool, (d.lanes .jobs).pool, (d.lanes .disks).pool⟩

/-- A dispatcher that has just been made. -/
def newCrew (pools : TenantPools) : Dispatcher Work Response :=
  { lanes := fun kind => { pool := pools.get kind } }

/-- The floor when the dispatcher of a tenant has changed. -/
def Floor.withCrew (s : Floor) (t : Nat) (d : Dispatcher Work Response) : Floor :=
  { s with
    gateway := s.gateway.update t fun x => { x with inFlight := d.inFlight, pools := poolsOf d }
    crews := s.crews.set t d }

/-- What submitters that are admitted and workers do by themselves. -/
def isInner : Deed Work Response → Bool
  | .admitted .. => false
  | .rejected .. => false
  | .lane _ .shutDown => false
  | .lane _ .joining => false
  | _ => true

/-- One step. -/
inductive Step : Floor → Act → Floor → Prop where
  | tick {s : Floor} (clock : Timestamp) :
      Step s .other { s with gateway := { s.gateway with clock := clock } }
  | find {s : Floor} {call t : Nat} {who : Credentials} {g : Gateway}
      (hnew : call ∉ s.calls) (hresolve : s.gateway.resolve who = (.ok t, g))
      (hold : t < s.gateway.tenants.length) :
      Step s (.resolved call t s.gateway.clock)
        { s with
          gateway := g
          callers := s.callers ++ [⟨call, t, false⟩]
          calls := call :: s.calls }
  /-- The tenant is made. -/
  | make {s : Floor} {call t : Nat} {who : Credentials} {g : Gateway} {x : Tenant}
      (hnew : call ∉ s.calls) (hresolve : s.gateway.resolve who = (.ok t, g))
      (hfirst : s.gateway.tenants.length ≤ t) (hx : g.tenants[t]? = some x) :
      Step s (.resolved call t s.gateway.clock)
        { s with
          gateway := g
          crews := s.crews ++ [newCrew x.pools]
          callers := s.callers ++ [⟨call, t, false⟩]
          calls := call :: s.calls }
  | fail {s : Floor} {who : Credentials} {e : Fault} {g : Gateway}
      (hresolve : s.gateway.resolve who = (.error e, g)) :
      Step s .other { s with gateway := g }
  | submit {s : Floor} {call t : Nat} {front back : List Caller}
      (hcaller : s.callers = front ++ ⟨call, t, false⟩ :: back) :
      Step s (.submitted call t s.gateway.clock)
        { s with
          gateway := s.gateway.touch t
          callers := front ++ ⟨call, t, true⟩ :: back }
  | enter {s : Floor} {t : Nat} {kind : PoolKind} {item : Item Work}
      {front back : List Caller} {d d' : Dispatcher Work Response}
      (hcaller : s.callers = front ++ ⟨item.ticket, t, true⟩ :: back)
      (hd : s.crews[t]? = some d) (hstep : Dispatch.Step d (.admitted kind item) d') :
      Step s (.did t (.admitted kind item))
        { s.withCrew t d' with callers := front ++ back }
  | reject {s : Floor} {call t : Nat} {fp : String} {e : GatewayError}
      {front back : List Caller} {d d' : Dispatcher Work Response}
      (hcaller : s.callers = front ++ ⟨call, t, true⟩ :: back)
      (hd : s.crews[t]? = some d) (hstep : Dispatch.Step d (.rejected fp e) d') :
      Step s (.did t (.rejected fp e)) { s.withCrew t d' with callers := front ++ back }
  | sweep {s : Floor} (now : Timestamp) (halive : s.gateway.poisoned = false) :
      Step s (.swept now (s.gateway.idleAt now))
        { s with
          gateway :=
            { s.gateway with
              registered := s.gateway.registered.filter fun t => !s.gateway.isIdle now t }
          taken := s.gateway.idleAt now ++ s.taken }
  /-- A pool of a tenant that was taken out is shut down. -/
  | shut {s : Floor} {t : Nat} {kind : PoolKind} {d d' : Dispatcher Work Response}
      (htaken : t ∈ s.taken) (hd : s.crews[t]? = some d)
      (hstep : Dispatch.Step d (.lane kind .shutDown) d') :
      Step s (.did t (.lane kind .shutDown)) (s.withCrew t d')
  | inner {s : Floor} {t : Nat} {a : Deed Work Response} {d d' : Dispatcher Work Response}
      (hinner : isInner a = true) (hd : s.crews[t]? = some d) (hstep : Dispatch.Step d a d') :
      Step s (.did t a) (s.withCrew t d')

/-- What can happen from a gateway without tenants on, first to last. -/
inductive Run (start : Gateway) : List Act → Floor → Prop where
  | start : Run start [] { gateway := start }
  | step {log : List Act} {s s' : Floor} {a : Act} (h : Run start log s)
      (hstep : Step s a s') : Run start (log ++ [a]) s'

-- ======================================================== what was done

/-- What has happened to the dispatcher of a tenant. -/
def deedsOf (t : Nat) (log : List Act) : List (Deed Work Response) :=
  log.filterMap fun
    | .did n a => if n = t then some a else none
    | _ => none

/-- When a tenant was marked as used. -/
def uses (t : Nat) (log : List Act) : List Timestamp :=
  log.filterMap fun
    | .resolved _ n time => if n = t then some time else none
    | .submitted _ n time => if n = t then some time else none
    | _ => none

/-- A call found its tenant, and before it was admitted a sweep took the
tenant out: nothing was in flight, and since the last use, which was then or
later, more than the idle timeout had passed by the sweep's time. -/
def SweptInBetween (timeout : Nat) (log : List Act) (call t : Nat) : Prop :=
  ∃ early time wait now ts late,
    log = early ++ .resolved call t time :: (wait ++ .swept now ts :: late)
      ∧ t ∈ ts
      ∧ (∀ kind item, item.ticket = call →
          .did t (.admitted kind item) ∉ early ++ .resolved call t time :: wait)
      ∧ (∀ c ∈ admissions (deedsOf t (early ++ .resolved call t time :: wait)),
          c ∈ releases (deedsOf t (early ++ .resolved call t time :: wait)))
      ∧ timeout < ((uses t wait).getLastD time).elapsedMs now

section

variable {log more : List Act} {a : Act} {t n : Nat} {deed : Deed Work Response}

theorem deedsOf_append : deedsOf t (log ++ more) = deedsOf t log ++ deedsOf t more :=
  List.filterMap_append ..

theorem uses_append : uses t (log ++ more) = uses t log ++ uses t more :=
  List.filterMap_append ..

theorem deedsOf_self : deedsOf t [.did t deed] = [deed] := by simp [deedsOf]

theorem deedsOf_other (h : n ≠ t) : deedsOf t [.did n deed] = [] := by simp [deedsOf, h]

theorem mem_deedsOf : deed ∈ deedsOf t log ↔ .did t deed ∈ log := by
  unfold deedsOf
  rw [List.mem_filterMap]
  constructor
  · intro hsome
    obtain ⟨act, hmem, hact⟩ := hsome
    cases act with
    | did n a =>
        obtain ⟨rfl, rfl⟩ : n = t ∧ a = deed := by simpa using hact
        exact hmem
    | resolved | submitted | swept | other => cases hact
  · intro hmem
    exact ⟨_, hmem, if_pos rfl⟩

end

-- ============================================================ the registry

section

variable {g g' : Gateway} {who : Credentials} {t : Nat}

/-- A tenant that is there already is registered, and marked as used. -/
theorem resolve_found (h : g.resolve who = (.ok t, g')) (hold : t < g.tenants.length) :
    t ∈ g.registered ∧ g' = g.touch t := by
  rcases Gateway.resolve_inv h with ⟨-, hr, -⟩ | ⟨-, t', hfind, hr, rfl⟩
    | ⟨-, -, ⟨-, hr, -⟩ | ⟨-, hr, -⟩⟩
  · cases hr
  · cases hr
    exact ⟨(Gateway.registered_of_find? hfind).1, rfl⟩
  · cases hr
  · cases hr
    exact absurd hold (Nat.lt_irrefl _)

/-- A tenant that was not there is made, and registered. -/
theorem resolve_made (h : g.resolve who = (.ok t, g')) (hfirst : g.tenants.length ≤ t) :
    t = g.tenants.length ∧ g'.config = g.config
      ∧ g'.registered = g.tenants.length :: g.registered
      ∧ ∃ (numbers : PoolKind → Nat) (pools : TenantPools),
        (∀ kind, Pool.start? (Gateway.poolSpec g.config who.host kind) (numbers kind)
          = some (pools.get kind))
        ∧ g'.tenants
          = g.tenants ++ [{ credentials := who, pools := pools, lastUsed := g.clock }] := by
  rcases Gateway.resolve_inv h with ⟨-, hr, -⟩ | ⟨-, t', hfind, hr, -⟩
    | ⟨-, -, ⟨-, hr, -⟩ | ⟨-, hr, pools, n, hstart, rfl⟩⟩
  · cases hr
  · cases hr
    have hkey := (Gateway.registered_of_find? hfind).2
    unfold Gateway.key? Gateway.account? at hkey
    rw [List.getElem?_eq_none hfirst] at hkey
    cases hkey
  · cases hr
  · cases hr
    obtain ⟨numbers, hpools⟩ := Gateway.startPools_eq hstart
    exact ⟨rfl, rfl, rfl, numbers, pools, hpools, rfl⟩

/-- A resolve that fails leaves the roll as it is. -/
theorem resolve_failed {e : Fault} (h : g.resolve who = (.error e, g')) :
    g'.config = g.config ∧ g'.registered = g.registered ∧ g'.tenants = g.tenants := by
  rcases Gateway.resolve_inv h with ⟨-, -, rfl⟩ | ⟨-, t, -, hr, -⟩
    | ⟨-, -, ⟨-, -, n, rfl⟩ | ⟨-, hr, -⟩⟩
  · exact ⟨rfl, rfl, rfl⟩
  · cases hr
  · exact ⟨rfl, rfl, rfl⟩
  · cases hr

theorem length_update {f : Tenant → Tenant} : (g.update t f).tenants.length = g.tenants.length :=
  List.length_modify ..

end

-- =========================================================== the tenants

/-- A tenant with its dispatcher, and what has happened to them. -/
structure Staffed (deeds : List (Deed Work Response)) (times : List Timestamp)
    (x : Tenant) (d : Dispatcher Work Response) : Prop where
  run : ∃ (specs : PoolKind → PoolSpec) (numbers : PoolKind → Nat)
    (pools : PoolKind → Pool Work Response),
    (∀ kind, Pool.start? (specs kind) (numbers kind) = some (pools kind))
      ∧ Dispatch.Run pools deeds d
  inFlight : x.inFlight = d.inFlight
  used : times.getLast? = some x.lastUsed

/-- Tenants and dispatchers go together, and of a tenant to come nothing is
known. -/
def StaffedAt (log : List Act) (s : Floor) (t : Nat) : Prop :=
  (∃ x d, s.gateway.tenants[t]? = some x ∧ s.crews[t]? = some d
      ∧ Staffed (deedsOf t log) (uses t log) x d)
    ∨ (s.gateway.tenants[t]? = none ∧ s.crews[t]? = none
      ∧ deedsOf t log = [] ∧ uses t log = [])

section

variable {log : List Act} {s s' : Floor} {a : Act} {t n : Nat} {start : Gateway}

/-- What is nothing to a tenant leaves it as it is. -/
theorem StaffedAt.keep (h : StaffedAt log s t) (hdeeds : deedsOf t [a] = [])
    (huses : uses t [a] = []) (htenants : s'.gateway.tenants[t]? = s.gateway.tenants[t]?)
    (hcrews : s'.crews[t]? = s.crews[t]?) : StaffedAt (log ++ [a]) s' t := by
  unfold StaffedAt
  rw [deedsOf_append, uses_append, hdeeds, huses, List.append_nil, List.append_nil, htenants,
    hcrews]
  exact h

/-- The tenant is marked as used. -/
theorem StaffedAt.touch (h : StaffedAt log s t) {x : Tenant}
    (hx : s.gateway.tenants[t]? = some x) (hdeeds : deedsOf t [a] = [])
    (huses : uses t [a] = [s.gateway.clock])
    (htenants : s'.gateway.tenants[t]? = some { x with lastUsed := s.gateway.clock })
    (hcrews : s'.crews[t]? = s.crews[t]?) : StaffedAt (log ++ [a]) s' t := by
  rcases h with ⟨y, d, hy, hd, hstaffed⟩ | ⟨hnone, -⟩
  · obtain rfl := Option.some.inj (hy.symm.trans hx)
    refine .inl ⟨_, d, htenants, hcrews.trans hd, ?_, hstaffed.inFlight, ?_⟩
    · rw [deedsOf_append, hdeeds, List.append_nil]
      exact hstaffed.run
    · rw [uses_append, huses]
      exact List.getLast?_concat
  · rw [hnone] at hx
    cases hx

/-- The dispatcher of the tenant takes a step. -/
theorem StaffedAt.withCrew (h : StaffedAt log s t) {deed : Deed Work Response}
    {d d' : Dispatcher Work Response} (hd : s.crews[t]? = some d)
    (hstep : Dispatch.Step d deed d')
    (htenants : s'.gateway.tenants = (s.withCrew t d').gateway.tenants)
    (hcrews : s'.crews = (s.withCrew t d').crews) : StaffedAt (log ++ [.did t deed]) s' t := by
  rcases h with ⟨x, e, hx, he, hstaffed⟩ | ⟨-, hnone, -⟩
  · obtain rfl := Option.some.inj (he.symm.trans hd)
    have hlt : t < s.crews.length := (List.getElem?_eq_some_iff.1 hd).1
    refine .inl ⟨{ x with inFlight := d'.inFlight, pools := poolsOf d' }, d', ?_, ?_, ?_, rfl, ?_⟩
    · rw [htenants]
      unfold Floor.withCrew
      rw [Gateway.getElem?_update, hx]
      simp
    · rw [hcrews]
      exact List.getElem?_set_self hlt
    · obtain ⟨specs, numbers, pools, hstart, hrun⟩ := hstaffed.run
      rw [deedsOf_append, deedsOf_self]
      exact ⟨specs, numbers, pools, hstart, hrun.step hstep⟩
    · rw [uses_append]
      exact (congrArg List.getLast? (List.append_nil _)).trans hstaffed.used
  · rw [hnone] at hd
    cases hd

/-- One tenant goes on by a deed of its own, and the others stay as they are. -/
theorem staffedAt_withCrew (h : ∀ t, StaffedAt log s t) {deed : Deed Work Response}
    {d d' : Dispatcher Work Response} (hd : s.crews[t]? = some d)
    (hstep : Dispatch.Step d deed d')
    (htenants : s'.gateway.tenants = (s.withCrew t d').gateway.tenants)
    (hcrews : s'.crews = (s.withCrew t d').crews) (n : Nat) :
    StaffedAt (log ++ [.did t deed]) s' n := by
  by_cases hsame : t = n
  · subst hsame
    exact (h t).withCrew hd hstep htenants hcrews
  · refine (h n).keep (deedsOf_other hsame) rfl ?_ ?_
    · rw [htenants]
      unfold Floor.withCrew
      rw [Gateway.getElem?_update]
      simp [hsame]
    · rw [hcrews]
      exact List.getElem?_set_ne hsame

/-- A tenant that is used is used at the time of the clock. -/
theorem staffedAt_touch (h : ∀ t, StaffedAt log s t) (hdeeds : ∀ n, deedsOf n [a] = [])
    (huses : ∀ n, uses n [a] = if t = n then [s.gateway.clock] else [])
    (htenants : s'.gateway.tenants = (s.gateway.touch t).tenants)
    (hcrews : s'.crews = s.crews) (hlt : t < s.gateway.tenants.length) (n : Nat) :
    StaffedAt (log ++ [a]) s' n := by
  have htouch : s'.gateway.tenants[n]? = s.gateway.tenants[n]?.map fun x =>
      if t = n then { x with lastUsed := s.gateway.clock } else x := by
    rw [htenants]
    exact Gateway.getElem?_update ..
  by_cases hsame : t = n
  · subst hsame
    have hx : s.gateway.tenants[t]? = some s.gateway.tenants[t] := List.getElem?_eq_getElem hlt
    refine (h t).touch hx (hdeeds t) ((huses t).trans (if_pos rfl)) ?_ (by rw [hcrews])
    rw [htouch, hx]
    simp
  · refine (h n).keep (hdeeds n) ((huses n).trans (if_neg hsame)) ?_ (by rw [hcrews])
    rw [htouch]
    simp [hsame]

end

-- ============================================================ the calls

/-- What is known of the calls that are on the way, and of those that were
admitted. -/
structure Calling (log : List Act) (s : Floor) : Prop where
  known : ∀ c ∈ s.callers, c.tenant < s.gateway.tenants.length
  found : ∀ c ∈ s.callers, ∃ time, .resolved c.call c.tenant time ∈ log
  numbered : ∀ c ∈ s.callers, c.call ∈ s.calls
  distinct : (s.callers.map Caller.call).Nodup
  admitted : ∀ t kind item, .did t (.admitted kind item) ∈ log →
    (∃ time, .resolved item.ticket t time ∈ log) ∧ item.ticket ∈ s.calls
      ∧ item.ticket ∉ s.callers.map Caller.call

section

variable {log : List Act} {s s' : Floor} {a : Act} {t call : Nat}
  {front back : List Caller}

/-- Whoever comes next without a new call, those on the way stay or get
less. -/
theorem Calling.keep (h : Calling log s)
    (htenants : s'.gateway.tenants.length = s.gateway.tenants.length)
    (hcallers : s'.callers.Sublist s.callers) (hcalls : s'.calls = s.calls)
    (hadmitted : ∀ t kind item, a = .did t (.admitted kind item) →
      (∃ time, .resolved item.ticket t time ∈ log) ∧ item.ticket ∈ s.calls
        ∧ item.ticket ∉ s'.callers.map Caller.call) : Calling (log ++ [a]) s' := by
  refine ⟨?_, ?_, ?_, h.distinct.sublist (hcallers.map _), ?_⟩
  · rw [htenants]
    exact fun c hc => h.known c (hcallers.subset hc)
  · intro c hc
    obtain ⟨time, hmem⟩ := h.found c (hcallers.subset hc)
    exact ⟨time, List.mem_append_left _ hmem⟩
  · rw [hcalls]
    exact fun c hc => h.numbered c (hcallers.subset hc)
  · intro t kind item hmem
    rw [hcalls]
    rcases List.mem_append.1 hmem with hold | hlast
    · obtain ⟨⟨time, hfound⟩, hnumber, hgone⟩ := h.admitted t kind item hold
      exact ⟨⟨time, List.mem_append_left _ hfound⟩, hnumber, fun hmem =>
        hgone ((hcallers.map _).subset hmem)⟩
    · obtain ⟨⟨time, hfound⟩, hrest⟩ :=
        hadmitted t kind item (List.mem_singleton.1 hlast).symm
      exact ⟨⟨time, List.mem_append_left _ hfound⟩, hrest⟩

/-- A new call has a number of its own. -/
theorem Calling.resolve (h : Calling log s) {time : Timestamp} (hnew : call ∉ s.calls)
    (hlength : s.gateway.tenants.length ≤ s'.gateway.tenants.length)
    (ht : t < s'.gateway.tenants.length)
    (hcallers : s'.callers = s.callers ++ [⟨call, t, false⟩])
    (hcalls : s'.calls = call :: s.calls) :
    Calling (log ++ [.resolved call t time]) s' := by
  have hapart : call ∉ s.callers.map Caller.call := by
    intro hmem
    obtain ⟨c, hc, rfl⟩ := List.mem_map.1 hmem
    exact hnew (h.numbered c hc)
  have hmem : ∀ c, c ∈ s'.callers → c ∈ s.callers ∨ c = ⟨call, t, false⟩ := by
    intro c hc
    rw [hcallers, List.mem_append, List.mem_singleton] at hc
    exact hc
  refine ⟨?_, ?_, ?_, ?_, ?_⟩
  · intro c hc
    rcases hmem c hc with hc | rfl
    · exact (h.known c hc).trans_le hlength
    · exact ht
  · intro c hc
    rcases hmem c hc with hc | rfl
    · obtain ⟨time, hfound⟩ := h.found c hc
      exact ⟨time, List.mem_append_left _ hfound⟩
    · exact ⟨time, List.mem_append_right _ (List.mem_singleton.2 rfl)⟩
  · intro c hc
    rw [hcalls]
    rcases hmem c hc with hc | rfl
    · exact List.mem_cons_of_mem _ (h.numbered c hc)
    · exact List.mem_cons_self ..
  · rw [hcallers, List.map_append]
    refine List.nodup_append.2 ⟨h.distinct, List.pairwise_singleton .., ?_⟩
    intro n hn m hm heq
    have hm : m = call := List.mem_singleton.1 hm
    exact hapart (hm ▸ heq ▸ hn)
  · intro t' kind item hdid
    rcases List.mem_append.1 hdid with hold | hlast
    · obtain ⟨⟨time, hfound⟩, hnumber, hgone⟩ := h.admitted t' kind item hold
      refine ⟨⟨time, List.mem_append_left _ hfound⟩, ?_, ?_⟩
      · rw [hcalls]
        exact List.mem_cons_of_mem _ hnumber
      · rw [hcallers, List.map_append, List.mem_append, not_or]
        refine ⟨hgone, fun hlast => hnew ?_⟩
        obtain rfl : item.ticket = call := List.mem_singleton.1 hlast
        exact hnumber
    · cases List.mem_singleton.1 hlast

/-- A call stays on the way when it has marked its tenant: only the mark at it
changes. -/
theorem Calling.submit (h : Calling log s) {time : Timestamp}
    (hcaller : s.callers = front ++ ⟨call, t, false⟩ :: back)
    (htenants : s'.gateway.tenants.length = s.gateway.tenants.length)
    (hcallers : s'.callers = front ++ ⟨call, t, true⟩ :: back) (hcalls : s'.calls = s.calls) :
    Calling (log ++ [.submitted call t time]) s' := by
  have hsame : ∀ c ∈ s'.callers, ∃ c' ∈ s.callers, c'.call = c.call ∧ c'.tenant = c.tenant := by
    intro c hc
    rw [hcallers] at hc
    rw [hcaller]
    simp only [List.mem_append, List.mem_cons] at hc ⊢
    rcases hc with hc | rfl | hc
    · exact ⟨c, .inl hc, rfl, rfl⟩
    · exact ⟨_, .inr (.inl rfl), rfl, rfl⟩
    · exact ⟨c, .inr (.inr hc), rfl, rfl⟩
  have hnumbers : s'.callers.map Caller.call = s.callers.map Caller.call := by
    rw [hcallers, hcaller, List.map_append, List.map_append]
    rfl
  refine ⟨?_, ?_, ?_, ?_, ?_⟩
  · intro c hc
    obtain ⟨c', hc', -, htenant⟩ := hsame c hc
    rw [htenants, ← htenant]
    exact h.known c' hc'
  · intro c hc
    obtain ⟨c', hc', hcall, htenant⟩ := hsame c hc
    obtain ⟨time, hfound⟩ := h.found c' hc'
    exact ⟨time, List.mem_append_left _ (hcall ▸ htenant ▸ hfound)⟩
  · intro c hc
    obtain ⟨c', hc', hcall, -⟩ := hsame c hc
    rw [hcalls, ← hcall]
    exact h.numbered c' hc'
  · rw [hnumbers]
    exact h.distinct
  · intro t' kind item hdid
    rw [hnumbers, hcalls]
    rcases List.mem_append.1 hdid with hold | hlast
    · obtain ⟨⟨time, hfound⟩, hrest⟩ := h.admitted t' kind item hold
      exact ⟨⟨time, List.mem_append_left _ hfound⟩, hrest⟩
    · cases List.mem_singleton.1 hlast

/-- A call that is admitted is on the way no more. -/
theorem Calling.not_mem_without (h : Calling log s)
    (hcaller : s.callers = front ++ ⟨call, t, true⟩ :: back) :
    call ∉ (front ++ back).map Caller.call := by
  have hdistinct := h.distinct
  rw [hcaller] at hdistinct
  have hperm : ((front ++ ⟨call, t, true⟩ :: back).map Caller.call).Perm
      (call :: (front ++ back).map Caller.call) := List.perm_middle.map Caller.call
  exact (List.nodup_cons.1 (hperm.nodup hdistinct)).1

/-- Whoever is between resolve and answer stays known over a step. -/
theorem Calling.step (h : Calling log s) (hstep : Step s a s') : Calling (log ++ [a]) s' := by
  cases hstep with
  | tick => exact h.keep rfl (.refl _) rfl nofun
  | sweep => exact h.keep rfl (.refl _) rfl nofun
  | fail hresolve =>
      exact h.keep (congrArg List.length (resolve_failed hresolve).2.2) (.refl _) rfl nofun
  | @find call t who g hnew hresolve hold =>
      obtain ⟨-, rfl⟩ := resolve_found hresolve hold
      exact h.resolve hnew length_update.ge (hold.trans_eq length_update.symm) rfl rfl
  | @make call t who g x hnew hresolve hfirst hx =>
      obtain ⟨rfl, -, -, numbers, pools, -, htenants⟩ := resolve_made hresolve hfirst
      have hlength : g.tenants.length = s.gateway.tenants.length + 1 := by simp [htenants]
      exact h.resolve hnew (by simp [hlength]) (by simp [hlength]) rfl rfl
  | submit hcaller => exact h.submit hcaller length_update rfl rfl
  | @enter t kind item front back d d' hcaller hd hcrew =>
      have hmem : ⟨item.ticket, t, true⟩ ∈ s.callers := by simp [hcaller]
      refine h.keep length_update (by simp [hcaller]) rfl ?_
      intro t' kind' item' heq
      cases heq
      exact ⟨h.found _ hmem, h.numbered _ hmem, h.not_mem_without hcaller⟩
  | reject hcaller hd hcrew => exact h.keep length_update (by simp [hcaller]) rfl nofun
  | shut htaken hd hcrew => exact h.keep length_update (.refl _) rfl nofun
  | inner hinner hd hcrew =>
      refine h.keep length_update (.refl _) rfl ?_
      intro t kind item heq
      cases heq
      cases hinner

end

-- ============================================================ the sweeps

/-- What is known of the tenants that are registered, and of those that have
been taken out. -/
structure Rolled (log : List Act) (s : Floor) : Prop where
  registered : ∀ t ∈ s.gateway.registered, t < s.gateway.tenants.length ∧ t ∉ s.taken
  taken : ∀ t ∈ s.taken, t < s.gateway.tenants.length
    ∧ ∃ now ts, .swept now ts ∈ log ∧ t ∈ ts
  swept : ∀ now ts, .swept now ts ∈ log → ∀ t ∈ ts, t ∈ s.taken
  shut : ∀ t kind, .did t (.lane kind .shutDown) ∈ log → t ∈ s.taken
  /-- What has been taken out is found no more. -/
  lost : log.Pairwise fun a b => ∀ now ts, a = .swept now ts → ∀ t ∈ ts,
    ∀ call time, b ≠ .resolved call t time

section

variable {log : List Act} {s s' : Floor} {a : Act} {t call : Nat}

/-- Without a sweep. -/
theorem Rolled.keep (h : Rolled log s)
    (hlength : s.gateway.tenants.length ≤ s'.gateway.tenants.length)
    (hregistered : ∀ t ∈ s'.gateway.registered, t ∈ s.gateway.registered
      ∨ (s.gateway.tenants.length ≤ t ∧ t < s'.gateway.tenants.length))
    (htaken : s'.taken = s.taken) (hsweep : ∀ now ts, a ≠ .swept now ts)
    (hresolved : ∀ call t time, a = .resolved call t time → t ∉ s.taken)
    (hshut : ∀ t kind, a = .did t (.lane kind .shutDown) → t ∈ s.taken) :
    Rolled (log ++ [a]) s' := by
  refine ⟨?_, ?_, ?_, ?_, ?_⟩
  · intro t ht
    rw [htaken]
    rcases hregistered t ht with hold | ⟨hle, hlt⟩
    · obtain ⟨hlt, hnot⟩ := h.registered t hold
      exact ⟨hlt.trans_le hlength, hnot⟩
    · exact ⟨hlt, fun hmem => Nat.not_lt.2 hle (h.taken t hmem).1⟩
  · rw [htaken]
    intro t ht
    obtain ⟨hlt, now, ts, hswept, hmem⟩ := h.taken t ht
    exact ⟨hlt.trans_le hlength, now, ts, List.mem_append_left _ hswept, hmem⟩
  · rw [htaken]
    intro now ts hmem
    rcases List.mem_append.1 hmem with hold | hlast
    · exact h.swept now ts hold
    · exact absurd (List.mem_singleton.1 hlast).symm (hsweep now ts)
  · rw [htaken]
    intro t kind hmem
    rcases List.mem_append.1 hmem with hold | hlast
    · exact h.shut t kind hold
    · exact hshut t kind (List.mem_singleton.1 hlast).symm
  · refine List.pairwise_append.2 ⟨h.lost, List.pairwise_singleton .., ?_⟩
    intro b hb c hc now ts hb' t ht call time hc'
    subst hb' hc'
    exact hresolved call t time (List.mem_singleton.1 hc).symm (h.swept now ts hb t ht)

/-- A sweep takes out what it finds idle. -/
theorem Rolled.sweep (h : Rolled log s) {now : Timestamp}
    (htenants : s'.gateway.tenants = s.gateway.tenants)
    (hregistered : s'.gateway.registered
      = s.gateway.registered.filter fun t => !s.gateway.isIdle now t)
    (htaken : s'.taken = s.gateway.idleAt now ++ s.taken) :
    Rolled (log ++ [.swept now (s.gateway.idleAt now)]) s' := by
  refine ⟨?_, ?_, ?_, ?_, ?_⟩
  · intro t ht
    rw [hregistered, List.mem_filter] at ht
    obtain ⟨hlt, hnot⟩ := h.registered t ht.1
    rw [htenants, htaken, List.mem_append, not_or]
    refine ⟨hlt, fun hidle => ?_, hnot⟩
    have hused := ht.2
    rw [(List.mem_filter.1 hidle).2] at hused
    cases hused
  · intro t ht
    rw [htenants]
    rw [htaken] at ht
    rcases List.mem_append.1 ht with hidle | hold
    · exact ⟨(h.registered t (List.mem_filter.1 hidle).1).1, now, _,
        List.mem_append_right _ (List.mem_singleton.2 rfl), hidle⟩
    · obtain ⟨hlt, now', ts, hswept, hmem⟩ := h.taken t hold
      exact ⟨hlt, now', ts, List.mem_append_left _ hswept, hmem⟩
  · intro now' ts hmem t ht
    rw [htaken]
    rcases List.mem_append.1 hmem with hold | hlast
    · exact List.mem_append_right _ (h.swept now' ts hold t ht)
    · cases List.mem_singleton.1 hlast
      exact List.mem_append_left _ ht
  · intro t kind hmem
    rw [htaken]
    rcases List.mem_append.1 hmem with hold | hlast
    · exact List.mem_append_right _ (h.shut t kind hold)
    · cases List.mem_singleton.1 hlast
  · refine List.pairwise_append.2 ⟨h.lost, List.pairwise_singleton .., ?_⟩
    intro b hb c hc now' ts hb' t ht call time hc'
    rw [List.mem_singleton.1 hc] at hc'
    cases hc'

/-- Who has been registered and taken out is in the log after every step. -/
theorem Rolled.step (h : Rolled log s) (hstep : Step s a s') : Rolled (log ++ [a]) s' := by
  cases hstep with
  | tick => exact h.keep (Nat.le_refl _) (fun _ => .inl) rfl nofun nofun nofun
  | sweep => exact h.sweep rfl rfl rfl
  | fail hresolve =>
      obtain ⟨-, hregistered, htenants⟩ := resolve_failed hresolve
      exact h.keep (congrArg List.length htenants).ge (fun t ht => .inl (hregistered ▸ ht)) rfl
        nofun nofun nofun
  | @find call t who g hnew hresolve hold =>
      obtain ⟨hregistered, rfl⟩ := resolve_found hresolve hold
      refine h.keep length_update.ge (fun _ => .inl) rfl nofun ?_ nofun
      intro call' t' time heq
      cases heq
      exact (h.registered t hregistered).2
  | @make call t who g x hnew hresolve hfirst hx =>
      obtain ⟨rfl, -, hregistered, numbers, pools, -, htenants⟩ := resolve_made hresolve hfirst
      have hlength : g.tenants.length = s.gateway.tenants.length + 1 := by simp [htenants]
      refine h.keep (by simp [hlength]) ?_ rfl nofun ?_ nofun
      · intro t ht
        rw [hregistered] at ht
        rcases List.mem_cons.1 ht with rfl | ht
        · exact .inr ⟨Nat.le_refl _, by simp [hlength]⟩
        · exact .inl ht
      · intro call' t' time heq hmem
        cases heq
        exact Nat.lt_irrefl _ (h.taken _ hmem).1
  | submit hcaller => exact h.keep length_update.ge (fun _ => .inl) rfl nofun nofun nofun
  | enter hcaller hd hcrew => exact h.keep length_update.ge (fun _ => .inl) rfl nofun nofun nofun
  | reject hcaller hd hcrew => exact h.keep length_update.ge (fun _ => .inl) rfl nofun nofun nofun
  | shut htaken hd hcrew =>
      refine h.keep length_update.ge (fun _ => .inl) rfl nofun nofun ?_
      intro t kind heq
      cases heq
      exact htaken
  | inner hinner hd hcrew =>
      refine h.keep length_update.ge (fun _ => .inl) rfl nofun nofun ?_
      intro t kind heq
      cases heq
      cases hinner

end

-- ========================================================= the invariant

/-- What holds of the floor at every point. -/
structure Sound (start : Gateway) (log : List Act) (s : Floor) : Prop where
  config : s.gateway.config = start.config
  listed : s.gateway.Listed
  staffed : ∀ t, StaffedAt log s t
  calling : Calling log s
  rolled : Rolled log s

section

variable {start : Gateway} {log more : List Act} {s s' : Floor} {a : Act} {t n call : Nat}

/-- No step changes the settings. -/
theorem Step.config (h : Step s a s') : s'.gateway.config = s.gateway.config := by
  cases h with
  | fail hresolve => exact (resolve_failed hresolve).1
  | @find call t who g hnew hresolve hold =>
      obtain ⟨-, rfl⟩ := resolve_found hresolve hold
      rfl
  | make hnew hresolve hfirst hx => exact (resolve_made hresolve hfirst).2.1
  | tick | submit | enter | reject | sweep | shut | inner => rfl

/-- Work does not change the roll. -/
theorem sameRoll_withCrew {d : Dispatcher Work Response} :
    Gateway.SameRoll s.gateway (s.withCrew t d).gateway :=
  Gateway.sameRoll_update fun _ => rfl

/-- The registry keeps one tenant for each key. -/
theorem Step.listed (h : Step s a s') (hlisted : s.gateway.Listed) : s'.gateway.Listed := by
  cases h with
  | tick => exact hlisted.congr ⟨rfl, rfl, rfl, rfl, rfl⟩
  | find hnew hresolve hold =>
      exact (hlisted.step (.resolve hresolve)).congr ⟨rfl, rfl, rfl, rfl, rfl⟩
  | make hnew hresolve hfirst hx =>
      exact (hlisted.step (.resolve hresolve)).congr ⟨rfl, rfl, rfl, rfl, rfl⟩
  | fail hresolve => exact hlisted.step (.resolveFails hresolve)
  | submit hcaller => exact hlisted.congr (Gateway.sameRoll_update fun _ => rfl)
  | sweep now halive => exact hlisted.sublist List.filter_sublist
  | enter hcaller hd hcrew => exact hlisted.congr sameRoll_withCrew
  | reject hcaller hd hcrew => exact hlisted.congr sameRoll_withCrew
  | shut htaken hd hcrew => exact hlisted.congr sameRoll_withCrew
  | inner hinner hd hcrew => exact hlisted.congr sameRoll_withCrew

/-- Every tenant has a crew. -/
theorem length_crews (h : ∀ t, StaffedAt log s t) :
    s.crews.length = s.gateway.tenants.length := by
  refine Nat.le_antisymm (Nat.le_of_not_lt fun hlt => ?_) (Nat.le_of_not_lt fun hlt => ?_)
  · rcases h s.gateway.tenants.length with ⟨x, d, hx, -⟩ | ⟨-, hnone, -⟩
    · exact Nat.lt_irrefl _ (List.getElem?_eq_some_iff.1 hx).1
    · exact absurd hlt (Nat.not_lt.2 (List.getElem?_eq_none_iff.1 hnone))
  · rcases h s.crews.length with ⟨x, d, -, hd, -⟩ | ⟨hnone, -⟩
    · exact Nat.lt_irrefl _ (List.getElem?_eq_some_iff.1 hd).1
    · exact absurd hlt (Nat.not_lt.2 (List.getElem?_eq_none_iff.1 hnone))

theorem uses_resolved (call t : Nat) (time : Timestamp) (n : Nat) :
    uses n [.resolved call t time] = if t = n then [time] else [] := by
  by_cases h : t = n <;> simp [uses, h]

theorem uses_submitted (call t : Nat) (time : Timestamp) (n : Nat) :
    uses n [.submitted call t time] = if t = n then [time] else [] := by
  by_cases h : t = n <;> simp [uses, h]

theorem getElem?_concat_of_ne {α : Type} {l : List α} {x : α} (h : l.length ≠ n) :
    (l ++ [x])[n]? = l[n]? := by
  rcases Nat.lt_or_gt_of_ne h with hlt | hlt
  · rw [List.getElem?_eq_none (by simp; omega), List.getElem?_eq_none (Nat.le_of_lt hlt)]
  · exact List.getElem?_append_left hlt

/-- A tenant that is made, with the others as they were. -/
theorem staffedAt_make (h : ∀ t, StaffedAt log s t) {who : Credentials}
    {host : String} {config : Config} {numbers : PoolKind → Nat} {pools : TenantPools}
    (hpools : ∀ kind, Pool.start? (Gateway.poolSpec config host kind) (numbers kind)
      = some (pools.get kind))
    (htenants : s'.gateway.tenants = s.gateway.tenants
      ++ [{ credentials := who, pools := pools, lastUsed := s.gateway.clock }])
    (hcrews : s'.crews = s.crews ++ [newCrew pools]) (n : Nat) :
    StaffedAt (log ++ [.resolved call s.gateway.tenants.length s.gateway.clock]) s' n := by
  have hlength := length_crews h
  by_cases hsame : s.gateway.tenants.length = n
  · subst hsame
    rcases h s.gateway.tenants.length with ⟨x, d, hx, -⟩ | ⟨-, -, hdeeds, huses⟩
    · exact absurd (List.getElem?_eq_some_iff.1 hx).1 (Nat.lt_irrefl _)
    · refine .inl ⟨{ credentials := who, pools := pools, lastUsed := s.gateway.clock },
        newCrew pools, ?_, ?_, ⟨⟨_, numbers, _, hpools, ?_⟩, rfl, ?_⟩⟩
      · rw [htenants]
        exact List.getElem?_concat_length
      · rw [hcrews, ← hlength]
        exact List.getElem?_concat_length
      · rw [deedsOf_append, hdeeds]
        exact .start
      · rw [uses_append, huses, uses_resolved, if_pos rfl]
        rfl
  · refine (h n).keep rfl ((uses_resolved ..).trans (if_neg hsame)) ?_ ?_
    · rw [htenants, getElem?_concat_of_ne hsame]
    · rw [hcrews, getElem?_concat_of_ne (hlength.trans_ne hsame)]

/-- Whoever comes next, tenants and dispatchers go together. -/
theorem Step.staffed (hstep : Step s a s') (h : ∀ t, StaffedAt log s t)
    (hcalling : Calling log s) : ∀ t, StaffedAt (log ++ [a]) s' t := by
  cases hstep with
  | tick => exact fun n => (h n).keep rfl rfl rfl rfl
  | sweep => exact fun n => (h n).keep rfl rfl rfl rfl
  | fail hresolve =>
      obtain ⟨-, -, htenants⟩ := resolve_failed hresolve
      exact fun n => (h n).keep rfl rfl (congrArg (·[n]?) htenants) rfl
  | @find call t who g hnew hresolve hold =>
      obtain ⟨-, rfl⟩ := resolve_found hresolve hold
      exact staffedAt_touch h (fun _ => rfl) (fun n => uses_resolved ..) rfl rfl hold
  | @make call t who g x hnew hresolve hfirst hx =>
      obtain ⟨rfl, -, -, numbers, pools, hpools, htenants⟩ := resolve_made hresolve hfirst
      rw [htenants, List.getElem?_concat_length] at hx
      obtain rfl := Option.some.inj hx
      exact staffedAt_make h hpools htenants rfl
  | @submit call t front back hcaller =>
      have hknown := hcalling.known ⟨call, t, false⟩ (by simp [hcaller])
      exact staffedAt_touch h (fun _ => rfl) (fun n => uses_submitted ..) rfl rfl hknown
  | enter hcaller hd hcrew => exact staffedAt_withCrew h hd hcrew rfl rfl
  | reject hcaller hd hcrew => exact staffedAt_withCrew h hd hcrew rfl rfl
  | shut htaken hd hcrew => exact staffedAt_withCrew h hd hcrew rfl rfl
  | inner hinner hd hcrew => exact staffedAt_withCrew h hd hcrew rfl rfl

/-- What holds of the floor holds after every step. -/
theorem Sound.step (h : Sound start log s) (hstep : Step s a s') :
    Sound start (log ++ [a]) s' :=
  ⟨hstep.config.trans h.config, hstep.listed h.listed, hstep.staffed h.staffed h.calling,
    h.calling.step hstep, h.rolled.step hstep⟩

/-- So it holds at every point of every run. -/
theorem Run.sound {config : Config} {clock : Timestamp} {overflow : Overflow}
    (hcreate : Gateway.create config clock overflow = .ok start) (h : Run start log s) :
    Sound start log s := by
  induction h with
  | start =>
      have hlisted := Gateway.listed_create hcreate
      obtain rfl := Gateway.create_eq hcreate
      refine ⟨rfl, hlisted, fun t => .inr ⟨rfl, rfl, rfl, rfl⟩,
        ⟨nofun, nofun, nofun, .nil, nofun⟩, ?_⟩
      exact ⟨nofun, nofun, nofun, nofun, .nil⟩
  | step _ hstep ih => exact ih.step hstep

/-- The last act of a run is a step from what came before it. -/
theorem Run.of_concat (h : Run start (log ++ [a]) s) : ∃ s₀, Run start log s₀ ∧ Step s₀ a s := by
  generalize hall : log ++ [a] = all at h
  cases h with
  | start => simp at hall
  | step h hstep =>
      obtain ⟨rfl, hlast⟩ := List.append_inj' hall rfl
      cases hlast
      exact ⟨_, h, hstep⟩

/-- What has happened up to some point could have been everything. -/
theorem Run.initial (h : Run start (log ++ more) s) : ∃ s₀, Run start log s₀ := by
  induction more using List.reverseRecOn generalizing s with
  | nil =>
      rw [List.append_nil] at h
      exact ⟨s, h⟩
  | append_singleton more last ih =>
      rw [← List.append_assoc] at h
      obtain ⟨s₀, h₀, -⟩ := h.of_concat
      exact ih h₀

end

-- ========================================================== the window

section

variable {start : Gateway} {config : Config} {clock : Timestamp} {overflow : Overflow}
  {log before after more : List Act} {s s' : Floor} {t call : Nat} {kind : PoolKind} {name : String}
  {now : Timestamp} {ts : List Nat}

/-- A tenant that a sweep takes has nothing in flight and has not been used for too
long. -/
theorem of_mem_idleAt {g : Gateway} {x : Tenant} (ht : t ∈ g.idleAt now)
    (hx : g.tenants[t]? = some x) :
    x.inFlight.size = 0 ∧ g.config.tenantIdleTimeout < x.lastUsed.elapsedMs now := by
  have hidle := (List.mem_filter.1 ht).2
  unfold Gateway.isIdle at hidle
  rw [hx] at hidle
  simpa using hidle

/-- With nothing in flight every admission has been released. -/
theorem Staffed.settled {deeds : List (Deed Work Response)} {times : List Timestamp}
    {x : Tenant} {d : Dispatcher Work Response} (h : Staffed deeds times x d)
    (hnothing : x.inFlight.size = 0) : ∀ c ∈ admissions deeds, c ∈ releases deeds := by
  obtain ⟨specs, numbers, pools, hstart, hrun⟩ := h.run
  have hledger := hrun.ledger fun kind => (Pool.start?_eq (hstart kind)).1
  rw [h.inFlight] at hnothing
  intro c hc
  by_contra hopen
  have hholds := (hledger.holds_iff c.2).2 ⟨c.1, hc, hopen⟩
  rw [(InFlight.size_eq_zero_iff _).1 hnothing] at hholds
  cases hholds

/-- What a sweep takes out has nothing in flight, and was not used for longer
than the idle timeout. -/
theorem idle_of_swept (hcreate : Gateway.create config clock overflow = .ok start)
    (h : Run start (before ++ .swept now ts :: after) s) (ht : t ∈ ts) :
    (∀ c ∈ admissions (deedsOf t before), c ∈ releases (deedsOf t before))
      ∧ ∃ used, (uses t before).getLast? = some used
        ∧ start.config.tenantIdleTimeout < used.elapsedMs now := by
  rw [List.append_cons] at h
  obtain ⟨s₁, h₁⟩ := h.initial
  obtain ⟨s₀, h₀, hstep⟩ := h₁.of_concat
  have hsound := h₀.sound hcreate
  have hidle : t ∈ s₀.gateway.idleAt now := by
    cases hstep with
    | sweep => exact ht
  rcases hsound.staffed t with ⟨x, d, hx, -, hstaffed⟩ | ⟨hnone, -⟩
  · obtain ⟨hnothing, helapsed⟩ := of_mem_idleAt hidle hx
    exact ⟨hstaffed.settled hnothing, x.lastUsed, hstaffed.used, hsound.config ▸ helapsed⟩
  · have hlt := (hsound.rolled.registered t (List.mem_filter.1 hidle).1).1
    exact absurd hlt (Nat.not_lt.2 (List.getElem?_eq_none_iff.1 hnone))

/-- Where a call is refused by a pool that is shut down, it is, and the admission of
the call has not been released. -/
theorem Sound.refused (h : Sound start log s)
    (hstep : Step s (.did t (.lane kind (.refused call (.poolShutDown name)))) s') :
    .did t (.lane kind .shutDown) ∈ log
      ∧ ∃ d fp, Dispatch.Ledger (deedsOf t log) d
        ∧ Dispatch.Unreleased (deedsOf t log) (call, fp) := by
  cases hstep with
  | @inner _ _ d d' hinner hd hcrew =>
      rcases h.staffed t with ⟨x, e, -, he, hstaffed⟩ | ⟨-, hnone, -⟩
      · obtain rfl := Option.some.inj (he.symm.trans hd)
        obtain ⟨specs, numbers, pools, hstart, hrun⟩ := hstaffed.run
        obtain ⟨hshut, fp, hopen⟩ := hrun.shut_of_refused hstart hcrew
        have hledger := hrun.ledger fun kind => (Pool.start?_eq (hstart kind)).1
        exact ⟨mem_deedsOf.1 hshut, e, fp, hledger, hopen⟩
      · rw [hnone] at hd
        cases hd

/-- What has been taken out had been found before. -/
theorem Rolled.resolved_before {time : Timestamp}
    (h : Rolled (before ++ .swept now ts :: after) s) (ht : t ∈ ts)
    (hresolved : .resolved call t time ∈ before ++ .swept now ts :: after) :
    .resolved call t time ∈ before := by
  have hlater := (List.pairwise_cons.1 (List.pairwise_append.1 h.lost).2.1).1
  rcases List.mem_append.1 hresolved with hmem | hmem
  · exact hmem
  · rcases List.mem_cons.1 hmem with heq | hmem
    · cases heq
    · exact absurd rfl (hlater _ hmem now ts rfl t ht call time)

/-- An admission that is not released was not made at a time when all had been. -/
theorem not_admitted_before {d : Dispatcher Work Response} {fp : String}
    (hledger : Dispatch.Ledger (deedsOf t (log ++ more)) d)
    (hopen : Dispatch.Unreleased (deedsOf t (log ++ more)) (call, fp))
    (hreleased : ∀ c ∈ admissions (deedsOf t log), c ∈ releases (deedsOf t log))
    (kind : PoolKind) (item : Item Work) (hitem : item.ticket = call) :
    .did t (.admitted kind item) ∉ log := by
  intro hmem
  subst hitem
  have hold := Dispatch.mem_admissions.2 ⟨kind, item, mem_deedsOf.2 hmem, rfl⟩
  rw [deedsOf_append] at hopen hledger
  have heq := List.inj_on_of_nodup_map hledger.distinct
    (Dispatch.mem_admissions_append hold) hopen.1 rfl
  exact hopen.2 (heq ▸ Dispatch.mem_releases_append (hreleased _ hold))

/-- Whoever is refused by a pool that is shut down was overtaken by a sweep. -/
theorem Step.sweptInBetween (hcreate : Gateway.create config clock overflow = .ok start)
    (h : Run start log s)
    (hstep : Step s (.did t (.lane kind (.refused call (.poolShutDown name)))) s') :
    SweptInBetween start.config.tenantIdleTimeout log call t := by
  have hsound := h.sound hcreate
  -- the pool is shut down, so a sweep took the tenant, and the call is admitted
  obtain ⟨hshut, d, fp, hledger, hopen⟩ := hsound.refused hstep
  obtain ⟨-, now, ts, hswept, ht⟩ := hsound.rolled.taken t (hsound.rolled.shut t kind hshut)
  obtain ⟨kind', item, hadmitted, hcall⟩ := Dispatch.mem_admissions.1 hopen.1
  obtain ⟨rfl, rfl⟩ := Prod.mk.inj hcall
  obtain ⟨⟨time, hresolved⟩, -⟩ :=
    hsound.calling.admitted t kind' item (mem_deedsOf.1 hadmitted)
  -- the call had found its tenant before the sweep
  obtain ⟨before, after, rfl⟩ := List.append_of_mem hswept
  obtain ⟨hreleased, used, huses, helapsed⟩ := idle_of_swept hcreate h ht
  obtain ⟨early, wait, rfl⟩ := List.append_of_mem (hsound.rolled.resolved_before ht hresolved)
  refine ⟨early, time, wait, now, ts, after, by simp, ht,
    not_admitted_before hledger hopen hreleased, hreleased, ?_⟩
  have hsince : uses t (.resolved item.ticket t time :: wait) = time :: uses t wait := by
    simp [uses]
  rw [uses_append, hsince, List.getLast?_append, List.getLast?_cons] at huses
  obtain rfl := Option.some.inj huses
  rw [List.getLastD_eq_getLast?]
  exact helapsed

theorem crews_withCrew {d d' : Dispatcher Work Response} (hd : s.crews[t]? = some d) :
    (s.withCrew t d').crews[t]? = some d' :=
  List.getElem?_set_self (List.getElem?_eq_some_iff.1 hd).1

/-- A call that is on the way comes to ask for its admission. -/
theorem Run.submitted (h : Run start log s) {c : Caller} (hc : c ∈ s.callers) :
    ∃ more s' front back, Run start (log ++ more) s' ∧ s'.crews = s.crews
      ∧ s'.callers = front ++ ⟨c.call, c.tenant, true⟩ :: back := by
  obtain ⟨front, back, hcallers⟩ := List.append_of_mem hc
  obtain ⟨call, t, submits⟩ := c
  cases submits with
  | true =>
      refine ⟨[], s, front, back, ?_, rfl, hcallers⟩
      rw [List.append_nil]
      exact h
  | false => exact ⟨_, _, front, back, h.step (.submit hcallers), rfl, rfl⟩

/-- A call that is on the way has not been admitted. -/
theorem Calling.not_mem_tickets (h : Calling log s) {c : Caller} (hc : c ∈ s.callers)
    {pools : PoolKind → Pool Work Response} {d : Dispatcher Work Response}
    (hrun : Dispatch.Run pools (deedsOf c.tenant log) d) : c.call ∉ d.tickets := by
  intro hticket
  obtain ⟨fp, hmem⟩ := hrun.admitted_of_ticket hticket
  obtain ⟨kind, item, hadmitted, hitem⟩ := Dispatch.mem_admissions.1 hmem
  have hcall : item.ticket = c.call := congrArg Prod.fst hitem
  obtain ⟨-, -, hgone⟩ := h.admitted _ kind item (mem_deedsOf.1 hadmitted)
  exact hgone (hcall ▸ List.mem_map_of_mem hc)

/-- Where a sweep would find the tenant of a call idle, the call can come to
be refused. -/
theorem Run.refusable (hcreate : Gateway.create config clock overflow = .ok start)
    (h : Run start log s) {c : Caller} (hc : c ∈ s.callers)
    (halive : s.gateway.poisoned = false) (hidle : c.tenant ∈ s.gateway.idleAt now)
    (kind : PoolKind) (payload : String) (job : Work) :
    ∃ more s' name, Run start (log ++ more) s'
      ∧ .did c.tenant (.admitted kind ⟨c.call, payload, job⟩) ∈ more
      ∧ .did c.tenant (.lane kind (.refused c.call (.poolShutDown name))) ∈ more := by
  have hsound := h.sound hcreate
  rcases hsound.staffed c.tenant with ⟨x, d, hx, hd, hstaffed⟩ | ⟨hnone, -⟩
  · obtain ⟨specs, numbers, pools, hstart, hrun⟩ := hstaffed.run
    have hfresh : ∀ kind, Pool.Fresh (pools kind) := fun kind =>
      (Pool.start?_eq (hstart kind)).1
    have hnothing : d.inFlight.size = 0 := hstaffed.inFlight ▸ (of_mem_idleAt hidle hx).1
    have hnew := hsound.calling.not_mem_tickets hc hrun
    -- the sweep takes the tenant out, and its pool is shut down
    have hshut := Dispatch.Step.move (d := d) kind rfl .shutDown
    have hrun₁ := h.step (.sweep now halive)
    have hrun₂ := hrun₁.step (.shut (List.mem_append_left _ hidle) hd hshut)
    obtain ⟨more, s₃, front, back, hrun₃, hcrews, hcallers⟩ := hrun₂.submitted hc
    have hd₃ := (congrArg (·[c.tenant]?) hcrews).trans (crews_withCrew hd)
    -- then the call is admitted, asks the pool, and is refused
    have hclosed : ((d.setLane kind { d.lanes kind with
        pool := (d.lanes kind).pool.shutDown }).lanes kind).pool.isShutDown = true := by
      rw [Dispatch.lanes_setLane_self]
      rfl
    obtain ⟨d₁, d₂, d₃, name, hadmit, hask, hrefuse⟩ :=
      (hrun.step hshut).refusable hfresh
        (show (⟨c.call, payload, job⟩ : Item Work).ticket ∉ _ from hnew)
        ((InFlight.size_eq_zero_iff _).1 hnothing payload) hclosed
    have hrun₄ := hrun₃.step (.enter hcallers hd₃ hadmit)
    have hrun₅ := hrun₄.step (.inner rfl (crews_withCrew hd₃) hask)
    have hrun₆ := hrun₅.step (.inner rfl (crews_withCrew (crews_withCrew hd₃)) hrefuse)
    simp only [List.append_assoc] at hrun₆
    exact ⟨_, _, name, hrun₆, by simp, by simp⟩
  · have hlt := hsound.calling.known c hc
    exact absurd hlt (Nat.not_lt.2 (List.getElem?_eq_none_iff.1 hnone))

/-- A sweep that came in between has still done so later. -/
theorem SweptInBetween.append {timeout : Nat} (h : SweptInBetween timeout log call t)
    (more : List Act) : SweptInBetween timeout (log ++ more) call t := by
  obtain ⟨early, time, wait, now, ts, late, rfl, hrest⟩ := h
  exact ⟨early, time, wait, now, ts, late ++ more, by simp, hrest⟩

/-- A call is refused by a pool that is shut down only if a sweep took its
tenant out between the time when it found it and its admission; and whenever a
sweep would find the tenant of such a call idle, in a registry that can be swept,
that can happen to it. -/
theorem refused_only_when_swept (hcreate : Gateway.create config clock overflow = .ok start)
    (h : Run start log s) :
    (∀ t kind call name, .did t (.lane kind (.refused call (.poolShutDown name))) ∈ log →
        SweptInBetween config.tenantIdleTimeout log call t)
      ∧ ∀ c ∈ s.callers, ∀ now, s.gateway.poisoned = false →
        c.tenant ∈ s.gateway.idleAt now →
        ∀ (kind : PoolKind) (payload : String) (job : Work),
        ∃ more s' name, Run start (log ++ more) s'
          ∧ .did c.tenant (.admitted kind ⟨c.call, payload, job⟩) ∈ more
          ∧ .did c.tenant (.lane kind (.refused c.call (.poolShutDown name))) ∈ more := by
  have hconfig : start.config = config := by rw [Gateway.create_eq hcreate]
  refine ⟨fun t kind call name hmem => ?_, fun c hc now halive hidle =>
    h.refusable hcreate hc halive hidle⟩
  obtain ⟨before, after, rfl⟩ := List.append_of_mem hmem
  rw [List.append_cons] at h
  obtain ⟨s₁, h₁⟩ := h.initial
  obtain ⟨s₀, h₀, hstep⟩ := h₁.of_concat
  exact hconfig ▸ (hstep.sweptInBetween hcreate h₀).append _

end

-- ========================================================== an example

/-- A gateway whose tenants are idle as soon as a millisecond has passed. -/
def eager : Gateway := { config := { tenantIdleTimeout := 0 }, clock := ⟨0, 0⟩ }

/-- A millisecond after the clock of `eager`. -/
def next : Timestamp := ⟨0, 1000000⟩

/-- A call finds its tenant, the clock moves, and a sweep comes before the
call. -/
theorem refused_after_a_millisecond :
    ∃ log s name, Run eager log s
      ∧ .did 0 (.lane .global (.refused 7 (.poolShutDown name))) ∈ log
      ∧ SweptInBetween 0 log 7 0 := by
  have hcreate : Gateway.create { tenantIdleTimeout := 0 } ⟨0, 0⟩ .panics = .ok eager := rfl
  have hresolve : eager.resolve ⟨"host", "login", "pw"⟩ = (.ok 0, _) := rfl
  have hmake : Step { gateway := eager } (.resolved 7 0 ⟨0, 0⟩) _ :=
    .make nofun hresolve (Nat.le_refl 0) rfl
  have hlater := (Run.start.step hmake).step (.tick next)
  obtain ⟨more, s, name, hrun, -, hmem⟩ := (refused_only_when_swept hcreate hlater).2
    ⟨7, 0, false⟩ (List.mem_singleton.2 rfl) next rfl (by decide) .global "payload"
    ⟨.done none, none⟩
  have hswept := (refused_only_when_swept hcreate hrun).1 0 .global 7 name
    (List.mem_append_right _ hmem)
  exact ⟨_, s, name, hrun, List.mem_append_right _ hmem, hswept⟩

/-- A check of the subsystems. -/
def checkOf (host : String) : Request :=
  ⟨⟨host, "login", "pw"⟩, "listSubsystems", .empty, "payload"⟩

/-- The tenant of a request is swept out between the two halves of its
dispatch, and the request is answered with the error of a pool that is shut
down, by a gateway that nobody has shut down. -/
theorem swept_request_refused :
    ∃ g₁ n g₂, Gateway.create { tenantIdleTimeout := 0 } ⟨0, 0⟩ .panics = .ok eager
      ∧ eager.resolve (checkOf "host").credentials = (.ok 0, g₁)
      ∧ ({ g₁ with clock := next } : Gateway).evictIdle next = (.ok n, g₂)
      ∧ (g₂.dispatchTo 0 (checkOf "host")).1
        = .ofError (.poolShutDown "host-pool-global-1") :=
  ⟨_, 1, _, rfl, rfl, rfl, rfl⟩

end CheckGateway.Eviction
