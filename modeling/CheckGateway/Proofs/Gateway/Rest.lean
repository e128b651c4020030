/-
A request made of a gateway at rest, from its admission to its answer.

At rest nothing is queued, executed or in flight anywhere. A request then has
the gateway for itself: what `settle` does is take its item, run its job, let
go of its fingerprint and deliver, and nothing else (`dispatchTo_eq`). What is
left is the gateway as the job leaves it, with the tenant's pools and filter
as they were before, and one more answer.

The job is run to its end by what is shown of twin programs: nobody else has
a lock, and the program takes none twice.
-/
import CheckGateway.Proofs.Gateway.Alike

namespace CheckGateway

/-- Only one element of a list has a value. -/
theorem findSome?_eq_of_unique {α β : Type} {f : α → Option β} {a : α} {l : List α}
    (ha : a ∈ l) (h : ∀ b ∈ l, b ≠ a → f b = none) : l.findSome? f = f a := by
  induction l with
  | nil => cases ha
  | cons b l ih =>
      have hrest : ∀ b ∈ l, b ≠ a → f b = none := fun b hb => h b (List.mem_cons_of_mem _ hb)
      rw [List.findSome?_cons]
      by_cases heq : b = a
      · subst heq
        cases hb : f b with
        | some v => rfl
        | none =>
            dsimp only
            rw [List.findSome?_eq_none_iff]
            intro c hc
            by_cases hcb : c = b
            · rw [hcb, hb]
            · exact hrest c hc hcb
      · rw [h b List.mem_cons_self heq]
        exact ih ((List.mem_cons.1 ha).resolve_left (Ne.symm heq)) hrest

namespace Gateway

/-- Nothing waits in a pool and nobody works for it. -/
structure Idle (p : Pool Work Response) : Prop where
  queue : p.queue = []
  taken : p.taken = []

section

variable {g g' : Gateway} {t : Nat} {x y : Tenant} {kind : PoolKind} {p : Pool Work Response}

theorem Idle.next? (h : Idle p) : p.next? = none := by
  unfold Pool.next? Pool.take?
  rw [h.taken, h.queue]
  rfl

theorem Idle.running (h : Idle p) : p.running = [] := by
  unfold Pool.running
  rw [h.taken]
  rfl

theorem Idle.eq (h : Idle p) : p = { p with queue := [], taken := [] } := by
  obtain ⟨name, workers, capacity, timeout, queue, taken, isShutDown⟩ := p
  obtain ⟨rfl, rfl⟩ := h
  rfl

/-- Every pool but one is idle. -/
def Alone (g : Gateway) (t : Nat) (kind : PoolKind) : Prop :=
  ∀ (t' : Nat) (y : Tenant), g.tenants[t']? = some y → ∀ other, (t' = t → other ≠ kind) →
    Idle (y.pools.get other)

theorem mem_toList (ps : TenantPools) (kind : PoolKind) : (kind, ps.get kind) ∈ ps.toList :=
  List.mem_map.2 ⟨kind, by cases kind <;> decide, rfl⟩

/-- What can happen happens in the one pool that is not idle. -/
theorem step?_of_alone (h : g.Alone t kind) (hx : g.tenants[t]? = some x) :
    g.step? = (g.poolStep? t kind (x.pools.get kind)).or
      (g.jobStep? t x kind (x.pools.get kind)) := by
  -- what nobody does in an idle pool is done in this one at most
  have hone (f : Tenant → Nat → PoolKind → Pool Work Response → Option Gateway)
      (hidle : ∀ y t' kind' p, Idle p → f y t' kind' p = none) :
      (g.numbered.findSome? fun numbered =>
        numbered.1.pools.toList.findSome? fun entry => f numbered.1 numbered.2 entry.1 entry.2)
          = f x t kind (x.pools.get kind) := by
    have hmem : (x, t) ∈ g.numbered := List.mk_mem_zipIdx_iff_getElem?.2 hx
    have hentry {ps : TenantPools} {entry : PoolKind × Pool Work Response}
        (hentry : entry ∈ ps.toList) : entry.2 = ps.get entry.1 := by
      obtain ⟨kind', -, heq⟩ := List.mem_map.1 hentry
      rw [← heq]
    rw [findSome?_eq_of_unique hmem]
    · refine (findSome?_eq_of_unique (mem_toList x.pools kind) ?_)
      intro entry hin hne
      refine hidle x t entry.1 entry.2 ?_
      rw [hentry hin]
      refine h t x hx entry.1 fun _ heq => hne ?_
      exact Prod.ext heq (by rw [hentry hin, heq])
    · intro yt hin hne
      have hy := List.mk_mem_zipIdx_iff_getElem?.1 hin
      have hother : yt.2 ≠ t := by
        intro heq
        rw [heq, hx] at hy
        exact hne (Prod.ext (Option.some.inj hy).symm heq)
      rw [List.findSome?_eq_none_iff]
      intro entry hin
      refine hidle yt.1 yt.2 entry.1 entry.2 ?_
      rw [hentry hin]
      exact h yt.2 yt.1 hy entry.1 fun heq => absurd heq hother
  unfold step?
  rw [hone fun _ t kind p => g.poolStep? t kind p, hone fun y t kind p => g.jobStep? t y kind p]
  · intro y t' kind' p hidle
    unfold jobStep?
    rw [hidle.running]
    rfl
  · intro y t' kind' p hidle
    unfold poolStep?
    rw [hidle.next?]
    rfl

-- ============================================================== one tenant

/-- The gateway with a tenant in the place of another. -/
def put (g : Gateway) (t : Nat) (y : Tenant) : Gateway :=
  { g with tenants := g.tenants.set t y }

theorem update_eq_put (hx : g.tenants[t]? = some x) (f : Tenant → Tenant) :
    g.update t f = g.put t (f x) := by
  obtain ⟨ht, rfl⟩ := List.getElem?_eq_some_iff.1 hx
  unfold update put
  rw [List.modify_eq_set_getElem? f t g.tenants, hx]
  rfl

theorem put_put (g : Gateway) (t : Nat) (y z : Tenant) : (g.put t y).put t z = g.put t z := by
  unfold put
  dsimp only
  rw [List.set_set]

theorem tenants_put (hx : g.tenants[t]? = some x) (t' : Nat) :
    (g.put t y).tenants[t']? = if t' = t then some y else g.tenants[t']? := by
  rw [← update_eq_put hx fun _ => y]
  exact tenants_update hx t'

/-- A tenant with one pool in the place of another. -/
def withPool (x : Tenant) (kind : PoolKind) (p : Pool Work Response) : Tenant :=
  { x with pools := x.pools.set kind p }

theorem get_withPool : (withPool x kind p).pools.get kind = p := by
  show (x.pools.set kind p).get kind = p
  rw [TenantPools.get_set, if_pos rfl]

/-- A pool that has nothing but one item, in the hands of a worker. -/
def serving (p : Pool Work Response) (n : Nat) (fingerprint : String)
    (stage : Stage Work Response) : Pool Work Response :=
  { p with queue := [], taken := [⟨n, fingerprint, stage⟩] }

theorem Alone.put (h : g.Alone t kind) (hx : g.tenants[t]? = some x)
    (hpools : ∀ other, other ≠ kind → y.pools.get other = x.pools.get other) :
    (g.put t y).Alone t kind := by
  intro t' z hz other hother
  rw [tenants_put hx] at hz
  split at hz
  next heq =>
    subst heq
    cases hz
    rw [hpools other (hother rfl)]
    exact h t' x hx other hother
  next => exact h t' z hz other hother

theorem get_withPool_ne {other : PoolKind} (hne : other ≠ kind) :
    (withPool x kind p).pools.get other = x.pools.get other := by
  show (x.pools.set kind p).get other = _
  rw [TenantPools.get_set, if_neg hne]

theorem Alone.withPool (h : g.Alone t kind) (hx : g.tenants[t]? = some x) :
    (g.put t (withPool x kind p)).Alone t kind :=
  h.put hx fun _ hne => get_withPool_ne hne

theorem updatePool_eq_put (hx : g.tenants[t]? = some x)
    (f : Pool Work Response → Pool Work Response) :
    g.updatePool t kind f = g.put t (Gateway.withPool x kind (f (x.pools.get kind))) :=
  update_eq_put hx _

-- ================================================================ its steps

variable {n : Nat} {fingerprint : String} {answer : Option Response} {w : Work}

/-- The pool takes its next step, if one is due. -/
theorem step?_of_next (h : g.Alone t kind) (hx : g.tenants[t]? = some x)
    {e : Pool.Event Response} (hnext : (x.pools.get kind).next? = some (e, p)) :
    g.step? = some ((g.put t (withPool x kind p)).follow t e) := by
  have hstep : g.poolStep? t kind (x.pools.get kind)
      = some ((g.put t (withPool x kind p)).follow t e) := by
    unfold poolStep?
    rw [hnext, ← updatePool_eq_put hx fun _ => p]
    rfl
  rw [step?_of_alone h hx, hstep]
  rfl

/-- A worker takes the one item that waits. -/
theorem step?_take {item : Item Work} (h : g.Alone t kind) (hx : g.tenants[t]? = some x)
    (hpool : x.pools.get kind = p.enqueue item) (hidle : Idle p) (hworkers : 0 < p.workers) :
    g.step? = some (g.put t (withPool x kind
      (serving p item.ticket item.fingerprint (.running item.job)))) := by
  have hnext : (p.enqueue item).next? = some (.took item.ticket,
      serving p item.ticket item.fingerprint (.running item.job)) := by
    rw [hidle.eq]
    unfold Pool.next? Pool.take? Pool.enqueue
    simp [hworkers, serving]
  rw [← hpool] at hnext
  exact step?_of_next h hx hnext

/-- A job that can go on, and ends. -/
theorem step?_work (h : g.Alone t kind) (hx : g.tenants[t]? = some x)
    (hpool : x.pools.get kind = serving p n fingerprint (.running w))
    (hrunnable : g.isRunnable x w = true) {gate : Option Nat}
    (hadvance : advance t w.gate w.routine g = ((.done answer, gate), g'))
    (hy : g'.tenants[t]? = some y) (hsame : y.pools.get kind = x.pools.get kind) :
    g.step? = some (g'.put t (withPool y kind
      (serving p n fingerprint (.finished answer)))) := by
  have hnext : (x.pools.get kind).next? = none := by
    rw [hpool]
    rfl
  have hpoolStep : g.poolStep? t kind (x.pools.get kind) = none := by
    unfold poolStep?
    rw [hnext]
    rfl
  have hfinish : (y.pools.get kind).finish n answer
      = serving p n fingerprint (.finished answer) := by
    rw [hsame, hpool]
    simp [Pool.finish, Pool.update, serving]
  have hwork : g.work t kind n w = g'.put t (withPool y kind
      (serving p n fingerprint (.finished answer))) := by
    unfold Gateway.work
    rw [hadvance]
    dsimp only
    rw [updatePool_eq_put hy, hfinish]
  have hjobStep : g.jobStep? t x kind (x.pools.get kind)
      = some (g'.put t (withPool y kind (serving p n fingerprint (.finished answer)))) := by
    have hfind : (serving p n fingerprint (.running w)).running.find?
        (fun entry => g.isRunnable x entry.2) = some (n, w) := List.find?_cons_of_pos hrunnable
    unfold jobStep?
    rw [hpool, hfind, ← hwork]
    rfl
  rw [step?_of_alone h hx, hpoolStep, hjobStep]
  rfl

/-- The fingerprint is let go of. -/
theorem step?_release (h : g.Alone t kind) (hx : g.tenants[t]? = some x)
    (hpool : x.pools.get kind = serving p n fingerprint (.finished answer)) :
    g.step? = some (g.put t
      { withPool x kind (serving p n fingerprint (.released answer)) with
        inFlight := x.inFlight.finish fingerprint }) := by
  have hnext : (serving p n fingerprint (.finished answer)).next? = some
      (.released n fingerprint, serving p n fingerprint (.released answer)) := by
    simp [Pool.next?, Pool.release?, Pool.update, serving]
  have hx' : (g.put t (withPool x kind (serving p n fingerprint (.released answer)))).tenants[t]?
      = some (withPool x kind (serving p n fingerprint (.released answer))) := by
    rw [tenants_put hx, if_pos rfl]
  rw [← hpool] at hnext
  rw [step?_of_next h hx hnext]
  unfold follow
  dsimp only
  rw [update_eq_put hx', put_put]
  rfl

/-- The answer is delivered, and the pool is idle again. -/
theorem step?_deliver (h : g.Alone t kind) (hx : g.tenants[t]? = some x) (hidle : Idle p)
    (hpool : x.pools.get kind = serving p n fingerprint (.released answer)) :
    g.step? = some { g.put t (withPool x kind p) with
      answers := g.answers ++ [(n, answer)] } := by
  have hnext : (serving p n fingerprint (.released answer)).next? = some
      (.delivered n answer, p) := by
    rw [hidle.eq]
    simp [Pool.next?, Pool.release?, Pool.deliver?, serving]
  rw [← hpool] at hnext
  exact step?_of_next h hx hnext

/-- Nothing is left to do. -/
theorem step?_of_idle (h : g.Alone t kind) (hx : g.tenants[t]? = some x)
    (hidle : Idle (x.pools.get kind)) : g.step? = none := by
  have hpoolStep : g.poolStep? t kind (x.pools.get kind) = none := by
    unfold poolStep?
    rw [hidle.next?]
    rfl
  have hjobStep : g.jobStep? t x kind (x.pools.get kind) = none := by
    unfold jobStep?
    rw [hidle.running]
    rfl
  rw [step?_of_alone h hx, hpoolStep, hjobStep]
  rfl

theorem run_step (h : g.step? = some g') (k : Nat) : g.run (k + 1) = g'.run k := by
  rw [Gateway.run, h]

theorem run_of_none (h : g.step? = none) (k : Nat) : g.run k = g := by
  cases k with
  | zero => rfl
  | succ k => rw [Gateway.run, h]

-- ============================================================ all its steps

theorem set_set (ps : TenantPools) (kind : PoolKind) (p q : Pool Work Response) :
    (ps.set kind p).set kind q = ps.set kind q := by
  cases kind <;> rfl

/-- A pool in its own place. -/
theorem set_get (ps : TenantPools) (kind : PoolKind) : ps.set kind (ps.get kind) = ps := by
  cases kind <;> rfl

/-- A job leaves all other pools idle. -/
theorem Alone.confined (h : g.Alone t kind) (hx : g.tenants[t]? = some x)
    (hconfined : Confined t g g') : g'.Alone t kind := by
  intro t' z hz other hother
  by_cases heq : t' = t
  · subst heq
    obtain ⟨y, hy, -, htraffic, -⟩ := hconfined.own x hx
    rw [hy] at hz
    cases hz
    have hpools : z.pools = x.pools := congrArg Prod.snd htraffic
    rw [hpools]
    exact h t' x hx other hother
  · rw [hconfined.others t' heq] at hz
    exact h t' z hz other hother

theorem isRunnable_of_unlocked (g : Gateway) (hlocked : x.locked = [])
    (routine : JobRoutine (Option Response)) :
    g.isRunnable x ⟨routine, none⟩ = true := by
  unfold isRunnable canPerform
  rw [hlocked]
  cases routine with
  | done a => rfl
  | call c next => cases c <;> rfl

/-- The gateway when a worker begins the one item that waits. -/
def begun (g : Gateway) (t : Nat) (x : Tenant) (kind : PoolKind) (p : Pool Work Response)
    (ticket : Nat) (fingerprint : String) (routine : JobRoutine (Option Response)) : Gateway :=
  g.put t (withPool x kind (serving p ticket fingerprint (.running ⟨routine, none⟩)))

/-- A finished item lets go of its fingerprint and has its answer delivered,
and then there is nothing left to do. -/
theorem run_of_finished (h : g.Alone t kind) (hx : g.tenants[t]? = some x) (hidle : Idle p)
    (hpool : x.pools.get kind = serving p n fingerprint (.finished answer)) (k : Nat) :
    g.run (k + 2) = { g.put t { x with
        pools := x.pools.set kind p
        inFlight := x.inFlight.finish fingerprint } with
      answers := g.answers ++ [(n, answer)] } := by
  let y : Tenant := { withPool x kind (serving p n fingerprint (.released answer)) with
    inFlight := x.inFlight.finish fingerprint }
  have hreleased : (g.put t y).Alone t kind := h.put hx fun _ hne => get_withPool_ne hne
  have hy : (g.put t y).tenants[t]? = some y := by rw [tenants_put hx, if_pos rfl]
  let delivered : Gateway := { (g.put t y).put t (withPool y kind p) with
    answers := g.answers ++ [(n, answer)] }
  have halone : delivered.Alone t kind := hreleased.withPool (p := p) hy
  have hz : delivered.tenants[t]? = some (withPool y kind p) :=
    (tenants_put hy t).trans (if_pos rfl)
  have hpools : (withPool y kind p).pools = x.pools.set kind p := by
    show (x.pools.set kind _).set kind p = x.pools.set kind p
    rw [set_set]
  rw [run_step (step?_release h hx hpool)]
  show (g.put t y).run (k + 1) = _
  rw [run_step (step?_deliver hreleased hy hidle get_withPool)]
  show delivered.run k = _
  rw [run_of_none (step?_of_idle halone hz (get_withPool.symm ▸ hidle))]
  show { (g.put t y).put t { y with pools := (withPool y kind p).pools } with
    answers := g.answers ++ [(n, answer)] } = _
  rw [put_put, hpools]
  rfl

/-- A gateway in which one item waits serves it, if its job ends. -/
theorem settle_of_queued {ticket : Nat} {routine : JobRoutine (Option Response)}
    (h : g.Alone t kind) (hx : g.tenants[t]? = some x)
    (hpool : x.pools.get kind = p.enqueue ⟨ticket, fingerprint, ⟨routine, none⟩⟩)
    (hidle : Idle p) (hworkers : 0 < p.workers) (hlocked : x.locked = [])
    (hadvance : advance t none routine (g.begun t x kind p ticket fingerprint routine)
      = ((.done answer, none), g'))
    (hconfined : Confined t (g.begun t x kind p ticket fingerprint routine) g')
    (hy : g'.tenants[t]? = some y) :
    g.settle = { g'.put t { y with
        pools := x.pools.set kind p
        inFlight := y.inFlight.finish fingerprint } with
      answers := g'.answers ++ [(ticket, answer)] } := by
  let stage (s : Stage Work Response) : Pool Work Response := serving p ticket fingerprint s
  -- there is something to do, so the steps are enough
  have hbusy : g.Busy t := by
    refine ⟨x, hx, kind, ?_⟩
    rw [hpool]
    exact hasWork_enqueue _
  have hpending : g.pending ≠ 0 := fun hzero => not_busy_of_pending hzero t hbusy
  obtain ⟨k, hk⟩ : ∃ k, stepsPerItem * g.pending = k + 4 :=
    ⟨stepsPerItem * g.pending - 4, by unfold stepsPerItem; omega⟩
  have htake := step?_take h hx hpool hidle hworkers
  have h₁ : (g.begun t x kind p ticket fingerprint routine).Alone t kind := h.withPool hx
  have hx₁ : (g.begun t x kind p ticket fingerprint routine).tenants[t]?
      = some (withPool x kind (stage (.running ⟨routine, none⟩))) := by
    unfold begun
    rw [tenants_put hx, if_pos rfl]
  -- the job leaves the pools as they are
  have hpools : y.pools = x.pools.set kind (stage (.running ⟨routine, none⟩)) := by
    obtain ⟨y', hy', -, htraffic, -⟩ := hconfined.own _ hx₁
    rw [hy] at hy'
    cases hy'
    exact congrArg Prod.snd htraffic
  have hrunnable : (g.begun t x kind p ticket fingerprint routine).isRunnable
      (withPool x kind (stage (.running ⟨routine, none⟩))) ⟨routine, none⟩ = true :=
    isRunnable_of_unlocked (g.begun t x kind p ticket fingerprint routine) hlocked routine
  have hwork := step?_work h₁ hx₁ get_withPool hrunnable hadvance hy (by rw [hpools]; rfl)
  -- it finishes the item, and the rest follows
  have hfinished : (g'.put t (withPool y kind (stage (.finished answer)))).Alone t kind :=
    (h₁.confined hx₁ hconfined).withPool hy
  have hx₂ : (g'.put t (withPool y kind (stage (.finished answer)))).tenants[t]?
      = some (withPool y kind (stage (.finished answer))) := by
    rw [tenants_put hy, if_pos rfl]
  have hpools₂ : (withPool y kind (stage (.finished answer))).pools.set kind p
      = x.pools.set kind p := by
    show (y.pools.set kind _).set kind p = x.pools.set kind p
    rw [set_set, hpools, set_set]
  unfold settle
  rw [hk, run_step htake]
  show (g.begun t x kind p ticket fingerprint routine).run (k + 3) = _
  rw [run_step hwork, run_of_finished hfinished hx₂ hidle get_withPool, put_put, hpools₂]
  rfl

end

-- ================================================================== a request

/-- A tenant that has nothing to do, and could do something at once. -/
structure Ready (config : Config) (x : Tenant) : Prop where
  idle : ∀ kind, Idle (x.pools.get kind)
  workers : ∀ kind, 0 < (x.pools.get kind).workers
  capacity : ∀ kind, 0 < (x.pools.get kind).capacity
  named : ∀ kind, ∃ n,
    (x.pools.get kind).name = (poolSpec config x.credentials.host kind).name n
  inFlight : x.inFlight = {}
  locked : x.locked = []

/-- A gateway at rest: its tenants are ready, those that are registered take
requests, and its books are in order with nobody at work. The remote system
answers at once, whatever it answers. -/
structure Calm (g : Gateway) : Prop where
  alive : g.poisoned = false
  listed : g.Listed
  unkept : g.kept = []
  ready : ∀ (t : Nat) (x : Tenant), g.tenants[t]? = some x → Ready g.config x
  accepting : ∀ t ∈ g.registered, ∀ x, g.tenants[t]? = some x → ∀ kind,
    (x.pools.get kind).isShutDown = false
  answered : ∀ entry ∈ g.answers, entry.1 ≤ g.tickets
  ungated : ∀ name, g.remote.gateOf.get? name = none
  books : ∃ owner, Balanced g (fun _ => {}) owner

section

variable {g g' : Gateway} {t : Nat} {x y : Tenant} {r : Request}

/-- The remote system answers by its script. -/
theorem Calm.prompt (h : Calm g) (hmemoryless : g.remote.script.Memoryless) : g.remote.Prompt :=
  ⟨h.ungated, hmemoryless⟩

/-- The filter with a request in flight. -/
def admitted (g : Gateway) (x : Tenant) (r : Request) : InFlight :=
  ⟨x.inFlight.entries.insert r.payload g.clock⟩

/-- A tenant when its request waits for a worker. -/
def queued (g : Gateway) (x : Tenant) (r : Request) : Tenant :=
  withPool { x with lastUsed := g.clock, inFlight := g.admitted x r } r.pool
    ((x.pools.get r.pool).enqueue ⟨g.tickets + 1, r.payload, g.program x r⟩)

/-- The gateway when a request waits for a worker. -/
def offered (g : Gateway) (t : Nat) (x : Tenant) (r : Request) : Gateway :=
  { g.put t (g.queued x r) with tickets := g.tickets + 1 }

/-- A tenant when a worker begins with its request. -/
def started (g : Gateway) (x : Tenant) (r : Request) : Tenant :=
  withPool (g.queued x r) r.pool (serving (x.pools.get r.pool) (g.tickets + 1) r.payload
    (.running (g.program x r)))

/-- The gateway when a worker begins with the request. -/
def working (g : Gateway) (t : Nat) (x : Tenant) (r : Request) : Gateway :=
  { g.put t (g.started x r) with tickets := g.tickets + 1 }

theorem begun_offered (g : Gateway) (t : Nat) (x : Tenant) (r : Request) :
    (g.offered t x r).begun t (g.queued x r) r.pool (x.pools.get r.pool) (g.tickets + 1)
      r.payload (CheckGateway.work (g.context x) r) = g.working t x r := by
  show { (g.put t (g.queued x r)).put t (g.started x r) with tickets := g.tickets + 1 } = _
  rw [put_put]
  rfl

theorem accept_admitted (hfree : x.inFlight = {}) :
    x.inFlight.accept r.payload g.clock = .ok (g.admitted x r) := by
  unfold admitted
  rw [hfree]
  rfl

/-- A tenant that is ready takes a request. -/
theorem offer_eq (hx : g.tenants[t]? = some x) (hready : Ready g.config x)
    (hopen : (x.pools.get r.pool).isShutDown = false) :
    g.offer t r = (.ok (g.tickets + 1), g.offered t x r) := by
  have hsubmit (item : Item Work) :
      (x.pools.get r.pool).submit item = .ok ((x.pools.get r.pool).enqueue item) := by
    have hroom : (x.pools.get r.pool).hasRoom = true := by
      unfold Pool.hasRoom
      rw [(hready.idle r.pool).queue]
      exact decide_eq_true (hready.capacity r.pool)
    unfold Pool.submit
    rw [hopen, hroom]
    rfl
  let x₁ : Tenant := { x with lastUsed := g.clock }
  have htouch : g.touch t = g.put t x₁ := update_eq_put hx _
  have hx₁ : (g.touch t).tenants[t]? = some x₁ := by rw [htouch, tenants_put hx, if_pos rfl]
  let x₂ : Tenant := { x₁ with inFlight := g.admitted x r }
  have haccept : (g.touch t).accept t r = .ok ((g.touch t).put t x₂) := by
    unfold accept
    rw [hx₁]
    dsimp only
    rw [show (g.touch t).clock = g.clock from rfl, accept_admitted hready.inFlight]
    show Except.ok ((g.touch t).update t _) = _
    rw [update_eq_put hx₁]
  have hx₂ : ((g.touch t).put t x₂).tenants[t]? = some x₂ := by rw [tenants_put hx₁, if_pos rfl]
  have henqueue : ((g.touch t).put t x₂).enqueue t r = .ok
      { ((g.touch t).put t x₂).updatePool t r.pool fun _ => (x.pools.get r.pool).enqueue
          ⟨g.tickets + 1, r.payload, g.program x r⟩ with
        tickets := g.tickets + 1 } := by
    unfold enqueue
    rw [hx₂]
    dsimp only
    rw [hsubmit]
    rfl
  unfold offer
  dsimp only
  rw [haccept]
  dsimp only
  rw [henqueue, updatePool_eq_put hx₂, htouch, put_put, put_put]
  rfl

/-- The other pools are idle when a worker begins. -/
theorem Calm.alone (h : Calm g) (t : Nat) (kind : PoolKind) : g.Alone t kind :=
  fun t' y hy other _ => (h.ready t' y hy).idle other

/-- Nothing has been answered under a ticket yet that is still to be given
out. -/
theorem Calm.lookup_answers (h : Calm g) (answer : Option Response) :
    (g.answers ++ [(g.tickets + 1, answer)]).lookup (g.tickets + 1) = some answer := by
  have hnone : g.answers.lookup (g.tickets + 1) = none := by
    rw [List.lookup_eq_none_iff]
    intro entry hentry
    have hle := h.answered entry hentry
    rw [bne_iff_ne]
    omega
  rw [List.lookup_append, hnone]
  simp

/-- What comes of a request whose job ends, in a gateway at rest. -/
theorem Calm.dispatchTo_eq (h : Calm g) (ht : t ∈ g.registered) (hx : g.tenants[t]? = some x)
    {answer : Option Response}
    (hadvance : advance t none (CheckGateway.work (g.context x) r) (g.working t x r)
      = ((.done answer, none), g'))
    (hconfined : Confined t (g.working t x r) g') (hy : g'.tenants[t]? = some y) :
    g.dispatchTo t r =
      (answer.getD (.ofError (.workerLost (x.pools.get r.pool).name)),
        { g'.put t { y with pools := x.pools, inFlight := {} } with
          answers := g.answers ++ [(g.tickets + 1, answer)] }) := by
  have hready := h.ready t x hx
  have hx₀ : (g.put t (g.queued x r)).tenants[t]? = some (g.queued x r) := by
    rw [tenants_put hx, if_pos rfl]
  have halone : (g.put t (g.queued x r)).Alone t r.pool := by
    have hothers (other : PoolKind) (hne : other ≠ r.pool) :
        (g.queued x r).pools.get other = x.pools.get other := by
      unfold queued
      rw [get_withPool_ne hne]
    exact (h.alone t r.pool).put hx hothers
  have hpool : (g.queued x r).pools.get r.pool = (x.pools.get r.pool).enqueue
      ⟨g.tickets + 1, r.payload, ⟨CheckGateway.work (g.context x) r, none⟩⟩ := by
    unfold queued
    rw [get_withPool]
    rfl
  have hlocked : (g.queued x r).locked = [] := by
    unfold queued withPool
    exact hready.locked
  rw [← begun_offered] at hadvance hconfined
  have hsettle := settle_of_queued (g := g.offered t x r) halone hx₀ hpool
    (hready.idle r.pool) (hready.workers r.pool) hlocked hadvance hconfined hy
  -- pools and filter are as before, and the answer is found under its ticket
  have hpools : (g.queued x r).pools.set r.pool (x.pools.get r.pool) = x.pools := by
    unfold queued withPool
    rw [set_set, set_get]
  have hfilter : y.inFlight.finish r.payload = {} := by
    have hx₁ : (g.working t x r).tenants[t]? = some (g.started x r) := by
      unfold working
      rw [tenants_put hx, if_pos rfl]
    rw [begun_offered] at hconfined
    obtain ⟨y', hy', -, htraffic, -⟩ := hconfined.own _ hx₁
    rw [hy] at hy'
    cases hy'
    have hinFlight : y.inFlight = g.admitted x r := congrArg Prod.fst htraffic
    rw [hinFlight, InFlight.finish_accept (accept_admitted hready.inFlight), hready.inFlight]
  have hanswers : g'.answers = g.answers := by
    rw [hconfined.state]
    rfl
  rw [hpools, hfilter, hanswers] at hsettle
  have hname : ({ g'.put t { y with pools := x.pools, inFlight := {} } with
      answers := g.answers ++ [(g.tickets + 1, answer)] } : Gateway).poolName t r
        = (x.pools.get r.pool).name := by
    unfold poolName
    dsimp only
    rw [tenants_put hy, if_pos rfl]
    rfl
  unfold dispatchTo submit
  rw [offer_eq hx hready (h.accepting t ht x hx r.pool)]
  dsimp only
  rw [hsettle]
  unfold answer?
  dsimp only
  rw [h.lookup_answers, hname]
  cases answer <;> rfl

end

end Gateway

end CheckGateway
