/-
Twins get like answers, and the gateway is at rest again.

A request of a tenant is served in a gateway at rest, and the same request of
its twin in another. Both are answered, alike, and leave twins
(`Calm.dispatchTo_together`). Apart from the tenant and from the watermarks
that the request is about, nothing has happened to either gateway (`Served`).

All that an answer can show of its gateway is the number of a pool: the answer
to a request whose worker dies names the pool, and pools are numbered in the
order in which they were started, whoever needed them.
-/
import CheckGateway.Proofs.Gateway.Turnover

namespace CheckGateway

/-- Answers that differ at most in the number of the pool that lost its
worker. -/
def Response.Like (a b : Response) : Prop :=
  b = a ∨ ∃ (spec : PoolSpec) (n m : Nat),
    a = .ofError (.workerLost (spec.name n)) ∧ b = .ofError (.workerLost (spec.name m))

namespace Gateway

/-- A request of a tenant has been attended to. -/
structure Attended (t : Nat) (x : Tenant) (g g' : Gateway) (y : Tenant) : Prop where
  calm : Calm g'
  roll : SameRoll g g'
  tenant : g'.tenants[t]? = some y
  key : y.key = x.key
  others : ∀ t' ≠ t, g'.tenants[t']? = g.tenants[t']?
  clock : g'.clock = g.clock

/-- A request has been served to a tenant, from the script of the remote
system as it is. -/
structure Served (K : Set WatermarkKey) (t : Nat) (x : Tenant) (g g' : Gateway) (y : Tenant) :
    Prop extends Attended t x g g' y where
  script : g'.remote.script = g.remote.script
  marks : ∀ key ∉ K, g'.watermarks.get? key = g.watermarks.get? key

section

variable {K : Set WatermarkKey} {g g' g₁ g₁' : Gateway} {t t' : Nat} {x x' y y' : Tenant}
  {r : Request} {answer : Option Response}

/-- The account that was served has the tenant that was left. -/
theorem Attended.tenantOf?_eq (h : Attended t x g g' y) (ht : t ∈ g.registered) :
    g'.tenantOf? x.key = some y := by
  rw [h.calm.listed.tenantOf?_eq_some_iff, h.roll.registered]
  exact ⟨t, ht, h.tenant, h.key⟩

/-- What the answer to a request is if its worker dies. -/
def answerOf (x : Tenant) (kind : PoolKind) (answer : Option Response) : Response :=
  answer.getD (.ofError (.workerLost (x.pools.get kind).name))

theorem tenants_working (hx : g.tenants[t]? = some x) (r : Request) (t' : Nat) :
    (g.working t x r).tenants[t']? = if t' = t then some (g.started x r) else g.tenants[t']? := by
  unfold working
  exact tenants_put hx t'

theorem holdings_withPool (x : Tenant) (kind : PoolKind) (p : Pool Work Response) :
    holdings (withPool x kind p) = holdings x := rfl

theorem holdings_started (g : Gateway) (x : Tenant) (r : Request) :
    holdings (g.started x r) = holdings x := by
  unfold started
  rw [holdings_withPool]
  unfold queued
  rw [holdings_withPool]
  rfl

theorem credentials_started (g : Gateway) (x : Tenant) (r : Request) :
    (g.started x r).credentials = x.credentials := by
  unfold started queued withPool
  rfl

theorem sameRoll_put (hx : g.tenants[t]? = some x) (hy : y.credentials = x.credentials) :
    SameRoll g (g.put t y) := by
  refine ⟨rfl, rfl, rfl, rfl, ?_⟩
  apply List.ext_getElem?
  intro t'
  rw [List.getElem?_map, List.getElem?_map, tenants_put hx]
  split
  next heq =>
    rw [heq, hx]
    exact congrArg some hy
  next => rfl

theorem holdings_put (hx : g.tenants[t]? = some x) (hy : holdings y = holdings x) (t' : Nat) :
    (g.put t y).tenants[t']?.map holdings = g.tenants[t']?.map holdings := by
  rw [tenants_put hx]
  split
  next heq =>
    rw [heq, hx]
    exact congrArg some hy
  next => rfl

theorem Confined.roll (h : Confined t g g') (hx : g.tenants[t]? = some x) : SameRoll g g' := by
  refine ⟨by rw [h.state], by rw [h.state], by rw [h.state], by rw [h.state], ?_⟩
  apply List.ext_getElem?
  intro t'
  rw [List.getElem?_map, List.getElem?_map]
  by_cases heq : t' = t
  · obtain ⟨y, hy, hcredentials, -⟩ := h.own x hx
    rw [heq, hx, hy]
    exact congrArg some hcredentials
  · rw [h.others t' heq]

theorem Confined.rest (h : Confined t g g') :
    g'.clock = g.clock ∧ g'.kept = g.kept ∧ g'.tickets = g.tickets := by
  rw [h.state]
  exact ⟨rfl, rfl, rfl⟩

/-- A worker begins with empty hands. -/
theorem Calm.works (h : Calm g) (hx : g.tenants[t]? = some x) (r : Request) :
    Works ⟨t, r.pool, g.tickets + 1⟩ {} (g.working t x r) (g.started x r) := by
  obtain ⟨owner, H⟩ := h.books
  refine ⟨(tenants_working hx r t).trans (if_pos rfl), owner, ?_⟩
  rw [only_empty]
  unfold working
  exact H.congr H.orderly rfl (holdings_put hx (holdings_started g x r))

/-- The gateway is at rest again once the request is answered. -/
theorem Calm.attended (h : Calm g) (hx : g.tenants[t]? = some x)
    (hconfined : Confined t (g.working t x r) g')
    (hworks : Works ⟨t, r.pool, g.tickets + 1⟩ {} g' y) (hlocked : y.locked = []) :
    Attended t x g
      { g'.put t { y with pools := x.pools, inFlight := {} } with
        answers := g.answers ++ [(g.tickets + 1, answer)] }
      { y with pools := x.pools, inFlight := {} } := by
  have hy : g'.tenants[t]? = some y := hworks.tenant
  obtain ⟨owner, H⟩ := hworks.books
  have hstarted := (tenants_working hx r t).trans (if_pos rfl)
  let z : Tenant := { y with pools := x.pools, inFlight := {} }
  let g₁ : Gateway := { g'.put t z with answers := g.answers ++ [(g.tickets + 1, answer)] }
  have hcredentials : z.credentials = x.credentials := by
    obtain ⟨y', hy', hcredentials, -⟩ := hconfined.own _ hstarted
    rw [hy] at hy'
    cases hy'
    rw [← credentials_started g x r]
    exact hcredentials
  have htenants (t' : Nat) : g₁.tenants[t']? = if t' = t then some z else g.tenants[t']? := by
    refine (tenants_put hy t').trans ?_
    split
    next => rfl
    next hne => rw [hconfined.others t' hne, tenants_working hx, if_neg hne]
  have hworking : SameRoll g (g.working t x r) := by
    have hput := sameRoll_put hx (credentials_started g x r)
    exact ⟨hput.config, hput.overflow, hput.poisoned, hput.registered, hput.accounts⟩
  have hroll : SameRoll g g₁ := by
    have hput : SameRoll g' (g'.put t z) := sameRoll_put hy rfl
    refine (hworking.trans (hconfined.roll hstarted)).trans ?_
    exact ⟨hput.config, hput.overflow, hput.poisoned, hput.registered, hput.accounts⟩
  obtain ⟨hclock, hkept, htickets⟩ := hconfined.rest
  have hready := h.ready t x hx
  have hcalm : Calm g₁ := by
    refine h.change hroll (hkept.trans h.unkept : g₁.kept = []) hx htenants rfl
      (hready.congr rfl hcredentials rfl hlocked) ?_ hconfined.gates ⟨owner, ?_⟩
    · intro entry hentry
      show entry.1 ≤ g'.tickets
      rw [htickets]
      rcases List.mem_append.1 hentry with hold | hnew
      · exact Nat.le_succ_of_le (h.answered entry hold)
      · rw [List.mem_singleton.1 hnew]
        exact Nat.le_refl _
    · rw [only_empty] at H
      exact H.congr H.orderly rfl (holdings_put hy rfl)
  exact ⟨hcalm, hroll, (htenants t).trans (if_pos rfl), congrArg Credentials.key hcredentials,
    fun t' hne => (htenants t').trans (if_neg hne), hclock⟩

/-- What is served from the script leaves it, and the watermarks of others,
as they are. -/
theorem Calm.served (h : Calm g) (hx : g.tenants[t]? = some x)
    (haside : Aside K t (g.working t x r) g')
    (hworks : Works ⟨t, r.pool, g.tickets + 1⟩ {} g' y) (hlocked : y.locked = []) :
    Served K t x g
      { g'.put t { y with pools := x.pools, inFlight := {} } with
        answers := g.answers ++ [(g.tickets + 1, answer)] }
      { y with pools := x.pools, inFlight := {} } :=
  ⟨h.attended hx haside.toConfined hworks hlocked, haside.answers.script, haside.marks⟩

theorem locked_started (g : Gateway) (x : Tenant) (r : Request) :
    (g.started x r).locked = x.locked := by
  unfold started queued withPool
  rfl

/-- Twins may have any pools, and anything in flight. -/
theorem twin_withPool {kind kind' : PoolKind} {p p' : Pool Work Response} (h : x.Twin x') :
    (withPool x kind p).Twin (withPool x' kind' p') :=
  { h with }

theorem twin_used {now now' : Timestamp} {inFlight inFlight' : InFlight} (h : x.Twin x')
    (hnow : now' = now) :
    Tenant.Twin { x with lastUsed := now, inFlight := inFlight }
      { x' with lastUsed := now', inFlight := inFlight' } :=
  { h with lastUsed := hnow }

/-- Workers that begin with the request of twins have the same before them. -/
theorem Alike.working (h : Alike K g x g' x') (t t' : Nat) (r : Request) :
    Alike K (g.working t x r) (g.started x r) (g'.working t' x' r) (g'.started x' r) := by
  have htwin : (g.started x r).Twin (g'.started x' r) := by
    unfold started queued
    exact twin_withPool (twin_withPool (twin_used h.twin h.clock))
  exact ⟨h.config, h.overflow, h.clock, h.script, h.marks, h.prompt, h.prompt', htwin⟩

/-- A request of twins, each in its own gateway, is answered alike and leaves
twins. -/
theorem Calm.dispatchTo_together (h : Calm g) (h' : Calm g') (ht : t ∈ g.registered)
    (ht' : t' ∈ g'.registered) (hx : g.tenants[t]? = some x) (hx' : g'.tenants[t']? = some x')
    (halike : Alike K g x g' x') (hkeys : (g.context x).keys r ⊆ K) :
    ∃ answer g₁ y g₁' y', g.dispatchTo t r = (answerOf x r.pool answer, g₁)
      ∧ g'.dispatchTo t' r = (answerOf x' r.pool answer, g₁')
      ∧ Served K t x g g₁ y ∧ Served K t' x' g' g₁' y'
      ∧ y.Twin y' ∧ ∀ key ∈ K, g₁'.watermarks.get? key = g₁.watermarks.get? key := by
  have hcontext : g'.context x' = g.context x := by
    unfold context
    rw [halike.twin.credentials, halike.config, halike.overflow]
  have hlocked : (g.started x r).locked = [] := by
    rw [locked_started]
    exact (h.ready t x hx).locked
  have hsteady := steady_work (g.context x) r
  obtain ⟨answer, answer', g₂, g₂', y, y', hadvance, hadvance', hvalues, halike₂, hlocked₂,
      hworks, hworks', haside, haside'⟩ :=
    (together_twins (same_work hkeys).twins).ends (halike.working t t' r) hlocked
      (h.works hx r) (h'.works hx' r) hsteady hsteady
  subst hvalues
  rw [← hcontext] at hadvance'
  have hlocked₂' : y'.locked = [] := halike₂.twin.locked.trans hlocked₂
  refine ⟨answer, _, _, _, _, h.dispatchTo_eq ht hx hadvance haside.toConfined hworks.tenant,
    h'.dispatchTo_eq ht' hx' hadvance' haside'.toConfined hworks'.tenant,
    h.served hx haside hworks hlocked₂, h'.served hx' haside' hworks' hlocked₂', ?_,
    halike₂.marks⟩
  exact { halike₂.twin with }

/-- The same answer, or the loss of a worker of pools of one shape. -/
theorem answerOf_like {config : Config} (h : Ready config x) (h' : Ready config x')
    (hcredentials : x'.credentials = x.credentials) (kind : PoolKind) (answer : Option Response) :
    (answerOf x kind answer).Like (answerOf x' kind answer) := by
  cases answer with
  | some response => exact .inl rfl
  | none =>
      obtain ⟨n, hn⟩ := h.named kind
      obtain ⟨m, hm⟩ := h'.named kind
      rw [hcredentials] at hm
      refine .inr ⟨poolSpec config x.credentials.host kind, n, m, ?_, ?_⟩
      · rw [← hn]
        rfl
      · rw [← hm]
        rfl

end

end Gateway

end CheckGateway
