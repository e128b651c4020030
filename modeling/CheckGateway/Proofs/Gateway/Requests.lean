/-
What a request makes of a gateway at rest.

A request that goes through no handler that keeps anything finds what its
outlook says, and breaks nothing. Any other request goes through the handler of
one kind: what it breaks is the way to that handler, and it breaks that exactly
if its worker dies while it gathers (`Carried`). What is made of what it has found
breaks nothing any more. This is said of the work itself first, then of a
request for a tenant with nobody else at work (`Calm.dispatchTo_carried`), and
then of one that finds its tenant first (`Furnished.dispatch`).

What a request finds for a new tenant, `Outlook.gather`, depends on the
account through its key alone. A gateway that dies over a request, because its
pools cannot be started, refuses all others.
-/
import CheckGateway.Proofs.Gateway.Checks
import CheckGateway.Proofs.Gateway.Noninterference

namespace CheckGateway

open Job (isDeath)

-- ================================================================ its answer

/-- Answers that differ at most in how a pool that has lost its worker is called:
in its number, and in how its host is spelled. -/
def Response.Resembles (a b : Response) : Prop :=
  b = a ∨ ∃ (spec spec' : PoolSpec) (n m : Nat),
    Text.eqIgnoreCase spec.host spec'.host = true ∧ spec'.kind = spec.kind
      ∧ a = .ofError (.workerLost (spec.name n)) ∧ b = .ofError (.workerLost (spec'.name m))

section

variable {ctx ctx' : JobContext} {r : Request}

/-- Requests of accounts with one key gather the same. -/
theorem gather_congr (hkey : ctx'.credentials.key = ctx.credentials.key)
    (hsize : ctx'.pageSize = ctx.pageSize) (r : Request) : gather ctx' r = gather ctx r := by
  have hread (query : MessageQuery) : Handler.readNew ctx' query = Handler.readNew ctx query := by
    unfold Handler.readNew Handler.poll
    rw [hsize, WatermarkKey.derive_congr hkey]
  unfold gather carryOut
  cases Check.ofCommand? r.command with
  | none => rfl
  | some check =>
      cases check with
      | getNewMessageInMessageQueue =>
          dsimp only
          rw [funext hread]
      | _ => rfl

end

/-- What a request finds for a new tenant, with pages of a size. What overflows come
to makes no difference to that. -/
def Outlook.gather (o : Outlook) (size : Nat) (r : Request) : Except Fault Findings × Outlook :=
  o.run (CheckGateway.gather ⟨r.credentials, size, .panics⟩ r).run

/-- The answer to a request that has found something, or whose worker has died. -/
def Response.ofFindings (o : Overflow) (found : Except Fault Findings) : Option Response :=
  Response.ofWork (found.bind (Findings.report o))

/-- In outlooks that agree the same is found, if it goes through no handler that
keeps anything. -/
theorem Outlook.Agree.gather {o o' : Outlook} {r : Request}
    (hagree : Outlook.Agree RemoteQuery.kept o o') (hneeds : r.needs? = none) (size : Nat) :
    (o'.gather size r).1 = (o.gather size r).1
      ∧ Outlook.Agree RemoteQuery.kept (o.gather size r).2 (o'.gather size r).2 := by
  have hfree : Gateway.Free (CheckGateway.gather ⟨r.credentials, size, .panics⟩ r) :=
    Gateway.free_gather hneeds
  exact hfree.agrees o o' hagree

/-- How a request has been carried out for a tenant, and what it has found. -/
structure Carried (size : Nat) (r : Request) (o : Outlook) (x : Tenant)
    (found : Except Fault Findings) (o' : Outlook) (y : Tenant) : Prop where
  locked : y.locked = x.locked
  stocked : y.Stocked
  free : r.needs? = none →
    found = (o.gather size r).1 ∧ o' = (o.gather size r).2
      ∧ ∀ kind, y.broken? kind = x.broken? kind
  through : ∀ kind, r.needs? = some kind →
    Gateway.Handled kind o x (o.gather size r).1 found o' y

section

variable {size : Nat} {r : Request} {o o' o₁ o₁' : Outlook} {x x' y y' : Tenant}
  {found found' : Except Fault Findings} {kind : HandlerKind}

/-- What is broken then was broken before, or a worker has died over it. -/
theorem Carried.broken_iff (h : Carried size r o x found o' y) (kind : HandlerKind) :
    (y.broken? kind).isSome = true
      ↔ (x.broken? kind).isSome = true ∨ r.needs? = some kind ∧ isDeath found = true := by
  cases hneeds : r.needs? with
  | none =>
      obtain ⟨-, -, hbroken⟩ := h.free hneeds
      rw [hbroken]
      simp
  | some kind' =>
      have hhandled := h.through kind' hneeds
      by_cases heq : kind' = kind
      · subst heq
        cases hbroken : x.broken? kind' with
        | none =>
            rw [hhandled.broke hbroken]
            simp
        | some l =>
            rw [(hhandled.refused l hbroken).2]
            simp
      · rw [hhandled.others kind (Ne.symm heq)]
        simp [heq]

theorem Carried.sameStock (h : Carried size r o x found o' y) (hx : x'.SameStock x)
    (hy : y.SameStock y') : Carried size r o x' found o' y' := by
  refine ⟨hy.locked.trans (h.locked.trans hx.locked), hy.stocked h.stocked, fun hneeds => ?_,
    fun kind hneeds => ?_⟩
  · obtain ⟨hfound, ho', hbroken⟩ := h.free hneeds
    refine ⟨hfound, ho', fun kind => ?_⟩
    rw [hy.broken?, hbroken, hx.broken?]
  · exact ((h.through kind hneeds).of_undisturbed hx.undisturbed).sameStock hy

/-- In outlooks that agree a request leaves outlooks that agree, whatever the
tenants keep. -/
theorem Carried.agree (h : Carried size r o x found o₁ y)
    (h' : Carried size r o' x' found' o₁' y')
    (hagree : Outlook.Agree RemoteQuery.kept o o') : Outlook.Agree RemoteQuery.kept o₁ o₁' := by
  cases hneeds : r.needs? with
  | none =>
      have hafter : o₁ = (o.gather size r).2 := (h.free hneeds).2.1
      have hafter' : o₁' = (o'.gather size r).2 := (h'.free hneeds).2.1
      rw [hafter, hafter']
      exact (hagree.gather hneeds size).2
  | some kind =>
      have hbefore := (h.through kind hneeds).outlook
      exact hbefore.symm.trans (hagree.trans (h'.through kind hneeds).outlook)

/-- If it goes through no handler that keeps anything, it ends alike. -/
theorem Carried.free_eq (h : Carried size r o x found o₁ y)
    (h' : Carried size r o' x' found' o₁' y')
    (hneeds : r.needs? = none) (hagree : Outlook.Agree RemoteQuery.kept o o') : found' = found := by
  rw [(h.free hneeds).1, (h'.free hneeds).1]
  exact (hagree.gather hneeds size).1

end

namespace Gateway

open Job (Exchange Grip Steady)

section

variable {g g' g₁ : Gateway} {t : Nat} {x y : Tenant} {r : Request} {o : Outlook}
  {ctx : JobContext}

theorem yields_gather (hkey : ctx.credentials.key = r.credentials.key) (hlocked : x.locked = [])
    (hstocked : x.Stocked) :
    Yields o x (gather ctx r).run (Carried ctx.pageSize r o x) := by
  have hown : (JobContext.mk r.credentials ctx.pageSize .panics).credentials.key
      = ctx.credentials.key := hkey.symm
  rw [← gather_congr hown rfl]
  cases hneeds : r.needs? with
  | none =>
      refine ((free_gather hneeds).yields o x hlocked hstocked).mono fun found o' y hpost => ?_
      obtain ⟨hfound, ho', hsame⟩ := hpost
      refine ⟨hsame.locked, hsame.stocked hstocked, fun _ => ⟨hfound, ho', hsame.broken?⟩,
        fun kind hkind => ?_⟩
      rw [hneeds] at hkind
      cases hkind
  | some kind =>
      refine (through_gather hneeds o x hlocked hstocked).mono fun found o' y hpost => ?_
      refine ⟨hpost.locked, hpost.stocked, fun hnone => ?_, fun kind' hkind => ?_⟩
      · rw [hneeds] at hnone
        cases hnone
      · rw [hneeds] at hkind
        cases hkind
        exact hpost

/-- A worker gathers and answers. -/
theorem work_eq (ctx : JobContext) (r : Request) :
    CheckGateway.work ctx r
      = (gather ctx r).run.bind fun found => .done (Response.ofFindings ctx.overflow found) := by
  unfold CheckGateway.work
  rw [run_carryOut]
  generalize (gather ctx r).run = routine
  exact Routine.bind_bind ..

/-- A worker that gathers ends with the hands that it began with. -/
theorem steady_gather (ctx : JobContext) (r : Request) : Steady {} (gather ctx r).run := by
  have hsteady := (steady_work ctx r).obeys
  rw [work_eq] at hsteady
  generalize (gather ctx r).run = routine at hsteady ⊢
  exact ⟨hsteady.of_bind⟩

/-- A worker that began with empty hands ends with empty hands. -/
theorem Yields.ends {α : Type} {R : JobRoutine α} {post : α → Outlook → Tenant → Prop} {p : Post}
    (h : Yields o x R post) (ho : g.outlook = o)
    (hungated : ∀ name, g.remote.gateOf.get? name = none)
    (hworks : Works p {} g x) (hsteady : Steady {} R) :
    ∃ a y g', advance p.tenant none R g = ((.done a, none), g') ∧ Works p {} g' y
      ∧ Confined p.tenant g g' ∧ post a g'.outlook y := by
  obtain ⟨a, y, g', G', hadvance, hworks', hG, hconfined, hpost⟩ :=
    h p {} g _ ho hungated hworks hsteady.obeys
  subst hG
  exact ⟨a, y, g', hadvance, hworks', hconfined, hpost⟩

/-- A request that waits for a worker is nothing to what its tenant keeps. -/
theorem sameStock_started (g : Gateway) (x : Tenant) (r : Request) :
    x.SameStock (g.started x r) := by
  unfold started queued withPool
  exact ⟨rfl, rfl, rfl, rfl, rfl⟩

/-- A tenant has been served a request. -/
structure Catered (g : Gateway) (t : Nat) (x : Tenant) (r : Request)
    (found : Except Fault Findings) (g' : Gateway) (y : Tenant) : Prop
    extends Attended t x g g' y where
  answer : g'.answer? (g.tickets + 1) = some (Response.ofFindings g.overflow found)
  /-- Its worker has been struck exactly if it has died while it gathered. -/
  struck : (dialogue t (CheckGateway.work (g.context x) r) (g.working t x r)).any
    Exchange.strikes = isDeath found
  carried : Carried g.config.messagePageSize r g.outlook x found g'.outlook y

/-- A request is carried out for its tenant, and answered. -/
theorem Calm.dispatchTo_carried (h : Calm g) (ht : t ∈ g.registered)
    (hx : g.tenants[t]? = some x) (hkey : x.key = r.credentials.key) (hstocked : x.Stocked) :
    ∃ found g' y, g.dispatchTo t r = (answerOf x r.pool (Response.ofFindings g.overflow found), g')
      ∧ Catered g t x r found g' y := by
  have hsame := sameStock_started g x r
  have hlocked : (g.started x r).locked = [] := hsame.locked.trans (h.ready t x hx).locked
  have hgather : Yields g.outlook (g.started x r) (gather (g.context x) r).run _ :=
    yields_gather hkey hlocked (hsame.stocked hstocked)
  obtain ⟨found, y, g', hadvance, hworks, hconfined, hcarried⟩ :=
    hgather.ends (g := g.working t x r) rfl h.ungated (h.works hx r) (steady_gather _ _)
  have hanswered : advance t none (CheckGateway.work (g.context x) r) (g.working t x r)
      = ((.done (Response.ofFindings g.overflow found), none), g') := by
    rw [work_eq]
    exact advance_bind hadvance _
  have hstruck : (dialogue t (CheckGateway.work (g.context x) r) (g.working t x r)).any
      Exchange.strikes = isDeath found := by
    rw [work_eq, dialogue_bind_done hadvance]
    exact (candid_gather _ r _ found (concludes_dialogue hadvance)).symm
  have hlocked' : y.locked = [] := hcarried.locked.trans hlocked
  have heq := h.dispatchTo_eq ht hx hanswered hconfined hworks.tenant
  refine ⟨found, _, { y with pools := x.pools, inFlight := {} }, heq,
    h.attended hx hconfined hworks hlocked', h.lookup_answers _, hstruck, ?_⟩
  exact hcarried.sameStock hsame ⟨rfl, rfl, rfl, rfl, rfl⟩

end

section

variable {g g' g₁ g₂ : Gateway} {t t' : Nat} {x x' y : Tenant} {r : Request} {who : Credentials}
  {found : Except Fault Findings}

-- =============================================================== dead gateways

theorem dispatch_of_poisoned (hpoisoned : g.poisoned = true) :
    g.dispatch r = (some (.ofError registryPoisoned), g) := by
  unfold dispatch resolve
  rw [if_pos hpoisoned]

theorem evictIdle_of_poisoned (hpoisoned : g.poisoned = true) (now : Timestamp) :
    (g.evictIdle now).2 = g := by
  unfold evictIdle
  rw [if_pos hpoisoned]

/-- A gateway dies over a request for which pools cannot be started. -/
theorem Calm.dispatch_of_not_startable (h : Calm g)
    (hnot : ¬ Startable g.config r.credentials.host) :
    (g.dispatch r).1 = none ∧ (g.dispatch r).2.poisoned = true := by
  rcases resolve_inv (Prod.eta (g.resolve r.credentials)).symm with ⟨hpoisoned, -, -⟩
    | ⟨-, t, -, hr, -⟩ | ⟨-, -, ⟨-, hr, n, hg⟩ | ⟨hstartable, -⟩⟩
  · rw [h.alive] at hpoisoned
    cases hpoisoned
  · exact absurd (h.resolve_ok_iff.1 ⟨t, _, Prod.ext hr rfl⟩) hnot
  · have hresolve : g.resolve r.credentials
        = (.error .panicked, { g with poolsStarted := n, poisoned := true }) := Prod.ext hr hg
    unfold dispatch
    rw [hresolve]
    exact ⟨rfl, rfl⟩
  · exact absurd hstartable hnot

-- ============================================================== a gateway's stock

/-- A gateway at rest whose tenants have what their slots say. -/
structure Furnished (g : Gateway) : Prop where
  calm : Calm g
  stocked : ∀ t ∈ g.registered, ∀ x, g.tenants[t]? = some x → x.Stocked

/-- Who is registered once an account is resolved keeps what it kept, or has just
been made. -/
theorem stock_of_resolve (hresolve : g.resolve who = (.ok t, g₁)) (ht' : t' ∈ g₁.registered)
    (hx' : g₁.tenants[t']? = some x') :
    (t' ∈ g.registered ∧ ∃ x, g.tenants[t']? = some x ∧ x.SameStock x')
      ∨ t' = g.tenants.length
        ∧ ∃ pools, x' = { credentials := who, pools := pools, lastUsed := g.clock } := by
  rcases resolve_inv hresolve with ⟨-, hr, -⟩ | ⟨-, u, -, -, rfl⟩
    | ⟨-, -, ⟨-, hr, -⟩ | ⟨-, -, pools, n, -, rfl⟩⟩
  · cases hr
  · refine .inl ⟨ht', ?_⟩
    have hupdated : (g.tenants.modify u _)[t']? = some x' := hx'
    rw [List.getElem?_modify] at hupdated
    obtain ⟨x, hx, rfl⟩ := Option.map_eq_some_iff.1 hupdated
    refine ⟨x, hx, ?_⟩
    split
    · exact ⟨rfl, rfl, rfl, rfl, rfl⟩
    · exact .refl x
  · cases hr
  · rcases getElem?_concat_iff.1 hx' with hx | ⟨rfl, rfl⟩
    · exact .inl ⟨mem_registered_of_old ht' hx, x', hx, .refl x'⟩
    · exact .inr ⟨rfl, pools, rfl⟩

theorem Furnished.resolve (h : Furnished g) (hresolve : g.resolve who = (.ok t, g₁)) :
    Furnished g₁ := by
  refine ⟨(h.calm.resolve (K := ∅) hresolve).calm, fun t' ht' x' hx' => ?_⟩
  rcases stock_of_resolve hresolve ht' hx' with ⟨ht, x, hx, hsame⟩ | ⟨-, pools, rfl⟩
  · exact hsame.stocked (h.stocked t' ht x hx)
  · exact Tenant.stocked_of_empty rfl

theorem Furnished.evictIdle (h : Furnished g) (now : Timestamp) :
    Furnished (g.evictIdle now).2 := by
  refine ⟨h.calm.evictIdle now, fun t ht x hx => ?_⟩
  obtain ⟨ht, hused⟩ := h.calm.registered_evictIdle.1 ht
  rw [h.calm.tenants_of_used hused] at hx
  exact h.stocked t ht x hx

theorem Furnished.outside (h : Furnished g) (clock : Timestamp) (script : Script) :
    Furnished { g with clock := clock, remote := { g.remote with script := script } } :=
  ⟨h.calm.outside clock script, h.stocked⟩

theorem furnished_create {config : Config} {clock : Timestamp} {overflow : Overflow}
    (hcreate : create config clock overflow = .ok g) : Furnished g := by
  refine ⟨calm_create hcreate, fun t ht => ?_⟩
  rw [create_eq hcreate] at ht
  cases ht

theorem SameSetting.outlook (h : SameSetting Set.univ g g') : g'.outlook = g.outlook := by
  unfold Gateway.outlook
  rw [h.script, h.clock, funext fun key => h.marks key (Set.mem_univ key)]

theorem Furnished.catered (h : Furnished g) (hcatered : Catered g t x r found g₂ y) :
    Furnished g₂ := by
  refine ⟨hcatered.calm, fun t' ht' z hz => ?_⟩
  rw [hcatered.roll.registered] at ht'
  by_cases heq : t' = t
  · subst heq
    rw [hcatered.tenant] at hz
    cases hz
    exact hcatered.carried.stocked
  · rw [hcatered.others t' heq] at hz
    exact h.stocked t' ht' z hz

/-- A request has found its tenant and has been carried out. -/
structure Dispatched (g : Gateway) (r : Request) (t : Nat) (g₁ : Gateway) (x : Tenant)
    (found : Except Fault Findings) (g₂ : Gateway) (y : Tenant) : Prop where
  resolved : g.resolve r.credentials = (.ok t, g₁)
  setting : SameSetting Set.univ g g₁
  registered : t ∈ g₁.registered
  tenant : g₁.tenants[t]? = some x
  key : x.key = r.credentials.key
  ready : Ready g.config x
  dispatched : g.dispatch r = (some (answerOf x r.pool (Response.ofFindings g.overflow found)), g₂)
  catered : Catered g₁ t x r found g₂ y
  furnished : Furnished g₂

/-- A request that finds its tenant is carried out. -/
theorem Furnished.dispatch (h : Furnished g) (hresolve : g.resolve r.credentials = (.ok t, g₁)) :
    ∃ x found g₂ y, Dispatched g r t g₁ x found g₂ y := by
  have hfound : Resolved (K := Set.univ) g r.credentials t g₁ := h.calm.resolve hresolve
  have h₁ := h.resolve hresolve
  obtain ⟨pools, x, hx, hkey, -⟩ := hfound.tenant
  obtain ⟨found, g₂, y, hdispatch, hcatered⟩ := h₁.calm.dispatchTo_carried hfound.registered hx hkey
    (h₁.stocked t hfound.registered x hx)
  have hready := h₁.calm.ready t x hx
  rw [hfound.setting.config] at hready
  refine ⟨x, found, g₂, y, hresolve, hfound.setting, hfound.registered, hx, hkey, hready, ?_,
    hcatered, h₁.catered hcatered⟩
  rw [dispatch_of_resolve hresolve, hdispatch, hfound.setting.overflow]

variable {g₁' g₂' : Gateway} {y' : Tenant}

theorem Dispatched.config (h : Dispatched g r t g₁ x found g₂ y) : g₂.config = g.config :=
  h.catered.roll.config.trans h.setting.config

theorem Dispatched.overflow (h : Dispatched g r t g₁ x found g₂ y) : g₂.overflow = g.overflow :=
  h.catered.roll.overflow.trans h.setting.overflow

theorem Dispatched.carried (h : Dispatched g r t g₁ x found g₂ y) :
    Carried g.config.messagePageSize r g.outlook x found g₂.outlook y := by
  rw [← h.setting.config, ← h.setting.outlook]
  exact h.catered.carried

/-- What ends alike for tenants of one account is answered alike. -/
theorem answerOf_resembles {config : Config} (h : Ready config x) (h' : Ready config x')
    (hkey : x.key = x'.key) (kind : PoolKind) (answer : Option Response) :
    (answerOf x kind answer).Resembles (answerOf x' kind answer) := by
  cases answer with
  | some response => exact .inl rfl
  | none =>
      obtain ⟨n, hn⟩ := h.named kind
      obtain ⟨m, hm⟩ := h'.named kind
      obtain ⟨hhost, -⟩ := Credentials.lowered_of_key hkey
      refine .inr ⟨poolSpec config x.credentials.host kind,
        poolSpec config x'.credentials.host kind, n, m, ?_, rfl, ?_, ?_⟩
      · rw [Text.eqIgnoreCase_iff]
        exact hhost
      · rw [← hn]
        rfl
      · rw [← hm]
        rfl

/-- The same findings are answered alike in gateways of one build. -/
theorem Dispatched.resembles (h : Dispatched g r t g₁ x found g₂ y)
    (h' : Dispatched g' r t' g₁' x' found g₂' y') (hconfig : g'.config = g.config)
    (hoverflow : g'.overflow = g.overflow) :
    (answerOf x r.pool (Response.ofFindings g.overflow found)).Resembles
      (answerOf x' r.pool (Response.ofFindings g'.overflow found)) := by
  rw [hoverflow]
  exact answerOf_resembles h.ready (hconfig ▸ h'.ready) (h.key.trans h'.key.symm) r.pool _

end

end Gateway

end CheckGateway
