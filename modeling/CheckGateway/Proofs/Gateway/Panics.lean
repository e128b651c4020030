/-
What is left of a worker that has died over a request.

A worker that dies with a lock in its hands leaves the lock poisoned. The locks of
a tenant are those of its caches, of its system handler and of that handler's
slot, and a job takes only those on the way to the handler that it needs. So a
panic of the remote system costs a tenant one handler: from then on every request
that goes through it is refused, and the answer names the lock. All other requests
are answered as if the tenant had just been made (`answered_after_deaths`).

# What has died

`deaths` is read off a run: the tenants whose workers have been struck by a panic of
the remote system, each with the request that it was over. A tenant that is made
anew has another number, so the deaths of the old one do not count. A worker that
dies of a capacity it cannot write is not among them: it has no lock in its hands
then, and its death is over with the request. `Recorded` is the invariant: the way
to a handler is broken exactly if a worker has been struck on it. One request adds
what it has cost, and nothing else in a run changes what is recorded.
-/
import CheckGateway.Proofs.Gateway.Requests

namespace CheckGateway

open Job (Exchange isDeath)

/-- The kind of the handler that a lock is on the way to. -/
def Lock.kind : Lock → HandlerKind
  | .slot kind => kind
  | .jobCache _ => .jobs
  | .diskCache _ => .disks
  | .systemSession _ => .system

theorem Tenant.kind_of_broken {x : Tenant} {kind : HandlerKind} {l : Lock}
    (h : x.broken? kind = some l) : l.kind = kind := by
  unfold Tenant.broken? at h
  split at h
  · cases h
    rfl
  · obtain ⟨hguard, -⟩ := Option.filter_eq_some_iff.1 h
    obtain ⟨k, -, hk⟩ := Option.bind_eq_some_iff.1 hguard
    cases kind <;> cases hk <;> rfl

namespace Gateway

-- ================================================================= the deaths

/-- The tenant whose worker is struck over a request, if that happens: of all that it
asks of the remote system, something is answered with a panic. -/
def struck? (g : Gateway) (r : Request) : Option Nat :=
  match g.resolve r.credentials with
  | (.ok t, found) =>
      found.tenants[t]?.bind fun x =>
        let asked := dialogue t (CheckGateway.work (found.context x) r) (found.working t x r)
        if asked.any Exchange.strikes then some t else none
  | _ => none

/-- The gateway after some events. -/
def after (g : Gateway) : List Event → Gateway
  | [] => g
  | .request r :: later => (g.dispatch r).2.after later
  | .clock now :: later => { g with clock := now }.after later
  | .script s :: later => { g with remote := { g.remote with script := s } }.after later
  | .sweep now :: later => (g.evictIdle now).2.after later

/-- The tenants whose workers are struck in the course of some events, and over
what. -/
def deaths (g : Gateway) : List Event → List (Nat × Request)
  | [] => []
  | .request r :: later => ((g.struck? r).map (·, r)).toList ++ (g.dispatch r).2.deaths later
  | .clock now :: later => { g with clock := now }.deaths later
  | .script s :: later => { g with remote := { g.remote with script := s } }.deaths later
  | .sweep now :: later => (g.evictIdle now).2.deaths later

/-- A worker of a tenant has been struck over a request that went through the handler
of a kind. -/
def Bereft (ds : List (Nat × Request)) (t : Nat) (kind : HandlerKind) : Prop :=
  ∃ r, (t, r) ∈ ds ∧ r.needs? = some kind

/-- The gateway as it would be without any tenants. -/
def renewed (g : Gateway) : Gateway where
  config := g.config
  clock := g.clock
  overflow := g.overflow
  remote := { script := g.remote.script }
  watermarks := g.watermarks

section

variable {g g₁ g₂ : Gateway} {ds : List (Nat × Request)} {t t' : Nat} {x y : Tenant} {r : Request}
  {who : Credentials} {found : Except Fault Findings} {kind : HandlerKind}

theorem bereft_append {ds' : List (Nat × Request)} :
    Bereft (ds ++ ds') t kind ↔ Bereft ds t kind ∨ Bereft ds' t kind := by
  unfold Bereft
  simp only [List.mem_append, or_and_right, exists_or]

theorem bereft_singleton : Bereft [(t', r)] t kind ↔ t = t' ∧ r.needs? = some kind := by
  unfold Bereft
  simp

theorem not_bereft_nil : ¬ Bereft [] t kind := by
  intro hbereft
  obtain ⟨r, hr, -⟩ := hbereft
  cases hr

/-- The way to a handler of a tenant is broken exactly if a worker has been struck on
it. -/
structure Recorded (ds : List (Nat × Request)) (g : Gateway) : Prop extends Furnished g where
  broken : ∀ t ∈ g.registered, ∀ x, g.tenants[t]? = some x → ∀ kind,
    (x.broken? kind).isSome = true ↔ Bereft ds t kind
  known : ∀ d ∈ ds, d.1 < g.tenants.length
  made : ∃ clock overflow start, create g.config clock overflow = .ok start

theorem length_resolve (hresolve : g.resolve who = (.ok t, g₁)) :
    g.tenants.length ≤ g₁.tenants.length := by
  rcases resolve_inv hresolve with ⟨-, hr, -⟩ | ⟨-, u, -, -, rfl⟩
    | ⟨-, -, ⟨-, hr, -⟩ | ⟨-, -, pools, n, -, rfl⟩⟩
  · cases hr
  · exact (List.length_modify ..).ge
  · cases hr
  · rw [List.length_append]
    exact Nat.le_add_right _ _

theorem Recorded.resolve (h : Recorded ds g) (hresolve : g.resolve who = (.ok t, g₁)) :
    Recorded ds g₁ := by
  refine ⟨h.toFurnished.resolve hresolve, fun t' ht' x' hx' kind => ?_, fun d hd => ?_, ?_⟩
  · rcases stock_of_resolve hresolve ht' hx' with ⟨ht, x, hx, hsame⟩ | ⟨heq, pools, rfl⟩
    · rw [hsame.broken?]
      exact h.broken t' ht x hx kind
    · -- a new tenant has no dead
      rw [Tenant.broken?_of_empty rfl]
      refine iff_of_false Bool.false_ne_true fun hbereft => ?_
      obtain ⟨r, hr, -⟩ := hbereft
      exact (h.known _ hr).ne heq
  · exact (h.known d hd).trans_le (length_resolve hresolve)
  · rw [(h.calm.resolve (K := ∅) hresolve).setting.config]
    exact h.made

/-- A request adds to the record what it has cost. -/
theorem Recorded.catered (h : Recorded ds g) (hcatered : Catered g t x r found g₂ y)
    (ht : t ∈ g.registered) (hx : g.tenants[t]? = some x) :
    Recorded (ds ++ if isDeath found then [(t, r)] else []) g₂ := by
  have hnew (t' : Nat) (kind : HandlerKind) :
      Bereft (if isDeath found then [(t, r)] else []) t' kind
        ↔ t' = t ∧ r.needs? = some kind ∧ isDeath found = true := by
    cases isDeath found with
    | true => simp [bereft_singleton]
    | false => simp [not_bereft_nil]
  have hlength := hcatered.roll.length
  refine ⟨h.toFurnished.catered hcatered, fun t' ht' z hz kind => ?_, fun d hd => ?_, ?_⟩
  · rw [hcatered.roll.registered] at ht'
    rw [bereft_append, hnew]
    by_cases heq : t' = t
    · subst heq
      rw [hcatered.tenant] at hz
      cases hz
      rw [hcatered.carried.broken_iff kind, h.broken t' ht x hx kind]
      simp
    · rw [hcatered.others t' heq] at hz
      rw [h.broken t' ht' z hz kind]
      simp [heq]
  · rw [hlength]
    rcases List.mem_append.1 hd with hold | hnew
    · exact h.known d hold
    · have hd : d = (t, r) := by
        cases hdeath : isDeath found with
        | true => simpa [hdeath] using hnew
        | false => simp [hdeath] at hnew
      rw [hd]
      exact (List.getElem?_eq_some_iff.1 hx).1
  · rw [hcatered.roll.config]
    exact h.made

theorem Dispatched.struck?_eq (h : Dispatched g r t g₁ x found g₂ y) :
    g.struck? r = if isDeath found then some t else none := by
  unfold struck?
  simp only [h.resolved, h.tenant, Option.bind_some, h.catered.struck]

/-- A request that finds its tenant is recorded if a worker is struck over it. -/
theorem Recorded.dispatch (h : Recorded ds g) (hresolve : g.resolve r.credentials = (.ok t, g₁)) :
    Recorded (ds ++ ((g.struck? r).map (·, r)).toList) (g.dispatch r).2 := by
  obtain ⟨x, found, g₂, y, hdone⟩ := h.toFurnished.dispatch hresolve
  have hrecorded := (h.resolve hresolve).catered hdone.catered hdone.registered hdone.tenant
  rw [hdone.struck?_eq, hdone.dispatched]
  cases hdeath : isDeath found <;> simpa [hdeath] using hrecorded

theorem Recorded.outside (h : Recorded ds g) (clock : Timestamp) (script : Script) :
    Recorded ds { g with clock := clock, remote := { g.remote with script := script } } :=
  ⟨h.toFurnished.outside clock script, h.broken, h.known, h.made⟩

theorem Recorded.evictIdle (h : Recorded ds g) (now : Timestamp) :
    Recorded ds (g.evictIdle now).2 := by
  refine ⟨h.toFurnished.evictIdle now, fun t ht x hx kind => ?_, fun d hd => ?_, ?_⟩
  · obtain ⟨ht, hused⟩ := h.calm.registered_evictIdle.1 ht
    rw [h.calm.tenants_of_used hused] at hx
    exact h.broken t ht x hx kind
  · obtain ⟨x, hx⟩ : ∃ x, g.tenants[d.1]? = some x :=
      ⟨_, List.getElem?_eq_getElem (h.known d hd)⟩
    have hstill := h.calm.tenants_evictIdle now d.1
    rw [hx] at hstill
    exact (List.getElem?_eq_some_iff.1 hstill).1
  · rw [(h.calm.sameSetting_evictIdle (K := ∅) now).config]
    exact h.made

theorem poisoned_after (hpoisoned : g.poisoned = true) (events : List Event) :
    (g.after events).poisoned = true := by
  induction events generalizing g with
  | nil => exact hpoisoned
  | cons e later ih =>
      cases e with
      | clock now => exact ih hpoisoned
      | script s => exact ih hpoisoned
      | sweep now =>
          refine ih ?_
          rw [evictIdle_of_poisoned hpoisoned]
          exact hpoisoned
      | request r =>
          refine ih ?_
          rw [dispatch_of_poisoned hpoisoned]
          exact hpoisoned

/-- A run adds its deaths to the record, unless the gateway dies. -/
theorem Recorded.after (h : Recorded ds g) (events : List Event) :
    (g.after events).poisoned = true ∨ Recorded (ds ++ g.deaths events) (g.after events) := by
  induction events generalizing g ds with
  | nil => exact .inr (by rw [deaths, List.append_nil]; exact h)
  | cons e later ih =>
      cases e with
      | clock now => exact ih (h.outside now g.remote.script)
      | script s => exact ih (h.outside g.clock s)
      | sweep now => exact ih (h.evictIdle now)
      | request r =>
          by_cases hstartable : Startable g.config r.credentials.host
          · obtain ⟨t, g₁, hresolve⟩ : ∃ t g₁, g.resolve r.credentials = (.ok t, g₁) :=
              h.calm.resolve_ok_iff.2 hstartable
            have hrest := ih (h.dispatch hresolve)
            rw [List.append_assoc] at hrest
            exact hrest
          · exact .inl (poisoned_after (h.calm.dispatch_of_not_startable hstartable).2 later)

theorem recorded_create {config : Config} {clock : Timestamp} {overflow : Overflow}
    (hcreate : create config clock overflow = .ok g) : Recorded [] g := by
  have hg := create_eq hcreate
  refine ⟨furnished_create hcreate, fun t ht => ?_, nofun, clock, overflow, g, ?_⟩
  · rw [hg] at ht
    cases ht
  · rw [show g.config = config by rw [hg]]
    exact hcreate

-- =============================================================== a gateway renewed

theorem furnished_renewed (h : Recorded ds g) : Furnished g.renewed := by
  obtain ⟨clock, overflow, start, hcreate⟩ := h.made
  have hfresh : create g.config g.clock g.overflow
      = .ok { config := g.config, clock := g.clock, overflow := g.overflow } := by
    unfold create at hcreate ⊢
    cases hvalid : g.config.validate with
    | error e =>
        rw [hvalid] at hcreate
        cases hcreate
    | ok u => rfl
  have hcalm := (calm_create hfresh).outside g.clock g.remote.script
  obtain ⟨owner, H⟩ := hcalm.books
  exact ⟨⟨rfl, hcalm.listed.congr ⟨rfl, rfl, rfl, rfl, rfl⟩, rfl, hcalm.ready, hcalm.accepting,
    hcalm.answered, hcalm.ungated, owner, H.congr H.orderly rfl fun _ => rfl⟩,
    fun t ht => absurd ht List.not_mem_nil⟩

/-- A tenant that has just been made has nothing broken in it, and nothing fresh. -/
theorem new_of_renewed (hresolve : g.renewed.resolve who = (.ok t, g₁)) (ht : t ∈ g₁.registered)
    (hx : g₁.tenants[t]? = some x) (now : Timestamp) :
    x.Stale now ∧ ∀ kind, x.broken? kind = none := by
  rcases stock_of_resolve hresolve ht hx with ⟨hold, -⟩ | ⟨-, pools, rfl⟩
  · cases hold
  · exact ⟨⟨nofun, nofun⟩, Tenant.broken?_of_empty rfl⟩

/-- A request finds a tenant whose handlers are broken as recorded. -/
theorem Recorded.dispatched (h : Recorded ds g) (hresolve : g.resolve r.credentials = (.ok t, g₁))
    (hx : g₁.tenants[t]? = some x) :
    (∃ found g₂ y, Dispatched g r t g₁ x found g₂ y)
      ∧ ∀ kind, (x.broken? kind).isSome = true ↔ Bereft ds t kind := by
  obtain ⟨x', found, g₂, y, hdone⟩ := h.toFurnished.dispatch hresolve
  have hx' := hdone.tenant
  rw [hx] at hx'
  cases hx'
  exact ⟨⟨found, g₂, y, hdone⟩, (h.resolve hresolve).broken t hdone.registered x hx⟩

/-- Where no worker has been struck over the handler of a request, and nothing is fresh,
the request ends as for a tenant that has just been made. -/
theorem Recorded.answered (h : Recorded ds g) (hresolve : g.resolve r.credentials = (.ok t, g₁))
    (hx : g₁.tenants[t]? = some x) (hopens : ScriptedRemote.refusal? g.remote.script = none)
    (hstale : x.Stale g.clock) (hspared : ∀ kind, r.needs? = some kind → ¬ Bereft ds t kind) :
    ∃ a b, (g.dispatch r).1 = some a ∧ (g.renewed.dispatch r).1 = some b ∧ a.Resembles b := by
  obtain ⟨⟨found, g₂, y, hdone⟩, hbroken⟩ := h.dispatched hresolve hx
  -- a new gateway, in which the account has a new tenant
  have hrenewed := furnished_renewed h
  obtain ⟨t', g₁', hresolve'⟩ : ∃ t' g₁', g.renewed.resolve r.credentials = (.ok t', g₁') := by
    rw [hrenewed.calm.resolve_ok_iff, show g.renewed.config = g.config from rfl,
      ← h.calm.resolve_ok_iff]
    exact ⟨t, g₁, hresolve⟩
  obtain ⟨x', found', g₂', y', hdone'⟩ := hrenewed.dispatch hresolve'
  obtain ⟨hstale', hsound'⟩ := new_of_renewed hresolve' hdone'.registered hdone'.tenant g.clock
  have hcarried := hdone.carried
  have hcarried' : Carried g.config.messagePageSize r g.outlook x' found' g₂'.outlook y' :=
    hdone'.carried
  have heq : found' = found := by
    cases hneeds : r.needs? with
    | none => exact hcarried.free_eq hcarried' hneeds (.refl _)
    | some kind =>
        have hsound : x.broken? kind = none := by
          rw [← Option.isNone_iff_eq_none, ← Option.isSome_eq_false_iff, Bool.eq_false_iff]
          exact fun hsome => hspared kind hneeds ((hbroken kind).1 hsome)
        rw [(hcarried.through kind hneeds).value hsound hstale hopens,
          (hcarried'.through kind hneeds).value (hsound' kind) hstale' hopens]
  subst heq
  rw [hdone.dispatched, hdone'.dispatched]
  exact ⟨_, _, rfl, rfl, hdone.resembles hdone' rfl rfl⟩

/-- Where a worker has been struck over it, the request is refused. -/
theorem Recorded.refused (h : Recorded ds g) (hresolve : g.resolve r.credentials = (.ok t, g₁))
    (hx : g₁.tenants[t]? = some x) (hneeds : r.needs? = some kind) (hbereft : Bereft ds t kind) :
    ∃ l : Lock, l.kind = kind ∧
      (g.dispatch r).1 = some (.ofError (.lockPoisoned l.subject)) := by
  obtain ⟨⟨found, g₂, y, hdone⟩, hbroken⟩ := h.dispatched hresolve hx
  obtain ⟨l, hl⟩ := Option.isSome_iff_exists.1 ((hbroken kind).2 hbereft)
  refine ⟨l, Tenant.kind_of_broken hl, ?_⟩
  rw [hdone.dispatched, ((hdone.carried.through kind hneeds).refused l hl).1]
  rfl

end

/-- A panic of the remote system, in answer to a query or to the opening of a session,
is noticed by requests that need the handler it was over, and by no others. Those are
refused for good: the answer says that a lock on the way to the handler is poisoned.
Every other request, and all of them as long as no such panic was over their handler,
is answered as by a gateway that has just been built with the watermarks as they are,
once sessions can be opened again and no cache of the tenant is fresh. -/
theorem answered_after_deaths {config : Config} {clock : Timestamp} {overflow : Overflow}
    {start g g₁ : Gateway} {events : List Event} {r : Request} {t : Nat} {x : Tenant}
    (hcreate : create config clock overflow = .ok start) (hg : start.after events = g)
    (hresolve : g.resolve r.credentials = (.ok t, g₁)) (hx : g₁.tenants[t]? = some x) :
    (ScriptedRemote.refusal? g.remote.script = none → x.Stale g.clock →
        (∀ kind, r.needs? = some kind → ¬ Bereft (start.deaths events) t kind) →
        ∃ a b, (g.dispatch r).1 = some a ∧ (g.renewed.dispatch r).1 = some b ∧ a.Resembles b)
      ∧ ∀ kind, r.needs? = some kind → Bereft (start.deaths events) t kind →
        ∃ l : Lock, l.kind = kind ∧
          (g.dispatch r).1 = some (.ofError (.lockPoisoned l.subject)) := by
  subst hg
  rcases (recorded_create hcreate).after events with hdead | hrecorded
  · unfold resolve at hresolve
    rw [if_pos hdead] at hresolve
    cases hresolve
  · constructor
    · intro hopens hstale hspared
      exact hrecorded.answered hresolve hx hopens hstale hspared
    · intro kind hneeds hbereft
      exact hrecorded.refused hresolve hx hneeds hbereft

-- ------------------------------------------------------------------- an outage

/-- The active jobs are asked for. -/
def listing : Request := ⟨⟨"h", "u", "p"⟩, "listJobs", .empty, "jobs"⟩

/-- The subsystems are asked for. -/
def survey : Request := ⟨⟨"h", "u", "p"⟩, "listSubsystems", .empty, "subsystems"⟩

/-- A worker dies over the active jobs, and an hour later all is well again. -/
def outage : List Event :=
  [.script { panics := ["activeJobs"] }, .request listing, .script {}, .clock ⟨3600, 0⟩]

/-- The tenant is still there, and nothing in it is fresh. -/
theorem tenant_outage :
    ∃ found x, (dawn.after outage).resolve listing.credentials = (.ok 0, found)
      ∧ found.tenants[0]? = some x ∧ x.Stale (dawn.after outage).clock := by
  have halive : (dawn.after outage).poisoned = false := by decide +kernel
  have hfind : (dawn.after outage).find? listing.credentials.key = some 0 := by decide +kernel
  have hstale : (((dawn.after outage).touch 0).tenants[0]?.map fun x =>
      decide (x.Stale (dawn.after outage).clock)) = some true := by decide +kernel
  obtain ⟨x, hx, hdecide⟩ := Option.map_eq_some_iff.1 hstale
  refine ⟨(dawn.after outage).touch 0, x, ?_, hx, of_decide_eq_true hdecide⟩
  unfold resolve
  rw [halive, if_neg Bool.false_ne_true, hfind]

/-- Not every request is answered as by a gateway that has just been built, though
the remote system answers everything again and no cache is fresh. -/
theorem not_all_as_renewed :
    ¬ ∀ (events : List Event) (r : Request) (t : Nat) (x : Tenant) (found : Gateway),
      (dawn.after events).resolve r.credentials = (.ok t, found) → found.tenants[t]? = some x →
      (dawn.after events).remote.script = {} → x.Stale (dawn.after events).clock →
      ∃ a b, ((dawn.after events).dispatch r).1 = some a
        ∧ ((dawn.after events).renewed.dispatch r).1 = some b ∧ a.Resembles b := by
  intro hall
  obtain ⟨found, x, hresolve, hx, hstale⟩ := tenant_outage
  obtain ⟨a, b, ha, hb, hlike⟩ := hall outage listing 0 x found hresolve hx rfl hstale
  have hrefused : ((dawn.after outage).dispatch listing).1.map Response.message
      = some (some "Lock poisoned: activeJobs cache") := by decide +kernel
  have hserved : ((dawn.after outage).renewed.dispatch listing).1.map Response.message
      = some none := by decide +kernel
  rw [ha] at hrefused
  rw [hb] at hserved
  have hnone : b.message = none := Option.some.inj hserved
  rcases hlike with heq | ⟨spec, spec', n, m, -, -, -, heq⟩
  · rw [heq, Option.some.inj hrefused] at hnone
    cases hnone
  · rw [heq] at hnone
    cases hnone

/-- The subsystems are listed as by a gateway that has just been built, and the
active jobs are refused. -/
theorem answered_after_outage :
    (∃ a b, ((dawn.after outage).dispatch survey).1 = some a
        ∧ ((dawn.after outage).renewed.dispatch survey).1 = some b ∧ a.Resembles b)
      ∧ ∃ l : Lock, l.kind = .jobs
        ∧ ((dawn.after outage).dispatch listing).1 = some (.ofError (.lockPoisoned l.subject)) := by
  have hcreate : create {} ⟨0, 0⟩ .panics = .ok dawn := rfl
  have hdeaths : dawn.deaths outage = [(0, listing)] := rfl
  have hjobs : listing.needs? = some .jobs := by decide +kernel
  have hsurvey : survey.needs? = none := by decide +kernel
  obtain ⟨found, x, hresolve, hx, hstale⟩ := tenant_outage
  constructor
  · refine (answered_after_deaths (r := survey) hcreate rfl hresolve hx).1 rfl hstale ?_
    intro kind hkind
    rw [hsurvey] at hkind
    cases hkind
  · refine (answered_after_deaths hcreate rfl hresolve hx).2 .jobs hjobs ?_
    rw [hdeaths, bereft_singleton]
    exact ⟨rfl, hjobs⟩

end Gateway

end CheckGateway
