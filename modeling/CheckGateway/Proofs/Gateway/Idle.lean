/-
Whom a sweep takes out of the registry, and whom it leaves alone.

While it looks around nothing else happens. It takes out the tenants that are
`Unused`: nothing of them is in flight, and they have not been used for longer
than the idle timeout. Their pools are shut down and their slots are emptied.
Nobody else notices, and a second sweep at the same time finds nothing
(`Sweep`, `sweep_takes_out_the_unused`).

A request that is queued or run is in flight, so a tenant that has work is not
taken out, however long ago it was used (`Tenant.Runs.holds_of_hasWork`).

A registry whose lock is poisoned is not swept: the caller is told, and that is
all. It comes to this where the pools of a tenant cannot be started
(`poisoned_registry_is_not_swept`).
-/
import CheckGateway.Proofs.Dispatch.Exact
import CheckGateway.Proofs.Gateway.Operations
import CheckGateway.Proofs.Gateway.Turnover

namespace CheckGateway

-- ======================================================== work is in flight

section

variable {x : Tenant} {n : Nat} {kind : PoolKind}

/-- Work of a pool is the work of its lane. -/
theorem Dispatch.work_ne_nil_of_hasWork {p : Pool Work Response} (h : p.HasWork)
    (asked : List Nat) (handles : Pool.Handles) :
    Dispatch.work (⟨p, [], [], asked, 0, handles⟩ : Pool.Live Work Response) ≠ [] := by
  have hplaces : (⟨p, [], [], asked, 0, handles⟩ : Pool.Live Work Response).places
      = p.queue.map .queued ++ p.taken.map .taken := rfl
  unfold Dispatch.work
  rw [hplaces]
  rcases h with hqueue | ⟨y, hy, job, hstage⟩
  · obtain ⟨item, rest, heq⟩ := List.exists_cons_of_ne_nil hqueue
    rw [heq]
    exact List.cons_ne_nil _ _
  · refine List.ne_nil_of_mem (a := (y.ticket, y.fingerprint)) (List.mem_filterMap.2 ?_)
    refine ⟨.taken y, List.mem_append_right _ (List.mem_map_of_mem hy), ?_⟩
    obtain ⟨ticket, fingerprint, stage⟩ := y
    cases hstage
    rfl

/-- What a tenant has queued or is running is in flight. -/
theorem Tenant.Runs.holds_of_hasWork (h : x.Runs n) (hwork : (x.pools.get kind).HasWork) :
    ∃ fp, x.inFlight.holds fp = true := by
  obtain ⟨specs, numbers, pools, log, d, hstart, hrun, hshows⟩ := h
  obtain ⟨asked, handles, -, hlane⟩ := hshows.lanes kind
  have hledger := hrun.ledger fun kind => (Pool.start?_eq (hstart kind)).1
  obtain ⟨c, hc⟩ := List.exists_mem_of_ne_nil _
    (Dispatch.work_ne_nil_of_hasWork hwork asked handles)
  have hdue : c ∈ d.work := by
    refine List.mem_flatMap.2 ⟨kind, by cases kind <;> decide, ?_⟩
    rw [hlane]
    exact hc
  refine ⟨c.2, ?_⟩
  rw [← hshows.inFlight]
  exact (hledger.holds_iff c.2).2
    ⟨c.1, hledger.unreleased_iff.2 (List.mem_append_right _ hdue)⟩

end

namespace Gateway

-- ===================================================================== idle

/-- Nothing of a tenant is in flight, and the whole milliseconds since it was used
are more than the idle timeout. -/
def Unused (g : Gateway) (now : Timestamp) (t : Nat) : Prop :=
  ∃ x, g.tenants[t]? = some x ∧ (∀ fp, x.inFlight.holds fp = false)
    ∧ ((g.config.tenantIdleTimeout : Int) + 1) * Timestamp.perMilli
        ≤ Timestamp.nanosBetween x.lastUsed now

/-- A tenant that takes nothing more and has no handler. -/
structure Retired (x : Tenant) : Prop where
  closed : ∀ kind, (x.pools.get kind).isShutDown = true
  bare : x.slots.initialized = []

section

variable {g g' : Gateway} {now : Timestamp} {t : Nat} {ts : List Nat} {x : Tenant}
  {f : Tenant → Tenant} {P : Tenant → Prop}

theorem isIdle_iff : g.isIdle now t = true ↔ g.Unused now t := by
  unfold isIdle Unused
  cases hx : g.tenants[t]? with
  | none => simp
  | some x =>
      simp only [Bool.and_eq_true, beq_iff_eq, decide_eq_true_eq, InFlight.size_eq_zero_iff,
        Timestamp.lt_elapsedMs_iff, Option.some.injEq, exists_eq_left']

/-- A tenant with work is not idle, however long ago it was used. -/
theorem Sound.not_unused (h : g.Sound) {kind : PoolKind} (hx : g.tenants[t]? = some x)
    (hwork : (x.pools.get kind).HasWork) : ¬ g.Unused now t := by
  rintro ⟨y, hy, hnothing, -⟩
  obtain rfl := Option.some.inj (hx.symm.trans hy)
  obtain ⟨fp, hholds⟩ := (h t x hx).holds_of_hasWork hwork
  rw [hnothing fp] at hholds
  cases hholds

theorem initialized_clear (s : HandlerSlots) : s.clear.initialized = [] := by
  refine List.filter_eq_nil_iff.2 fun kind _ => ?_
  have hslot : s.clear.get kind = (s.get kind).clear := by cases kind <;> rfl
  rw [hslot, Slot.get?_clear]
  exact Bool.false_ne_true

theorem retired_shut (x : Tenant) : Retired (shut x) := by
  refine ⟨fun kind => ?_, initialized_clear x.slots⟩
  show ((x.pools.map Pool.shutDown).get kind).isShutDown = true
  rw [pools_get_map]
  rfl

theorem Retired.dropped (h : Retired x) : Retired (dropped x) :=
  ⟨h.closed, initialized_clear x.slots⟩

theorem Retired.disown (h : Retired x) : Retired x.disown := ⟨h.closed, h.bare⟩

-- ====================================================== several tenants changed

theorem updateAll_of_not_mem (ht : t ∉ ts) :
    (g.updateAll ts f).tenants[t]? = g.tenants[t]? := by
  rw [← foldl_update]
  induction ts generalizing g with
  | nil => rfl
  | cons s ts ih =>
      obtain ⟨hne, ht⟩ := not_or.1 (mt List.mem_cons.2 ht)
      rw [List.foldl_cons, ih ht, getElem?_update]
      cases g.tenants[t]? with
      | none => rfl
      | some x => exact congrArg some (if_neg (Ne.symm hne))

/-- What becomes of a tenant when one tenant is changed. -/
theorem update_of_getElem? (s : Nat) (f : Tenant → Tenant) (hx : g.tenants[t]? = some x) :
    (g.update s f).tenants[t]? = some (if s = t then f x else x) := by
  rw [getElem?_update, hx]
  rfl

/-- What every change keeps. -/
theorem updateAll_keeps (hkeeps : ∀ x, P x → P (f x)) (hx : g.tenants[t]? = some x) (h : P x) :
    ∃ y, (g.updateAll ts f).tenants[t]? = some y ∧ P y := by
  rw [← foldl_update]
  induction ts generalizing g x with
  | nil => exact ⟨x, hx, h⟩
  | cons s ts ih =>
      apply ih (update_of_getElem? s f hx)
      by_cases heq : s = t
      · rw [if_pos heq]
        exact hkeeps x h
      · rw [if_neg heq]
        exact h

/-- What every change sees to. -/
theorem updateAll_sets (hsets : ∀ x, P (f x)) (hx : g.tenants[t]? = some x) (ht : t ∈ ts) :
    ∃ y, (g.updateAll ts f).tenants[t]? = some y ∧ P y := by
  induction ts generalizing g x with
  | nil => cases ht
  | cons s ts ih =>
      show ∃ y, ((g.update s f).updateAll ts f).tenants[t]? = some y ∧ P y
      have hfirst := update_of_getElem? s f hx
      by_cases heq : s = t
      · rw [if_pos heq] at hfirst
        exact updateAll_keeps (fun x _ => hsets x) hfirst (hsets x)
      · exact ih hfirst ((List.mem_cons.1 ht).resolve_left (Ne.symm heq))

/-- Tenants are dropped unless somebody holds on to them. -/
theorem dropTenants_eq_updateAll (g : Gateway) (ts : List Nat) :
    g.dropTenants ts = g.updateAll (ts.filter fun t => !g.kept.contains t) Gateway.dropped := by
  unfold dropTenants
  rw [← foldl_update]
  induction ts generalizing g with
  | nil => rfl
  | cons t ts ih =>
      rw [List.foldl_cons, List.filter_cons]
      cases hkept : g.kept.contains t with
      | true => exact ih g
      | false => exact ih (g.update t Gateway.dropped)

-- ===================================================================== sweeps

/-- The gateway when a sweep is over. -/
def afterSweep (g : Gateway) (now : Timestamp) : Gateway :=
  let left : Gateway := { g with registered := g.registered.filter fun t => !g.isIdle now t }
  let idle := g.idleAt now
  ((left.updateAll idle shut).updateAll (idle.filter fun t => !g.kept.contains t)
    Gateway.dropped).reclaimAll idle

theorem evictIdle_of_alive (halive : g.poisoned = false) (now : Timestamp) :
    g.evictIdle now = (.ok (g.idleAt now).length, g.afterSweep now) := by
  let left : Gateway := { g with registered := g.registered.filter fun t => !g.isIdle now t }
  have hclosed : (g.idleAt now).foldl close left = left.updateAll (g.idleAt now) shut :=
    foldl_update shut _ left
  have hdropped := dropTenants_eq_updateAll (left.updateAll (g.idleAt now) shut) (g.idleAt now)
  unfold evictIdle
  rw [if_neg (by simp [halive])]
  show (_, (((g.idleAt now).foldl close left).dropTenants (g.idleAt now)).reclaimAll _) = _
  rw [hclosed, hdropped]
  rfl

/-- What a sweep does that takes out a number of tenants. -/
structure Sweep (g : Gateway) (now : Timestamp) (n : Nat) (g' : Gateway) : Prop where
  /-- The unused tenants are taken out, and nobody else. -/
  stays : ∀ t, t ∈ g'.registered ↔ t ∈ g.registered ∧ ¬ g.Unused now t
  order : g'.registered.Sublist g.registered
  counted : n + g'.registered.length = g.registered.length
  /-- Who is taken out is shut down and has no handler. -/
  retired : ∀ t ∈ g.registered, g.Unused now t → ∃ x, g'.tenants[t]? = some x ∧ Retired x
  /-- All other tenants are as they were. -/
  others : ∀ t, ¬ (t ∈ g.registered ∧ g.Unused now t) → g'.tenants[t]? = g.tenants[t]?
  /-- So is the rest of the gateway: the watermarks and the settings, for
  instance. -/
  rest : g' = { g with
    registered := g'.registered, tenants := g'.tenants, remote := g'.remote }
  /-- A second sweep at the same time finds nothing. -/
  again : g'.evictIdle now = (.ok 0, g')
  /-- A tenant with work stays, however long ago it was used. -/
  busy : ∀ t ∈ g.registered, ∀ x, g.tenants[t]? = some x →
    ∀ kind, (x.pools.get kind).HasWork → t ∈ g'.registered

theorem mem_idleAt_iff : t ∈ g.idleAt now ↔ t ∈ g.registered ∧ g.Unused now t := by
  unfold idleAt
  rw [List.mem_filter, isIdle_iff]

theorem registered_afterSweep (g : Gateway) (now : Timestamp) :
    (g.afterSweep now).registered = g.registered.filter fun t => !g.isIdle now t := by
  unfold afterSweep
  rw [reclaimAll_eq]
  rfl

theorem tenants_afterSweep (g : Gateway) (now : Timestamp) :
    (g.afterSweep now).tenants
      = (((g.updateAll (g.idleAt now) shut).updateAll
          ((g.idleAt now).filter fun t => !g.kept.contains t) Gateway.dropped).updateAll
            (g.idleAt now) Tenant.disown).tenants := by
  unfold afterSweep
  rw [reclaimAll_eq]
  rfl

/-- Who is not taken out is as before. -/
theorem tenants_afterSweep_of_used (hused : t ∉ g.idleAt now) :
    (g.afterSweep now).tenants[t]? = g.tenants[t]? := by
  have hdropped : t ∉ (g.idleAt now).filter fun t => !g.kept.contains t :=
    fun h => hused (List.mem_filter.1 h).1
  rw [tenants_afterSweep, updateAll_of_not_mem hused, updateAll_of_not_mem hdropped,
    updateAll_of_not_mem hused]

/-- Who is taken out is retired when it is shut down, and remains so. -/
theorem retired_afterSweep (hidle : t ∈ g.idleAt now) (hx : g.tenants[t]? = some x) :
    ∃ y, (g.afterSweep now).tenants[t]? = some y ∧ Retired y := by
  have hdropped : ∀ x, Retired x → Retired (Gateway.dropped x) := fun _ => Retired.dropped
  have hdisowned : ∀ x, Retired x → Retired x.disown := fun _ => Retired.disown
  obtain ⟨y, hy, hretired⟩ := updateAll_sets retired_shut hx hidle
  obtain ⟨z, hz, hretired⟩ := updateAll_keeps hdropped hy hretired
  rw [tenants_afterSweep]
  exact updateAll_keeps hdisowned hz hretired

theorem reclaimAll_nil (g : Gateway) : g.reclaimAll [] = g := by
  simp [reclaimAll, disconnect]

/-- Where nobody is idle, a sweep leaves everything alone. -/
theorem evictIdle_of_nobody (halive : g.poisoned = false) (hnobody : g.idleAt now = []) :
    g.evictIdle now = (.ok 0, g) := by
  have hall : (g.registered.filter fun t => !g.isIdle now t) = g.registered := by
    refine List.filter_eq_self.2 fun t ht => ?_
    have hused := List.filter_eq_nil_iff.1 hnobody t ht
    rw [Bool.not_eq_true] at hused
    rw [hused]
    rfl
  have hafter : g.afterSweep now = g := by
    unfold afterSweep
    rw [hnobody, hall]
    exact reclaimAll_nil g
  rw [evictIdle_of_alive halive, hnobody, hafter]
  rfl

/-- Nobody is idle after a sweep: who stays is as it was, and was used. -/
theorem idleAt_afterSweep (g : Gateway) (now : Timestamp) :
    (g.afterSweep now).idleAt now = [] := by
  refine List.filter_eq_nil_iff.2 fun t ht => ?_
  rw [registered_afterSweep, List.mem_filter, Bool.not_eq_true'] at ht
  have hused : t ∉ g.idleAt now := by
    intro h
    rw [(List.mem_filter.1 h).2] at ht
    cases ht.2
  have hsame : (g.afterSweep now).isIdle now t = g.isIdle now t := by
    unfold isIdle
    rw [tenants_afterSweep_of_used hused]
    unfold afterSweep
    rw [reclaimAll_eq]
    rfl
  rw [hsame, ht.2]
  exact Bool.false_ne_true

theorem Sound.sweep (h : g.Sound) (halive : g.poisoned = false) (now : Timestamp) :
    Sweep g now (g.idleAt now).length (g.afterSweep now) := by
  have hstays : ∀ t, t ∈ (g.afterSweep now).registered
      ↔ t ∈ g.registered ∧ ¬ g.Unused now t := by
    intro t
    rw [registered_afterSweep, List.mem_filter, ← isIdle_iff, Bool.not_eq_true', Bool.not_eq_true]
  refine ⟨hstays, ?_, ?_, fun t ht hunused => ?_, fun t ht => ?_, ?_, ?_,
    fun t ht x hx kind hwork => ?_⟩
  · rw [registered_afterSweep]
    exact List.filter_sublist
  · rw [registered_afterSweep]
    exact (List.length_eq_length_filter_add (g.isIdle now)).symm
  · obtain ⟨x, hx, -⟩ := id hunused
    exact retired_afterSweep (mem_idleAt_iff.2 ⟨ht, hunused⟩) hx
  · exact tenants_afterSweep_of_used (mt mem_idleAt_iff.1 ht)
  · unfold afterSweep
    rw [reclaimAll_eq]
    rfl
  · apply evictIdle_of_nobody _ (idleAt_afterSweep g now)
    unfold afterSweep
    rw [reclaimAll_eq]
    exact halive
  · exact (hstays t).2 ⟨ht, h.not_unused hx hwork⟩

/-- Whatever has happened before, a sweep takes out the unused tenants and leaves
everybody else alone, unless the lock of the registry is poisoned: then it says
so, and nothing changes at all. -/
theorem sweep_takes_out_the_unused (h : g.Sound) (now : Timestamp) :
    (g.poisoned = true ∧ g.evictIdle now = (.error registryPoisoned, g))
      ∨ (g.poisoned = false ∧
          ∃ n g', g.evictIdle now = (.ok n, g') ∧ Sweep g now n g') := by
  cases halive : g.poisoned with
  | true =>
      left
      unfold evictIdle
      rw [if_pos halive]
      exact ⟨rfl, rfl⟩
  | false => exact .inr ⟨rfl, _, _, evictIdle_of_alive halive now, h.sweep halive now⟩

end

-- ==================================================================== examples

/-- Two tenants, the second one with a request in its queue. -/
def twoTenants : Gateway :=
  let start : Gateway := { config := {}, clock := ⟨0, 0⟩ }
  let first := (start.resolve ⟨"first", "login", "password"⟩).2
  let second := (first.resolve ⟨"second", "login", "password"⟩).2
  (second.offer 1 ⟨⟨"second", "login", "password"⟩, "listJobs", .empty, "payload"⟩).2

/-- A third tenant comes two hours and a millisecond later. -/
def threeTenants : Gateway :=
  ({ twoTenants with clock := ⟨7200, 1000000⟩ }.resolve ⟨"third", "login", "password"⟩).2

theorem reached_threeTenants : Reached {} threeTenants := by
  have hstart : Reached {} { config := {}, clock := ⟨0, 0⟩ } := .create ⟨0, 0⟩ .panics rfl
  have htwo : Reached {} twoTenants := ((hstart.resolve _).resolve _).offer _ _
  have hlater : Reached {} { twoTenants with clock := ⟨7200, 1000000⟩ } := htwo.outside rfl rfl
  exact hlater.resolve _

/-- A millisecond after the idle timeout the first one is taken out. -/
theorem sweep_of_three_tenants :
    threeTenants.Sound ∧ threeTenants.registered = [2, 1, 0]
      ∧ ∃ g', threeTenants.evictIdle ⟨7200, 1000000⟩ = (.ok 1, g')
        ∧ g'.registered = [2, 1] ∧ Sweep threeTenants ⟨7200, 1000000⟩ 1 g' := by
  have hsound := reached_threeTenants.sound
  refine ⟨hsound, rfl, ?_⟩
  rcases sweep_takes_out_the_unused hsound ⟨7200, 1000000⟩ with
    ⟨hpoisoned, -⟩ | ⟨-, n, g', hevict, hsweep⟩
  · cases hpoisoned
  · have hcount : (threeTenants.evictIdle ⟨7200, 1000000⟩).1 = .ok 1 := rfl
    have hleft : (threeTenants.evictIdle ⟨7200, 1000000⟩).2.registered = [2, 1] := rfl
    rw [hevict] at hcount hleft
    cases hcount
    exact ⟨g', hevict, hleft, hsweep⟩

/-- Settings with which no queue can be made. -/
def roomless : Config := { queueCapacity := PoolSpec.maxCapacity + 1 }

/-- The first tenant cannot be made, and from then on a sweep does not tell how
many tenants it takes out. -/
theorem poisoned_registry_is_not_swept :
    ∃ g, Reached roomless g ∧ ∀ now, g.evictIdle now = (.error registryPoisoned, g)
      ∧ ∀ n, (g.evictIdle now).1 ≠ .ok n := by
  have hreached : Reached roomless { config := roomless, clock := ⟨0, 0⟩ } :=
    .create ⟨0, 0⟩ .panics rfl
  exact ⟨_, hreached.resolve ⟨"host", "login", "password"⟩, fun _ => ⟨rfl, fun _ => nofun⟩⟩

end Gateway

end CheckGateway
