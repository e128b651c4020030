/-
Tenants come and go while a gateway is at rest.

A sweep takes out the tenants that nobody has used for too long: their pools
are shut down, their slots forget their handlers, and the sessions of these are
disconnected. Nobody works for them then, so the books stay in order
(`Calm.evictIdle`), and the other tenants notice nothing. A request gets the
tenant of its account, which is made if there is none (`Calm.resolve`).

Accounts are told apart by their keys, and `tenantOf?` is the tenant that
requests of an account get. That is all there is to see of the registry: which
numbers its tenants have, and which pools, does not matter.
-/
import CheckGateway.Proofs.Gateway.Rest

namespace CheckGateway

/-- What a pool is called when it is started. -/
theorem Pool.name_of_start? {Job Reply : Type} {spec : PoolSpec} {n : Nat} {p : Pool Job Reply}
    (h : Pool.start? spec n = some p) : p.name = spec.name n := by
  unfold Pool.start? at h
  dsimp only at h
  split at h
  · cases h
  · cases h
    rfl

namespace Gateway

-- ==================================================== several tenants at once

/-- Changes several tenants. -/
def updateAll (g : Gateway) (ts : List Nat) (f : Tenant → Tenant) : Gateway :=
  { g with tenants := ts.foldl (fun xs t => xs.modify t f) g.tenants }

/-- A tenant that has been shut down. -/
def shut (x : Tenant) : Tenant :=
  { x with pools := x.pools.map Pool.shutDown, slots := x.slots.clear }

/-- A tenant that has been dropped. -/
def dropped (x : Tenant) : Tenant := { x with slots := x.slots.clear }

/-- A tenant that has been evicted. -/
def evicted (x : Tenant) : Tenant := (dropped (shut x)).disown

section

variable {g g' : Gateway} {ts : List Nat} {f : Tenant → Tenant} {hands : Hands}
  {owner : Nat → Option Owner} {t : Nat} {x : Tenant}

theorem foldl_update (f : Tenant → Tenant) (ts : List Nat) (g : Gateway) :
    ts.foldl (fun g t => g.update t f) g = g.updateAll ts f := by
  induction ts generalizing g with
  | nil => rfl
  | cons t ts ih => exact ih (g.update t f)

theorem getElem?_foldl_modify {α : Type} (f : α → α) {ts : List Nat} (hnodup : ts.Nodup)
    (xs : List α) (n : Nat) :
    (ts.foldl (fun xs t => xs.modify t f) xs)[n]?
      = xs[n]?.map fun x => if n ∈ ts then f x else x := by
  induction ts generalizing xs with
  | nil => simp
  | cons t ts ih =>
      obtain ⟨ht, hnodup⟩ := List.nodup_cons.1 hnodup
      rw [List.foldl_cons, ih hnodup, List.getElem?_modify, Option.map_eq_map, Option.map_map]
      refine congrArg (Option.map · xs[n]?) (funext fun x => ?_)
      by_cases heq : t = n
      · subst heq
        simp [ht]
      · simp [heq, Ne.symm heq]

theorem tenants_updateAll (hnodup : ts.Nodup) (f : Tenant → Tenant) (t : Nat) :
    (g.updateAll ts f).tenants[t]? = g.tenants[t]?.map fun x => if t ∈ ts then f x else x :=
  getElem?_foldl_modify f hnodup g.tenants t

/-- Changed all in one way, and then all in another. -/
theorem updateAll_updateAll (hnodup : ts.Nodup) (f f' : Tenant → Tenant) :
    (g.updateAll ts f).updateAll ts f' = g.updateAll ts (f' ∘ f) := by
  have htenants : ((g.updateAll ts f).updateAll ts f').tenants
      = (g.updateAll ts (f' ∘ f)).tenants := by
    apply List.ext_getElem?
    intro t
    rw [tenants_updateAll hnodup, tenants_updateAll hnodup, tenants_updateAll hnodup,
      Option.map_map]
    refine congrArg (Option.map · g.tenants[t]?) (funext fun x => ?_)
    by_cases ht : t ∈ ts
    · simp [ht]
    · simp [ht]
  exact congrArg (fun tenants => { g with tenants := tenants }) htenants

/-- Tenants that nobody holds on to are dropped. -/
theorem dropTenants_eq (hkept : g.kept = []) (ts : List Nat) :
    g.dropTenants ts = g.updateAll ts dropped := by
  unfold dropTenants
  rw [← foldl_update]
  induction ts generalizing g with
  | nil => rfl
  | cons t ts ih =>
      rw [List.foldl_cons, List.foldl_cons, hkept]
      exact ih hkept

theorem reclaimAll_eq (g : Gateway) (ts : List Nat) :
    g.reclaimAll ts =
      (g.updateAll ts Tenant.disown).disconnect ((g.leftovers ts).mergeSort (· ≤ ·)) := by
  unfold reclaimAll
  dsimp only
  rw [foldl_update]
  rfl

theorem Holds.reclaimAll (H : Holds g hands owner) (hnodup : ts.Nodup)
    (htidy : ∀ t ∉ ts, ∀ y : Tenant, g.tenants[t]? = some y → Tidy y) :
    Balanced (g.reclaimAll ts) hands
      (disowned owner ((g.leftovers ts).mergeSort (· ≤ ·))) := by
  rw [reclaimAll_eq]
  exact H.reclaimed hnodup (List.mergeSort_perm _ _) htidy
    (tenants_updateAll hnodup Tenant.disown) rfl

/-- A tenant that nobody works for is shut down and dropped. -/
theorem backs_dropped (hbacks : Backs (fun _ => {}) t x) :
    Backs (fun _ => {}) t (dropped (shut x)) := by
  have hshut : Backs (fun _ => {}) t (shut x) := hbacks.cleared (fun _ _ => nofun) rfl rfl rfl
  exact hshut.cleared (fun _ _ => nofun) rfl rfl rfl

-- ==================================================================== sweeps

/-- The tenants that a sweep takes out. -/
def idleAt (g : Gateway) (now : Timestamp) : List Nat := g.registered.filter (g.isIdle now)

/-- The gateway when the tenants that a sweep takes out are shut down and
dropped. -/
def vacated (g : Gateway) (now : Timestamp) : Gateway :=
  { g.updateAll (g.idleAt now) (dropped ∘ shut) with
    registered := g.registered.filter fun t => !g.isIdle now t }

theorem getElem?_vacated (hnodup : g.registered.Nodup) (now : Timestamp) (t : Nat) :
    (g.vacated now).tenants[t]?
      = g.tenants[t]?.map fun x => if t ∈ g.idleAt now then dropped (shut x) else x :=
  tenants_updateAll (hnodup.filter _) (dropped ∘ shut) t

/-- A sweep, where the registry is sound and nobody holds on to tenants. -/
theorem evictIdle_eq (halive : g.poisoned = false) (hkept : g.kept = [])
    (hnodup : g.registered.Nodup) (now : Timestamp) :
    (g.evictIdle now).2 = (g.vacated now).reclaimAll (g.idleAt now) := by
  have hidle : (g.idleAt now).Nodup := hnodup.filter _
  let left : Gateway := { g with registered := g.registered.filter fun t => !g.isIdle now t }
  have hclosed : (g.idleAt now).foldl close left = left.updateAll (g.idleAt now) shut :=
    foldl_update shut _ left
  have hdropped : (left.updateAll (g.idleAt now) shut).dropTenants (g.idleAt now)
      = g.vacated now := by
    rw [dropTenants_eq (by exact hkept), updateAll_updateAll hidle]
    rfl
  unfold evictIdle
  rw [if_neg (by simp [halive])]
  show (((g.idleAt now).foldl close left).dropTenants (g.idleAt now)).reclaimAll (g.idleAt now)
    = _
  rw [hclosed, hdropped]

theorem Listed.nodup (h : g.Listed) : g.registered.Nodup := List.Nodup.of_map _ h.distinct

theorem Calm.evictIdle_eq (h : Calm g) (now : Timestamp) :
    (g.evictIdle now).2 = (g.vacated now).reclaimAll (g.idleAt now) :=
  Gateway.evictIdle_eq h.alive h.unkept h.listed.nodup now

theorem Calm.tenants_evictIdle (h : Calm g) (now : Timestamp) (t : Nat) :
    (g.evictIdle now).2.tenants[t]?
      = g.tenants[t]?.map fun x => if t ∈ g.idleAt now then evicted x else x := by
  have hnodup := h.listed.nodup
  have hidle : (g.idleAt now).Nodup := hnodup.filter _
  rw [h.evictIdle_eq, reclaimAll_eq]
  show ((g.vacated now).updateAll (g.idleAt now) Tenant.disown).tenants[t]? = _
  rw [tenants_updateAll hidle, getElem?_vacated hnodup, Option.map_map]
  refine congrArg (Option.map · g.tenants[t]?) (funext fun x => ?_)
  by_cases ht : t ∈ g.idleAt now
  · simp [ht, evicted]
  · simp [ht]

/-- A tenant that is in use stays as it is. -/
theorem Calm.tenants_of_used (h : Calm g) {now : Timestamp} (hused : g.isIdle now t = false) :
    (g.evictIdle now).2.tenants[t]? = g.tenants[t]? := by
  have hkept : t ∉ g.idleAt now := by
    intro hidle
    rw [(List.mem_filter.1 hidle).2] at hused
    cases hused
  rw [h.tenants_evictIdle]
  simp [hkept]

theorem Calm.registered_evictIdle (h : Calm g) {now : Timestamp} :
    t ∈ (g.evictIdle now).2.registered ↔ t ∈ g.registered ∧ g.isIdle now t = false := by
  rw [h.evictIdle_eq, reclaimAll_eq]
  show t ∈ g.registered.filter (fun t => !g.isIdle now t) ↔ _
  rw [List.mem_filter, Bool.not_eq_true']

/-- What is left of an evicted tenant is ready, though it takes no requests. -/
theorem Ready.evicted {config : Config} (h : Ready config x) : Ready config (evicted x) := by
  have hpools (kind : PoolKind) :
      (Gateway.evicted x).pools.get kind = (x.pools.get kind).shutDown := pools_get_map _ _ _
  refine ⟨fun kind => ?_, fun kind => ?_, fun kind => ?_, fun kind => ?_, h.inFlight, h.locked⟩
  · rw [hpools]
    exact ⟨(h.idle kind).queue, (h.idle kind).taken⟩
  · rw [hpools]
    exact h.workers kind
  · rw [hpools]
    exact h.capacity kind
  · rw [hpools]
    exact h.named kind

/-- A gateway at rest is at rest after a sweep. -/
theorem Calm.evictIdle (h : Calm g) (now : Timestamp) : Calm (g.evictIdle now).2 := by
  have hnodup := h.listed.nodup
  have htenants := h.tenants_evictIdle now
  have heq := h.evictIdle_eq now
  rw [reclaimAll_eq] at heq
  -- the rest of the gateway is as it was
  have hroll : SameRoll { g with registered := g.registered.filter fun t => !g.isIdle now t }
      (g.evictIdle now).2 := by
    refine ⟨by rw [heq]; rfl, by rw [heq]; rfl, by rw [heq]; rfl, by rw [heq]; rfl, ?_⟩
    apply List.ext_getElem?
    intro t
    rw [List.getElem?_map, List.getElem?_map, htenants, Option.map_map]
    refine congrArg (Option.map · g.tenants[t]?) (funext fun x => ?_)
    show Tenant.credentials (if t ∈ g.idleAt now then evicted x else x) = x.credentials
    split <;> rfl
  refine ⟨?_, ?_, ?_, ?_, ?_, ?_, ?_, ?_⟩
  · rw [hroll.poisoned]
    exact h.alive
  · exact (h.listed.sublist List.filter_sublist).congr hroll
  · rw [heq]
    exact h.unkept
  · intro t y hy
    rw [htenants] at hy
    obtain ⟨x, hx, hy⟩ := Option.map_eq_some_iff.1 hy
    subst hy
    rw [hroll.config]
    split
    · exact (h.ready t x hx).evicted
    · exact h.ready t x hx
  · intro t ht y hy kind
    -- who is still registered was in use
    obtain ⟨ht, hused⟩ := h.registered_evictIdle.1 ht
    rw [h.tenants_of_used hused] at hy
    exact h.accepting t ht y hy kind
  · rw [heq]
    exact h.answered
  · intro name
    rw [heq]
    show (List.foldl _ g.remote _).gateOf.get? name = none
    rw [(ScriptedRemote.sameAnswers_disconnectAll _ _).gateOf]
    exact h.ungated name
  · obtain ⟨owner, H⟩ := h.books
    have Hvacated : Holds (g.vacated now) (fun _ => {}) owner := by
      refine H.toHolds.altered rfl (getElem?_vacated hnodup now) fun t x hx => ?_
      split
      · exact ⟨rfl, backs_dropped (H.backs t x hx)⟩
      · exact ⟨rfl, H.backs t x hx⟩
    refine ⟨_, h.evictIdle_eq now ▸ Hvacated.reclaimAll (hnodup.filter _) fun t ht y hy => ?_⟩
    rw [getElem?_vacated hnodup] at hy
    simp only [show t ∉ g.idleAt now from ht, if_false, Option.map_id'] at hy
    exact H.tidy t y hy

-- ================================================= what an account can notice

/-- The tenant that requests of an account get, if it has one. -/
def tenantOf? (g : Gateway) (key : CredentialKey) : Option Tenant :=
  (g.find? key).bind fun t => g.tenants[t]?

/-- What is no tenant's is the same, as far as some watermarks go. -/
structure SameSetting (K : Set WatermarkKey) (g g' : Gateway) : Prop where
  config : g'.config = g.config
  overflow : g'.overflow = g.overflow
  clock : g'.clock = g.clock
  script : g'.remote.script = g.remote.script
  marks : ∀ key ∈ K, g'.watermarks.get? key = g.watermarks.get? key

variable {K : Set WatermarkKey} {g'' : Gateway} {key : CredentialKey} {who : Credentials}

theorem SameSetting.symm (h : SameSetting K g g') : SameSetting K g' g :=
  ⟨h.config.symm, h.overflow.symm, h.clock.symm, h.script.symm, fun k hk => (h.marks k hk).symm⟩

theorem SameSetting.trans (h : SameSetting K g g') (h' : SameSetting K g' g'') :
    SameSetting K g g'' :=
  ⟨h'.config.trans h.config, h'.overflow.trans h.overflow, h'.clock.trans h.clock,
    h'.script.trans h.script, fun k hk => (h'.marks k hk).trans (h.marks k hk)⟩

theorem Listed.tenantOf?_eq_some_iff (h : g.Listed) :
    g.tenantOf? key = some x ↔ ∃ t ∈ g.registered, g.tenants[t]? = some x ∧ x.key = key := by
  unfold tenantOf?
  rw [Option.bind_eq_some_iff]
  constructor
  · intro ⟨t, hfind, hx⟩
    obtain ⟨ht, hkey⟩ := registered_of_find? hfind
    rw [key?_of_tenant hx] at hkey
    exact ⟨t, ht, hx, Option.some.inj hkey⟩
  · intro ⟨t, ht, hx, heq⟩
    refine ⟨t, h.find?_self ht ?_, hx⟩
    rw [key?_of_tenant hx, heq]

/-- What happens to the tenant of another account goes unnoticed. -/
theorem Listed.tenantOf?_of_others {y : Tenant} (h : g.Listed) (h' : g'.Listed)
    (hregistered : g'.registered = g.registered) (hx : g.tenants[t]? = some x)
    (hy : g'.tenants[t]? = some y) (hothers : ∀ t' ≠ t, g'.tenants[t']? = g.tenants[t']?)
    (hkey : x.key ≠ key) (hkey' : y.key ≠ key) : g'.tenantOf? key = g.tenantOf? key := by
  apply Option.ext
  intro z
  rw [h'.tenantOf?_eq_some_iff, h.tenantOf?_eq_some_iff, hregistered]
  refine exists_congr fun t' => and_congr_right fun _ => ?_
  by_cases heq : t' = t
  · subst heq
    rw [hx, hy]
    refine iff_of_false ?_ ?_
    · rintro ⟨hz, hzkey⟩
      cases hz
      exact hkey' hzkey
    · rintro ⟨hz, hzkey⟩
      cases hz
      exact hkey hzkey
  · rw [hothers t' heq]

/-- Who had a number before another was given out is registered as before. -/
theorem mem_registered_of_old (ht : t ∈ g.tenants.length :: g.registered)
    (hx : g.tenants[t]? = some x) : t ∈ g.registered :=
  (List.mem_cons.1 ht).resolve_left (List.getElem?_eq_some_iff.1 hx).1.ne

/-- That another account gets a tenant goes unnoticed. -/
theorem Listed.tenantOf?_of_new (h : g.Listed) (h' : g'.Listed)
    (htenants : g'.tenants = g.tenants ++ [x])
    (hregistered : g'.registered = g.tenants.length :: g.registered) (hkey : x.key ≠ key) :
    g'.tenantOf? key = g.tenantOf? key := by
  apply Option.ext
  intro y
  rw [h'.tenantOf?_eq_some_iff, h.tenantOf?_eq_some_iff, htenants, hregistered]
  constructor
  · intro ⟨t, ht, hy, hykey⟩
    rcases getElem?_concat_iff.1 hy with hy | ⟨-, rfl⟩
    · exact ⟨t, mem_registered_of_old ht hy, hy, hykey⟩
    · exact absurd hykey hkey
  · intro ⟨t, ht, hy, hykey⟩
    exact ⟨t, List.mem_cons_of_mem _ ht, getElem?_concat_iff.2 (.inl hy), hykey⟩

/-- A tenant is left to a sweep for its age alone, for nothing is in flight. -/
theorem Calm.isIdle_eq (h : Calm g) (hx : g.tenants[t]? = some x) (now : Timestamp) :
    g.isIdle now t = decide (g.config.tenantIdleTimeout < x.lastUsed.elapsedMs now) := by
  unfold isIdle
  rw [hx]
  dsimp only
  rw [(h.ready t x hx).inFlight]
  rfl

/-- After a sweep an account has the tenant that it had, if that was used
lately. -/
theorem Calm.tenantOf?_evictIdle (h : Calm g) (now : Timestamp) (key : CredentialKey) :
    (g.evictIdle now).2.tenantOf? key = (g.tenantOf? key).filter fun x =>
      !decide (g.config.tenantIdleTimeout < x.lastUsed.elapsedMs now) := by
  apply Option.ext
  intro x
  rw [(h.evictIdle now).listed.tenantOf?_eq_some_iff, Option.filter_eq_some_iff,
    h.listed.tenantOf?_eq_some_iff]
  constructor
  · intro ⟨t, ht, hx, hkey⟩
    obtain ⟨ht, hused⟩ := h.registered_evictIdle.1 ht
    rw [h.tenants_of_used hused] at hx
    refine ⟨⟨t, ht, hx, hkey⟩, ?_⟩
    rw [← h.isIdle_eq hx, hused]
    rfl
  · intro ⟨⟨t, ht, hx, hkey⟩, hused⟩
    rw [← h.isIdle_eq hx, Bool.not_eq_true'] at hused
    exact ⟨t, h.registered_evictIdle.2 ⟨ht, hused⟩, (h.tenants_of_used hused).trans hx, hkey⟩

theorem Calm.sameSetting_evictIdle (h : Calm g) (now : Timestamp) :
    SameSetting K g (g.evictIdle now).2 := by
  rw [h.evictIdle_eq, reclaimAll_eq]
  exact ⟨rfl, rfl, rfl, (ScriptedRemote.sameAnswers_disconnectAll _ _).script, fun _ _ => rfl⟩

-- ========================================================= finding a tenant

/-- What a tenant is ready for does not depend on its handlers. -/
theorem Ready.congr {config : Config} {y : Tenant} (h : Ready config x)
    (hpools : y.pools = x.pools) (hcredentials : y.credentials = x.credentials)
    (hinFlight : y.inFlight = {}) (hlocked : y.locked = []) : Ready config y := by
  refine ⟨?_, ?_, ?_, ?_, hinFlight, hlocked⟩
  · rw [hpools]
    exact h.idle
  · rw [hpools]
    exact h.workers
  · rw [hpools]
    exact h.capacity
  · rw [hpools, hcredentials]
    exact h.named

/-- A gateway stays at rest if one tenant changes and is ready again. -/
theorem Calm.change {y : Tenant} (h : Calm g) (hroll : SameRoll g g') (hkept : g'.kept = [])
    (hx : g.tenants[t]? = some x)
    (htenants : ∀ t' : Nat, g'.tenants[t']? = if t' = t then some y else g.tenants[t']?)
    (hpools : y.pools = x.pools) (hready : Ready g.config y)
    (hanswered : ∀ entry ∈ g'.answers, entry.1 ≤ g'.tickets)
    (hgates : g'.remote.gateOf = g.remote.gateOf)
    (hbooks : ∃ owner, Balanced g' (fun _ => {}) owner) : Calm g' := by
  refine ⟨hroll.poisoned.trans h.alive, h.listed.congr hroll, hkept, ?_, ?_, hanswered,
    fun name => hgates ▸ h.ungated name, hbooks⟩
  · intro t' z hz
    rw [htenants] at hz
    rw [hroll.config]
    split at hz
    · cases hz
      exact hready
    · exact h.ready t' z hz
  · intro t' ht' z hz kind
    rw [hroll.registered] at ht'
    rw [htenants] at hz
    split at hz
    next heq =>
      cases hz
      rw [hpools]
      exact h.accepting t' ht' x (heq ▸ hx) kind
    next => exact h.accepting t' ht' z hz kind

/-- A tenant that has just been made is ready. -/
theorem ready_start {config : Config} (clock : Timestamp) {started n : Nat} {pools : TenantPools}
    (hstart : startPools config who.host started = (some pools, n)) :
    Ready config { credentials := who, pools := pools, lastUsed := clock }
      ∧ ∀ kind, (pools.get kind).isShutDown = false := by
  obtain ⟨numbers, hpools⟩ := startPools_eq hstart
  have hshape (kind : PoolKind) := Pool.start?_eq (hpools kind)
  refine ⟨⟨fun kind => ?_, fun kind => ?_, fun kind => ?_, fun kind => ?_, rfl, rfl⟩,
    fun kind => (hshape kind).1.isOpen⟩
  · exact ⟨(hshape kind).1.queue, (hshape kind).1.taken⟩
  · rw [(hshape kind).2.1]
    exact Nat.le_max_right _ _
  · rw [(hshape kind).2.2]
    exact Nat.le_max_right _ _
  · exact ⟨numbers kind, Pool.name_of_start? (hpools kind)⟩

/-- What an account finds when it is resolved. -/
structure Resolved (g : Gateway) (who : Credentials) (t : Nat) (g' : Gateway) : Prop where
  calm : Calm g'
  registered : t ∈ g'.registered
  /-- Its tenant, or a new one, has been used just now. -/
  tenant : ∃ pools x, g'.tenants[t]? = some x ∧ x.key = who.key ∧ x =
    { (g.tenantOf? who.key).getD { credentials := who, pools := pools, lastUsed := g.clock } with
      lastUsed := g.clock }
  others : ∀ key ≠ who.key, g'.tenantOf? key = g.tenantOf? key
  setting : SameSetting K g g'

/-- The tenant of an account is found. -/
theorem Calm.resolved_touch (h : Calm g) (hfind : g.find? who.key = some t) :
    Resolved (K := K) g who t (g.touch t) := by
  obtain ⟨ht, hkey⟩ := registered_of_find? hfind
  obtain ⟨x, hx⟩ : ∃ x, g.tenants[t]? = some x :=
    ⟨_, List.getElem?_eq_getElem (h.listed.known t ht)⟩
  have hkey : x.key = who.key := Option.some.inj ((key?_of_tenant hx).symm.trans hkey)
  have htenants (t' : Nat) := tenants_update (f := fun x => { x with lastUsed := g.clock }) hx t'
  have hready := h.ready t x hx
  obtain ⟨owner, H⟩ := h.books
  have hheld := holdings_update (g := g) (t := t)
    (f := fun x => { x with lastUsed := g.clock }) fun _ => rfl
  have hcalm : Calm (g.touch t) :=
    h.change (sameRoll_update fun _ => rfl) h.unkept hx htenants rfl
      (hready.congr rfl rfl hready.inFlight hready.locked) h.answered rfl
      ⟨owner, H.congr H.orderly rfl hheld⟩
  refine ⟨hcalm, ht, ⟨x.pools, { x with lastUsed := g.clock }, ?_, hkey, ?_⟩, ?_,
    ⟨rfl, rfl, rfl, rfl, fun _ _ => rfl⟩⟩
  · exact (htenants t).trans (if_pos rfl)
  · rw [(h.listed.tenantOf?_eq_some_iff).2 ⟨t, ht, hx, hkey⟩]
    rfl
  · intro key hne
    have hne' : x.key ≠ key := fun heq => hne (heq.symm.trans hkey)
    refine h.listed.tenantOf?_of_others hcalm.listed rfl hx ((htenants t).trans (if_pos rfl)) ?_
      hne' hne'
    exact fun t' ht' => (htenants t').trans (if_neg ht')

/-- An account that has no tenant gets one. -/
theorem Calm.resolved_register (h : Calm g) {n : Nat} {pools : TenantPools}
    (hfind : g.find? who.key = none) (hstartable : Startable g.config who.host)
    (hstart : startPools g.config who.host g.poolsStarted = (some pools, n)) :
    Resolved (K := K) g who g.tenants.length
      { g with
        poolsStarted := n
        tenants := g.tenants ++ [{ credentials := who, pools := pools, lastUsed := g.clock }]
        registered := g.tenants.length :: g.registered } := by
  let x : Tenant := { credentials := who, pools := pools, lastUsed := g.clock }
  obtain ⟨hready, hopen⟩ := ready_start g.clock hstart
  obtain ⟨owner, H⟩ := h.books
  have hat {t : Nat} {y : Tenant} : (g.tenants ++ [x])[t]? = some y ↔
      g.tenants[t]? = some y ∨ t = g.tenants.length ∧ y = x := getElem?_concat_iff
  let registered : Gateway :=
    { g with
      poolsStarted := n
      tenants := g.tenants ++ [x]
      registered := g.tenants.length :: g.registered }
  have hlisted : registered.Listed :=
    (h.listed.register (x := x) hfind hstartable).congr ⟨rfl, rfl, rfl, rfl, rfl⟩
  have hcalm : Calm registered := by
    refine ⟨h.alive, hlisted, h.unkept, ?_, ?_, h.answered, h.ungated,
      owner, H.register (fun _ _ => rfl) rfl rfl rfl rfl⟩
    · intro t y hy
      rcases hat.1 hy with hy | ⟨-, rfl⟩
      · exact h.ready t y hy
      · exact hready
    · intro t ht y hy kind
      rcases hat.1 hy with hy' | ⟨-, rfl⟩
      · exact h.accepting t (mem_registered_of_old ht hy') y hy' kind
      · exact hopen kind
  refine ⟨hcalm, List.mem_cons_self, ⟨pools, x, hat.2 (.inr ⟨rfl, rfl⟩), rfl, ?_⟩,
    fun key hne => h.listed.tenantOf?_of_new hlisted rfl rfl hne.symm,
    ⟨rfl, rfl, rfl, rfl, fun _ _ => rfl⟩⟩
  unfold tenantOf?
  rw [hfind]
  rfl

/-- Whoever asks for a tenant of a gateway at rest gets one exactly if pools can be
started for it. -/
theorem Calm.resolve_ok_iff (h : Calm g) :
    (∃ t g', g.resolve who = (.ok t, g')) ↔ Startable g.config who.host := by
  rw [h.listed.resolve_ok_iff]
  exact and_iff_right h.alive

/-- Whoever asks, a gateway at rest finds or makes a tenant and is at rest. -/
theorem Calm.resolve (h : Calm g) (hresolve : g.resolve who = (.ok t, g')) :
    Resolved (K := K) g who t g' := by
  rcases resolve_inv hresolve with ⟨hpoisoned, -, -⟩ | ⟨-, t', hfind, ht, rfl⟩
    | ⟨-, hfind, ⟨-, hr, -⟩ | ⟨hstartable, ht, pools, n, hstart, rfl⟩⟩
  · rw [h.alive] at hpoisoned
    cases hpoisoned
  · cases ht
    exact h.resolved_touch hfind
  · cases hr
  · cases ht
    exact h.resolved_register hfind hstartable hstart

end

end Gateway

end CheckGateway
