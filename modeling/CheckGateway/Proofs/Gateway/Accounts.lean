/-
One tenant for each account.

Accounts are compared by `Credentials.agree`, and tenants are found by their
key, which holds the password as a digest. Where the digests of the passwords
do not collide both say the same, for all texts. The registry then never lists
two tenants of one account, whoever resolves, evicts or shuts down in between,
and a tenant that has been taken out never comes back.

# The roll

What matters is the roll: which account each tenant has, and which tenants are
registered. Jobs, pools and shutting down leave it alone (`SameRoll`), so
there are three things to look at: a tenant is registered, a tenant is taken
out, and the registry dies.
-/
import CheckGateway.Proofs.Digest.Joined
import CheckGateway.Proofs.Gateway.Sessions
import Mathlib.Data.Set.Function

namespace CheckGateway

-- ============================================================ accounts

/-- What of the passwords of some accounts goes into the digest. -/
def Credentials.passwords (accounts : Set Credentials) : Set (List UInt8) :=
  (fun who => Digest.joined who.passwordParts) '' accounts

/-- Accounts agree exactly if their keys are the same. -/
theorem Credentials.agree_iff_key {accounts : Set Credentials} {a b : Credentials}
    (hhash : Set.InjOn Sha256.hash (passwords accounts)) (ha : a ∈ accounts)
    (hb : b ∈ accounts) : a.agree b = true ↔ a.key = b.key := by
  have hpassword : Digest.ofParts a.passwordParts = Digest.ofParts b.passwordParts
      ↔ a.password = b.password := by
    unfold Digest.ofParts
    rw [hhash.eq_iff (Set.mem_image_of_mem _ ha) (Set.mem_image_of_mem _ hb)]
    simp [passwordParts, Digest.bytesOf_inj]
  simp only [agree, key, CredentialKey.mk.injEq, Bool.and_eq_true, beq_iff_eq,
    Text.eqIgnoreCase_iff, hpassword, and_assoc]

/-- Threads can be named after a host without the character of code zero. -/
theorem PoolSpec.nameable_iff (host : String) : nameable host = true ↔ '\x00' ∉ host.toList := by
  unfold nameable
  rw [Bool.not_eq_true', ← Bool.not_eq_true, List.contains_iff_mem]

/-- Whether workers can be named after a host does not depend on its letter case. -/
theorem PoolSpec.nameable_lowerAscii (host : String) :
    nameable (Text.lowerAscii host) = true ↔ nameable host = true := by
  rw [nameable_iff, nameable_iff]
  simp [Text.lowerAscii, Text.toLower_eq_iff_of_lt (show '\x00' < 'A' by decide)]

namespace Gateway

/-- The settings under which there is room for pools. -/
def Roomy (config : Config) : Prop :=
  ∀ kind, (poolSpec config "" kind).capacity.max 1 ≤ PoolSpec.maxCapacity
    ∧ (poolSpec config "" kind).workers.max 1 ≤ PoolSpec.maxWorkers

/-- The settings and the host with which pools can be started. -/
def Startable (config : Config) (host : String) : Prop :=
  PoolSpec.nameable host = true ∧ Roomy config

section

variable {g g' g'' : Gateway} {d : Deed} {t : Nat} {who : Credentials}

/-- Whether a pool can be started does not depend on its number. -/
theorem start?_eq_none_iff (config : Config) (host : String) (kind : PoolKind) (n : Nat) :
    (Pool.start? (poolSpec config host kind) n : Option (Pool Work Response)) = none
      ↔ ¬ (PoolSpec.nameable host = true
        ∧ (poolSpec config host kind).capacity.max 1 ≤ PoolSpec.maxCapacity
        ∧ (poolSpec config host kind).workers.max 1 ≤ PoolSpec.maxWorkers) := by
  have hdead : ¬ (PoolSpec.nameable host = true
      ∧ (poolSpec config host kind).capacity.max 1 ≤ PoolSpec.maxCapacity
      ∧ (poolSpec config host kind).workers.max 1 ≤ PoolSpec.maxWorkers)
        ↔ PoolSpec.maxCapacity < (poolSpec config host kind).capacity.max 1
          ∨ PoolSpec.maxWorkers < (poolSpec config host kind).workers.max 1
          ∨ PoolSpec.nameable host = false := by
    rw [not_and_or, not_and_or, Nat.not_le, Nat.not_le, Bool.not_eq_true, or_comm, or_assoc]
  rw [hdead]
  unfold Pool.start?
  dsimp only
  split
  next h => exact ⟨fun _ => h, fun _ => rfl⟩
  next h => exact ⟨nofun, fun h' => absurd h' h⟩

/-- Where the pools of a tenant have been started they could be. -/
theorem startable_of_startPools {config : Config} {host : String} {started n : Nat}
    {pools : TenantPools} (h : startPools config host started = (some pools, n)) :
    Startable config host := by
  obtain ⟨numbers, hpools⟩ := startPools_eq h
  have hkind (kind : PoolKind) : PoolSpec.nameable host = true
      ∧ (poolSpec config host kind).capacity.max 1 ≤ PoolSpec.maxCapacity
      ∧ (poolSpec config host kind).workers.max 1 ≤ PoolSpec.maxWorkers := by
    by_contra hkind
    have hnone := (start?_eq_none_iff config host kind (numbers kind)).mpr hkind
    rw [hpools kind] at hnone
    cases hnone
  exact ⟨(hkind .global).1, fun kind => (hkind kind).2⟩

/-- Where one of them has not, they could not. -/
theorem not_startable_of_startPools {config : Config} {host : String} {started n : Nat}
    (h : startPools config host started = (none, n)) : ¬ Startable config host := by
  intro ⟨hnameable, hroom⟩
  have hsome : ∀ (kind : PoolKind) (m : Nat),
      (Pool.start? (poolSpec config host kind) m : Option (Pool Work Response)) ≠ none := by
    intro kind m hnone
    exact (start?_eq_none_iff config host kind m).mp hnone ⟨hnameable, hroom kind⟩
  unfold startPools at h
  dsimp only at h
  split at h
  next hglobal => exact hsome _ _ hglobal
  · split at h
    next hjobs => exact hsome _ _ hjobs
    · split at h
      next hdisks => exact hsome _ _ hdisks
      · cases h

/-- What resolving an account comes to, and when. -/
theorem resolve_inv {r : Except Fault Nat} (h : g.resolve who = (r, g')) :
    (g.poisoned = true ∧ r = .error (.failed registryPoisoned) ∧ g' = g)
      ∨ (g.poisoned = false ∧ ∃ t, g.find? who.key = some t ∧ r = .ok t ∧ g' = g.touch t)
      ∨ (g.poisoned = false ∧ g.find? who.key = none ∧
          ((¬ Startable g.config who.host ∧ r = .error .panicked ∧
              ∃ n, g' = { g with poolsStarted := n, poisoned := true })
            ∨ (Startable g.config who.host ∧ r = .ok g.tenants.length ∧
              ∃ pools n, startPools g.config who.host g.poolsStarted = (some pools, n) ∧ g' =
                { g with
                  poolsStarted := n
                  tenants := g.tenants ++
                    [{ credentials := who, pools := pools, lastUsed := g.clock }]
                  registered := g.tenants.length :: g.registered }))) := by
  unfold resolve at h
  split at h
  next hpoisoned =>
    cases h
    exact .inl ⟨hpoisoned, rfl, rfl⟩
  next hsound =>
    rw [Bool.not_eq_true] at hsound
    right
    split at h
    next t hfind =>
      cases h
      exact .inl ⟨hsound, t, hfind, rfl, rfl⟩
    next hfind =>
      right
      unfold register at h
      split at h
      next n hstart =>
        cases h
        exact ⟨hsound, hfind, .inl ⟨not_startable_of_startPools hstart, rfl, n, rfl⟩⟩
      next pools n hstart =>
        cases h
        exact ⟨hsound, hfind, .inr ⟨startable_of_startPools hstart, rfl, pools, n, hstart, rfl⟩⟩

-- ============================================================ the roll

/-- Tenants, their accounts and what the registry lists are the same. -/
structure SameRoll (g g' : Gateway) : Prop where
  config : g'.config = g.config
  overflow : g'.overflow = g.overflow
  poisoned : g'.poisoned = g.poisoned
  registered : g'.registered = g.registered
  accounts : g'.tenants.map Tenant.credentials = g.tenants.map Tenant.credentials

/-- Where nothing happens, the roll is the same. -/
theorem SameRoll.refl (g : Gateway) : SameRoll g g := ⟨rfl, rfl, rfl, rfl, rfl⟩

/-- One step after another that leaves the roll. -/
theorem SameRoll.trans (h : SameRoll g g') (h' : SameRoll g' g'') : SameRoll g g'' :=
  ⟨h'.config.trans h.config, h'.overflow.trans h.overflow, h'.poisoned.trans h.poisoned,
    h'.registered.trans h.registered, h'.accounts.trans h.accounts⟩

/-- A change of a tenant that keeps its account. -/
theorem sameRoll_update {f : Tenant → Tenant}
    (hf : ∀ x, (f x).credentials = x.credentials) : SameRoll g (g.update t f) := by
  refine ⟨rfl, rfl, rfl, rfl, ?_⟩
  apply List.ext_getElem?
  intro n
  rw [List.getElem?_map, List.getElem?_map, getElem?_update, Option.map_map]
  refine congrArg (Option.map · _) (funext fun x => ?_)
  show Tenant.credentials (if t = n then f x else x) = _
  split
  · exact hf x
  · rfl

/-- A change of a pool. -/
theorem sameRoll_updatePool (kind : PoolKind)
    (f : Pool Work Response → Pool Work Response) : SameRoll g (g.updatePool t kind f) :=
  sameRoll_update fun _ => rfl

/-- Sessions that are given up are on no roll. -/
theorem sameRoll_reclaim : SameRoll g (g.reclaim t) := by
  unfold reclaim
  split
  · exact .refl g
  · exact (sameRoll_update (f := Tenant.disown) fun _ => rfl).trans ⟨rfl, rfl, rfl, rfl, rfl⟩

/-- Nor are the slots of a tenant that nobody uses. -/
theorem sameRoll_dropUnused : SameRoll g (g.dropUnused t) := by
  unfold dropUnused
  split
  · exact .refl g
  · have hclose : SameRoll g (g.close t) := sameRoll_update fun _ => rfl
    exact hclose.trans sameRoll_reclaim

/-- A lock that is poisoned does not change whose tenant it is. -/
theorem credentials_poison (x : Tenant) (lock : Lock) :
    (x.poison lock).credentials = x.credentials := by
  cases lock <;> rfl

/-- No call of a job touches the roll. -/
theorem sameRoll_perform (g : Gateway) (t : Nat) (x : Tenant) (gate : Option Nat)
    (c : Job.Call) : SameRoll g (g.perform t x gate c).state := by
  cases c with
  | now | watermark | note | handler | jobCache | diskCache | session | openSession
    | closeSession =>
      exact ⟨rfl, rfl, rfl, rfl, rfl⟩
  | query session q =>
      unfold perform
      dsimp only
      split
      · split <;> exact .refl g
      · split <;> exact ⟨rfl, rfl, rfl, rfl, rfl⟩
  | acquire lock =>
      unfold perform
      dsimp only
      split
      · exact .refl g
      · split
        · exact .refl g
        · exact sameRoll_update fun _ => rfl
  | release lock poison =>
      apply sameRoll_update
      intro x
      dsimp only
      split
      · exact credentials_poison _ lock
      · rfl
  | install kind =>
      cases kind with
      | jobs | disks | system | subsystems | commands => exact sameRoll_update fun _ => rfl
  | installSystem | saveJobCache | saveDiskCache | replaceSession | hold =>
      exact sameRoll_update fun _ => rfl
  | letGo h =>
      refine SameRoll.trans ?_ sameRoll_reclaim
      exact sameRoll_update fun _ => rfl

/-- What can happen to the roll: nothing, a tenant is taken out, a tenant is
made for an account that has none, or the registry dies over resolving one. -/
theorem Step.roll (h : Step g d g') :
    SameRoll g g'
      ∨ (∃ t ∈ g.registered, SameRoll { g with registered := g.registered.erase t } g')
      ∨ (∃ x, g.find? x.key = none ∧ Startable g.config x.credentials.host ∧
          SameRoll
            { g with
              tenants := g.tenants ++ [x]
              registered := g.tenants.length :: g.registered } g')
      ∨ (∃ who, ¬ Startable g.config who.host ∧ g.resolve who = (.error .panicked, g')
          ∧ SameRoll { g with poisoned := true } g') := by
  cases h with
  | outside => exact .inl ⟨rfl, rfl, rfl, rfl, rfl⟩
  | @resolve g₁ who t hresolve =>
      rcases resolve_inv hresolve with ⟨-, hr, -⟩ | ⟨-, t, -, -, rfl⟩
        | ⟨-, hfind, ⟨-, hr, -⟩ | ⟨hstartable, -, pools, n, -, rfl⟩⟩
      · cases hr
      · have htouch : SameRoll g (g.touch t) := sameRoll_update fun _ => rfl
        exact .inl ⟨htouch.config, htouch.overflow, htouch.poisoned, htouch.registered,
          htouch.accounts⟩
      · cases hr
      · let x : Tenant := { credentials := who, pools := pools, lastUsed := g.clock }
        exact .inr (.inr (.inl ⟨x, hfind, hstartable, ⟨rfl, rfl, rfl, rfl, rfl⟩⟩))
  | resolveFails hresolve =>
      rcases resolve_inv hresolve with ⟨-, -, rfl⟩ | ⟨-, t, -, hr, -⟩
        | ⟨-, -, ⟨hstartable, hr, n, rfl⟩ | ⟨-, hr, -⟩⟩
      · exact .inl (.refl _)
      · cases hr
      · cases hr
        exact .inr (.inr (.inr ⟨_, hstartable, hresolve, ⟨rfl, rfl, rfl, rfl, rfl⟩⟩))
      · cases hr
  | touch hkept => exact .inl (sameRoll_update fun _ => rfl)
  | accept hkept haccept =>
      obtain ⟨x, inFlight, -, -, rfl⟩ := accept_eq haccept
      exact .inl (sameRoll_update fun _ => rfl)
  | turnAway r hkept => exact .inl (sameRoll_update fun _ => rfl)
  | @queue t x r hkept hx hroom =>
      have hpool : SameRoll g (g.updatePool t r.pool fun p =>
          p.enqueue ⟨g.tickets + 1, r.payload, g.program x r⟩) := sameRoll_updatePool _ _
      exact .inl ⟨hpool.config, hpool.overflow, hpool.poisoned, hpool.registered, hpool.accounts⟩
  | take hx htake => exact .inl (sameRoll_updatePool _ _)
  | @call g₁ o x c a next gate hx hexecutes hperform =>
      have hroll := sameRoll_perform g o.tenant x gate c
      have hstate : (g.perform o.tenant x gate c).state = g₁ := congrArg Performed.state hperform
      rw [hstate] at hroll
      exact .inl (hroll.trans (sameRoll_updatePool _ _))
  | @wait g₁ o x c next gate gate' hx hexecutes hperform =>
      have hroll := sameRoll_perform g o.tenant x gate c
      have hstate : (g.perform o.tenant x gate c).state = g₁ := congrArg Performed.state hperform
      rw [hstate] at hroll
      exact .inl (hroll.trans (sameRoll_updatePool _ _))
  | finish hexecutes => exact .inl ((sameRoll_updatePool _ _).trans sameRoll_dropUnused)
  | @serve t x kind y e p hx hy hserve =>
      have hpool : SameRoll g (g.updatePool t kind fun _ => p) := sameRoll_updatePool _ _
      cases e with
      | took ticket => exact .inl hpool
      | released ticket fingerprint => exact .inl (hpool.trans (sameRoll_update fun _ => rfl))
      | delivered ticket outcome =>
          exact .inl ⟨hpool.config, hpool.overflow, hpool.poisoned, hpool.registered,
            hpool.accounts⟩
  | shut kind hkept hx => exact .inl (sameRoll_updatePool _ _)
  | clear hkept hx hfree =>
      refine .inl (SameRoll.trans ?_ sameRoll_reclaim)
      exact sameRoll_update fun _ => rfl
  | remove hregistered => exact .inr (.inl ⟨_, hregistered, ⟨rfl, rfl, rfl, rfl, rfl⟩⟩)
  | letGo hkept =>
      refine .inl (SameRoll.trans ?_ sameRoll_dropUnused)
      exact ⟨rfl, rfl, rfl, rfl, rfl⟩

-- ======================================================= the invariant

/-- The account of a tenant. -/
def account? (g : Gateway) (t : Nat) : Option Credentials :=
  g.tenants[t]?.map Tenant.credentials

/-- The key of a tenant. -/
def key? (g : Gateway) (t : Nat) : Option CredentialKey :=
  (g.account? t).map Credentials.key

/-- A key is looked up among the keys of the registered tenants. -/
theorem find?_eq (g : Gateway) (key : CredentialKey) :
    g.find? key = g.registered.find? fun t => g.key? t == some key := by
  unfold find? key? account?
  simp only [Option.map_map]
  rfl

/-- The account of a tenant. -/
theorem account?_of_tenant {x : Tenant} (hx : g.tenants[t]? = some x) :
    g.account? t = some x.credentials :=
  congrArg (Option.map Tenant.credentials) hx

/-- The key of a tenant is that of its account. -/
theorem key?_of_tenant {x : Tenant} (hx : g.tenants[t]? = some x) : g.key? t = some x.key :=
  congrArg (Option.map Credentials.key) (account?_of_tenant hx)

/-- What is found is registered, and has the key that was looked for. -/
theorem registered_of_find? {key : CredentialKey} (hfind : g.find? key = some t) :
    t ∈ g.registered ∧ g.key? t = some key := by
  rw [find?_eq] at hfind
  exact ⟨List.mem_of_find?_eq_some hfind, by simpa using List.find?_some hfind⟩

/-- No two registered tenants have one key, and each has pools that could be
started. -/
structure Listed (g : Gateway) : Prop where
  known : ∀ t ∈ g.registered, t < g.tenants.length
  distinct : (g.registered.map g.key?).Nodup
  startable : ∀ t ∈ g.registered, ∀ who, g.account? t = some who → Startable g.config who.host

/-- With the same roll, accounts are the same. -/
theorem account?_congr (h : SameRoll g g') (t : Nat) : g'.account? t = g.account? t := by
  have hroll := congrArg (fun l : List Credentials => l[t]?) h.accounts
  simpa [account?] using hroll

/-- So are keys. -/
theorem key?_congr (h : SameRoll g g') : g'.key? = g.key? :=
  funext fun t => congrArg (Option.map Credentials.key) (account?_congr h t)

/-- There are equally many tenants. -/
theorem SameRoll.length (h : SameRoll g g') : g'.tenants.length = g.tenants.length := by
  simpa using congrArg List.length h.accounts

/-- What holds of a roll holds of the same roll. -/
theorem Listed.congr (hg : g.Listed) (h : SameRoll g g') : g'.Listed := by
  refine ⟨?_, ?_, ?_⟩
  · rw [h.registered, h.length]
    exact hg.known
  · rw [h.registered, key?_congr h]
    exact hg.distinct
  · intro t ht who hwho
    rw [h.registered] at ht
    rw [account?_congr h] at hwho
    rw [h.config]
    exact hg.startable t ht who hwho

/-- Taking tenants out leaves the others. -/
theorem Listed.sublist (hg : g.Listed) {ts : List Nat} (hts : ts.Sublist g.registered) :
    ({ g with registered := ts } : Gateway).Listed := by
  refine ⟨?_, ?_, ?_⟩
  · intro t' ht'
    exact hg.known t' (hts.subset ht')
  · exact hg.distinct.sublist (hts.map _)
  · intro t' ht'
    exact hg.startable t' (hts.subset ht')

/-- A tenant that is added changes no account. -/
theorem account?_concat {x : Tenant} (h : g'.tenants = g.tenants ++ [x])
    (ht : t < g.tenants.length) : g'.account? t = g.account? t := by
  unfold account?
  rw [h, List.getElem?_append_left ht]

/-- An account that has no tenant gets one. -/
theorem Listed.register (hg : g.Listed) {x : Tenant} (hfind : g.find? x.key = none)
    (hstartable : Startable g.config x.credentials.host) :
    ({ g with
        tenants := g.tenants ++ [x]
        registered := g.tenants.length :: g.registered } : Gateway).Listed := by
  refine ⟨?_, ?_, ?_⟩
  · intro t' ht'
    rw [List.length_append]
    rcases List.mem_cons.1 ht' with rfl | ht'
    · exact Nat.lt_succ_self _
    · exact Nat.lt_succ_of_lt (hg.known t' ht')
  · have hold : ∀ t' ∈ g.registered,
        ({ g with
            tenants := g.tenants ++ [x]
            registered := g.tenants.length :: g.registered } : Gateway).key? t' = g.key? t' :=
      fun t' ht' => congrArg (Option.map Credentials.key) (account?_concat rfl (hg.known t' ht'))
    rw [List.map_cons, List.map_congr_left hold, List.nodup_cons]
    refine ⟨?_, hg.distinct⟩
    intro hmem
    obtain ⟨t', ht', hkey⟩ := List.mem_map.1 hmem
    rw [find?_eq, List.find?_eq_none] at hfind
    apply hfind t' ht'
    rw [hkey, beq_iff_eq]
    exact key?_of_tenant List.getElem?_concat_length
  · intro t' ht' who hwho
    rcases List.mem_cons.1 ht' with rfl | ht'
    · rw [account?_of_tenant List.getElem?_concat_length] at hwho
      exact Option.some.inj hwho ▸ hstartable
    · rw [account?_concat rfl (hg.known t' ht')] at hwho
      exact hg.startable t' ht' who hwho

/-- Whatever happens, no two registered tenants have one key. -/
theorem Listed.step (hg : g.Listed) (h : Step g d g') : g'.Listed := by
  rcases h.roll with hroll | ⟨t, -, hroll⟩ | ⟨x, hfind, hstartable, hroll⟩ | ⟨-, -, -, hroll⟩
  · exact hg.congr hroll
  · exact (hg.sublist List.erase_sublist).congr hroll
  · exact (hg.register hfind hstartable).congr hroll
  · refine Listed.congr ?_ hroll
    exact ⟨hg.known, hg.distinct, hg.startable⟩

/-- A gateway starts with an empty roll. -/
theorem listed_create {config : Config} {clock : Timestamp} {overflow : Overflow}
    (h : create config clock overflow = .ok g) :
    g.Listed := by
  rw [create_eq h]
  exact ⟨nofun, .nil, nofun⟩

/-- However a gateway is used, its registered tenants have different keys. -/
theorem Listed.runs {start : Gateway} {log : List Deed} (hstart : start.Listed)
    (hruns : start.Runs log g) : g.Listed := by
  induction hruns with
  | start => exact hstart
  | step hruns hstep ih => exact ih.step hstep

/-- A registered tenant is found by its own key. -/
theorem Listed.find?_self (hg : g.Listed) (ht : t ∈ g.registered) {key : CredentialKey}
    (hkey : g.key? t = some key) : g.find? key = some t := by
  obtain ⟨t', hfind⟩ : ∃ t', g.find? key = some t' := by
    rw [find?_eq, ← Option.isSome_iff_exists, List.find?_isSome]
    exact ⟨t, ht, by simp [hkey]⟩
  obtain ⟨ht', hkey'⟩ := registered_of_find? hfind
  have hsame : t' = t :=
    List.inj_on_of_nodup_map hg.distinct ht' ht (hkey'.trans hkey.symm)
  rw [hfind, hsame]

-- ================================================= what time does to a tenant

/-- Tenants keep their accounts, and none of them is registered again once it
has been taken out. -/
structure Follows (g g' : Gateway) : Prop where
  config : g'.config = g.config
  length : g.tenants.length ≤ g'.tenants.length
  account : ∀ t < g.tenants.length, g'.account? t = g.account? t
  registered : ∀ t < g.tenants.length, t ∈ g'.registered → t ∈ g.registered

/-- One stretch of a run after another. -/
theorem Follows.trans (h : Follows g g') (h' : Follows g' g'') : Follows g g'' := by
  refine ⟨h'.config.trans h.config, h.length.trans h'.length, ?_, ?_⟩
  · intro t ht
    rw [h'.account t (ht.trans_le h.length), h.account t ht]
  · intro t ht hmem
    exact h.registered t ht (h'.registered t (ht.trans_le h.length) hmem)

/-- Where the roll is the same, nobody has been taken out or registered. -/
theorem SameRoll.follows (h : SameRoll g g') : Follows g g' :=
  ⟨h.config, h.length.ge, fun t _ => account?_congr h t, fun _ _ ht => h.registered ▸ ht⟩

/-- A step registers nobody again. -/
theorem Step.follows (h : Step g d g') : Follows g g' := by
  rcases h.roll with hroll | ⟨t, -, hroll⟩ | ⟨x, -, -, hroll⟩ | ⟨-, -, -, hroll⟩
  · exact hroll.follows
  · refine Follows.trans ?_ hroll.follows
    exact ⟨rfl, Nat.le_refl _, fun _ _ => rfl, fun _ _ ht => List.mem_of_mem_erase ht⟩
  · refine Follows.trans ?_ hroll.follows
    refine ⟨rfl, by simp, fun t ht => account?_concat rfl ht, ?_⟩
    intro t ht hmem
    rcases List.mem_cons.1 hmem with rfl | hmem
    · exact absurd ht (Nat.lt_irrefl _)
    · exact hmem
  · refine Follows.trans ?_ hroll.follows
    exact ⟨rfl, Nat.le_refl _, fun _ _ => rfl, fun _ _ => id⟩

/-- Nor does a run. -/
theorem Runs.follows {start : Gateway} {log : List Deed} (hruns : start.Runs log g) :
    Follows start g := by
  induction hruns with
  | start => exact (SameRoll.refl _).follows
  | step hruns hstep ih => exact ih.trans hstep.follows

-- ========================================================= one for each

/-- Accounts of one key have hosts of which both can be named, or neither. -/
theorem startable_of_key {config : Config} {a b : Credentials} (hkey : a.key = b.key)
    (h : Startable config a.host) : Startable config b.host := by
  obtain ⟨hnameable, hroom⟩ := h
  have hhost : Text.lowerAscii a.host = Text.lowerAscii b.host := congrArg CredentialKey.host hkey
  refine ⟨?_, hroom⟩
  rw [← PoolSpec.nameable_lowerAscii, ← hhost, PoolSpec.nameable_lowerAscii]
  exact hnameable

/-- An account gets a tenant exactly if nobody has died over one, and pools can
be started for it. -/
theorem Listed.resolve_ok_iff (hg : g.Listed) : (∃ t g', g.resolve who = (.ok t, g'))
    ↔ g.poisoned = false ∧ Startable g.config who.host := by
  constructor
  · intro ⟨t, g', hresolve⟩
    rcases resolve_inv hresolve with ⟨-, hr, -⟩ | ⟨hsound, t', hfind, -, -⟩
      | ⟨hsound, -, ⟨-, hr, -⟩ | ⟨hstartable, -⟩⟩
    · cases hr
    · obtain ⟨ht', hkey⟩ := registered_of_find? hfind
      obtain ⟨x, hx, hkey⟩ := Option.map_eq_some_iff.1 hkey
      exact ⟨hsound, startable_of_key hkey (hg.startable t' ht' x hx)⟩
    · cases hr
    · exact ⟨hsound, hstartable⟩
  · intro ⟨hsound, hstartable⟩
    rcases resolve_inv (Prod.eta (g.resolve who)).symm with ⟨hpoisoned, -, -⟩
      | ⟨-, t, -, hr, -⟩ | ⟨-, -, ⟨hnot, -⟩ | ⟨-, hr, -⟩⟩
    · rw [hsound] at hpoisoned
      cases hpoisoned
    · exact ⟨t, _, Prod.ext hr rfl⟩
    · exact absurd hstartable hnot
    · exact ⟨_, _, Prod.ext hr rfl⟩

/-- The tenant of an account is registered under its key, and was used just
now. -/
theorem resolved (hresolve : g.resolve who = (.ok t, g')) :
    t ∈ g'.registered ∧ ∃ x, g'.tenants[t]? = some x ∧ x.key = who.key
      ∧ x.lastUsed = g.clock ∧ (x.credentials = who ∨ g.account? t = some x.credentials) := by
  rcases resolve_inv hresolve with ⟨-, hr, -⟩ | ⟨-, t', hfind, hr, rfl⟩
    | ⟨-, -, ⟨-, hr, -⟩ | ⟨-, hr, pools, n, -, rfl⟩⟩
  · cases hr
  · cases hr
    obtain ⟨ht, hkey⟩ := registered_of_find? hfind
    unfold key? account? at hkey
    rw [Option.map_map] at hkey
    obtain ⟨x, hx, hkey⟩ := Option.map_eq_some_iff.1 hkey
    have haccount := account?_of_tenant hx
    refine ⟨ht, { x with lastUsed := g.clock }, ?_, hkey, rfl, .inr haccount⟩
    unfold touch
    rw [getElem?_update, hx]
    simp
  · cases hr
  · cases hr
    exact ⟨List.mem_cons_self, _, List.getElem?_concat_length, rfl, rfl, .inl rfl⟩

/-- The tenants of two accounts, asked for one after the other, are the same
exactly if the accounts have one key, unless the first has been taken out in
between. -/
theorem Listed.resolve_eq_iff (hg : g.Listed) (ht : t ∈ g.registered) {t' : Nat}
    {key : CredentialKey} (hkey : g.key? t = some key)
    (hresolve : g.resolve who = (.ok t', g')) : t = t' ↔ key = who.key := by
  have hself := hg.find?_self ht hkey
  rcases resolve_inv hresolve with ⟨-, hr, -⟩ | ⟨-, t'', hfind, hr, -⟩
    | ⟨-, hfind, ⟨-, hr, -⟩ | ⟨-, hr, -⟩⟩
  · cases hr
  · cases hr
    constructor
    · intro hsame
      subst hsame
      exact Option.some.inj (hkey.symm.trans (registered_of_find? hfind).2)
    · intro hsame
      rw [hsame, hfind] at hself
      exact (Option.some.inj hself).symm
  · cases hr
  · cases hr
    constructor
    · intro hsame
      exact absurd (hg.known t ht) (hsame ▸ Nat.lt_irrefl _)
    · intro hsame
      rw [hsame, hfind] at hself
      cases hself

/-- However resolving, evicting and shutting down interleave: no two
registered tenants have accounts that agree, each is found by its own key, and
resolving an account gives its one tenant, used just now, for as long as that
is not taken out; it gives one at all exactly if nobody has died over making
one before, and pools can be started for it. Of the threads of these pools it is
assumed that each one is started that can be named (`Pool.start?`). -/
theorem one_tenant_per_account {config : Config} {clock : Timestamp} {overflow : Overflow}
    {start : Gateway} {log : List Deed} {accounts : Set Credentials}
    (hcreate : create config clock overflow = .ok start)
    (hruns : start.Runs log g)
    (hhash : Set.InjOn Sha256.hash (Credentials.passwords accounts))
    (hwithin : ∀ x ∈ g.tenants, x.credentials ∈ accounts) :
    (∀ a ∈ accounts, ∀ b ∈ accounts, a.agree b = true ↔ a.key = b.key)
    ∧ g.registered.Nodup
    ∧ (∀ t ∈ g.registered, ∃ x, g.tenants[t]? = some x ∧ g.find? x.key = some t)
    ∧ (∀ t ∈ g.registered, ∀ t' ∈ g.registered, t ≠ t' → ∀ x x',
        g.tenants[t]? = some x → g.tenants[t']? = some x' →
        x.credentials.agree x'.credentials = false)
    ∧ (∀ t < g.tenants.length, t ∉ g.registered →
        ∀ log' g', g.Runs log' g' → t ∉ g'.registered)
    ∧ ∀ who ∈ accounts,
        ((∃ t g', g.resolve who = (.ok t, g'))
          ↔ g.poisoned = false ∧ Startable config who.host)
        ∧ ∀ t g', g.resolve who = (.ok t, g') →
          (t ∈ g'.registered ∧ ∃ x, g'.tenants[t]? = some x
            ∧ x.credentials.agree who = true ∧ x.lastUsed = g.clock)
          ∧ ∀ log' g₂, Runs { g' with kept := t :: g'.kept } log' g₂ → t ∈ g₂.registered →
            ∀ who' ∈ accounts, ∀ t' g₃, g₂.resolve who' = (.ok t', g₃) →
              (t = t' ↔ who.agree who' = true) := by
  have hkeys : ∀ a ∈ accounts, ∀ b ∈ accounts, a.agree b = true ↔ a.key = b.key :=
    fun a ha b hb => Credentials.agree_iff_key hhash ha hb
  have hlisted := (listed_create hcreate).runs hruns
  have hconfig : g.config = config := by
    rw [hruns.follows.config, create_eq hcreate]
  refine ⟨hkeys, List.Nodup.of_map _ hlisted.distinct, ?_, ?_, ?_, ?_⟩
  · intro t ht
    have hx := List.getElem?_eq_getElem (hlisted.known t ht)
    exact ⟨_, hx, hlisted.find?_self ht (key?_of_tenant hx)⟩
  · intro t ht t' ht' hne x x' hx hx'
    rw [← Bool.not_eq_true, hkeys _ (hwithin x (List.mem_of_getElem? hx)) _
      (hwithin x' (List.mem_of_getElem? hx'))]
    intro hsame
    apply hne
    apply List.inj_on_of_nodup_map hlisted.distinct ht ht'
    rw [key?_of_tenant hx, key?_of_tenant hx']
    exact congrArg some hsame
  · intro t ht hgone log' g' hruns' hmem
    exact hgone (hruns'.follows.registered t ht hmem)
  · intro who hwho
    refine ⟨hconfig ▸ hlisted.resolve_ok_iff, ?_⟩
    intro t g' hresolve
    obtain ⟨hmem, x, hx, hkey, hused, haccount⟩ := resolved hresolve
    have hx' : x.credentials ∈ accounts := by
      rcases haccount with haccount | haccount
      · rw [haccount]
        exact hwho
      · obtain ⟨y, hy, hsame⟩ := Option.map_eq_some_iff.1 haccount
        rw [← hsame]
        exact hwithin y (List.mem_of_getElem? hy)
    refine ⟨⟨hmem, x, hx, (hkeys _ hx' _ hwho).mpr hkey, hused⟩, ?_⟩
    intro log' g₂ hruns₂ hmem₂ who' hwho' t' g₃ hresolve'
    have hfollows := hruns₂.follows
    have hlt : t < g'.tenants.length := (List.getElem?_eq_some_iff.1 hx).1
    have hkey₂ : g₂.key? t = some who.key := by
      unfold key?
      rw [hfollows.account t hlt, ← hkey]
      exact key?_of_tenant hx
    have hlisted₂ := (hlisted.step (.resolve hresolve)).runs hruns₂
    rw [hlisted₂.resolve_eq_iff hmem₂ hkey₂ hresolve', hkeys who hwho who' hwho']

/-- An account in two spellings, and one with another password. -/
def spellings : List Credentials :=
  [⟨"Host", "Login", "pw"⟩, ⟨"HOST", "login", "pw"⟩, ⟨"host", "login", "other"⟩]

/-- Two passwords can be told apart by their digests. -/
theorem passwords_of_spellings :
    Set.InjOn Sha256.hash (Credentials.passwords { who | who ∈ spellings }) := by
  have hof : Credentials.passwords { who | who ∈ spellings } ⊆
      {Digest.joined (Credentials.passwordParts ⟨"Host", "Login", "pw"⟩),
        Digest.joined (Credentials.passwordParts ⟨"host", "login", "other"⟩)} := by
    rintro bytes ⟨who, hwho, rfl⟩
    have hcases : who = ⟨"Host", "Login", "pw"⟩ ∨ who = ⟨"HOST", "login", "pw"⟩
        ∨ who = ⟨"host", "login", "other"⟩ := by
      simpa [spellings] using hwho
    rcases hcases with rfl | rfl | rfl
    · exact .inl rfl
    · exact .inl rfl
    · exact .inr rfl
  refine Set.InjOn.mono hof ?_
  rw [Set.injOn_pair]
  intro heq
  exact absurd heq (by decide +kernel)

/-- Both spellings get one tenant, and the other password gets another. -/
theorem one_tenant_of_two_spellings :
    ∃ t g', dawn.resolve ⟨"Host", "Login", "pw"⟩ = (.ok t, g') ∧ t ∈ g'.registered
      ∧ (∀ t' g₃, Gateway.resolve { g' with kept := t :: g'.kept } ⟨"HOST", "login", "pw"⟩
          = (.ok t', g₃) → t = t')
      ∧ ∀ t' g₃, Gateway.resolve { g' with kept := t :: g'.kept } ⟨"host", "login", "other"⟩
          = (.ok t', g₃) → t ≠ t' := by
  have hcreate : create {} ⟨0, 0⟩ .panics = .ok dawn := rfl
  have hmem : ∀ who ∈ spellings, who ∈ { who | who ∈ spellings } := fun _ => id
  obtain ⟨-, -, -, -, -, hresolves⟩ := one_tenant_per_account hcreate .start
    passwords_of_spellings (fun x hx => absurd hx List.not_mem_nil)
  obtain ⟨hiff, hlater⟩ := hresolves ⟨"Host", "Login", "pw"⟩ (hmem _ (by decide))
  obtain ⟨t, g', hresolve⟩ := hiff.mpr ⟨rfl, by decide, by intro kind; cases kind <;> decide⟩
  obtain ⟨⟨hregistered, -⟩, hlater⟩ := hlater t g' hresolve
  refine ⟨t, g', hresolve, hregistered, ?_, ?_⟩
  · intro t' g₃ h
    exact (hlater [] _ .start hregistered _ (hmem _ (by decide)) t' g₃ h).mpr (by decide)
  · intro t' g₃ h hsame
    have hagree := (hlater [] _ .start hregistered _ (hmem _ (by decide)) t' g₃ h).mp hsame
    exact absurd hagree (by decide)

end

end Gateway

end CheckGateway
