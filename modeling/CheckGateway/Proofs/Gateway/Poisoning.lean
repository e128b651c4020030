/-
Over which accounts the registry dies.

Settings that pass validation have bounds below, and the global pool has one
above. They may still ask for a longer queue than there can be, or for more
workers for jobs or disks than there is room for; and no worker can be named
after a host that holds the character of code zero. The pools of such a tenant
cannot be started, and the thread that tries dies while it holds the lock of the
registry. An account is `Deadly` if it comes to this.

Nothing else kills a registry (`Step.dies`), and nothing brings one back
(`Step.stays_dead`). Tenants that are registered have pools, so their accounts
are not deadly: the registry dies over somebody new, and all the others cannot
be resolved any more either (`registry_dies_over_the_deadly`).
-/
import CheckGateway.Proofs.Gateway.Accounts

namespace CheckGateway

/-- The settings that pass validation. -/
theorem Config.validate_eq_ok_iff (c : Config) : c.validate = .ok () ↔
    (0 < c.globalPoolSize ∧ c.globalPoolSize ≤ maxGlobalPoolSize)
      ∧ 0 < c.jobPoolSize ∧ 0 < c.diskPoolSize ∧ 0 < c.queueCapacity
      ∧ 0 < c.messagePageSize ∧ 0 < c.reaperInterval := by
  have hproblem : c.validate = .ok () ↔ c.problem? = none := by
    unfold validate
    cases c.problem? <;> simp
  rw [hproblem]
  unfold problem?
  split_ifs <;> simp <;> omega

namespace Gateway

-- ==================================================== settings and hosts

/-- With these settings the pools of a tenant of this host cannot be started. -/
def Deadly (config : Config) (host : String) : Prop :=
  PoolSpec.maxCapacity < config.queueCapacity ∨ PoolSpec.maxWorkers < config.jobPoolSize
    ∨ PoolSpec.maxWorkers < config.diskPoolSize ∨ '\x00' ∈ host.toList

instance (config : Config) (host : String) : Decidable (Deadly config host) :=
  inferInstanceAs (Decidable (_ ∨ _ ∨ _ ∨ _))

/-- What the settings leave room for, whatever they are. -/
theorem roomy_iff (config : Config) : Roomy config ↔
    config.queueCapacity ≤ PoolSpec.maxCapacity ∧ config.globalPoolSize ≤ PoolSpec.maxWorkers
      ∧ config.jobPoolSize ≤ PoolSpec.maxWorkers
      ∧ config.diskPoolSize ≤ PoolSpec.maxWorkers := by
  have hcapacity (n : Nat) : n.max 1 ≤ PoolSpec.maxCapacity ↔ n ≤ PoolSpec.maxCapacity :=
    Nat.max_le.trans (and_iff_left (by decide))
  have hworkers (n : Nat) : n.max 1 ≤ PoolSpec.maxWorkers ↔ n ≤ PoolSpec.maxWorkers :=
    Nat.max_le.trans (and_iff_left (by decide))
  unfold Roomy
  simp only [hcapacity, hworkers]
  constructor
  · intro h
    exact ⟨(h .global).1, (h .global).2, (h .jobs).2, (h .disks).2⟩
  · rintro ⟨hqueue, hglobal, hjobs, hdisks⟩ kind
    cases kind with
    | global => exact ⟨hqueue, hglobal⟩
    | jobs => exact ⟨hqueue, hjobs⟩
    | disks => exact ⟨hqueue, hdisks⟩

/-- Where the settings are valid, pools can be started for all but the deadly
accounts: global pools are small. -/
theorem startable_iff_of_valid {config : Config} (hvalid : config.validate = .ok ())
    (host : String) : Startable config host ↔ ¬ Deadly config host := by
  obtain ⟨⟨-, hglobal⟩, -⟩ := config.validate_eq_ok_iff.1 hvalid
  have hglobal : config.globalPoolSize ≤ PoolSpec.maxWorkers := hglobal.trans (by decide)
  unfold Startable Deadly
  rw [PoolSpec.nameable_iff, roomy_iff]
  simp only [not_or, Nat.not_lt]
  constructor
  · rintro ⟨hhost, hqueue, -, hjobs, hdisks⟩
    exact ⟨hqueue, hjobs, hdisks, hhost⟩
  · rintro ⟨hqueue, hjobs, hdisks, hhost⟩
    exact ⟨hhost, hqueue, hglobal, hjobs, hdisks⟩

section

variable {g g' start : Gateway} {log : List Deed} {d : Deed} {who : Credentials}

/-- Only settings that pass validation make a gateway. -/
theorem valid_of_create {config : Config} {clock : Timestamp} {overflow : Overflow}
    (hcreate : create config clock overflow = .ok g) : config.validate = .ok () := by
  unfold create at hcreate
  cases hvalid : config.validate with
  | ok u => rfl
  | error e =>
      rw [hvalid] at hcreate
      cases hcreate

-- ============================================================ one resolve

/-- A gateway is in order: its settings are valid, and so is its list of tenants. -/
structure Orderly (g : Gateway) : Prop where
  valid : g.config.validate = .ok ()
  listed : g.Listed

theorem Orderly.runs (hg : g.Orderly) (hruns : g.Runs log g') : g'.Orderly :=
  ⟨hruns.follows.config ▸ hg.valid, hg.listed.runs hruns⟩

theorem config_resolve (g : Gateway) (who : Credentials) :
    (g.resolve who).2.config = g.config := by
  cases hresolve : g.resolve who with
  | mk r g' =>
      cases r with
      | ok t => exact (Step.resolve hresolve).follows.config
      | error e => exact (Step.resolveFails hresolve).follows.config

theorem Orderly.resolve (hg : g.Orderly) (who : Credentials) : (g.resolve who).2.Orderly := by
  refine ⟨(config_resolve g who).symm ▸ hg.valid, ?_⟩
  cases hresolve : g.resolve who with
  | mk r g' =>
      cases r with
      | ok t =>
          -- whom callers hold on to does not matter here
          have hlisted := hg.listed.step (.resolve hresolve)
          exact ⟨hlisted.known, hlisted.distinct, hlisted.startable⟩
      | error e => exact hg.listed.step (.resolveFails hresolve)

/-- A registry that is dead says so to everybody and stays as it is. -/
theorem resolve_of_dead (hdead : g.poisoned = true) (who : Credentials) :
    g.resolve who = (.error (.failed registryPoisoned), g) := by
  unfold Gateway.resolve
  rw [if_pos hdead]

/-- How resolving an account goes while the registry lives. -/
theorem Orderly.resolve_cases (hg : g.Orderly) (hsound : g.poisoned = false)
    (who : Credentials) :
    (Deadly g.config who.host ∧ g.find? who.key = none
        ∧ (g.resolve who).1 = .error .panicked ∧ (g.resolve who).2.poisoned = true)
      ∨ (¬ Deadly g.config who.host ∧ (∃ t, (g.resolve who).1 = .ok t)
        ∧ (g.resolve who).2.poisoned = false) := by
  by_cases hdeadly : Deadly g.config who.host
  · left
    have hnot : ¬ Startable g.config who.host := fun h =>
      (startable_iff_of_valid hg.valid _).1 h hdeadly
    rcases resolve_inv (Prod.eta (g.resolve who)).symm with ⟨hpoisoned, -⟩ | ⟨-, t, hfind, hr, -⟩
      | ⟨-, hfind, ⟨-, hr, n, heq⟩ | ⟨hstartable, -⟩⟩
    · exact absurd (hsound.symm.trans hpoisoned) Bool.false_ne_true
    · have hok := hg.listed.resolve_ok_iff.1 ⟨t, _, Prod.ext hr rfl⟩
      exact absurd hok.2 hnot
    · exact ⟨hdeadly, hfind, hr, by rw [heq]⟩
    · exact absurd hstartable hnot
  · right
    have hstartable := (startable_iff_of_valid hg.valid who.host).2 hdeadly
    obtain ⟨t, g', hresolve⟩ := hg.listed.resolve_ok_iff.2 ⟨hsound, hstartable⟩
    refine ⟨hdeadly, ⟨t, by rw [hresolve]⟩, ?_⟩
    rcases resolve_inv hresolve with ⟨-, hr, -⟩ | ⟨-, t', -, -, rfl⟩
      | ⟨-, -, ⟨-, hr, -⟩ | ⟨-, -, pools, n, -, rfl⟩⟩
    · cases hr
    · rw [hresolve]
      exact hsound
    · cases hr
    · rw [hresolve]
      exact hsound

theorem Orderly.panicked_resolve_iff (hg : g.Orderly) (hsound : g.poisoned = false) :
    (g.resolve who).1 = .error .panicked ↔ Deadly g.config who.host := by
  rcases hg.resolve_cases hsound who with ⟨hdeadly, -, hr, -⟩ | ⟨hharmless, ⟨t, hr⟩, -⟩
  · exact iff_of_true hr hdeadly
  · exact iff_of_false (by simp [hr]) hharmless

theorem Orderly.poisoned_resolve_iff (hg : g.Orderly) (hsound : g.poisoned = false) :
    (g.resolve who).2.poisoned = true ↔ Deadly g.config who.host := by
  rcases hg.resolve_cases hsound who with ⟨hdeadly, -, -, hdead⟩ | ⟨hharmless, -, halive⟩
  · exact iff_of_true hdead hdeadly
  · exact iff_of_false (by simp [halive]) hharmless

-- =========================================================== many resolves

/-- The gateway after some accounts have been resolved, one after the other. -/
def resolveAll (g : Gateway) (accounts : List Credentials) : Gateway :=
  accounts.foldl (fun g who => (g.resolve who).2) g

theorem resolveAll_cons (g : Gateway) (who : Credentials) (accounts : List Credentials) :
    g.resolveAll (who :: accounts) = (g.resolve who).2.resolveAll accounts := rfl

theorem resolveAll_of_dead (hdead : g.poisoned = true) (accounts : List Credentials) :
    g.resolveAll accounts = g := by
  induction accounts with
  | nil => rfl
  | cons who accounts ih => rw [resolveAll_cons, resolve_of_dead hdead, ih]

/-- A registry dies over some accounts exactly if one of them is deadly. -/
theorem Orderly.poisoned_resolveAll_iff (hg : g.Orderly) (hsound : g.poisoned = false)
    (accounts : List Credentials) :
    (g.resolveAll accounts).poisoned = true ↔ ∃ who ∈ accounts, Deadly g.config who.host := by
  induction accounts generalizing g with
  | nil => exact iff_of_false (by simp [resolveAll, hsound]) (by simp)
  | cons who accounts ih =>
      rw [resolveAll_cons, List.exists_mem_cons_iff]
      cases hdead : (g.resolve who).2.poisoned with
      | true =>
          rw [resolveAll_of_dead hdead]
          exact iff_of_true hdead (.inl ((hg.poisoned_resolve_iff hsound).1 hdead))
      | false =>
          have hharmless : ¬ Deadly g.config who.host := by
            rw [← hg.poisoned_resolve_iff hsound, hdead]
            exact Bool.false_ne_true
          rw [ih (hg.resolve who) hdead, config_resolve, or_iff_right hharmless]

-- ============================================================== whole runs

/-- Whatever happens to a registry that is dead, it stays dead. -/
theorem Step.stays_dead (h : Step g d g') (hdead : g.poisoned = true) : g'.poisoned = true := by
  rcases h.roll with hroll | ⟨t, -, hroll⟩ | ⟨x, -, -, hroll⟩ | ⟨-, -, -, hroll⟩
  · exact hroll.poisoned.trans hdead
  · exact hroll.poisoned.trans hdead
  · exact hroll.poisoned.trans hdead
  · exact hroll.poisoned

/-- A registry dies of nothing but the resolving of an account. -/
theorem Step.dies (h : Step g d g') (hsound : g.poisoned = false) (hdead : g'.poisoned = true) :
    ∃ who, g.resolve who = (.error .panicked, g') ∧ ¬ Startable g.config who.host := by
  have hnot {g₁ : Gateway} (hroll : SameRoll g₁ g') (hsame : g₁.poisoned = g.poisoned) : False := by
    rw [hroll.poisoned, hsame, hsound] at hdead
    cases hdead
  rcases h.roll with hroll | ⟨t, -, hroll⟩ | ⟨x, -, -, hroll⟩ | ⟨who, hstartable, hresolve, -⟩
  · exact (hnot hroll rfl).elim
  · exact (hnot hroll rfl).elim
  · exact (hnot hroll rfl).elim
  · exact ⟨who, hresolve, hstartable⟩

theorem orderly_of_runs {config : Config} {clock : Timestamp} {overflow : Overflow}
    (hcreate : create config clock overflow = .ok start) (hruns : start.Runs log g) :
    g.Orderly ∧ g.config = config := by
  have hconfig : start.config = config := by rw [create_eq hcreate]
  have hstart : start.Orderly := ⟨hconfig ▸ valid_of_create hcreate, listed_create hcreate⟩
  exact ⟨hstart.runs hruns, hruns.follows.config.trans hconfig⟩

/-- A run at whose end the registry is dead goes through its death. -/
theorem Runs.dies {log' : List Deed} (hruns : g.Runs log' g') (hsound : g.poisoned = false)
    (hdead : g'.poisoned = true) :
    ∃ past g₁ who, past <+: log' ∧ g.Runs past g₁ ∧ g₁.poisoned = false
      ∧ (g₁.resolve who).1 = .error .panicked := by
  induction hruns with
  | start => exact absurd (hsound.symm.trans hdead) Bool.false_ne_true
  | @step past d g₁ g₂ hruns hstep ih =>
      cases halive : g₁.poisoned with
      | true =>
          obtain ⟨before, g₀, who, hbefore, hruns₀, hsound₀, hresolve⟩ := ih halive
          exact ⟨before, g₀, who, hbefore.trans (List.prefix_append _ _), hruns₀, hsound₀,
            hresolve⟩
      | false =>
          obtain ⟨who, hresolve, -⟩ := hstep.dies halive hdead
          exact ⟨past, g₁, who, List.prefix_append _ _, hruns, halive, by rw [hresolve]⟩

theorem Runs.stays_dead {log' : List Deed} (hruns : g.Runs log' g') (hdead : g.poisoned = true) :
    g'.poisoned = true := by
  induction hruns with
  | start => exact hdead
  | step hruns hstep ih => exact hstep.stays_dead ih

/-- A registry that lives dies over an account exactly if that is deadly, and it
never is the account of a tenant. Some accounts, one after the other, kill it
exactly if one of them is deadly; from then on nobody is resolved any more,
whatever happens. And the registry has died of nothing else if it is ever found
dead. -/
theorem registry_dies_over_the_deadly {config : Config} {clock : Timestamp} {overflow : Overflow}
    (hcreate : create config clock overflow = .ok start) (hruns : start.Runs log g)
    (hsound : g.poisoned = false) :
    (∀ who, (g.resolve who).1 = .error .panicked ↔ Deadly config who.host)
    ∧ (∀ who : Credentials, Deadly config who.host → g.find? who.key = none)
    ∧ (∀ accounts, (g.resolveAll accounts).poisoned = true
        ↔ ∃ who ∈ accounts, Deadly config who.host)
    ∧ (∀ accounts, (∃ who ∈ accounts, Deadly config who.host) →
        ∀ log' g', (g.resolveAll accounts).Runs log' g' →
          ∀ who, g'.resolve who = (.error (.failed registryPoisoned), g'))
    ∧ ∀ log' g', g.Runs log' g' → g'.poisoned = true →
        ∃ past g₁ who, past <+: log' ∧ g.Runs past g₁ ∧ g₁.poisoned = false
          ∧ (g₁.resolve who).1 = .error .panicked ∧ Deadly config who.host := by
  obtain ⟨hg, rfl⟩ := orderly_of_runs hcreate hruns
  refine ⟨fun who => hg.panicked_resolve_iff hsound, ?_, hg.poisoned_resolveAll_iff hsound,
    ?_, ?_⟩
  · intro who hdeadly
    rcases hg.resolve_cases hsound who with ⟨-, hnew, -⟩ | ⟨hharmless, -⟩
    · exact hnew
    · exact absurd hdeadly hharmless
  · intro accounts hdeadly log' g' hruns' who
    have hdead := (hg.poisoned_resolveAll_iff hsound accounts).2 hdeadly
    exact resolve_of_dead (hruns'.stays_dead hdead) who
  · intro log' g' hruns' hdead
    obtain ⟨past, g₁, who, hpast, hruns₁, hsound₁, hresolve⟩ := hruns'.dies hsound hdead
    have hg₁ := hg.runs hruns₁
    refine ⟨past, g₁, who, hpast, hruns₁, hsound₁, hresolve, ?_⟩
    rw [← hruns₁.follows.config]
    exact (hg₁.panicked_resolve_iff hsound₁).1 hresolve

/-- With the default settings two accounts get their tenants; a host that cannot
be named is the end of it, for the two as well. -/
theorem registry_dies_over_an_unnameable_host :
    dawn.poisoned = false
      ∧ (dawn.resolveAll [⟨"east", "login", "pw"⟩, ⟨"west", "login", "pw"⟩]).poisoned = false
      ∧ (dawn.resolveAll [⟨"east", "login", "pw"⟩, ⟨"we\x00st", "login", "pw"⟩]).poisoned = true
      ∧ ∀ who, ((dawn.resolveAll [⟨"east", "login", "pw"⟩, ⟨"we\x00st", "login", "pw"⟩]).resolve
          who).1 = .error (.failed registryPoisoned) := by
  have hcreate : create {} ⟨0, 0⟩ .panics = .ok dawn := rfl
  obtain ⟨-, -, hiff, hdead, -⟩ := registry_dies_over_the_deadly hcreate .start rfl
  have hdeadly : ∃ who ∈ [(⟨"east", "login", "pw"⟩ : Credentials), ⟨"we\x00st", "login", "pw"⟩],
      Deadly {} who.host := by decide
  refine ⟨rfl, ?_, (hiff _).2 hdeadly, fun who => ?_⟩
  · rw [← Bool.not_eq_true, hiff]
    decide
  · rw [hdead _ hdeadly [] _ .start who]

/-- Settings that pass validation and ask for a longer queue than there can be. -/
def endless : Config := { queueCapacity := PoolSpec.maxCapacity + 1 }

/-- Valid settings do not keep a registry alive: with some of them it dies over
the very first account, whatever that is, and with the default ones over a host. -/
theorem valid_settings_kill :
    ¬ (∀ config clock overflow g who, config.validate = .ok () →
        create config clock overflow = .ok g → (g.resolve who).1 ≠ .error .panicked)
    ∧ (∃ g, endless.validate = .ok () ∧ create endless ⟨0, 0⟩ .panics = .ok g
        ∧ ∀ who other, (g.resolve who).1 = .error .panicked
          ∧ ((g.resolve who).2.resolve other).1 = .error (.failed registryPoisoned))
    ∧ (dawn.resolve ⟨"east", "login", "pw"⟩).1 = .ok 0
    ∧ ((dawn.resolve ⟨"east", "login", "pw"⟩).2.resolve ⟨"we\x00st", "login", "pw"⟩).1
        = .error .panicked
    ∧ ((dawn.resolveAll [⟨"east", "login", "pw"⟩, ⟨"we\x00st", "login", "pw"⟩]).resolve
        ⟨"east", "login", "pw"⟩).1 = .error (.failed registryPoisoned) := by
  refine ⟨?_, ⟨_, rfl, rfl, fun who other => ⟨rfl, rfl⟩⟩, rfl, rfl, rfl⟩
  intro h
  exact h endless ⟨0, 0⟩ .panics _ ⟨"host", "login", "pw"⟩ rfl rfl rfl

end

end Gateway

end CheckGateway
