/-
Identical items at two tenants of one account.

The filter of a tenant keeps identical items apart, and the registry lists
one tenant for each account. But a tenant that is taken out of the registry
works off what it has, and the next request of its account gets a successor,
whose filter knows nothing of it. So identical items of an account are kept
apart only as long as its tenant is not taken out.

# Who takes out

A shutdown takes everybody out, busy or not, and then waits for the workers.
A sweep takes out who has nothing in flight; but a call that found its tenant
before, and is not admitted yet, is admitted there all the same, until the
sweep comes to shut the pools down. These are the two ways to identical items
at once, and there is no third. Both lie open: to a shutdown whenever an item
is executed, to a sweep whenever it would find the tenant of a call idle
(`doubled_only_at_successors`).

Everything is one step at a time on the `Floor` where sweeps overtake calls.
The registry can be shut down here as well.
-/
import CheckGateway.Proofs.Gateway.Eviction

namespace CheckGateway

/-- Accounts that agree have one key, whatever the digests are. -/
theorem Credentials.key_eq_of_agree {a b : Credentials} (h : a.agree b = true) :
    a.key = b.key := by
  simp only [agree, Bool.and_eq_true, beq_iff_eq, Text.eqIgnoreCase_iff] at h
  obtain ⟨⟨hhost, hlogin⟩, hpassword⟩ := h
  simp only [key, passwordParts, hhost, hlogin, hpassword]

theorem Credentials.agree_self (a : Credentials) : a.agree a = true := by
  simp [agree, Text.eqIgnoreCase_iff]

-- ============================================================ execution

namespace Pool

variable {Job Reply : Type} {s : Live Job Reply} {item : Item Job}

/-- A pool that would run an item at once. -/
structure Ready (s : Live Job Reply) : Prop where
  isOpen : s.pool.isShutDown = false
  queue : s.pool.queue = []
  room : 0 < s.pool.capacity
  worker : s.pool.taken.length + s.gone < s.pool.workers

/-- A pool is ready when it starts. -/
theorem ready_of_start? {spec : PoolSpec} {n : Nat} {p : Pool Job Reply}
    (h : start? spec n = some p) : Ready ({ pool := p } : Live Job Reply) := by
  obtain ⟨hfresh, hworkers, hcapacity⟩ := start?_eq h
  refine ⟨hfresh.isOpen, hfresh.queue, ?_, ?_⟩
  · simp [hcapacity]
  · simp [hfresh.taken, hworkers]

theorem Ready.serve (h : Ready s) (hnew : item.ticket ∉ s.tickets) :
    ∃ s₁ s₂ s₃ s₄, Step s (.asked item) s₁ ∧ Step s₁ (.entered item.ticket) s₂
      ∧ Step s₂ (.accepted item) s₃ ∧ Step s₃ (.did (.took item.ticket)) s₄
      ∧ ⟨item.ticket, item.fingerprint, .running item.job⟩ ∈ s₄.pool.taken := by
  have hroom : s.pool.hasRoom = true := by simp [hasRoom, h.queue, h.room]
  have hqueue : (s.pool.enqueue item).queue = [item] := by simp [enqueue, h.queue]
  have htake : (s.pool.enqueue item).take? = some { s.pool with
      queue := []
      taken := s.pool.taken ++ [⟨item.ticket, item.fingerprint, .running item.job⟩] } := by
    unfold take?
    rw [hqueue]
    exact if_pos (Nat.lt_of_le_of_lt (Nat.le_add_right ..) h.worker)
  exact ⟨_, _, _, _, .ask item hnew, .enter rfl h.isOpen, .accept rfl hroom,
    .take hqueue h.worker htake, List.mem_append_right _ (List.mem_singleton.2 rfl)⟩

end Pool

namespace Dispatch

variable {Job Reply : Type} {pools : PoolKind → Pool Job Reply}
  {log : List (Deed Job Reply)} {d : Dispatcher Job Reply} {kind : PoolKind}
  {c : Nat × String}

/-- A worker runs an item that has a ticket and a fingerprint. -/
def Executes (d : Dispatcher Job Reply) (c : Nat × String) : Prop :=
  ∃ kind job, ⟨c.1, c.2, .running job⟩ ∈ (d.lanes kind).pool.taken

theorem Executes.mem_work (h : Executes d c) : c ∈ d.work := by
  obtain ⟨kind, job, hmem⟩ := h
  refine (overLanes_perm d kind Dispatch.work).mem_iff.2 (List.mem_append_left _ ?_)
  refine List.mem_filterMap.2 ⟨.taken ⟨c.1, c.2, .running job⟩, ?_, rfl⟩
  simp [Pool.Live.places, Pool.placesOf, hmem]

/-- An item that is admitted while its pool is ready can be run. -/
theorem Run.executable (hfresh : ∀ kind, Pool.Fresh (pools kind)) (h : Run pools log d)
    {item : Item Job} (hnew : item.ticket ∉ d.tickets)
    (habsent : d.inFlight.holds item.fingerprint = false) (hready : Pool.Ready (d.lanes kind)) :
    ∃ d₁ d₂ d₃ d₄ d₅, Step d (.admitted kind item) d₁ ∧ Step d₁ (.lane kind (.asked item)) d₂
      ∧ Step d₂ (.lane kind (.entered item.ticket)) d₃
      ∧ Step d₃ (.lane kind (.accepted item)) d₄
      ∧ Step d₄ (.lane kind (.did (.took item.ticket))) d₅
      ∧ Executes d₅ (item.ticket, item.fingerprint) := by
  obtain ⟨f, haccept⟩ := (InFlight.accept_isOk d.inFlight _ ⟨0, 0⟩).2 habsent
  obtain ⟨s₁, s₂, s₃, s₄, hask, henter, haccepted, htake, hmem⟩ :=
    hready.serve (h.not_asked hfresh hnew kind)
  refine ⟨_, _, _, _, _, .letIn kind item ⟨0, 0⟩ hnew haccept, .ask rfl hask,
    .move kind rfl (step_setLane _ henter), .accept rfl (step_setLane _ haccepted),
    .move kind rfl (step_setLane _ htake), kind, item.job, ?_⟩
  rw [lanes_setLane_self]
  exact hmem

end Dispatch

namespace Successors

open Dispatch (Dispatcher Executes admissions releases)
open Eviction (Floor Caller StaffedAt Calling deedsOf)

-- ============================================================ the steps

/-- What can happen where the registry can be shut down. -/
inductive Act where
  | usual (a : Eviction.Act)
  | drained (ts : List Nat)

/-- The tenants that are taken out of the registry. -/
def Act.outgoing : Act → List Nat
  | .usual (.swept _ ts) => ts
  | .usual _ => []
  | .drained ts => ts

/-- One step. -/
inductive Step : Floor → Act → Floor → Prop where
  | usual {s s' : Floor} {a : Eviction.Act} (h : Eviction.Step s a s') : Step s (.usual a) s'
  /-- A shutdown takes everybody out. -/
  | drain {s : Floor} (halive : s.gateway.poisoned = false) :
      Step s (.drained s.gateway.registered)
        { s with
          gateway := { s.gateway with registered := [] }
          taken := s.gateway.registered ++ s.taken }
  /-- It waits for the workers of a pool. -/
  | join {s : Floor} {t : Nat} {kind : PoolKind} {d d' : Dispatcher Work Response}
      (htaken : t ∈ s.taken) (hd : s.crews[t]? = some d)
      (hstep : Dispatch.Step d (.lane kind .joining) d') :
      Step s (.usual (.did t (.lane kind .joining))) (s.withCrew t d')

/-- What can happen from a gateway without tenants on, first to last. -/
inductive Run (start : Gateway) : List Act → Floor → Prop where
  | start : Run start [] { gateway := start }
  | step {log : List Act} {s s' : Floor} {a : Act} (h : Run start log s)
      (hstep : Step s a s') : Run start (log ++ [a]) s'

/-- What has happened to calls and to dispatchers. -/
def usual (log : List Act) : List Eviction.Act :=
  log.filterMap fun
    | .usual a => some a
    | .drained _ => none

def TakenOut (t : Nat) (log : List Act) : Prop := ∃ a ∈ log, t ∈ a.outgoing

/-- A tenant was made after another had been taken out. -/
def Succeeds (t t' : Nat) (log : List Act) : Prop :=
  ∃ early call time late, log = early ++ .usual (.resolved call t' time) :: late
    ∧ (∀ call time, .usual (.resolved call t' time) ∉ early) ∧ TakenOut t early

/-- A call found its tenant, a sweep took the tenant out, and then the call was
admitted there. -/
def Overtaken (log : List Act) (call t : Nat) : Prop :=
  ∃ before now ts after, log = before ++ .usual (.swept now ts) :: after ∧ t ∈ ts
    ∧ (∃ time, .usual (.resolved call t time) ∈ before)
    ∧ ∃ kind item, item.ticket = call ∧ .usual (.did t (.admitted kind item)) ∈ after

section

variable {log more : List Act} {a : Act} {b : Eviction.Act} {t t' : Nat}

theorem usual_append : usual (log ++ more) = usual log ++ usual more :=
  List.filterMap_append ..

theorem mem_usual : b ∈ usual log ↔ .usual b ∈ log := by
  unfold usual
  rw [List.mem_filterMap]
  constructor
  · intro hsome
    obtain ⟨act, hmem, hact⟩ := hsome
    cases act with
    | usual a =>
        cases hact
        exact hmem
    | drained ts => cases hact
  · intro hmem
    exact ⟨_, hmem, rfl⟩

theorem TakenOut.append (h : TakenOut t log) (more : List Act) : TakenOut t (log ++ more) := by
  obtain ⟨a, hmem, ht⟩ := h
  exact ⟨a, List.mem_append_left _ hmem, ht⟩

theorem takenOut_concat : TakenOut t (log ++ [a]) ↔ TakenOut t log ∨ t ∈ a.outgoing := by
  simp [TakenOut, or_and_right, exists_or]

theorem Succeeds.takenOut (h : Succeeds t t' log) : TakenOut t log := by
  obtain ⟨early, call, time, late, rfl, -, hout⟩ := h
  exact hout.append _

theorem Succeeds.append (h : Succeeds t t' log) (more : List Act) :
    Succeeds t t' (log ++ more) := by
  obtain ⟨early, call, time, late, rfl, hfirst, hout⟩ := h
  exact ⟨early, call, time, late ++ more, by simp, hfirst, hout⟩

end

-- ========================================================== the registry

/-- What a step does to the registry. -/
inductive Turn (s : Floor) (a : Act) (s' : Floor) : Prop where
  /-- Nothing; and who is found is there. -/
  | same (hlength : s'.gateway.tenants.length = s.gateway.tenants.length)
      (hkeys : s'.gateway.key? = s.gateway.key?)
      (hregistered : s'.gateway.registered = s.gateway.registered) (hnone : a.outgoing = [])
      (hfound : ∀ call t time, a = .usual (.resolved call t time) → t ∈ s.gateway.registered)
  /-- A tenant is made for an account that has none. -/
  | made {call : Nat} {x : Tenant}
      (ha : a = .usual (.resolved call s.gateway.tenants.length s.gateway.clock))
      (hfind : s.gateway.find? x.key = none)
      (htenants : s'.gateway.tenants = s.gateway.tenants ++ [x])
      (hregistered : s'.gateway.registered = s.gateway.tenants.length :: s.gateway.registered)
  /-- Tenants are taken out. -/
  | out (htenants : s'.gateway.tenants = s.gateway.tenants)
      (hregistered : ∀ t, t ∈ s'.gateway.registered ↔ t ∈ s.gateway.registered ∧ t ∉ a.outgoing)
      (hout : a.outgoing ⊆ s.gateway.registered)
      (hfound : ∀ call t time, a ≠ .usual (.resolved call t time))

section

variable {s s' : Floor} {a : Act} {t : Nat} {who : Credentials} {g g' : Gateway}

/-- Nobody was found who is made. -/
theorem find?_of_made (h : g.resolve who = (.ok t, g')) (hfirst : g.tenants.length ≤ t) :
    g.find? who.key = none := by
  rcases Gateway.resolve_inv h with ⟨-, hr, -⟩ | ⟨-, t', hfind, hr, -⟩ | ⟨-, hfind, -⟩
  · cases hr
  · cases hr
    have hkey := (Gateway.registered_of_find? hfind).2
    unfold Gateway.key? Gateway.account? at hkey
    rw [List.getElem?_eq_none hfirst] at hkey
    cases hkey
  · exact hfind

/-- Nothing, if the roll stays as it is. -/
theorem Turn.of_sameRoll (hroll : Gateway.SameRoll s.gateway s'.gateway)
    (hnone : a.outgoing = [])
    (hfound : ∀ call t time, a = .usual (.resolved call t time) → t ∈ s.gateway.registered) :
    Turn s a s' :=
  .same hroll.length (Gateway.key?_congr hroll) hroll.registered hnone hfound

theorem turn_of_usual {b : Eviction.Act} (h : Eviction.Step s b s') : Turn s (.usual b) s' := by
  cases h with
  | tick => exact .of_sameRoll ⟨rfl, rfl, rfl, rfl, rfl⟩ rfl nofun
  | @find call t who g hnew hresolve hold =>
      obtain ⟨hregistered, rfl⟩ := Eviction.resolve_found hresolve hold
      refine .of_sameRoll (Gateway.sameRoll_update fun _ => rfl) rfl ?_
      intro call' t' time heq
      cases heq
      exact hregistered
  | @make call t who g x hnew hresolve hfirst hx =>
      obtain ⟨rfl, -, hregistered, numbers, pools, -, htenants⟩ :=
        Eviction.resolve_made hresolve hfirst
      refine .made rfl ?_ htenants hregistered
      exact find?_of_made hresolve hfirst
  | fail hresolve =>
      obtain ⟨-, hregistered, htenants⟩ := Eviction.resolve_failed hresolve
      refine .same (congrArg List.length htenants) ?_ hregistered rfl nofun
      unfold Gateway.key? Gateway.account?
      rw [htenants]
  | submit hcaller =>
      exact .of_sameRoll (Gateway.sameRoll_update fun _ => rfl) rfl nofun
  | enter hcaller hd hcrew => exact .of_sameRoll Eviction.sameRoll_withCrew rfl nofun
  | reject hcaller hd hcrew => exact .of_sameRoll Eviction.sameRoll_withCrew rfl nofun
  | sweep now halive =>
      refine .out rfl (fun t => ?_) List.filter_sublist.subset nofun
      simp only [Act.outgoing, Gateway.idleAt, List.mem_filter]
      cases s.gateway.isIdle now t <;> simp
  | shut htaken hd hcrew => exact .of_sameRoll Eviction.sameRoll_withCrew rfl nofun
  | inner hinner hd hcrew => exact .of_sameRoll Eviction.sameRoll_withCrew rfl nofun

theorem Step.turn (h : Step s a s') : Turn s a s' := by
  cases h with
  | usual h => exact turn_of_usual h
  | drain halive =>
      refine .out rfl (fun t => ?_) (List.Subset.refl _) nofun
      simp [Act.outgoing]
  | join htaken hd hcrew => exact .of_sameRoll Eviction.sameRoll_withCrew rfl nofun

end

/-- What is known of the tenants that are registered, and of those that have
been taken out. -/
structure Roll (log : List Act) (s : Floor) : Prop where
  listed : ∀ t < s.gateway.tenants.length, t ∈ s.gateway.registered ∨ TakenOut t log
  gone : ∀ t, TakenOut t log → t < s.gateway.tenants.length ∧ t ∉ s.gateway.registered
  found : ∀ call t time, .usual (.resolved call t time) ∈ log → t < s.gateway.tenants.length
  /-- What has been taken out is found no more. -/
  lost : log.Pairwise fun a b => ∀ t ∈ a.outgoing, ∀ call time,
    b ≠ .usual (.resolved call t time)
  /-- Of two tenants of one account the later one was made after the earlier
  one had been taken out. -/
  succeeds : ∀ t t', t < t' → t' < s.gateway.tenants.length →
    s.gateway.key? t = s.gateway.key? t' → Succeeds t t' log

section

variable {log : List Act} {s s' : Floor} {a : Act} {t : Nat} {x : Tenant}

/-- Who is found was not taken out before. -/
theorem Roll.lost_concat (h : Roll log s)
    (hfound : ∀ call t time, a = .usual (.resolved call t time) → ¬ TakenOut t log) :
    (log ++ [a]).Pairwise fun a b => ∀ t ∈ a.outgoing, ∀ call time,
      b ≠ .usual (.resolved call t time) := by
  refine List.pairwise_append.2 ⟨h.lost, List.pairwise_singleton .., ?_⟩
  intro b hb c hc t ht call time hresolved
  rw [List.mem_singleton.1 hc] at hresolved
  exact hfound call t time hresolved ⟨b, hb, ht⟩

theorem Roll.same (h : Roll log s) (hlisted : s.gateway.Listed)
    (hlength : s'.gateway.tenants.length = s.gateway.tenants.length)
    (hkeys : s'.gateway.key? = s.gateway.key?)
    (hregistered : s'.gateway.registered = s.gateway.registered) (hnone : a.outgoing = [])
    (hfound : ∀ call t time, a = .usual (.resolved call t time) → t ∈ s.gateway.registered) :
    Roll (log ++ [a]) s' := by
  have hout : ∀ t, TakenOut t (log ++ [a]) ↔ TakenOut t log := fun t => by
    simp [takenOut_concat, hnone]
  refine ⟨?_, ?_, ?_, h.lost_concat fun call t time ha htaken =>
    (h.gone t htaken).2 (hfound call t time ha), ?_⟩
  · simpa only [hlength, hregistered, hout] using h.listed
  · simpa only [hlength, hregistered, hout] using h.gone
  · rw [hlength]
    intro call t time hmem
    rcases List.mem_append.1 hmem with hold | hlast
    · exact h.found call t time hold
    · exact hlisted.known t (hfound call t time (List.mem_singleton.1 hlast).symm)
  · rw [hlength, hkeys]
    exact fun t t' hlt hlt' hkey => (h.succeeds t t' hlt hlt' hkey).append _

theorem Roll.made (h : Roll log s) {call : Nat} {time : Timestamp}
    (hfind : s.gateway.find? x.key = none)
    (htenants : s'.gateway.tenants = s.gateway.tenants ++ [x])
    (hregistered : s'.gateway.registered = s.gateway.tenants.length :: s.gateway.registered) :
    Roll (log ++ [.usual (.resolved call s.gateway.tenants.length time)]) s' := by
  have hlength : s'.gateway.tenants.length = s.gateway.tenants.length + 1 := by simp [htenants]
  have hout : ∀ t, TakenOut t (log ++ [.usual (.resolved call s.gateway.tenants.length time)])
      ↔ TakenOut t log := fun t => by simp [takenOut_concat, Act.outgoing]
  have hkey : ∀ t < s.gateway.tenants.length, s'.gateway.key? t = s.gateway.key? t :=
    fun t ht => congrArg (Option.map Credentials.key) (Gateway.account?_concat htenants ht)
  have hlast : s'.gateway.key? s.gateway.tenants.length = some x.key :=
    Gateway.key?_of_tenant (by rw [htenants]; exact List.getElem?_concat_length)
  refine ⟨?_, ?_, ?_, h.lost_concat ?_, ?_⟩
  · intro t ht
    rw [hregistered, hout]
    rcases Nat.lt_succ_iff_lt_or_eq.1 (hlength ▸ ht) with hlt | rfl
    · exact (h.listed t hlt).imp_left (List.mem_cons_of_mem _)
    · exact .inl (List.mem_cons_self ..)
  · intro t ht
    obtain ⟨hlt, hnot⟩ := h.gone t ((hout t).1 ht)
    rw [hlength, hregistered, List.mem_cons, not_or]
    exact ⟨Nat.lt_succ_of_lt hlt, hlt.ne, hnot⟩
  · intro call' t time' hmem
    rw [hlength]
    rcases List.mem_append.1 hmem with hold | hnew
    · exact Nat.lt_succ_of_lt (h.found call' t time' hold)
    · cases List.mem_singleton.1 hnew
      exact Nat.lt_succ_self _
  · intro call' t time' heq htaken
    cases heq
    exact Nat.lt_irrefl _ (h.gone _ htaken).1
  · intro t t' hlt hlt' hsame
    rcases Nat.lt_succ_iff_lt_or_eq.1 (hlength ▸ hlt') with hold | rfl
    · rw [hkey t (hlt.trans hold), hkey t' hold] at hsame
      exact (h.succeeds t t' hlt hold hsame).append _
    · -- the account had a tenant, which was not found: so it has been taken out
      rw [hkey t hlt, hlast] at hsame
      refine ⟨log, call, time, [], rfl, fun call' time' hmem =>
        Nat.lt_irrefl _ (h.found call' _ time' hmem), ?_⟩
      refine (h.listed t hlt).resolve_left fun hregistered => ?_
      rw [Gateway.find?_eq, List.find?_eq_none] at hfind
      exact hfind t hregistered (beq_iff_eq.2 hsame)

theorem Roll.out (h : Roll log s) (hlisted : s.gateway.Listed)
    (htenants : s'.gateway.tenants = s.gateway.tenants)
    (hregistered : ∀ t, t ∈ s'.gateway.registered ↔ t ∈ s.gateway.registered ∧ t ∉ a.outgoing)
    (hout : a.outgoing ⊆ s.gateway.registered)
    (hfound : ∀ call t time, a ≠ .usual (.resolved call t time)) : Roll (log ++ [a]) s' := by
  have hkeys : s'.gateway.key? = s.gateway.key? := by
    unfold Gateway.key? Gateway.account?
    rw [htenants]
  refine ⟨?_, ?_, ?_, h.lost_concat fun call t time ha => absurd ha (hfound call t time), ?_⟩
  · intro t ht
    rw [hregistered, takenOut_concat]
    have hold := h.listed t (htenants ▸ ht)
    tauto
  · intro t ht
    rw [htenants, hregistered]
    rcases takenOut_concat.1 ht with hold | hnew
    · exact ⟨(h.gone t hold).1, fun hmem => (h.gone t hold).2 hmem.1⟩
    · exact ⟨hlisted.known t (hout hnew), fun hmem => hmem.2 hnew⟩
  · intro call t time hmem
    rw [htenants]
    rcases List.mem_append.1 hmem with hold | hlast
    · exact h.found call t time hold
    · exact absurd (List.mem_singleton.1 hlast).symm (hfound call t time)
  · rw [htenants, hkeys]
    exact fun t t' hlt hlt' hkey => (h.succeeds t t' hlt hlt' hkey).append _

theorem Roll.step (h : Roll log s) (hlisted : s.gateway.Listed) (hstep : Step s a s') :
    Roll (log ++ [a]) s' := by
  cases hstep.turn with
  | same hlength hkeys hregistered hnone hfound =>
      exact h.same hlisted hlength hkeys hregistered hnone hfound
  | made ha hfind htenants hregistered =>
      subst ha
      exact h.made hfind htenants hregistered
  | out htenants hregistered hout hfound =>
      exact h.out hlisted htenants hregistered hout hfound

end

-- ========================================================= the invariant

/-- What holds of the floor at every point. -/
structure Sound (log : List Act) (s : Floor) : Prop where
  listed : s.gateway.Listed
  staffed : ∀ t, StaffedAt (usual log) s t
  calling : Calling (usual log) s
  roll : Roll log s

section

variable {start : Gateway} {config : Config} {clock : Timestamp} {overflow : Overflow}
  {log more : List Act} {s s' : Floor} {a : Act}

theorem Sound.step (h : Sound log s) (hstep : Step s a s') : Sound (log ++ [a]) s' := by
  have hroll := h.roll.step h.listed hstep
  cases hstep with
  | usual hstep =>
      refine ⟨hstep.listed h.listed, ?_, ?_, hroll⟩
      · rw [usual_append]
        exact hstep.staffed h.staffed h.calling
      · rw [usual_append]
        exact h.calling.step hstep
  | drain halive =>
      refine ⟨h.listed.sublist (List.nil_sublist _), ?_, ?_, hroll⟩
      · rw [usual_append, show usual [.drained s.gateway.registered] = [] from rfl,
          List.append_nil]
        exact h.staffed
      · rw [usual_append, show usual [.drained s.gateway.registered] = [] from rfl,
          List.append_nil]
        exact ⟨h.calling.known, h.calling.found, h.calling.numbered, h.calling.distinct,
          h.calling.admitted⟩
  | join htaken hd hcrew =>
      refine ⟨h.listed.congr Eviction.sameRoll_withCrew, ?_, ?_, hroll⟩
      · rw [usual_append]
        exact Eviction.staffedAt_withCrew h.staffed hd hcrew rfl rfl
      · rw [usual_append]
        exact h.calling.keep Eviction.length_update (.refl _) rfl nofun

theorem Run.sound (hcreate : Gateway.create config clock overflow = .ok start)
    (h : Run start log s) :
    Sound log s := by
  induction h with
  | start =>
      have hlisted := Gateway.listed_create hcreate
      obtain rfl := Gateway.create_eq hcreate
      refine ⟨hlisted, fun t => .inr ⟨rfl, rfl, rfl, rfl⟩,
        ⟨nofun, nofun, nofun, .nil, nofun⟩, ?_⟩
      exact ⟨nofun, nofun, nofun, .nil, nofun⟩
  | step _ hstep ih => exact ih.step hstep

theorem Run.of_concat (h : Run start (log ++ [a]) s) : ∃ s₀, Run start log s₀ ∧ Step s₀ a s := by
  generalize hall : log ++ [a] = all at h
  cases h with
  | start => simp at hall
  | step h hstep =>
      obtain ⟨rfl, hlast⟩ := List.append_inj' hall rfl
      cases hlast
      exact ⟨_, h, hstep⟩

/-- What has happened up to some point could have been everything. -/
theorem Run.initial (h : Run start (log ++ more) s) : ∃ s₀, Run start log s₀ := by
  induction more using List.reverseRecOn generalizing s with
  | nil =>
      rw [List.append_nil] at h
      exact ⟨s, h⟩
  | append_singleton more last ih =>
      rw [← List.append_assoc] at h
      obtain ⟨s₀, h₀, -⟩ := h.of_concat
      exact ih h₀

end

-- ============================================================= apart

section

variable {start : Gateway} {config : Config} {clock : Timestamp} {overflow : Overflow}
  {log before after : List Act} {s : Floor} {t : Nat} {now : Timestamp} {ts : List Nat}
  {d : Dispatcher Work Response} {c : Nat × String}

/-- The dispatcher of a tenant has come about by a run. -/
theorem Sound.run (h : Sound log s) (hd : s.crews[t]? = some d) :
    ∃ (specs : PoolKind → PoolSpec) (numbers : PoolKind → Nat)
      (pools : PoolKind → Pool Work Response),
      (∀ kind, Pool.start? (specs kind) (numbers kind) = some (pools kind))
        ∧ Dispatch.Run pools (deedsOf t (usual log)) d := by
  rcases h.staffed t with ⟨x, e, -, he, hstaffed⟩ | ⟨-, hnone, -⟩
  · obtain rfl := Option.some.inj (he.symm.trans hd)
    exact hstaffed.run
  · rw [hnone] at hd
    cases hd

/-- What a sweep takes out has released whatever it had admitted. -/
theorem settled_of_swept (hcreate : Gateway.create config clock overflow = .ok start)
    (h : Run start (before ++ .usual (.swept now ts) :: after) s) (ht : t ∈ ts) :
    ∀ c ∈ admissions (deedsOf t (usual before)), c ∈ releases (deedsOf t (usual before)) := by
  rw [List.append_cons] at h
  obtain ⟨s₁, h₁⟩ := h.initial
  obtain ⟨s₀, h₀, hstep⟩ := h₁.of_concat
  have hsound := h₀.sound hcreate
  have hidle : t ∈ s₀.gateway.idleAt now := by
    cases hstep with
    | usual hstep =>
        cases hstep with
        | sweep => exact ht
  rcases hsound.staffed t with ⟨x, d, hx, -, hstaffed⟩ | ⟨hnone, -⟩
  · exact hstaffed.settled (Eviction.of_mem_idleAt hidle hx).1
  · have hlt := hsound.listed.known t (List.mem_filter.1 hidle).1
    exact absurd hlt (Nat.not_lt.2 (List.getElem?_eq_none_iff.1 hnone))

/-- What a tenant works at that a sweep has taken out is of a call that the sweep
overtook. -/
theorem Run.overtaken (hcreate : Gateway.create config clock overflow = .ok start)
    (h : Run start (before ++ .usual (.swept now ts) :: after) s) (ht : t ∈ ts)
    (hd : s.crews[t]? = some d) (hc : c ∈ d.work) :
    Overtaken (before ++ .usual (.swept now ts) :: after) c.1 t := by
  have hsound := h.sound hcreate
  obtain ⟨specs, numbers, pools, hstart, hrun⟩ := hsound.run hd
  have hledger := hrun.ledger fun kind => (Pool.start?_eq (hstart kind)).1
  have hopen := hledger.unreleased_iff.2 (List.mem_append_right _ hc)
  obtain ⟨kind, item, hadmitted, rfl⟩ := Dispatch.mem_admissions.1 hopen.1
  have hdid := Eviction.mem_deedsOf.1 hadmitted
  obtain ⟨⟨time, hresolved⟩, -⟩ := hsound.calling.admitted t kind item hdid
  refine ⟨before, now, ts, after, rfl, ht, ⟨time, ?_⟩, kind, item, rfl, ?_⟩
  · -- it was found, so before it was taken out
    have hlater := (List.pairwise_cons.1 (List.pairwise_append.1 hsound.roll.lost).2.1).1
    rcases List.mem_append.1 (mem_usual.1 hresolved) with hmem | hmem
    · exact hmem
    · rcases List.mem_cons.1 hmem with heq | hmem
      · cases heq
      · exact absurd rfl (hlater _ hmem t ht item.ticket time)
  · -- it is not released, so it was admitted after the sweep
    rcases List.mem_append.1 (mem_usual.1 hdid) with hmem | hmem
    · rw [usual_append] at hledger hopen
      exact absurd (mem_usual.2 hmem) (Eviction.not_admitted_before hledger hopen
        (settled_of_swept hcreate h ht) kind item rfl)
    · rcases List.mem_cons.1 hmem with heq | hmem
      · cases heq
      · exact hmem

/-- Where a tenant works that has been taken out, a shutdown did it, or a sweep that
overtook the call. -/
theorem Run.drained_or_overtaken (hcreate : Gateway.create config clock overflow = .ok start)
    (h : Run start log s) (hout : TakenOut t log) (hd : s.crews[t]? = some d)
    (hc : c ∈ d.work) : (∃ ts, .drained ts ∈ log ∧ t ∈ ts) ∨ Overtaken log c.1 t := by
  obtain ⟨a, hmem, ht⟩ := hout
  cases a with
  | drained ts => exact .inl ⟨ts, hmem, ht⟩
  | usual a =>
      cases a with
      | swept now ts =>
          obtain ⟨before, after, rfl⟩ := List.append_of_mem hmem
          exact .inr (h.overtaken hcreate ht hd hc)
      | resolved | submitted | did | other => cases ht

end

-- ============================================================= at once

/-- A tenant has an item in a queue or in the hands of a worker, with its fingerprint
not released yet. -/
def WorksAt (s : Floor) (t : Nat) (c : Nat × String) : Prop :=
  ∃ d, s.crews[t]? = some d ∧ c ∈ d.work

/-- A tenant and a later one of the same account run items of one payload at once. -/
structure Doubled (s : Floor) (t t' : Nat) (payload : String) : Prop where
  later : t < t'
  account : ∃ a b, s.gateway.account? t = some a ∧ s.gateway.account? t' = some b
    ∧ a.agree b = true
  first : ∃ d n, s.crews[t]? = some d ∧ Executes d (n, payload)
  second : ∃ d n, s.crews[t']? = some d ∧ Executes d (n, payload)

section

variable {start : Gateway} {config : Config} {clock : Timestamp} {overflow : Overflow}
  {log : List Act} {s : Floor} {t call : Nat} {who : Credentials}
  {d : Dispatcher Work Response} {payload : String}

/-- Identical items are at a tenant and its successor, and the one at the earlier of
them outlived the tenant's place in the registry. -/
theorem Run.same_or_succeeds (hcreate : Gateway.create config clock overflow = .ok start)
    (h : Run start log s) {t t' : Nat} {a b : Credentials} {c c' : Nat × String}
    (ha : s.gateway.account? t = some a) (hb : s.gateway.account? t' = some b)
    (hagree : a.agree b = true) (hc : WorksAt s t c) (hc' : WorksAt s t' c')
    (hpayload : c.2 = c'.2) (hle : t ≤ t') :
    (t = t' ∧ c = c')
      ∨ (Succeeds t t' log
        ∧ ((∃ ts, .drained ts ∈ log ∧ t ∈ ts) ∨ Overtaken log c.1 t)) := by
  have hsound := h.sound hcreate
  obtain ⟨d, hd, hc⟩ := hc
  obtain ⟨d', hd', hc'⟩ := hc'
  rcases Nat.lt_or_eq_of_le hle with hlt | rfl
  · have hlt' := (List.getElem?_eq_some_iff.1 hd').1
    rw [Eviction.length_crews hsound.staffed] at hlt'
    have hkey : s.gateway.key? t = s.gateway.key? t' := by
      unfold Gateway.key?
      rw [ha, hb, Option.map_some, Option.map_some, Credentials.key_eq_of_agree hagree]
    have hsucceeds := hsound.roll.succeeds t t' hlt hlt' hkey
    exact .inr ⟨hsucceeds, h.drained_or_overtaken hcreate hsucceeds.takenOut hd hc⟩
  · -- one tenant, whose filter keeps them apart
    obtain rfl := Option.some.inj (hd.symm.trans hd')
    obtain ⟨specs, numbers, pools, hstart, hrun⟩ := hsound.run hd
    have hledger := hrun.ledger fun kind => (Pool.start?_eq (hstart kind)).1
    exact .inl ⟨rfl, List.inj_on_of_nodup_map hledger.single hc hc' hpayload⟩

/-- A call that is about to be admitted where a pool is ready has its item run. -/
theorem Run.execute (hcreate : Gateway.create config clock overflow = .ok start)
    (h : Run start log s)
    (kind : PoolKind) (item : Item Work) {front back : List Caller}
    (hcallers : s.callers = front ++ ⟨item.ticket, t, true⟩ :: back)
    (hd : s.crews[t]? = some d) (habsent : d.inFlight.holds item.fingerprint = false)
    (hready : Pool.Ready (d.lanes kind)) :
    ∃ more s' d', Run start (log ++ more) s' ∧ s'.crews = s.crews.set t d'
      ∧ s'.callers = front ++ back ∧ s'.calls = s.calls
      ∧ Gateway.SameRoll s.gateway s'.gateway
      ∧ Executes d' (item.ticket, item.fingerprint) := by
  have hsound := h.sound hcreate
  obtain ⟨specs, numbers, pools, hstart, hrun⟩ := hsound.run hd
  have hnew := hsound.calling.not_mem_tickets
    (c := ⟨item.ticket, t, true⟩) (by simp [hcallers]) hrun
  obtain ⟨d₁, d₂, d₃, d₄, d₅, hadmit, hask, henter, haccept, htake, hexecutes⟩ :=
    hrun.executable (fun kind => (Pool.start?_eq (hstart kind)).1) hnew habsent hready
  have hd₁ := @Eviction.crews_withCrew _ _ _ d₁ hd
  have hd₂ := @Eviction.crews_withCrew _ _ _ d₂ hd₁
  have hd₃ := @Eviction.crews_withCrew _ _ _ d₃ hd₂
  have hd₄ := @Eviction.crews_withCrew _ _ _ d₄ hd₃
  have hrun₁ := h.step (.usual (.enter hcallers hd hadmit))
  have hrun₂ := hrun₁.step (.usual (.inner rfl hd₁ hask))
  have hrun₃ := hrun₂.step (.usual (.inner rfl hd₂ henter))
  have hrun₄ := hrun₃.step (.usual (.inner rfl hd₃ haccept))
  have hrun₅ := hrun₄.step (.usual (.inner rfl hd₄ htake))
  simp only [List.append_assoc] at hrun₅
  refine ⟨_, _, d₅, hrun₅, by simp [Floor.withCrew], rfl, rfl, ?_, hexecutes⟩
  exact Eviction.sameRoll_withCrew.trans (Eviction.sameRoll_withCrew.trans
    (Eviction.sameRoll_withCrew.trans (Eviction.sameRoll_withCrew.trans
      Eviction.sameRoll_withCrew)))

/-- An account that has no tenant gets one, if its pools can be started. -/
theorem exists_made {g : Gateway} (halive : g.poisoned = false)
    (hfind : g.find? who.key = none) (hstartable : Gateway.Startable g.config who.host) :
    ∃ g' pools, g.resolve who = (.ok g.tenants.length, g')
      ∧ g'.tenants = g.tenants ++ [{ credentials := who, pools := pools, lastUsed := g.clock }]
      ∧ ∀ kind, Pool.Ready ((Eviction.newCrew pools).lanes kind) := by
  obtain ⟨r, g', hresolve⟩ : ∃ r g', g.resolve who = (r, g') := ⟨_, _, rfl⟩
  have hr : r = .ok g.tenants.length := by
    rcases Gateway.resolve_inv hresolve with ⟨hdead, -⟩ | ⟨-, t, hfound, -⟩
      | ⟨-, -, ⟨hnot, -⟩ | ⟨-, hr, -⟩⟩
    · rw [halive] at hdead
      cases hdead
    · rw [hfind] at hfound
      cases hfound
    · exact absurd hstartable hnot
    · exact hr
  subst hr
  obtain ⟨-, -, -, numbers, pools, hpools, htenants⟩ :=
    Eviction.resolve_made hresolve (Nat.le_refl _)
  exact ⟨g', pools, hresolve, htenants, fun kind => Pool.ready_of_start? (hpools kind)⟩

/-- A request of an account without a tenant has its item run, whatever other tenants
do. -/
theorem Run.succeed (hcreate : Gateway.create config clock overflow = .ok start)
    (h : Run start log s)
    (halive : s.gateway.poisoned = false) (hfind : s.gateway.find? who.key = none)
    (hstartable : Gateway.Startable s.gateway.config who.host) (hnew : call ∉ s.calls)
    (kind : PoolKind) (payload : String) (job : Work) :
    ∃ more s' d', Run start (log ++ more) s' ∧ s'.crews = s.crews ++ [d']
      ∧ s'.callers = s.callers ∧ s'.gateway.account? s.crews.length = some who
      ∧ (∀ t < s.crews.length, s'.gateway.account? t = s.gateway.account? t)
      ∧ Executes d' (call, payload) := by
  have hlength := Eviction.length_crews (h.sound hcreate).staffed
  obtain ⟨g, pools, hresolve, htenants, hready⟩ := exists_made halive hfind hstartable
  have hmake := h.step (.usual (.make hnew hresolve (Nat.le_refl _)
    (by rw [htenants]; exact List.getElem?_concat_length)))
  have hsubmit := hmake.step (.usual (.submit (show _ = s.callers ++ _ :: [] from rfl)))
  obtain ⟨more, s', d', hrun, hcrews, hcallers, -, hroll, hexecutes⟩ :=
    hsubmit.execute hcreate kind ⟨call, payload, job⟩ (show _ = s.callers ++ _ :: [] from rfl)
      (by rw [← hlength]; exact List.getElem?_concat_length) rfl (hready kind)
  have htouch : Gateway.SameRoll g (g.touch s.gateway.tenants.length) :=
    Gateway.sameRoll_update fun _ => rfl
  have hroll := htouch.trans hroll
  simp only [List.append_assoc] at hrun
  refine ⟨_, s', d', hrun, ?_, ?_, ?_, ?_, hexecutes⟩
  · rw [hcrews, ← hlength]
    simp
  · rw [hcallers, List.append_nil]
  · rw [Gateway.account?_congr hroll, hlength]
    exact Gateway.account?_of_tenant (by rw [htenants]; exact List.getElem?_concat_length)
  · intro t ht
    rw [Gateway.account?_congr hroll]
    exact Gateway.account?_concat htenants (hlength ▸ ht)

end

section

variable {start : Gateway} {config : Config} {clock : Timestamp} {overflow : Overflow}
  {log : List Act} {s : Floor} {t call n : Nat} {d : Dispatcher Work Response}
  {payload : String} {now : Timestamp}

/-- A tenant that is taken out while it runs an item gets a successor that runs
another one of the same payload. -/
theorem Run.doubled_by_shutdown (hcreate : Gateway.create config clock overflow = .ok start)
    (h : Run start log s) (halive : s.gateway.poisoned = false)
    (ht : t ∈ s.gateway.registered) (hd : s.crews[t]? = some d)
    (hexecutes : Executes d (n, payload)) (hnew : call ∉ s.calls) (kind : PoolKind)
    (job : Work) :
    ∃ more s' t', Run start (log ++ .drained s.gateway.registered :: more) s'
      ∧ Doubled s' t t' payload := by
  have hsound := h.sound hcreate
  have hlt : t < s.crews.length := (List.getElem?_eq_some_iff.1 hd).1
  obtain ⟨who, hwho⟩ : ∃ who, s.gateway.account? t = some who :=
    ⟨_, Gateway.account?_of_tenant (List.getElem?_eq_getElem (hsound.listed.known t ht))⟩
  obtain ⟨more, s', d', hrun, hcrews, -, haccount, hothers, hexecutes'⟩ :=
    (h.step (.drain halive)).succeed hcreate halive rfl (hsound.listed.startable t ht who hwho)
      hnew kind payload job
  rw [List.append_assoc] at hrun
  refine ⟨more, s', s.crews.length, hrun, hlt,
    ⟨who, who, (hothers t hlt).trans hwho, haccount, who.agree_self⟩,
    ⟨d, n, ?_, hexecutes⟩, ⟨d', call, ?_, hexecutes'⟩⟩
  · rw [hcrews, List.getElem?_append_left hlt]
    exact hd
  · rw [hcrews]
    exact List.getElem?_concat_length

/-- A tenant that a sweep takes out is found no more. -/
theorem find?_of_idle {g : Gateway} {who : Credentials} (hlisted : g.Listed)
    (hidle : t ∈ g.idleAt now) (hwho : g.account? t = some who) :
    ({ g with registered := g.registered.filter fun t => !g.isIdle now t } : Gateway).find?
      who.key = none := by
  rw [Gateway.find?_eq, List.find?_eq_none]
  intro t' ht' hkey
  obtain ⟨hregistered', hbusy⟩ := List.mem_filter.1 ht'
  obtain ⟨hregistered, hidle⟩ := List.mem_filter.1 hidle
  have hsame : g.key? t' = g.key? t :=
    (beq_iff_eq.1 hkey).trans (congrArg (Option.map Credentials.key) hwho).symm
  obtain rfl := List.inj_on_of_nodup_map hlisted.distinct hregistered' hregistered hsame
  rw [hidle] at hbusy
  cases hbusy

/-- Nothing is in flight at a tenant that a sweep would take out. -/
theorem Sound.absent_of_idle (h : Sound log s) (hidle : t ∈ s.gateway.idleAt now)
    (hd : s.crews[t]? = some d) (payload : String) : d.inFlight.holds payload = false := by
  rcases h.staffed t with ⟨x, e, hx, he, hstaffed⟩ | ⟨-, hnone, -⟩
  · obtain rfl := Option.some.inj (he.symm.trans hd)
    have hnothing := (Eviction.of_mem_idleAt hidle hx).1
    rw [hstaffed.inFlight] at hnothing
    exact (InFlight.size_eq_zero_iff _).1 hnothing payload
  · rw [hnone] at hd
    cases hd

/-- A call that is on the way comes to ask for its admission. -/
theorem Run.submitted (h : Run start log s) {c : Caller} (hc : c ∈ s.callers) :
    ∃ more s' front back, Run start (log ++ more) s' ∧ s'.crews = s.crews
      ∧ Gateway.SameRoll s.gateway s'.gateway
      ∧ s'.callers = front ++ ⟨c.call, c.tenant, true⟩ :: back := by
  obtain ⟨front, back, hcallers⟩ := List.append_of_mem hc
  obtain ⟨call, t, submits⟩ := c
  cases submits with
  | true =>
      refine ⟨[], s, front, back, ?_, rfl, .refl _, hcallers⟩
      rw [List.append_nil]
      exact h
  | false =>
      exact ⟨_, _, front, back, h.step (.usual (.submit hcallers)), rfl,
        Gateway.sameRoll_update fun _ => rfl, rfl⟩

/-- A call whose tenant is idle can be overtaken by a sweep and then be admitted, when
the tenant has a successor that runs an item of the same payload. -/
theorem Run.doubled_by_sweep (hcreate : Gateway.create config clock overflow = .ok start)
    (h : Run start log s) (halive : s.gateway.poisoned = false) {c : Caller}
    (hc : c ∈ s.callers) (hidle : c.tenant ∈ s.gateway.idleAt now)
    (hd : s.crews[c.tenant]? = some d) {kind : PoolKind} (hready : Pool.Ready (d.lanes kind))
    (hnew : call ∉ s.calls) (payload : String) (job : Work) :
    ∃ more s' t',
      Run start (log ++ .usual (.swept now (s.gateway.idleAt now)) :: more) s'
        ∧ Doubled s' c.tenant t' payload := by
  have hsound := h.sound hcreate
  have hlt : c.tenant < s.crews.length := (List.getElem?_eq_some_iff.1 hd).1
  have hregistered := (List.mem_filter.1 hidle).1
  obtain ⟨who, hwho⟩ : ∃ who, s.gateway.account? c.tenant = some who :=
    ⟨_, Gateway.account?_of_tenant (List.getElem?_eq_getElem (hsound.listed.known _ hregistered))⟩
  -- the tenant is taken out and gets a successor, which runs an item
  obtain ⟨more₁, s₁, d', hrun₁, hcrews₁, hcallers₁, haccount, hothers, hexecutes'⟩ :=
    (h.step (.usual (.sweep now halive))).succeed hcreate halive
      (find?_of_idle hsound.listed hidle hwho)
      (hsound.listed.startable _ hregistered who hwho) hnew kind payload job
  -- then the call is admitted
  obtain ⟨more₂, s₂, front, back, hrun₂, hcrews₂, hroll₂, hcallers₂⟩ :=
    hrun₁.submitted (hcallers₁ ▸ hc)
  have hd₂ : s₂.crews[c.tenant]? = some d := by
    rw [hcrews₂, hcrews₁, List.getElem?_append_left hlt]
    exact hd
  obtain ⟨more₃, s₃, d'', hrun₃, hcrews₃, -, -, hroll₃, hexecutes⟩ :=
    hrun₂.execute hcreate kind ⟨c.call, payload, job⟩ hcallers₂ hd₂
      (hsound.absent_of_idle hidle hd payload) hready
  rw [hcrews₂, hcrews₁] at hcrews₃
  have haccounts := Gateway.account?_congr (hroll₂.trans hroll₃)
  simp only [List.append_assoc] at hrun₃
  refine ⟨_, s₃, s.crews.length, hrun₃, hlt, ⟨who, who, ?_, ?_, who.agree_self⟩,
    ⟨d'', c.call, ?_, hexecutes⟩, ⟨d', call, ?_, hexecutes'⟩⟩
  · exact (haccounts _).trans ((hothers _ hlt).trans hwho)
  · exact (haccounts _).trans haccount
  · rw [hcrews₃]
    exact List.getElem?_set_self (by simp; omega)
  · rw [hcrews₃, List.getElem?_set_ne hlt.ne]
    exact List.getElem?_concat_length

/-- Who runs identical items are a tenant and its successor. -/
theorem Doubled.succeeds (hcreate : Gateway.create config clock overflow = .ok start)
    (h : Run start log s) {t' : Nat} (hdoubled : Doubled s t t' payload) :
    Succeeds t t' log := by
  obtain ⟨a, b, ha, hb, hagree⟩ := hdoubled.account
  obtain ⟨d, n, hd, hexecutes⟩ := hdoubled.first
  obtain ⟨d', n', hd', hexecutes'⟩ := hdoubled.second
  have hc : WorksAt s t (n, payload) := ⟨d, hd, hexecutes.mem_work⟩
  have hc' : WorksAt s t' (n', payload) := ⟨d', hd', hexecutes'.mem_work⟩
  rcases h.same_or_succeeds hcreate ha hb hagree hc hc' rfl hdoubled.later.le with
    ⟨hsame, -⟩ | ⟨hsucceeds, -⟩
  · exact absurd hsame hdoubled.later.ne
  · exact hsucceeds

/-- Items of one payload that tenants of one account have in their queues or in the
hands of workers are one item, or the earlier tenant was taken out before the later one
was made: by a shutdown, or by a sweep that overtook the call of the item. And both
happen: a shutdown can lead to it whenever a registered tenant runs an item, a sweep
whenever it would find the tenant of a call idle, if that tenant has a pool that is
ready. -/
theorem doubled_only_at_successors (hcreate : Gateway.create config clock overflow = .ok start)
    (h : Run start log s) :
    (∀ t t' a b c c', s.gateway.account? t = some a → s.gateway.account? t' = some b →
        a.agree b = true → WorksAt s t c → WorksAt s t' c' → c.2 = c'.2 → t ≤ t' →
        (t = t' ∧ c = c')
          ∨ (Succeeds t t' log
            ∧ ((∃ ts, .drained ts ∈ log ∧ t ∈ ts) ∨ Overtaken log c.1 t)))
      ∧ (s.gateway.poisoned = false → ∀ call, call ∉ s.calls →
        (∀ t ∈ s.gateway.registered, ∀ d n payload, s.crews[t]? = some d →
          Executes d (n, payload) →
          ∃ more s' t', Run start (log ++ .drained s.gateway.registered :: more) s'
            ∧ Doubled s' t t' payload)
        ∧ ∀ c ∈ s.callers, ∀ now d kind, c.tenant ∈ s.gateway.idleAt now →
          s.crews[c.tenant]? = some d → Pool.Ready (d.lanes kind) → ∀ payload,
          ∃ more s' t',
            Run start (log ++ .usual (.swept now (s.gateway.idleAt now)) :: more) s'
              ∧ Doubled s' c.tenant t' payload) := by
  refine ⟨?_, fun halive call hnew => ⟨?_, ?_⟩⟩
  · intro t t' a b c c' ha hb hagree hc hc' hpayload hle
    exact h.same_or_succeeds hcreate ha hb hagree hc hc' hpayload hle
  · intro t ht d n payload hd hexecutes
    exact h.doubled_by_shutdown hcreate halive ht hd hexecutes hnew .global ⟨.done none, none⟩
  · intro c hc now d kind hidle hd hready payload
    exact h.doubled_by_sweep hcreate halive hc hidle hd hready hnew payload ⟨.done none, none⟩

/-- A tenant runs an item when everybody is taken out, and a tenant is swept out
before its call is admitted. -/
theorem doubled_at_once :
    (∃ log s t', Run Eviction.eager log s ∧ .drained [0] ∈ log ∧ Doubled s 0 t' "payload")
      ∧ ∃ log s t', Run Eviction.eager log s ∧ .usual (.swept Eviction.next [0]) ∈ log
        ∧ Doubled s 0 t' "payload" := by
  have hcreate : Gateway.create { tenantIdleTimeout := 0 } ⟨0, 0⟩ .panics
      = .ok Eviction.eager := rfl
  have hresolve : Eviction.eager.resolve ⟨"host", "login", "pw"⟩ = (.ok 0, _) := rfl
  have hmake : Eviction.Step { gateway := Eviction.eager } (.resolved 7 0 ⟨0, 0⟩) _ :=
    .make nofun hresolve (Nat.le_refl 0) rfl
  have hmade := Run.start.step (.usual hmake)
  constructor
  · have hsubmit := hmade.step (.usual (.submit (show _ = [] ++ _ :: [] from rfl)))
    obtain ⟨more, s, d, hrun, hcrews, -, hcalls, hroll, hexecutes⟩ :=
      hsubmit.execute hcreate .global ⟨7, "payload", ⟨.done none, none⟩⟩
        (show _ = [] ++ _ :: [] from rfl) rfl rfl
        ⟨rfl, rfl, by decide, by decide⟩
    have hregistered : s.gateway.registered = [0] := hroll.registered
    obtain ⟨more', s', t', hrun', hdoubled⟩ :=
      ((doubled_only_at_successors hcreate hrun).2 hroll.poisoned 8 (by simp [hcalls])).1 0
        (by simp [hregistered]) d 7 "payload" (congrArg (·[0]?) hcrews) hexecutes
    exact ⟨_, s', t', hrun', by simp [hregistered], hdoubled⟩
  · have hlater := hmade.step (.usual (.tick Eviction.next))
    obtain ⟨more, s, t', hrun, hdoubled⟩ :=
      ((doubled_only_at_successors hcreate hlater).2 rfl 8 (by simp)).2 ⟨7, 0, false⟩
        (List.mem_singleton.2 rfl) Eviction.next _ .global (by decide) rfl
        ⟨rfl, rfl, by decide, by decide⟩ "payload"
    exact ⟨_, s, t', hrun, List.mem_append_right _ (List.mem_cons_self ..), hdoubled⟩

end

end Successors

end CheckGateway
