/-
Tenants as dispatchers: what a gateway does to the filter and the pools of a
tenant is a run of `Dispatch.Step`.

A gateway answers a submission before anything else moves. Between two of
its operations no guard is left and nobody waits for room, and this is how
`Shows` finds the dispatcher. A submission that is refused leaves nothing
behind; the others have the tickets that the gateway gives out.
-/
import CheckGateway.Gateway.State
import CheckGateway.Proofs.Dispatch.Steps

namespace CheckGateway

/-- What of a tenant a dispatcher has to do with. -/
def Tenant.traffic (x : Tenant) : InFlight × TenantPools := (x.inFlight, x.pools)

/-- The dispatcher stands as the tenant does between two operations of a
gateway that has given out a number of tickets. -/
structure Dispatch.Shows (d : Dispatch.Dispatcher Work Response) (tickets : Nat)
    (x : Tenant) : Prop where
  inFlight : d.inFlight = x.inFlight
  guards : d.guards = []
  used : ∀ n ∈ d.tickets, n ≤ tickets
  lanes : ∀ kind, ∃ asked handles, (∀ n ∈ asked, n ≤ tickets)
    ∧ d.lanes kind = ⟨x.pools.get kind, [], [], asked, 0, handles⟩

/-- The tenant has come about by a run of a dispatcher. -/
def Tenant.Runs (x : Tenant) (tickets : Nat) : Prop :=
  ∃ (specs : PoolKind → PoolSpec) (numbers : PoolKind → Nat)
    (pools : PoolKind → Pool Work Response) (log : List (Dispatch.Deed Work Response))
    (d : Dispatch.Dispatcher Work Response),
    (∀ kind, Pool.start? (specs kind) (numbers kind) = some (pools kind))
      ∧ Dispatch.Run pools log d ∧ Dispatch.Shows d tickets x

section

variable {x y : Tenant} {n m : Nat} {kind : PoolKind} {p : Pool Work Response}

theorem TenantPools.get_set (ps : TenantPools) (kind other : PoolKind)
    (p : Pool Work Response) :
    (ps.set kind p).get other = if other = kind then p else ps.get other := by
  cases kind <;> cases other <;> rfl

/-- Only the filter and the pools matter. -/
theorem Tenant.Runs.congr (h : x.Runs n) (htraffic : y.traffic = x.traffic) :
    y.Runs n := by
  obtain ⟨hfilter, hpools⟩ := Prod.mk.inj htraffic
  obtain ⟨specs, numbers, pools, log, d, hstart, hrun, hshows⟩ := h
  refine ⟨specs, numbers, pools, log, d, hstart, hrun, ?_, hshows.guards,
    hshows.used, fun kind => ?_⟩
  · rw [hfilter]
    exact hshows.inFlight
  · rw [hpools]
    exact hshows.lanes kind

theorem Tenant.Runs.mono (h : x.Runs n) (hle : n ≤ m) : x.Runs m := by
  obtain ⟨specs, numbers, pools, log, d, hstart, hrun, hshows⟩ := h
  refine ⟨specs, numbers, pools, log, d, hstart, hrun, hshows.inFlight,
    hshows.guards, fun k hk => Nat.le_trans (hshows.used k hk) hle, fun kind => ?_⟩
  obtain ⟨asked, handles, hasked, hlane⟩ := hshows.lanes kind
  exact ⟨asked, handles, fun k hk => Nat.le_trans (hasked k hk) hle, hlane⟩

/-- A tenant whose pools have just been started. -/
theorem Tenant.runs_of_start {specs : PoolKind → PoolSpec} {numbers : PoolKind → Nat}
    (hstart : ∀ kind, Pool.start? (specs kind) (numbers kind) = some (x.pools.get kind))
    (hfilter : x.inFlight = {}) : x.Runs n := by
  refine ⟨specs, numbers, _, [], _, hstart, .start, hfilter.symm, rfl, ?_, fun kind => ?_⟩
  · intro k hk
    cases hk
  · exact ⟨[], .kept, fun k hk => (by cases hk), rfl⟩

/-- With one lane changed, the dispatcher shows the tenant with that pool
changed. -/
theorem Dispatch.Shows.setLane {d : Dispatch.Dispatcher Work Response}
    (h : Dispatch.Shows d n x) {asked : List Nat} {handles : Pool.Handles}
    (hasked : ∀ k ∈ asked, k ≤ n) :
    Dispatch.Shows (d.setLane kind ⟨p, [], [], asked, 0, handles⟩) n
      { x with pools := x.pools.set kind p } := by
  refine ⟨h.inFlight, h.guards, h.used, fun other => ?_⟩
  rw [TenantPools.get_set]
  by_cases heq : other = kind
  · subst heq
    rw [Dispatch.lanes_setLane_self, if_pos rfl]
    exact ⟨asked, handles, hasked, rfl⟩
  · rw [Dispatch.lanes_setLane_other _ _ heq, if_neg heq]
    exact h.lanes other

/-- A step of a pool that needs no guard and releases nothing. -/
theorem Tenant.Runs.move (h : x.Runs n) (kind : PoolKind)
    (a : Pool.Act Work Response) (hfree : Dispatch.isFree a = true)
    (hstep : ∀ asked handles, Pool.Step ⟨x.pools.get kind, [], [], asked, 0, handles⟩ a
      ⟨p, [], [], asked, 0, handles⟩) :
    Tenant.Runs { x with pools := x.pools.set kind p } n := by
  obtain ⟨specs, numbers, pools, log, d, hstart, hrun, hshows⟩ := h
  obtain ⟨asked, handles, hasked, hlane⟩ := hshows.lanes kind
  have hpool := hstep asked handles
  rw [← hlane] at hpool
  exact ⟨specs, numbers, pools, _, _, hstart, hrun.step (.move kind hfree hpool),
    hshows.setLane hasked⟩

/-- What is due in a pool, and what follows from it for the filter. -/
theorem Tenant.Runs.next (h : x.Runs n) {e : Pool.Event Response}
    (hnext : (x.pools.get kind).next? = some (e, p)) :
    Tenant.Runs
      { x with
        pools := x.pools.set kind p
        inFlight := match e with
          | .released _ fingerprint => x.inFlight.finish fingerprint
          | _ => x.inFlight } n := by
  have hstep : ∀ asked handles,
      Pool.Step ⟨x.pools.get kind, [], [], asked, 0, handles⟩ (.did e)
        ⟨p, [], [], asked, 0, handles⟩ := by
    intro asked handles
    exact Pool.step_of_next? (s := ⟨x.pools.get kind, [], [], asked, 0, handles⟩)
      rfl hnext
  cases e with
  | took ticket => exact h.move kind (.did (.took ticket)) rfl hstep
  | delivered ticket outcome => exact h.move kind (.did (.delivered ticket outcome)) rfl hstep
  | released ticket fingerprint =>
      obtain ⟨specs, numbers, pools, log, d, hstart, hrun, hshows⟩ := h
      obtain ⟨asked, handles, hasked, hlane⟩ := hshows.lanes kind
      have hpool := hstep asked handles
      rw [← hlane] at hpool
      have hset : Dispatch.Shows (d.setLane kind ⟨p, [], [], asked, 0, handles⟩) n
          { x with pools := x.pools.set kind p } := hshows.setLane hasked
      refine ⟨specs, numbers, pools, _, _, hstart, hrun.step (.release kind hpool), ?_,
        hset.guards, hset.used, hset.lanes⟩
      exact congrArg (InFlight.finish · fingerprint) hshows.inFlight

/-- The job of an item goes on, or is over. -/
theorem Tenant.Runs.work (h : x.Runs n) {ticket : Nat} {w : Work}
    (hmem : (ticket, w) ∈ (x.pools.get kind).running) :
    (∀ rest, Tenant.Runs
        { x with pools := x.pools.set kind ((x.pools.get kind).resume ticket rest) } n)
      ∧ ∀ outcome, Tenant.Runs
        { x with pools := x.pools.set kind ((x.pools.get kind).finish ticket outcome) }
        n := by
  obtain ⟨t, ht, hrunning⟩ := List.mem_filterMap.1 hmem
  cases hstage : t.stage with
  | running job =>
      rw [hstage] at hrunning
      cases hrunning
      refine ⟨fun rest => ?_, fun outcome => ?_⟩
      · exact h.move kind (.worked t.ticket) rfl fun _ _ => .work rest ht hstage
      · exact h.move kind (.ended t.ticket outcome) rfl fun _ _ => .finish outcome ht hstage
  | finished outcome =>
      rw [hstage] at hrunning
      cases hrunning
  | released outcome =>
      rw [hstage] at hrunning
      cases hrunning

/-- A request that is admitted, queued and handed off. -/
theorem Tenant.Runs.submit (h : x.Runs n) {fp : String} {now : Timestamp}
    {f : InFlight} {w : Work} (haccept : x.inFlight.accept fp now = .ok f)
    (hsubmit : (x.pools.get kind).submit ⟨n + 1, fp, w⟩ = .ok p) :
    Tenant.Runs { x with inFlight := f, pools := x.pools.set kind p } (n + 1) := by
  obtain ⟨specs, numbers, pools, log, d, hstart, hrun, hshows⟩ := h
  obtain ⟨asked, handles, hasked, hlane⟩ := hshows.lanes kind
  have hnew : ∀ {l : List Nat}, (∀ k ∈ l, k ≤ n) → n + 1 ∉ l :=
    fun hl hmem => Nat.not_succ_le_self n (hl _ hmem)
  have hcons : ∀ {l : List Nat}, (∀ k ∈ l, k ≤ n) → ∀ k ∈ (n + 1) :: l, k ≤ n + 1 := by
    intro l hl k hk
    rcases List.mem_cons.1 hk with rfl | hk
    · exact Nat.le_refl _
    · exact Nat.le_succ_of_le (hl k hk)
  obtain ⟨s₁, s₂, hask, henter, haccepted⟩ :=
    Pool.steps_of_submit_ok (s := ⟨x.pools.get kind, [], [], asked, 0, handles⟩)
      rfl rfl (hnew hasked) hsubmit
  rw [← hlane] at hask
  rw [← hshows.inFlight] at haccept
  obtain ⟨more, d', hrun', hfilter, hguards, htickets, hlanes⟩ :=
    hrun.submit hshows.guards (hnew hshows.used) haccept hask henter haccepted
  refine ⟨specs, numbers, pools, _, d', hstart, hrun', hfilter, hguards, ?_, fun other => ?_⟩
  · rw [htickets]
    exact hcons hshows.used
  · rw [hlanes, TenantPools.get_set]
    by_cases heq : other = kind
    · subst heq
      rw [Dispatch.lanes_setLane_self, if_pos rfl]
      exact ⟨_, handles, hcons hasked, rfl⟩
    · obtain ⟨asked', handles', hasked', hlane'⟩ := hshows.lanes other
      rw [Dispatch.lanes_setLane_other _ _ heq, if_neg heq]
      exact ⟨asked', handles', fun k hk => Nat.le_succ_of_le (hasked' k hk), hlane'⟩

theorem Tenant.Runs.shutDown (h : x.Runs n) :
    Tenant.Runs { x with pools := x.pools.map Pool.shutDown } n := by
  have hone : ∀ {y : Tenant}, y.Runs n → ∀ kind,
      Tenant.Runs { y with pools := y.pools.set kind (y.pools.get kind).shutDown } n :=
    fun h kind => h.move kind .shutDown rfl fun _ _ => .shutDown
  exact hone (hone (hone h .global) .jobs) .disks

end

end CheckGateway
