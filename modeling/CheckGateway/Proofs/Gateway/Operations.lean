/-
Every tenant of every gateway is a dispatcher at some point of one of its
runs, so whatever holds at every such point holds of the tenants.

# What leaves tenants alone

Jobs, caches, handlers and sessions are none of a dispatcher's business.
`Keeps` says so for everything that a job can ask for, and what is left to
look at are submissions, the steps of pools, and shutting down.

# Every operation

`Sound` is the invariant, with one lemma for each operation; `Reached` is
every order of them.
-/
import CheckGateway.Gateway.Registry
import CheckGateway.Proofs.Gateway.Tenants

namespace CheckGateway.Gateway

-- ============================================== what leaves tenants alone

/-- Nothing has happened to the filter and the pools of any tenant, and no
ticket has been given out. -/
structure Keeps (g g' : Gateway) : Prop where
  tickets : g'.tickets = g.tickets
  traffic : ∀ t : Nat,
    g'.tenants[t]?.map Tenant.traffic = g.tenants[t]?.map Tenant.traffic

section

variable {g g' g'' : Gateway} {t : Nat} {f : Tenant → Tenant}

/-- Where nothing happens, filters and pools are kept. -/
theorem Keeps.refl (g : Gateway) : Keeps g g := ⟨rfl, fun _ => rfl⟩

/-- One step after another that keeps them. -/
theorem Keeps.trans (h : Keeps g g') (h' : Keeps g' g'') : Keeps g g'' :=
  ⟨h'.tickets.trans h.tickets, fun t => (h'.traffic t).trans (h.traffic t)⟩

/-- Changing one tenant leaves the others. -/
theorem getElem?_update (g : Gateway) (t other : Nat) (f : Tenant → Tenant) :
    (g.update t f).tenants[other]?
      = g.tenants[other]?.map fun x => if t = other then f x else x := by
  show (g.tenants.modify t f)[other]? = _
  rw [List.getElem?_modify]
  rfl

/-- A change of a tenant that leaves its filter and its pools. -/
theorem keeps_update (h : ∀ x, (f x).traffic = x.traffic) :
    Keeps g (g.update t f) := by
  refine ⟨rfl, fun other => ?_⟩
  rw [getElem?_update, Option.map_map]
  refine congrArg (Option.map · _) (funext fun x => ?_)
  show Tenant.traffic (if _ then _ else _) = _
  split
  · exact h x
  · rfl

/-- Giving up sessions leaves them. -/
theorem keeps_disown (g : Gateway) (t : Nat) : Keeps g (g.update t Tenant.disown) :=
  keeps_update fun _ => rfl

/-- So does disconnecting these. -/
theorem keeps_reclaim (g : Gateway) (t : Nat) : Keeps g (g.reclaim t) := by
  unfold reclaim
  split
  · exact .refl g
  · exact (keeps_disown g t).trans ⟨rfl, fun _ => rfl⟩

/-- So does poisoning a lock. -/
theorem traffic_poison (x : Tenant) (lock : Lock) :
    (x.poison lock).traffic = x.traffic := by
  cases lock <;> rfl

/-- The gateway when a call has been made. -/
def Performed.state {c : Job.Call} : Performed c → Gateway
  | .answered _ g => g
  | .waits _ g => g

/-- No call of a job touches the filter or the pools. -/
theorem keeps_perform (g : Gateway) (t : Nat) (x : Tenant) (gate : Option Nat)
    (c : Job.Call) : Keeps g (g.perform t x gate c).state := by
  cases c with
  | now | closeSession | watermark | note | handler | jobCache | diskCache | session
    | openSession =>
      exact ⟨rfl, fun _ => rfl⟩
  | query session q =>
      unfold perform
      dsimp only
      split
      · split
        · exact .refl g
        · exact .refl g
      · split
        · exact ⟨rfl, fun _ => rfl⟩
        · exact ⟨rfl, fun _ => rfl⟩
  | acquire lock =>
      unfold perform
      dsimp only
      split
      · exact .refl g
      · split
        · exact .refl g
        · exact keeps_update fun _ => rfl
  | release lock poison =>
      refine keeps_update fun x => ?_
      dsimp only
      split
      · exact traffic_poison ..
      · rfl
  | install kind =>
      cases kind with
      | jobs | disks | system | subsystems | commands =>
          exact keeps_update fun _ => rfl
  | installSystem | saveJobCache | saveDiskCache | replaceSession | hold =>
      exact keeps_update fun _ => rfl
  | letGo =>
      refine Keeps.trans ?_ (keeps_reclaim _ t)
      exact keeps_update fun _ => rfl

/-- However far a job goes, the filter and the pools stay as they are. -/
theorem keeps_advance {α : Type} (t : Nat) (gate : Option Nat) (r : JobRoutine α)
    (g : Gateway) : Keeps g (advance t gate r g).2 := by
  induction r generalizing gate g with
  | done a => exact .refl g
  | call c next ih =>
      unfold advance
      split
      · exact .refl g
      next x hx =>
        have hcall := keeps_perform g t x gate c
        generalize g.perform t x gate c = performed at hcall
        cases performed with
        | answered a g' => exact hcall.trans (ih a none g')
        | waits gate' g' => exact hcall

end

-- ========================================================= every operation

/-- Every tenant has come about by a run of a dispatcher. -/
def Sound (g : Gateway) : Prop :=
  ∀ (t : Nat) (x : Tenant), g.tenants[t]? = some x → x.Runs g.tickets

section

variable {g g' : Gateway} {t : Nat} {f : Tenant → Tenant} {kind : PoolKind}

/-- What holds of filters and pools holds where they are kept. -/
theorem Sound.keeps (h : g.Sound) (hkeeps : Keeps g g') : g'.Sound := by
  intro t x hx
  have htraffic := hkeeps.traffic t
  rw [hx] at htraffic
  cases hold : g.tenants[t]? with
  | none =>
      rw [hold] at htraffic
      cases htraffic
  | some y =>
      rw [hold] at htraffic
      rw [hkeeps.tickets]
      exact (h t y hold).congr (Option.some.inj htraffic)

/-- Where one tenant changes, that one has to be looked at. -/
theorem Sound.update (h : g.Sound)
    (hf : ∀ x, g.tenants[t]? = some x → (f x).Runs g.tickets) :
    (g.update t f).Sound := by
  intro other x hx
  rw [getElem?_update] at hx
  obtain ⟨y, hy, rfl⟩ := Option.map_eq_some_iff.1 hx
  show Tenant.Runs (if _ then _ else _) g.tickets
  split
  next heq =>
    subst heq
    exact hf y hy
  · exact h other y hy

/-- Two changes of a tenant are one. -/
theorem update_update (g : Gateway) (t : Nat) (f f' : Tenant → Tenant) :
    (g.update t f).update t f' = g.update t (f' ∘ f) := by
  unfold update
  dsimp only
  rw [List.modify_modify_eq]

/-- A step that is due in a pool. -/
theorem Sound.poolStep (h : g.Sound) {x : Tenant} (hx : g.tenants[t]? = some x)
    (hstep : g.poolStep? t kind (x.pools.get kind) = some g') : g'.Sound := by
  obtain ⟨⟨e, p⟩, hnext, rfl⟩ := Option.map_eq_some_iff.1 hstep
  have hone := (h t x hx).next hnext
  have hsame : ∀ y, g.tenants[t]? = some y → y = x :=
    fun y hy => (Option.some.inj (hx.symm.trans hy)).symm
  cases e with
  | took ticket => exact h.update fun y hy => hsame y hy ▸ hone
  | delivered ticket outcome =>
      have hset : (g.updatePool t kind fun _ => p).Sound :=
        h.update fun y hy => hsame y hy ▸ hone
      exact hset.keeps ⟨rfl, fun _ => rfl⟩
  | released ticket fingerprint =>
      show ((g.update t _).update t _).Sound
      rw [update_update]
      exact h.update fun y hy => hsame y hy ▸ hone

/-- A job of a pool goes on. -/
theorem Sound.jobStep (h : g.Sound) {x : Tenant} (hx : g.tenants[t]? = some x)
    (hstep : g.jobStep? t x kind (x.pools.get kind) = some g') : g'.Sound := by
  obtain ⟨⟨ticket, w⟩, hfind, rfl⟩ := Option.map_eq_some_iff.1 hstep
  have hmem := List.mem_of_find?_eq_some hfind
  have hkeeps := keeps_advance t w.gate w.routine g
  show (g.work t kind ticket w).Sound
  unfold Gateway.work
  generalize advance t w.gate w.routine g = advanced at hkeeps
  obtain ⟨⟨rest, gate⟩, g₁⟩ := advanced
  have h₁ := h.keeps hkeeps
  -- the job has left the pool as it was
  have hpools : ∀ y, g₁.tenants[t]? = some y → y.pools = x.pools := by
    intro y hy
    have htraffic := hkeeps.traffic t
    rw [hx, hy] at htraffic
    exact (Prod.mk.inj (Option.some.inj htraffic)).2
  cases rest with
  | done answer =>
      refine h₁.update fun y hy => ?_
      exact ((h₁ t y hy).work (hpools y hy ▸ hmem)).2 answer
  | call c next =>
      refine h₁.update fun y hy => ?_
      exact ((h₁ t y hy).work (hpools y hy ▸ hmem)).1 ⟨.call c next, gate⟩

/-- It holds after the step that is due. -/
theorem Sound.step (h : g.Sound) (hstep : g.step? = some g') : g'.Sound := by
  rcases Option.or_eq_some_iff.1 hstep with hstep | ⟨-, hstep⟩
  · obtain ⟨⟨x, t⟩, hmem, hstep⟩ := List.exists_of_findSome?_eq_some hstep
    obtain ⟨⟨kind, p⟩, hpool, hstep⟩ := List.exists_of_findSome?_eq_some hstep
    obtain ⟨kind, -, heq⟩ := List.mem_map.1 hpool
    cases heq
    exact h.poolStep (List.mk_mem_zipIdx_iff_getElem?.1 hmem) hstep
  · obtain ⟨⟨x, t⟩, hmem, hstep⟩ := List.exists_of_findSome?_eq_some hstep
    obtain ⟨⟨kind, p⟩, hpool, hstep⟩ := List.exists_of_findSome?_eq_some hstep
    obtain ⟨kind, -, heq⟩ := List.mem_map.1 hpool
    cases heq
    exact h.jobStep (List.mk_mem_zipIdx_iff_getElem?.1 hmem) hstep

/-- It holds when everything that was due has been done. -/
theorem Sound.settle (h : g.Sound) : g.settle.Sound := by
  unfold Gateway.settle
  generalize stepsPerItem * g.pending = steps
  induction steps generalizing g with
  | zero => exact h
  | succ steps ih =>
      unfold Gateway.run
      split
      next g' hstep => exact ih (h.step hstep)
      · exact h

-- =========================================================== submissions

/-- It holds after a tenant has been used. -/
theorem Sound.touch (h : g.Sound) (t : Nat) : (g.touch t).Sound :=
  h.keeps (keeps_update fun _ => rfl)

/-- Who is admitted, and to what. -/
theorem accept_eq {r : Request} (h : g.accept t r = .ok g') :
    ∃ x f, g.tenants[t]? = some x ∧ x.inFlight.accept r.payload g.clock = .ok f
      ∧ g' = g.update t fun x => { x with inFlight := f } := by
  unfold accept at h
  split at h
  · cases h
  next x hx =>
    cases haccept : x.inFlight.accept r.payload g.clock with
    | error e =>
        rw [haccept] at h
        cases h
    | ok f =>
        rw [haccept] at h
        cases h
        exact ⟨x, f, hx, haccept, rfl⟩

/-- What is queued, and where. -/
theorem enqueue_eq {r : Request} (h : g.enqueue t r = .ok g') :
    ∃ x w p, g.tenants[t]? = some x
      ∧ (x.pools.get r.pool).submit ⟨g.tickets + 1, r.payload, w⟩ = .ok p
      ∧ g' = { g.updatePool t r.pool fun _ => p with tickets := g.tickets + 1 } := by
  unfold enqueue at h
  split at h
  · cases h
  next x hx =>
    cases hsubmit : (x.pools.get r.pool).submit
        ⟨g.tickets + 1, r.payload, g.program x r⟩ with
    | error e =>
        dsimp only at h
        rw [hsubmit] at h
        cases h
    | ok p =>
        dsimp only at h
        rw [hsubmit] at h
        cases h
        exact ⟨x, _, p, hx, hsubmit, rfl⟩

/-- A request that is admitted and queued. -/
theorem Sound.enqueue (h : g.Sound) {r : Request} {g₁ : Gateway}
    (haccept : g.accept t r = .ok g₁) (henqueue : g₁.enqueue t r = .ok g') :
    g'.Sound := by
  obtain ⟨x, f, hx, hlet, rfl⟩ := accept_eq haccept
  obtain ⟨y, w, p, hy, hsubmit, rfl⟩ := enqueue_eq henqueue
  rw [getElem?_update, hx] at hy
  obtain rfl : y = { x with inFlight := f } := by
    rw [Option.map_some, if_pos rfl] at hy
    exact (Option.some.inj hy).symm
  have hone := (h t x hx).submit hlet hsubmit
  intro other z hz
  have hall : ((g.update t _).update t _).tenants[other]? = some z := hz
  rw [update_update, getElem?_update] at hall
  obtain ⟨y, hy, rfl⟩ := Option.map_eq_some_iff.1 hall
  show Tenant.Runs (if _ then _ else _) (g.tickets + 1)
  split
  next heq =>
    subst heq
    rw [hx] at hy
    cases hy
    exact hone
  · exact (h other y hy).mono (Nat.le_succ _)

/-- A request that is admitted and not queued leaves nothing behind. -/
theorem Sound.release (h : g.Sound) {r : Request}
    (haccept : g.accept t r = .ok g') : (g'.release t r).Sound := by
  obtain ⟨x, f, hx, hlet, rfl⟩ := accept_eq haccept
  show ((g.update t _).update t _).Sound
  rw [update_update]
  refine h.update fun y hy => ?_
  rw [hx] at hy
  cases hy
  refine (h t x hx).congr ?_
  exact congrArg (·, x.pools) (InFlight.finish_accept hlet)

/-- It holds after a request has been offered, accepted or not. -/
theorem Sound.offer (h : g.Sound) (t : Nat) (r : Request) : (g.offer t r).2.Sound := by
  have htouch := h.touch t
  unfold Gateway.offer
  dsimp only
  split
  · exact htouch
  next haccept =>
    split
    · exact htouch.release haccept
    next henqueue => exact htouch.enqueue haccept henqueue

/-- It holds after a request whose submitter gives up at once. -/
theorem Sound.abandon (h : g.Sound) (t : Nat) (r : Request) :
    (g.abandon t r).2.Sound := by
  have htouch := h.touch t
  unfold Gateway.abandon
  dsimp only
  split
  · exact htouch
  next haccept =>
    split
    next henqueue => exact (htouch.enqueue haccept henqueue).settle
    · exact htouch
    · exact htouch

-- ====================================================== coming and going

/-- The pools of a new tenant have just been started. -/
theorem startPools_eq {config : Config} {host : String} {started n : Nat}
    {pools : TenantPools} (h : startPools config host started = (some pools, n)) :
    ∃ numbers : PoolKind → Nat, ∀ kind,
      Pool.start? (poolSpec config host kind) (numbers kind) = some (pools.get kind) := by
  unfold startPools at h
  dsimp only at h
  split at h
  · cases h
  next hglobal =>
    split at h
    · cases h
    next hjobs =>
      split at h
      · cases h
      next hdisks =>
        cases h
        refine ⟨fun kind => started + 1 + PoolKind.all.idxOf kind, fun kind => ?_⟩
        cases kind with
        | global => exact hglobal
        | jobs => exact hjobs
        | disks => exact hdisks

/-- It holds with one more tenant. -/
theorem Sound.register (h : g.Sound) (who : Credentials) :
    (g.register who).2.Sound := by
  unfold Gateway.register
  split
  · exact h.keeps ⟨rfl, fun _ => rfl⟩
  next pools started hstart =>
    obtain ⟨numbers, hnumbers⟩ := startPools_eq hstart
    intro t x hx
    change (g.tenants ++ [_])[t]? = some x at hx
    rcases Nat.lt_or_ge t g.tenants.length with hlt | hge
    · rw [List.getElem?_append_left hlt] at hx
      exact h t x hx
    · rw [List.getElem?_append_right hge, List.getElem?_singleton] at hx
      split at hx
      · obtain rfl := Option.some.inj hx
        exact Tenant.runs_of_start hnumbers rfl
      · cases hx

/-- It holds after an account has been resolved. -/
theorem Sound.resolve (h : g.Sound) (who : Credentials) :
    (g.resolve who).2.Sound := by
  unfold Gateway.resolve
  split
  · exact h
  · split
    · exact h.touch _
    · exact h.register who

/-- Where a job is carried out outside of the pools. -/
theorem Sound.advance (h : g.Sound) {α : Type} {gate : Option Nat}
    {r rest : JobRoutine α} {gate' : Option Nat}
    (heq : Gateway.advance t gate r g = ((rest, gate'), g')) : g'.Sound := by
  have hkeeps := keeps_advance t gate r g
  rw [heq] at hkeeps
  exact h.keeps hkeeps

/-- It holds after a request that is carried out on the spot. -/
theorem Sound.execute (h : g.Sound) (t : Nat) (r : Request) :
    (g.execute t r).2.Sound := by
  unfold Gateway.execute
  split
  · exact h
  · split
    next heq => exact (h.advance heq).settle
    next heq => exact h.advance heq

/-- Looking at the cache of active jobs does not matter. -/
theorem Sound.jobStats (h : g.Sound) (t : Nat) : (g.jobStats t).2.Sound := by
  unfold Gateway.jobStats
  dsimp only
  split
  next heq => exact h.advance heq
  next heq => exact h.advance heq

/-- Nor does looking at that of disk units. -/
theorem Sound.diskStats (h : g.Sound) (t : Nat) : (g.diskStats t).2.Sound := by
  unfold Gateway.diskStats
  dsimp only
  split
  next heq => exact h.advance heq
  next heq => exact h.advance heq

/-- It holds after a tenant has been closed. -/
theorem Sound.close (h : g.Sound) (t : Nat) : (g.close t).Sound := by
  refine h.update fun x hx => ?_
  exact (h t x hx).shutDown.congr rfl

/-- It holds after its sessions have been disconnected. -/
theorem Sound.reclaim (h : g.Sound) (t : Nat) : (g.reclaim t).Sound :=
  h.keeps (keeps_reclaim g t)

/-- What is done to one tenant after the other. -/
theorem sound_foldl {step : Gateway → Nat → Gateway}
    (hstep : ∀ g t, Sound g → Sound (step g t)) (h : g.Sound) (ts : List Nat) :
    (ts.foldl step g).Sound := by
  induction ts generalizing g with
  | nil => exact h
  | cons t ts ih => exact ih (hstep g t h)

/-- It holds after tenants have been dropped. -/
theorem Sound.dropTenants (h : g.Sound) (ts : List Nat) : (g.dropTenants ts).Sound := by
  refine sound_foldl (fun g t h => ?_) h ts
  split
  · exact h
  · exact h.keeps (keeps_update fun _ => rfl)

/-- It holds after theirs have been disconnected. -/
theorem Sound.reclaimAll (h : g.Sound) (ts : List Nat) : (g.reclaimAll ts).Sound := by
  have hdisowned : (ts.foldl (fun g t => g.update t Tenant.disown) g).Sound :=
    sound_foldl (fun g t h => h.keeps (keeps_disown g t)) h ts
  exact hdisowned.keeps ⟨rfl, fun _ => rfl⟩

/-- It holds after a sweep. -/
theorem Sound.evictIdle (h : g.Sound) (now : Timestamp) :
    (g.evictIdle now).2.Sound := by
  unfold Gateway.evictIdle
  split
  · exact h
  · have hleft : { g with registered := g.registered.filter fun t => !g.isIdle now t }.Sound :=
      h.keeps ⟨rfl, fun _ => rfl⟩
    exact ((sound_foldl (fun _ t h => Sound.close h t) hleft _).dropTenants _).reclaimAll _

/-- It holds after all have been shut down. -/
theorem Sound.shutDown (h : g.Sound) : g.shutDown.2.Sound := by
  unfold Gateway.shutDown
  split
  · exact h
  · have hleft : { g with registered := [] }.Sound := h.keeps ⟨rfl, fun _ => rfl⟩
    have hclosed := sound_foldl (fun _ t h => Sound.close h t) hleft g.registered
    exact ((hclosed.reclaimAll _).settle.dropTenants _).reclaimAll _

end

/-- The gateways that come about when callers do whatever they like, one
operation after the other, and the gateway takes as many steps in between as
it likes. Anything else may change at any time: the clock, the remote
system, the watermarks. -/
inductive Reached (config : Config) : Gateway → Prop where
  | create {g : Gateway} (clock : Timestamp) (overflow : Overflow)
      (h : create config clock overflow = .ok g) :
      Reached config g
  | outside {g g' : Gateway} (h : Reached config g)
      (htickets : g'.tickets = g.tickets) (htenants : g'.tenants = g.tenants) :
      Reached config g'
  | step {g g' : Gateway} (h : Reached config g) (hstep : g.step? = some g') :
      Reached config g'
  | resolve {g : Gateway} (h : Reached config g) (who : Credentials) :
      Reached config (g.resolve who).2
  | touch {g : Gateway} (h : Reached config g) (t : Nat) : Reached config (g.touch t)
  | offer {g : Gateway} (h : Reached config g) (t : Nat) (r : Request) :
      Reached config (g.offer t r).2
  | abandon {g : Gateway} (h : Reached config g) (t : Nat) (r : Request) :
      Reached config (g.abandon t r).2
  | execute {g : Gateway} (h : Reached config g) (t : Nat) (r : Request) :
      Reached config (g.execute t r).2
  | jobStats {g : Gateway} (h : Reached config g) (t : Nat) :
      Reached config (g.jobStats t).2
  | diskStats {g : Gateway} (h : Reached config g) (t : Nat) :
      Reached config (g.diskStats t).2
  | shutDownTenant {g : Gateway} (h : Reached config g) (t : Nat) :
      Reached config (g.shutDownTenant t)
  | evictIdle {g : Gateway} (h : Reached config g) (now : Timestamp) :
      Reached config (g.evictIdle now).2
  | shutDown {g : Gateway} (h : Reached config g) : Reached config g.shutDown.2

/-- Whatever callers do to a gateway, each of its tenants stands as a
dispatcher does after some run. -/
theorem Reached.sound {config : Config} {g : Gateway} (h : Reached config g) :
    g.Sound := by
  induction h with
  | create clock overflow h =>
      intro t x hx
      cases hvalid : config.validate with
      | error e =>
          unfold Gateway.create at h
          rw [hvalid] at h
          cases h
      | ok _ =>
          unfold Gateway.create at h
          rw [hvalid] at h
          cases h
          cases hx
  | outside _ htickets htenants ih => exact ih.keeps ⟨htickets, fun _ => by rw [htenants]⟩
  | step _ hstep ih => exact ih.step hstep
  | resolve _ who ih => exact ih.resolve who
  | touch _ t ih => exact ih.touch t
  | offer _ t r ih => exact ih.offer t r
  | abandon _ t r ih => exact ih.abandon t r
  | execute _ t r ih => exact ih.execute t r
  | jobStats _ t ih => exact ih.jobStats t
  | diskStats _ t ih => exact ih.diskStats t
  | shutDownTenant _ t ih => exact (ih.close t).reclaim t
  | evictIdle _ now ih => exact ih.evictIdle now
  | shutDown _ ih => exact ih.shutDown

end CheckGateway.Gateway
