/-
An item on its way: it waits in the queue of its pool, a worker runs its job, and in
the end its answer is delivered. It goes by its ticket, and is at one station at a
time (`Tracks`).

What the job of an item asks is in the log of a run, among what other jobs ask
(`exchanges`). A step moves an item as `Moves` says, whatever it does besides
(`Tracks.step`). So what a run logs under a ticket is what the program of the item
asks, and the answer that is delivered is what the program then comes to
(`Course.runs`): a fact of every transcript of a program is one of every run.
-/
import CheckGateway.Proofs.Gateway.Rest
import CheckGateway.Proofs.Gateway.Transcripts

namespace CheckGateway.Gateway

open Job (Exchange)

/-- Where an item is: with what is to be done, with how far it is, or with its
answer. -/
inductive Station where
  | waiting (w : Work)
  | taken (stage : Stage Work Response)
  | answered (answer : Option Response)

/-- What a step does to an item, and what its job is answered by it. -/
inductive Moves : List Exchange → Station → Station → Prop where
  | rest (s : Station) : Moves [] s s
  | take (w : Work) : Moves [] (.waiting w) (.taken (.running w))
  | call {c : Job.Call} {next : Job.Answer c → JobRoutine (Option Response)} (gate : Option Nat)
      (a : Job.Answer c) :
      Moves [⟨c, a⟩] (.taken (.running ⟨.call c next, gate⟩)) (.taken (.running ⟨next a, none⟩))
  | wait (r : JobRoutine (Option Response)) (gate gate' : Option Nat) :
      Moves [] (.taken (.running ⟨r, gate⟩)) (.taken (.running ⟨r, gate'⟩))
  | finish (answer : Option Response) (gate : Option Nat) :
      Moves [] (.taken (.running ⟨.done answer, gate⟩)) (.taken (.finished answer))
  | release (answer : Option Response) :
      Moves [] (.taken (.finished answer)) (.taken (.released answer))
  | deliver (answer : Option Response) :
      Moves [] (.taken (.released answer)) (.answered answer)

/-- What the job at a post asks and is answered when something happens. -/
def Deed.exchange? (o : Post) : Deed → Option Exchange
  | .called o' c a => if o' = o then some ⟨c, a⟩ else none
  | _ => none

/-- What the job at a post has asked, with the answers, the first one first. -/
def exchanges (o : Post) (log : List Deed) : List Exchange := log.filterMap (Deed.exchange? o)

/-- A pool has the item with a ticket. -/
inductive Has (p : Pool Work Response) (ticket : Nat) : Station → Prop where
  | waiting {item : Item Work} (h : item ∈ p.queue) (hticket : item.ticket = ticket) :
      Has p ticket (.waiting item.job)
  | taken {y : Taken Work Response} (h : y ∈ p.taken) (hticket : y.ticket = ticket) :
      Has p ticket (.taken y.stage)

/-- The items of a pool are those of another. -/
structure SameItems (p q : Pool Work Response) : Prop where
  queue : q.queue = p.queue
  taken : q.taken = p.taken

/-- A pool of a tenant. -/
def pool? (g : Gateway) (t : Nat) (kind : PoolKind) : Option (Pool Work Response) :=
  g.tenants[t]?.map fun x => x.pools.get kind

/-- The item of a post is in its pool, or its one answer has been delivered. -/
inductive At (g : Gateway) (o : Post) : Station → Prop where
  | held {p : Pool Work Response} {s : Station} (hp : g.pool? o.tenant o.kind = some p)
      (hhas : Has p o.ticket s) (hnone : ∀ answer, (o.ticket, answer) ∉ g.answers) : At g o s
  | answered {answer : Option Response}
      (hgone : ∀ p, g.pool? o.tenant o.kind = some p → o.ticket ∉ p.tickets)
      (hanswer : ∀ other, (o.ticket, other) ∈ g.answers ↔ other = answer) :
      At g o (.answered answer)

/-- The item of a post has a ticket of its own, and is at a station. -/
structure Tracks (g : Gateway) (o : Post) (s : Station) : Prop where
  numbered : o.ticket ≤ g.tickets
  alone : ∀ t kind p, g.pool? t kind = some p → o.ticket ∈ p.tickets →
    t = o.tenant ∧ kind = o.kind
  station : At g o s

/-- Nothing has happened to the items of any pool, nor to the answers; a pool that is
new is empty. -/
structure Rests (g g' : Gateway) : Prop where
  tickets : g.tickets ≤ g'.tickets
  answers : g'.answers = g.answers
  kept : ∀ t kind p, g.pool? t kind = some p →
    ∃ p', g'.pool? t kind = some p' ∧ SameItems p p'
  found : ∀ t kind p', g'.pool? t kind = some p' →
    p'.tickets = [] ∨ ∃ p, g.pool? t kind = some p ∧ SameItems p p'

/-- The gateway when a request of a tenant has been queued. -/
def queueing (g : Gateway) (t : Nat) (x : Tenant) (r : Request) : Gateway :=
  { g.updatePool t r.pool fun p => p.enqueue ⟨g.tickets + 1, r.payload, g.program x r⟩ with
    tickets := g.tickets + 1 }

/-- What can happen to items: nothing, or a request is queued, a worker takes an item,
gets on with it, or delivers its answer. -/
inductive Change (g : Gateway) (d : Deed) (g' : Gateway) : Prop where
  | rest (hd : ∀ o, exchanges o [d] = []) (hrests : Rests g g')
  | queue {t : Nat} {x : Tenant} (r : Request) (hd : ∀ o, exchanges o [d] = [])
      (hx : g.tenants[t]? = some x) (heq : g' = g.queueing t x r)
  | take {t : Nat} {x : Tenant} {kind : PoolKind} {p : Pool Work Response}
      (hd : ∀ o, exchanges o [d] = []) (hx : g.tenants[t]? = some x)
      (htake : (x.pools.get kind).take? = some p) (heq : g' = g.updatePool t kind fun _ => p)
  /-- What a call does to the gateway comes before the worker goes on. -/
  | work {g₁ : Gateway} {x : Tenant} {y : Taken Work Response} (o' : Post)
      (stage : Stage Work Response) (hkeeps : Keeps g g₁) (hanswers : g₁.answers = g.answers)
      (hx : g₁.tenants[o'.tenant]? = some x) (hy : y ∈ (x.pools.get o'.kind).taken)
      (hticket : y.ticket = o'.ticket)
      (hrests : Rests (g₁.updatePool o'.tenant o'.kind fun p =>
        p.update o'.ticket fun y => { y with stage := stage }) g')
      (hmoves : ∀ o, if o' = o then Moves (exchanges o [d]) (.taken y.stage) (.taken stage)
        else exchanges o [d] = [])
  | deliver {t : Nat} {x : Tenant} {y : Taken Work Response} {kind : PoolKind}
      {answer : Option Response} (hd : ∀ o, exchanges o [d] = []) (hx : g.tenants[t]? = some x)
      (hy : y ∈ (x.pools.get kind).taken) (hstage : y.stage = .released answer)
      (heq : g' =
        { g.updatePool t kind fun p =>
            { p with taken := p.taken.filter fun u => u.ticket ≠ y.ticket } with
          answers := g.answers ++ [(y.ticket, answer)] })

section

variable {p p' q : Pool Work Response} {ticket t : Nat} {s s' : Station}
  {g g' g'' : Gateway} {o o' : Post} {kind : PoolKind} {x : Tenant} {d : Deed} {log : List Deed}
  {hands : Hands} {owner : Nat → Option Owner}

-- =================================================================== one pool

theorem SameItems.refl (p : Pool Work Response) : SameItems p p := ⟨rfl, rfl⟩

/-- Pools with the same items have the same tickets. -/
theorem SameItems.tickets (h : SameItems p q) : q.tickets = p.tickets := by
  unfold Pool.tickets
  rw [h.queue, h.taken]

theorem SameItems.has (h : SameItems p q) (hhas : Has p ticket s) : Has q ticket s := by
  cases hhas with
  | waiting hmem hticket => exact .waiting (h.queue ▸ hmem) hticket
  | taken hmem hticket => exact .taken (h.taken ▸ hmem) hticket

/-- The ticket of an item in a pool is one of the pool's. -/
theorem Has.mem (h : Has p ticket s) : ticket ∈ p.tickets := by
  unfold Pool.tickets
  cases h with
  | waiting hmem hticket =>
      exact List.mem_append_right _ (List.mem_map.2 ⟨_, hmem, hticket⟩)
  | taken hmem hticket =>
      exact List.mem_append_left _ (List.mem_map.2 ⟨_, hmem, hticket⟩)

/-- A worker takes the first item. -/
theorem Has.take (h : Has p ticket s) (htake : p.take? = some q) :
    ∃ s', Has q ticket s' ∧ Moves [] s s' := by
  cases hqueue : p.queue with
  | nil =>
      unfold Pool.take? at htake
      rw [hqueue] at htake
      cases htake
  | cons first rest =>
      obtain rfl := Pool.take?_eq hqueue htake
      cases h with
      | waiting hmem hticket =>
          rw [hqueue] at hmem
          rcases List.mem_cons.1 hmem with rfl | hmem
          · refine ⟨_, .taken (List.mem_append_right _ (List.mem_singleton_self _)) hticket, ?_⟩
            exact .take _
          · exact ⟨_, .waiting hmem hticket, .rest _⟩
      | taken hmem hticket =>
          exact ⟨_, .taken (List.mem_append_left _ hmem) hticket, .rest _⟩

/-- Of the items under one ticket there is one: with what is known of it in a worker's
hands, the station is known. -/
theorem Has.eq_taken {n : Nat} {hands : Nat → Job.Grip} (h : Has p ticket s)
    (hstaffs : Staffs hands n p) {y : Taken Work Response} (hy : y ∈ p.taken)
    (hticket : y.ticket = ticket) : s = .taken y.stage := by
  cases h with
  | waiting hmem hticket' =>
      exact absurd (hticket.trans hticket'.symm) (hstaffs.waiting hmem y hy)
  | taken hmem hticket' =>
      rw [hstaffs.eq_of_ticket hmem hy (hticket'.trans hticket.symm)]

/-- An item in a worker's hands gets on; the others stay. -/
theorem Has.update {n : Nat} {hands : Nat → Job.Grip} (h : Has p ticket s)
    (hstaffs : Staffs hands n p) {y : Taken Work Response} (hy : y ∈ p.taken)
    (stage : Stage Work Response) :
    ∃ s', Has (p.update y.ticket fun y => { y with stage := stage }) ticket s'
      ∧ if y.ticket = ticket then s = .taken y.stage ∧ s' = .taken stage else s' = s := by
  by_cases hown : y.ticket = ticket
  · obtain rfl := h.eq_taken hstaffs hy hown
    refine ⟨.taken stage, ?_, ?_⟩
    · refine .taken (y := { y with stage := stage }) (List.mem_map.2 ⟨y, hy, ?_⟩) hown
      rw [if_pos rfl]
    · rw [if_pos hown]
      exact ⟨rfl, rfl⟩
  · refine ⟨s, ?_, by rw [if_neg hown]⟩
    cases h with
    | waiting hmem hticket => exact .waiting hmem hticket
    | taken hmem hticket =>
        refine .taken (List.mem_map.2 ⟨_, hmem, if_neg ?_⟩) hticket
        rw [hticket]
        exact Ne.symm hown

theorem tickets_update (p : Pool Work Response) (n : Nat) (stage : Stage Work Response) :
    (p.update n fun y => { y with stage := stage }).tickets = p.tickets := by
  have htaken := Pool.map_ticket_update p n (f := fun y => { y with stage := stage })
    fun _ => rfl
  unfold Pool.tickets
  rw [htaken]
  rfl

/-- An accepted item brings its ticket into the pool. -/
theorem mem_tickets_enqueue {n : Nat} {item : Item Work} :
    n ∈ (p.enqueue item).tickets ↔ n ∈ p.tickets ∨ n = item.ticket := by
  unfold Pool.tickets Pool.enqueue
  simp [or_assoc]

/-- It waits there with its job, and the other items are where they were. -/
theorem has_enqueue_iff {item : Item Work} :
    Has (p.enqueue item) ticket s
      ↔ Has p ticket s ∨ ticket = item.ticket ∧ s = .waiting item.job := by
  constructor
  · intro h
    cases h with
    | waiting hmem hticket =>
        rcases List.mem_append.1 hmem with hmem | hmem
        · exact .inl (.waiting hmem hticket)
        · rw [List.mem_singleton.1 hmem] at hticket ⊢
          exact .inr ⟨hticket.symm, rfl⟩
    | taken hmem hticket => exact .inl (.taken hmem hticket)
  · rintro (h | ⟨rfl, rfl⟩)
    · cases h with
      | waiting hmem hticket => exact .waiting (List.mem_append_left _ hmem) hticket
      | taken hmem hticket => exact .taken hmem hticket
    · exact .waiting (List.mem_append_right _ (List.mem_singleton_self item)) rfl

/-- A worker that takes an item moves no ticket. -/
theorem tickets_take (htake : p.take? = some q) : q.tickets = p.tickets := by
  cases hqueue : p.queue with
  | nil =>
      unfold Pool.take? at htake
      rw [hqueue] at htake
      cases htake
  | cons first rest =>
      obtain rfl := Pool.take?_eq hqueue htake
      unfold Pool.tickets
      rw [hqueue, List.map_append, List.append_assoc]
      rfl

-- ============================================================ where nothing moves

theorem pool?_eq (hx : g.tenants[t]? = some x) (kind : PoolKind) :
    g.pool? t kind = some (x.pools.get kind) := by
  unfold pool?
  rw [hx, Option.map_some]

/-- One stretch after another in which no item is touched. -/
theorem Rests.trans (h : Rests g g') (h' : Rests g' g'') : Rests g g'' := by
  refine ⟨h.tickets.trans h'.tickets, h'.answers.trans h.answers, fun t kind p hp => ?_,
    fun t kind p'' hp'' => ?_⟩
  · obtain ⟨p', hp', hsame⟩ := h.kept t kind p hp
    obtain ⟨p'', hp'', hsame'⟩ := h'.kept t kind p' hp'
    exact ⟨p'', hp'', hsame'.queue.trans hsame.queue, hsame'.taken.trans hsame.taken⟩
  · rcases h'.found t kind p'' hp'' with hnew | ⟨p', hp', hsame'⟩
    · exact .inl hnew
    · rcases h.found t kind p' hp' with hnew | ⟨p, hp, hsame⟩
      · exact .inl (hsame'.tickets.trans hnew)
      · exact .inr ⟨p, hp, hsame'.queue.trans hsame.queue, hsame'.taken.trans hsame.taken⟩

/-- Nothing happens to an item where nothing happens to the pools. -/
theorem rests_of_pools (htickets : g.tickets ≤ g'.tickets) (hanswers : g'.answers = g.answers)
    (hpools : ∀ t kind, g'.pool? t kind = g.pool? t kind) : Rests g g' := by
  refine ⟨htickets, hanswers, fun t kind p hp => ⟨p, ?_, .refl p⟩, fun t kind p' hp' => ?_⟩
  · rw [hpools, hp]
  · exact .inr ⟨p', by rw [← hpools, hp'], .refl p'⟩

theorem rests_of_tenants (htickets : g.tickets ≤ g'.tickets) (hanswers : g'.answers = g.answers)
    (htenants : g'.tenants = g.tenants) : Rests g g' := by
  refine rests_of_pools htickets hanswers fun t kind => ?_
  unfold pool?
  rw [htenants]

theorem rests_of_keeps (hkeeps : Keeps g g') (hanswers : g'.answers = g.answers) :
    Rests g g' := by
  refine rests_of_pools (Nat.le_of_eq hkeeps.tickets.symm) hanswers fun t kind => ?_
  have htraffic := hkeeps.traffic t
  have hpools : g'.tenants[t]?.map Tenant.pools = g.tenants[t]?.map Tenant.pools := by
    have hsnd := congrArg (Option.map Prod.snd) htraffic
    simp only [Option.map_map] at hsnd
    exact hsnd
  have hget := congrArg (Option.map fun ps : TenantPools => ps.get kind) hpools
  simp only [Option.map_map] at hget
  exact hget

/-- Nor where a tenant changes and its pools keep their items. -/
theorem rests_update {f : Tenant → Tenant}
    (hf : ∀ x kind, SameItems (x.pools.get kind) ((f x).pools.get kind)) :
    Rests g (g.update t f) := by
  have hat (t' : Nat) (kind : PoolKind) : (g.update t f).pool? t' kind
      = (g.tenants[t']?.map fun x => if t = t' then f x else x).map fun x => x.pools.get kind := by
    unfold pool?
    rw [getElem?_update]
  refine ⟨Nat.le_refl _, rfl, fun t' kind p hp => ?_, fun t' kind p' hp' => .inr ?_⟩
  · obtain ⟨x, hx, rfl⟩ := Option.map_eq_some_iff.1 hp
    rw [hat, hx]
    refine ⟨_, rfl, ?_⟩
    dsimp only
    split
    · exact hf x kind
    · exact .refl _
  · rw [hat] at hp'
    obtain ⟨y, hy, rfl⟩ := Option.map_eq_some_iff.1 hp'
    obtain ⟨x, hx, rfl⟩ := Option.map_eq_some_iff.1 hy
    refine ⟨_, pool?_eq hx kind, ?_⟩
    split
    · exact hf x kind
    · exact .refl _

theorem rests_shut (kind : PoolKind) : Rests g (g.updatePool t kind Pool.shutDown) := by
  refine rests_update fun x other => ?_
  dsimp only
  rw [TenantPools.get_set]
  split
  next heq =>
    subst heq
    exact ⟨rfl, rfl⟩
  next => exact .refl _

theorem rests_touch : Rests g (g.touch t) := rests_update fun _ _ => .refl _

theorem answers_reclaim : (g.reclaim t).answers = g.answers := by
  unfold reclaim
  split <;> rfl

/-- Nor where the handlers of a tenant that nobody refers to are dropped. -/
theorem rests_dropUnused : Rests g (g.dropUnused t) := by
  unfold dropUnused
  split
  · exact rests_of_tenants (Nat.le_refl _) rfl rfl
  · have hclose : Rests g (g.close t) := by
      refine rests_update fun x kind => ?_
      dsimp only
      rw [pools_get_map]
      exact ⟨rfl, rfl⟩
    exact hclose.trans (rests_of_keeps (keeps_reclaim _ t) answers_reclaim)

/-- No call of a job answers a request. -/
theorem answers_perform (g : Gateway) (t : Nat) (x : Tenant) (gate : Option Nat) (c : Job.Call) :
    (g.perform t x gate c).state.answers = g.answers := by
  rw [(confined_perform g t x gate c).state]

/-- A tenant that comes has pools without items. -/
theorem rests_register {y : Tenant} (hpools : ∀ kind, Pool.Fresh (y.pools.get kind))
    (htickets : g.tickets ≤ g'.tickets) (hanswers : g'.answers = g.answers)
    (htenants : g'.tenants = g.tenants ++ [y]) : Rests g g' := by
  refine ⟨htickets, hanswers, fun t kind p hp => ⟨p, ?_, .refl p⟩, fun t kind p' hp' => ?_⟩
  · obtain ⟨x, hx, rfl⟩ := Option.map_eq_some_iff.1 hp
    refine pool?_eq ?_ kind
    rw [htenants]
    exact getElem?_concat_iff.2 (.inl hx)
  · obtain ⟨x, hx, rfl⟩ := Option.map_eq_some_iff.1 hp'
    rw [htenants] at hx
    rcases getElem?_concat_iff.1 hx with hx | ⟨-, rfl⟩
    · exact .inr ⟨_, pool?_eq hx kind, .refl _⟩
    · left
      unfold Pool.tickets
      rw [(hpools kind).queue, (hpools kind).taken]
      rfl

/-- An item stays where it is when nothing happens to the pools. -/
theorem Tracks.rest (h : Tracks g o s) (hrests : Rests g g') : Tracks g' o s := by
  have hback {t : Nat} {kind : PoolKind} {p' : Pool Work Response}
      (hp' : g'.pool? t kind = some p') (hmem : o.ticket ∈ p'.tickets) :
      ∃ p, g.pool? t kind = some p ∧ o.ticket ∈ p.tickets := by
    rcases hrests.found t kind p' hp' with hnew | ⟨p, hp, hsame⟩
    · rw [hnew] at hmem
      cases hmem
    · exact ⟨p, hp, hsame.tickets ▸ hmem⟩
  refine ⟨?_, fun t kind p' hp' hmem => ?_, ?_⟩
  · exact h.numbered.trans hrests.tickets
  · obtain ⟨p, hp, hmem⟩ := hback hp' hmem
    exact h.alone t kind p hp hmem
  · cases h.station with
    | held hp hhas hnone =>
        obtain ⟨p', hp', hsame⟩ := hrests.kept _ _ _ hp
        refine .held hp' (hsame.has hhas) ?_
        rw [hrests.answers]
        exact hnone
    | answered hgone hanswer =>
        refine .answered (fun p' hp' hmem => ?_) ?_
        · obtain ⟨p, hp, hmem⟩ := hback hp' hmem
          exact hgone p hp hmem
        · rw [hrests.answers]
          exact hanswer

-- ======================================================= where a pool does something

/-- Changing a pool changes no other. -/
theorem pool?_updatePool (hx : g.tenants[t]? = some x) (kind : PoolKind)
    (f : Pool Work Response → Pool Work Response) (t' : Nat) (kind' : PoolKind) :
    (g.updatePool t kind f).pool? t' kind' =
      if t' = t ∧ kind' = kind then some (f (x.pools.get kind)) else g.pool? t' kind' := by
  unfold pool?
  rw [tenants_updatePool hx]
  by_cases ht : t' = t
  · rw [if_pos ht, Option.map_some, TenantPools.get_set, ht, hx, Option.map_some]
    by_cases hkind : kind' = kind
    · rw [if_pos hkind, if_pos ⟨rfl, hkind⟩]
    · rw [if_neg hkind, if_neg fun h => hkind h.2]
  · rw [if_neg ht, if_neg fun h => ht h.1]

/-- What becomes of a pool depends on that pool alone. -/
theorem updatePool_const (hx : g.tenants[t]? = some x)
    (f : Pool Work Response → Pool Work Response) :
    (g.updatePool t kind fun _ => f (x.pools.get kind)) = g.updatePool t kind f := by
  rw [updatePool_eq_put hx, updatePool_eq_put hx]

/-- A pool does something to its items; where it has the item of a post, that is told
what it does to it. -/
theorem Tracks.pool {es : List Exchange} {f : Pool Work Response → Pool Work Response}
    (h : Tracks g o s) (hx : g.tenants[t]? = some x) (hrests : Rests (g.updatePool t kind f) g')
    (htickets : o.ticket ∈ (f (x.pools.get kind)).tickets → o.ticket ∈ (x.pools.get kind).tickets)
    (hmoves : t = o.tenant → kind = o.kind → Has (x.pools.get kind) o.ticket s →
      ∃ s', Has (f (x.pools.get kind)) o.ticket s' ∧ Moves es s s')
    (helse : (t = o.tenant → kind = o.kind → o.ticket ∉ (x.pools.get kind).tickets) → es = []) :
    ∃ s', Tracks g' o s' ∧ Moves es s s' := by
  have hat := pool?_updatePool hx kind f
  have halone : ∀ t' kind' p, (g.updatePool t kind f).pool? t' kind' = some p →
      o.ticket ∈ p.tickets → t' = o.tenant ∧ kind' = o.kind := by
    intro t' kind' p hp hmem
    rw [hat] at hp
    split at hp
    next heq =>
      cases hp
      exact h.alone t' kind' _ (heq.1 ▸ heq.2 ▸ pool?_eq hx kind) (htickets hmem)
    next => exact h.alone t' kind' p hp hmem
  have hdone {s' : Station} (hstation : At (g.updatePool t kind f) o s') : Tracks g' o s' := by
    have hthere : Tracks (g.updatePool t kind f) o s' := ⟨h.numbered, halone, hstation⟩
    exact hthere.rest hrests
  by_cases hown : o.tenant = t ∧ o.kind = kind
  · obtain ⟨rfl, rfl⟩ := hown
    cases h.station with
    | held hp hhas hnone =>
        rw [pool?_eq hx] at hp
        cases hp
        obtain ⟨s', hhas', hmoves⟩ := hmoves rfl rfl hhas
        refine ⟨s', hdone (.held ?_ hhas' hnone), hmoves⟩
        rw [hat, if_pos ⟨rfl, rfl⟩]
    | answered hgone hanswer =>
        have hnot := hgone _ (pool?_eq hx o.kind)
        obtain rfl := helse fun _ _ => hnot
        refine ⟨_, hdone (.answered (fun p hp hmem => ?_) hanswer), .rest _⟩
        rw [hat, if_pos ⟨rfl, rfl⟩] at hp
        cases hp
        exact hnot (htickets hmem)
  · obtain rfl := helse fun ht hkind => absurd ⟨ht.symm, hkind.symm⟩ hown
    refine ⟨s, hdone ?_, .rest _⟩
    cases h.station with
    | held hp hhas hnone =>
        refine .held ?_ hhas hnone
        rw [hat, if_neg hown, hp]
    | answered hgone hanswer =>
        refine .answered (fun p hp => ?_) hanswer
        rw [hat, if_neg hown] at hp
        exact hgone p hp

/-- An item in a worker's hands gets on. -/
theorem Tracks.work {es : List Exchange} (h : Tracks g o s) (hstaffed : Staffed g hands)
    (o' : Post) (hx : g.tenants[o'.tenant]? = some x) {y : Taken Work Response}
    (hy : y ∈ (x.pools.get o'.kind).taken) (hticket : y.ticket = o'.ticket)
    (stage : Stage Work Response)
    (hrests : Rests (g.updatePool o'.tenant o'.kind fun p =>
      p.update o'.ticket fun y => { y with stage := stage }) g')
    (hmoves : if o' = o then Moves es (.taken y.stage) (.taken stage) else es = []) :
    ∃ s', Tracks g' o s' ∧ Moves es s s' := by
  have hstaffs := hstaffed.pools _ x hx o'.kind
  refine h.pool hx hrests (fun hmem => ?_) (fun ht hkind hhas => ?_) fun hgone => ?_
  · rwa [tickets_update] at hmem
  · obtain ⟨s', hhas', hs'⟩ := hhas.update hstaffs hy stage
    rw [hticket] at hhas'
    refine ⟨s', hhas', ?_⟩
    by_cases hown : y.ticket = o.ticket
    · rw [if_pos hown] at hs'
      obtain ⟨rfl, rfl⟩ := hs'
      rwa [if_pos] at hmoves
      rw [hticket] at hown
      cases o
      cases o'
      cases ht
      cases hkind
      cases hown
      rfl
    · rw [if_neg hown] at hs'
      subst hs'
      rw [if_neg] at hmoves
      · subst hmoves
        exact .rest _
      · rintro rfl
        exact hown hticket
  · rwa [if_neg] at hmoves
    rintro rfl
    refine hgone rfl rfl (List.mem_append_left _ (List.mem_map.2 ⟨y, hy, hticket⟩))

/-- An answer under another ticket is nothing to an item. -/
theorem Tracks.aside {n : Nat} (answer : Option Response) (h : Tracks g o s) (hne : n ≠ o.ticket) :
    Tracks { g with answers := g.answers ++ [(n, answer)] } o s := by
  have hanswers (other : Option Response) :
      (o.ticket, other) ∈ g.answers ++ [(n, answer)] ↔ (o.ticket, other) ∈ g.answers := by
    simp [Ne.symm hne]
  refine ⟨h.numbered, h.alone, ?_⟩
  cases h.station with
  | held hp hhas hnone =>
      exact .held hp hhas fun other hmem => hnone other ((hanswers other).1 hmem)
  | answered hgone hanswer =>
      exact .answered hgone fun other => (hanswers other).trans (hanswer other)

/-- An answer is delivered. -/
theorem Tracks.deliver {answer : Option Response} (h : Tracks g o s) (hstaffed : Staffed g hands)
    (hx : g.tenants[t]? = some x) {y : Taken Work Response}
    (hy : y ∈ (x.pools.get kind).taken) (hstage : y.stage = .released answer) :
    ∃ s', Tracks
        { g.updatePool t kind fun p =>
            { p with taken := p.taken.filter fun u => u.ticket ≠ y.ticket } with
          answers := g.answers ++ [(y.ticket, answer)] } o s'
      ∧ Moves [] s s' := by
  have hstaffs := hstaffed.pools _ x hx kind
  have hrest {n : Nat}
      (hn : n ∈ Pool.tickets
        { x.pools.get kind with
          taken := (x.pools.get kind).taken.filter fun u => u.ticket ≠ y.ticket }) :
      n ∈ (x.pools.get kind).tickets ∧ n ≠ y.ticket := by
    rcases List.mem_append.1 hn with hn | hn
    · obtain ⟨z, hz, rfl⟩ := List.mem_map.1 hn
      obtain ⟨hz, hne⟩ := List.mem_filter.1 hz
      exact ⟨List.mem_append_left _ (List.mem_map_of_mem hz), of_decide_eq_true hne⟩
    · obtain ⟨item, hitem, rfl⟩ := List.mem_map.1 hn
      exact ⟨List.mem_append_right _ hn, Ne.symm (hstaffs.waiting hitem y hy)⟩
  by_cases hown : y.ticket = o.ticket
  · have hmem : o.ticket ∈ (x.pools.get kind).tickets :=
      List.mem_append_left _ (List.mem_map.2 ⟨y, hy, hown⟩)
    obtain ⟨rfl, rfl⟩ := h.alone t kind _ (pool?_eq hx kind) hmem
    have hat := pool?_updatePool hx o.kind fun p =>
      { p with taken := p.taken.filter fun u => u.ticket ≠ y.ticket }
    cases h.station with
    | answered hgone => exact absurd hmem (hgone _ (pool?_eq hx o.kind))
    | held hp hhas hnone =>
        rw [pool?_eq hx] at hp
        cases hp
        obtain rfl := hhas.eq_taken hstaffs hy hown
        have hgone : ∀ t kind p, (g.updatePool o.tenant o.kind fun p =>
            { p with taken := p.taken.filter fun u => u.ticket ≠ y.ticket }).pool? t kind = some p →
            o.ticket ∉ p.tickets := by
          intro t kind p hp hmem
          rw [hat] at hp
          split at hp
          next =>
            cases hp
            exact (hrest hmem).2 hown.symm
          next hother => exact hother (h.alone t kind p hp hmem)
        rw [hstage]
        refine ⟨.answered answer, ⟨h.numbered, fun t kind p hp hmem => ?_,
          .answered (hgone _ _) fun other => ?_⟩, .deliver answer⟩
        · exact absurd hmem (hgone t kind p hp)
        · show (o.ticket, other) ∈ g.answers ++ [(y.ticket, answer)] ↔ other = answer
          rw [List.mem_append, hown]
          simp [hnone other]
  · have hpool : ∃ s', Tracks (g.updatePool t kind fun p =>
        { p with taken := p.taken.filter fun u => u.ticket ≠ y.ticket }) o s' ∧ Moves [] s s' := by
      refine h.pool hx (rests_of_tenants (Nat.le_refl _) rfl rfl) (fun hmem => (hrest hmem).1)
        (fun _ _ hhas => ⟨s, ?_, .rest s⟩) fun _ => rfl
      cases hhas with
      | waiting hmem hticket => exact .waiting hmem hticket
      | taken hmem hticket =>
          refine .taken (List.mem_filter.2 ⟨hmem, decide_eq_true ?_⟩) hticket
          rw [hticket]
          exact Ne.symm hown
    obtain ⟨s', htracks, hmoves⟩ := hpool
    exact ⟨s', htracks.aside answer hown, hmoves⟩

/-- Another item is queued. -/
theorem Tracks.queueing (h : Tracks g o s) (hx : g.tenants[t]? = some x) (r : Request) :
    ∃ s', Tracks (g.queueing t x r) o s' ∧ Moves [] s s' := by
  have hrests : Rests
      (g.updatePool t r.pool fun p => p.enqueue ⟨g.tickets + 1, r.payload, g.program x r⟩)
      (g.queueing t x r) := rests_of_tenants (Nat.le_succ _) rfl rfl
  refine h.pool hx hrests (fun hmem => ?_)
    (fun _ _ hhas => ⟨s, has_enqueue_iff.2 (.inl hhas), .rest s⟩) fun _ => rfl
  have hnumbered := h.numbered
  rcases mem_tickets_enqueue.1 hmem with hmem | heq
  · exact hmem
  · have hnew : o.ticket = g.tickets + 1 := heq
    omega

-- ================================================================= every step

theorem exchanges_append (o : Post) (log log' : List Deed) :
    exchanges o (log ++ log') = exchanges o log ++ exchanges o log' :=
  List.filterMap_append

/-- A call is an exchange of the one whose job has made it. -/
theorem exchanges_called (o o' : Post) (c : Job.Call) (a : Job.Answer c) :
    exchanges o [.called o' c a] = if o' = o then [⟨c, a⟩] else [] := by
  by_cases h : o' = o
  · simp [exchanges, Deed.exchange?, h]
  · simp [exchanges, Deed.exchange?, h]

/-- Every step is one of these changes. -/
theorem Step.change (hstep : Step g d g') : Change g d g' := by
  have hrest {g' : Gateway} (hrests : Rests g g') : Change g .other g' :=
    .rest (fun _ => rfl) hrests
  cases hstep with
  | outside clock marks remote hsame => exact hrest (rests_of_tenants (Nat.le_refl _) rfl rfl)
  | @resolve g₁ who t hresolve =>
      rcases resolve_cases hresolve with ⟨t', ht, rfl⟩ | ⟨e, n, b, ht, rfl⟩
        | ⟨pools, n, hpools, ht, rfl⟩
      · exact hrest (rests_touch.trans (rests_of_tenants (Nat.le_refl _) rfl rfl))
      · cases ht
      · exact hrest (rests_register hpools (Nat.le_refl _) rfl rfl)
  | resolveFails hresolve =>
      rcases resolve_cases hresolve with ⟨t', ht, rfl⟩ | ⟨e, n, b, ht, rfl⟩
        | ⟨pools, n, hpools, ht, rfl⟩
      · cases ht
      · exact hrest (rests_of_tenants (Nat.le_refl _) rfl rfl)
      · cases ht
  | touch hkept => exact hrest rests_touch
  | accept hkept haccept =>
      obtain ⟨x, inFlight, -, -, rfl⟩ := accept_eq haccept
      exact hrest (rests_update fun _ _ => .refl _)
  | turnAway r hkept => exact hrest (rests_update fun _ _ => .refl _)
  | queue hkept hx hroom => exact .queue _ (fun _ => rfl) hx rfl
  | take hx htake => exact .take (fun _ => rfl) hx htake rfl
  | @call g₁ o' x c a next gate hx hexecutes hperform =>
      have hkeeps := keeps_perform g o'.tenant x gate c
      have hanswers := answers_perform g o'.tenant x gate c
      rw [show (g.perform o'.tenant x gate c).state = g₁ from congrArg Performed.state hperform]
        at hkeeps hanswers
      obtain ⟨x, hx, y, hy, hticket, hstage⟩ := hexecutes
      obtain ⟨x', hx', hpools⟩ := pools_of_keeps hkeeps hx
      rw [← hpools] at hy
      refine .work o' (.running ⟨next a, none⟩) hkeeps hanswers hx' hy hticket
        (rests_of_tenants (Nat.le_refl _) rfl rfl) fun o => ?_
      rw [exchanges_called, hstage]
      split
      · exact .call gate a
      · rfl
  | @wait g₁ o' x c next gate gate' hx hexecutes hperform =>
      have hkeeps := keeps_perform g o'.tenant x gate c
      have hanswers := answers_perform g o'.tenant x gate c
      rw [show (g.perform o'.tenant x gate c).state = g₁ from congrArg Performed.state hperform]
        at hkeeps hanswers
      obtain ⟨x, hx, y, hy, hticket, hstage⟩ := hexecutes
      obtain ⟨x', hx', hpools⟩ := pools_of_keeps hkeeps hx
      rw [← hpools] at hy
      refine .work o' (.running ⟨.call c next, gate'⟩) hkeeps hanswers hx' hy hticket
        (rests_of_tenants (Nat.le_refl _) rfl rfl) fun o => ?_
      rw [hstage]
      split
      · exact .wait _ gate gate'
      · rfl
  | @finish o' answer gate hexecutes =>
      obtain ⟨x, hx, y, hy, hticket, hstage⟩ := hexecutes
      refine .work o' (.finished answer) (.refl g) rfl hx hy hticket rests_dropUnused fun o => ?_
      rw [hstage]
      split
      · exact .finish answer gate
      · rfl
  | @serve t x kind y e p hx hy hserve =>
      rcases hserve with hserve | hserve
      · obtain ⟨answer, hstage, rfl, rfl⟩ := Pool.release?_eq hserve
        have hfollow : Rests
            (g.updatePool t kind fun p => p.update y.ticket fun y =>
              { y with stage := .released answer })
            ((g.updatePool t kind fun _ => (x.pools.get kind).update y.ticket fun y =>
              { y with stage := .released answer }).follow t
                (.released y.ticket y.fingerprint)) := by
          rw [updatePool_const hx fun p => p.update y.ticket fun y =>
            { y with stage := .released answer }]
          exact rests_update fun _ _ => .refl _
        refine .work ⟨t, kind, y.ticket⟩ (.released answer) (.refl g) rfl hx hy rfl hfollow
          fun o => ?_
        rw [hstage]
        split
        · exact .release answer
        · rfl
      · obtain ⟨answer, hstage, rfl, rfl⟩ := Pool.deliver?_eq hserve
        refine .deliver (fun _ => rfl) hx hy hstage ?_
        rw [updatePool_const hx fun p =>
          { p with taken := p.taken.filter fun u => u.ticket ≠ y.ticket }]
        rfl
  | shut kind hkept hx => exact hrest (rests_shut kind)
  | @clear t x kind hkept hx hfree =>
      let f (x : Tenant) : Tenant := { x with slots := x.slots.set kind (x.slots.get kind).clear }
      have hcleared : Rests g (g.update t f) := rests_update fun _ _ => .refl _
      exact .rest (fun _ => rfl)
        (hcleared.trans (rests_of_keeps (keeps_reclaim _ t) answers_reclaim))
  | remove hregistered => exact hrest (rests_of_tenants (Nat.le_refl _) rfl rfl)
  | @letGo t hkept =>
      have hkeptLess : Rests g { g with kept := g.kept.erase t } :=
        rests_of_tenants (Nat.le_refl _) rfl rfl
      exact hrest (hkeptLess.trans rests_dropUnused)

/-- Whatever happens, an item gets on as its job says, or stays where it is. -/
theorem Tracks.step (h : Tracks g o s) (hstaffed : Staffed g hands) (hstep : Step g d g') :
    ∃ s', Tracks g' o s' ∧ Moves (exchanges o [d]) s s' := by
  cases hstep.change with
  | rest hd hrests =>
      rw [hd]
      exact ⟨s, h.rest hrests, .rest s⟩
  | queue r hd hx heq =>
      rw [hd, heq]
      exact h.queueing hx r
  | @take t x kind p hd hx htake heq =>
      rw [hd, heq]
      refine h.pool (f := fun _ => p) hx (rests_of_tenants (Nat.le_refl _) rfl rfl) (fun hmem => ?_)
        (fun _ _ hhas => hhas.take htake) fun _ => rfl
      rwa [← tickets_take htake]
  | work o' stage hkeeps hanswers hx hy hticket hrests hmoves =>
      exact (h.rest (rests_of_keeps hkeeps hanswers)).work (hstaffed.keeps hkeeps) o' hx hy hticket
        stage hrests (hmoves o)
  | deliver hd hx hy hstage heq =>
      rw [hd, heq]
      exact h.deliver hstaffed hx hy hstage

/-- No answer is given under a ticket that has not been given out. -/
theorem answered_step (h : ∀ entry ∈ g.answers, entry.1 ≤ g.tickets) (hstaffed : Staffed g hands)
    (hstep : Step g d g') : ∀ entry ∈ g'.answers, entry.1 ≤ g'.tickets := by
  have hsame {g' : Gateway} (hanswers : g'.answers = g.answers) (hle : g.tickets ≤ g'.tickets) :
      ∀ entry ∈ g'.answers, entry.1 ≤ g'.tickets := by
    rw [hanswers]
    exact fun entry hentry => (h entry hentry).trans hle
  cases hstep.change with
  | rest _ hrests => exact hsame hrests.answers hrests.tickets
  | queue r _ _ heq =>
      subst heq
      exact hsame rfl (Nat.le_succ _)
  | take _ _ _ heq =>
      subst heq
      exact hsame rfl (Nat.le_refl _)
  | work o' stage hkeeps hanswers _ _ _ hrests _ =>
      refine hsame (hrests.answers.trans hanswers) ?_
      rw [← hkeeps.tickets]
      exact hrests.tickets
  | deliver _ hx hy _ heq =>
      subst heq
      intro entry hentry
      rcases List.mem_append.1 hentry with hentry | hentry
      · exact h entry hentry
      · rw [List.mem_singleton.1 hentry]
        exact (hstaffed.pools _ _ hx _).numbered _
          (List.mem_append_left _ (List.mem_map_of_mem hy))

/-- Answers are delivered under tickets that have been given out. -/
theorem Runs.answered {config : Config} {clock : Timestamp} {overflow : Overflow} {start : Gateway}
    (hcreate : create config clock overflow = .ok start) (hruns : start.Runs log g) :
    ∀ entry ∈ g.answers, entry.1 ≤ g.tickets := by
  induction hruns with
  | start =>
      rw [create_eq hcreate]
      exact nofun
  | step hruns hstep ih =>
      obtain ⟨hands, owner, haccounted⟩ := hruns.accounted hcreate
      exact answered_step ih haccounted.staffed hstep

-- ==================================================================== whole runs

variable {r : JobRoutine (Option Response)} {es es' : List Exchange} {start : Gateway}
  {before : List Deed}

/-- How far an item is fits what its job has asked. -/
inductive Course (r : JobRoutine (Option Response)) : List Exchange → Station → Prop where
  | waiting (gate : Option Nat) : Course r [] (.waiting ⟨r, gate⟩)
  | running {es : List Exchange} {w : Work} (h : r.Leaves es w.routine) :
      Course r es (.taken (.running w))
  | finished {es : List Exchange} {answer : Option Response} (h : r.Concludes es answer) :
      Course r es (.taken (.finished answer))
  | released {es : List Exchange} {answer : Option Response} (h : r.Concludes es answer) :
      Course r es (.taken (.released answer))
  | answered {es : List Exchange} {answer : Option Response} (h : r.Concludes es answer) :
      Course r es (.answered answer)

/-- The course of an item goes on with each exchange. -/
theorem Course.moves (h : Course r es s) (hmoves : Moves es' s s') : Course r (es ++ es') s' := by
  cases hmoves with
  | rest =>
      rw [List.append_nil]
      exact h
  | take w =>
      cases h with
      | waiting gate => exact .running (.untouched r)
  | call gate a =>
      cases h with
      | running hleaves => exact .running (hleaves.snoc a)
  | wait r gate gate' =>
      cases h with
      | running hleaves =>
          rw [List.append_nil]
          exact .running hleaves
  | finish answer gate =>
      cases h with
      | running hleaves =>
          rw [List.append_nil]
          exact .finished hleaves
  | release answer =>
      cases h with
      | finished hends =>
          rw [List.append_nil]
          exact .released hends
  | deliver answer =>
      cases h with
      | released hends =>
          rw [List.append_nil]
          exact .answered hends

/-- However far an item is, its job has asked what its program asks. -/
theorem Course.leaves (h : Course r es s) : ∃ q, r.Leaves es q := by
  cases h with
  | waiting gate => exact ⟨r, .untouched r⟩
  | running hleaves => exact ⟨_, hleaves⟩
  | finished hends => exact ⟨_, hends⟩
  | released hends => exact ⟨_, hends⟩
  | answered hends => exact ⟨_, hends⟩

/-- What is queued waits under a ticket of its own. -/
theorem tracks_enqueue (hstaffed : Staffed g hands) (hx : g.tenants[t]? = some x)
    (hanswered : ∀ entry ∈ g.answers, entry.1 ≤ g.tickets) (kind : PoolKind)
    (fingerprint : String) (w : Work) :
    Tracks
      { g.updatePool t kind fun p => p.enqueue ⟨g.tickets + 1, fingerprint, w⟩ with
        tickets := g.tickets + 1 }
      ⟨t, kind, g.tickets + 1⟩ (.waiting w) := by
  have hat := pool?_updatePool hx kind fun p => p.enqueue ⟨g.tickets + 1, fingerprint, w⟩
  refine ⟨Nat.le_refl _, fun t' kind' p hp hmem => ?_,
    .held ((hat t kind).trans (if_pos ⟨rfl, rfl⟩)) (has_enqueue_iff.2 (.inr ⟨rfl, rfl⟩))
      fun answer hmem => ?_⟩
  · have hp := (hat t' kind').symm.trans hp
    split at hp
    next heq => exact heq
    next =>
      obtain ⟨y, hy, rfl⟩ := Option.map_eq_some_iff.1 hp
      have hle : g.tickets + 1 ≤ g.tickets := (hstaffed.pools t' y hy kind').numbered _ hmem
      omega
  · have hle : g.tickets + 1 ≤ g.tickets := hanswered _ hmem
    omega

/-- An answer that is delivered is what the program came to. -/
theorem Course.concludes (h : Course r es s) (htracks : Tracks g o s) {answer : Option Response}
    (hmem : (o.ticket, answer) ∈ g.answers) : r.Concludes es answer := by
  cases htracks.station with
  | held hp hhas hnone => exact absurd hmem (hnone answer)
  | answered hgone hanswer =>
      obtain rfl := (hanswer answer).1 hmem
      cases h with
      | answered hends => exact hends

/-- In every run, whatever else there is, an item is where its job has come to. -/
theorem Course.runs {config : Config} {clock : Timestamp} {overflow : Overflow}
    (hcreate : create config clock overflow = .ok start)
    (hbefore : start.Runs before g) (hx : g.tenants[t]? = some x) (request : Request)
    (hruns : (g.queueing t x request).Runs log g') :
    ∃ s, Tracks g' ⟨t, request.pool, g.tickets + 1⟩ s
      ∧ Course (CheckGateway.work (g.context x) request)
          (exchanges ⟨t, request.pool, g.tickets + 1⟩ log) s := by
  obtain ⟨hands, owner, haccounted⟩ := hbefore.accounted hcreate
  have hqueued : ∃ log' hands owner, Accounted log' (g.queueing t x request) hands owner :=
    ⟨_, _, _, haccounted.queue hx request.payload (givesBack_program g x request)⟩
  have hall : (∃ log' hands owner, Accounted log' g' hands owner)
      ∧ ∃ s, Tracks g' ⟨t, request.pool, g.tickets + 1⟩ s
        ∧ Course (CheckGateway.work (g.context x) request)
            (exchanges ⟨t, request.pool, g.tickets + 1⟩ log) s := by
    induction hruns with
    | start =>
        refine ⟨hqueued, _, tracks_enqueue haccounted.staffed hx ?_ request.pool request.payload
          (g.program x request), .waiting none⟩
        exact hbefore.answered hcreate
    | step hruns hstep ih =>
        obtain ⟨⟨log', hands', owner', haccounted'⟩, s, htracks, hcourse⟩ := ih
        obtain ⟨s', htracks', hmoves⟩ := htracks.step haccounted'.staffed hstep
        refine ⟨⟨_, haccounted'.step hstep⟩, s', htracks', ?_⟩
        rw [exchanges_append]
        exact hcourse.moves hmoves
  exact hall.2

end

end CheckGateway.Gateway
