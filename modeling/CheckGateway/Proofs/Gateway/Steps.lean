/-
Everything that can happen in a gateway, one thing at a time.

`Gateway.step?` and the operations of the registry take the steps of many
threads in one order. Here the order is left open: callers, evictions and
workers take turns, a worker after every call of its job, and whoever
evicts or shuts down after every pool and every slot. Whatever the remote
system is told to do, and however the clock moves, happens outside.

# Who holds a tenant

The registry holds the tenants that are registered, and callers hold those
that they have resolved, or that they have taken out of the registry; `kept`
has one entry for each such hold. Work that is queued or executing holds its
tenant too. A tenant that nobody holds is dropped at once, with what its
slots still hold.

# What is granted

`queue` does not ask whether the pool is shut down: a caller may have been
waiting for room when it was. `remove` takes any registered tenant, as an
eviction does that finds it idle, and a shutdown that takes them all.
-/
import CheckGateway.Gateway.Registry
import CheckGateway.Proofs.Remote.Orderly

namespace CheckGateway

/-- Where a job is worked on: in a pool of a tenant, under a ticket. -/
structure Post where
  tenant : Nat
  kind : PoolKind
  ticket : Nat
  deriving DecidableEq

/-- The kind of handler that a call makes. -/
def Job.Call.made? : Job.Call → Option HandlerKind
  | .install kind => some kind
  | .installSystem _ => some .system
  | _ => none

/-- An item waits or is being run. -/
def Pool.HasWork {Job Reply : Type} (p : Pool Job Reply) : Prop :=
  p.queue ≠ [] ∨ ∃ y ∈ p.taken, ∃ job, y.stage = .running job

namespace Gateway

/-- What happens, as far as sessions and handlers are concerned. -/
inductive Deed where
  /-- A call of a job is answered. -/
  | called (o : Post) (c : Job.Call) (a : Job.Answer c)
  /-- A slot forgets its handler. -/
  | cleared (t : Nat) (kind : HandlerKind)
  | other

/-- The session that is opened, with the tenant for which it is. -/
def Deed.opened? : Deed → Option (Nat × Nat)
  | .called o .openSession a =>
      match (a : Except Fault Nat) with
      | .ok n => some (o.tenant, n)
      | .error _ => none
  | _ => none

/-- The kind of handler that is made, with the tenant for which it is. -/
def Deed.made? : Deed → Option (Nat × HandlerKind)
  | .called o c _ => c.made?.map fun kind => (o.tenant, kind)
  | _ => none

/-- A job is executed at a post. -/
def Executes (g : Gateway) (o : Post) (w : Work) : Prop :=
  ∃ x, g.tenants[o.tenant]? = some x
    ∧ ∃ y ∈ (x.pools.get o.kind).taken, y.ticket = o.ticket ∧ y.stage = .running w

/-- Work for a tenant is queued or executing. -/
def Busy (g : Gateway) (t : Nat) : Prop :=
  ∃ x, g.tenants[t]? = some x ∧ ∃ kind, (x.pools.get kind).HasWork

/-- Somebody still refers to a tenant. -/
def Referenced (g : Gateway) (t : Nat) : Prop :=
  t ∈ g.registered ∨ t ∈ g.kept ∨ g.Busy t

open Classical in
/-- A tenant that nobody refers to is dropped. -/
noncomputable def dropUnused (g : Gateway) (t : Nat) : Gateway :=
  if g.Referenced t then g else g.shutDownTenant t

/-- One thing that can happen. -/
inductive Step : Gateway → Deed → Gateway → Prop where
  /-- The clock, the script of the remote system, its gates and what it has
  counted may change in any way, and so may the watermarks. -/
  | outside {g : Gateway} (clock : Timestamp) (marks : Watermarks)
      (remote : ScriptedRemote) (hsame : ScriptedRemote.SameSessions g.remote remote) :
      Step g .other { g with clock := clock, watermarks := marks, remote := remote }
  | resolve {g g' : Gateway} {who : Credentials} {t : Nat}
      (hresolve : g.resolve who = (.ok t, g')) :
      Step g .other { g' with kept := t :: g'.kept }
  | resolveFails {g g' : Gateway} {who : Credentials} {e : Fault}
      (hresolve : g.resolve who = (.error e, g')) : Step g .other g'
  | touch {g : Gateway} {t : Nat} (hkept : t ∈ g.kept) : Step g .other (g.touch t)
  | accept {g g' : Gateway} {t : Nat} {r : Request} (hkept : t ∈ g.kept)
      (haccept : g.accept t r = .ok g') : Step g .other g'
  /-- A request that was admitted is not queued after all. -/
  | turnAway {g : Gateway} {t : Nat} (r : Request) (hkept : t ∈ g.kept) :
      Step g .other (g.release t r)
  | queue {g : Gateway} {t : Nat} {x : Tenant} {r : Request} (hkept : t ∈ g.kept)
      (hx : g.tenants[t]? = some x) (hroom : (x.pools.get r.pool).hasRoom = true) :
      Step g .other
        { g.updatePool t r.pool fun p =>
            p.enqueue ⟨g.tickets + 1, r.payload, g.program x r⟩ with
          tickets := g.tickets + 1 }
  | take {g : Gateway} {t : Nat} {x : Tenant} {kind : PoolKind} {p : Pool Work Response}
      (hx : g.tenants[t]? = some x) (htake : (x.pools.get kind).take? = some p) :
      Step g .other (g.updatePool t kind fun _ => p)
  | call {g g' : Gateway} {o : Post} {x : Tenant} {c : Job.Call} {a : Job.Answer c}
      {next : Job.Answer c → JobRoutine (Option Response)} {gate : Option Nat}
      (hx : g.tenants[o.tenant]? = some x) (hexecutes : g.Executes o ⟨.call c next, gate⟩)
      (hperform : g.perform o.tenant x gate c = .answered a g') :
      Step g (.called o c a)
        (g'.updatePool o.tenant o.kind fun p => p.resume o.ticket ⟨next a, none⟩)
  | wait {g g' : Gateway} {o : Post} {x : Tenant} {c : Job.Call}
      {next : Job.Answer c → JobRoutine (Option Response)} {gate gate' : Option Nat}
      (hx : g.tenants[o.tenant]? = some x) (hexecutes : g.Executes o ⟨.call c next, gate⟩)
      (hperform : g.perform o.tenant x gate c = .waits gate' g') :
      Step g .other
        (g'.updatePool o.tenant o.kind fun p => p.resume o.ticket ⟨.call c next, gate'⟩)
  /-- A job that is over lets go of its tenant. -/
  | finish {g : Gateway} {o : Post} {answer : Option Response} {gate : Option Nat}
      (hexecutes : g.Executes o ⟨.done answer, gate⟩) :
      Step g .other
        ((g.updatePool o.tenant o.kind fun p => p.finish o.ticket answer).dropUnused
          o.tenant)
  /-- A worker releases a fingerprint, or delivers an answer. -/
  | serve {g : Gateway} {t : Nat} {x : Tenant} {kind : PoolKind}
      {y : Taken Work Response} {e : Pool.Event Response} {p : Pool Work Response}
      (hx : g.tenants[t]? = some x) (hy : y ∈ (x.pools.get kind).taken)
      (hserve : (x.pools.get kind).release? y = some (e, p)
        ∨ (x.pools.get kind).deliver? y = some (e, p)) :
      Step g .other ((g.updatePool t kind fun _ => p).follow t e)
  | shut {g : Gateway} {t : Nat} {x : Tenant} (kind : PoolKind) (hkept : t ∈ g.kept)
      (hx : g.tenants[t]? = some x) : Step g .other (g.updatePool t kind Pool.shutDown)
  | clear {g : Gateway} {t : Nat} {x : Tenant} {kind : HandlerKind} (hkept : t ∈ g.kept)
      (hx : g.tenants[t]? = some x) (hfree : .slot kind ∉ x.locked) :
      Step g (.cleared t kind)
        ((g.update t fun x =>
          { x with slots := x.slots.set kind (x.slots.get kind).clear }).reclaim t)
  /-- A tenant is taken out of the registry, to be shut down. -/
  | remove {g : Gateway} {t : Nat} (hregistered : t ∈ g.registered) :
      Step g .other
        { g with registered := g.registered.erase t, kept := t :: g.kept }
  | letGo {g : Gateway} {t : Nat} (hkept : t ∈ g.kept) :
      Step g .other ({ g with kept := g.kept.erase t }.dropUnused t)

/-- What happens one after the other, the earliest first. -/
inductive Runs (start : Gateway) : List Deed → Gateway → Prop where
  | start : Runs start [] start
  | step {log : List Deed} {d : Deed} {g g' : Gateway} (hruns : Runs start log g)
      (hstep : Step g d g') : Runs start (log ++ [d]) g'

-- ========================================================= runs to be computed

/-- Whose turn it is. A worker's turn is the next thing that it does about its
item. -/
inductive Turn where
  | resolve (who : Credentials)
  | accept (t : Nat) (r : Request)
  | queue (t : Nat) (r : Request)
  | take (t : Nat) (kind : PoolKind)
  | work (o : Post)
  | shut (t : Nat) (kind : PoolKind)
  | clear (t : Nat) (kind : HandlerKind)

/-- What a worker does next about its item. -/
def work? (g : Gateway) (o : Post) (x : Tenant) (y : Taken Work Response) :
    Option (Deed × Gateway) :=
  match y.stage with
  | .running ⟨.call c next, gate⟩ =>
      match g.perform o.tenant x gate c with
      | .answered a g =>
          some (.called o c a,
            g.updatePool o.tenant o.kind fun p => p.resume o.ticket ⟨next a, none⟩)
      | .waits gate g =>
          some (.other,
            g.updatePool o.tenant o.kind fun p => p.resume o.ticket ⟨.call c next, gate⟩)
  | .running ⟨.done answer, _⟩ =>
      if o.tenant ∈ g.kept then
        some (.other, g.updatePool o.tenant o.kind fun p => p.finish o.ticket answer)
      else none
  | _ =>
      (((x.pools.get o.kind).release? y).or ((x.pools.get o.kind).deliver? y)).map fun (e, p) =>
        (.other, (g.updatePool o.tenant o.kind fun _ => p).follow o.tenant e)

/-- What happens when it is somebody's turn, in a gateway whose tenants are
kept. -/
def turn? (g : Gateway) : Turn → Option (Deed × Gateway)
  | .resolve who =>
      match g.resolve who with
      | (.ok t, g) => some (.other, { g with kept := t :: g.kept })
      | (.error _, g) => some (.other, g)
  | .accept t r =>
      match g.accept t r with
      | .ok g' => if t ∈ g.kept then some (.other, g') else none
      | .error _ => none
  | .queue t r => do
      let x ← g.tenants[t]?
      if t ∈ g.kept ∧ (x.pools.get r.pool).hasRoom = true then
        some (.other,
          { g.updatePool t r.pool fun p =>
              p.enqueue ⟨g.tickets + 1, r.payload, g.program x r⟩ with
            tickets := g.tickets + 1 })
      else none
  | .take t kind => do
      let x ← g.tenants[t]?
      let p ← (x.pools.get kind).take?
      some (.other, g.updatePool t kind fun _ => p)
  | .work o => do
      let x ← g.tenants[o.tenant]?
      let y ← (x.pools.get o.kind).taken.find? fun y => y.ticket == o.ticket
      g.work? o x y
  | .shut t kind => do
      let _ ← g.tenants[t]?
      if t ∈ g.kept then some (.other, g.updatePool t kind Pool.shutDown) else none
  | .clear t kind => do
      let x ← g.tenants[t]?
      if t ∈ g.kept ∧ .slot kind ∉ x.locked then
        some (.cleared t kind,
          (g.update t fun x =>
            { x with slots := x.slots.set kind (x.slots.get kind).clear }).reclaim t)
      else none

/-- What happens in a number of turns. -/
def play? (g : Gateway) : List Turn → Option (List Deed × Gateway)
  | [] => some ([], g)
  | turn :: turns => do
      let (d, g) ← g.turn? turn
      let (log, g) ← g.play? turns
      return (d :: log, g)

theorem step_of_work? {g g' : Gateway} {o : Post} {x : Tenant} {y : Taken Work Response}
    {d : Deed} (hx : g.tenants[o.tenant]? = some x) (hy : y ∈ (x.pools.get o.kind).taken)
    (hticket : y.ticket = o.ticket) (h : g.work? o x y = some (d, g')) : Step g d g' := by
  unfold work? at h
  split at h
  next hstage =>
    split at h
    next hperform =>
      cases h
      exact .call hx ⟨x, hx, y, hy, hticket, hstage⟩ hperform
    next hperform =>
      cases h
      exact .wait hx ⟨x, hx, y, hy, hticket, hstage⟩ hperform
  next answer gate hstage =>
    split at h
    next hkept =>
      cases h
      have hfinish : Step g .other _ := .finish ⟨x, hx, y, hy, hticket, hstage⟩
      unfold dropUnused at hfinish
      rw [if_pos (.inr (.inl hkept))] at hfinish
      exact hfinish
    · cases h
  next =>
    obtain ⟨⟨e, p⟩, hserve, h⟩ := Option.map_eq_some_iff.1 h
    cases h
    rw [Option.or_eq_some_iff] at hserve
    exact .serve hx hy (hserve.imp_right And.right)

theorem step_of_turn? {g g' : Gateway} {turn : Turn} {d : Deed}
    (h : g.turn? turn = some (d, g')) : Step g d g' := by
  unfold turn? at h
  split at h
  · split at h
    next hresolve =>
      cases h
      exact .resolve hresolve
    next hresolve =>
      cases h
      exact .resolveFails hresolve
  · split at h
    next haccept =>
      split at h
      next hkept =>
        cases h
        exact .accept hkept haccept
      · cases h
    · cases h
  · obtain ⟨x, hx, h⟩ := Option.bind_eq_some_iff.1 h
    split at h
    next hmay =>
      cases h
      exact .queue hmay.1 hx hmay.2
    · cases h
  · obtain ⟨x, hx, h⟩ := Option.bind_eq_some_iff.1 h
    obtain ⟨p, htake, h⟩ := Option.bind_eq_some_iff.1 h
    cases h
    exact .take hx htake
  · obtain ⟨x, hx, h⟩ := Option.bind_eq_some_iff.1 h
    obtain ⟨y, hfind, h⟩ := Option.bind_eq_some_iff.1 h
    have hticket := List.find?_some hfind
    exact step_of_work? hx (List.mem_of_find?_eq_some hfind) (beq_iff_eq.1 hticket) h
  · obtain ⟨x, hx, h⟩ := Option.bind_eq_some_iff.1 h
    split at h
    next hkept =>
      cases h
      exact .shut _ hkept hx
    · cases h
  · obtain ⟨x, hx, h⟩ := Option.bind_eq_some_iff.1 h
    split at h
    next hmay =>
      cases h
      exact .clear hmay.1 hx hmay.2
    · cases h

theorem runs_of_play? {start g g' : Gateway} {turns : List Turn} {before log : List Deed}
    (hruns : start.Runs before g) (h : g.play? turns = some (log, g')) :
    start.Runs (before ++ log) g' := by
  induction turns generalizing g before log with
  | nil =>
      cases h
      rw [List.append_nil]
      exact hruns
  | cons turn turns ih =>
      unfold play? at h
      obtain ⟨⟨d, g₁⟩, hturn, h⟩ := Option.bind_eq_some_iff.1 h
      obtain ⟨⟨later, g₂⟩, hplay, h⟩ := Option.bind_eq_some_iff.1 h
      cases h
      rw [List.append_cons]
      exact ih (hruns.step (step_of_turn? hturn)) hplay

/-- Turns that can all be taken make a run. -/
theorem runs_played (start : Gateway) (turns : List Turn)
    (h : (start.play? turns).isSome = true) :
    start.Runs ((start.play? turns).get h).1 ((start.play? turns).get h).2 :=
  runs_of_play? .start (Option.some_get h).symm

theorem eq_zero_of_mem_counts {counts : List Nat} (h : counts.foldr (· + ·) 0 = 0) :
    ∀ n ∈ counts, n = 0 := by
  induction counts with
  | nil => exact nofun
  | cons n ns ih =>
      have hsplit : n = 0 ∧ ns.foldr (· + ·) 0 = 0 := Nat.add_eq_zero_iff.1 h
      intro m hm
      rcases List.mem_cons.1 hm with rfl | hm
      · exact hsplit.1
      · exact ih hsplit.2 m hm

/-- Where no item is pending, nobody is busy. -/
theorem not_busy_of_pending {g : Gateway} (h : g.pending = 0) (t : Nat) : ¬ g.Busy t := by
  rintro ⟨x, hx, kind, hwork⟩
  have hkind : kind ∈ PoolKind.all := by cases kind <;> decide
  have hcount : (x.pools.get kind).queue.length + (x.pools.get kind).taken.length = 0 := by
    apply eq_zero_of_mem_counts h
    refine List.mem_flatMap.2 ⟨x, List.mem_of_getElem? hx, List.mem_map.2 ?_⟩
    exact ⟨(kind, x.pools.get kind), List.mem_map_of_mem hkind, rfl⟩
  obtain ⟨hqueue, htaken⟩ := Nat.add_eq_zero_iff.1 hcount
  rcases hwork with hwork | ⟨y, hy, -⟩
  · exact hwork (List.length_eq_zero_iff.1 hqueue)
  · rw [List.length_eq_zero_iff.1 htaken] at hy
    cases hy

end Gateway

end CheckGateway
