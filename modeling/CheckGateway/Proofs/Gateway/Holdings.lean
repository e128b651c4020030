/-
Who has what: the sessions of the remote system, and the locks, slots and
system handlers of the tenants, against the hands of the jobs.

Every connected session has one owner, a job that has it in its hands or a
system handler that has lent it to nobody (`Holds`). A tenant backs what its
jobs have in their hands: their locks are taken and are nobody else's, their
holds are counted, and what they have seen in the system slot is still there
(`Backs`). A system handler has a session exactly as long as a job holds it
or its slot knows it (`Balanced`).

# What is shown here

`Holds.locally` and `Holds.congr`: what happens at one tenant, or at none,
leaves the other books as they are. `Holds.reclaimed`: once the sessions that
some tenants have left to nobody have been disconnected, the books balance. How
they follow what the jobs do comes after, in `Calls` and `Systems`.
-/
import CheckGateway.Proofs.Gateway.Grip
import CheckGateway.Proofs.Gateway.Operations
import CheckGateway.Proofs.Gateway.Steps
import Mathlib.Data.List.Nodup
import Mathlib.Logic.Function.Basic

namespace CheckGateway.Gateway

open Job (Grip)

/-- What each job has in its hands; nothing, where no job is. -/
abbrev Hands := Post → Grip

/-- Who has a session. -/
inductive Owner where
  | hand (o : Post)
  | handler (t h : Nat)

/-- The tenant that a session's owner belongs to. -/
def Owner.tenant : Owner → Nat
  | .hand o => o.tenant
  | .handler t _ => t

-- ========================================================= holds on handlers

/-- A number of a tenant's jobs hold a system handler. -/
def Held (hands : Hands) (t h n : Nat) : Prop :=
  ∃ os : List Post, os.Nodup ∧ (∀ o, o ∈ os ↔ o.tenant = t ∧ h ∈ (hands o).handlers)
    ∧ n = os.length

section

variable {hands hands' : Hands} {t h n : Nat} {o : Post} {G : Grip}

/-- How often a handler is held is in the hands of its tenant's jobs. -/
theorem Held.congr (hheld : Held hands t h n)
    (heq : ∀ o, o.tenant = t → (h ∈ (hands' o).handlers ↔ h ∈ (hands o).handlers)) :
    Held hands' t h n := by
  obtain ⟨os, hnodup, hos, hn⟩ := hheld
  refine ⟨os, hnodup, fun o => (hos o).trans ?_, hn⟩
  exact and_congr_right fun ho => (heq o ho).symm

/-- A handler in somebody's hands is held. -/
theorem Held.pos (hheld : Held hands t h n) (ho : o.tenant = t)
    (hmem : h ∈ (hands o).handlers) : 0 < n := by
  obtain ⟨os, -, hos, rfl⟩ := hheld
  exact List.length_pos_of_mem ((hos o).2 ⟨ho, hmem⟩)

/-- One more job takes hold of the handler. -/
theorem Held.add (hheld : Held hands t h n) (ho : o.tenant = t)
    (hfree : h ∉ (hands o).handlers) (hG : h ∈ G.handlers) :
    Held (Function.update hands o G) t h (n + 1) := by
  obtain ⟨os, hnodup, hos, rfl⟩ := hheld
  refine ⟨o :: os, List.nodup_cons.2 ⟨fun hmem => hfree ((hos o).1 hmem).2, hnodup⟩,
    fun o' => ?_, rfl⟩
  rcases eq_or_ne o' o with rfl | hne
  · rw [Function.update_self]
    exact iff_of_true List.mem_cons_self ⟨ho, hG⟩
  · rw [Function.update_of_ne hne, List.mem_cons, or_iff_right hne]
    exact hos o'

/-- One of the jobs lets go of the handler. -/
theorem Held.remove (hheld : Held hands t h n) (ho : o.tenant = t)
    (hmem : h ∈ (hands o).handlers) (hG : h ∉ G.handlers) :
    Held (Function.update hands o G) t h (n - 1) := by
  obtain ⟨os, hnodup, hos, rfl⟩ := hheld
  refine ⟨os.erase o, hnodup.erase o, fun o' => ?_,
    (List.length_erase_of_mem ((hos o).2 ⟨ho, hmem⟩)).symm⟩
  rw [List.Nodup.mem_erase_iff hnodup]
  rcases eq_or_ne o' o with rfl | hne
  · rw [Function.update_self]
    exact iff_of_false (fun h => h.1 rfl) fun h => hG h.2
  · rw [Function.update_of_ne hne, and_iff_right hne]
    exact hos o'

end

-- ===================================================== what a tenant backs

/-- A grip fits what its job's tenant has. -/
structure Fits (x : Tenant) (G : Grip) : Prop where
  locked : ∀ lock ∈ G.locks, lock ∈ x.locked
  /-- Nobody has the lock of a poisoned slot. -/
  unpoisoned : .slot .system ∈ G.locks → x.slots.system.poisoned = false
  viewed : ∀ v, G.view = some v → .slot .system ∈ G.locks ∧ x.slots.system.handler = v
  lent : ∀ h s, G.borrowed = some (h, s) → .systemSession h ∈ G.locks
    ∧ h ∈ G.handlers ∧ ∃ y, x.systems[h]? = some y ∧ y.session = some s
  known : ∀ h ∈ G.handlers, h < x.systems.length

/-- A tenant backs the hands of its jobs. -/
structure Backs (hands : Hands) (t : Nat) (x : Tenant) : Prop where
  fits : ∀ o, o.tenant = t → Fits x (hands o)
  exclusive : ∀ o o', o.tenant = t → o'.tenant = t → ∀ lock ∈ (hands o).locks,
    lock ∈ (hands o').locks → o = o'
  used : ∀ h y, x.systems[h]? = some y → Held hands t h y.users
  filled : ∀ h, x.slots.system.handler = some h → h < x.systems.length
  poisoned : x.slots.system.poisoned = true → x.slots.system.handler = none
  /-- A handler that is known or held has a session. -/
  alive : ∀ h y, x.systems[h]? = some y → x.isDropped h y = false →
    y.session.isSome = true

/-- No handler that was dropped is left with a session. -/
def Tidy (x : Tenant) : Prop :=
  ∀ h y, x.systems[h]? = some y → y.session.isSome = true → x.isDropped h y = false

/-- What a tenant has that its jobs take hold of. -/
def holdings (x : Tenant) : Slot Nat × List SystemHandler × List Lock :=
  (x.slots.system, x.systems, x.locked)

section

variable {hands hands' : Hands} {t : Nat} {x x' : Tenant} {o : Post} {G G' : Grip}

/-- What a tenant keeps is its system slot, its system handlers and the locks that are
taken. -/
theorem holdings_eq_iff : holdings x' = holdings x ↔
    x'.slots.system = x.slots.system ∧ x'.systems = x.systems ∧ x'.locked = x.locked := by
  unfold holdings
  rw [Prod.mk.injEq, Prod.mk.injEq]

theorem isDropped_congr (hx : x'.slots.system = x.slots.system) (h : Nat)
    (y : SystemHandler) : x'.isDropped h y = x.isDropped h y := by
  unfold Tenant.isDropped
  rw [hx]

theorem Fits.congr (hfits : Fits x G) (hx : holdings x' = holdings x) : Fits x' G := by
  obtain ⟨hslot, hsystems, hlocked⟩ := holdings_eq_iff.1 hx
  obtain ⟨locked, unpoisoned, viewed, lent, known⟩ := hfits
  refine ⟨?_, ?_, ?_, ?_, ?_⟩
  · rwa [hlocked]
  · rwa [hslot]
  · rwa [hslot]
  · rwa [hsystems]
  · rwa [hsystems]

/-- A tenant that has the same backs the same hands. -/
theorem Backs.congr (hbacks : Backs hands t x) (hx : holdings x' = holdings x) :
    Backs hands t x' := by
  have hfits (o : Post) (ho : o.tenant = t) : Fits x' (hands o) :=
    (hbacks.fits o ho).congr hx
  obtain ⟨hslot, hsystems, hlocked⟩ := holdings_eq_iff.1 hx
  refine ⟨hfits, hbacks.exclusive, ?_, ?_, ?_, fun h y hy hknown => ?_⟩
  · rw [hsystems]
    exact hbacks.used
  · rw [hslot, hsystems]
    exact hbacks.filled
  · rw [hslot]
    exact hbacks.poisoned
  · rw [hsystems] at hy
    rw [isDropped_congr hslot] at hknown
    exact hbacks.alive h y hy hknown

theorem Tidy.congr (htidy : Tidy x) (hx : holdings x' = holdings x) : Tidy x' := by
  obtain ⟨hslot, hsystems, -⟩ := holdings_eq_iff.1 hx
  intro h y hy hsession
  rw [hsystems] at hy
  rw [isDropped_congr hslot]
  exact htidy h y hy hsession

/-- A tenant whose slots know no system handler and whose jobs hold none. -/
theorem backs_new {x : Tenant} (hslot : x.slots.system.handler = none)
    (hsystems : x.systems = []) (hhands : ∀ o, o.tenant = t → hands o = {}) :
    Backs hands t x := by
  have hnone {h : Nat} {y : SystemHandler} (hy : x.systems[h]? = some y) : False := by
    rw [hsystems] at hy
    cases hy
  refine ⟨fun o ho => ?_, fun o o' ho _ lock hlock => ?_, fun h y hy => (hnone hy).elim,
    fun h hh => ?_, fun _ => hslot, fun h y hy => (hnone hy).elim⟩
  · rw [hhands o ho]
    exact ⟨nofun, nofun, nofun, nofun, nofun⟩
  · rw [hhands o ho] at hlock
    cases hlock
  · rw [hslot] at hh
    cases hh

/-- Where only sessions change hands, a tenant backs the hands as before. -/
theorem Backs.congr_hands (hbacks : Backs hands t x)
    (hlocks : ∀ o, (hands' o).locks = (hands o).locks)
    (hhandlers : ∀ o, (hands' o).handlers = (hands o).handlers)
    (hborrowed : ∀ o, (hands' o).borrowed = (hands o).borrowed)
    (hview : ∀ o, (hands' o).view = (hands o).view) : Backs hands' t x := by
  refine ⟨fun o ho => ?_, fun o o' ho ho' lock hlock hlock' => ?_, fun h y hy => ?_,
    hbacks.filled, hbacks.poisoned, hbacks.alive⟩
  · obtain ⟨locked, unpoisoned, viewed, lent, known⟩ := hbacks.fits o ho
    refine ⟨?_, ?_, ?_, ?_, ?_⟩
    · rwa [hlocks]
    · rwa [hlocks]
    · rwa [hlocks, hview]
    · rwa [hlocks, hhandlers, hborrowed]
    · rwa [hhandlers]
  · rw [hlocks] at hlock hlock'
    exact hbacks.exclusive o o' ho ho' lock hlock hlock'
  · exact (hbacks.used h y hy).congr fun o _ => by rw [hhandlers]

theorem Backs.elsewhere (hbacks : Backs hands t x)
    (hagree : ∀ o, o.tenant = t → hands' o = hands o) : Backs hands' t x := by
  refine ⟨fun o ho => ?_, fun o o' ho ho' lock hlock hlock' => ?_, fun h y hy => ?_,
    hbacks.filled, hbacks.poisoned, hbacks.alive⟩
  · rw [hagree o ho]
    exact hbacks.fits o ho
  · rw [hagree o ho] at hlock
    rw [hagree o' ho'] at hlock'
    exact hbacks.exclusive o o' ho ho' lock hlock hlock'
  · exact (hbacks.used h y hy).congr fun o ho => by rw [hagree o ho]

end

-- ============================================================== the books

/-- A system handler of a tenant has a session and has not lent it. -/
def Retains (hands : Hands) (t : Nat) (x : Tenant) (h s : Nat) : Prop :=
  (∃ y, x.systems[h]? = some y ∧ y.session = some s)
    ∧ ∀ o, o.tenant = t → ∀ s', (hands o).borrowed ≠ some (h, s')

/-- Everything that jobs and handlers have is accounted for. -/
structure Holds (g : Gateway) (hands : Hands) (owner : Nat → Option Owner) : Prop where
  orderly : g.remote.Orderly
  backs : ∀ (t : Nat) (x : Tenant), g.tenants[t]? = some x → Backs hands t x
  connected : ∀ s, s ∈ g.remote.connected ↔ (owner s).isSome = true
  hand : ∀ o s, s ∈ (hands o).sessions ↔ owner s = some (.hand o)
  handler : ∀ t h s : Nat, owner s = some (.handler t h) ↔
    ∃ x, g.tenants[t]? = some x ∧ Retains hands t x h s

/-- And no dropped handler has a session. -/
structure Balanced (g : Gateway) (hands : Hands) (owner : Nat → Option Owner) : Prop
    extends Holds g hands owner where
  tidy : ∀ (t : Nat) (x : Tenant), g.tenants[t]? = some x → Tidy x

section

variable {g g' : Gateway} {hands hands' : Hands} {owner owner' : Nat → Option Owner}
  {t : Nat} {x x' : Tenant} {o : Post} {s : Nat}

theorem Retains.congr {h : Nat} (hretains : Retains hands t x h s)
    (hsystems : x'.systems = x.systems)
    (hborrowed : ∀ o, o.tenant = t → (hands' o).borrowed = (hands o).borrowed) :
    Retains hands' t x' h s := by
  obtain ⟨hsession, hfree⟩ := hretains
  refine ⟨?_, fun o ho => ?_⟩
  · rwa [hsystems]
  · rw [hborrowed o ho]
    exact hfree o ho

theorem retains_congr {h : Nat} (hsystems : x'.systems = x.systems)
    (hborrowed : ∀ o, o.tenant = t → (hands' o).borrowed = (hands o).borrowed) :
    Retains hands' t x' h s ↔ Retains hands t x h s :=
  ⟨fun hr => hr.congr hsystems.symm fun o ho => (hborrowed o ho).symm,
    fun hr => hr.congr hsystems hborrowed⟩

/-- A session in a job's hands is connected. -/
theorem Holds.connected_of_hand (H : Holds g hands owner) (hs : s ∈ (hands o).sessions) :
    s ∈ g.remote.connected := by
  rw [H.connected, (H.hand o s).1 hs]
  rfl

/-- The books of a tenant that is looked at. -/
theorem Holds.retains (H : Holds g hands owner) (hx : g.tenants[t]? = some x) {h : Nat} :
    owner s = some (.handler t h) ↔ Retains hands t x h s := by
  rw [H.handler]
  constructor
  · rintro ⟨y, hy, hretains⟩
    rw [hx] at hy
    exact Option.some.inj hy ▸ hretains
  · exact fun hretains => ⟨x, hx, hretains⟩

/-- Nobody has a session that is not connected. -/
theorem Holds.owner_eq_none (H : Holds g hands owner) (hs : s ∉ g.remote.connected) :
    owner s = none := by
  rw [H.connected, Bool.not_eq_true, Option.isSome_eq_false_iff, Option.isNone_iff_eq_none] at hs
  exact hs

/-- What happens at one tenant leaves the books of the others alone. -/
theorem Holds.locally (H : Holds g hands owner) (hx : g.tenants[t]? = some x)
    (htenants : ∀ t' : Nat, g'.tenants[t']? = if t' = t then some x' else g.tenants[t']?)
    (horderly : g'.remote.Orderly) (hbacks : Backs hands' t x')
    (hagree : ∀ o, o.tenant ≠ t → hands' o = hands o)
    (hconnected : ∀ s, s ∈ g'.remote.connected ↔ (owner' s).isSome = true)
    (hhand : ∀ o s, s ∈ (hands' o).sessions ↔ owner' s = some (.hand o))
    (hretains : ∀ h s, owner' s = some (.handler t h) ↔ Retains hands' t x' h s)
    (hothers : ∀ t' h s, t' ≠ t →
      (owner' s = some (.handler t' h) ↔ owner s = some (.handler t' h))) :
    Holds g' hands' owner' := by
  refine ⟨horderly, fun t' y hy => ?_, hconnected, hhand, fun t' h s => ?_⟩
  · rw [htenants] at hy
    split at hy
    next heq =>
      cases hy
      exact heq ▸ hbacks
    next hne => exact (H.backs t' y hy).elsewhere fun o ho => hagree o (ho ▸ hne)
  · -- the handlers of the tenant itself, and those of any other
    rw [htenants]
    split
    next heq =>
      subst heq
      rw [hretains]
      constructor
      · exact fun hr => ⟨x', rfl, hr⟩
      · rintro ⟨y, hy, hr⟩
        exact Option.some.inj hy ▸ hr
    next hne =>
      rw [hothers t' h s hne, H.handler]
      refine exists_congr fun y => and_congr_right fun hy => ?_
      exact retains_congr rfl fun o ho => by rw [hagree o (ho ▸ hne)]

/-- Where nothing changes hands and no tenant has anything else. -/
theorem Holds.congr (H : Holds g hands owner) (horderly : g'.remote.Orderly)
    (hconnected : g'.remote.connected = g.remote.connected)
    (hholdings : ∀ t : Nat, g'.tenants[t]?.map holdings = g.tenants[t]?.map holdings) :
    Holds g' hands owner := by
  have hsame {t : Nat} {x' : Tenant} (hx' : g'.tenants[t]? = some x') :
      ∃ x, g.tenants[t]? = some x ∧ holdings x' = holdings x := by
    have heq := hholdings t
    rw [hx'] at heq
    obtain ⟨x, hx, hxx'⟩ := Option.map_eq_some_iff.1 heq.symm
    exact ⟨x, hx, hxx'.symm⟩
  have hback {t : Nat} {x : Tenant} (hx : g.tenants[t]? = some x) :
      ∃ x', g'.tenants[t]? = some x' ∧ holdings x' = holdings x := by
    have heq := hholdings t
    rw [hx] at heq
    exact Option.map_eq_some_iff.1 heq
  refine ⟨horderly, fun t x' hx' => ?_, fun s => ?_, H.hand, fun t h s => ?_⟩
  · obtain ⟨x, hx, heq⟩ := hsame hx'
    exact (H.backs t x hx).congr heq
  · rw [hconnected]
    exact H.connected s
  · rw [H.handler]
    constructor
    · rintro ⟨x, hx, hretains⟩
      obtain ⟨x', hx', heq⟩ := hback hx
      exact ⟨x', hx', hretains.congr (holdings_eq_iff.1 heq).2.1 fun _ _ => rfl⟩
    · rintro ⟨x', hx', hretains⟩
      obtain ⟨x, hx, heq⟩ := hsame hx'
      exact ⟨x, hx, hretains.congr (holdings_eq_iff.1 heq).2.1.symm fun _ _ => rfl⟩

/-- Where nothing changes hands, and what a tenant has elsewhere still backs
its jobs. -/
theorem Holds.altered (H : Holds g hands owner) (hremote : g'.remote = g.remote)
    {f : Nat → Tenant → Tenant}
    (htenants : ∀ t : Nat, g'.tenants[t]? = g.tenants[t]?.map (f t))
    (hf : ∀ (t : Nat) (x : Tenant), g.tenants[t]? = some x →
      (f t x).systems = x.systems ∧ Backs hands t (f t x)) : Holds g' hands owner := by
  refine ⟨hremote ▸ H.orderly, fun t x' hx' => ?_, hremote ▸ H.connected, H.hand,
    fun t h s => ?_⟩
  · rw [htenants] at hx'
    obtain ⟨x, hx, heq⟩ := Option.map_eq_some_iff.1 hx'
    subst heq
    exact (hf t x hx).2
  · rw [H.handler, htenants]
    cases hx : g.tenants[t]? with
    | none => simp
    | some x =>
        rw [Option.map_some]
        constructor
        · rintro ⟨y, hy, hretains⟩
          cases hy
          exact ⟨_, rfl, hretains.congr (hf t x hx).1 fun _ _ => rfl⟩
        · rintro ⟨y, hy, hretains⟩
          cases hy
          exact ⟨_, rfl, hretains.congr (hf t x hx).1.symm fun _ _ => rfl⟩

/-- The other tenants stay as tidy as they were. -/
theorem tidy_locally
    (htidy : ∀ (t' : Nat) (y : Tenant), t' ≠ t → g.tenants[t']? = some y → Tidy y)
    (htenants : ∀ t' : Nat, g'.tenants[t']? = if t' = t then some x' else g.tenants[t']?)
    (hx' : Tidy x') : ∀ (t' : Nat) (y : Tenant), g'.tenants[t']? = some y → Tidy y := by
  intro t' y hy
  rw [htenants] at hy
  split at hy
  next => exact Option.some.inj hy ▸ hx'
  next hne => exact htidy t' y hne hy

/-- All tenants stay tidy if the one that changes does. -/
theorem Balanced.still_tidy (H : Balanced g hands owner)
    (htenants : ∀ t' : Nat, g'.tenants[t']? = if t' = t then some x' else g.tenants[t']?)
    (hx' : Tidy x') : ∀ (t' : Nat) (y : Tenant), g'.tenants[t']? = some y → Tidy y :=
  tidy_locally (fun t' y _ hy => H.tidy t' y hy) htenants hx'

theorem tenants_update {f : Tenant → Tenant} (hx : g.tenants[t]? = some x) (t' : Nat) :
    (g.update t f).tenants[t']? = if t' = t then some (f x) else g.tenants[t']? := by
  rw [getElem?_update]
  by_cases heq : t' = t
  · subst heq
    rw [hx, Option.map_some, if_pos rfl, if_pos rfl]
  · rw [if_neg heq]
    have hid : (fun y => if t = t' then f y else y) = id :=
      funext fun y => if_neg fun h => heq h.symm
    rw [hid, Option.map_id, id]

-- ================================================================ reclaiming

theorem tenants_reclaim (hx : g.tenants[t]? = some x) :
    (g.reclaim t).tenants[t]? = some x.disown := by
  unfold reclaim
  rw [hx]
  show (g.update t Tenant.disown).tenants[t]? = _
  rw [tenants_update hx, if_pos rfl]

/-- Giving up sessions takes them from handlers that are dropped, and leaves the others.
-/
theorem mem_disown {h : Nat} {y : SystemHandler} :
    x.disown.systems[h]? = some y ↔ ∃ y', x.systems[h]? = some y'
      ∧ y = if x.isDropped h y' then { y' with session := none } else y' := by
  unfold Tenant.disown
  rw [List.getElem?_map, List.getElem?_zipIdx, Option.map_map, Option.map_eq_some_iff]
  refine exists_congr fun y' => and_congr_right fun _ => ?_
  rw [Function.comp_apply, Nat.zero_add]
  exact eq_comm

/-- A session is an orphan if its handler is dropped. -/
theorem mem_orphans : s ∈ x.orphans ↔
    ∃ h y, x.systems[h]? = some y ∧ x.isDropped h y = true ∧ y.session = some s := by
  unfold Tenant.orphans
  rw [List.mem_filterMap]
  constructor
  · rintro ⟨⟨y, h⟩, hmem, hs⟩
    obtain ⟨hmem, hdropped⟩ := List.mem_filter.1 hmem
    rw [List.mem_zipIdx_iff_getElem?] at hmem
    exact ⟨h, y, hmem, hdropped, hs⟩
  · rintro ⟨h, y, hy, hdropped, hs⟩
    exact ⟨(y, h), List.mem_filter.2 ⟨List.mem_zipIdx_iff_getElem?.2 hy, hdropped⟩, hs⟩

/-- A handler is dropped when nobody uses it and it is in no slot. -/
theorem isDropped_iff {h : Nat} {y : SystemHandler} :
    x.isDropped h y = true ↔ y.users = 0 ∧ x.slots.system.get? ≠ some h := by
  unfold Tenant.isDropped
  rw [Bool.and_eq_true, beq_iff_eq, bne_iff_ne]

theorem not_dropped_of_users {h : Nat} {y : SystemHandler} (husers : y.users ≠ 0) :
    x.isDropped h y = false := by
  rw [← Bool.not_eq_true, isDropped_iff]
  exact fun hdropped => husers hdropped.1

/-- A handler that is not dropped although the slot is empty is in use. -/
theorem users_of_not_dropped {h : Nat} {y : SystemHandler} (hknown : x.isDropped h y = false)
    (hempty : x.slots.system.get? = none) : y.users ≠ 0 := by
  rw [← Bool.not_eq_true, isDropped_iff, hempty] at hknown
  exact fun husers => hknown ⟨husers, (Option.some_ne_none h).symm⟩

/-- No job holds a handler that is dropped. -/
theorem Backs.not_held (hbacks : Backs hands t x) {h : Nat} {y : SystemHandler}
    (hy : x.systems[h]? = some y) (hdropped : x.isDropped h y = true)
    (ho : o.tenant = t) : h ∉ (hands o).handlers := by
  intro hmem
  have hpos := (hbacks.used h y hy).pos ho hmem
  rw [(isDropped_iff.1 hdropped).1] at hpos
  exact Nat.lt_irrefl 0 hpos

/-- A dropped handler has lent its session to nobody. -/
theorem Backs.retains_of_dropped (hbacks : Backs hands t x) {h : Nat} {y : SystemHandler}
    (hy : x.systems[h]? = some y) (hdropped : x.isDropped h y = true)
    (hs : y.session = some s) : Retains hands t x h s := by
  refine ⟨⟨y, hy, hs⟩, fun o ho s' hborrowed => ?_⟩
  exact hbacks.not_held hy hdropped ho ((hbacks.fits o ho).lent h s' hborrowed).2.1

/-- Nothing that jobs have in their hands is given up. -/
theorem Backs.disown (hbacks : Backs hands t x) : Backs hands t x.disown := by
  have hlength : x.disown.systems.length = x.systems.length := by
    unfold Tenant.disown
    rw [List.length_map, List.length_zipIdx]
  refine ⟨fun o ho => ?_, hbacks.exclusive, fun h y hy => ?_, ?_, hbacks.poisoned,
    fun h y hy hknown => ?_⟩
  · obtain ⟨locked, unpoisoned, viewed, lent, known⟩ := hbacks.fits o ho
    refine ⟨locked, unpoisoned, viewed, fun h s hborrowed => ?_, ?_⟩
    · obtain ⟨hlock, hheld, y, hy, hs⟩ := lent h s hborrowed
      refine ⟨hlock, hheld, y, mem_disown.2 ⟨y, hy, (if_neg fun hdropped => ?_).symm⟩, hs⟩
      exact hbacks.not_held hy hdropped ho hheld
    · rw [hlength]
      exact known
  · obtain ⟨y', hy', rfl⟩ := mem_disown.1 hy
    have husers : (if x.isDropped h y' then { y' with session := none } else y').users
        = y'.users := by split <;> rfl
    rw [husers]
    exact hbacks.used h y' hy'
  · rw [hlength]
    exact hbacks.filled
  · obtain ⟨y', hy', rfl⟩ := mem_disown.1 hy
    cases hdropped : x.isDropped h y' with
    | true =>
        rw [hdropped, if_pos rfl] at hknown
        have hstill : x.isDropped h y' = false := hknown
        rw [hdropped] at hstill
        cases hstill
    | false => exact hbacks.alive h y' hy' hdropped

/-- When it has given up its sessions a tenant is tidy. -/
theorem tidy_disown : Tidy x.disown := by
  intro h y hy hsession
  obtain ⟨y', hy', rfl⟩ := mem_disown.1 hy
  cases hdropped : x.isDropped h y' with
  | true =>
      rw [hdropped] at hsession
      cases hsession
  | false => exact hdropped

/-- A handler that is not dropped retains what it had. -/
theorem retains_disown {h : Nat} :
    Retains hands t x.disown h s ↔ Retains hands t x h s
      ∧ ∀ y, x.systems[h]? = some y → x.isDropped h y = false := by
  constructor
  · rintro ⟨⟨y, hy, hs⟩, hfree⟩
    obtain ⟨y', hy', rfl⟩ := mem_disown.1 hy
    cases hdropped : x.isDropped h y' with
    | true =>
        rw [hdropped] at hs
        cases hs
    | false =>
        rw [hdropped] at hs
        refine ⟨⟨⟨y', hy', hs⟩, hfree⟩, fun y hy => ?_⟩
        rw [hy'] at hy
        exact Option.some.inj hy ▸ hdropped
  · rintro ⟨⟨⟨y, hy, hs⟩, hfree⟩, hknown⟩
    refine ⟨⟨y, mem_disown.2 ⟨y, hy, ?_⟩, hs⟩, hfree⟩
    rw [hknown y hy]
    rfl

/-- The owners once some sessions are nobody's any more. -/
def disowned (owner : Nat → Option Owner) (ss : List Nat) (s : Nat) : Option Owner :=
  if s ∈ ss then none else owner s

theorem disowned_eq_some_iff {ss : List Nat} {w : Owner} :
    disowned owner ss s = some w ↔ s ∉ ss ∧ owner s = some w := by
  unfold disowned
  split
  next hs => exact iff_of_false nofun fun h => h.1 hs
  next hs => exact (and_iff_right hs).symm

/-- A session that is to be reclaimed is in the hands of no job. -/
theorem Holds.owner_of_orphan (H : Holds g hands owner) (hx : g.tenants[t]? = some x)
    (hs : s ∈ x.orphans) : ∃ h, owner s = some (.handler t h) := by
  obtain ⟨h, y, hy, hdropped, hs⟩ := mem_orphans.1 hs
  exact ⟨h, (H.retains hx).2 ((H.backs t x hx).retains_of_dropped hy hdropped hs)⟩

/-- No two dropped handlers have the same session. -/
theorem Holds.orphans_nodup (H : Holds g hands owner) (hx : g.tenants[t]? = some x) :
    x.orphans.Nodup := by
  have hbacks := H.backs t x hx
  have hindex : x.systems.zipIdx.Pairwise fun a b => a.2 ≠ b.2 := by
    rw [← List.pairwise_map, List.zipIdx_map_snd]
    exact List.nodup_range'
  unfold Tenant.orphans
  refine List.pairwise_filterMap.2 ((hindex.filter _).imp_of_mem ?_)
  rintro ⟨y, h⟩ ⟨y', h'⟩ hmem hmem' hne s hs s' hs' rfl
  obtain ⟨hmem, hdropped⟩ := List.mem_filter.1 hmem
  obtain ⟨hmem', hdropped'⟩ := List.mem_filter.1 hmem'
  rw [List.mem_zipIdx_iff_getElem?] at hmem hmem'
  -- the session has one owner, so the two handlers are one
  have howner := (H.retains hx).2 (hbacks.retains_of_dropped hmem hdropped hs)
  have howner' := (H.retains hx).2 (hbacks.retains_of_dropped hmem' hdropped' hs')
  rw [howner] at howner'
  cases howner'
  exact hne rfl

/-- What a handler retains is reclaimed if and only if the handler is
dropped. -/
theorem Holds.not_orphan_iff (H : Holds g hands owner) (hx : g.tenants[t]? = some x) {h : Nat}
    (hretains : Retains hands t x h s) :
    s ∉ x.orphans ↔ ∀ y, x.systems[h]? = some y → x.isDropped h y = false := by
  constructor
  · intro hs y hy
    rw [← Bool.not_eq_true]
    intro hdropped
    obtain ⟨⟨y', hy', hsession⟩, -⟩ := hretains
    rw [hy] at hy'
    cases hy'
    exact hs (mem_orphans.2 ⟨h, y, hy, hdropped, hsession⟩)
  · intro hknown hs
    obtain ⟨h', y, hy, hdropped, hs⟩ := mem_orphans.1 hs
    have howner := (H.retains hx).2 ((H.backs t x hx).retains_of_dropped hy hdropped hs)
    rw [(H.retains hx).2 hretains] at howner
    cases howner
    rw [hknown y hy] at hdropped
    cases hdropped

-- ----------------------------------------------------- of several tenants

/-- The sessions that are to be reclaimed of several tenants. -/
def leftovers (g : Gateway) (ts : List Nat) : List Nat :=
  ts.flatMap fun t => (g.tenants[t]?.map Tenant.orphans).getD []

variable {ts ss : List Nat}

theorem mem_leftovers : s ∈ g.leftovers ts ↔
    ∃ t ∈ ts, ∃ x, g.tenants[t]? = some x ∧ s ∈ x.orphans := by
  unfold leftovers
  rw [List.mem_flatMap]
  refine exists_congr fun t => and_congr_right fun _ => ?_
  cases hx : g.tenants[t]? with
  | none => simp
  | some x => simp

/-- What is left over belongs to a handler of the tenant. -/
theorem Holds.owner_of_leftover (H : Holds g hands owner) (hs : s ∈ g.leftovers ts) :
    ∃ t ∈ ts, ∃ h, owner s = some (.handler t h) := by
  obtain ⟨t, ht, x, hx, hs⟩ := mem_leftovers.1 hs
  exact ⟨t, ht, H.owner_of_orphan hx hs⟩

/-- The owner of a session tells which tenant has left it. -/
theorem Holds.mem_leftovers_iff (H : Holds g hands owner) (hx : g.tenants[t]? = some x) {h : Nat}
    (howner : owner s = some (.handler t h)) :
    s ∈ g.leftovers ts ↔ t ∈ ts ∧ s ∈ x.orphans := by
  rw [mem_leftovers]
  constructor
  · rintro ⟨t', ht', x', hx', hs⟩
    obtain ⟨h', howner'⟩ := H.owner_of_orphan hx' hs
    rw [howner] at howner'
    cases howner'
    rw [hx] at hx'
    cases hx'
    exact ⟨ht', hs⟩
  · exact fun ⟨ht, hs⟩ => ⟨t, ht, x, hx, hs⟩

/-- No session is left over twice. -/
theorem Holds.leftovers_nodup (H : Holds g hands owner) (hnodup : ts.Nodup) :
    (g.leftovers ts).Nodup := by
  unfold leftovers
  refine List.nodup_flatMap.2 ⟨fun t _ => ?_, hnodup.imp fun {t t'} hne s hs hs' => ?_⟩
  · cases hx : g.tenants[t]? with
    | none => exact .nil
    | some x => exact H.orphans_nodup hx
  · -- a session that two tenants have left would have two owners
    have hleft {t : Nat} (hs : s ∈ (g.tenants[t]?.map Tenant.orphans).getD []) :
        s ∈ g.leftovers [t] := by
      unfold leftovers
      simpa using hs
    obtain ⟨t₁, ht₁, h, howner⟩ := H.owner_of_leftover (hleft hs)
    obtain ⟨t₂, ht₂, h', howner'⟩ := H.owner_of_leftover (hleft hs')
    rw [howner] at howner'
    cases howner'
    exact hne ((List.mem_singleton.1 ht₁).symm.trans (List.mem_singleton.1 ht₂))

/-- Reclaiming what some tenants have left makes them tidy, in whatever order
the sessions are disconnected. -/
theorem Holds.reclaimed (H : Holds g hands owner) (hnodup : ts.Nodup)
    (hss : ss.Perm (g.leftovers ts))
    (htidy : ∀ t ∉ ts, ∀ y : Tenant, g.tenants[t]? = some y → Tidy y)
    (htenants : ∀ t : Nat,
      g'.tenants[t]? = g.tenants[t]?.map fun x => if t ∈ ts then x.disown else x)
    (hremote : g'.remote = ss.foldl ScriptedRemote.disconnect g.remote) :
    Balanced g' hands (disowned owner ss) := by
  have howner {s : Nat} (hs : s ∈ ss) : ∃ t ∈ ts, ∃ h, owner s = some (.handler t h) :=
    H.owner_of_leftover (hss.subset hs)
  obtain ⟨horderly, hleft⟩ := H.orderly.disconnectAll
    (hss.nodup_iff.2 (H.leftovers_nodup hnodup)) fun s hs => by
      obtain ⟨t, -, h, howner⟩ := howner hs
      rw [H.connected, howner]
      rfl
  rw [← hremote] at horderly hleft
  refine ⟨⟨horderly, fun t x' hx' => ?_, fun s => ?_, fun o s => ?_, fun t h s => ?_⟩,
    fun t x' hx' => ?_⟩
  · rw [htenants] at hx'
    obtain ⟨x, hx, rfl⟩ := Option.map_eq_some_iff.1 hx'
    split
    · exact (H.backs t x hx).disown
    · exact H.backs t x hx
  · rw [hleft, H.connected]
    unfold disowned
    split
    next hs => exact iff_of_false (fun h => h.2 hs) nofun
    next hs => exact and_iff_left hs
  · -- only handlers lose what they had
    rw [H.hand, disowned_eq_some_iff]
    refine (and_iff_right_of_imp fun hhand hs => ?_).symm
    obtain ⟨t, -, h, hhandler⟩ := howner hs
    rw [hhand] at hhandler
    cases hhandler
  · rw [disowned_eq_some_iff, hss.mem_iff, htenants]
    cases hx : g.tenants[t]? with
    | none =>
        refine iff_of_false (fun h' => ?_) (fun ⟨x', hx', _⟩ => nomatch hx')
        obtain ⟨x, hx', -⟩ := (H.handler t h s).1 h'.2
        rw [hx] at hx'
        cases hx'
    | some x =>
        rw [H.retains hx, Option.map_some]
        have hlost (hretains : Retains hands t x h s) :
            s ∈ g.leftovers ts ↔ t ∈ ts ∧ s ∈ x.orphans :=
          H.mem_leftovers_iff hx ((H.retains hx).2 hretains)
        constructor
        · intro ⟨hs, hretains⟩
          refine ⟨_, rfl, ?_⟩
          split
          next ht =>
            refine retains_disown.2 ⟨hretains, (H.not_orphan_iff hx hretains).1 fun hs' => ?_⟩
            exact hs ((hlost hretains).2 ⟨ht, hs'⟩)
          next => exact hretains
        · rintro ⟨x', hx', hretains⟩
          cases hx'
          split at hretains
          next ht =>
            obtain ⟨hretains, hknown⟩ := retains_disown.1 hretains
            refine ⟨fun hs => ?_, hretains⟩
            exact (H.not_orphan_iff hx hretains).2 hknown ((hlost hretains).1 hs).2
          next ht => exact ⟨fun hs => ht ((hlost hretains).1 hs).1, hretains⟩
  · rw [htenants] at hx'
    obtain ⟨x, hx, rfl⟩ := Option.map_eq_some_iff.1 hx'
    split
    next => exact tidy_disown
    next ht => exact htidy t ht x hx

/-- Reclaiming what a tenant has left makes it tidy. -/
theorem Holds.reclaim (H : Holds g hands owner) (hx : g.tenants[t]? = some x)
    (htidy : ∀ (t' : Nat) (y : Tenant), t' ≠ t → g.tenants[t']? = some y → Tidy y) :
    Balanced (g.reclaim t) hands (disowned owner x.orphans) := by
  have hg : g.reclaim t = (g.update t Tenant.disown).disconnect x.orphans := by
    unfold Gateway.reclaim
    rw [hx]
  have hleft : g.leftovers [t] = x.orphans := by
    unfold leftovers
    simp [hx]
  refine H.reclaimed (List.nodup_singleton t) (List.Perm.of_eq hleft.symm) ?_ ?_ ?_
  · intro t' ht' y hy
    exact htidy t' y (fun heq => ht' (heq ▸ List.mem_singleton_self t)) hy
  · intro t'
    rw [hg]
    show (g.update t Tenant.disown).tenants[t']? = _
    rw [getElem?_update]
    simp only [List.mem_singleton, eq_comm]
  · rw [hg]
    rfl

end

end CheckGateway.Gateway
