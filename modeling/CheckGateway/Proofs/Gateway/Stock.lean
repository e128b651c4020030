/-
What a tenant keeps between two requests, and what a request makes of it.

A tenant keeps caches and a system handler, each behind its slot and under a
lock of its own. A lock that a worker died with is poisoned, and nobody gets
it again. `Tenant.broken?` is the first such lock on the way to what is kept,
for each kind of handler. Whatever else happens to a tenant leaves it
`Undisturbed`: nothing more is broken, and no cache is fresher than it was. So
does a handler that is put into an empty slot (`Filled`).
-/
import CheckGateway.Proofs.Gateway.Outlook

namespace CheckGateway

open Job (isDeath)

-- ================================================ what a tenant keeps

/-- The lock of a handler, if it keeps anything. -/
def HandlerKind.guard? : HandlerKind → Nat → Option Lock
  | .jobs, h => some (.jobCache h)
  | .disks, h => some (.diskCache h)
  | .system, h => some (.systemSession h)
  | .subsystems, _ | .commands, _ => none

namespace Tenant

/-- The first lock on the way to what is kept of a kind that nobody gets any
more. -/
def broken? (x : Tenant) (kind : HandlerKind) : Option Lock :=
  if (x.slots.get kind).poisoned then some (.slot kind)
  else ((x.slots.get kind).handler.bind kind.guard?).filter x.isPoisoned

/-- The tenant keeps what the handler of a kind with a number stands for. -/
def Keeps (x : Tenant) : HandlerKind → Nat → Prop
  | .jobs, h => ∃ c, x.jobCaches[h]? = some c ∧ c.name = RemoteQuery.activeJobs.name
  | .disks, h => ∃ c, x.diskCaches[h]? = some c ∧ c.name = RemoteQuery.diskUnits.name
  | .system, h => h < x.systems.length
  | .subsystems, _ | .commands, _ => True

/-- What slots have is kept, and no worker dies over a slot but the system
handler's. -/
structure Stocked (x : Tenant) : Prop where
  sound : ∀ kind ≠ .system, (x.slots.get kind).poisoned = false
  kept : ∀ kind h, (x.slots.get kind).handler = some h → x.Keeps kind h

/-- No cache answers with what it holds. -/
structure Stale (x : Tenant) (now : Timestamp) : Prop where
  jobs : ∀ c ∈ x.jobCaches, c.heldAt? now = none
  disks : ∀ c ∈ x.diskCaches, c.heldAt? now = none

instance (x : Tenant) (now : Timestamp) : Decidable (x.Stale now) :=
  decidable_of_iff
    ((∀ c ∈ x.jobCaches, c.heldAt? now = none) ∧ ∀ c ∈ x.diskCaches, c.heldAt? now = none)
    ⟨fun h => ⟨h.1, h.2⟩, fun h => ⟨h.jobs, h.disks⟩⟩

/-- What is kept is as good as before, and no fresher. -/
structure Undisturbed (x y : Tenant) : Prop where
  locked : y.locked = x.locked
  stocked : x.Stocked → y.Stocked
  broken? : ∀ kind, y.broken? kind = x.broken? kind
  stale : ∀ now, x.Stale now → y.Stale now

section

variable {x y z : Tenant}

theorem SameStock.isPoisoned (h : x.SameStock y) (lock : Lock) :
    y.isPoisoned lock = x.isPoisoned lock := by
  cases lock with
  | slot kind =>
      unfold Tenant.isPoisoned
      rw [h.slots]
  | jobCache k =>
      unfold Tenant.isPoisoned
      rw [h.jobCaches]
  | diskCache k =>
      unfold Tenant.isPoisoned
      rw [h.diskCaches]
  | systemSession k =>
      have hk := congrArg (fun flags => flags[k]?.getD false) h.systems
      simp only [List.getElem?_map] at hk
      exact hk

theorem SameStock.broken? (h : x.SameStock y) (kind : HandlerKind) :
    y.broken? kind = x.broken? kind := by
  unfold Tenant.broken?
  rw [h.slots, funext h.isPoisoned]

theorem SameStock.keeps (h : x.SameStock y) (kind : HandlerKind) (k : Nat) :
    y.Keeps kind k ↔ x.Keeps kind k := by
  unfold Keeps
  cases kind with
  | jobs => dsimp only; rw [h.jobCaches]
  | disks => dsimp only; rw [h.diskCaches]
  | system =>
      have hlength : y.systems.length = x.systems.length := by
        simpa using congrArg List.length h.systems
      dsimp only
      rw [hlength]
  | subsystems | commands => exact Iff.rfl

theorem SameStock.stocked (h : x.SameStock y) (hstocked : x.Stocked) : y.Stocked := by
  refine ⟨?_, fun kind k hk => ?_⟩
  · rw [h.slots]
    exact hstocked.sound
  · rw [h.slots] at hk
    exact (h.keeps kind k).2 (hstocked.kept kind k hk)

theorem SameStock.undisturbed (h : x.SameStock y) : x.Undisturbed y := by
  refine ⟨h.locked, h.stocked, h.broken?, fun now hstale => ⟨?_, ?_⟩⟩
  · rw [h.jobCaches]
    exact hstale.jobs
  · rw [h.diskCaches]
    exact hstale.disks

theorem Undisturbed.refl (x : Tenant) : x.Undisturbed x := (SameStock.refl x).undisturbed

theorem Undisturbed.trans (h : x.Undisturbed y) (h' : y.Undisturbed z) : x.Undisturbed z :=
  ⟨h'.locked.trans h.locked, fun hx => h'.stocked (h.stocked hx),
    fun kind => (h'.broken? kind).trans (h.broken? kind),
    fun now hx => h'.stale now (h.stale now hx)⟩

/-- A tenant that has just been made has nothing that could be broken. -/
theorem stocked_of_empty (hslots : x.slots = {}) : x.Stocked := by
  refine ⟨fun kind _ => ?_, fun kind h hh => ?_⟩
  · rw [hslots]
    cases kind <;> rfl
  · rw [hslots] at hh
    cases kind <;> cases hh

theorem broken?_of_empty (hslots : x.slots = {}) (kind : HandlerKind) :
    x.broken? kind = none := by
  unfold Tenant.broken?
  rw [hslots]
  cases kind <;> rfl

end

end Tenant

-- =================================================================== locks

namespace Tenant

/-- The tenant with a lock taken. -/
def lock (x : Tenant) (l : Lock) : Tenant := { x with locked := l :: x.locked }

/-- The tenant with a lock given back, poisoned or not. -/
def unlock (x : Tenant) (l : Lock) (poison : Bool) : Tenant :=
  let x := { x with locked := x.locked.erase l }
  if poison then x.poison l else x

/-- A lock that is taken and given back has never been taken. -/
theorem unlock_lock (x : Tenant) (l : Lock) : (x.lock l).unlock l false = x := by
  unfold lock unlock
  dsimp only
  rw [List.erase_cons_head]
  rfl

theorem SameStock.poison {x y : Tenant} (h : x.SameStock y) (l : Lock) :
    (x.poison l).SameStock (y.poison l) := by
  obtain ⟨hslots, hjobs, hdisks, hlocked, hsystems⟩ := h
  cases l with
  | slot kind => exact ⟨by unfold Tenant.poison; rw [hslots], hjobs, hdisks, hlocked, hsystems⟩
  | jobCache k => exact ⟨hslots, by unfold Tenant.poison; rw [hjobs], hdisks, hlocked, hsystems⟩
  | diskCache k => exact ⟨hslots, hjobs, by unfold Tenant.poison; rw [hdisks], hlocked, hsystems⟩
  | systemSession k =>
      refine ⟨hslots, hjobs, hdisks, hlocked, ?_⟩
      apply List.ext_getElem?
      intro n
      have hn := congrArg (fun flags => flags[n]?) hsystems
      simp only [List.getElem?_map] at hn
      unfold Tenant.poison
      simp only [List.getElem?_map, List.getElem?_modify]
      cases hx : x.systems[n]? with
      | none => simpa [hx] using hn
      | some s =>
          rw [hx] at hn
          obtain ⟨s', hs', heq⟩ := Option.map_eq_some_iff.1 hn
          rw [hs']
          by_cases hk : k = n
          · simp [hk]
          · simpa [hk] using heq

theorem SameStock.unlock {x y : Tenant} (h : x.SameStock y) (l : Lock) (poison : Bool) :
    (x.unlock l poison).SameStock (y.unlock l poison) := by
  have hplain : (x.unlock l false).SameStock (y.unlock l false) :=
    ⟨h.slots, h.jobCaches, h.diskCaches, congrArg (List.erase · l) h.locked, h.systems⟩
  cases poison with
  | false => exact hplain
  | true => exact hplain.poison l

/-- A lock that is taken, and poisoned when it is given back. -/
theorem poison_lock (x : Tenant) (l : Lock) : (x.lock l).unlock l true = x.poison l := by
  show ((x.lock l).unlock l false).poison l = x.poison l
  rw [unlock_lock]

end Tenant

namespace Gateway

section

variable {α β : Type} {o : Outlook} {x : Tenant}

/-- A change that has nothing to do with locks, made under one. -/
theorem unlock_change {f : Tenant → Tenant}
    (hf : ∀ L, f { x with locked := L } = { f x with locked := L }) (l : Lock) :
    (f (x.lock l)).unlock l false = f x := by
  have hlocked : f x = { f x with locked := x.locked } := hf x.locked
  unfold Tenant.lock Tenant.unlock
  rw [hf]
  dsimp only
  rw [List.erase_cons_head]
  exact hlocked.symm

/-- What is done under a lock that is free, or poisoned. -/
theorem yields_withLock {l : Lock} {body : Job α}
    {post : Except Fault α → Outlook → Tenant → Prop} (hfree : l ∉ x.locked)
    (hrefused : x.isPoisoned l = true → post (.error (.failed (.lockPoisoned l.subject))) o x)
    (hbody : x.isPoisoned l = false → Yields o (x.lock l) body.run
      fun r o' y => post r o' (y.unlock l (isDeath r))) :
    Yields o x (Job.withLock l body).run post := by
  have hlocked : x.locked.contains l = false := by simpa using hfree
  cases hpoisoned : x.isPoisoned l with
  | true =>
      refine yields_look (a := false) (fun g t _ => ?_) (yields_done (hrefused hpoisoned))
      unfold perform
      dsimp only
      rw [hlocked, hpoisoned]
      rfl
  | false =>
      refine yields_change fun g t => ⟨true, fun x => x.lock l, ?_, ?_⟩
      · unfold perform
        dsimp only
        rw [hlocked, hpoisoned]
        rfl
      · show Yields o (x.lock l) (body.run.bind _) post
        refine (hbody hpoisoned).bind fun r o' y hpost => ?_
        exact yields_change fun g t => ⟨(), fun y => y.unlock l (isDeath r), rfl, yields_done hpost⟩

end

-- ------------------------------------------------ the locks of the system handler

section

variable {x : Tenant} {h : Nat}

theorem stocked_poison_slot (hstocked : x.Stocked) : (x.poison (.slot .system)).Stocked := by
  have hslot (kind : HandlerKind) : (x.poison (.slot .system)).slots.get kind
      = if kind = .system then { x.slots.system with poisoned := true } else x.slots.get kind :=
    get_set ..
  refine ⟨fun kind hkind => ?_, fun kind k hk => ?_⟩
  · rw [hslot, if_neg hkind]
    exact hstocked.sound kind hkind
  · refine hstocked.kept kind k ?_
    rw [hslot] at hk
    split at hk
    next heq =>
      subst heq
      exact hk
    next => exact hk

theorem broken?_poison_slot (kind : HandlerKind) :
    (x.poison (.slot .system)).broken? kind
      = if kind = .system then some (.slot .system) else x.broken? kind := by
  by_cases heq : kind = .system
  · subst heq
    rfl
  · rw [if_neg heq]
    have hslot : (x.poison (.slot .system)).slots.get kind = x.slots.get kind := by
      show (x.slots.set .system _).get kind = _
      rw [get_set, if_neg heq]
    unfold Tenant.broken?
    rw [hslot]
    cases (x.slots.get kind).handler with
    | none => rfl
    | some k => cases kind <;> rfl

theorem stocked_poison_session (hstocked : x.Stocked) :
    (x.poison (.systemSession h)).Stocked := by
  refine ⟨hstocked.sound, fun kind k hk => ?_⟩
  have hkept := hstocked.kept kind k hk
  cases kind with
  | system =>
      show k < (x.systems.modify h _).length
      rw [List.length_modify]
      exact hkept
  | jobs | disks | subsystems | commands => exact hkept

theorem isPoisoned_poison_session (hh : h < x.systems.length) (l : Lock) :
    (x.poison (.systemSession h)).isPoisoned l
      = if l = .systemSession h then true else x.isPoisoned l := by
  cases l with
  | systemSession k =>
      show (((x.systems.modify h _)[k]?).map SystemHandler.poisoned).getD false = _
      by_cases heq : h = k
      · subst heq
        simp [hh]
      · rw [List.getElem?_modify, if_neg (by simp [Ne.symm heq])]
        simp [heq, Tenant.isPoisoned]
  | _ => rfl

end

-- ============================================================ handlers made

section

variable {x y : Tenant} {kind : HandlerKind} {h : Nat}

/-- Every kind has locks of its own. -/
theorem guard_ne {other : HandlerKind} (hne : other ≠ kind) {k : Nat} {l l' : Lock}
    (hguard : kind.guard? h = some l) (hguard' : other.guard? k = some l') : l' ≠ l := by
  intro heq
  subst heq
  cases kind <;> cases other <;> cases hguard <;> first | exact hne rfl | cases hguard'

/-- A handler is put into an empty slot, with what it stands for, and nothing
else changes. -/
structure Filled (kind : HandlerKind) (h : Nat) (x y : Tenant) : Prop where
  slots : y.slots = (x.fill kind h).slots
  locked : y.locked = x.locked
  keeps : y.Keeps kind h
  sound : ∀ l, kind.guard? h = some l → y.isPoisoned l = false
  others : ∀ other ≠ kind, ∀ k, x.Keeps other k → y.Keeps other k
  locks : ∀ other ≠ kind, ∀ k l, other.guard? k = some l → y.isPoisoned l = x.isPoisoned l
  stale : ∀ now, x.Stale now → y.Stale now

theorem Filled.slot (hfilled : Filled kind h x y) (other : HandlerKind) :
    y.slots.get other
      = if other = kind then { x.slots.get kind with handler := some h }
        else x.slots.get other := by
  rw [hfilled.slots]
  exact get_set ..

theorem Filled.stocked (hfilled : Filled kind h x y) (hstocked : x.Stocked) : y.Stocked := by
  refine ⟨fun other hother => ?_, fun other k hk => ?_⟩
  · rw [hfilled.slot]
    split
    next heq => exact hstocked.sound kind (heq ▸ hother)
    next => exact hstocked.sound other hother
  · rw [hfilled.slot] at hk
    split at hk
    next heq =>
      subst heq
      cases hk
      exact hfilled.keeps
    next hne => exact hfilled.others other hne k (hstocked.kept other k hk)

theorem Filled.broken? (hfilled : Filled kind h x y)
    (hsound : (x.slots.get kind).poisoned = false) (hempty : (x.slots.get kind).handler = none)
    (other : HandlerKind) : y.broken? other = x.broken? other := by
  unfold Tenant.broken?
  rw [hfilled.slot]
  by_cases heq : other = kind
  · subst heq
    rw [if_pos rfl, hsound, hempty]
    show Option.filter y.isPoisoned (other.guard? h) = none
    rw [Option.filter_eq_none_iff]
    intro l hl
    rw [hfilled.sound l hl]
    exact Bool.false_ne_true
  · rw [if_neg heq]
    split
    · rfl
    · cases (x.slots.get other).handler with
      | none => rfl
      | some k =>
          show Option.filter _ (other.guard? k) = Option.filter _ (other.guard? k)
          cases hguard : other.guard? k with
          | none => rfl
          | some l =>
              rw [Option.filter_some, Option.filter_some, hfilled.locks other heq k l hguard]

/-- A handler that is put into an empty slot is not broken. -/
theorem Filled.undisturbed (hfilled : Filled kind h x y)
    (hsound : (x.slots.get kind).poisoned = false)
    (hempty : (x.slots.get kind).handler = none) : x.Undisturbed y :=
  ⟨hfilled.locked, hfilled.stocked, hfilled.broken? hsound hempty, hfilled.stale⟩

/-- A handler that keeps nothing. -/
theorem filled_plain (hplain : ∀ k, kind.guard? k = none) : Filled kind h x (x.fill kind h) where
  slots := rfl
  locked := rfl
  keeps := by cases kind <;> first | exact trivial | cases hplain h
  sound l hl := by
    rw [hplain] at hl
    cases hl
  others _ _ _ hkept := hkept
  locks other _ k l hl := by cases other <;> cases hl <;> rfl
  stale _ hstale := ⟨hstale.jobs, hstale.disks⟩

/-- A system handler, which is put at the end. -/
theorem filled_system {s : SystemHandler} (hsound : s.poisoned = false) :
    Filled .system x.systems.length x
      { x.fill .system x.systems.length with systems := x.systems ++ [s] } where
  slots := rfl
  locked := rfl
  keeps := by
    show x.systems.length < (x.systems ++ [s]).length
    simp
  sound l hl := by
    cases hl
    show (((x.systems ++ [s])[x.systems.length]?).map SystemHandler.poisoned).getD false = false
    simp [hsound]
  others other hother k hkept := by
    cases other with
    | system => exact absurd rfl hother
    | jobs | disks | subsystems | commands => exact hkept
  locks other hother k l hl := by
    cases other with
    | system => exact absurd rfl hother
    | jobs | disks => cases hl; rfl
    | subsystems | commands => cases hl
  stale _ hstale := ⟨hstale.jobs, hstale.disks⟩

end

end Gateway

end CheckGateway
