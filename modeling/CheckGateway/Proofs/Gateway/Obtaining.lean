/-
Handlers are obtained as from slots.

A slot in the state of a tenant is used by many small calls: its lock is taken, the
handler looked at, another one made and put in, the lock given back. `Reacts` is what
each call makes of the slot, and how it is answered, and the gateway performs them so
(`reacts_of_perform`). What the calls of the two programs that obtain handlers come to,
taken together, is one use of a slot: their outcome and what they leave in the slot are
those of `Slot.getOrInit`.
-/
import CheckGateway.Proofs.Gateway.Systems
import CheckGateway.Proofs.Routine
import CheckGateway.Proofs.Slot.History
import Mathlib.Data.Set.Operations

namespace CheckGateway

open Job Routine
open Handler (obtain obtainSystem)

variable {kind : HandlerKind} {s s' : Slot Nat}

-- ================================================================ the calls

/-- What a call makes of the slot of a kind, and how it is answered. -/
def Reacts (kind : HandlerKind) (s : Slot Nat) : (c : Call) → Answer c → Slot Nat → Prop
  | .acquire lock, taken, s' => s' = s ∧ (lock = .slot kind → taken = !s.poisoned)
  | .release lock poison, _, s' =>
      s' = if lock = .slot kind ∧ poison = true then { s with poisoned := true } else s
  | .handler other, present, s' => s' = s ∧ (other = kind → present = s.handler)
  | .install other, handler, s' =>
      s' = if kind = other then { s with handler := some handler } else s
  | .installSystem _, handler, s' =>
      s' = if kind = .system then { s with handler := some handler } else s
  | _, _, s' => s' = s

theorem Reacts.name {c : Call} {a : Answer c} (h : Reacts kind s c a s') : s'.name = s.name := by
  cases c with
  | acquire | handler => exact h.1 ▸ rfl
  | release | install | installSystem =>
      rw [show s' = _ from h]
      split <;> rfl
  | _ => exact congrArg Slot.name h

/-- The lock of a slot is poisoned when it is given back so, and in no other way. -/
theorem Reacts.poisoned {c : Call} {a : Answer c} (h : Reacts kind s c a s') :
    s'.poisoned = s.poisoned ∨ c = .release (.slot kind) true := by
  cases c with
  | acquire | handler => exact .inl (h.1 ▸ rfl)
  | release lock poison =>
      by_cases hpoison : lock = .slot kind ∧ poison = true
      · obtain ⟨rfl, rfl⟩ := hpoison
        exact .inr rfl
      · rw [show s' = s from h.trans (if_neg hpoison)]
        exact .inl rfl
  | install | installSystem =>
      rw [show s' = _ from h]
      split <;> exact .inl rfl
  | _ => exact .inl (congrArg Slot.poisoned h)

theorem get_fill (x : Tenant) (kind other : HandlerKind) (h : Nat) :
    (x.fill other h).slots.get kind
      = if kind = other then { x.slots.get kind with handler := some h } else x.slots.get kind := by
  show (x.slots.set other _).get kind = _
  rw [Gateway.get_set]
  split
  next heq => rw [heq]
  next => rfl

theorem get_poison (x : Tenant) (kind : HandlerKind) (lock : Lock) :
    (x.poison lock).slots.get kind = if lock = .slot kind
      then { x.slots.get kind with poisoned := true } else x.slots.get kind := by
  match lock with
  | .jobCache _ | .diskCache _ | .systemSession _ => rfl
  | .slot other =>
      show (x.slots.set other _).get kind = _
      rw [Gateway.get_set]
      by_cases heq : kind = other
      · rw [if_pos heq, if_pos (congrArg Lock.slot heq.symm), heq]
      · rw [if_neg heq, if_neg fun h => heq (Lock.slot.inj h).symm]

namespace Gateway

variable {g g' : Gateway} {t : Nat} {x : Tenant} {gate : Option Nat} {c : Call} {a : Answer c}

/-- The gateway performs the calls of a tenant's jobs so. -/
theorem reacts_of_perform (kind : HandlerKind) (hx : g.tenants[t]? = some x)
    (hperform : g.perform t x gate c = .answered a g') :
    ∃ x', g'.tenants[t]? = some x' ∧ Reacts kind (x.slots.get kind) c a (x'.slots.get kind) := by
  have hupdate (f : Tenant → Tenant) : (g.update t f).tenants[t]? = some (f x) := by
    rw [tenants_update hx, if_pos rfl]
  cases c with
  | now | watermark | note | jobCache | diskCache | session | openSession | closeSession =>
      cases hperform
      exact ⟨x, hx, rfl⟩
  | handler other =>
      cases hperform
      exact ⟨x, hx, rfl, fun h => h ▸ rfl⟩
  | query session q =>
      unfold Gateway.perform at hperform
      dsimp only at hperform
      split at hperform
      · split at hperform
        · cases hperform
          exact ⟨x, hx, rfl⟩
        · cases hperform
      · split at hperform
        · cases hperform
          exact ⟨x, hx, rfl⟩
        · cases hperform
  | acquire lock =>
      unfold Gateway.perform at hperform
      dsimp only at hperform
      split at hperform
      · cases hperform
      · split at hperform
        next hpoisoned =>
          cases hperform
          refine ⟨x, hx, rfl, ?_⟩
          rintro rfl
          exact (congrArg Bool.not hpoisoned).symm
        next hsound =>
          cases hperform
          refine ⟨_, hupdate _, rfl, ?_⟩
          rintro rfl
          exact (congrArg Bool.not (Bool.not_eq_true _ ▸ hsound)).symm
  | release lock poison =>
      cases hperform
      refine ⟨_, hupdate _, ?_⟩
      show (if poison then _ else _ : Tenant).slots.get kind = _
      cases poison with
      | false => simp
      | true =>
          show (Tenant.poison _ lock).slots.get kind = _
          rw [get_poison]
          simp
  | install other =>
      cases other with
      | jobs | disks | system | subsystems | commands =>
          cases hperform
          exact ⟨_, hupdate _, get_fill x kind _ _⟩
  | installSystem session =>
      cases hperform
      exact ⟨_, hupdate _, get_fill x kind _ _⟩
  | saveJobCache | saveDiskCache | replaceSession | hold =>
      cases hperform
      exact ⟨_, hupdate _, rfl⟩
  | letGo handler =>
      cases hperform
      exact ⟨_, tenants_reclaim (hupdate _), rfl⟩

end Gateway

-- ============================================================= the programs

section

variable {α : Type} {r : Except Fault α} {body : Job α}

/-- Under the lock of a slot. -/
theorem ends_withLock_iff : Ends (Reacts kind) (withLock (.slot kind) body).run s r s'
    ↔ (s.poisoned = true ∧ r = .error (.failed (.lockPoisoned (Slot.lockName kind.slotName)))
        ∧ s' = s)
      ∨ (s.poisoned = false ∧ ∃ s₁, Ends (Reacts kind) body.run s r s₁
        ∧ s' = if isDeath r then { s₁ with poisoned := true } else s₁) := by
  refine ends_call_iff.trans ⟨?_, ?_⟩
  · rintro ⟨taken, s, ⟨rfl, htaken⟩, hrest⟩
    obtain rfl := htaken rfl
    cases hpoisoned : s.poisoned with
    | true =>
        rw [hpoisoned] at hrest
        exact .inl ⟨rfl, ends_done_iff.1 hrest⟩
    | false =>
        rw [hpoisoned] at hrest
        change Ends _ (body.run.bind _) _ _ _ at hrest
        obtain ⟨r', s₁, hbody, hrest⟩ := ends_bind_iff.1 hrest
        obtain ⟨_, s₂, hrelease, hrest⟩ := ends_call_iff.1 hrest
        obtain ⟨rfl, rfl⟩ := ends_done_iff.1 hrest
        refine .inr ⟨rfl, s₁, hbody, hrelease.trans ?_⟩
        simp
  · rintro (⟨hpoisoned, rfl, rfl⟩ | ⟨hsound, s₁, hbody, rfl⟩)
    · refine ⟨false, s', ⟨rfl, fun _ => by rw [hpoisoned]; rfl⟩, .done _ _⟩
    · refine ⟨true, s, ⟨rfl, fun _ => by rw [hsound]; rfl⟩, ?_⟩
      show Ends _ (body.run.bind _) _ _ _
      refine ends_bind_iff.2 ⟨r, s₁, hbody, ends_call_iff.2 ⟨(), _, ?_, .done _ _⟩⟩
      show _ = ite _ _ _
      simp

end

section

variable {r : Except Fault Nat} {body : Job Nat}

/-- What a maker leaves in a slot that it is run for. -/
theorem getOrInit_of_empty (hsound : s.poisoned = false) (hempty : s.handler = none)
    (make : Except Fault Nat) : s.getOrInit make
      = (make, { s with handler := make.toOption, poisoned := isDeath make }) := by
  obtain ⟨name, _, _⟩ := s
  cases hsound
  cases hempty
  rcases make with (e | -) | handler <;> rfl

theorem getOrInit_of_handler {h : Nat} (hsound : s.poisoned = false) (hhandler : s.handler = some h)
    (make : Except Fault Nat) : s.getOrInit make = (.ok h, s) := by
  obtain ⟨name, _, _⟩ := s
  cases hsound
  cases hhandler
  rfl

/-- A program under the lock of a slot that gives the handler that is there, and fills
the slot with what is made otherwise, comes to one use of the slot. -/
theorem ends_withLock_iff_getOrInit (makers : Set (Except Fault Nat))
    (hname : s.name = kind.slotName) (hmakers : makers.Nonempty)
    (hpresent : ∀ h, s.handler = some h → ∀ r s₁,
      Ends (Reacts kind) body.run s r s₁ ↔ r = .ok h ∧ s₁ = s)
    (hempty : s.handler = none → ∀ r s₁,
      Ends (Reacts kind) body.run s r s₁ ↔ r ∈ makers ∧ s₁ = { s with handler := r.toOption }) :
    Ends (Reacts kind) (withLock (.slot kind) body).run s r s'
      ↔ ∃ make ∈ makers, s.getOrInit make = (r, s') := by
  obtain ⟨maker, hmaker⟩ := hmakers
  rw [ends_withLock_iff]
  cases hpoisoned : s.poisoned with
  | true =>
      simp only [Slot.getOrInit_of_poisoned hpoisoned, hname, Prod.mk.injEq]
      constructor
      · rintro (⟨-, rfl, rfl⟩ | ⟨hsound, -⟩)
        · exact ⟨maker, hmaker, rfl, rfl⟩
        · cases hsound
      · rintro ⟨_, -, rfl, rfl⟩
        exact .inl ⟨trivial, rfl, rfl⟩
  | false =>
      cases hhandler : s.handler with
      | some h =>
          simp only [getOrInit_of_handler hpoisoned hhandler, Prod.mk.injEq, hpresent h hhandler]
          constructor
          · rintro (⟨hdead, -⟩ | ⟨-, s₁, ⟨rfl, rfl⟩, rfl⟩)
            · cases hdead
            · exact ⟨maker, hmaker, rfl, rfl⟩
          · rintro ⟨_, -, rfl, rfl⟩
            exact .inr ⟨trivial, s, ⟨rfl, rfl⟩, rfl⟩
      | none =>
          simp only [getOrInit_of_empty hpoisoned hhandler, Prod.mk.injEq, hempty hhandler]
          constructor
          · rintro (⟨hdead, -⟩ | ⟨-, s₁, ⟨hr, rfl⟩, rfl⟩)
            · cases hdead
            · refine ⟨r, hr, rfl, ?_⟩
              cases isDeath r <;> simp [hpoisoned]
          · rintro ⟨_, hr, rfl, rfl⟩
            refine .inr ⟨trivial, _, ⟨hr, rfl⟩, ?_⟩
            cases isDeath _ <;> simp [hpoisoned]

/-- A handler without a session of its own is always made. -/
theorem ends_obtain_iff (hname : s.name = kind.slotName) :
    Ends (Reacts kind) (obtain kind).run s r s'
      ↔ ∃ make ∈ Set.range Except.ok, s.getOrInit make = (r, s') := by
  unfold Handler.obtain
  refine ends_withLock_iff_getOrInit _ hname ⟨_, 0, rfl⟩ (fun h hhandler r s₁ => ?_)
    fun hempty r s₁ => ?_
  · refine ends_call_iff.trans ⟨?_, ?_⟩
    · rintro ⟨present, s, ⟨rfl, hpresent⟩, hrest⟩
      obtain rfl := (hpresent rfl).trans hhandler
      exact ends_done_iff.1 hrest
    · rintro ⟨rfl, rfl⟩
      exact ⟨some h, s₁, ⟨rfl, fun _ => hhandler.symm⟩, .done _ _⟩
  · refine ends_call_iff.trans ⟨?_, ?_⟩
    · rintro ⟨present, s, ⟨rfl, hpresent⟩, hrest⟩
      obtain rfl := (hpresent rfl).trans hempty
      obtain ⟨made, _, hmade, hrest⟩ := ends_call_iff.1 hrest
      obtain ⟨rfl, rfl⟩ := ends_done_iff.1 hrest
      exact ⟨⟨made, rfl⟩, hmade.trans (if_pos rfl)⟩
    · rintro ⟨⟨made, rfl⟩, rfl⟩
      refine ⟨none, s, ⟨rfl, fun _ => hempty.symm⟩, ends_call_iff.2 ?_⟩
      exact ⟨made, _, (if_pos rfl).symm, .done _ _⟩

theorem eq_with_handler (hempty : s.handler = none) : s = { s with handler := none } := by
  rw [← hempty]

/-- The system handler is made with a session, if one is opened. -/
theorem ends_obtainSystem_iff (hname : s.name = HandlerKind.system.slotName) :
    Ends (Reacts .system) obtainSystem.run s r s' ↔ ∃ make, s.getOrInit make = (r, s') := by
  have huse : Ends (Reacts .system) obtainSystem.run s r s'
      ↔ ∃ make ∈ Set.univ, s.getOrInit make = (r, s') := by
    unfold Handler.obtainSystem
    refine ends_withLock_iff_getOrInit _ hname ⟨.ok 0, trivial⟩ (fun h hhandler r s₁ => ?_)
      fun hempty r s₁ => ?_
    · refine ends_call_iff.trans ⟨?_, ?_⟩
      · rintro ⟨present, s, ⟨rfl, hpresent⟩, hrest⟩
        obtain rfl := (hpresent rfl).trans hhandler
        obtain ⟨_, _, rfl, hheld⟩ := ends_call_iff.1 hrest
        exact ends_done_iff.1 hheld
      · rintro ⟨rfl, rfl⟩
        refine ⟨some h, s₁, ⟨rfl, fun _ => hhandler.symm⟩, ends_call_iff.2 ?_⟩
        exact ⟨(), s₁, rfl, .done _ _⟩
    · refine ends_call_iff.trans ⟨?_, ?_⟩
      · rintro ⟨present, s, ⟨rfl, hpresent⟩, hrest⟩
        obtain rfl := (hpresent rfl).trans hempty
        obtain ⟨opened, _, rfl, hopened⟩ := ends_call_iff.1 hrest
        cases opened with
        | error e =>
            obtain ⟨rfl, rfl⟩ := ends_done_iff.1 hopened
            exact ⟨trivial, eq_with_handler hempty⟩
        | ok session =>
            obtain ⟨made, _, hmade, hfilled⟩ := ends_call_iff.1 hopened
            obtain ⟨_, _, rfl, hheld⟩ := ends_call_iff.1 hfilled
            obtain ⟨rfl, rfl⟩ := ends_done_iff.1 hheld
            exact ⟨trivial, hmade.trans (if_pos rfl)⟩
      · rintro ⟨-, rfl⟩
        refine ⟨none, s, ⟨rfl, fun _ => hempty.symm⟩, ends_call_iff.2 ?_⟩
        cases r with
        | error e =>
            refine ⟨.error e, s, rfl, ?_⟩
            exact ends_done_iff.2 ⟨rfl, (eq_with_handler hempty).symm⟩
        | ok made =>
            refine ⟨.ok 0, s, rfl, ends_call_iff.2 ⟨made, _, (if_pos rfl).symm, ?_⟩⟩
            exact ends_call_iff.2 ⟨(), _, rfl, .done _ _⟩
  simpa using huse

end

-- ============================================================== the gateway

namespace Gateway

/-- A call of a tenant's job is answered, after whatever else has happened that does not
touch the slot of a kind. -/
def Responds (t : Nat) (kind : HandlerKind) (g : Gateway) (c : Call) (a : Answer c)
    (g' : Gateway) : Prop :=
  ∃ (g₁ : Gateway) (x₁ : Tenant) (gate : Option Nat), g₁.tenants[t]? = some x₁
    ∧ (∀ x, g.tenants[t]? = some x → x₁.slots.get kind = x.slots.get kind)
    ∧ g₁.perform t x₁ gate c = .answered a g'

section

variable {g g' : Gateway} {t : Nat} {x : Tenant}

/-- What a routine does to the slot of a kind is what its calls do. -/
theorem reacts_of_responds {α : Type} {routine : JobRoutine α} {a : α}
    (h : Ends (Responds t kind) routine g a g') (hx : g.tenants[t]? = some x) :
    ∃ x', g'.tenants[t]? = some x'
      ∧ Ends (Reacts kind) routine (x.slots.get kind) a (x'.slots.get kind) := by
  have hsimulates (g : Gateway) (c : Call) (a : Answer c) (g' : Gateway) (s : Slot Nat)
      (hresponds : Responds t kind g c a g')
      (hs : ∃ x, g.tenants[t]? = some x ∧ x.slots.get kind = s) :
      ∃ s', (∃ x', g'.tenants[t]? = some x' ∧ x'.slots.get kind = s') ∧ Reacts kind s c a s' := by
    obtain ⟨x, hx, rfl⟩ := hs
    obtain ⟨g₁, x₁, gate, hx₁, hkept, hperform⟩ := hresponds
    obtain ⟨x', hx', hreacts⟩ := reacts_of_perform kind hx₁ hperform
    rw [hkept x hx] at hreacts
    exact ⟨_, ⟨x', hx', rfl⟩, hreacts⟩
  obtain ⟨_, ⟨x', hx', rfl⟩, hends⟩ := h.simulate hsimulates ⟨x, hx, rfl⟩
  exact ⟨x', hx', hends⟩

end

end Gateway

end CheckGateway
