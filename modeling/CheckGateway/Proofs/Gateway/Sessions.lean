/-
How many sessions are open, and what is left of a tenant whose work is done.

Where nothing is queued or executed, nobody has anything in the hands, so a
session that is open belongs to a system handler, and the handler to the slot
that still knows it. This is read off the books, for all tenants at once and
for one of them.
-/
import CheckGateway.Proofs.Gateway.Books

namespace CheckGateway.Gateway

/-- The session of the handler that the system slot of a tenant knows. -/
def SystemSession (g : Gateway) (t s : Nat) : Prop :=
  ∃ x h y, g.tenants[t]? = some x ∧ x.slots.system.get? = some h
    ∧ x.systems[h]? = some y ∧ y.session = some s

/-- The system slot of a tenant is filled. -/
def SystemFilled (g : Gateway) (t : Nat) : Prop :=
  ∃ x h, g.tenants[t]? = some x ∧ x.slots.system.get? = some h

section

variable {log : List Deed} {d : Deed} {g g' : Gateway} {hands : Hands}
  {owner : Nat → Option Owner} {t s : Nat} {x : Tenant}

theorem SystemSession.unique {s' : Nat} (h : g.SystemSession t s) (h' : g.SystemSession t s') :
    s = s' := by
  obtain ⟨x, k, y, hx, hget, hy, hs⟩ := h
  obtain ⟨x', k', y', hx', hget', hy', hs'⟩ := h'
  rw [hx] at hx'
  cases hx'
  rw [hget] at hget'
  cases hget'
  rw [hy] at hy'
  cases hy'
  rw [hs] at hs'
  exact Option.some.inj hs'

/-- A filled slot knows a handler that has a session. -/
theorem Accounted.session_of_filled (h : Accounted log g hands owner) :
    g.SystemFilled t ↔ ∃ s, g.SystemSession t s := by
  constructor
  · rintro ⟨x, k, hx, hget⟩
    have hbacks := h.balanced.backs t x hx
    have hhandler : x.slots.system.handler = some k := by
      unfold Slot.get? at hget
      split at hget
      · cases hget
      · exact hget
    have hlt := hbacks.filled k hhandler
    have hy := List.getElem?_eq_getElem hlt
    have hknown : x.isDropped k x.systems[k] = false := by
      rw [← Bool.not_eq_true, isDropped_iff]
      exact fun hdropped => hdropped.2 hget
    obtain ⟨s, hs⟩ := Option.isSome_iff_exists.1 (hbacks.alive k _ hy hknown)
    exact ⟨s, x, k, _, hx, hget, hy, hs⟩
  · rintro ⟨s, x, k, y, hx, hget, -⟩
    exact ⟨x, k, hx, hget⟩

/-- Once a tenant's work is done, the sessions that are still its own are
that of its system slot. -/
theorem Accounted.owned_iff (h : Accounted log g hands owner) (hidle : ¬ g.Busy t) :
    (∃ w, owner s = some w ∧ w.tenant = t) ↔ g.SystemSession t s := by
  have hempty (o : Post) (ho : o.tenant = t) : hands o = {} :=
    h.staffed.idle (ho ▸ hidle)
  constructor
  · rintro ⟨w, hw, ht⟩
    cases w with
    | hand o =>
        -- no job of the tenant has anything in its hands
        have hmem := (h.balanced.hand o s).2 hw
        rw [hempty o ht] at hmem
        cases hmem
    | handler t' k =>
        obtain rfl : t' = t := ht
        obtain ⟨x, hx, ⟨y, hy, hs⟩, -⟩ := (h.balanced.handler t' k s).1 hw
        have hbacks := h.balanced.backs t' x hx
        -- no job holds the handler, so it is the slot that keeps it
        have husers : y.users = 0 := by
          obtain ⟨os, -, hos, hn⟩ := hbacks.used k y hy
          cases os with
          | nil => exact hn
          | cons o os =>
              obtain ⟨ho, hmem⟩ := (hos o).1 List.mem_cons_self
              rw [hempty o ho] at hmem
              cases hmem
        have hknown := h.balanced.tidy t' x hx k y hy (hs ▸ rfl)
        rw [← Bool.not_eq_true, isDropped_iff, not_and, not_not] at hknown
        exact ⟨x, k, y, hx, hknown husers, hy, hs⟩
  · rintro ⟨x, k, y, hx, -, hy, hs⟩
    refine ⟨.handler t k, (h.balanced.retains hx).2 ⟨⟨y, hy, hs⟩, fun o ho s' => ?_⟩, rfl⟩
    rw [hempty o ho]
    exact nofun

/-- Where nothing is queued or executed, the open sessions are those of the
system slots. -/
theorem Accounted.connected_iff (h : Accounted log g hands owner) (hidle : ∀ t, ¬ g.Busy t) :
    s ∈ g.remote.connected ↔ ∃ t, g.SystemSession t s := by
  rw [h.balanced.connected, Option.isSome_iff_exists]
  constructor
  · rintro ⟨w, hw⟩
    exact ⟨w.tenant, (h.owned_iff (hidle _)).1 ⟨w, hw, rfl⟩⟩
  · rintro ⟨t, hs⟩
    obtain ⟨w, hw, -⟩ := (h.owned_iff (hidle t)).2 hs
    exact ⟨w, hw⟩

/-- A session is never disconnected twice, nor queried once it is; and
whenever nothing is queued or executed, as many more sessions have been
opened than disconnected as there are tenants somebody still refers to whose
system slot is filled. -/
theorem sessions_balance {config : Config} {clock : Timestamp} {overflow : Overflow}
    {start : Gateway}
    (hcreate : create config clock overflow = .ok start) (hruns : start.Runs log g) :
    LogEntry.Clean g.remote.log ∧
      ((∀ t, ¬ g.Busy t) → ∃ ts : List Nat, ts.Nodup
        ∧ (∀ t, t ∈ ts ↔ g.Referenced t ∧ g.SystemFilled t)
        ∧ g.remote.opens = g.remote.disconnects + ts.length) := by
  obtain ⟨hands, owner, h⟩ := hruns.accounted hcreate
  refine ⟨h.balanced.orderly.clean, fun hidle => ?_⟩
  -- each open session stands for the tenant that owns it
  let home (s : Nat) : Nat := ((owner s).map Owner.tenant).getD 0
  have hhome {s : Nat} (hs : s ∈ g.remote.connected) : g.SystemSession (home s) s := by
    obtain ⟨w, hw⟩ := Option.isSome_iff_exists.1 ((h.balanced.connected s).1 hs)
    have htenant : home s = w.tenant := by
      show ((owner s).map Owner.tenant).getD 0 = _
      rw [hw]
      rfl
    rw [htenant]
    exact (h.owned_iff (hidle _)).1 ⟨w, hw, rfl⟩
  refine ⟨g.remote.connected.map home, ?_, fun t => ?_, ?_⟩
  · refine List.Nodup.map_on (fun s hs s' hs' heq => ?_) h.balanced.orderly.once
    exact (hhome hs).unique (heq ▸ hhome hs')
  · rw [List.mem_map]
    constructor
    · rintro ⟨s, hs, rfl⟩
      have hfilled := h.session_of_filled.2 ⟨s, hhome hs⟩
      refine ⟨Classical.byContradiction fun hgone => ?_, hfilled⟩
      obtain ⟨x, k, hx, hget⟩ := hfilled
      rw [h.vacant _ x hx hgone] at hget
      cases hget
    · rintro ⟨-, hfilled⟩
      obtain ⟨s, hsession⟩ := h.session_of_filled.1 hfilled
      have hs := (h.connected_iff hidle).2 ⟨t, hsession⟩
      obtain ⟨w, hw, htenant⟩ := (h.owned_iff (hidle t)).2 hsession
      refine ⟨s, hs, ?_⟩
      show ((owner s).map Owner.tenant).getD 0 = t
      rw [hw]
      exact htenant
  · rw [List.length_map]
    exact h.balanced.orderly.balance

/-- A gateway with the standard settings, over a remote system without a
script. -/
def dawn : Gateway := { config := {}, clock := ⟨0, 0⟩ }

/-- A request for the check that makes a system handler. -/
def systemCheck : Request := ⟨⟨"host", "login", "password"⟩, "getSystem", .empty, "payload"⟩

/-- The turns of a caller whose request is admitted and queued. -/
def requested : List Turn :=
  [.resolve systemCheck.credentials, .accept 0 systemCheck, .queue 0 systemCheck]

/-- The turns of a worker that takes the first item and serves it to its
end. -/
def served : List Turn := .take 0 .global :: List.replicate 14 (.work ⟨0, .global, 1⟩)

/-- A check of the system leaves one session open, that of the one tenant's
system slot. -/
theorem sessions_balance_of_system_check :
    ∃ log g, (create {} ⟨0, 0⟩ .panics = .ok dawn ∧ dawn.Runs log g ∧ ∀ t, ¬ g.Busy t)
      ∧ g.remote.opens = 1 ∧ g.remote.disconnects = 0
      ∧ LogEntry.Clean g.remote.log ∧ ∃ ts : List Nat, ts.Nodup
        ∧ (∀ t, t ∈ ts ↔ g.Referenced t ∧ g.SystemFilled t)
        ∧ g.remote.opens = g.remote.disconnects + ts.length := by
  have hcreate : create {} ⟨0, 0⟩ .panics = .ok dawn := rfl
  have hruns := runs_played dawn (requested ++ served) rfl
  obtain ⟨hclean, hbalance⟩ := sessions_balance hcreate hruns
  exact ⟨_, _, ⟨hcreate, hruns, not_busy_of_pending rfl⟩, rfl, rfl, hclean,
    hbalance (not_busy_of_pending rfl)⟩

-- =============================================================== empty slots

/-- The slot of a tenant for a kind of handler is empty. -/
def SlotEmpty (g : Gateway) (t : Nat) (kind : HandlerKind) : Prop :=
  ∀ x, g.tenants[t]? = some x → (x.slots.get kind).get? = none

variable {kind : HandlerKind}

theorem SlotEmpty.congr (h : g.SlotEmpty t kind) (htenants : g'.tenants = g.tenants) :
    g'.SlotEmpty t kind := fun x hx => h x (htenants ▸ hx)

theorem SlotEmpty.update (h : g.SlotEmpty t kind) {t' : Nat} {f : Tenant → Tenant}
    (hf : ∀ x, (x.slots.get kind).get? = none → ((f x).slots.get kind).get? = none) :
    (g.update t' f).SlotEmpty t kind := by
  intro x hx
  rw [getElem?_update] at hx
  obtain ⟨y, hy, rfl⟩ := Option.map_eq_some_iff.1 hx
  split
  · exact hf y (h y hy)
  · exact h y hy

theorem SlotEmpty.updatePool (h : g.SlotEmpty t kind) (t' : Nat) (pool : PoolKind)
    (f : Pool Work Response → Pool Work Response) : (g.updatePool t' pool f).SlotEmpty t kind :=
  h.update fun _ => id

theorem SlotEmpty.enqueue (h : g.SlotEmpty t kind) (t' : Nat) (pool : PoolKind)
    (f : Pool Work Response → Pool Work Response) (n : Nat) :
    SlotEmpty { g.updatePool t' pool f with tickets := n } t kind :=
  h.updatePool t' pool f

theorem SlotEmpty.spares {t' : Nat} {c : Job.Call} (h : g.SlotEmpty t kind)
    (hspares : Spares t' c g g') (hmade : t = t' → c.made? ≠ some kind) :
    g'.SlotEmpty t kind := by
  intro x' hx'
  obtain ⟨x, hx, helse, hslots⟩ := hspares.tenants t x' hx'
  by_cases ht : t = t'
  · exact hslots kind (hmade ht) (h x hx)
  · rw [helse ht]
    exact h x hx

theorem get_clear (slots : HandlerSlots) (kind : HandlerKind) :
    slots.clear.get kind = (slots.get kind).clear := by
  cases kind <;> rfl

theorem SlotEmpty.dropUnused (h : g.SlotEmpty t kind) (t' : Nat) :
    (g.dropUnused t').SlotEmpty t kind := by
  unfold Gateway.dropUnused
  split
  · exact h
  · have hclose : (g.close t').SlotEmpty t kind := by
      refine h.update fun x _ => ?_
      show (x.slots.clear.get kind).get? = none
      rw [get_clear]
      exact Slot.get?_clear _
    exact hclose.spares (c := .now) spares_reclaim fun _ => nofun

/-- A slot that is empty stays so until a job makes a handler for it. -/
theorem SlotEmpty.step (h : g.SlotEmpty t kind) (hstep : Step g d g')
    (hmade : d.made? ≠ some (t, kind)) : g'.SlotEmpty t kind := by
  cases hstep with
  | outside => exact h
  | @resolve g₁ who t' hresolve =>
      rcases resolve_cases hresolve with ⟨t'', -, rfl⟩ | ⟨_, _, _, -, rfl⟩
        | ⟨pools, n, hpools, -, rfl⟩
      · have htouch : (g.touch t'').SlotEmpty t kind := h.update fun _ => id
        exact htouch
      · exact h
      · intro x hx
        rcases getElem?_concat_iff.1 hx with hx | ⟨-, rfl⟩
        · exact h x hx
        · cases kind <;> rfl
  | resolveFails hresolve =>
      rcases resolve_cases hresolve with ⟨_, ht, -⟩ | ⟨_, _, _, -, rfl⟩
        | ⟨_, _, _, ht, -⟩
      · cases ht
      · exact h
      · cases ht
  | touch hkept => exact h.update fun _ => id
  | accept hkept haccept =>
      obtain ⟨x, inFlight, -, -, rfl⟩ := accept_eq haccept
      exact h.update fun _ => id
  | turnAway r hkept => exact h.update fun _ => id
  | queue hkept hx hroom => exact h.enqueue _ _ _ _
  | take hx htake => exact h.updatePool _ _ _
  | @call g₁ o x c a next gate hx hexecutes hperform =>
      have hspares := spares_perform g o.tenant x gate c
      have hstate : (g.perform o.tenant x gate c).state = g₁ := congrArg Performed.state hperform
      rw [hstate] at hspares
      refine SlotEmpty.updatePool (h.spares hspares fun ht hc => hmade ?_) _ _ _
      show c.made?.map _ = _
      rw [hc, ht]
      rfl
  | wait hx hexecutes hperform =>
      exact (h.congr (tenants_waits hperform).1).updatePool _ _ _
  | finish hexecutes =>
      exact (h.updatePool _ _ _).dropUnused _
  | @serve t' x kind' y e p hx hy hserve =>
      have hpool : (g.updatePool t' kind' fun _ => p).SlotEmpty t kind :=
        h.updatePool _ _ _
      cases e with
      | took ticket => exact hpool
      | released ticket fingerprint => exact hpool.update fun _ => id
      | delivered ticket outcome => exact hpool
  | shut kind' hkept hx => exact h.updatePool _ _ _
  | clear hkept hx hfree => exact h.spares (c := .now) spares_clear fun _ => nofun
  | remove hregistered => exact h
  | letGo hkept =>
      refine SlotEmpty.dropUnused ?_ _
      exact h

theorem slotEmpty_of_cleared (hstep : Step g (.cleared t kind) g') : g'.SlotEmpty t kind := by
  cases hstep with
  | clear hkept hx hfree =>
      have hset : (g.update t fun x =>
          { x with slots := x.slots.set kind (x.slots.get kind).clear }).SlotEmpty t kind := by
        intro y hy
        rw [tenants_update hx, if_pos rfl] at hy
        cases hy
        show ((_ : HandlerSlots).get kind).get? = none
        rw [get_set, if_pos rfl]
        exact Slot.get?_clear _
      exact hset.spares (c := .now) spares_reclaim fun _ => nofun

/-- A slot that was cleared is empty unless a job has made a handler for it
since. -/
theorem Runs.slotEmpty {start : Gateway} (hruns : start.Runs log g) {before after : List Deed}
    (hlog : log = before ++ .cleared t kind :: after)
    (hmade : ∀ d ∈ after, d.made? ≠ some (t, kind)) : g.SlotEmpty t kind := by
  induction hruns generalizing after with
  | start =>
      exact absurd hlog.symm
        (List.append_ne_nil_of_right_ne_nil before (List.cons_ne_nil _ after))
  | step hruns hstep ih =>
      rcases List.eq_nil_or_concat after with rfl | ⟨after', d', rfl⟩
      · obtain ⟨-, hd⟩ := List.append_inj' hlog rfl
        cases hd
        exact slotEmpty_of_cleared hstep
      · rw [List.concat_eq_append, ← List.cons_append, ← List.append_assoc] at hlog
        obtain ⟨hlog', hd⟩ := List.append_inj' hlog rfl
        cases hd
        refine (ih hlog' fun d hd => hmade d ?_).step hstep (hmade _ ?_)
        · rw [List.concat_eq_append]
          exact List.mem_append_left _ hd
        · rw [List.concat_eq_append]
          exact List.mem_append_right _ (List.mem_singleton.2 rfl)

/-- Once the work of a tenant is done, of all the sessions that were ever
opened for it the only one still open is that of the handler in its system
slot; and a slot that was cleared before is empty unless a job has made a
handler for it since. -/
theorem left_open_of_idle {config : Config} {clock : Timestamp} {overflow : Overflow}
    {start : Gateway}
    (hcreate : create config clock overflow = .ok start) (hruns : start.Runs log g)
    (hidle : ¬ g.Busy t) :
    (∀ d ∈ log, ∀ s, d.opened? = some (t, s) →
      (s ∈ g.remote.connected ↔ g.SystemSession t s))
    ∧ ∀ kind before after, log = before ++ .cleared t kind :: after →
      (∀ d ∈ after, d.made? ≠ some (t, kind)) → g.SlotEmpty t kind := by
  obtain ⟨hands, owner, h⟩ := hruns.accounted hcreate
  refine ⟨fun d hd s hopened => ?_, fun kind before after hlog hmade =>
    hruns.slotEmpty hlog hmade⟩
  rw [← h.owned_iff hidle, h.balanced.connected, Option.isSome_iff_exists]
  constructor
  · rintro ⟨w, hw⟩
    exact ⟨w, hw, (h.homes d hd t s hopened).2 w hw⟩
  · rintro ⟨w, hw, -⟩
    exact ⟨w, hw⟩

end

/-- The turns of whoever shuts a tenant down. -/
def shutDownOf (t : Nat) : List Turn :=
  PoolKind.all.map (.shut t) ++ HandlerKind.all.map (.clear t)

/-- A check of the system waits in the queue while its tenant is shut
down. -/
def waiting : List Turn := requested ++ shutDownOf 0

/-- The check that is made late opens a session, and leaves it in the slot. -/
theorem left_open_of_late_check :
    ∃ log g, (create {} ⟨0, 0⟩ .panics = .ok dawn ∧ dawn.Runs log g ∧ ¬ g.Busy 0)
      ∧ (∃ d ∈ log, d.opened? = some (0, 1))
      ∧ (∀ d ∈ log, ∀ s, d.opened? = some (0, s) →
        (s ∈ g.remote.connected ↔ g.SystemSession 0 s))
      ∧ ∀ kind before after, log = before ++ .cleared 0 kind :: after →
        (∀ d ∈ after, d.made? ≠ some (0, kind)) → g.SlotEmpty 0 kind := by
  have hcreate : create {} ⟨0, 0⟩ .panics = .ok dawn := rfl
  have hruns := runs_played dawn (waiting ++ served) rfl
  have hleft := left_open_of_idle hcreate hruns (not_busy_of_pending rfl 0)
  exact ⟨_, _, ⟨hcreate, hruns, not_busy_of_pending rfl 0⟩,
    ⟨_, List.mem_of_getElem? (i := 14) rfl, rfl⟩, hleft⟩

/-- A tenant that has been shut down, and whose work has been waited for, can
be left with a handler and an open session: a job that waited in a queue made
them after the slots had been cleared. -/
theorem join_leaves_a_session :
    ∃ before g₀ after g x₀ x, dawn.Runs before g₀ ∧ g₀.Runs after g
      ∧ (∀ kind, .cleared 0 kind ∈ before)
      ∧ g₀.tenants[0]? = some x₀ ∧ x₀.isShutDown = true ∧ x₀.slots.initialized = []
      ∧ g.tenants[0]? = some x ∧ x.isShutDown = true ∧ g.pending = 0
      ∧ x.slots.initialized = [.system]
      ∧ (∃ d ∈ after, d.opened? = some (0, 1)) ∧ 1 ∈ g.remote.connected := by
  have hbefore := runs_played dawn waiting rfl
  have hafter := runs_played ((dawn.play? waiting).get rfl).2 served rfl
  refine ⟨_, _, _, _, _, _, hbefore, hafter, fun kind => ?_, rfl, rfl, rfl, rfl, rfl, rfl, rfl,
    ⟨_, List.mem_of_getElem? (i := 3) rfl, rfl⟩, ?_⟩
  · cases kind with
    | jobs => exact List.mem_of_getElem? (i := 6) rfl
    | disks => exact List.mem_of_getElem? (i := 7) rfl
    | system => exact List.mem_of_getElem? (i := 8) rfl
    | subsystems => exact List.mem_of_getElem? (i := 9) rfl
    | commands => exact List.mem_of_getElem? (i := 10) rfl
  · exact List.mem_singleton.2 rfl

end CheckGateway.Gateway
