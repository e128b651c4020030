/-
What is true of the slots of tenants in every gateway that there can be.

It is enough that it is true of new slots, and that neither what clears slots nor the
calls of jobs can spoil it (`Durable`). So slots keep their names, and to obtain a
handler is one use of its slot (`obtain_uses_slot`). And no slot but the system's is
ever poisoned.

Every job that waits or is worked on is what is left of the program of a request, so
it makes only calls that such programs make (`Limited.runs`). None of them gives the
lock of such a slot back poisoned, and nothing else that can happen poisons one
(`SlotsSound.runs`): nobody is refused its lock (`SlotsSound.never_refused`).
-/
import CheckGateway.Proofs.Gateway.Items
import CheckGateway.Proofs.Gateway.Obtaining
import CheckGateway.Proofs.Gateway.Repertoire
import CheckGateway.Proofs.Gateway.Sessions

namespace CheckGateway.Gateway

open Job (Call)
open Routine (Ends)

/-- What is left to do at a station makes only calls of a kind. -/
def Station.Asks (P : Call → Prop) : Station → Prop
  | .waiting w => Job.Asks P w.routine
  | .taken (.running w) => Job.Asks P w.routine
  | _ => True

/-- Every job that waits or is worked on makes only calls of a kind. -/
def Limited (P : Call → Prop) (g : Gateway) : Prop :=
  ∀ t kind p, g.pool? t kind = some p → ∀ ticket s, Has p ticket s → s.Asks P

/-- No slot but the system's is poisoned. -/
def SlotsSound (g : Gateway) : Prop :=
  ∀ (t : Nat) (x : Tenant), g.tenants[t]? = some x →
    ∀ kind, kind ≠ .system → (x.slots.get kind).poisoned = false

/-- Something is true of every slot. -/
def Slotwise (P : HandlerKind → Slot Nat → Prop) (g : Gateway) : Prop :=
  ∀ (t : Nat) (x : Tenant), g.tenants[t]? = some x → ∀ kind, P kind (x.slots.get kind)

/-- What is true of new slots, and of slots that are cleared or that calls of a kind act
on if it was true before. -/
structure Durable (P : HandlerKind → Slot Nat → Prop) (Q : Call → Prop) : Prop where
  new : ∀ kind : HandlerKind, P kind ⟨kind.slotName, none, false⟩
  clear : ∀ kind s, P kind s → P kind s.clear
  call : ∀ kind s c a s', Q c → Reacts kind s c a s' → P kind s → P kind s'

section

variable {P : Call → Prop} {g g' start : Gateway} {d : Deed} {log : List Deed} {t : Nat}
  {kind : PoolKind} {x : Tenant} {p q : Pool Work Response} {s s' : Station} {ticket : Nat}

-- =================================================================== calls of a kind

theorem Station.Asks.moves {es : List Job.Exchange} (h : s.Asks P) (hmoves : Moves es s s') :
    s'.Asks P := by
  cases hmoves with
  | rest => exact h
  | take w => exact h
  | call gate a => exact ⟨h.makes.2 a⟩
  | wait r gate gate' => exact h
  | finish answer gate => exact trivial
  | release answer => exact trivial
  | deliver answer => exact trivial

/-- What the pools have once one of them has done something. -/
theorem Limited.pool (h : Limited P g) (hx : g.tenants[t]? = some x)
    {f : Pool Work Response → Pool Work Response}
    (hf : ∀ ticket s, Has (f (x.pools.get kind)) ticket s → s.Asks P) :
    Limited P (g.updatePool t kind f) := by
  intro t' kind' p hp
  rw [pool?_updatePool hx] at hp
  split at hp
  · cases hp
    exact hf
  · exact h t' kind' p hp

theorem Limited.rest (h : Limited P g) (hrests : Rests g g') : Limited P g' := by
  intro t kind p' hp' ticket s hhas
  rcases hrests.found t kind p' hp' with hnew | ⟨p, hp, hsame⟩
  · have hmem := hhas.mem
    rw [hnew] at hmem
    cases hmem
  · refine h t kind p hp ticket s ?_
    cases hhas with
    | waiting hmem hticket => exact .waiting (hsame.queue ▸ hmem) hticket
    | taken hmem hticket => exact .taken (hsame.taken ▸ hmem) hticket

theorem Limited.enqueue (h : Limited P g) (hx : g.tenants[t]? = some x) (fingerprint : String)
    {w : Work} {n : Nat} (hw : Job.Asks P w.routine) :
    Limited P
      { g.updatePool t kind fun p => p.enqueue ⟨n, fingerprint, w⟩ with tickets := n } := by
  have hpools : Limited P (g.updatePool t kind fun p => p.enqueue ⟨n, fingerprint, w⟩) := by
    refine h.pool hx fun ticket s hhas => ?_
    rcases has_enqueue_iff.1 hhas with hhas | ⟨-, rfl⟩
    · exact h t kind _ (pool?_eq hx kind) ticket s hhas
    · exact hw
  exact hpools

/-- Nothing comes to be done but what the programs of requests do. -/
theorem Limited.step (h : Limited P g) (hP : ∀ ctx r, Job.Asks P (CheckGateway.work ctx r))
    (hstep : Step g d g') : Limited P g' := by
  cases hstep.change with
  | rest _ hrests => exact h.rest hrests
  | @queue t x r _ hx heq =>
      have hprogram : Job.Asks P (g.program x r).routine := hP (g.context x) r
      subst heq
      exact h.enqueue hx r.payload hprogram
  | @take t x kind p _ hx htake heq =>
      subst heq
      have hold := h t kind _ (pool?_eq hx kind)
      cases hqueue : (x.pools.get kind).queue with
      | nil =>
          unfold Pool.take? at htake
          rw [hqueue] at htake
          cases htake
      | cons first rest =>
          obtain rfl := Pool.take?_eq hqueue htake
          refine h.pool hx fun ticket s hhas => ?_
          cases hhas with
          | waiting hmem hticket =>
              exact hold _ _ (.waiting (hqueue ▸ List.mem_cons_of_mem _ hmem) hticket)
          | taken hmem hticket =>
              rcases List.mem_append.1 hmem with hmem | hmem
              · exact hold _ _ (.taken hmem hticket)
              · rw [List.mem_singleton.1 hmem]
                exact hold first.ticket (.waiting first.job)
                  (.waiting (hqueue ▸ List.mem_cons_self) rfl)
  | @work g₁ x y o' stage hkeeps hanswers hx hy hticket hrests hmoves =>
      have h₁ := h.rest (rests_of_keeps hkeeps hanswers)
      have hold := h₁ o'.tenant o'.kind _ (pool?_eq hx o'.kind)
      have hown := hmoves o'
      rw [if_pos rfl] at hown
      have hstage : Station.Asks P (.taken stage) := (hold _ _ (.taken hy rfl)).moves hown
      refine (h₁.pool hx fun ticket s hhas => ?_).rest hrests
      cases hhas with
      | waiting hmem hticket => exact hold _ _ (.waiting hmem hticket)
      | taken hmem hticket =>
          obtain ⟨z, hz, rfl⟩ := List.mem_map.1 hmem
          split
          · exact hstage
          · exact hold _ _ (.taken hz rfl)
  | @deliver t x y kind answer _ hx _ _ heq =>
      subst heq
      have hold := h t kind _ (pool?_eq hx kind)
      have hpools : Limited P (g.updatePool t kind fun p =>
          { p with taken := p.taken.filter fun u => u.ticket ≠ y.ticket }) := by
        refine h.pool hx fun ticket s hhas => ?_
        cases hhas with
        | waiting hmem hticket => exact hold _ _ (.waiting hmem hticket)
        | taken hmem hticket => exact hold _ _ (.taken (List.mem_filter.1 hmem).1 hticket)
      exact hpools

theorem Limited.called (h : Limited P g) {o : Post} {c : Call} {a : Job.Answer c}
    (hstep : Step g (.called o c a) g') : P c := by
  cases hstep with
  | call hx hexecutes hperform =>
      obtain ⟨x, hx, y, hy, -, hstage⟩ := hexecutes
      have hasks := h o.tenant o.kind _ (pool?_eq hx o.kind) y.ticket _ (.taken hy rfl)
      rw [hstage] at hasks
      exact hasks.makes.1

theorem Limited.runs (h : Limited P g) (hP : ∀ ctx r, Job.Asks P (CheckGateway.work ctx r))
    (hruns : g.Runs log g') : Limited P g' := by
  induction hruns with
  | start => exact h
  | step hruns hstep ih => exact ih.step hP hstep

theorem limited_create {config : Config} {clock : Timestamp} {overflow : Overflow}
    (hcreate : create config clock overflow = .ok start) : Limited P start := by
  intro t kind p hp
  rw [create_eq hcreate] at hp
  cases hp

end

-- ======================================================================= the slots

section

variable {P : HandlerKind → Slot Nat → Prop} {Q : Call → Prop} {g g' start : Gateway} {d : Deed}
  {log : List Deed} {t : Nat} {x : Tenant}

theorem Slotwise.congr (h : Slotwise P g) (htenants : g'.tenants = g.tenants) :
    Slotwise P g' := by
  intro t x hx
  rw [htenants] at hx
  exact h t x hx

theorem Slotwise.update {f : Tenant → Tenant} (h : Slotwise P g)
    (hf : ∀ x kind, P kind (x.slots.get kind) → P kind ((f x).slots.get kind)) :
    Slotwise P (g.update t f) := by
  intro t' x' hx' kind
  rw [getElem?_update] at hx'
  obtain ⟨x, hx, rfl⟩ := Option.map_eq_some_iff.1 hx'
  split
  · exact hf x kind (h t' x hx kind)
  · exact h t' x hx kind

theorem Slotwise.reclaim (h : Slotwise P g) : Slotwise P (g.reclaim t) := by
  unfold Gateway.reclaim
  split
  · exact h
  · have hdisowned : Slotwise P (g.update t Tenant.disown) := h.update fun _ _ hslot => hslot
    exact hdisowned.congr rfl

theorem Slotwise.dropUnused (hdurable : Durable P Q) (h : Slotwise P g) :
    Slotwise P (g.dropUnused t) := by
  unfold Gateway.dropUnused
  split
  · exact h
  · have hclosed : Slotwise P (g.close t) := by
      refine h.update fun x kind hslot => ?_
      show P kind (x.slots.clear.get kind)
      rw [get_clear]
      exact hdurable.clear kind _ hslot
    exact hclosed.reclaim

/-- The call of a job does nothing to the slots of other tenants. -/
theorem Slotwise.perform (hdurable : Durable P Q) (h : Slotwise P g)
    (hx : g.tenants[t]? = some x) {gate : Option Nat} {c : Call} {a : Job.Answer c} (hc : Q c)
    (hperform : g.perform t x gate c = .answered a g') : Slotwise P g' := by
  intro t' y hy kind
  have hspares := spares_perform g t x gate c
  rw [show (g.perform t x gate c).state = g' from congrArg Performed.state hperform] at hspares
  obtain ⟨z, hz, helse, -⟩ := hspares.tenants t' y hy
  by_cases ht : t' = t
  · subst ht
    obtain ⟨x', hx', hreacts⟩ := reacts_of_perform kind hx hperform
    obtain rfl := Option.some.inj (hy.symm.trans hx')
    exact hdurable.call kind _ c a _ hc hreacts (h t' x hx kind)
  · rw [helse ht]
    exact h t' z hz kind

theorem Slotwise.step (hdurable : Durable P Q) (h : Slotwise P g)
    (hcalled : ∀ o c a, d = .called o c a → Q c) (hstep : Step g d g') : Slotwise P g' := by
  have hpool {g : Gateway} (h : Slotwise P g) (t : Nat) (kind : PoolKind)
      (f : Pool Work Response → Pool Work Response) : Slotwise P (g.updatePool t kind f) :=
    h.update fun _ _ hslot => hslot
  have hqueued (t : Nat) (kind : PoolKind) (f : Pool Work Response → Pool Work Response) (n : Nat) :
      Slotwise P { g.updatePool t kind f with tickets := n } := hpool h t kind f
  cases hstep with
  | outside => exact h.congr rfl
  | @resolve g₁ who t hresolve =>
      rcases resolve_cases hresolve with ⟨t', -, rfl⟩ | ⟨_, _, _, -, rfl⟩
        | ⟨pools, n, hpools, -, rfl⟩
      · have htouch : Slotwise P (g.touch t') := h.update fun _ _ hslot => hslot
        exact htouch.congr rfl
      · exact h.congr rfl
      · intro t x hx kind
        rcases getElem?_concat_iff.1 hx with hx | ⟨-, rfl⟩
        · exact h t x hx kind
        · have hnew := hdurable.new kind
          cases kind <;> exact hnew
  | resolveFails hresolve =>
      rcases resolve_cases hresolve with ⟨_, ht, -⟩ | ⟨_, _, _, -, rfl⟩ | ⟨_, _, _, ht, -⟩
      · cases ht
      · exact h.congr rfl
      · cases ht
  | touch hkept => exact h.update fun _ _ hslot => hslot
  | accept hkept haccept =>
      obtain ⟨x, inFlight, -, -, rfl⟩ := accept_eq haccept
      exact h.update fun _ _ hslot => hslot
  | turnAway r hkept => exact h.update fun _ _ hslot => hslot
  | queue hkept hx hroom => exact hqueued _ _ _ _
  | take hx htake => exact hpool h _ _ _
  | call hx hexecutes hperform =>
      exact hpool (h.perform hdurable hx (hcalled _ _ _ rfl) hperform) _ _ _
  | wait hx hexecutes hperform => exact hpool (h.congr (tenants_waits hperform).1) _ _ _
  | finish hexecutes => exact (hpool h _ _ _).dropUnused hdurable
  | @serve t x kind y e p hx hy hserve =>
      have hserved := hpool h t kind fun _ => p
      cases e with
      | took ticket => exact hserved
      | released ticket fingerprint => exact hserved.update fun _ _ hslot => hslot
      | delivered ticket outcome => exact hserved.congr rfl
  | shut kind hkept hx => exact hpool h _ _ _
  | @clear t x kind hkept hx hfree =>
      have hcleared : Slotwise P (g.update t fun x =>
          { x with slots := x.slots.set kind (x.slots.get kind).clear }) := by
        refine h.update fun y other hslot => ?_
        show P other ((y.slots.set kind _).get other)
        rw [get_set]
        split
        next heq =>
          rw [← heq]
          exact hdurable.clear other _ hslot
        next => exact hslot
      exact hcleared.reclaim
  | remove hregistered => exact h.congr rfl
  | @letGo t hkept =>
      have hkeptLess : Slotwise P { g with kept := g.kept.erase t } := h.congr rfl
      exact hkeptLess.dropUnused hdurable

theorem slotwise_create {config : Config} {clock : Timestamp} {overflow : Overflow}
    (hcreate : create config clock overflow = .ok start) : Slotwise P start := by
  intro t x hx
  rw [create_eq hcreate] at hx
  cases hx

-- ===================================================================== their names

/-- A slot keeps its name, whatever is done to it. -/
theorem durable_name : Durable (fun kind s => s.name = kind.slotName) fun _ => True where
  new _ := rfl
  clear _ s hname := (Slot.name_clear s).trans hname
  call _ _ _ _ _ _ hreacts hname := hreacts.name.trans hname

/-- Slots have the names of their kinds, in every gateway that there can be. -/
theorem slot_names {config : Config} {clock : Timestamp} {overflow : Overflow}
    (hcreate : create config clock overflow = .ok start) (hruns : start.Runs log g) :
    Slotwise (fun kind s => s.name = kind.slotName) g := by
  induction hruns with
  | start => exact slotwise_create hcreate
  | step hruns hstep ih => exact ih.step durable_name (fun _ _ _ _ => trivial) hstep

/-- While nobody else touches a slot, to obtain its handler is one use of it. -/
theorem obtain_uses_slot {config : Config} {clock : Timestamp} {overflow : Overflow}
    (hcreate : create config clock overflow = .ok start) (hruns : start.Runs log g)
    (hx : g.tenants[t]? = some x) {kind : HandlerKind} {r : Except Fault Nat}
    (h : Ends (Responds t kind) (Handler.obtain kind).run g r g') :
    ∃ x' handler, g'.tenants[t]? = some x'
      ∧ (x.slots.get kind).getOrInit (.ok handler) = (r, x'.slots.get kind) := by
  obtain ⟨x', hx', hends⟩ := reacts_of_responds h hx
  have hname := slot_names hcreate hruns t x hx kind
  obtain ⟨_, ⟨handler, rfl⟩, huse⟩ := (ends_obtain_iff hname).1 hends
  exact ⟨x', handler, hx', huse⟩

/-- The same for the system handler, which may fail to be made. -/
theorem obtainSystem_uses_slot {config : Config} {clock : Timestamp} {overflow : Overflow}
    (hcreate : create config clock overflow = .ok start) (hruns : start.Runs log g)
    (hx : g.tenants[t]? = some x) {r : Except Fault Nat}
    (h : Ends (Responds t .system) Handler.obtainSystem.run g r g') :
    ∃ x' make, g'.tenants[t]? = some x'
      ∧ x.slots.system.getOrInit make = (r, x'.slots.system) := by
  obtain ⟨x', hx', hends⟩ := reacts_of_responds h hx
  have hname := slot_names hcreate hruns t x hx .system
  obtain ⟨make, huse⟩ := (ends_obtainSystem_iff hname).1 hends
  exact ⟨x', make, hx', huse⟩

-- ================================================================= their soundness

/-- A slot is sound, if it is not the system's. -/
def Unspoilt (kind : HandlerKind) (s : Slot Nat) : Prop := kind ≠ .system → s.poisoned = false

theorem slotsSound_iff : SlotsSound g ↔ Slotwise Unspoilt g := Iff.rfl

/-- Calls that give back no such lock poisoned leave slots sound. -/
theorem durable_unspoilt : Durable Unspoilt Handler.Gentle where
  new _ _ := rfl
  clear _ s hsound hkind := (Slot.poisoned_clear s).trans (hsound hkind)
  call kind _ _ _ _ hgentle hreacts hsound hkind := by
    rcases hreacts.poisoned with hkept | hpoisoned
    · rw [hkept]
      exact hsound hkind
    · exact absurd hpoisoned (hgentle kind hkind)

theorem slotsSound_create {config : Config} {clock : Timestamp} {overflow : Overflow}
    (hcreate : create config clock overflow = .ok start) : SlotsSound start :=
  slotsSound_iff.2 (slotwise_create hcreate)

theorem SlotsSound.queueing (h : SlotsSound g) (x : Tenant) (r : Request) :
    SlotsSound (g.queueing t x r) := by
  have hpools : Slotwise Unspoilt
      (g.updatePool t r.pool fun p => p.enqueue ⟨g.tickets + 1, r.payload, g.program x r⟩) :=
    (slotsSound_iff.1 h).update fun _ _ hslot => hslot
  exact hpools

theorem SlotsSound.runs (h : SlotsSound g) (hlimited : Limited Handler.Gentle g)
    (hruns : g.Runs log g') : SlotsSound g' := by
  induction hruns with
  | start => exact h
  | step hruns hstep ih =>
      have hslots := slotsSound_iff.1 ih
      refine slotsSound_iff.2 (hslots.step durable_unspoilt (fun o c a heq => ?_) hstep)
      subst heq
      exact (hlimited.runs Handler.gentle_work hruns).called hstep

/-- Whoever asks for the lock of a slot that is not the system's gets it. -/
theorem SlotsSound.acquired (h : SlotsSound g) {o : Post} {kind : HandlerKind} {taken : Bool}
    (hkind : kind ≠ .system) (hstep : Step g (.called o (.acquire (.slot kind)) taken) g') :
    taken = true := by
  cases hstep with
  | @call g₁ o x c a next gate hx hexecutes hperform =>
      have hsound : x.isPoisoned (.slot kind) = false := h o.tenant x hx kind hkind
      unfold Gateway.perform at hperform
      dsimp only at hperform
      rw [hsound] at hperform
      split at hperform
      · cases hperform
      · cases hperform
        rfl

/-- In a run that begins with sound slots, nobody is refused the lock of a slot that is
not the system's. -/
theorem SlotsSound.never_refused (h : SlotsSound g) (hlimited : Limited Handler.Gentle g)
    {kind : HandlerKind} (hkind : kind ≠ .system) (hruns : g.Runs log g') (o : Post) :
    ⟨.acquire (.slot kind), false⟩ ∉ exchanges o log := by
  induction hruns with
  | start => exact List.not_mem_nil
  | @step log d g₁ g₂ hruns hstep ih =>
      rw [exchanges_append, List.mem_append]
      rintro (hmem | hmem)
      · exact ih hmem
      · obtain ⟨d', hd', heq⟩ := List.mem_filterMap.1 hmem
        rw [List.mem_singleton.1 hd'] at heq
        cases d with
        | called o' c a =>
            unfold Deed.exchange? at heq
            dsimp only at heq
            split at heq
            · cases heq
              have hsound := h.runs hlimited hruns
              exact absurd (hsound.acquired hkind hstep) Bool.false_ne_true
            · cases heq
        | _ => cases heq

end

end CheckGateway.Gateway
