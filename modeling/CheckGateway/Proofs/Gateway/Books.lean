/-
The books of a gateway, kept through everything that can happen.

`Accounted` puts together who has which session (`Balanced`), who works on
what (`Staffed`), that a tenant nobody refers to has an empty system slot
(`Vacant`), and that a session is never found with another tenant than the
one for which it was opened (`Homes`). `Accounted.step` goes through all
that can happen. Most of it is quiet: it moves neither sessions nor
handlers, and only the pools have to be looked at.
-/
import CheckGateway.Proofs.Gateway.Staff
import CheckGateway.Proofs.Pool.Served

namespace CheckGateway.Gateway

open Job (Grip Steady)

/-- Every pool of every tenant is staffed, and nobody works elsewhere. -/
structure Staffed (g : Gateway) (hands : Hands) : Prop where
  pools : ∀ (t : Nat) (x : Tenant), g.tenants[t]? = some x → ∀ kind,
    Staffs (fun ticket => hands ⟨t, kind, ticket⟩) g.tickets (x.pools.get kind)
  nobody : ∀ o, g.tenants[o.tenant]? = none → hands o = {}

/-- The system slot of a tenant that nobody refers to is empty. -/
def Vacant (g : Gateway) : Prop :=
  ∀ (t : Nat) (x : Tenant), g.tenants[t]? = some x → ¬ g.Referenced t →
    x.slots.system.get? = none

/-- Sessions that were opened for a tenant have no owner elsewhere. -/
def Homes (log : List Deed) (g : Gateway) (owner : Nat → Option Owner) : Prop :=
  ∀ d ∈ log, ∀ t n, d.opened? = some (t, n) →
    n ≤ g.remote.attempts ∧ ∀ w, owner n = some w → w.tenant = t

/-- The books of a gateway: what its workers have in their hands and who owns its
sessions. -/
structure Accounted (log : List Deed) (g : Gateway) (hands : Hands)
    (owner : Nat → Option Owner) : Prop where
  balanced : Balanced g hands owner
  staffed : Staffed g hands
  vacant : Vacant g
  homes : Homes log g owner

section

variable {log : List Deed} {d : Deed} {g g' : Gateway} {hands hands' : Hands}
  {owner owner' : Nat → Option Owner} {t : Nat} {x x' : Tenant} {o : Post}
  {kind : PoolKind} {f : Pool Work Response → Pool Work Response}

-- ===================================================================== pools

/-- Pools stay staffed where nothing happens to them. -/
theorem Staffed.keeps (h : Staffed g hands) (hkeeps : Keeps g g') : Staffed g' hands := by
  refine ⟨fun t x' hx' kind => ?_, fun o ho => h.nobody o ?_⟩
  · have htraffic := hkeeps.traffic t
    rw [hx'] at htraffic
    obtain ⟨x, hx, hsame⟩ := Option.map_eq_some_iff.1 htraffic.symm
    have hpools : x.pools = x'.pools := congrArg Prod.snd hsame
    rw [hkeeps.tickets, ← hpools]
    exact h.pools t x hx kind
  · have htraffic := hkeeps.traffic o.tenant
    rw [ho] at htraffic
    exact Option.map_eq_none_iff.1 htraffic.symm

/-- Changing a pool of a tenant changes no other tenant. -/
theorem tenants_updatePool (hx : g.tenants[t]? = some x) (kind : PoolKind)
    (f : Pool Work Response → Pool Work Response) (t' : Nat) :
    (g.updatePool t kind f).tenants[t']? =
      if t' = t then some { x with pools := x.pools.set kind (f (x.pools.get kind)) }
      else g.tenants[t']? :=
  tenants_update hx t'

/-- One pool does something, and one worker's hands change at most. -/
theorem Staffed.pool (h : Staffed g hands) (hx : g.tenants[t]? = some x)
    (htenants : g'.tenants = (g.updatePool t kind f).tenants) (hle : g.tickets ≤ g'.tickets)
    (hf : Staffs (fun ticket => hands' ⟨t, kind, ticket⟩) g'.tickets (f (x.pools.get kind)))
    (hagree : ∀ o, (o.tenant = t → o.kind ≠ kind) → hands' o = hands o) :
    Staffed g' hands' := by
  have hat (t' : Nat) := tenants_updatePool hx kind f t'
  rw [← htenants] at hat
  have helse {t' : Nat} {other : PoolKind} (hne : t' = t → other ≠ kind) :
      (fun ticket => hands' ⟨t', other, ticket⟩)
        = fun ticket => hands ⟨t', other, ticket⟩ :=
    funext fun ticket => hagree _ hne
  refine ⟨fun t' y hy other => ?_, fun o ho => ?_⟩
  · rw [hat] at hy
    split at hy
    next heq =>
      subst heq
      cases hy
      dsimp only
      rw [TenantPools.get_set]
      split
      next heq =>
        subst heq
        exact hf
      next hne =>
        rw [helse fun _ => hne]
        exact (h.pools t' x hx other).mono hle
    next hne =>
      rw [helse fun heq => absurd heq hne]
      exact (h.pools t' y hy other).mono hle
  · rw [hat] at ho
    split at ho
    next => cases ho
    next hne =>
      rw [hagree o fun heq => absurd heq hne]
      exact h.nobody o ho

/-- In one pool, only what is in one worker's hands changes. -/
theorem update_post (G : Grip) :
    (fun ticket => Function.update hands o G ⟨o.tenant, o.kind, ticket⟩)
      = Function.update (fun ticket => hands ⟨o.tenant, o.kind, ticket⟩) o.ticket G := by
  funext ticket
  by_cases hticket : ticket = o.ticket
  · subst hticket
    rw [Function.update_self, Function.update_self]
  · rw [Function.update_of_ne hticket, Function.update_of_ne]
    exact fun heq => hticket (congrArg Post.ticket heq)

/-- A worker goes on with the hands that it has now. -/
theorem Staffed.advance (h : Staffed g hands) (hx : g.tenants[o.tenant]? = some x)
    {y : Taken Work Response} (hy : y ∈ (x.pools.get o.kind).taken)
    (hticket : y.ticket = o.ticket) (G : Grip) (stage : Stage Work Response)
    (hstage : Fulfils stage G) :
    Staffed (g.updatePool o.tenant o.kind fun p =>
        p.update o.ticket fun y => { y with stage := stage })
      (Function.update hands o G) := by
  refine h.pool hx rfl (Nat.le_refl _) ?_ fun o' ho' => ?_
  · rw [update_post]
    exact (h.pools _ x hx o.kind).advance hy hticket G stage hstage
  · apply Function.update_of_ne
    rintro rfl
    exact ho' rfl rfl

/-- What is executed gives back what is in the worker's hands. -/
theorem Staffed.givesBack (h : Staffed g hands) {w : Work} (hexecutes : g.Executes o w) :
    GivesBack w.routine (hands o) := by
  obtain ⟨x, hx, y, hy, hticket, hstage⟩ := hexecutes
  have hfulfils := (h.pools _ x hx o.kind).taken y hy
  rw [hstage, hticket] at hfulfils
  exact hfulfils

/-- Whoever has something in the hands has work to do. -/
theorem Staffed.idle (h : Staffed g hands) (hidle : ¬ g.Busy o.tenant) : hands o = {} := by
  cases hx : g.tenants[o.tenant]? with
  | none => exact h.nobody o hx
  | some x =>
      have hpool := h.pools _ x hx o.kind
      by_cases hworks : ∃ y ∈ (x.pools.get o.kind).taken, y.ticket = o.ticket
      · obtain ⟨y, hy, hticket⟩ := hworks
        have hfulfils := hpool.taken y hy
        rw [hticket] at hfulfils
        cases hstage : y.stage with
        | running w => exact absurd ⟨x, hx, o.kind, .inr ⟨y, hy, w, hstage⟩⟩ hidle
        | finished outcome =>
            rw [hstage] at hfulfils
            exact hfulfils
        | released outcome =>
            rw [hstage] at hfulfils
            exact hfulfils
      · exact hpool.idle _ fun y hy hticket => hworks ⟨y, hy, hticket⟩

-- ================================================================ references

/-- A tenant is still referred to if nobody has let go of it. -/
theorem Referenced.imp (h : g.Referenced t)
    (hregistered : t ∈ g.registered → t ∈ g'.registered ∨ t ∈ g'.kept)
    (hkept : t ∈ g.kept → t ∈ g'.kept) (hbusy : g.Busy t → g'.Busy t) :
    g'.Referenced t := by
  rcases h with h | h | h
  · rcases hregistered h with h | h
    · exact .inl h
    · exact .inr (.inl h)
  · exact .inr (.inl (hkept h))
  · exact .inr (.inr (hbusy h))

/-- A tenant stays busy where nothing happens to its pools. -/
theorem Busy.keeps (h : g.Busy t) (hkeeps : Keeps g g') : g'.Busy t := by
  obtain ⟨x, hx, kind, hwork⟩ := h
  have htraffic := hkeeps.traffic t
  rw [hx] at htraffic
  obtain ⟨x', hx', hsame⟩ := Option.map_eq_some_iff.1 htraffic
  have hpools : x'.pools = x.pools := congrArg Prod.snd hsame
  exact ⟨x', hx', kind, hpools ▸ hwork⟩

/-- It stays busy if a pool that has work keeps some. -/
theorem Busy.pool (h : g.Busy t) {t' : Nat} (hx : g.tenants[t']? = some x)
    (hwork : (x.pools.get kind).HasWork → (f (x.pools.get kind)).HasWork) :
    (g.updatePool t' kind f).Busy t := by
  obtain ⟨y, hy, other, hother⟩ := h
  have htenants := tenants_updatePool hx kind f t
  by_cases ht : t = t'
  · subst ht
    rw [hx] at hy
    cases hy
    rw [if_pos rfl] at htenants
    refine ⟨_, htenants, other, ?_⟩
    dsimp only
    rw [TenantPools.get_set]
    split
    next heq =>
      subst heq
      exact hwork hother
    next => exact hother
  · rw [if_neg ht] at htenants
    exact ⟨y, htenants.trans hy, other, hother⟩

/-- A pool that has work makes its tenant busy. -/
theorem busy_pool (hx : g.tenants[t]? = some x) (hwork : (f (x.pools.get kind)).HasWork) :
    (g.updatePool t kind f).Busy t := by
  have htenants := tenants_updatePool hx kind f t
  rw [if_pos rfl] at htenants
  refine ⟨_, htenants, kind, ?_⟩
  dsimp only
  rw [TenantPools.get_set, if_pos rfl]
  exact hwork

/-- Sessions stay with their tenants, and new ones have later numbers. -/
theorem Homes.stay (h : Homes log g owner) (hle : g.remote.attempts ≤ g'.remote.attempts)
    (hstays : Stays g owner owner') : Homes log g' owner' := by
  intro d hd t n hopened
  obtain ⟨hn, hhome⟩ := h d hd t n hopened
  refine ⟨Nat.le_trans hn hle, fun w hw => ?_⟩
  obtain ⟨w', hw', heq⟩ := hstays n hn w hw
  exact heq ▸ hhome w' hw'

/-- One more session belongs to the tenant that it was opened for. -/
theorem Homes.snoc (h : Homes log g owner)
    (hd : ∀ t n, d.opened? = some (t, n) →
      n ≤ g.remote.attempts ∧ ∀ w, owner n = some w → w.tenant = t) :
    Homes (log ++ [d]) g owner := by
  intro d' hd' t n hopened
  rcases List.mem_append.1 hd' with hd' | hd'
  · exact h d' hd' t n hopened
  · rw [List.mem_singleton.1 hd'] at hopened
    exact hd t n hopened

/-- What opens no session leaves the books as they are. -/
theorem Accounted.snoc (h : Accounted log g hands owner) (hd : d.opened? = none) :
    Accounted (log ++ [d]) g hands owner := by
  refine { h with homes := h.homes.snoc fun t n hopened => ?_ }
  rw [hd] at hopened
  cases hopened

-- ============================================================== quiet steps

/-- Slots stay empty where no tenant is let go and no slot is filled. -/
theorem Vacant.congr (h : Vacant g)
    (hholdings : ∀ t : Nat, g'.tenants[t]?.map holdings = g.tenants[t]?.map holdings)
    (hlasts : ∀ t, g.Referenced t → g'.Referenced t) : Vacant g' := by
  intro t x' hx' hgone
  have heq := hholdings t
  rw [hx'] at heq
  obtain ⟨x, hx, hsame⟩ := Option.map_eq_some_iff.1 heq.symm
  rw [← (holdings_eq_iff.1 hsame).1]
  exact h t x hx fun href => hgone (hlasts t href)

/-- Neither sessions nor handlers move. -/
theorem Accounted.quiet (h : Accounted log g hands owner)
    (hbalanced : Balanced g' hands owner) (hle : g.remote.attempts ≤ g'.remote.attempts)
    (hholdings : ∀ t : Nat, g'.tenants[t]?.map holdings = g.tenants[t]?.map holdings)
    (hstaffed : Staffed g' hands) (hlasts : ∀ t, g.Referenced t → g'.Referenced t) :
    Accounted log g' hands owner :=
  ⟨hbalanced, hstaffed, h.vacant.congr hholdings hlasts, h.homes.stay hle .refl⟩

/-- What is no tenant's changes, without anybody being forgotten. -/
theorem Accounted.aside (h : Accounted log g hands owner) (hremote : g'.remote = g.remote)
    (htenants : g'.tenants = g.tenants) (htickets : g'.tickets = g.tickets)
    (hlasts : ∀ t, g.Referenced t → g'.Referenced t) : Accounted log g' hands owner := by
  have hheld (t : Nat) : g'.tenants[t]?.map holdings = g.tenants[t]?.map holdings := by
    rw [htenants]
  have hkeeps : Keeps g g' := ⟨htickets, fun t => by rw [htenants]⟩
  exact h.quiet (h.balanced.congr (hremote ▸ h.balanced.orderly) (congrArg _ hremote) hheld)
    (Nat.le_of_eq (congrArg _ hremote.symm)) hheld (h.staffed.keeps hkeeps) hlasts

/-- Something about a tenant changes that no session, handler or pool depends
on. -/
theorem Accounted.update (h : Accounted log g hands owner)
    {f : Tenant → Tenant} (hf : ∀ x, holdings (f x) = holdings x)
    (hpools : ∀ x, (f x).pools = x.pools) : Accounted log (g.update t f) hands owner := by
  have hat (t' : Nat) := getElem?_update g t t' f
  have hheld := holdings_update (g := g) (t := t) hf
  refine h.quiet (h.balanced.congr h.balanced.orderly rfl hheld) (Nat.le_refl _) hheld
    ⟨fun t' x' hx' kind => ?_, fun o ho => h.staffed.nobody o ?_⟩ fun t' href => ?_
  · rw [hat] at hx'
    obtain ⟨x, hx, rfl⟩ := Option.map_eq_some_iff.1 hx'
    have hsame : (if t = t' then f x else x).pools = x.pools := by
      split
      · exact hpools x
      · rfl
    rw [hsame]
    exact h.staffed.pools t' x hx kind
  · rw [hat] at ho
    exact Option.map_eq_none_iff.1 ho
  · refine href.imp .inl id fun ⟨x, hx, kind, hwork⟩ => ?_
    refine ⟨_, (hat t').trans (congrArg _ hx), kind, ?_⟩
    split
    · rw [hpools]
      exact hwork
    · exact hwork

/-- What a tenant keeps is not in its pools. -/
theorem holdings_updatePool (t' : Nat) :
    (g.updatePool t kind f).tenants[t']?.map holdings = g.tenants[t']?.map holdings :=
  holdings_update (f := fun x => { x with pools := x.pools.set kind (f (x.pools.get kind)) })
    (fun _ => rfl) t'

/-- The books do not depend on the pools. -/
theorem Balanced.updatePool (H : Balanced g hands owner) (t : Nat) (kind : PoolKind)
    (f : Pool Work Response → Pool Work Response) :
    Balanced (g.updatePool t kind f) hands owner :=
  H.congr H.orderly rfl holdings_updatePool

/-- A pool does something that is no business of any job. -/
theorem Accounted.pool (h : Accounted log g hands owner)
    (hx : g.tenants[t]? = some x) {n : Nat} (hle : g.tickets ≤ n)
    (hf : Staffs (fun ticket => hands ⟨t, kind, ticket⟩) n (f (x.pools.get kind)))
    (hwork : (x.pools.get kind).HasWork → (f (x.pools.get kind)).HasWork) :
    Accounted log { g.updatePool t kind f with tickets := n } hands owner := by
  have H' := h.balanced.updatePool t kind f
  refine h.quiet (H'.congr H'.orderly rfl fun _ => rfl) (Nat.le_refl _) holdings_updatePool
    (h.staffed.pool hx rfl hle hf fun _ _ => rfl) fun t' href => ?_
  exact href.imp .inl id fun hbusy => hbusy.pool hx hwork

-- ================================================================= forgetting

/-- A tenant backs its jobs though its system slot is cleared, if none of them holds
that slot. -/
theorem Backs.cleared (hbacks : Backs hands t x)
    (hfree : ∀ o, o.tenant = t → .slot .system ∉ (hands o).locks)
    (hslot : x'.slots.system = x.slots.system.clear) (hsystems : x'.systems = x.systems)
    (hlocked : x'.locked = x.locked) : Backs hands t x' := by
  have hget : x'.slots.system.get? = none := by
    rw [hslot]
    exact Slot.get?_clear _
  have hhandler (h : Nat) (hh : x'.slots.system.handler = some h) :
      x.slots.system.handler = some h := by
    rw [hslot] at hh
    unfold Slot.clear at hh
    split at hh
    · exact hh
    · cases hh
  refine ⟨fun o ho => ?_, hbacks.exclusive, ?_, fun h hh => ?_, fun hpoisoned => ?_,
    fun h y hy hknown => ?_⟩
  · have hfit := hbacks.fits o ho
    refine hfit.mono (hlocked ▸ hfit.locked) (fun hlock => absurd hlock (hfree o ho))
      fun h _ y hy => ⟨y, ?_, fun _ _ => rfl⟩
    rwa [hsystems]
  · rw [hsystems]
    exact hbacks.used
  · rw [hsystems]
    exact hbacks.filled h (hhandler h hh)
  · rw [hslot] at hpoisoned ⊢
    unfold Slot.clear at hpoisoned ⊢
    split at hpoisoned
    next hp =>
      rw [if_pos hp]
      exact hbacks.poisoned hp
    next hp => exact absurd hpoisoned hp
  · rw [hsystems] at hy
    exact hbacks.alive h y hy (not_dropped_of_users (users_of_not_dropped hknown hget))

/-- The system slot forgets its handler, and what nobody knows any more is
disconnected. -/
theorem Balanced.forgotten (H : Balanced g hands owner) (hx : g.tenants[t]? = some x)
    (hfree : ∀ o, o.tenant = t → .slot .system ∉ (hands o).locks) {f : Tenant → Tenant}
    (hslot : (f x).slots.system = x.slots.system.clear) (hsystems : (f x).systems = x.systems)
    (hlocked : (f x).locked = x.locked) :
    Balanced ((g.update t f).reclaim t) hands (disowned owner (f x).orphans) := by
  have htenants := tenants_update (f := f) hx
  have hx' : (g.update t f).tenants[t]? = some (f x) := by rw [htenants, if_pos rfl]
  have H' : Holds (g.update t f) hands owner := by
    refine H.toHolds.locally hx htenants H.orderly
      ((H.backs t x hx).cleared hfree hslot hsystems hlocked) (fun _ _ => rfl) H.connected H.hand
      (fun h s => ?_) fun _ _ _ _ => .rfl
    rw [retains_congr hsystems fun _ _ => rfl]
    exact H.retains hx
  refine H'.reclaim hx' fun t' y hne hy => ?_
  rw [htenants, if_neg hne] at hy
  exact H.tidy t' y hy

/-- What is done to all pools is done to each. -/
theorem pools_get_map (ps : TenantPools)
    (f : Pool Work Response → Pool Work Response) (kind : PoolKind) :
    (ps.map f).get kind = f (ps.get kind) := by
  cases kind <;> rfl

/-- A pool that is shut down keeps its workers. -/
theorem staffs_shutDown {fs : Nat → Grip} {n : Nat} {p : Pool Work Response}
    (h : Staffs fs n p) : Staffs fs n p.shutDown :=
  ⟨h.distinct, h.numbered, h.queued, h.taken, h.idle⟩

/-- A tenant that there is not cannot be shut down. -/
theorem shutDownTenant_of_absent (hx : g.tenants[t]? = none) : g.shutDownTenant t = g := by
  have hclose : g.close t = g := by
    unfold close update
    rw [List.modify_eq_self (List.getElem?_eq_none_iff.1 hx)]
  unfold shutDownTenant
  rw [hclose]
  unfold reclaim
  rw [hx]

/-- Closing a tenant shuts its pools down and clears its slots, and touches no other. -/
theorem tenants_close (hx : g.tenants[t]? = some x) (t' : Nat) :
    (g.close t).tenants[t']? =
      if t' = t then some { x with pools := x.pools.map Pool.shutDown, slots := x.slots.clear }
      else g.tenants[t']? :=
  tenants_update hx t'

/-- Its workers still have their items. -/
theorem Staffed.close (h : Staffed g hands) (hx : g.tenants[t]? = some x) :
    Staffed (g.close t) hands := by
  refine ⟨fun t' y hy kind => ?_, fun o ho => ?_⟩
  · rw [tenants_close hx] at hy
    split at hy
    next heq =>
      subst heq
      cases hy
      dsimp only
      rw [pools_get_map]
      exact staffs_shutDown (h.pools t' x hx kind)
    next => exact h.pools t' y hy kind
  · rw [tenants_close hx] at ho
    split at ho
    · cases ho
    · exact h.nobody o ho

/-- The system slots of all tenants but one are empty if nobody refers to
the tenant. -/
def VacantElsewhere (g : Gateway) (t : Nat) : Prop :=
  ∀ (t' : Nat) (x : Tenant), t' ≠ t → g.tenants[t']? = some x → ¬ g.Referenced t' →
    x.slots.system.get? = none

/-- A tenant that is shut down has an empty system slot, referred to or not. -/
theorem VacantElsewhere.shutDownTenant (h : VacantElsewhere g t)
    (hx : g.tenants[t]? = some x) : Vacant (g.shutDownTenant t) := by
  have hspares : Spares t .now (g.close t) (g.shutDownTenant t) := spares_reclaim
  intro t' y' hy' hgone
  obtain ⟨y, hy, helse, hslots⟩ := hspares.tenants t' y' hy'
  rw [tenants_close hx] at hy
  split at hy
  next =>
    cases hy
    exact hslots .system nofun (Slot.get?_clear x.slots.system)
  next hne =>
    rw [helse hne]
    refine h t' y hne hy fun href => hgone ?_
    refine href.imp (fun h => .inl (hspares.registered ▸ h)) (fun h => hspares.kept ▸ h) ?_
    rintro ⟨z, hz, hwork⟩
    refine Busy.keeps (g := g.close t) ⟨z, ?_, hwork⟩ (keeps_reclaim _ t)
    rw [tenants_close hx, if_neg hne]
    exact hz

/-- A tenant that nobody refers to is dropped with what its slots hold. -/
theorem drop_unused (hbalanced : Balanced g hands owner) (hstaffed : Staffed g hands)
    (hvacant : VacantElsewhere g t) :
    ∃ owner', Balanced (g.dropUnused t) hands owner' ∧ Staffed (g.dropUnused t) hands
      ∧ Vacant (g.dropUnused t) ∧ Stays g owner owner'
      ∧ (g.dropUnused t).remote.attempts = g.remote.attempts := by
  unfold dropUnused
  by_cases href : g.Referenced t
  · rw [if_pos href]
    refine ⟨owner, hbalanced, hstaffed, fun t' x hx hgone => ?_, .refl, rfl⟩
    refine hvacant t' x (fun heq => ?_) hx hgone
    exact hgone (heq ▸ href)
  rw [if_neg href]
  cases hx : g.tenants[t]? with
  | none =>
      rw [shutDownTenant_of_absent hx]
      refine ⟨owner, hbalanced, hstaffed, fun t' x' hx' => ?_, .refl, rfl⟩
      refine hvacant t' x' (fun heq => ?_) hx'
      rw [heq, hx] at hx'
      cases hx'
  | some x =>
      -- nobody works for the tenant, so nobody has the lock of its slot
      have hidle : ¬ g.Busy t := fun hbusy => href (.inr (.inr hbusy))
      have hfree (o : Post) (ho : o.tenant = t) : .slot .system ∉ (hands o).locks := by
        rw [hstaffed.idle (ho ▸ hidle)]
        exact List.not_mem_nil
      exact ⟨_, hbalanced.forgotten hx hfree rfl rfl rfl,
        (hstaffed.close hx).keeps (keeps_reclaim _ t), hvacant.shutDownTenant hx,
        stays_disowned, attempts_reclaim _ t⟩

-- ====================================================================== jobs

/-- A tenant is the same to its pools after a call. -/
theorem pools_of_keeps (hkeeps : Keeps g g') (hx : g.tenants[t]? = some x) :
    ∃ x', g'.tenants[t]? = some x' ∧ x'.pools = x.pools := by
  have htraffic := hkeeps.traffic t
  rw [hx] at htraffic
  obtain ⟨x', hx', hsame⟩ := Option.map_eq_some_iff.1 htraffic
  exact ⟨x', hx', congrArg Prod.snd hsame⟩

/-- A worker goes on after a call, with the hands that it has now. -/
theorem Staffed.resume (h : Staffed g hands) (hkeeps : Keeps g g') {w : Work}
    (hexecutes : g.Executes o w) (w' : Work) {G : Grip} (hG : GivesBack w'.routine G) :
    Staffed (g'.updatePool o.tenant o.kind fun p => p.resume o.ticket w')
        (Function.update hands o G)
      ∧ (g'.updatePool o.tenant o.kind fun p => p.resume o.ticket w').Busy o.tenant := by
  obtain ⟨x, hx, y, hy, hticket, -⟩ := hexecutes
  obtain ⟨x', hx', hpools⟩ := pools_of_keeps hkeeps hx
  rw [← hpools] at hy
  exact ⟨(h.keeps hkeeps).advance hx' hy hticket G (.running w') hG,
    busy_pool hx' (hasWork_resume hy hticket w')⟩

/-- A job that goes on keeps everybody who is referred to so. -/
theorem Referenced.resume (href : g.Referenced t) (hkeeps : Keeps g g')
    (hregistered : g'.registered = g.registered) (hkept : g'.kept = g.kept) {w w' : Work}
    (hexecutes : g.Executes o w) :
    (g'.updatePool o.tenant o.kind fun p => p.resume o.ticket w').Referenced t := by
  obtain ⟨x, hx, y, hy, hticket, -⟩ := hexecutes
  obtain ⟨x', hx', hpools⟩ := pools_of_keeps hkeeps hx
  rw [← hpools] at hy
  refine href.imp (fun h => .inl (hregistered ▸ h)) (fun h => hkept ▸ h) fun hbusy => ?_
  exact (hbusy.keeps hkeeps).pool hx' fun _ => hasWork_resume hy hticket w'

/-- A session that a call opens is in the hands of its job then. -/
theorem opened_in_hands {G : Grip} {c : Job.Call} {a : Job.Answer c} {n : Nat}
    (hopened : (Deed.called o c a).opened? = some (t, n)) :
    t = o.tenant ∧ n ∈ (G.after c a).sessions := by
  cases c with
  | openSession =>
      unfold Deed.opened? at hopened
      dsimp only at hopened
      split at hopened
      · cases hopened
        exact ⟨rfl, List.mem_cons_self⟩
      · cases hopened
  | _ => cases hopened

/-- The books after a call that has been answered. -/
theorem Accounted.call (h : Accounted log g hands owner) {c : Job.Call} {a : Job.Answer c}
    {next : Job.Answer c → JobRoutine (Option Response)} {gate : Option Nat}
    (hx : g.tenants[o.tenant]? = some x) (hexecutes : g.Executes o ⟨.call c next, gate⟩)
    (hperform : g.perform o.tenant x gate c = .answered a g') :
    ∃ hands' owner', Accounted (log ++ [.called o c a])
      (g'.updatePool o.tenant o.kind fun p => p.resume o.ticket ⟨next a, none⟩)
      hands' owner' := by
  have hobeys := (h.staffed.givesBack hexecutes).obeys
  obtain ⟨hadmits, owner', hstays, H'⟩ := h.balanced.perform hx hobeys.1 hperform
  have hkeeps := keeps_perform g o.tenant x gate c
  have hspares := spares_perform g o.tenant x gate c
  have hle := attempts_perform g o.tenant x gate c
  have hstate : (g.perform o.tenant x gate c).state = g' := congrArg Performed.state hperform
  rw [hstate] at hkeeps hspares hle
  obtain ⟨hstaffed, hbusy⟩ := h.staffed.resume hkeeps hexecutes ⟨next a, none⟩
    ⟨hobeys.2 a hadmits⟩
  refine ⟨_, owner', H'.updatePool _ _ _, hstaffed, fun t' y hy hgone => ?_,
    (h.homes.stay hle hstays).snoc fun t' n hopened => ?_⟩
  · -- the job's own tenant is busy, and nothing has happened to the others
    have hne : t' ≠ o.tenant := by
      rintro rfl
      exact hgone (.inr (.inr hbusy))
    change (g'.update o.tenant _).tenants[t']? = some y at hy
    rw [getElem?_update] at hy
    obtain ⟨y', hy', rfl⟩ := Option.map_eq_some_iff.1 hy
    obtain ⟨z, hz, helse, -⟩ := hspares.tenants t' y' hy'
    rw [if_neg (Ne.symm hne), helse hne]
    refine h.vacant t' z hz fun href => hgone ?_
    exact href.resume hkeeps hspares.registered hspares.kept hexecutes
  · obtain ⟨rfl, hmem⟩ := opened_in_hands (G := hands o) hopened
    have hhand : n ∈ (Function.update hands o ((hands o).after c a) o).sessions := by
      rw [Function.update_self]
      exact hmem
    refine ⟨H'.orderly.numbered n (H'.connected_of_hand hhand), fun w hw => ?_⟩
    rw [(H'.hand o n).1 hhand] at hw
    cases hw
    rfl

/-- The books after a call that has to wait at a gate. -/
theorem Accounted.wait (h : Accounted log g hands owner) {c : Job.Call}
    {next : Job.Answer c → JobRoutine (Option Response)} {gate gate' : Option Nat}
    (hexecutes : g.Executes o ⟨.call c next, gate⟩)
    (hperform : g.perform o.tenant x gate c = .waits gate' g') :
    Accounted log
      (g'.updatePool o.tenant o.kind fun p => p.resume o.ticket ⟨.call c next, gate'⟩)
      hands owner := by
  have hobeys := h.staffed.givesBack hexecutes
  have H' := h.balanced.waits hobeys.obeys.1 hperform
  have hkeeps := keeps_perform g o.tenant x gate c
  have hle := attempts_perform g o.tenant x gate c
  obtain ⟨htenants, hregistered, hkept⟩ := tenants_waits hperform
  have hstate : (g.perform o.tenant x gate c).state = g' := congrArg Performed.state hperform
  rw [hstate] at hkeeps hle
  obtain ⟨hstaffed, -⟩ := h.staffed.resume hkeeps hexecutes ⟨.call c next, gate'⟩ hobeys
  rw [Function.update_eq_self] at hstaffed
  refine h.quiet (H'.updatePool _ _ _) hle (fun t' => ?_) hstaffed fun t' href =>
    href.resume hkeeps hregistered hkept hexecutes
  rw [holdings_updatePool, htenants]

/-- The books after a job is over: its hands are empty. -/
theorem Accounted.finish (h : Accounted log g hands owner) {answer : Option Response}
    {gate : Option Nat} (hexecutes : g.Executes o ⟨.done answer, gate⟩) :
    ∃ owner', Accounted log
      ((g.updatePool o.tenant o.kind fun p => p.finish o.ticket answer).dropUnused o.tenant)
      hands owner' := by
  have hempty : hands o = {} := (h.staffed.givesBack hexecutes).obeys
  obtain ⟨x, hx, y, hy, hticket, -⟩ := hexecutes
  have hstaffed := h.staffed.advance hx hy hticket {} (.finished answer) rfl
  rw [← hempty, Function.update_eq_self] at hstaffed
  have helse (t' : Nat) (hne : t' ≠ o.tenant) :
      (g.updatePool o.tenant o.kind fun p => p.finish o.ticket answer).tenants[t']?
        = g.tenants[t']? := (tenants_updatePool hx _ _ t').trans (if_neg hne)
  have hbalanced : Balanced (g.updatePool o.tenant o.kind fun p => p.finish o.ticket answer)
      hands owner := h.balanced.updatePool _ _ _
  obtain ⟨owner', hbalanced, hstaffed, hvacant, hstays, hattempts⟩ :=
    drop_unused (t := o.tenant) hbalanced hstaffed
      fun t' y hne hy hgone => by
        rw [helse t' hne] at hy
        refine h.vacant t' y hy fun href => hgone (href.imp .inl id ?_)
        rintro ⟨z, hz, hwork⟩
        exact ⟨z, (helse t' hne).trans hz, hwork⟩
  exact ⟨owner', hbalanced, hstaffed, hvacant,
    h.homes.stay (Nat.le_of_eq hattempts.symm) hstays⟩

-- ============================================================ coming and going

/-- What resolving an account can come to. -/
theorem resolve_cases {who : Credentials} {r : Except Fault Nat}
    (hresolve : g.resolve who = (r, g')) :
    (∃ t, r = .ok t ∧ g' = g.touch t)
      ∨ (∃ e n b, r = .error e ∧ g' = { g with poolsStarted := n, poisoned := b })
      ∨ ∃ pools n, (∀ kind, Pool.Fresh (pools.get kind)) ∧ r = .ok g.tenants.length
          ∧ g' = { g with
              poolsStarted := n
              tenants := g.tenants ++
                [{ credentials := who, pools := pools, lastUsed := g.clock }]
              registered := g.tenants.length :: g.registered } := by
  unfold resolve at hresolve
  split at hresolve
  · cases hresolve
    exact .inr (.inl ⟨_, g.poolsStarted, g.poisoned, rfl, rfl⟩)
  split at hresolve
  · cases hresolve
    exact .inl ⟨_, rfl, rfl⟩
  unfold register at hresolve
  split at hresolve
  · cases hresolve
    exact .inr (.inl ⟨_, _, _, rfl, rfl⟩)
  next pools n hstart =>
    cases hresolve
    obtain ⟨numbers, hpools⟩ := startPools_eq hstart
    exact .inr (.inr ⟨pools, n, fun kind => (Pool.start?_eq (hpools kind)).1, rfl, rfl⟩)

/-- A tenant that comes has no handlers yet. -/
theorem Balanced.register (H : Balanced g hands owner) {x : Tenant}
    (hhands : ∀ o : Post, o.tenant = g.tenants.length → hands o = {})
    (hslot : x.slots.system.handler = none) (hsystems : x.systems = [])
    (htenants : g'.tenants = g.tenants ++ [x]) (hremote : g'.remote = g.remote) :
    Balanced g' hands owner := by
  have hat {t : Nat} {y : Tenant} :
      g'.tenants[t]? = some y ↔ g.tenants[t]? = some y ∨ t = g.tenants.length ∧ y = x := by
    rw [htenants]
    exact getElem?_concat_iff
  refine ⟨⟨hremote ▸ H.orderly, fun t y hy => ?_, hremote ▸ H.connected, H.hand,
    fun t k s => ?_⟩, fun t y hy => ?_⟩
  · rcases hat.1 hy with hy | ⟨rfl, rfl⟩
    · exact H.backs t y hy
    · exact backs_new hslot hsystems hhands
  · rw [H.handler]
    refine exists_congr fun y => ?_
    rw [hat]
    refine ⟨fun hy => ⟨.inl hy.1, hy.2⟩,
      fun ⟨hy, hretains⟩ => ⟨hy.resolve_right ?_, hretains⟩⟩
    rintro ⟨-, rfl⟩
    obtain ⟨⟨z, hz, -⟩, -⟩ := hretains
    rw [hsystems] at hz
    cases hz
  · rcases hat.1 hy with hy | ⟨rfl, rfl⟩
    · exact H.tidy t y hy
    · intro k z hz
      rw [hsystems] at hz
      cases hz

/-- A tenant that comes has nothing yet, and nobody works for it. -/
theorem Accounted.register (h : Accounted log g hands owner) {x : Tenant}
    (hpools : ∀ kind, Pool.Fresh (x.pools.get kind)) (hslot : x.slots.system.handler = none)
    (hsystems : x.systems = []) (htenants : g'.tenants = g.tenants ++ [x])
    (hremote : g'.remote = g.remote) (htickets : g'.tickets = g.tickets)
    (hregistered : g'.registered = g.tenants.length :: g.registered)
    (hkept : ∀ t ∈ g.kept, t ∈ g'.kept) : Accounted log g' hands owner := by
  have hnew : g.tenants[g.tenants.length]? = none := List.getElem?_eq_none (Nat.le_refl _)
  have hhands (o : Post) (ho : o.tenant = g.tenants.length) : hands o = {} :=
    h.staffed.nobody o (ho ▸ hnew)
  have hat {t : Nat} {y : Tenant} :
      g'.tenants[t]? = some y ↔ g.tenants[t]? = some y ∨ t = g.tenants.length ∧ y = x := by
    rw [htenants]
    exact getElem?_concat_iff
  refine ⟨h.balanced.register hhands hslot hsystems htenants hremote,
    ⟨fun t y hy kind => ?_, fun o ho => ?_⟩, fun t y hy hgone => ?_,
    h.homes.stay (Nat.le_of_eq (congrArg _ hremote.symm)) .refl⟩
  · rw [htickets]
    rcases hat.1 hy with hy | ⟨rfl, rfl⟩
    · exact h.staffed.pools t y hy kind
    · exact staffs_new (hpools kind).queue (hpools kind).taken
        (funext fun ticket => hhands _ rfl)
  · refine h.staffed.nobody o ?_
    rw [htenants, List.getElem?_eq_none_iff, List.length_append] at ho
    exact List.getElem?_eq_none (Nat.le_of_add_right_le ho)
  · rcases hat.1 hy with hy | ⟨rfl, rfl⟩
    · refine h.vacant t y hy fun href => hgone (href.imp (fun hmem => ?_) (hkept t) ?_)
      · rw [hregistered]
        exact .inl (List.mem_cons_of_mem _ hmem)
      · rintro ⟨z, hz, hwork⟩
        exact ⟨z, hat.2 (.inl hz), hwork⟩
    · refine absurd (.inl ?_) hgone
      rw [hregistered]
      exact List.mem_cons_self

/-- The books after a caller has let go of a tenant. -/
theorem Accounted.letGo (h : Accounted log g hands owner) (t : Nat) :
    ∃ owner', Accounted log ({ g with kept := g.kept.erase t }.dropUnused t)
      hands owner' := by
  have hbalanced : Balanced { g with kept := g.kept.erase t } hands owner :=
    h.balanced.congr h.balanced.orderly rfl fun _ => rfl
  have hstaffed : Staffed { g with kept := g.kept.erase t } hands :=
    h.staffed.keeps ⟨rfl, fun _ => rfl⟩
  obtain ⟨owner', hbalanced, hstaffed, hvacant, hstays, hattempts⟩ :=
    drop_unused (t := t) hbalanced hstaffed fun t' x hne hx hgone =>
      h.vacant t' x hx fun href => hgone <| by
        rcases href with href | href | href
        · exact .inl href
        · exact .inr (.inl ((List.mem_erase_of_ne hne).2 href))
        · exact .inr (.inr href)
  exact ⟨owner', hbalanced, hstaffed, hvacant,
    h.homes.stay (Nat.le_of_eq hattempts.symm) hstays⟩

/-- The books after a slot that nobody holds has been cleared. -/
theorem Accounted.clear (h : Accounted log g hands owner) {kind : HandlerKind}
    (hx : g.tenants[t]? = some x) (hfree : .slot kind ∉ x.locked) :
    ∃ owner', Accounted log
      ((g.update t fun x =>
        { x with slots := x.slots.set kind (x.slots.get kind).clear }).reclaim t)
      hands owner' := by
  let f (x : Tenant) : Tenant :=
    { x with slots := x.slots.set kind (x.slots.get kind).clear }
  have htenants := tenants_update (f := f) hx
  have hkeeps : Keeps g ((g.update t f).reclaim t) :=
    Keeps.trans (keeps_update (f := f) fun _ => rfl) (keeps_reclaim _ t)
  have hspares : Spares t .now g ((g.update t f).reclaim t) := spares_clear
  have hbalanced : Balanced ((g.update t f).reclaim t) hands (disowned owner (f x).orphans) := by
    by_cases hkind : kind = .system
    · subst hkind
      refine h.balanced.forgotten hx (fun o ho hmem => hfree ?_) rfl rfl rfl
      exact ((h.balanced.backs t x hx).fits o ho).locked _ hmem
    · have hslots (y : Tenant) : (f y).slots.system = y.slots.system :=
        (get_set y.slots kind .system _).trans (if_neg (Ne.symm hkind))
      have hheld := holdings_update (g := g) (t := t) (f := f) fun y =>
        holdings_eq_iff.2 ⟨hslots y, rfl, rfl⟩
      have H' : Balanced (g.update t f) hands owner :=
        h.balanced.congr h.balanced.orderly rfl hheld
      refine H'.toHolds.reclaim ?_ fun t' y _ hy => H'.tidy t' y hy
      rw [htenants, if_pos rfl]
  refine ⟨_, hbalanced, h.staffed.keeps hkeeps, fun t' y' hy' hgone => ?_,
    h.homes.stay (Nat.le_of_eq (attempts_reclaim (g.update t f) t).symm) stays_disowned⟩
  obtain ⟨y, hy, -, hslots⟩ := hspares.tenants t' y' hy'
  refine hslots .system nofun (h.vacant t' y hy fun href => hgone ?_)
  exact href.imp (fun hmem => .inl (hspares.registered ▸ hmem))
    (fun hmem => hspares.kept ▸ hmem) fun hbusy => hbusy.keeps hkeeps

/-- A worker lets go of a fingerprint, or answers. -/
theorem Accounted.serve (h : Accounted log g hands owner) {y : Taken Work Response}
    {e : Pool.Event Response} {p : Pool Work Response} (hx : g.tenants[t]? = some x)
    (hy : y ∈ (x.pools.get kind).taken)
    (hserve : (x.pools.get kind).release? y = some (e, p)
      ∨ (x.pools.get kind).deliver? y = some (e, p)) :
    Accounted log ((g.updatePool t kind fun _ => p).follow t e) hands owner := by
  have hstaffs := h.staffed.pools t x hx kind
  have H' : Accounted log (g.updatePool t kind fun _ => p) hands owner :=
    h.pool (f := fun _ => p) hx (Nat.le_refl _) (hstaffs.serve hy hserve)
      (hstaffs.hasWork_serve hy hserve)
  cases e with
  | took ticket => exact H'
  | released ticket fingerprint => exact H'.update (fun _ => rfl) fun _ => rfl
  | delivered ticket outcome =>
      exact H'.quiet (H'.balanced.congr H'.balanced.orderly rfl fun _ => rfl) (Nat.le_refl _)
        (fun _ => rfl) (H'.staffed.keeps ⟨rfl, fun _ => rfl⟩) fun t href => href

/-- The books do not say when a tenant was last used. -/
theorem Accounted.touch (h : Accounted log g hands owner) (t : Nat) :
    Accounted log (g.touch t) hands owner := by
  refine h.update ?_ ?_
  · exact fun _ => rfl
  · exact fun _ => rfl

/-- Work that starts with empty hands is queued under a new ticket. -/
theorem Accounted.queue (h : Accounted log g hands owner) (hx : g.tenants[t]? = some x)
    (fingerprint : String) {w : Work} (hw : GivesBack w.routine {}) :
    Accounted log
      { g.updatePool t kind fun p => p.enqueue ⟨g.tickets + 1, fingerprint, w⟩ with
        tickets := g.tickets + 1 } hands owner :=
  h.pool hx (Nat.le_succ _) ((h.staffed.pools t x hx kind).enqueue fingerprint hw)
    fun _ => hasWork_enqueue _

/-- The program of a request gives back everything that it takes. -/
theorem givesBack_program (g : Gateway) (x : Tenant) (r : Request) :
    GivesBack (g.program x r).routine {} :=
  givesBack_of_steady (steady_work (g.context x) r)

-- ================================================================= every step

/-- Whatever happens, the books can be kept. -/
theorem Accounted.step (h : Accounted log g hands owner) (hstep : Step g d g') :
    ∃ hands' owner', Accounted (log ++ [d]) g' hands' owner' := by
  cases hstep with
  | outside clock marks remote hsame =>
      refine ⟨hands, owner, Accounted.snoc ?_ rfl⟩
      exact h.quiet (h.balanced.congr (h.balanced.orderly.congr hsame) hsame.connected fun _ => rfl)
        (Nat.le_of_eq hsame.attempts.symm) (fun _ => rfl) (h.staffed.keeps ⟨rfl, fun _ => rfl⟩)
        fun t href => href
  | @resolve g₁ who t hresolve =>
      refine ⟨hands, owner, Accounted.snoc ?_ rfl⟩
      rcases resolve_cases hresolve with ⟨t', ht, rfl⟩ | ⟨e, n, b, ht, rfl⟩
        | ⟨pools, n, hpools, ht, rfl⟩
      · cases ht
        exact (h.touch t).aside rfl rfl rfl fun t href =>
          href.imp .inl (List.mem_cons_of_mem _) id
      · cases ht
      · cases ht
        exact h.register hpools rfl rfl rfl rfl rfl rfl fun t => List.mem_cons_of_mem _
  | resolveFails hresolve =>
      refine ⟨hands, owner, Accounted.snoc ?_ rfl⟩
      rcases resolve_cases hresolve with ⟨t', ht, rfl⟩ | ⟨e, n, b, ht, rfl⟩
        | ⟨pools, n, hpools, ht, rfl⟩
      · cases ht
      · exact h.aside rfl rfl rfl fun t href => href
      · cases ht
  | touch hkept => exact ⟨hands, owner, (h.touch _).snoc rfl⟩
  | accept hkept haccept =>
      obtain ⟨x, inFlight, -, -, rfl⟩ := accept_eq haccept
      refine ⟨hands, owner, Accounted.snoc (h.update ?_ ?_) rfl⟩
      · exact fun _ => rfl
      · exact fun _ => rfl
  | turnAway r hkept =>
      refine ⟨hands, owner, Accounted.snoc (h.update ?_ ?_) rfl⟩
      · exact fun _ => rfl
      · exact fun _ => rfl
  | queue hkept hx hroom =>
      exact ⟨hands, owner, (h.queue hx _ (givesBack_program ..)).snoc rfl⟩
  | @take t x kind p hx htake =>
      have hpool := (h.staffed.pools t x hx kind).take htake
      refine ⟨hands, owner, Accounted.snoc ?_ rfl⟩
      exact h.pool (f := fun _ => p) hx (Nat.le_refl _) hpool fun _ => hasWork_take htake
  | call hx hexecutes hperform => exact h.call hx hexecutes hperform
  | wait hx hexecutes hperform => exact ⟨hands, owner, (h.wait hexecutes hperform).snoc rfl⟩
  | finish hexecutes =>
      obtain ⟨owner', H'⟩ := h.finish hexecutes
      exact ⟨hands, owner', H'.snoc rfl⟩
  | serve hx hy hserve => exact ⟨hands, owner, (h.serve hx hy hserve).snoc rfl⟩
  | @shut t x kind hkept hx =>
      have hpool := staffs_shutDown (h.staffed.pools t x hx kind)
      exact ⟨hands, owner, (h.pool hx (Nat.le_refl _) hpool id).snoc rfl⟩
  | clear hkept hx hfree =>
      obtain ⟨owner', H'⟩ := h.clear hx hfree
      exact ⟨hands, owner', H'.snoc rfl⟩
  | @remove t hregistered =>
      refine ⟨hands, owner, Accounted.snoc (h.aside rfl rfl rfl fun t' href => ?_) rfl⟩
      refine href.imp (fun hmem => ?_) (List.mem_cons_of_mem _) id
      by_cases heq : t' = t
      · exact .inr (heq ▸ List.mem_cons_self)
      · exact .inl ((List.mem_erase_of_ne heq).2 hmem)
  | @letGo t hkept =>
      obtain ⟨owner', H'⟩ := h.letGo t
      exact ⟨hands, owner', H'.snoc rfl⟩

/-- A new gateway has its settings, and the time. -/
theorem create_eq {config : Config} {clock : Timestamp} {overflow : Overflow}
    (hcreate : create config clock overflow = .ok g) :
    g = { config := config, clock := clock, overflow := overflow } := by
  unfold create at hcreate
  cases hvalid : config.validate with
  | error e =>
      rw [hvalid] at hcreate
      cases hcreate
  | ok u =>
      rw [hvalid] at hcreate
      cases hcreate
      rfl

/-- A gateway that has just been made has nothing to account for. -/
theorem accounted_create {config : Config} {clock : Timestamp} {overflow : Overflow}
    (hcreate : create config clock overflow = .ok g) :
    Accounted [] g (fun _ => {}) (fun _ => none) := by
  have hg := create_eq hcreate
  have hnone {t : Nat} {x : Tenant} : g.tenants[t]? ≠ some x := by
    rw [hg]
    exact fun hx => nomatch hx
  refine ⟨⟨⟨?_, fun t x hx => absurd hx hnone, fun s => ?_, fun o s => ?_, fun t k s => ?_⟩,
    fun t x hx => absurd hx hnone⟩, ⟨fun t x hx => absurd hx hnone, fun _ _ => rfl⟩,
    fun t x hx => absurd hx hnone, fun d hd => absurd hd List.not_mem_nil⟩
  · rw [hg]
    exact ScriptedRemote.orderly_new
  · rw [hg]
    exact iff_of_false List.not_mem_nil Bool.false_ne_true
  · exact iff_of_false List.not_mem_nil nofun
  · exact iff_of_false nofun fun ⟨x, hx, _⟩ => hnone hx

/-- Whatever happens, the books can be kept. -/
theorem Runs.accounted {config : Config} {clock : Timestamp} {overflow : Overflow} {start : Gateway}
    (hcreate : create config clock overflow = .ok start) (hruns : start.Runs log g) :
    ∃ hands owner, Accounted log g hands owner := by
  induction hruns with
  | start => exact ⟨_, _, accounted_create hcreate⟩
  | step hruns hstep ih =>
      obtain ⟨hands, owner, h⟩ := ih
      exact h.step hstep

end

end CheckGateway.Gateway
