/-
A call that a job's grip permits keeps the books, with the grip after the
call in the place of the one before.

System handlers are looked up, made, held and dropped by calls of their own,
and each of them has its lemma. `Balanced.perform` then goes through all the
calls there are; those that are left over move nothing that is in the books.
-/
import CheckGateway.Proofs.Gateway.Calls

namespace CheckGateway.Gateway

open Job (Grip)

section

variable {g g' : Gateway} {hands : Hands} {owner : Nat → Option Owner}
  {t : Nat} {x x' : Tenant} {o : Post} {G : Grip} {s : Nat}

-- ============================================================ a look, a loan

theorem Backs.exclusive_update (hbacks : Backs hands t x) (ho : o.tenant = t)
    (hG : G.locks = (hands o).locks) (o' : Post) (ho' : o'.tenant = t) (hne : o' ≠ o) :
    ∀ lock ∈ G.locks, lock ∉ (hands o').locks := by
  intro lock hlock hlock'
  rw [hG] at hlock
  exact hne (hbacks.exclusive o' o ho' ho lock hlock' hlock)

/-- A job looks into the system slot. -/
theorem Balanced.looked (H : Balanced g hands owner) (hx : g.tenants[o.tenant]? = some x)
    (hlock : .slot .system ∈ (hands o).locks) :
    Balanced g (Function.update hands o
      { hands o with view := some x.slots.system.handler }) owner := by
  have hbacks := H.backs _ x hx
  obtain ⟨locked, unpoisoned, -, lent, known⟩ := hbacks.fits o rfl
  refine H.keep hx (tenants_same hx) rfl ?_ (H.tidy _ x hx) rfl fun h k => ?_
  · apply hbacks.move rfl
    · refine ⟨locked, unpoisoned, fun v hv => ⟨hlock, Option.some.inj hv⟩, lent, known⟩
    · exact fun o' ho' _ => hbacks.fits o' ho'
    · exact hbacks.exclusive_update rfl rfl
    · exact fun k y hy => hbacks.used_of_same (by rfl) hy
    · exact hbacks.filled
    · exact hbacks.poisoned
    · exact hbacks.alive
  · exact retains_congr rfl fun o' _ => grip_update Grip.borrowed (by rfl) o'

/-- A handler that a job holds is there, and is not dropped. -/
theorem Backs.of_held (hbacks : Backs hands o.tenant x) {h : Nat}
    (hheld : h ∈ (hands o).handlers) :
    ∃ y, x.systems[h]? = some y ∧ x.isDropped h y = false := by
  have hy := List.getElem?_eq_getElem ((hbacks.fits o rfl).known h hheld)
  refine ⟨_, hy, ?_⟩
  rw [← Bool.not_eq_true]
  exact fun hdropped => hbacks.not_held hy hdropped rfl hheld

/-- A job borrows the session of a system handler that it holds. -/
theorem Balanced.borrowed (H : Balanced g hands owner) (hx : g.tenants[o.tenant]? = some x)
    {h : Nat} (hpermits : (hands o).Permits (.session h))
    (hs : s = ((x.systems[h]?).bind SystemHandler.session).getD 0) :
    ∃ owner', Stays g owner owner'
      ∧ Balanced g (Function.update hands o ((hands o).after (.session h) s)) owner' := by
  obtain ⟨hlock, hheld, hfree⟩ := hpermits
  have hbacks := H.backs _ x hx
  obtain ⟨locked, unpoisoned, viewed, -, known⟩ := hbacks.fits o rfl
  -- a handler that is held has a session, and nobody else has borrowed it
  obtain ⟨y, hy, hknown⟩ := hbacks.of_held hheld
  obtain ⟨s', hs'⟩ := Option.isSome_iff_exists.1 (hbacks.alive h y hy hknown)
  rw [hy, Option.bind_some, hs', Option.getD_some] at hs
  subst hs
  have hretains : Retains hands o.tenant x h s := by
    refine ⟨⟨y, hy, hs'⟩, fun o' ho' k => ?_⟩
    by_cases hne : o' = o
    · rw [hne, hfree]
      exact nofun
    · exact hbacks.not_lent hlock rfl ho' hne
  have howner := (H.retains hx).2 hretains
  have hconnected : s ∈ g.remote.connected := (H.connected s).2 (howner ▸ rfl)
  refine ⟨Function.update owner s (some (.hand o)), stays_update howner (.inr rfl),
    H.pass hx (tenants_same hx) H.orderly ?_ (H.tidy _ x hx) within_hand
      (howner ▸ within_handler h) (connected_iff_same hconnected) mem_taken_iff ?_⟩
  · apply hbacks.move rfl
    · refine ⟨locked, unpoisoned, viewed, fun k s' heq => ?_, known⟩
      cases heq
      exact ⟨hlock, hheld, y, hy, hs'⟩
    · exact fun o' ho' _ => hbacks.fits o' ho'
    · exact hbacks.exclusive_update rfl rfl
    · exact fun k y hy => hbacks.used_of_same (by rfl) hy
    · exact hbacks.filled
    · exact hbacks.poisoned
    · exact hbacks.alive
  · refine H.retains_taken hx howner (fun k s' hk => retains_update rfl fun s'' => ?_)
      fun s' hr => ?_
    · rw [hfree]
      refine iff_of_false (fun heq => ?_) nofun
      cases heq
      exact hk rfl
    · refine hr.2 o rfl s ?_
      rw [Function.update_self]
      rfl

-- ============================================================ what is changed

section

variable {h : Nat} {f : SystemHandler → SystemHandler} {y : SystemHandler}

/-- A tenant backs its jobs once one of them has changed a system handler. -/
theorem Backs.modify (hbacks : Backs hands o.tenant x) (hy : x.systems[h]? = some y)
    (hfit : Fits { x with systems := x.systems.modify h f } G)
    (hsession : ∀ o' s y, o'.tenant = o.tenant → o' ≠ o →
      (hands o').borrowed = some (h, s) → (f y).session = y.session)
    (hlocks : G.locks = (hands o).locks)
    (hused : Held (Function.update hands o G) o.tenant h (f y).users)
    (hhandlers : ∀ k, k ≠ h → (k ∈ G.handlers ↔ k ∈ (hands o).handlers))
    (halive : (f y).session.isSome = true) :
    Backs (Function.update hands o G) o.tenant
      { x with systems := x.systems.modify h f } := by
  apply hbacks.move rfl hfit
  · exact fun o' ho' hne => (hbacks.fits o' ho').modify fun s y => hsession o' s y ho' hne
  · exact hbacks.exclusive_update rfl hlocks
  · intro k z hz
    obtain ⟨z', hz', rfl⟩ := getElem?_modify_iff.1 hz
    by_cases hk : h = k
    · subst hk
      rw [hy] at hz'
      cases hz'
      rw [if_pos rfl]
      exact hused
    · rw [if_neg hk]
      refine (hbacks.used k z' hz').congr fun o' _ => ?_
      by_cases hne : o' = o
      · subst hne
        rw [Function.update_self]
        exact hhandlers k (Ne.symm hk)
      · rw [Function.update_of_ne hne]
  · intro k hk
    rw [List.length_modify]
    exact hbacks.filled k hk
  · exact hbacks.poisoned
  · intro k z hz hknown
    obtain ⟨z', hz', rfl⟩ := getElem?_modify_iff.1 hz
    by_cases hk : h = k
    · subst hk
      rw [hy] at hz'
      cases hz'
      rw [if_pos rfl]
      exact halive
    · rw [if_neg hk] at hknown ⊢
      exact hbacks.alive k z' hz' hknown

theorem Tidy.modify (htidy : Tidy x) (hy : x.systems[h]? = some y)
    (hknown : x.isDropped h (f y) = false) :
    Tidy { x with systems := x.systems.modify h f } := by
  intro k z hz hsession
  obtain ⟨z', hz', rfl⟩ := getElem?_modify_iff.1 hz
  by_cases hk : h = k
  · subst hk
    rw [hy] at hz'
    cases hz'
    rw [if_pos rfl]
    exact hknown
  · rw [if_neg hk] at hsession ⊢
    exact htidy k z' hz' hsession

/-- Changing how many use a handler changes nothing about who has which
session. -/
theorem retains_modify {k : Nat} (hf : ∀ y, (f y).session = y.session) :
    Retains hands t { x with systems := x.systems.modify h f } k s ↔ Retains hands t x k s := by
  refine and_congr_left fun _ => ?_
  constructor
  · rintro ⟨y, hy, hs⟩
    obtain ⟨y', hy', rfl⟩ := getElem?_modify_iff.1 hy
    refine ⟨y', hy', ?_⟩
    split at hs
    · rwa [hf] at hs
    · exact hs
  · rintro ⟨y, hy, hs⟩
    refine ⟨_, getElem?_modify_iff.2 ⟨y, hy, rfl⟩, ?_⟩
    split
    · rwa [hf]
    · exact hs

end

/-- A job puts another session into a system handler whose session it has
borrowed. -/
theorem Balanced.replaced (H : Balanced g hands owner) (hx : g.tenants[o.tenant]? = some x)
    {h : Nat} (hpermits : (hands o).Permits (.replaceSession h s)) :
    Balanced (g.update o.tenant fun x =>
        { x with systems := x.systems.modify h fun y => { y with session := some s } })
      (Function.update hands o ((hands o).after (.replaceSession h s) ())) owner := by
  obtain ⟨-, old, hlent⟩ := hpermits
  have hbacks := H.backs _ x hx
  obtain ⟨locked, unpoisoned, viewed, lent, known⟩ := hbacks.fits o rfl
  obtain ⟨hlock, hheld, -⟩ := lent h old hlent
  obtain ⟨y, hy, hknown⟩ := hbacks.of_held hheld
  have htenants := tenants_update (f := fun x =>
    { x with systems := x.systems.modify h fun y => { y with session := some s } }) hx
  refine H.keep hx htenants rfl ?_ ((H.tidy _ x hx).modify hy hknown) rfl fun k s' => ?_
  · have hused := hbacks.used_of_same (o := o)
      (G := (hands o).after (.replaceSession h s) ()) rfl hy
    refine hbacks.modify hy ?_
      (fun o' s' y ho' hne heq => absurd heq (hbacks.not_lent hlock rfl ho' hne)) rfl hused
      (fun _ _ => .rfl) rfl
    refine ⟨locked, unpoisoned, viewed, fun k s' heq => ?_, fun k hk => ?_⟩
    · cases heq
      exact ⟨hlock, hheld, _, getElem?_modify_iff.2 ⟨y, hy, rfl⟩, by rw [if_pos rfl]⟩
    · rw [List.length_modify]
      exact known k hk
  · -- the handler in question retains nothing, before or after
    by_cases hk : k = h
    · subst hk
      refine iff_of_false (fun hr => hr.2 o rfl s ?_) fun hr => hr.2 o rfl old hlent
      rw [Function.update_self]
      rfl
    · refine retains_update (List.getElem?_modify_ne _ _ (Ne.symm hk)) fun s'' => ?_
      have hne {s₁ s₂ : Nat} : some (h, s₁) ≠ some (k, s₂) := by
        intro heq
        cases heq
        exact hk rfl
      rw [hlent]
      exact iff_of_false hne hne

/-- A job takes hold of the handler that it has seen in the system slot. -/
theorem Balanced.held (H : Balanced g hands owner) (hx : g.tenants[o.tenant]? = some x)
    {h : Nat} (hpermits : (hands o).Permits (.hold h)) :
    Balanced (g.update o.tenant fun x =>
        { x with systems := x.systems.modify h fun y => { y with users := y.users + 1 } })
      (Function.update hands o ((hands o).after (.hold h) ())) owner := by
  obtain ⟨hview, hfree⟩ := hpermits
  have hbacks := H.backs _ x hx
  have hfit := hbacks.fits o rfl
  obtain ⟨hlock, hslot⟩ := hfit.viewed (some h) hview
  have hlength := hbacks.filled h hslot
  have hy := List.getElem?_eq_getElem hlength
  have hknown : x.isDropped h x.systems[h] = false := by
    rw [← Bool.not_eq_true, isDropped_iff]
    refine fun hdropped => hdropped.2 ?_
    unfold Slot.get?
    rw [hfit.unpoisoned hlock, hslot]
    rfl
  have htenants := tenants_update (f := fun x =>
    { x with systems := x.systems.modify h fun y => { y with users := y.users + 1 } }) hx
  have htidy := (H.tidy _ x hx).modify (f := fun y => { y with users := y.users + 1 }) hy
    (not_dropped_of_users (Nat.succ_ne_zero _))
  refine H.keep hx htenants rfl ?_ htidy rfl fun k s' => ?_
  · have halive := hbacks.alive h _ hy hknown
    refine hbacks.modify hy ?_ (fun _ _ _ _ _ _ => rfl) rfl
      ((hbacks.used h _ hy).add rfl hfree List.mem_cons_self) (fun k hk => ?_) halive
    · obtain ⟨locked, unpoisoned, viewed, lent, known⟩ := hfit.modify (h := h)
        (f := fun y => { y with users := y.users + 1 }) fun _ _ _ => rfl
      refine ⟨locked, unpoisoned, viewed, fun k s' heq => ?_, fun k hk => ?_⟩
      · obtain ⟨hlock, hheld, hsession⟩ := lent k s' heq
        exact ⟨hlock, List.mem_cons_of_mem _ hheld, hsession⟩
      · rcases List.mem_cons.1 hk with rfl | hk
        · rw [List.length_modify]
          exact hlength
        · exact known k hk
    · exact List.mem_cons.trans (or_iff_right hk)
  · refine (retains_congr rfl fun o' _ => grip_update Grip.borrowed (by rfl) o').trans ?_
    exact retains_modify fun _ => rfl

/-- A job lets go of a system handler, whose session is disconnected if
neither its slot nor another job knows it. -/
theorem Balanced.letGo (H : Balanced g hands owner) (hx : g.tenants[o.tenant]? = some x)
    {h : Nat} (hpermits : (hands o).Permits (.letGo h)) :
    ∃ owner', Stays g owner owner' ∧
      Balanced ((g.update o.tenant fun x =>
          { x with systems := x.systems.modify h fun y =>
            { y with users := y.users - 1 } }).reclaim o.tenant)
        (Function.update hands o ((hands o).after (.letGo h) ())) owner' := by
  obtain ⟨hheld, hfree⟩ := hpermits
  have hbacks := H.backs _ x hx
  have hfit := hbacks.fits o rfl
  obtain ⟨y, hy, hknown⟩ := hbacks.of_held hheld
  have htenants := tenants_update (f := fun x =>
    { x with systems := x.systems.modify h fun y => { y with users := y.users - 1 } }) hx
  have hmem {k : Nat} : k ∈ ((hands o).after (.letGo h) ()).handlers
      ↔ k ∈ (hands o).handlers ∧ k ≠ h := by
    refine List.mem_filter.trans (and_congr_right fun _ => ?_)
    exact decide_eq_true_iff
  have H' := H.toHolds.keep (G := (hands o).after (.letGo h) ()) hx htenants rfl ?_ rfl
    fun k s' => ?_
  · have hx' := htenants o.tenant
    rw [if_pos rfl] at hx'
    refine ⟨_, stays_disowned, H'.reclaim hx' fun t' z hne hz => ?_⟩
    rw [htenants, if_neg hne] at hz
    exact H.tidy t' z hz
  · have halive := hbacks.alive h y hy hknown
    refine hbacks.modify hy ?_ (fun _ _ _ _ _ _ => rfl) rfl
      ((hbacks.used h y hy).remove rfl hheld fun hmem' => (hmem.1 hmem').2 rfl)
      (fun k hk => ?_) halive
    · obtain ⟨locked, unpoisoned, viewed, lent, known⟩ := hfit.modify (h := h)
        (f := fun y => { y with users := y.users - 1 }) fun _ _ _ => rfl
      refine ⟨locked, unpoisoned, viewed, fun k s' heq => ?_, fun k hk => known k (hmem.1 hk).1⟩
      obtain ⟨hlock, hheld, hsession⟩ := lent k s' heq
      refine ⟨hlock, hmem.2 ⟨hheld, ?_⟩, hsession⟩
      rintro rfl
      exact hfree s' heq
    · exact hmem.trans (and_iff_left hk)
  · refine (retains_congr rfl fun o' _ => grip_update Grip.borrowed (by rfl) o').trans ?_
    exact retains_modify fun _ => rfl

-- =============================================================== what is made

theorem getElem?_concat_iff {α : Type} {ys : List α} {y z : α} {k : Nat} :
    (ys ++ [y])[k]? = some z ↔ ys[k]? = some z ∨ k = ys.length ∧ z = y := by
  rcases Nat.lt_trichotomy k ys.length with hlt | rfl | hgt
  · rw [List.getElem?_append_left hlt]
    exact (or_iff_left fun h => Nat.ne_of_lt hlt h.1).symm
  · rw [List.getElem?_concat_length, List.getElem?_eq_none (Nat.le_refl _)]
    constructor
    · exact fun h => .inr ⟨rfl, (Option.some.inj h).symm⟩
    · rintro (h | ⟨-, rfl⟩)
      · cases h
      · rfl
  · rw [List.getElem?_eq_none (by rw [List.length_append, List.length_singleton]; omega),
      List.getElem?_eq_none (Nat.le_of_lt hgt)]
    refine iff_of_false nofun ?_
    rintro (h | ⟨rfl, -⟩)
    · cases h
    · exact Nat.lt_irrefl _ hgt

/-- A tenant with a new system handler in its slot. -/
def withHandler (x : Tenant) (s : Nat) : Tenant :=
  { x.fill .system x.systems.length with systems := x.systems ++ [⟨some s, 0, false⟩] }

theorem get?_withHandler (hsound : x.slots.system.poisoned = false) :
    (withHandler x s).slots.system.get? = some x.systems.length := by
  show (if x.slots.system.poisoned then _ else _) = _
  rw [hsound]
  rfl

theorem not_dropped_withHandler (hsound : x.slots.system.poisoned = false)
    (y : SystemHandler) : (withHandler x s).isDropped x.systems.length y = false := by
  rw [← Bool.not_eq_true, isDropped_iff, get?_withHandler hsound]
  exact fun hdropped => hdropped.2 rfl

/-- No other handler was in the slot, nor is one now. -/
theorem isDropped_withHandler (hsound : x.slots.system.poisoned = false)
    (hempty : x.slots.system.handler = none) {k : Nat} {y : SystemHandler}
    (hy : x.systems[k]? = some y) : (withHandler x s).isDropped k y = x.isDropped k y := by
  have hgone : x.slots.system.get? = none := by
    unfold Slot.get?
    rw [hempty, ite_self]
  have hne : x.systems.length ≠ k := Nat.ne_of_gt (List.getElem?_eq_some_iff.1 hy).1
  rw [Bool.eq_iff_iff, isDropped_iff, isDropped_iff, get?_withHandler hsound, hgone]
  simp [hne]

theorem Tidy.withHandler (htidy : Tidy x) (hsound : x.slots.system.poisoned = false)
    (hempty : x.slots.system.handler = none) : Tidy (withHandler x s) := by
  intro k y hy hsession
  rcases getElem?_concat_iff.1 hy with hy | ⟨rfl, rfl⟩
  · rw [isDropped_withHandler hsound hempty hy]
    exact htidy k y hy hsession
  · exact not_dropped_withHandler hsound _

/-- Nobody holds a handler that is still to be made. -/
theorem Backs.not_held_new (hbacks : Backs hands t x) (ho : o.tenant = t) :
    x.systems.length ∉ (hands o).handlers :=
  fun hheld => Nat.lt_irrefl _ ((hbacks.fits o ho).known _ hheld)

theorem Backs.withHandler (hbacks : Backs hands o.tenant x)
    (hlock : .slot .system ∈ (hands o).locks) (hempty : x.slots.system.handler = none) :
    Backs (Function.update hands o ((hands o).after (.installSystem s) x.systems.length))
      o.tenant (withHandler x s) := by
  have hfit := hbacks.fits o rfl
  have hsound := hfit.unpoisoned hlock
  apply hbacks.move rfl
  · obtain ⟨locked, unpoisoned, viewed, lent, known⟩ := hfit
    refine ⟨locked, unpoisoned, fun v hv => ⟨hlock, Option.some.inj hv⟩,
      fun k s' heq => ?_, fun k hk => ?_⟩
    · obtain ⟨hk, hheld, y, hy, hsession⟩ := lent k s' heq
      exact ⟨hk, hheld, y, getElem?_concat_iff.2 (.inl hy), hsession⟩
    · show k < (x.systems ++ [_]).length
      rw [List.length_append]
      exact Nat.lt_add_right _ (known k hk)
  · intro o' ho' hne
    have hfit' := hbacks.fits o' ho'
    refine hfit'.mono hfit'.locked (fun hk => ?_) fun k _ y hy =>
      ⟨y, getElem?_concat_iff.2 (.inl hy), fun _ _ => rfl⟩
    exact absurd (hbacks.exclusive o' o ho' rfl _ hk hlock) hne
  · exact hbacks.exclusive_update rfl rfl
  · intro k y hy
    rcases getElem?_concat_iff.1 hy with hy | ⟨rfl, rfl⟩
    · exact hbacks.used_of_same (by rfl) hy
    · refine ⟨[], .nil, fun o' => iff_of_false List.not_mem_nil ?_, rfl⟩
      rintro ⟨ho', hheld⟩
      rw [grip_update Grip.handlers (by rfl)] at hheld
      exact hbacks.not_held_new ho' hheld
  · intro k hk
    cases hk
    show _ < (x.systems ++ [_]).length
    rw [List.length_append]
    exact Nat.lt_succ_self _
  · intro hpoisoned
    rw [show x.slots.system.poisoned = true from hpoisoned] at hsound
    cases hsound
  · intro k y hy hknown
    rcases getElem?_concat_iff.1 hy with hy | ⟨rfl, rfl⟩
    · rw [isDropped_withHandler hsound hempty hy] at hknown
      exact hbacks.alive k y hy hknown
    · rfl

/-- A job makes a system handler of a session in its hands, and puts it into
the slot that it has seen empty. -/
theorem Balanced.installed (H : Balanced g hands owner) (hx : g.tenants[o.tenant]? = some x)
    (hpermits : (hands o).Permits (.installSystem s)) :
    ∃ owner', Stays g owner owner' ∧
      Balanced (g.update o.tenant fun z =>
          { z.fill .system x.systems.length with
            systems := z.systems ++ [⟨some s, 0, false⟩] })
        (Function.update hands o
          ((hands o).after (.installSystem s) x.systems.length)) owner' := by
  obtain ⟨hlock, hview, hs⟩ := hpermits
  have hbacks := H.backs _ x hx
  have hfit := hbacks.fits o rfl
  have hempty : x.slots.system.handler = none := (hfit.viewed none hview).2
  have htidy := (H.tidy _ x hx).withHandler (s := s) (hfit.unpoisoned hlock) hempty
  have howner := (H.hand o s).1 hs
  have htenants := tenants_update (f := fun z =>
    { z.fill .system x.systems.length with systems := z.systems ++ [⟨some s, 0, false⟩] }) hx
  refine ⟨Function.update owner s (some (.handler o.tenant x.systems.length)),
    stays_update howner (.inr rfl),
    H.pass hx htenants H.orderly (hbacks.withHandler hlock hempty) htidy (within_handler _)
      (howner ▸ within_hand) (connected_iff_same (H.connected_of_hand hs))
      (mem_without_iff nofun) ?_⟩
  -- the handlers there were keep what they had, and the new one gets the session
  refine H.retains_given hx howner (fun k s' hk => ?_) (fun s' => ⟨?_, ?_⟩) fun s' hr => ?_
  · refine retains_update ?_ fun _ => .rfl
    refine Option.ext fun y => getElem?_concat_iff.trans (or_iff_left ?_)
    exact fun heq => hk heq.1
  · rintro ⟨⟨y, hy, hys⟩, -⟩
    rcases getElem?_concat_iff.1 hy with hy | ⟨-, rfl⟩
    · exact absurd (List.getElem?_eq_some_iff.1 hy).1 (Nat.lt_irrefl _)
    · exact (Option.some.inj hys).symm
  · rintro rfl
    refine ⟨⟨_, getElem?_concat_iff.2 (.inr ⟨rfl, rfl⟩), rfl⟩, fun o' ho' s' heq => ?_⟩
    rw [grip_update Grip.borrowed (by rfl)] at heq
    exact hbacks.not_held_new ho' ((hbacks.fits o' ho').lent _ _ heq).2.1
  · obtain ⟨⟨y, hy, -⟩, -⟩ := hr
    exact absurd (List.getElem?_eq_some_iff.1 hy).1 (Nat.lt_irrefl _)

-- ================================================================= every call

/-- Calls that move nothing that is in the books. -/
theorem Balanced.neutral (H : Balanced g hands owner) (horderly : g'.remote.Orderly)
    (hconnected : g'.remote.connected = g.remote.connected)
    (hholdings : ∀ t : Nat, g'.tenants[t]?.map holdings = g.tenants[t]?.map holdings)
    (hG : G = hands o) :
    ∃ owner', Stays g owner owner' ∧ Balanced g' (Function.update hands o G) owner' := by
  refine ⟨owner, Stays.refl, ?_⟩
  rw [hG, Function.update_eq_self]
  exact H.congr horderly hconnected hholdings

/-- An attempt to open a session gives the job a new one, or nothing. -/
theorem Balanced.attempted (H : Balanced g hands owner) (hx : g.tenants[o.tenant]? = some x)
    {gate : Option Nat} {a : Job.Answer .openSession}
    (hperform : g.perform o.tenant x gate .openSession = .answered a g') :
    (hands o).Admits .openSession a ∧ ∃ owner', Stays g owner owner'
      ∧ Balanced g' (Function.update hands o ((hands o).after .openSession a)) owner' := by
  unfold Gateway.perform at hperform
  rcases g.remote.openSession_cases x.credentials g.config.socketPolicy with
    ⟨e, hopen⟩ | hopen
  · rw [hopen] at hperform
    cases hperform
    refine ⟨nofun, H.neutral ?_ rfl (fun _ => rfl) rfl⟩
    exact H.orderly.attempted _ _
  · rw [hopen] at hperform
    cases hperform
    refine ⟨fun s heq hs => ?_, _, ?_, H.opened hx _ _⟩
    · cases heq
      exact H.orderly.next_not_mem (H.connected_of_hand hs)
    · -- the new number is none of those that were there before
      intro k hk w hw
      rw [Function.update_of_ne (Nat.ne_of_lt (Nat.lt_succ_of_le hk))] at hw
      exact ⟨w, hw, rfl⟩

/-- A query over a session in the job's hands changes nothing in the books. -/
theorem Balanced.queried (H : Balanced g hands owner) (hs : s ∈ (hands o).sessions)
    {gate : Option Nat} {q : RemoteQuery} {a : Job.Answer (.query s q)}
    (hperform : g.perform o.tenant x gate (.query s q) = .answered a g') :
    Balanced g' hands owner := by
  unfold Gateway.perform at hperform
  dsimp only at hperform
  split at hperform
  · split at hperform
    · cases hperform
      exact H
    · cases hperform
  · have hsent := H.orderly.send (H.connected_of_hand hs) q
    have hstill := g.remote.connected_send s q
    split at hperform
    next hsend =>
      rw [hsend] at hsent hstill
      cases hperform
      exact H.congr hsent hstill fun _ => rfl
    next => cases hperform

/-- A job that has asked for a lock has it, or is told that what it guards is
poisoned. -/
theorem Balanced.tried (H : Balanced g hands owner) (hx : g.tenants[o.tenant]? = some x)
    {gate : Option Nat} {lock : Lock} {a : Job.Answer (.acquire lock)}
    (hperform : g.perform o.tenant x gate (.acquire lock) = .answered a g') :
    (hands o).Admits (.acquire lock) a ∧ ∃ owner', Stays g owner owner'
      ∧ Balanced g' (Function.update hands o ((hands o).after (.acquire lock) a)) owner' := by
  unfold Gateway.perform at hperform
  dsimp only at hperform
  split at hperform
  · cases hperform
  next htaken =>
    have hfree : lock ∉ x.locked := fun hmem => htaken (List.contains_iff_mem.2 hmem)
    have hlock : lock ∉ (hands o).locks :=
      fun hmem => hfree (((H.backs _ x hx).fits o rfl).locked lock hmem)
    split at hperform
    · cases hperform
      exact ⟨nofun, H.neutral H.orderly rfl (fun _ => rfl) rfl⟩
    next hsound =>
      cases hperform
      exact ⟨fun _ => hlock, owner, Stays.refl,
        H.acquired hx hfree (Bool.eq_false_iff.2 hsound)⟩

/-- A call that is permitted and answered gets an answer that may be given,
and leaves the books in order. -/
theorem Balanced.perform (H : Balanced g hands owner) (hx : g.tenants[o.tenant]? = some x)
    {gate : Option Nat} {c : Job.Call} {a : Job.Answer c} (hpermits : (hands o).Permits c)
    (hperform : g.perform o.tenant x gate c = .answered a g') :
    (hands o).Admits c a ∧ ∃ owner', Stays g owner owner'
      ∧ Balanced g' (Function.update hands o ((hands o).after c a)) owner' := by
  cases c with
  | now | watermark key | note key entry | jobCache h | diskCache h =>
      cases hperform
      exact ⟨trivial, H.neutral H.orderly rfl (fun _ => rfl) rfl⟩
  | saveJobCache h cache | saveDiskCache h cache =>
      cases hperform
      exact ⟨trivial, H.neutral H.orderly rfl (holdings_update fun _ => rfl) rfl⟩
  | openSession => exact H.attempted hx hperform
  | query session q =>
      refine ⟨trivial, owner, Stays.refl, ?_⟩
      have hsame : (hands o).after (.query session q) a = hands o := rfl
      rw [hsame, Function.update_eq_self]
      exact H.queried hpermits hperform
  | closeSession session =>
      cases hperform
      exact ⟨trivial, _, stays_update ((H.hand o session).1 hpermits) (.inl rfl),
        H.closed hx hpermits⟩
  | acquire lock => exact H.tried hx hperform
  | release lock poison =>
      cases hperform
      exact ⟨trivial, H.released hx hpermits⟩
  | handler kind =>
      cases hperform
      refine ⟨trivial, ?_⟩
      by_cases hkind : kind = .system
      · subst hkind
        exact ⟨owner, Stays.refl, H.looked hx (hpermits rfl)⟩
      · exact H.neutral H.orderly rfl (fun _ => rfl) (if_neg hkind)
  | install kind =>
      refine ⟨trivial, ?_⟩
      cases kind with
      | jobs | disks | subsystems | commands =>
          cases hperform
          exact H.neutral H.orderly rfl (holdings_update fun _ => rfl) rfl
      | system => exact absurd rfl hpermits
  | installSystem session =>
      cases hperform
      exact ⟨trivial, H.installed hx hpermits⟩
  | session h =>
      cases hperform
      exact ⟨trivial, H.borrowed hx hpermits rfl⟩
  | replaceSession h session =>
      cases hperform
      exact ⟨trivial, owner, Stays.refl, H.replaced hx hpermits⟩
  | hold h =>
      cases hperform
      exact ⟨trivial, owner, Stays.refl, H.held hx hpermits⟩
  | letGo h =>
      cases hperform
      exact ⟨trivial, H.letGo hx hpermits⟩

/-- A call that has to wait has done nothing, or has come to a gate of the
remote system. -/
theorem waits_cases {gate gate' : Option Nat} {c : Job.Call}
    (hperform : g.perform t x gate c = .waits gate' g') :
    g' = g ∨ ∃ s q, c = .query s q ∧ g' = { g with remote := (g.remote.send s q).2 } := by
  cases c with
  | query s q =>
      unfold Gateway.perform at hperform
      dsimp only at hperform
      split at hperform
      · split at hperform
        · cases hperform
        · cases hperform
          exact .inl rfl
      · split at hperform
        next => cases hperform
        next hsend =>
          cases hperform
          exact .inr ⟨s, q, rfl, by rw [hsend]⟩
  | acquire lock =>
      unfold Gateway.perform at hperform
      dsimp only at hperform
      split at hperform
      · cases hperform
        exact .inl rfl
      · split at hperform <;> cases hperform
  | install kind => cases kind <;> cases hperform
  | _ => cases hperform

/-- Who has to wait has changed nothing in the books. -/
theorem Balanced.waits (H : Balanced g hands owner) {gate gate' : Option Nat} {c : Job.Call}
    (hpermits : (hands o).Permits c)
    (hperform : g.perform o.tenant x gate c = .waits gate' g') :
    Balanced g' hands owner := by
  rcases waits_cases hperform with rfl | ⟨s, q, rfl, rfl⟩
  · exact H
  · have hsent := H.orderly.send (H.connected_of_hand hpermits) q
    exact H.congr hsent (g.remote.connected_send s q) fun _ => rfl

/-- A call that has to wait leaves everything to the remote system. -/
theorem tenants_waits {gate gate' : Option Nat} {c : Job.Call}
    (hperform : g.perform t x gate c = .waits gate' g') :
    g'.tenants = g.tenants ∧ g'.registered = g.registered ∧ g'.kept = g.kept := by
  rcases waits_cases hperform with rfl | ⟨s, q, -, rfl⟩
  · exact ⟨rfl, rfl, rfl⟩
  · exact ⟨rfl, rfl, rfl⟩

end

section

variable (g : Gateway) (t : Nat)

theorem attempts_disconnect (ss : List Nat) :
    (g.disconnect ss).remote.attempts = g.remote.attempts := by
  show (ss.foldl ScriptedRemote.disconnect g.remote).attempts = _
  induction ss generalizing g with
  | nil => rfl
  | cons s ss ih =>
      refine (ih { g with remote := g.remote.disconnect s }).trans ?_
      exact ScriptedRemote.attempts_disconnect g.remote s

theorem attempts_reclaim : (g.reclaim t).remote.attempts = g.remote.attempts := by
  unfold reclaim
  split
  · rfl
  · exact attempts_disconnect _ _

/-- No number of a session is taken back. -/
theorem attempts_perform (x : Tenant) (gate : Option Nat) (c : Job.Call) :
    g.remote.attempts ≤ (g.perform t x gate c).state.remote.attempts := by
  cases c with
  | now | watermark | note | handler | jobCache | diskCache | session | release
    | installSystem | saveJobCache | saveDiskCache | replaceSession | hold =>
      exact Nat.le_refl _
  | openSession =>
      unfold perform
      rcases g.remote.openSession_cases x.credentials g.config.socketPolicy with
        ⟨e, hopen⟩ | hopen
      · rw [hopen]
        exact Nat.le_succ _
      · rw [hopen]
        exact Nat.le_succ _
  | query session q =>
      have hsend := (ScriptedRemote.sameSessions_send (r := g.remote) session q).attempts
      unfold perform
      dsimp only
      split
      · split <;> exact Nat.le_refl _
      · split
        next heq =>
          rw [heq] at hsend
          exact Nat.le_of_eq hsend.symm
        next heq =>
          rw [heq] at hsend
          exact Nat.le_of_eq hsend.symm
  | closeSession session => exact Nat.le_of_eq (attempts_disconnect g _).symm
  | acquire lock =>
      unfold perform
      dsimp only
      split
      · exact Nat.le_refl _
      · split <;> exact Nat.le_refl _
  | install kind =>
      cases kind with
      | jobs | disks | system | subsystems | commands => exact Nat.le_refl _
  | letGo h => exact Nat.le_of_eq (attempts_reclaim (g.update t _) t).symm

end

section

variable {g g' g'' : Gateway} {t : Nat} {c : Job.Call}

/-- What a call of a tenant's job leaves alone: who refers to whom, the other
tenants, and every empty slot, unless the call makes a handler for it. -/
structure Spares (t : Nat) (c : Job.Call) (g g' : Gateway) : Prop where
  registered : g'.registered = g.registered
  kept : g'.kept = g.kept
  tenants : ∀ (t' : Nat) (y' : Tenant), g'.tenants[t']? = some y' →
    ∃ y, g.tenants[t']? = some y ∧ (t' ≠ t → y' = y) ∧ ∀ kind, c.made? ≠ some kind →
      (y.slots.get kind).get? = none → (y'.slots.get kind).get? = none

theorem spares_same (hregistered : g'.registered = g.registered) (hkept : g'.kept = g.kept)
    (htenants : g'.tenants = g.tenants) : Spares t c g g' :=
  ⟨hregistered, hkept, fun _ y' hy' => ⟨y', htenants ▸ hy', fun _ => rfl, fun _ _ => id⟩⟩

theorem spares_update {f : Tenant → Tenant}
    (hf : ∀ y kind, c.made? ≠ some kind → (y.slots.get kind).get? = none →
      ((f y).slots.get kind).get? = none) : Spares t c g (g.update t f) := by
  refine ⟨rfl, rfl, fun t' y' hy' => ?_⟩
  rw [getElem?_update] at hy'
  obtain ⟨y, hy, rfl⟩ := Option.map_eq_some_iff.1 hy'
  refine ⟨y, hy, fun hne => if_neg (Ne.symm hne), fun kind hmade hnone => ?_⟩
  split
  · exact hf y kind hmade hnone
  · exact hnone

theorem Spares.trans (h : Spares t c g g') (h' : Spares t c g' g'') : Spares t c g g'' := by
  refine ⟨h'.registered.trans h.registered, h'.kept.trans h.kept, fun t' y'' hy'' => ?_⟩
  obtain ⟨y', hy', helse', hslots'⟩ := h'.tenants t' y'' hy''
  obtain ⟨y, hy, helse, hslots⟩ := h.tenants t' y' hy'
  exact ⟨y, hy, fun hne => (helse' hne).trans (helse hne),
    fun kind hmade hnone => hslots' kind hmade (hslots kind hmade hnone)⟩

theorem get_set (slots : HandlerSlots) (kind other : HandlerKind) (slot : Slot Nat) :
    (slots.set kind slot).get other = if other = kind then slot else slots.get other := by
  cases kind <;> cases other <;> rfl

theorem get?_poison {y : Tenant} {kind : HandlerKind} (lock : Lock)
    (hnone : (y.slots.get kind).get? = none) : ((y.poison lock).slots.get kind).get? = none := by
  match lock with
  | .jobCache _ | .diskCache _ | .systemSession _ => exact hnone
  | .slot other =>
      show ((y.slots.set other _).get kind).get? = none
      rw [get_set]
      split
      · rfl
      · exact hnone

theorem get?_fill {y : Tenant} {kind other : HandlerKind} {h : Nat} (hne : kind ≠ other)
    (hnone : (y.slots.get kind).get? = none) : ((y.fill other h).slots.get kind).get? = none := by
  show ((y.slots.set other _).get kind).get? = none
  rw [get_set, if_neg hne]
  exact hnone

theorem spares_reclaim : Spares t c g (g.reclaim t) := by
  unfold reclaim
  split
  · exact spares_same rfl rfl rfl
  · refine Spares.trans (spares_update (f := Tenant.disown) ?_) (spares_same rfl rfl rfl)
    exact fun _ _ _ hnone => hnone

/-- Clearing one slot fills none. -/
theorem spares_clear {kind : HandlerKind} :
    Spares t c g ((g.update t fun x =>
      { x with slots := x.slots.set kind (x.slots.get kind).clear }).reclaim t) := by
  refine Spares.trans (spares_update fun y other _ hnone => ?_) spares_reclaim
  show ((y.slots.set kind _).get other).get? = none
  rw [get_set]
  split
  · exact Slot.get?_clear _
  · exact hnone

theorem spares_perform (g : Gateway) (t : Nat) (x : Tenant) (gate : Option Nat) (c : Job.Call) :
    Spares t c g (g.perform t x gate c).state := by
  cases c with
  | now | watermark | note | handler | jobCache | diskCache | session | openSession
    | closeSession =>
      exact spares_same rfl rfl rfl
  | query session q =>
      unfold perform
      dsimp only
      split
      · split <;> exact spares_same rfl rfl rfl
      · split <;> exact spares_same rfl rfl rfl
  | acquire lock =>
      unfold perform
      dsimp only
      split
      · exact spares_same rfl rfl rfl
      · split
        · exact spares_same rfl rfl rfl
        · exact spares_update fun _ _ _ hnone => hnone
  | release lock poison =>
      refine spares_update fun y kind _ hnone => ?_
      dsimp only
      split
      · exact get?_poison lock hnone
      · exact hnone
  | install kind =>
      have hne {kind' : HandlerKind}
          (hmade : (Job.Call.install kind).made? ≠ some kind') : kind' ≠ kind :=
        fun heq => hmade (congrArg some heq.symm)
      cases kind with
      | jobs | disks | system | subsystems | commands =>
          exact spares_update fun _ _ hmade hnone => get?_fill (hne hmade) hnone
  | installSystem session =>
      refine spares_update fun y kind hmade hnone => get?_fill (fun heq => ?_) hnone
      exact hmade (congrArg some heq.symm)
  | saveJobCache | saveDiskCache | replaceSession | hold =>
      exact spares_update fun _ _ _ hnone => hnone
  | letGo h =>
      refine Spares.trans ?_ spares_reclaim
      exact spares_update fun _ _ _ hnone => hnone

end

end CheckGateway.Gateway
