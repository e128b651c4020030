/-
How the books follow what one job does: one session or none changes hands,
and a tenant backs the job's new grip and the old ones of all others.

Here are the calls for sessions and for locks; those for system handlers
come after, in `Systems`.
-/
import CheckGateway.Proofs.Gateway.Holdings

namespace CheckGateway.Gateway

open Job (Grip)

section

variable {g g' : Gateway} {hands : Hands} {owner : Nat → Option Owner}
  {t : Nat} {x x' : Tenant} {o : Post} {G : Grip} {s : Nat}

-- ============================================================ one job moves

/-- A grip still fits a tenant that has kept what the grip has hold of. -/
theorem Fits.mono (hfits : Fits x G) (hlocked : ∀ lock ∈ G.locks, lock ∈ x'.locked)
    (hslot : .slot .system ∈ G.locks → x'.slots.system = x.slots.system)
    (hsystems : ∀ h ∈ G.handlers, ∀ y, x.systems[h]? = some y →
      ∃ y', x'.systems[h]? = some y'
        ∧ ∀ s, G.borrowed = some (h, s) → y'.session = y.session) : Fits x' G := by
  refine ⟨hlocked, fun hlock => ?_, fun v hv => ?_, fun h s hborrowed => ?_,
    fun h hheld => ?_⟩
  · rw [hslot hlock]
    exact hfits.unpoisoned hlock
  · obtain ⟨hlock, hhandler⟩ := hfits.viewed v hv
    rw [hslot hlock]
    exact ⟨hlock, hhandler⟩
  · obtain ⟨hlock, hheld, y, hy, hs⟩ := hfits.lent h s hborrowed
    obtain ⟨y', hy', hsame⟩ := hsystems h hheld y hy
    exact ⟨hlock, hheld, y', hy', (hsame s hborrowed).trans hs⟩
  · obtain ⟨y', hy', -⟩ := hsystems h hheld _ (List.getElem?_eq_getElem (hfits.known h hheld))
    exact (List.getElem?_eq_some_iff.1 hy').1

/-- A tenant backs the new grip of one of its jobs and the old ones of all
others. -/
theorem Backs.move (hbacks : Backs hands t x) (ho : o.tenant = t) (hfit : Fits x' G)
    (hfits : ∀ o', o'.tenant = t → o' ≠ o → Fits x' (hands o'))
    (hexclusive : ∀ o', o'.tenant = t → o' ≠ o → ∀ lock ∈ G.locks,
      lock ∉ (hands o').locks)
    (hused : ∀ h y, x'.systems[h]? = some y → Held (Function.update hands o G) t h y.users)
    (hfilled : ∀ h, x'.slots.system.handler = some h → h < x'.systems.length)
    (hpoisoned : x'.slots.system.poisoned = true → x'.slots.system.handler = none)
    (halive : ∀ h y, x'.systems[h]? = some y → x'.isDropped h y = false →
      y.session.isSome = true) : Backs (Function.update hands o G) t x' := by
  refine ⟨fun o' ho' => ?_, fun o₁ o₂ ho₁ ho₂ lock hlock₁ hlock₂ => ?_, hused, hfilled,
    hpoisoned, halive⟩
  · rcases eq_or_ne o' o with rfl | hne
    · rw [Function.update_self]
      exact hfit
    · rw [Function.update_of_ne hne]
      exact hfits o' ho' hne
  · -- of two jobs that have one lock, either may be the one that moves
    rcases eq_or_ne o₁ o with rfl | hne₁
    · rcases eq_or_ne o₂ o₁ with rfl | hne₂
      · rfl
      · rw [Function.update_self] at hlock₁
        rw [Function.update_of_ne hne₂] at hlock₂
        exact absurd hlock₂ (hexclusive o₂ ho₂ hne₂ lock hlock₁)
    · rw [Function.update_of_ne hne₁] at hlock₁
      rcases eq_or_ne o₂ o with rfl | hne₂
      · rw [Function.update_self] at hlock₂
        exact absurd hlock₁ (hexclusive o₁ ho₁ hne₁ lock hlock₂)
      · rw [Function.update_of_ne hne₂] at hlock₂
        exact hbacks.exclusive o₁ o₂ ho₁ ho₂ lock hlock₁ hlock₂

/-- What a job's new grip has in common with the old one, all jobs still
have. -/
theorem grip_update {β : Type} (f : Grip → β) (hG : f G = f (hands o)) (o' : Post) :
    f (Function.update hands o G o') = f (hands o') := by
  rcases eq_or_ne o' o with rfl | hne
  · rw [Function.update_self, hG]
  · rw [Function.update_of_ne hne]

theorem Balanced.congr (H : Balanced g hands owner) (horderly : g'.remote.Orderly)
    (hconnected : g'.remote.connected = g.remote.connected)
    (hholdings : ∀ t : Nat, g'.tenants[t]?.map holdings = g.tenants[t]?.map holdings) :
    Balanced g' hands owner := by
  refine ⟨H.toHolds.congr horderly hconnected hholdings, fun t x' hx' => ?_⟩
  have heq := hholdings t
  rw [hx'] at heq
  obtain ⟨x, hx, hsame⟩ := Option.map_eq_some_iff.1 heq.symm
  exact (H.tidy t x hx).congr hsame.symm

/-- The gateway's own tenants, with one of them looked at. -/
theorem tenants_same (hx : g.tenants[t]? = some x) (t' : Nat) :
    g.tenants[t']? = if t' = t then some x else g.tenants[t']? := by
  split
  next heq => rw [heq, hx]
  next => rfl

/-- Nobody, or one that a job at a post can give to or take from. -/
def Within (o : Post) (v : Option Owner) : Prop :=
  ∀ w, v = some w → w = .hand o ∨ ∃ h, w = .handler o.tenant h

theorem within_none : Within o none := fun _ heq => nomatch heq

theorem within_hand : Within o (some (.hand o)) := fun _ heq => .inl (Option.some.inj heq).symm

theorem within_handler (h : Nat) : Within o (some (.handler o.tenant h)) :=
  fun _ heq => .inr ⟨h, (Option.some.inj heq).symm⟩

theorem Within.ne_hand {v : Option Owner} (hv : Within o v) {o' : Post} (hne : o' ≠ o) :
    v ≠ some (.hand o') := by
  intro heq
  rcases hv _ heq with heq | ⟨h, heq⟩
  · cases heq
    exact hne rfl
  · cases heq

theorem Within.ne_handler {v : Option Owner} (hv : Within o v) {h : Nat}
    (hne : t ≠ o.tenant) : v ≠ some (.handler t h) := by
  intro heq
  rcases hv _ heq with heq | ⟨h', heq⟩
  · cases heq
  · cases heq
    exact hne rfl

theorem update_elsewhere (o' : Post) (ho' : o'.tenant ≠ o.tenant) :
    Function.update hands o G o' = hands o' :=
  Function.update_of_ne (fun heq => ho' (congrArg Post.tenant heq)) _ _

/-- One session changes hands at a post, or at a handler of its tenant. -/
theorem Balanced.pass {v : Option Owner} (H : Balanced g hands owner)
    (hx : g.tenants[o.tenant]? = some x)
    (htenants : ∀ t : Nat, g'.tenants[t]? = if t = o.tenant then some x' else g.tenants[t]?)
    (horderly : g'.remote.Orderly) (hbacks : Backs (Function.update hands o G) o.tenant x')
    (htidy : Tidy x') (hnew : Within o v) (hold : Within o (owner s))
    (hconnected : ∀ k, k ∈ g'.remote.connected ↔
      if k = s then v.isSome = true else k ∈ g.remote.connected)
    (hhand : ∀ k, k ∈ G.sessions ↔
      if k = s then v = some (.hand o) else k ∈ (hands o).sessions)
    (hretains : ∀ h k, Retains (Function.update hands o G) o.tenant x' h k ↔
      if k = s then v = some (.handler o.tenant h) else Retains hands o.tenant x h k) :
    Balanced g' (Function.update hands o G) (Function.update owner s v) := by
  refine ⟨H.toHolds.locally hx htenants horderly hbacks update_elsewhere (fun k => ?_)
    (fun o' k => ?_) (fun h k => ?_) fun t' h k hne => ?_, H.still_tidy htenants htidy⟩
  · rw [hconnected]
    rcases eq_or_ne k s with rfl | hk
    · rw [if_pos rfl, Function.update_self]
    · rw [if_neg hk, Function.update_of_ne hk, H.connected]
  · rcases eq_or_ne o' o with rfl | ho'
    · rw [Function.update_self, hhand]
      rcases eq_or_ne k s with rfl | hk
      · rw [if_pos rfl, Function.update_self]
      · rw [if_neg hk, Function.update_of_ne hk, H.hand]
    · -- no other job has had the session, or gets it
      rw [Function.update_of_ne ho', H.hand]
      rcases eq_or_ne k s with rfl | hk
      · rw [Function.update_self]
        exact iff_of_false (hold.ne_hand ho') (hnew.ne_hand ho')
      · rw [Function.update_of_ne hk]
  · rw [hretains]
    rcases eq_or_ne k s with rfl | hk
    · rw [if_pos rfl, Function.update_self]
    · rw [if_neg hk, Function.update_of_ne hk, H.retains hx]
  · rcases eq_or_ne k s with rfl | hk
    · rw [Function.update_self]
      exact iff_of_false (hnew.ne_handler hne) (hold.ne_handler hne)
    · rw [Function.update_of_ne hk]

/-- No session changes hands. -/
theorem Holds.keep (H : Holds g hands owner) (hx : g.tenants[o.tenant]? = some x)
    (htenants : ∀ t : Nat, g'.tenants[t]? = if t = o.tenant then some x' else g.tenants[t]?)
    (hremote : g'.remote = g.remote)
    (hbacks : Backs (Function.update hands o G) o.tenant x')
    (hsessions : G.sessions = (hands o).sessions)
    (hretains : ∀ h k, Retains (Function.update hands o G) o.tenant x' h k ↔
      Retains hands o.tenant x h k) : Holds g' (Function.update hands o G) owner := by
  refine H.locally hx htenants (hremote ▸ H.orderly) hbacks update_elsewhere
    (fun k => hremote ▸ H.connected k) (fun o' k => ?_) (fun h k => ?_) fun t' h k hne => .rfl
  · rcases eq_or_ne o' o with rfl | ho'
    · rw [Function.update_self, hsessions]
      exact H.hand o' k
    · rw [Function.update_of_ne ho']
      exact H.hand o' k
  · rw [hretains]
    exact H.retains hx

theorem Balanced.keep (H : Balanced g hands owner) (hx : g.tenants[o.tenant]? = some x)
    (htenants : ∀ t : Nat, g'.tenants[t]? = if t = o.tenant then some x' else g.tenants[t]?)
    (hremote : g'.remote = g.remote)
    (hbacks : Backs (Function.update hands o G) o.tenant x') (htidy : Tidy x')
    (hsessions : G.sessions = (hands o).sessions)
    (hretains : ∀ h k, Retains (Function.update hands o G) o.tenant x' h k ↔
      Retains hands o.tenant x h k) : Balanced g' (Function.update hands o G) owner :=
  ⟨H.toHolds.keep hx htenants hremote hbacks hsessions hretains, H.still_tidy htenants htidy⟩

-- ================================================================== sessions

/-- A session goes into a job's hands. -/
theorem mem_taken_iff {ss : List Nat} (k : Nat) :
    k ∈ s :: ss ↔ if k = s then some (Owner.hand o) = some (.hand o) else k ∈ ss := by
  rw [List.mem_cons]
  split
  next heq => exact iff_of_true (.inl heq) rfl
  next hne => exact or_iff_right hne

theorem mem_without {k : Nat} : k ∈ (G.without s).sessions ↔ k ∈ G.sessions ∧ k ≠ s := by
  unfold Grip.without
  rw [List.mem_filter, decide_eq_true_eq]

/-- A session leaves a job's hands. -/
theorem mem_without_iff {v : Option Owner} (hv : v ≠ some (.hand o)) (k : Nat) :
    k ∈ (G.without s).sessions ↔ if k = s then v = some (.hand o) else k ∈ G.sessions := by
  rw [mem_without]
  split
  next heq => exact iff_of_false (fun h => h.2 heq) hv
  next hne => exact and_iff_left hne

/-- A connected session stays so, whoever gets it. -/
theorem connected_iff_same {w : Owner} (hs : s ∈ g.remote.connected) (k : Nat) :
    k ∈ g.remote.connected ↔
      if k = s then (some w).isSome = true else k ∈ g.remote.connected := by
  split
  next heq => exact iff_of_true (heq ▸ hs) rfl
  next => rfl

theorem Backs.withSessions (hbacks : Backs hands t x) (ss : List Nat) :
    Backs (Function.update hands o { hands o with sessions := ss }) t x :=
  hbacks.congr_hands (grip_update Grip.locks rfl) (grip_update Grip.handlers rfl)
    (grip_update Grip.borrowed rfl) (grip_update Grip.view rfl)

/-- Sessions that go between a job's hands and nobody's are retained by no
handler. -/
theorem Holds.retains_iff (H : Holds g hands owner) (hx : g.tenants[o.tenant]? = some x)
    (hG : G.borrowed = (hands o).borrowed) {v : Option Owner}
    (hv : ∀ h, v ≠ some (.handler o.tenant h))
    (hs : ∀ h, owner s ≠ some (.handler o.tenant h)) (h k : Nat) :
    Retains (Function.update hands o G) o.tenant x h k ↔
      if k = s then v = some (.handler o.tenant h) else Retains hands o.tenant x h k := by
  rw [retains_congr rfl fun o' _ => grip_update Grip.borrowed hG o']
  split
  next heq =>
    subst heq
    exact iff_of_false (fun hr => hs h ((H.retains hx).2 hr)) (hv h)
  next => rfl

/-- A job opens a session. -/
theorem Balanced.opened (H : Balanced g hands owner) (hx : g.tenants[o.tenant]? = some x)
    (who : Credentials) (policy : SocketPolicy) :
    Balanced { g with remote := g.remote.opened who policy }
      (Function.update hands o
        { hands o with sessions := (g.remote.attempts + 1) :: (hands o).sessions })
      (Function.update owner (g.remote.attempts + 1) (some (.hand o))) := by
  have hnew : g.remote.attempts + 1 ∉ g.remote.connected := H.orderly.next_not_mem
  have hnone : owner (g.remote.attempts + 1) = none := H.owner_eq_none hnew
  refine H.pass hx (tenants_same hx) (H.orderly.opened who policy)
    ((H.backs _ x hx).withSessions _) (H.tidy _ x hx) within_hand (hnone ▸ within_none)
    (fun k => ?_) mem_taken_iff (H.retains_iff hx (by rfl) (fun h => nofun) fun h heq => ?_)
  · show k ∈ (g.remote.attempts + 1) :: g.remote.connected ↔ _
    rw [List.mem_cons]
    split
    next heq => exact iff_of_true (.inl heq) rfl
    next hne => exact or_iff_right hne
  · rw [hnone] at heq
    cases heq

/-- A job closes a session that it has in its hands. -/
theorem Balanced.closed (H : Balanced g hands owner) (hx : g.tenants[o.tenant]? = some x)
    (hs : s ∈ (hands o).sessions) :
    Balanced (g.disconnect [s]) (Function.update hands o ((hands o).without s))
      (Function.update owner s none) := by
  have howner := (H.hand o s).1 hs
  have hconnected : s ∈ g.remote.connected := H.connected_of_hand hs
  refine H.pass hx (tenants_same hx) (H.orderly.disconnect hconnected)
    ((H.backs _ x hx).withSessions _) (H.tidy _ x hx) within_none (howner ▸ within_hand)
    (fun k => ?_) (mem_without_iff nofun)
    (H.retains_iff hx (by rfl) (fun h => nofun) fun h heq => ?_)
  · show k ∈ (g.remote.disconnect s).connected ↔ _
    rw [ScriptedRemote.mem_connected_disconnect H.orderly hconnected]
    split
    next heq => exact iff_of_false (fun h => h.2 heq) nofun
    next hne => exact and_iff_left hne
  · rw [howner] at heq
    cases heq

-- ===================================================================== locks

theorem Backs.used_of_same (hbacks : Backs hands t x)
    (hG : G.handlers = (hands o).handlers) {h : Nat} {y : SystemHandler}
    (hy : x.systems[h]? = some y) : Held (Function.update hands o G) t h y.users :=
  (hbacks.used h y hy).congr fun o' _ => by rw [grip_update Grip.handlers hG]

/-- A job takes a lock that is free. -/
theorem Balanced.acquired (H : Balanced g hands owner) (hx : g.tenants[o.tenant]? = some x)
    {lock : Lock} (hfree : lock ∉ x.locked) (hsound : x.isPoisoned lock = false) :
    Balanced (g.update o.tenant fun x => { x with locked := lock :: x.locked })
      (Function.update hands o ((hands o).after (.acquire lock) true)) owner := by
  have hbacks := H.backs _ x hx
  have hfit := hbacks.fits o rfl
  have htenants := tenants_update (f := fun x => { x with locked := lock :: x.locked }) hx
  have hhandlers : ((hands o).after (.acquire lock) true).handlers = (hands o).handlers := rfl
  have hborrowed : ((hands o).after (.acquire lock) true).borrowed = (hands o).borrowed := rfl
  refine H.keep hx htenants rfl ?_ (H.tidy _ x hx) rfl fun h k => ?_
  · refine hbacks.move rfl ⟨?_, ?_, ?_, ?_, hfit.known⟩ ?_ ?_
      (fun h y hy => hbacks.used_of_same hhandlers hy) hbacks.filled hbacks.poisoned
      hbacks.alive
    · intro k hk
      rcases List.mem_cons.1 hk with rfl | hk
      · exact List.mem_cons_self
      · exact List.mem_cons_of_mem _ (hfit.locked k hk)
    · intro hk
      rcases List.mem_cons.1 hk with rfl | hk
      · exact hsound
      · exact hfit.unpoisoned hk
    · intro v hv
      change (if lock = .slot .system then none else (hands o).view) = some v at hv
      split at hv
      · cases hv
      · obtain ⟨hk, hhandler⟩ := hfit.viewed v hv
        exact ⟨List.mem_cons_of_mem _ hk, hhandler⟩
    · intro h s hborrowed
      obtain ⟨hk, hrest⟩ := hfit.lent h s hborrowed
      exact ⟨List.mem_cons_of_mem _ hk, hrest⟩
    · intro o' ho' hne
      have hfit' := hbacks.fits o' ho'
      exact hfit'.mono (fun k hk => List.mem_cons_of_mem _ (hfit'.locked k hk))
        (fun _ => rfl) fun h _ y hy => ⟨y, hy, fun _ _ => rfl⟩
    · intro o' ho' hne k hk hk'
      rcases List.mem_cons.1 hk with rfl | hk
      · exact hfree ((hbacks.fits o' ho').locked k hk')
      · exact hne (hbacks.exclusive o' o ho' rfl k hk' hk)
  · exact retains_congr rfl fun o' _ => grip_update Grip.borrowed hborrowed o'

theorem holdings_update {f : Tenant → Tenant} (hf : ∀ x, holdings (f x) = holdings x)
    (t' : Nat) :
    (g.update t f).tenants[t']?.map holdings = g.tenants[t']?.map holdings := by
  rw [getElem?_update, Option.map_map]
  refine congrArg (Option.map · _) (funext fun x => ?_)
  show holdings (if _ then _ else _) = _
  split
  · exact hf x
  · rfl

theorem getElem?_modify_iff {ys : List SystemHandler} {h k : Nat}
    {f : SystemHandler → SystemHandler} {y : SystemHandler} :
    (ys.modify h f)[k]? = some y ↔
      ∃ y', ys[k]? = some y' ∧ y = if h = k then f y' else y' := by
  rw [List.getElem?_modify]
  show Option.map _ _ = _ ↔ _
  rw [Option.map_eq_some_iff]
  exact exists_congr fun y' => and_congr_right fun _ => eq_comm

/-- Changing one system handler does not matter to a grip, unless it has
borrowed the session that is changed. -/
theorem Fits.modify (hfits : Fits x G) {h : Nat} {f : SystemHandler → SystemHandler}
    (hf : ∀ s y, G.borrowed = some (h, s) → (f y).session = y.session) :
    Fits { x with systems := x.systems.modify h f } G := by
  refine hfits.mono hfits.locked (fun _ => rfl) fun k _ y hy =>
    ⟨if h = k then f y else y, getElem?_modify_iff.2 ⟨y, hy, rfl⟩, fun s hborrowed => ?_⟩
  split
  next heq =>
    subst heq
    exact hf s y hborrowed
  next => rfl

/-- Of what a lock guards that nobody has, only that it is poisoned
changes. -/
theorem Backs.poison (hbacks : Backs hands t x) {lock : Lock}
    (hfree : ∀ o, o.tenant = t → lock ∉ (hands o).locks)
    (hempty : lock = .slot .system → x.slots.system.handler = none) :
    Backs hands t (x.poison lock) := by
  match lock with
  | .slot .jobs | .slot .disks | .slot .subsystems | .slot .commands | .jobCache _
  | .diskCache _ => exact hbacks.congr rfl
  | .slot .system =>
      have hnone := hempty rfl
      refine ⟨fun o ho => ?_, hbacks.exclusive, hbacks.used, hbacks.filled, fun _ => hnone,
        fun h y hy hknown => hbacks.alive h y hy ?_⟩
      · have hfit := hbacks.fits o ho
        exact hfit.mono hfit.locked (fun hk => absurd hk (hfree o ho))
          fun h _ y hy => ⟨y, hy, fun _ _ => rfl⟩
      · exact not_dropped_of_users (users_of_not_dropped hknown rfl)
  | .systemSession h =>
      refine ⟨fun o ho => (hbacks.fits o ho).modify fun _ _ _ => rfl, hbacks.exclusive,
        fun k y hy => ?_, fun k hk => ?_, hbacks.poisoned, fun k y hy hknown => ?_⟩
      · obtain ⟨y', hy', rfl⟩ := getElem?_modify_iff.1 hy
        have hused := hbacks.used k y' hy'
        split <;> exact hused
      · show k < (x.systems.modify h _).length
        rw [List.length_modify]
        exact hbacks.filled k hk
      · obtain ⟨y', hy', rfl⟩ := getElem?_modify_iff.1 hy
        have halive := hbacks.alive k y' hy'
        split at hknown <;> rename_i heq
        · rw [if_pos heq]
          exact halive hknown
        · rw [if_neg heq]
          exact halive hknown

theorem Tidy.poison (htidy : Tidy x) {lock : Lock}
    (hempty : lock = .slot .system → x.slots.system.handler = none) :
    Tidy (x.poison lock) := by
  match lock with
  | .slot .jobs | .slot .disks | .slot .subsystems | .slot .commands | .jobCache _
  | .diskCache _ => exact htidy.congr rfl
  | .slot .system =>
      intro h y hy hsession
      refine not_dropped_of_users (users_of_not_dropped (htidy h y hy hsession) ?_)
      unfold Slot.get?
      rw [hempty rfl, ite_self]
  | .systemSession h =>
      intro k y hy hsession
      obtain ⟨y', hy', rfl⟩ := getElem?_modify_iff.1 hy
      have hknown := htidy k y' hy'
      split at hsession <;> rename_i heq
      · rw [if_pos heq]
        exact hknown hsession
      · rw [if_neg heq]
        exact hknown hsession

/-- What poisons a handler leaves it its session. -/
theorem retains_poison {lock : Lock} {h : Nat} :
    Retains hands t (x.poison lock) h s ↔ Retains hands t x h s := by
  match lock with
  | .slot _ | .jobCache _ | .diskCache _ => exact .rfl
  | .systemSession k =>
      refine and_congr_left fun _ => ?_
      constructor
      · rintro ⟨y, hy, hs⟩
        obtain ⟨y', hy', rfl⟩ := getElem?_modify_iff.1 hy
        refine ⟨y', hy', ?_⟩
        split at hs <;> exact hs
      · rintro ⟨y, hy, hs⟩
        refine ⟨_, getElem?_modify_iff.2 ⟨y, hy, rfl⟩, ?_⟩
        split <;> exact hs

/-- What a lock guards that nobody has any more is poisoned. -/
theorem Balanced.poisoned (H : Balanced g hands owner) (hx : g.tenants[t]? = some x)
    {lock : Lock} (hfree : ∀ o, o.tenant = t → lock ∉ (hands o).locks)
    (hempty : lock = .slot .system → x.slots.system.handler = none) :
    Balanced (g.update t fun x => x.poison lock) hands owner := by
  have htenants := tenants_update (f := fun x => x.poison lock) hx
  refine ⟨H.toHolds.locally hx htenants H.orderly ((H.backs t x hx).poison hfree hempty)
    (fun _ _ => rfl) H.connected H.hand (fun h s => ?_) (fun _ _ _ _ => .rfl),
    H.still_tidy htenants ((H.tidy t x hx).poison hempty)⟩
  rw [retains_poison]
  exact H.retains hx

-- ---- a lock is released

/-- A tenant backs its jobs once one of them has given a lock back, with
whatever it was that only the lock entitled it to. -/
theorem Backs.unlocked (hbacks : Backs hands o.tenant x) {lock : Lock}
    (hlocks : G.locks = (hands o).locks.filter (· ≠ lock))
    (hhandlers : G.handlers = (hands o).handlers)
    (hview : ∀ v, G.view = some v → lock ≠ .slot .system ∧ (hands o).view = some v)
    (hborrowed : ∀ h s, G.borrowed = some (h, s) →
      lock ≠ .systemSession h ∧ (hands o).borrowed = some (h, s))
    (hlock : lock ∈ (hands o).locks) :
    Backs (Function.update hands o G) o.tenant
      { x with locked := x.locked.erase lock } := by
  have hfit := hbacks.fits o rfl
  have hmem {k : Lock} : k ∈ G.locks ↔ k ∈ (hands o).locks ∧ k ≠ lock := by
    rw [hlocks, List.mem_filter, decide_eq_true_eq]
  have hstill {k : Lock} (hk : k ∈ x.locked) (hne : k ≠ lock) : k ∈ x.locked.erase lock :=
    (List.mem_erase_of_ne hne).2 hk
  apply hbacks.move rfl
  · refine ⟨fun k hk => ?_, fun hk => hfit.unpoisoned (hmem.1 hk).1, fun v hv => ?_,
      fun h s hs => ?_, fun h hheld => hfit.known h (hhandlers ▸ hheld)⟩
    · obtain ⟨hk, hne⟩ := hmem.1 hk
      exact hstill (hfit.locked k hk) hne
    · obtain ⟨hne, hv⟩ := hview v hv
      obtain ⟨hk, hhandler⟩ := hfit.viewed v hv
      exact ⟨hmem.2 ⟨hk, hne.symm⟩, hhandler⟩
    · obtain ⟨hne, hs⟩ := hborrowed h s hs
      obtain ⟨hk, hheld, hsession⟩ := hfit.lent h s hs
      exact ⟨hmem.2 ⟨hk, hne.symm⟩, hhandlers ▸ hheld, hsession⟩
  · intro o' ho' hne
    have hfit' := hbacks.fits o' ho'
    refine hfit'.mono (fun k hk => hstill (hfit'.locked k hk) ?_) (fun _ => rfl)
      fun h _ y hy => ⟨y, hy, fun _ _ => rfl⟩
    rintro rfl
    exact hne (hbacks.exclusive o' o ho' rfl k hk hlock)
  · intro o' ho' hne k hk hk'
    exact hne (hbacks.exclusive o' o ho' rfl k hk' (hmem.1 hk).1)
  · exact fun h y hy => hbacks.used_of_same hhandlers hy
  · exact hbacks.filled
  · exact hbacks.poisoned
  · exact hbacks.alive

/-- A session that there was before has an owner of the same tenant, or
none. -/
def Stays (g : Gateway) (owner owner' : Nat → Option Owner) : Prop :=
  ∀ s ≤ g.remote.attempts, ∀ w', owner' s = some w' →
    ∃ w, owner s = some w ∧ w.tenant = w'.tenant

theorem Stays.refl : Stays g owner owner := fun _ _ w hw => ⟨w, hw, rfl⟩

theorem stays_update {w : Owner} {v : Option Owner} (hs : owner s = some w)
    (hv : v = none ∨ v.map Owner.tenant = some w.tenant) :
    Stays g owner (Function.update owner s v) := by
  intro k _ w' hw'
  by_cases hk : k = s
  · subst hk
    rw [Function.update_self] at hw'
    subst hw'
    rcases hv with hv | hv
    · cases hv
    · exact ⟨w, hs, (Option.some.inj hv).symm⟩
  · rw [Function.update_of_ne hk] at hw'
    exact ⟨w', hw', rfl⟩

theorem stays_disowned {ss : List Nat} : Stays g owner (disowned owner ss) :=
  fun _ _ w hw => ⟨w, (disowned_eq_some_iff.1 hw).2, rfl⟩

/-- Nobody else has borrowed the session of a handler whose lock a job
has. -/
theorem Backs.not_lent (hbacks : Backs hands t x) {o' : Post} {h : Nat}
    (hlock : .systemSession h ∈ (hands o).locks) (ho : o.tenant = t) (ho' : o'.tenant = t)
    (hne : o' ≠ o) : (hands o').borrowed ≠ some (h, s) := by
  intro hborrowed
  have hlock' := ((hbacks.fits o' ho').lent h s hborrowed).1
  exact hne (hbacks.exclusive o' o ho' ho _ hlock' hlock)

/-- What a handler other than the one in question retains does not depend on
who borrows that one's session. -/
theorem retains_update {h' : Nat}
    (hsystems : x'.systems[h']? = x.systems[h']?)
    (hborrowed : ∀ s, G.borrowed = some (h', s) ↔ (hands o).borrowed = some (h', s)) :
    Retains (Function.update hands o G) t x' h' s ↔ Retains hands t x h' s := by
  unfold Retains
  rw [hsystems]
  refine and_congr_right fun _ => forall_congr' fun o' => imp_congr_right fun _ =>
    forall_congr' fun s' => not_congr ?_
  by_cases ho' : o' = o
  · subst ho'
    rw [Function.update_self]
    exact hborrowed s'
  · rw [Function.update_of_ne ho']

/-- What handlers retain when one of them, that had nothing to retain, is
given a session. -/
theorem Holds.retains_given {hands' : Hands} {o' : Post} {h : Nat} (H : Holds g hands owner)
    (hx : g.tenants[t]? = some x) (howner : owner s = some (.hand o'))
    (hothers : ∀ h' k, h' ≠ h → (Retains hands' t x' h' k ↔ Retains hands t x h' k))
    (hnow : ∀ k, Retains hands' t x' h k ↔ k = s) (hbefore : ∀ k, ¬ Retains hands t x h k)
    (h' k : Nat) : Retains hands' t x' h' k ↔
      if k = s then some (Owner.handler t h) = some (.handler t h')
      else Retains hands t x h' k := by
  by_cases hh : h' = h
  · subst hh
    rw [hnow]
    split
    · exact iff_of_true ‹_› rfl
    · exact iff_of_false ‹_› (hbefore k)
  · rw [hothers h' k hh]
    split
    next heq =>
      subst heq
      refine iff_of_false (fun hr => ?_) fun heq => ?_
      · rw [(H.retains hx).2 hr] at howner
        cases howner
      · cases heq
        exact hh rfl
    next => rfl

/-- What handlers retain when one of them lends its session. -/
theorem Holds.retains_taken {hands' : Hands} {o' : Post} {h : Nat} (H : Holds g hands owner)
    (hx : g.tenants[t]? = some x) (howner : owner s = some (.handler t h))
    (hothers : ∀ h' k, h' ≠ h → (Retains hands' t x' h' k ↔ Retains hands t x h' k))
    (hnow : ∀ k, ¬ Retains hands' t x' h k) (h' k : Nat) :
    Retains hands' t x' h' k ↔
      if k = s then some (Owner.hand o') = some (.handler t h')
      else Retains hands t x h' k := by
  have hunique {h' k : Nat} (hr : Retains hands t x h' k) : k = s → h' = h := by
    rintro rfl
    rw [(H.retains hx).2 hr] at howner
    cases howner
    rfl
  by_cases hh : h' = h
  · subst hh
    refine iff_of_false (hnow k) ?_
    split
    · exact nofun
    next hne =>
      intro hr
      obtain ⟨⟨y, hy, hs⟩, -⟩ := (H.retains hx).1 howner
      obtain ⟨⟨y', hy', hs'⟩, -⟩ := hr
      rw [hy] at hy'
      cases hy'
      rw [hs] at hs'
      exact hne (Option.some.inj hs').symm
  · rw [hothers h' k hh]
    split
    next heq => exact iff_of_false (fun hr => hh (hunique hr heq)) nofun
    next => rfl

/-- What handlers retain when one of them gets back the session that it has
lent. -/
theorem Holds.retains_returned {h : Nat} (H : Holds g hands owner)
    (hx : g.tenants[o.tenant]? = some x) (hlock : .systemSession h ∈ (hands o).locks)
    (hlent : (hands o).borrowed = some (h, s)) (howner : owner s = some (.hand o))
    (hG : G.borrowed = none) (hsystems : x'.systems = x.systems) (h' k : Nat) :
    Retains (Function.update hands o G) o.tenant x' h' k ↔
      if k = s then some (Owner.handler o.tenant h) = some (.handler o.tenant h')
      else Retains hands o.tenant x h' k := by
  have hbacks := H.backs _ x hx
  obtain ⟨-, -, y, hy, hys⟩ := (hbacks.fits o rfl).lent h s hlent
  have hat (k : Nat) : x'.systems[k]? = x.systems[k]? := by rw [hsystems]
  refine H.retains_given hx howner (fun k s' hk => retains_update (hat k) fun s'' => ?_)
    (fun s' => ⟨?_, ?_⟩) (fun s' hr => hr.2 o rfl s hlent) h' k
  · rw [hG, hlent]
    refine iff_of_false nofun fun heq => ?_
    cases heq
    exact hk rfl
  · rintro ⟨⟨y', hy', hys'⟩, -⟩
    rw [hat, hy] at hy'
    cases hy'
    rw [hys] at hys'
    exact (Option.some.inj hys').symm
  · rintro rfl
    refine ⟨⟨y, (hat h).trans hy, hys⟩, fun o' ho' s' => ?_⟩
    by_cases hne : o' = o
    · rw [hne, Function.update_self, hG]
      exact nofun
    · rw [Function.update_of_ne hne]
      exact hbacks.not_lent hlock rfl ho' hne

theorem returning_cases (lock : Lock) :
    (∃ h s, lock = .systemSession h ∧ G.borrowed = some (h, s)
        ∧ G.returning lock = { G.without s with borrowed := none })
      ∨ (∀ h s, G.borrowed = some (h, s) → lock ≠ .systemSession h)
        ∧ G.returning lock = G := by
  unfold Grip.returning
  cases hborrowed : G.borrowed with
  | none => exact .inr ⟨nofun, rfl⟩
  | some hs =>
      obtain ⟨h, s⟩ := hs
      dsimp only
      by_cases hlock : lock = .systemSession h
      · rw [if_pos hlock]
        exact .inl ⟨h, s, hlock, rfl, rfl⟩
      · rw [if_neg hlock]
        refine .inr ⟨fun h' s' heq => ?_, rfl⟩
        cases heq
        exact hlock

/-- A job gives a lock back, and with the lock of a system handler the
session that it has borrowed. -/
theorem Balanced.unlocked (H : Balanced g hands owner) (hx : g.tenants[o.tenant]? = some x)
    {lock : Lock} (poison : Bool) (hlock : lock ∈ (hands o).locks)
    (hsession : ∀ h s, lock = .systemSession h → (hands o).borrowed = some (h, s) →
      s ∈ (hands o).sessions) :
    ∃ owner', Stays g owner owner' ∧
      Balanced (g.update o.tenant fun x => { x with locked := x.locked.erase lock })
        (Function.update hands o ((hands o).after (.release lock poison) ())) owner' := by
  have hbacks := H.backs _ x hx
  have htenants := tenants_update (f := fun x => { x with locked := x.locked.erase lock }) hx
  let G : Grip := (hands o).after (.release lock poison) ()
  have hview (v : Option Nat) (hv : G.view = some v) :
      lock ≠ .slot .system ∧ (hands o).view = some v := by
    change (if lock = .slot .system then none else (hands o).view) = some v at hv
    split at hv
    · cases hv
    · exact ⟨‹_›, hv⟩
  have hsame : G.handlers = ((hands o).returning lock).handlers
    ∧ G.borrowed = ((hands o).returning lock).borrowed
    ∧ G.sessions = ((hands o).returning lock).sessions := ⟨rfl, rfl, rfl⟩
  obtain ⟨hhandlers, hborrowed, hsessions⟩ := hsame
  rcases returning_cases (G := hands o) lock with
    ⟨h, s, rfl, hlent, hreturns⟩ | ⟨hkeeps, hreturns⟩
  · -- the session goes back to its handler
    rw [hreturns] at hhandlers hborrowed hsessions
    have hs : s ∈ (hands o).sessions := hsession h s rfl hlent
    have howner := (H.hand o s).1 hs
    refine ⟨Function.update owner s (some (.handler o.tenant h)), stays_update howner (.inr rfl),
      H.pass hx htenants H.orderly ?_ (H.tidy _ x hx) (within_handler h) (howner ▸ within_hand)
        (connected_iff_same (H.connected_of_hand hs)) (hsessions ▸ mem_without_iff nofun)
        (H.retains_returned hx hlock hlent howner hborrowed rfl)⟩
    refine hbacks.unlocked rfl hhandlers hview (fun k s heq => ?_) hlock
    rw [hborrowed] at heq
    cases heq
  · rw [hreturns] at hhandlers hborrowed hsessions
    refine ⟨owner, Stays.refl, H.keep hx htenants rfl ?_ (H.tidy _ x hx) hsessions ?_⟩
    · refine hbacks.unlocked rfl hhandlers hview (fun k s heq => ?_) hlock
      rw [hborrowed] at heq
      exact ⟨hkeeps k s heq, heq⟩
    · exact fun k s => retains_congr rfl fun o' _ => grip_update Grip.borrowed hborrowed o'

/-- A job releases a lock, for good if it leaves what the lock guards in an
unknown state. -/
theorem Balanced.released (H : Balanced g hands owner) (hx : g.tenants[o.tenant]? = some x)
    {lock : Lock} {poison : Bool} (hpermits : (hands o).Permits (.release lock poison)) :
    ∃ owner', Stays g owner owner' ∧
      Balanced (g.update o.tenant fun x =>
          let x := { x with locked := x.locked.erase lock }
          if poison then x.poison lock else x)
        (Function.update hands o ((hands o).after (.release lock poison) ())) owner' := by
  obtain ⟨hlock, hview, hsession⟩ := hpermits
  have hbacks := H.backs _ x hx
  obtain ⟨owner', hmoves, H'⟩ := H.unlocked hx poison hlock hsession
  refine ⟨owner', hmoves, ?_⟩
  match poison with
  | false => exact H'
  | true =>
      have hx' : (g.update o.tenant fun x =>
          { x with locked := x.locked.erase lock }).tenants[o.tenant]?
            = some { x with locked := x.locked.erase lock } := by
        rw [tenants_update hx, if_pos rfl]
      have hfree (o' : Post) (ho' : o'.tenant = o.tenant) :
          lock ∉ (Function.update hands o
            ((hands o).after (.release lock true) ()) o').locks := by
        by_cases hne : o' = o
        · rw [hne, Function.update_self]
          exact fun hmem => (of_decide_eq_true (List.mem_filter.1 hmem).2) rfl
        · rw [Function.update_of_ne hne]
          exact fun hmem => hne (hbacks.exclusive o' o ho' rfl _ hmem hlock)
      have Hpoisoned := H'.poisoned hx' hfree fun hslot =>
        ((hbacks.fits o rfl).viewed none (hview hslot rfl)).2
      rw [update_update] at Hpoisoned
      exact Hpoisoned

end

end CheckGateway.Gateway
