/-
The caches that a tenant keeps, and how they are read.

A tenant keeps caches of two kinds, in two lists. `Shelf` is such a list with
what there is to know about it, so that what holds of both is said once: how a
cache is made, and how it is read.

A cache is read under its lock, and what is done under that lock is light. So a
read comes to what its outlook says, unless the cache has something fresh to show,
and the cache is poisoned afterwards exactly if the worker has died
(`Shelf.yields_read`).
-/
import CheckGateway.Proofs.Cache.History
import CheckGateway.Proofs.Gateway.Handlers

namespace CheckGateway.Gateway

open Job Handler

-- ================================================================= shelves

/-- The caches of a kind in a tenant. -/
structure Shelf (α : Type) where
  kind : HandlerKind
  lock : Nat → Lock
  name : String
  caches : Tenant → List (Cache α)
  store : List (Cache α) → Tenant → Tenant
  load : Nat → Job (Cache α)
  save : Nat → Cache α → Job Unit
  kind_ne : kind ≠ .system
  guard : ∀ h, kind.guard? h = some (lock h)
  keeps : ∀ x h, x.Keeps kind h ↔ ∃ c, (caches x)[h]? = some c ∧ c.name = name
  isPoisoned : ∀ x h,
    x.isPoisoned (lock h) = (((caches x)[h]?).map Cache.poisoned).getD false
  poison : ∀ x h, x.poison (lock h)
    = store ((caches x).modify h fun c => { c with poisoned := true }) x
  stale : ∀ {x now}, x.Stale now → ∀ c ∈ caches x, c.heldAt? now = none
  caches_eq : ∀ {x y}, x.SameStock y → caches y = caches x
  caches_lock : ∀ x l, caches (x.lock l) = caches x
  caches_store : ∀ cs x, caches (store cs x) = cs
  store_store : ∀ cs cs' x, store cs (store cs' x) = store cs x
  store_lock : ∀ cs x l, store cs (x.lock l) = (store cs x).lock l
  slots_store : ∀ cs x, (store cs x).slots = x.slots
  locked_store : ∀ cs x, (store cs x).locked = x.locked
  sameStock_store : ∀ cs {x y}, x.SameStock y → (store cs x).SameStock (store cs y)
  stale_store : ∀ {cs x now}, x.Stale now → (∀ c ∈ cs, c.heldAt? now = none) →
    (store cs x).Stale now
  /-- It is nothing to the other kinds. -/
  keeps_store : ∀ cs x, ∀ other ≠ kind, ∀ k, (store cs x).Keeps other k ↔ x.Keeps other k
  isPoisoned_store : ∀ cs x l, (∀ h, l ≠ lock h) → (store cs x).isPoisoned l = x.isPoisoned l
  yields_load : ∀ o {x h c}, (caches x)[h]? = some c →
    Yields o x (load h).run fun r o' y => r = .ok c ∧ o' = o ∧ y = x
  yields_save : ∀ o x h c,
    Yields o x (save h c).run fun r o' y =>
      r = .ok () ∧ o' = o ∧ y = store ((caches x).set h c) x

/-- The caches of active jobs. -/
def jobShelf : Shelf ActiveJob where
  kind := .jobs
  lock h := .jobCache h
  name := RemoteQuery.activeJobs.name
  caches x := x.jobCaches
  store cs x := { x with jobCaches := cs }
  load h := askM (.jobCache h)
  save h c := askM (.saveJobCache h c)
  kind_ne := nofun
  guard _ := rfl
  keeps _ _ := Iff.rfl
  isPoisoned _ _ := rfl
  poison _ _ := rfl
  stale hstale := hstale.jobs
  caches_eq hsame := hsame.jobCaches
  caches_lock _ _ := rfl
  caches_store _ _ := rfl
  store_store _ _ _ := rfl
  store_lock _ _ _ := rfl
  slots_store _ _ := rfl
  locked_store _ _ := rfl
  sameStock_store _ _ _ hsame := { hsame with jobCaches := rfl }
  stale_store hstale hcs := ⟨hcs, hstale.disks⟩
  keeps_store cs x other hother k := by
    cases other with
    | jobs => exact absurd rfl hother
    | _ => exact Iff.rfl
  isPoisoned_store cs x l hl := by
    cases l with
    | jobCache h => exact absurd rfl (hl h)
    | _ => rfl
  yields_load o x h c hc := by
    refine yields_look (a := c) (fun g t _ => ?_) (yields_done ⟨rfl, rfl, rfl⟩)
    unfold perform
    dsimp only
    rw [List.getD_eq_getElem?_getD, hc]
    rfl
  yields_save o x h c := yields_change fun g t => ⟨(), _, rfl, yields_done ⟨rfl, rfl, rfl⟩⟩

/-- The caches of disk units. -/
def diskShelf : Shelf DiskUnit where
  kind := .disks
  lock h := .diskCache h
  name := RemoteQuery.diskUnits.name
  caches x := x.diskCaches
  store cs x := { x with diskCaches := cs }
  load h := askM (.diskCache h)
  save h c := askM (.saveDiskCache h c)
  kind_ne := nofun
  guard _ := rfl
  keeps _ _ := Iff.rfl
  isPoisoned _ _ := rfl
  poison _ _ := rfl
  stale hstale := hstale.disks
  caches_eq hsame := hsame.diskCaches
  caches_lock _ _ := rfl
  caches_store _ _ := rfl
  store_store _ _ _ := rfl
  store_lock _ _ _ := rfl
  slots_store _ _ := rfl
  locked_store _ _ := rfl
  sameStock_store _ _ _ hsame := { hsame with diskCaches := rfl }
  stale_store hstale hcs := ⟨hstale.jobs, hcs⟩
  keeps_store cs x other hother k := by
    cases other with
    | disks => exact absurd rfl hother
    | _ => exact Iff.rfl
  isPoisoned_store cs x l hl := by
    cases l with
    | diskCache h => exact absurd rfl (hl h)
    | _ => rfl
  yields_load o x h c hc := by
    refine yields_look (a := c) (fun g t _ => ?_) (yields_done ⟨rfl, rfl, rfl⟩)
    unfold perform
    dsimp only
    rw [List.getD_eq_getElem?_getD, hc]
    rfl
  yields_save o x h c := yields_change fun g t => ⟨(), _, rfl, yields_done ⟨rfl, rfl, rfl⟩⟩

-- ============================================================ one cache of it

namespace Shelf

section

variable {α : Type} {s : Shelf α} {x y : Tenant} {h : Nat} {c c' : Cache α} {l : Lock}

/-- The tenant with another cache in the place of one. -/
def put (s : Shelf α) (h : Nat) (c : Cache α) (x : Tenant) : Tenant :=
  s.store ((s.caches x).set h c) x

theorem caches_put (s : Shelf α) (h : Nat) (c : Cache α) (x : Tenant) :
    s.caches (s.put h c x) = (s.caches x).set h c := s.caches_store ..

theorem put_put (s : Shelf α) (h : Nat) (c c' : Cache α) (x : Tenant) :
    s.put h c (s.put h c' x) = s.put h c x := by
  unfold put
  rw [s.caches_store, s.store_store, List.set_set]

theorem put_lock (s : Shelf α) (h : Nat) (c : Cache α) (x : Tenant) (l : Lock) :
    s.put h c (x.lock l) = (s.put h c x).lock l := by
  unfold put
  rw [s.caches_lock, s.store_lock]

theorem poison_put (s : Shelf α) (h : Nat) (c : Cache α) (x : Tenant) :
    (s.put h c x).poison (s.lock h) = s.put h { c with poisoned := true } x := by
  have hmodify : ((s.caches x).set h c).modify h (fun c => { c with poisoned := true })
      = (s.caches x).set h { c with poisoned := true } := by
    apply List.ext_getElem?
    intro k
    by_cases hk : h = k
    · subst hk
      by_cases hh : h < (s.caches x).length <;> simp [hh]
    · simp [hk]
  rw [s.poison, caches_put, hmodify]
  exact s.store_store ..

theorem isPoisoned_put (hc : (s.caches x)[h]? = some c') :
    (s.put h c x).isPoisoned (s.lock h) = c.poisoned := by
  rw [s.isPoisoned, caches_put, List.getElem?_set_self (List.getElem?_eq_some_iff.1 hc).1]
  rfl

theorem isPoisoned_put_of_ne (hl : l ≠ s.lock h) :
    (s.put h c x).isPoisoned l = x.isPoisoned l := by
  by_cases hshelf : ∃ k, l = s.lock k
  · obtain ⟨k, rfl⟩ := hshelf
    have hk : h ≠ k := fun heq => hl (heq ▸ rfl)
    rw [s.isPoisoned, s.isPoisoned, caches_put, List.getElem?_set_ne hk]
  · exact s.isPoisoned_store _ x l fun k heq => hshelf ⟨k, heq⟩

theorem stocked_put (hc : (s.caches x)[h]? = some c') (hname : c.name = s.name)
    (hstocked : x.Stocked) : (s.put h c x).Stocked := by
  have hslots : (s.put h c x).slots = x.slots := s.slots_store ..
  refine ⟨?_, fun kind k hk => ?_⟩
  · rw [hslots]
    exact hstocked.sound
  · rw [hslots] at hk
    have hkept := hstocked.kept kind k hk
    by_cases hkind : kind = s.kind
    · subst hkind
      obtain ⟨d, hd, hdname⟩ := (s.keeps x k).1 hkept
      rw [s.keeps, caches_put]
      by_cases heq : h = k
      · subst heq
        exact ⟨c, List.getElem?_set_self (List.getElem?_eq_some_iff.1 hc).1, hname⟩
      · exact ⟨d, (List.getElem?_set_ne heq).trans hd, hdname⟩
    · exact (s.keeps_store _ x kind hkind k).2 hkept

theorem sameStock_put (s : Shelf α) (h : Nat) (c : Cache α) (hsame : x.SameStock y) :
    (s.put h c x).SameStock (s.put h c y) := by
  unfold put
  rw [s.caches_eq hsame]
  exact s.sameStock_store _ hsame

theorem yields_put (s : Shelf α) (o : Outlook) (h : Nat) (c : Cache α) (x : Tenant) :
    Yields o x (s.save h c).run fun r o' y => r = .ok () ∧ o' = o ∧ y = s.put h c x :=
  s.yields_save o x h c

/-- A new cache is put at the end. -/
theorem filled (hname : c.name = s.name) (hheld : c.held = .nothing) (hsound : c.poisoned = false) :
    Filled s.kind (s.caches x).length x
      (s.store (s.caches x ++ [c]) (x.fill s.kind (s.caches x).length)) where
  slots := s.slots_store ..
  locked := s.locked_store ..
  keeps := by
    rw [s.keeps, s.caches_store]
    exact ⟨c, by simp, hname⟩
  sound l hl := by
    rw [s.guard] at hl
    cases hl
    rw [s.isPoisoned, s.caches_store]
    simp [hsound]
  others other hother k hkept := by
    rw [s.keeps_store _ _ other hother]
    cases other <;> exact hkept
  locks other hother k l hl := by
    rw [s.isPoisoned_store _ _ l fun h => guard_ne hother (s.guard h) hl]
    cases other <;> cases hl <;> rfl
  stale now hstale := by
    refine s.stale_store ⟨hstale.jobs, hstale.disks⟩ fun d hd => ?_
    rcases List.mem_append.1 hd with hold | hnew
    · exact s.stale hstale d hold
    · rw [List.mem_singleton.1 hnew]
      unfold Cache.heldAt?
      rw [hheld]

end

end Shelf

/-- A handler, whether it was there or is made. -/
theorem yields_obtain {o : Outlook} {x : Tenant} {kind : HandlerKind} (hkind : kind ≠ .system)
    (hlocked : x.locked = []) (hstocked : x.Stocked) :
    Yields o x (obtain kind).run fun r o' y =>
      o' = o ∧ ∃ h, r = .ok h ∧ Provided kind h x y := by
  have hsound := hstocked.sound kind hkind
  refine yields_withLock (by rw [hlocked]; exact List.not_mem_nil) (fun hpoisoned => ?_) fun _ => ?_
  · rw [show x.isPoisoned (.slot kind) = false from hsound] at hpoisoned
    cases hpoisoned
  refine yields_look (a := (x.slots.get kind).handler) (fun g t _ => rfl) ?_
  cases hhandler : (x.slots.get kind).handler with
  | some h => exact yields_done ⟨rfl, h, rfl, provided_present hsound hhandler (.refl _)⟩
  | none =>
      cases kind with
      | system => exact absurd rfl hkind
      | jobs =>
          refine yields_change fun g t => ⟨_, _, rfl, yields_done ⟨rfl, _, rfl, ?_⟩⟩
          exact (jobShelf.filled rfl rfl rfl).provided (f := fun z =>
            { z.fill .jobs x.jobCaches.length with
              jobCaches := z.jobCaches ++
                [⟨RemoteQuery.activeJobs.name, g.config.cacheTtl, .nothing, {}, false⟩] })
            (fun _ => rfl) hsound hhandler (.refl _)
      | disks =>
          refine yields_change fun g t => ⟨_, _, rfl, yields_done ⟨rfl, _, rfl, ?_⟩⟩
          exact (diskShelf.filled rfl rfl rfl).provided (f := fun z =>
            { z.fill .disks x.diskCaches.length with
              diskCaches := z.diskCaches ++
                [⟨RemoteQuery.diskUnits.name, g.config.cacheTtl, .nothing, {}, false⟩] })
            (fun _ => rfl) hsound hhandler (.refl _)
      | subsystems =>
          refine yields_change fun g t => ⟨(0 : Nat), _, rfl, yields_done ⟨rfl, _, rfl, ?_⟩⟩
          exact (filled_plain fun _ => rfl).provided (f := fun z => z.fill .subsystems 0)
            (fun _ => rfl) hsound hhandler (.refl _)
      | commands =>
          refine yields_change fun g t => ⟨(0 : Nat), _, rfl, yields_done ⟨rfl, _, rfl, ?_⟩⟩
          exact (filled_plain fun _ => rfl).provided (f := fun z => z.fill .commands 0)
            (fun _ => rfl) hsound hhandler (.refl _)

-- ================================================================= reading

section

variable {α : Type} {s : Shelf α} {fetch : Job (List α)} {K : Set WatermarkKey} {L : List Lock}
  {o : Outlook} {x : Tenant} {c : Cache α} {h : Nat} {force : Bool}

/-- What a fetch brings, as a cache with a name gives it to its readers. -/
def brought (name : String) (fetch : Job (List α)) (o : Outlook) : Except Fault (Read α) :=
  Cache.Fetch.brought name ⟨(o.run fetch.run).1, o.clock⟩

theorem run_ofOutcome (r : Outcome α) : (ofOutcome r).run = .done (r.mapError .failed) := by
  cases r <;> rfl

/-- What a read has made of its cache when it gives the lock back. -/
structure Shelf.Left (s : Shelf α) (h : Nat) (fetch : Job (List α)) (o : Outlook) (x : Tenant)
    (c : Cache α) (force : Bool) (r : Except Fault (Read α)) (o' : Outlook) (y : Tenant) :
    Prop where
  outlook : Outlook.Agree RemoteQuery.kept o o'
  stock : ∃ c', c'.name = c.name ∧ c'.poisoned = isDeath r
    ∧ (s.put h c' x).SameStock (y.unlock (s.lock h) (isDeath r))
  value : force = true ∨ c.heldAt? o.clock = none → r = brought c.name fetch o

/-- What is settled with a fetch that came back is what it brought. -/
theorem settle_brought {b : Outcome (List α)} (hb : (o.run fetch.run).1 = b.mapError .failed) :
    (c.settle b o.clock).1.mapError .failed = brought c.name fetch o := by
  unfold brought
  rw [hb]
  cases b <;> rfl

theorem poisoned_settle (b : Outcome (List α)) (now : Timestamp) :
    (c.settle b now).2.poisoned = c.poisoned := by
  cases b <;> rfl

theorem name_settle (b : Outcome (List α)) (now : Timestamp) :
    (c.settle b now).2.name = c.name := by
  cases b <;> rfl

theorem isDeath_mapError {β : Type} (r : Outcome β) :
    isDeath (r.mapError Fault.failed) = false := by
  cases r <;> rfl

/-- The fetch has come back, and the cache has been settled with it. -/
theorem Shelf.left_settled {b : Outcome (List α)} {o' : Outlook} {y : Tenant}
    (hagree : Outlook.Agree RemoteQuery.kept o o')
    (hb : (o.run fetch.run).1 = b.mapError .failed) (hsound : c.poisoned = false)
    (hstock : (s.put h c.countMiss (x.lock (s.lock h))).SameStock y) :
    s.Left h fetch o x c force ((c.countMiss.settle b o.clock).1.mapError .failed) o'
      (s.put h (c.countMiss.settle b o.clock).2 y) := by
  refine ⟨hagree, ⟨(c.countMiss.settle b o.clock).2, name_settle b _, ?_, ?_⟩, fun _ => ?_⟩
  · rw [isDeath_mapError, poisoned_settle]
    exact hsound
  · rw [isDeath_mapError]
    have hput := (s.sameStock_put h (c.countMiss.settle b o.clock).2 hstock).unlock (s.lock h) false
    rwa [s.put_put, s.put_lock, Tenant.unlock_lock] at hput
  · exact settle_brought hb

/-- The worker has died over the fetch. -/
theorem Shelf.left_died {o' : Outlook} {y : Tenant}
    (hagree : Outlook.Agree RemoteQuery.kept o o')
    (hdied : (o.run fetch.run).1 = .error .panicked)
    (hstock : (s.put h c.countMiss (x.lock (s.lock h))).SameStock y) :
    s.Left h fetch o x c force (.error .panicked) o' y := by
  refine ⟨hagree, ⟨{ c.countMiss with poisoned := true }, rfl, rfl, ?_⟩, fun _ => ?_⟩
  · have hput := hstock.unlock (s.lock h) true
    rwa [s.put_lock, Tenant.poison_lock, s.poison_put] at hput
  · unfold brought
    rw [hdied]
    rfl

/-- A read that fetches. -/
theorem Shelf.yields_fetch (hsame : Same K L fetch.run fetch.run)
    (hlight : fetch.run.Makes (Call.Light (fun q => q.name ∈ RemoteQuery.kept) ∅))
    (hsound : c.poisoned = false) :
    Yields o (x.lock (s.lock h))
      (do
        s.save h c.countMiss
        let fetched ← attempt fetch
        let (r, cache) := c.countMiss.settle fetched (← now)
        s.save h cache
        ofOutcome r : Job (Read α)).run (s.Left h fetch o x c force) := by
  have hagree := Outlook.agree_run (o := o) hlight
  refine (s.yields_put o h c.countMiss (x.lock (s.lock h))).andThen (fun _ o₁ x₁ hsaved => ?_)
    fun _ _ _ hsaved => nomatch hsaved.1
  obtain ⟨-, rfl, rfl⟩ := hsaved
  refine (yields_light (same_attempt hsame) (makes_attempt hlight)).andThen ?_ ?_
  · intro b o₂ x₂ hattempt
    obtain ⟨hb, rfl, hstock⟩ := hattempt
    rw [Outlook.snd_run_attempt]
    refine yields_look (a := o₁.clock) (fun g t ho => ?_) ?_
    · rw [← Outlook.clock_run o₁ fetch.run, ← ho]
      rfl
    let settled := c.countMiss.settle b o₁.clock
    show Yields _ x₂ (s.save h settled.2 >>= fun _ => ofOutcome settled.1 : Job (Read α)).run _
    refine (s.yields_put _ h settled.2 x₂).andThen (fun _ o₃ x₃ hsaved => ?_)
      fun _ _ _ hsaved => nomatch hsaved.1
    obtain ⟨-, rfl, rfl⟩ := hsaved
    rw [run_ofOutcome]
    exact yields_done (s.left_settled hagree (Outlook.run_of_attempted hb.symm) hsound hstock)
  · intro e o₂ x₂ hattempt
    obtain ⟨he, rfl, hstock⟩ := hattempt
    obtain ⟨rfl, hdied⟩ := Outlook.panicked_of_attempted he.symm
    rw [Outlook.snd_run_attempt]
    exact s.left_died hagree hdied hstock

/-- A read that finds what it is after in the cache. -/
theorem Shelf.yields_hit {v : Outcome (Read α)} (hheld : c.heldAt? o.clock = some v)
    (hsound : c.poisoned = false) :
    Yields o (x.lock (s.lock h)) (do s.save h c.countHit; ofOutcome v : Job (Read α)).run
      (s.Left h fetch o x c false) := by
  refine (s.yields_put o h c.countHit (x.lock (s.lock h))).andThen (fun _ o₁ x₁ hsaved => ?_)
    fun _ _ _ hsaved => nomatch hsaved.1
  obtain ⟨-, rfl, rfl⟩ := hsaved
  rw [run_ofOutcome]
  refine yields_done ⟨.refl _, ⟨c.countHit, rfl, ?_, ?_⟩, ?_⟩
  · rw [isDeath_mapError]
    exact hsound
  · rw [isDeath_mapError, s.put_lock, Tenant.unlock_lock]
    exact .refl _
  · rw [hheld]
    simp

/-- A read whose cache nobody else holds. -/
theorem Shelf.yields_locked (hsame : Same K L fetch.run fetch.run)
    (hlight : fetch.run.Makes (Call.Light (fun q => q.name ∈ RemoteQuery.kept) ∅))
    (hc : (s.caches x)[h]? = some c) (hsound : c.poisoned = false) (force : Bool) :
    Yields o (x.lock (s.lock h))
      (do
        let cache ← s.load h
        let held ← if force then pure none else cache.heldAt? <$> now
        match held with
        | some r => do
            s.save h cache.countHit
            ofOutcome r
        | none => do
            s.save h cache.countMiss
            let fetched ← attempt fetch
            let (r, cache) := cache.countMiss.settle fetched (← now)
            s.save h cache
            ofOutcome r : Job (Read α)).run (s.Left h fetch o x c force) := by
  have hc₁ : (s.caches (x.lock (s.lock h)))[h]? = some c := by rw [s.caches_lock, hc]
  refine (s.yields_load o hc₁).andThen (fun c' o₁ x₁ hloaded => ?_)
    fun _ _ _ hloaded => nomatch hloaded.1
  obtain ⟨hc', rfl, rfl⟩ := hloaded
  cases hc'
  extract_lets goOn
  have hmiss : Yields o₁ (x.lock (s.lock h)) (goOn none).run (s.Left h fetch o₁ x c force) :=
    s.yields_fetch hsame hlight hsound
  cases force with
  | true => exact hmiss
  | false =>
      refine yields_look (a := o₁.clock) (fun g t ho => ho ▸ rfl) ?_
      show Yields o₁ (x.lock (s.lock h)) (goOn (c.heldAt? o₁.clock)).run _
      cases hheld : c.heldAt? o₁.clock with
      | none => exact hmiss
      | some r => exact s.yields_hit hheld hsound

/-- A cache is read under its lock. -/
theorem Shelf.yields_read (hsame : Same K L fetch.run fetch.run)
    (hlight : fetch.run.Makes (Call.Light (fun q => q.name ∈ RemoteQuery.kept) ∅))
    (hlocked : x.locked = []) (hstocked : x.Stocked)
    (hhandler : (x.slots.get s.kind).handler = some h) (force : Bool) :
    Yields o x (readCache (s.lock h) (s.load h) (s.save h) fetch force).run fun r o' y =>
      Handled s.kind o x (brought s.name fetch o) r o' y ∧ y.slots = x.slots := by
  have hguarded : Guarded x s.kind h (s.lock h) :=
    ⟨hstocked.sound _ s.kind_ne, hhandler, s.guard h⟩
  obtain ⟨c, hc, hname⟩ := (s.keeps x h).1 (hstocked.kept _ h hhandler)
  refine yields_withLock (by rw [hlocked]; exact List.not_mem_nil) (fun hpoisoned => ?_)
    fun hsound => ?_
  · exact ⟨hguarded.refused hstocked hpoisoned, rfl⟩
  · have hcsound : c.poisoned = false := by
      rw [s.isPoisoned, hc] at hsound
      exact hsound
    refine (s.yields_locked hsame hlight hc hcsound force).mono fun r o' y hleft => ?_
    -- what has been made of the cache is all there is to the rest
    obtain ⟨c', hname', hdeath, hstock⟩ := hleft.stock
    have hslots : (s.put h c' x).slots = x.slots := s.slots_store ..
    have hput : Handled s.kind o x (brought s.name fetch o) r o' (s.put h c' x) := by
      refine hguarded.handled hsound hleft.outlook hslots (s.locked_store ..)
        (s.stocked_put hc (hname'.trans hname) hstocked) ((s.isPoisoned_put hc).trans hdeath)
        (fun l hl => s.isPoisoned_put_of_ne hl) fun hstale _ => ?_
      rw [← hname]
      exact hleft.value (.inr (s.stale hstale c (List.mem_of_getElem? hc)))
    exact ⟨hput.sameStock hstock, hstock.slots.trans hslots⟩

end

section

variable {α : Type} {fetch : Job (List α)} {o : Outlook} {c : Cache α} {lock : Lock}
  {load : Job (Cache α)} {save : Cache α → Job Unit}

/-- A cache that holds nothing gives what is fetched. -/
theorem run_readCache (hload : o.run load.run = (.ok c, o))
    (hsave : ∀ c (o : Outlook), o.run (save c).run = (.ok (), o))
    (hheld : c.heldAt? o.clock = none) :
    (o.run (readCache lock load save fetch false).run).1 = brought c.name fetch o := by
  unfold readCache
  rw [Outlook.run_withLock, Outlook.run_andThen_ok hload]
  extract_lets goOn
  show (o.run (goOn (c.heldAt? o.clock)).run).1 = _
  rw [hheld]
  show (o.run (save c.countMiss >>= fun _ => attempt fetch >>= fun fetched =>
    now >>= fun time => save (c.countMiss.settle fetched time).2 >>= fun _ =>
      ofOutcome (c.countMiss.settle fetched time).1 : Job (Read α)).run).1 = _
  rw [Outlook.run_andThen_ok (hsave _ o), Outlook.run_andThen]
  cases hattempt : (o.run (attempt fetch).run).1 with
  | error e =>
      obtain ⟨rfl, hfetched⟩ := Outlook.panicked_of_attempted hattempt
      unfold brought
      rw [hfetched]
      rfl
  | ok b =>
      have hsettled := settle_brought (c := c.countMiss) (Outlook.run_of_attempted hattempt)
      refine Eq.trans ?_ hsettled
      dsimp only
      rw [Outlook.snd_run_attempt]
      show ((o.run fetch.run).2.run (save _ >>= fun _ => ofOutcome _ : Job (Read α)).run).1 = _
      rw [Outlook.run_andThen_ok (hsave _ _), run_ofOutcome, Outlook.clock_run]
      rfl

end

end Gateway

end CheckGateway
