/-
How often the remote system is asked for jobs and disk units.

Requests for one check come one after the other and are served by one handler.
Between two of them, and between the calls of each, anything may happen that
leaves that handler and its cache alone. The cache is made for the first
request; from then on each request reads it, and the disk units a second time
if it must.

For jobs no read insists. So no session is opened before all that has been
noted is over for the time to live of the cache, and a span of clock time sees
few of them. For disk units a read may insist, though only on a snapshot. So a
session may be opened soon after another one, but not soon after a failure.
-/
import CheckGateway.Gateway.Registry
import CheckGateway.Proofs.Gateway.Deaths
import CheckGateway.Proofs.Gateway.Listing

namespace CheckGateway.Gateway

open Timestamp (Shown onScale)
open Job Handler

-- ============================================================== a handler

/-- There is a handler, its cache is sound, and what is said holds of the
cache and of what has been noted. -/
structure Shelf.Keeping {α : Type} (s : Shelf α) (leaps : Finset Int) (t : Nat)
    (I : Log α → Prop) (h : Nat) (a : Scene) : Prop where
  shown : Shown leaps a.gateway.clock
  cache : ∃ caches c, s.Shows t (some h) caches a.gateway ∧ caches[h]? = some c
    ∧ c.poisoned = false ∧ c.ttl = a.gateway.config.cacheTtl ∧ I ⟨c, a.notes, a.gateway.clock⟩

/-- No request is at work: there is no handler yet, or there is one. -/
def Shelf.Between {α : Type} (s : Shelf α) (leaps : Finset Int) (t : Nat) (I : Log α → Prop)
    (a : Scene) : Prop :=
  (Shown leaps a.gateway.clock ∧ a.notes = [] ∧ ∃ caches, s.Shows t none caches a.gateway)
    ∨ ∃ h, s.Keeping leaps t I h a

/-- What holds of a new cache, and goes on to hold while the clock goes on and
the cache is read. -/
structure Lasting {α : Type} (leaps : Finset Int) (I : Log α → Prop) : Prop where
  new : ∀ name ttl now, I ⟨⟨name, ttl, .nothing, {}, false⟩, [], now⟩
  later : ∀ {c notes now now'}, I ⟨c, notes, now⟩ → now ≤ now' → I ⟨c, notes, now'⟩
  read : ∀ {r l l'}, Consulted leaps false r l l' → I l → I l'
  current : ∀ {l}, I l → l.Current leaps

/-- How a request, or a part of it, ends: no request is at work any more, and
where it ends in a failure to refresh a cache, that is what was noted last. -/
structure Shelf.Answered {α β : Type} (s : Shelf α) (leaps : Finset Int) (t : Nat)
    (I : Log α → Prop) (r : Except Fault β) (b : Scene) : Prop where
  between : s.Between leaps t I b
  told : ∀ name e, r = .error (.failed (.refreshFailed name e)) →
    ∃ since notes, b.notes = .failed (.refreshFailed name e) since :: notes
      ∧ ∀ n ∈ notes, onScale leaps n.time ≤ onScale leaps since

section

variable {α : Type} {s : Shelf α} {leaps : Finset Int} {t h : Nat} {a b : Scene}
  {I J : Log α → Prop}

theorem Shelf.Keeping.imp (hkeeping : s.Keeping leaps t I h a) (himp : ∀ l, I l → J l) :
    s.Keeping leaps t J h a := by
  obtain ⟨caches, c, hshows, hc, hsound, httl, hI⟩ := hkeeping.cache
  exact ⟨hkeeping.shown, caches, c, hshows, hc, hsound, httl, himp _ hI⟩

theorem Shelf.Keeping.later (hI : Lasting leaps I) (hkeeping : s.Keeping leaps t I h a)
    (hmeanwhile : s.Meanwhile leaps t a.gateway b.gateway) (hsame : b.notes = a.notes) :
    s.Keeping leaps t I h b := by
  obtain ⟨caches, c, hshows, hc, hsound, httl, hholds⟩ := hkeeping.cache
  refine ⟨hmeanwhile.shown, caches, c, hmeanwhile.shows _ _ hshows, hc, hsound, ?_, ?_⟩
  · rw [hmeanwhile.config]
    exact httl
  · rw [hsame]
    exact hI.later hholds hmeanwhile.clock

theorem Shelf.Between.later (hI : Lasting leaps I) (hbetween : s.Between leaps t I a)
    (hmeanwhile : s.Meanwhile leaps t a.gateway b.gateway) (hsame : b.notes = a.notes) :
    s.Between leaps t I b := by
  obtain ⟨-, hnotes, caches, hshows⟩ | ⟨h, hkeeping⟩ := hbetween
  · exact .inl ⟨hmeanwhile.shown, hsame.trans hnotes, caches, hmeanwhile.shows _ _ hshows⟩
  · exact .inr ⟨h, hkeeping.later hI hmeanwhile hsame⟩

theorem Shelf.Between.shown (hbetween : s.Between leaps t I a) : Shown leaps a.gateway.clock := by
  obtain ⟨hshown, -⟩ | ⟨h, hkeeping⟩ := hbetween
  · exact hshown
  · exact hkeeping.shown

/-- A handler is found or made, or its slot is refused. -/
theorem ensures_obtain (hs : s.Tended) (hI : Lasting leaps I) (hbetween : s.Between leaps t I a) :
    s.Ensures leaps t a (obtain s.kind).run fun r b => isDeath r = false →
      (∃ name, r = .error (.failed (.lockPoisoned name)) ∧ s.Between leaps t I b)
        ∨ ∃ h, r = .ok h ∧ s.Keeping leaps t I h b := by
  apply hs.ensures_withLock
  · intro b hrefused
    have hquiet := hrefused.quiet (c := .acquire (.slot s.kind)) hs.caches_locked trivial
    exact .inl ⟨_, rfl, hbetween.later hI hquiet hrefused.notes⟩
  · intro b htaken
    have hquiet := htaken.quiet (c := .acquire (.slot s.kind)) hs.caches_locked trivial
    have hstill := hbetween.later hI hquiet htaken.notes
    apply ensures_call
    intro found b₁ hlook
    have hlooked := hlook.quiet (c := .handler s.kind) hs.caches_locked trivial
    obtain ⟨hshown, hnotes, caches, hshows⟩ | ⟨h, hkeeping⟩ := hstill
    · -- there is none
      obtain rfl := hlook.found hshows
      apply ensures_call
      intro h b₂ hinstalled
      obtain ⟨rfl, hsame, hmade⟩ := hs.install hinstalled (hlooked.shows _ _ hshows)
      have hnone : b₂.notes = [] := hsame.trans (Eq.trans hlook.notes hnotes)
      have hkeeping : s.Keeping leaps t I caches.length b₂ := by
        refine ⟨hinstalled.passes.shown, _, _, hmade, List.getElem?_concat_length, rfl, rfl, ?_⟩
        rw [hnone]
        exact hI.new _ _ _
      refine ensures_done fun _ d hreleased hkept => .inr ⟨_, rfl, ?_⟩
      exact hkeeping.later hI hreleased hkept
    · -- it is there
      obtain ⟨caches, c, hshows, -⟩ := hkeeping.cache
      obtain rfl := hlook.found hshows
      have hnow := hkeeping.later hI hlooked hlook.notes
      refine ensures_done fun _ d hreleased hkept => .inr ⟨h, rfl, ?_⟩
      exact hnow.later hI hreleased hkept

/-- A failure that is told by a read is noted last, and nothing is later. -/
theorem Consulted.told_last {l l' : Log α} {force : Bool} {r : Except Fault (Read α)}
    {e : GatewayError} (hconsulted : Consulted leaps force r l l') (hcurrent : l.Current leaps)
    (hr : r = .error (.failed e)) :
    ∃ since notes, l'.notes = .failed e since :: notes
      ∧ ∀ n ∈ notes, onScale leaps n.time ≤ onScale leaps since := by
  obtain ⟨since, notes, hheld, hnotes⟩ := hconsulted.told hr
  obtain ⟨-, -, hlatest⟩ := (hconsulted.current hcurrent).latest since (by rw [hheld]; rfl)
  refine ⟨since, notes, hnotes, fun n hn => hlatest n ?_⟩
  rw [hnotes]
  exact List.mem_cons_of_mem _ hn

/-- The cache of a handler is read. A read that insists must not take away what
holds; what is answered with what was there leaves a snapshot there. -/
theorem ensures_read (hs : s.Tended) {fetch : Job (List α)} (hfetch : OpensOne s leaps t fetch)
    (hkeeping : s.Keeping leaps t I h a) (force : Bool)
    (hread : ∀ {r l l'}, Consulted leaps force r l l' → I l → J l')
    (hcurrent : ∀ {l}, I l → l.Current leaps) :
    s.Ensures leaps t a (readCache (s.lock h) (s.load h) (s.save h) fetch force).run fun r b =>
      isDeath r = false → s.Answered leaps t J r b
        ∧ ∀ v, r = .ok v → s.Keeping leaps t
          (fun l => J l ∧ (v.hit = true → ∃ items since, l.cache.held = .snapshot items since))
          h b := by
  obtain ⟨caches, c, hshows, hc, hsound, httl, hI⟩ := hkeeping.cache
  apply (ensures_readCache hs hfetch hkeeping.shown hshows hc hsound force).mono
  intro r b hleft hlives
  obtain ⟨c', hshows', hconfig, hconsulted⟩ := hleft hlives
  obtain ⟨hsameTtl, hstill⟩ := hconsulted.keeps
  have hthere : (caches.set h c')[h]? = some c' :=
    List.getElem?_set_self (List.getElem?_eq_some_iff.1 hc).1
  have httl' : c'.ttl = .ofMillis b.gateway.config.cacheTtl := by
    rw [hconfig]
    exact hsameTtl.trans httl
  have hkept : ∀ K : Log α → Prop, K ⟨c', b.notes, b.gateway.clock⟩ → s.Keeping leaps t K h b :=
    fun K hK => ⟨hconsulted.shown, _, c', hshows', hthere, hstill.trans hsound, httl', hK⟩
  refine ⟨⟨.inr ⟨h, hkept J (hread hconsulted hI)⟩, fun name e hr => ?_⟩, fun v hv => ?_⟩
  · exact hconsulted.told_last (hcurrent hI) hr
  · exact hkept _ ⟨hread hconsulted hI, fun hhit => hconsulted.snapshot hv hhit⟩

end

-- ================================================================ requests

section

variable {α β γ : Type} {s : Shelf α} {leaps : Finset Int} {t h : Nat} {a b : Scene}
  {I J : Log α → Prop}

/-- What does not end in a failure to refresh tells none. -/
theorem Shelf.Between.answered {r : Except Fault β} (hbetween : s.Between leaps t I b)
    (hr : ∀ name e, r ≠ .error (.failed (.refreshFailed name e))) : s.Answered leaps t I r b :=
  ⟨hbetween, fun name e hfailed => absurd hfailed (hr name e)⟩

/-- A fault goes on to the one who asked. -/
theorem Shelf.Answered.fault {e : Fault}
    (h : isDeath (.error e : Except Fault γ) = false →
      s.Answered leaps t I (.error e : Except Fault γ) b)
    (hlives : isDeath (.error e : Except Fault β) = false) :
    s.Answered leaps t I (.error e : Except Fault β) b := by
  cases e with
  | panicked => cases hlives
  | failed e =>
      obtain ⟨hbetween, htold⟩ := h rfl
      exact ⟨hbetween, fun name cause hfailed => by cases hfailed; exact htold name cause rfl⟩

/-- However its calls are answered, a job ends so unless the worker dies over
it. -/
def Shelf.Serves (s : Shelf α) (leaps : Finset Int) (t : Nat) (I : Log α → Prop) (a : Scene)
    (job : Job β) : Prop :=
  s.Ensures leaps t a job.run fun r b => isDeath r = false → s.Answered leaps t I r b

/-- A job that makes no more calls, and tells no failure to refresh. -/
theorem Shelf.Keeping.serves {r : Except Fault β} (hkeeping : s.Keeping leaps t I h a)
    (hr : ∀ name e, r ≠ .error (.failed (.refreshFailed name e))) :
    s.Serves leaps t I a (ExceptT.mk (.done r) : Job β) :=
  ensures_done fun _ => Shelf.Between.answered (.inr ⟨h, hkeeping⟩) hr

/-- A handler is found or made for what comes then. -/
theorem serves_obtain (hs : s.Tended) (hI : Lasting leaps I) (hbetween : s.Between leaps t I a)
    {rest : Nat → Job β}
    (hrest : ∀ h b, s.Keeping leaps t I h b → s.Serves leaps t I b (rest h)) :
    s.Serves leaps t I a (obtain s.kind >>= rest) := by
  refine (ensures_obtain hs hI hbetween).andThen (fun h b hobtained => ?_)
    fun e b hobtained hlives => ?_
  · obtain ⟨name, hrefused, -⟩ | ⟨h', hok, hkeeping⟩ := hobtained rfl
    · cases hrefused
    · cases hok
      exact hrest h b hkeeping
  · cases e with
    | panicked => cases hlives
    | failed e =>
        obtain ⟨name, hrefused, hstill⟩ | ⟨h', hok, -⟩ := hobtained rfl
        · cases hrefused
          exact hstill.answered fun _ _ => nofun
        · cases hok

/-- A cache is read for what comes then, with what was read. -/
theorem serves_read (hs : s.Tended) {fetch : Job (List α)} (hfetch : OpensOne s leaps t fetch)
    (hkeeping : s.Keeping leaps t I h a) {force : Bool} {rest : Read α → Job β}
    (hread : ∀ {r l l'}, Consulted leaps force r l l' → I l → J l')
    (hcurrent : ∀ {l}, I l → l.Current leaps)
    (hrest : ∀ v b, s.Keeping leaps t
        (fun l => J l ∧ (v.hit = true → ∃ items since, l.cache.held = .snapshot items since)) h b →
      s.Serves leaps t J b (rest v)) :
    s.Serves leaps t J a (readCache (s.lock h) (s.load h) (s.save h) fetch force >>= rest) := by
  refine (ensures_read hs hfetch hkeeping force hread hcurrent).andThen (fun v b hanswered => ?_)
    fun e b hanswered => ?_
  · exact hrest v b ((hanswered rfl).2 v rfl)
  · exact .fault fun hlives => (hanswered hlives).1

/-- What is made of a value ends as the value does. -/
theorem serves_map {job : Job β} (hjob : s.Serves leaps t I a job) (f : β → γ) :
    s.Serves leaps t I a (do return f (← job)) := by
  refine hjob.andThen (fun value b hanswered => ?_) fun e b hanswered => .fault hanswered
  exact ensures_done fun _ => (hanswered rfl).between.answered fun _ _ => nofun

end

section

variable {leaps : Finset Int} {t h : Nat} {a : Scene}

/-- The jobs are listed. -/
theorem serves_listJobs {I : Log ActiveJob → Prop} (hI : Lasting leaps I)
    (hbetween : jobShelf.Between leaps t I a) : jobShelf.Serves leaps t I a listJobs := by
  have hfetch : OpensOne jobShelf leaps t (fetchAll ActiveJob .activeJobs) :=
    tended_jobShelf.opensOne_fetchAll .activeJobs
  apply serves_obtain tended_jobShelf hI hbetween
  intro h b hkeeping
  apply serves_read tended_jobShelf hfetch hkeeping hI.read hI.current
  intro v d hkept
  exact (hkept.imp fun l hl => hl.1).serves fun _ _ => nofun

/-- One disk unit is picked, or there is none of that name. -/
theorem serves_diskNamed {I : Log DiskUnit → Prop} (hkeeping : diskShelf.Keeping leaps t I h a)
    (disks : List DiskUnit) (name : String) :
    diskShelf.Serves leaps t I a (diskNamed disks name) := by
  unfold diskNamed
  cases findDisk? disks name with
  | none => exact hkeeping.serves fun _ _ => nofun
  | some d => exact hkeeping.serves fun _ _ => nofun

/-- The disk units to be listed are read, or one of them. A read that insists comes
only after one that has left a snapshot there. -/
theorem serves_unitsOf {I : Log DiskUnit → Prop} (hI : Lasting leaps I)
    (hinsist : ∀ {r l l' items since}, l.cache.held = .snapshot items since →
      Consulted leaps true r l l' → I l → I l')
    (hbetween : diskShelf.Between leaps t I a) (name : Option String) :
    diskShelf.Serves leaps t I a (do unitsOf (← obtain .disks) name : Job (List DiskUnit)) := by
  have hfetch : OpensOne diskShelf leaps t (fetchAll DiskUnit .diskUnits) :=
    tended_diskShelf.opensOne_fetchAll .diskUnits
  apply serves_obtain tended_diskShelf hI hbetween
  intro h b hkeeping
  apply serves_read tended_diskShelf hfetch hkeeping hI.read hI.current
  intro v d hkept
  have hstill := hkept.imp fun l hl => hl.1
  cases name with
  | none => exact hstill.serves fun _ _ => nofun
  | some name =>
      dsimp only
      split
      next => exact serves_diskNamed hstill v.items name
      next hlacks =>
        have hhit : v.hit = true := by
          cases hv : v.hit with
          | true => rfl
          | false => simp [hv] at hlacks
        apply serves_read tended_diskShelf hfetch hkept
        · intro r l l' hconsulted hl
          obtain ⟨items, since, hheld⟩ := hl.2 hhit
          exact hinsist hheld hconsulted hl.1
        · exact fun hl => hI.current hl.1
        · intro v' d' hkept'
          exact serves_diskNamed (hkept'.imp fun l hl => hl.1) v'.items name

end

-- ==================================================================== runs

/-- Requests for one check come one after the other, and no worker dies while it
gathers for them. There is nothing more to ask when that is done, so it does not
matter what is reported. -/
inductive Serial {α : Type} (s : Shelf α) (leaps : Finset Int) (t : Nat) (check : Check) :
    Scene → Scene → Prop where
  | start (a : Scene) : Serial s leaps t check a a
  | idle {a b c : Scene} (h : Serial s leaps t check a b)
      (hmeanwhile : s.Meanwhile leaps t b.gateway c.gateway) (hsame : c.notes = b.notes) :
      Serial s leaps t check a c
  | request {a b c : Scene} (h : Serial s leaps t check a b) {ctx : JobContext} {r : Request}
      {found : Except Fault Findings} (hcheck : Check.ofCommand? r.command = some check)
      (hends : Routine.Ends (s.Watched leaps t) (gather ctx r).run b found c)
      (hlives : isDeath found = false) : Serial s leaps t check a c

section

variable {α : Type} {s : Shelf α} {leaps : Finset Int} {t : Nat} {check : Check} {a b : Scene}
  {I : Log α → Prop}

theorem passes_of_ends {β : Type} {r : JobRoutine β} {x : β}
    (h : Routine.Ends (s.Watched leaps t) r a x b) (hshown : Shown leaps a.gateway.clock) :
    Passes leaps a.gateway b.gateway := by
  induction h with
  | done x a => exact ⟨Timestamp.le_refl _, hshown, rfl⟩
  | call hwatched _ ih => exact hwatched.passes.trans (ih hwatched.passes.shown)

theorem Serial.passes (h : Serial s leaps t check a b) (hshown : Shown leaps a.gateway.clock) :
    Passes leaps a.gateway b.gateway := by
  induction h with
  | start => exact ⟨Timestamp.le_refl _, hshown, rfl⟩
  | idle _ hmeanwhile _ ih => exact ih.trans hmeanwhile.toPasses
  | request _ _ hends _ ih => exact ih.trans (passes_of_ends hends ih.shown)

/-- What every request keeps holds after any number of them. -/
theorem Serial.between (h : Serial s leaps t check a b) (hI : Lasting leaps I)
    (hrequest : ∀ {ctx : JobContext} {r : Request} {found : Except Fault Findings} {a b : Scene},
      Check.ofCommand? r.command = some check → s.Between leaps t I a →
      Routine.Ends (s.Watched leaps t) (gather ctx r).run a found b → isDeath found = false →
      s.Answered leaps t I found b)
    (hstart : s.Between leaps t I a) : s.Between leaps t I b := by
  induction h with
  | start => exact hstart
  | idle _ hmeanwhile hsame ih => exact ih.later hI hmeanwhile hsame
  | request _ hcheck hends hlives ih => exact (hrequest hcheck ih hends hlives).between

/-- What has been noted between two requests is that of the cache, or nothing. -/
theorem Shelf.Between.noted (hbetween : s.Between leaps t I b) :
    b.notes = [] ∨ ∃ l, I l ∧ l.notes = b.notes
      ∧ l.cache.ttl = .ofMillis b.gateway.config.cacheTtl := by
  obtain ⟨-, hnone, -⟩ | ⟨h, hkeeping⟩ := hbetween
  · exact .inl hnone
  · obtain ⟨caches, c, -, -, -, httl, hI⟩ := hkeeping.cache
    exact .inr ⟨_, hI, rfl, httl⟩

end

-- ------------------------------------------------------- a run computed

/-- What comes of a job if nothing else happens and no call has to wait. -/
def alone {β : Type} (t : Nat) : JobRoutine β → Scene → Option (β × Scene)
  | .done x, a => some (x, a)
  | .call c next, a =>
      match a.gateway.tenants[t]? with
      | none => none
      | some x =>
          match a.gateway.perform t x none c with
          | .answered answer g => alone t (next answer) ⟨g, noteOf a.gateway.clock c ++ a.notes⟩
          | .waits .. => none

theorem ends_of_alone {α β : Type} {s : Shelf α} {leaps : Finset Int} {t : Nat} {r : JobRoutine β}
    {a b : Scene} {x : β} (h : alone t r a = some (x, b)) (hshown : Shown leaps a.gateway.clock) :
    Routine.Ends (s.Watched leaps t) r a x b := by
  induction r generalizing a with
  | done y =>
      cases h
      exact .done x _
  | call c next ih =>
      unfold alone at h
      split at h
      next => cases h
      next y hy =>
        split at h
        next answer g hperform =>
          have hwatched : s.Watched leaps t a c answer ⟨g, noteOf a.gateway.clock c ++ a.notes⟩ :=
            ⟨a.gateway, y, none, .refl hshown, hy, hperform, rfl⟩
          exact .call hwatched (ih answer h hwatched.passes.shown)
        next => cases h

/-- The gateway with one tenant, which has not asked for anything yet. -/
def Scene.midnight : Scene :=
  let g : Gateway := { config := {}, clock := ⟨0, 0⟩ }
  ⟨(g.resolve ⟨"AS400", "ops", "secret"⟩).2, []⟩

/-- The clock has gone on, and the remote system follows another script. -/
def Scene.until (a : Scene) (clock : Timestamp) (script : Script) : Scene :=
  { a with
    gateway :=
      { a.gateway with
        clock := clock
        remote := { a.gateway.remote with script := script } } }

/-- A request of the tenant. -/
def requestFor (command : String) (args : Record) : Request :=
  ⟨⟨"AS400", "ops", "secret"⟩, command, args, ""⟩

/-- What a request finds that is carried out alone. -/
def Scene.findings? (a : Scene) (r : Request) : Option (Except Fault Findings × Scene) :=
  alone 0 (gather ⟨r.credentials, 50, .panics⟩ r).run a

/-- The request has been carried out. -/
def Scene.after (a : Scene) (r : Request) : Scene := ((a.findings? r).map Prod.snd).getD a

section

variable {α : Type} {s : Shelf α} {leaps : Finset Int} {check : Check} {a b : Scene}

theorem Serial.until {t : Nat} {clock : Timestamp} {script : Script}
    (h : Serial s leaps t check a b) (hle : b.gateway.clock ≤ clock) (hshown : Shown leaps clock) :
    Serial s leaps t check a (b.until clock script) :=
  h.idle ⟨⟨hle, hshown, rfl⟩, fun _ _ hshows => hshows.congr rfl⟩ rfl

/-- The time comes for another request, which is carried out alone. -/
theorem Serial.then {clock : Timestamp} {script : Script} {r : Request}
    (h : Serial s leaps 0 check a b) (hcheck : Check.ofCommand? r.command = some check)
    (hle : b.gateway.clock ≤ clock) (hshown : Shown leaps clock)
    (hlives : (((b.until clock script).findings? r).map fun e => isDeath e.1) = some false) :
    Serial s leaps 0 check a ((b.until clock script).after r) := by
  obtain ⟨⟨found, c⟩, hends, hlives⟩ := Option.map_eq_some_iff.1 hlives
  have hafter : (b.until clock script).after r = c := by
    unfold Scene.after
    rw [hends]
    rfl
  rw [hafter]
  unfold Scene.findings? at hends
  exact (h.until hle hshown).request hcheck (ends_of_alone hends hshown) hlives

end

-- ==================================================================== jobs

/-- No session is opened before all that has been noted is over for long
enough. -/
def Log.Rested {α : Type} (leaps : Finset Int) (l : Log α) : Prop :=
  l.Current leaps ∧ Spaced leaps l.cache.ttl (fun _ => True) l.notes

theorem lasting_rested {α : Type} {leaps : Finset Int} :
    Lasting leaps (Log.Rested leaps : Log α → Prop) where
  new name ttl now := ⟨Log.current_new name ttl now, List.Pairwise.nil⟩
  later h hle := ⟨h.1.later hle, h.2⟩
  read hconsulted h := by
    refine ⟨hconsulted.current h.1, ?_⟩
    rw [hconsulted.keeps.1]
    exact hconsulted.spaced h.1.due h.2
  current h := h.1

/-- The times at which sessions were opened, the latest first. -/
def openings (notes : List Note) : List Timestamp := notes.filterMap Note.opened?

theorem openings_spaced {leaps : Finset Int} {ttl : Span} {notes : List Note}
    (h : Spaced leaps ttl (fun _ => True) notes) :
    (openings notes).Pairwise fun later earlier =>
      onScale leaps earlier + ttl.nanos ≤ onScale leaps later := by
  refine List.pairwise_filterMap.2 (h.imp ?_)
  intro later earlier hspaced time htime time' htime'
  have hopened := hspaced time (Note.opened_of_opened? htime) trivial
  rwa [Note.opened_of_opened? htime'] at hopened

/-- A request for jobs keeps that sessions lie apart. -/
theorem answered_jobs {leaps : Finset Int} {t : Nat} {ctx : JobContext} {r : Request}
    {found : Except Fault Findings} {a b : Scene}
    (hcheck : Check.ofCommand? r.command = some .listJobs)
    (hbetween : jobShelf.Between leaps t (Log.Rested leaps) a)
    (hends : Routine.Ends (jobShelf.Watched leaps t) (gather ctx r).run a found b)
    (hlives : isDeath found = false) : jobShelf.Answered leaps t (Log.Rested leaps) found b := by
  have hgather : gather ctx r = do return .result (← recordsOnly listJobs) := by
    unfold gather carryOut
    rw [hcheck]
  rw [hgather] at hends
  have hjobs : jobShelf.Serves leaps t (Log.Rested leaps) a (recordsOnly listJobs) :=
    serves_map (serves_listJobs lasting_rested hbetween) fun records => Result.mk records none
  exact (serves_map hjobs Findings.result).ends hends hlives

/-- However many requests for jobs there are, a span of clock time sees few
sessions. -/
theorem openings_of_jobs {leaps : Finset Int} {t : Nat} {a b : Scene}
    {caches : List (Cache ActiveJob)}
    (hshows : jobShelf.Shows t none caches a.gateway) (hnew : a.notes = [])
    (hshown : Shown leaps a.gateway.clock) (httl : 0 < a.gateway.config.cacheTtl)
    (h : Serial jobShelf leaps t .listJobs a b) (x : Int) (L : Nat) :
    ((openings b.notes).filter fun o => x ≤ onScale leaps o ∧ onScale leaps o ≤ x + L).length
      ≤ 1 + L / (Span.ofMillis a.gateway.config.cacheTtl).nanos := by
  have hbetween : jobShelf.Between leaps t (Log.Rested leaps) b :=
    h.between lasting_rested answered_jobs (.inl ⟨hshown, hnew, caches, hshows⟩)
  obtain hnone | ⟨l, hrested, hnotes, hspan⟩ := hbetween.noted
  · rw [hnone]
    exact Nat.zero_le _
  · rw [← (h.passes hshown).config, ← hspan, ← hnotes]
    apply length_filter_le_of_spaced _ (openings_spaced hrested.2)
    rw [hspan, (h.passes hshown).config]
    exact Nat.mul_pos httl (by decide)

/-- A cache bounds the load on its remote. Reads that do not insist are paced,
whatever their fetches come to, and so are requests for jobs: a span of clock
time sees one session more than it has times to live in it. -/
theorem load_bounded (leaps : Finset Int) :
    (∀ {α : Type} {name : String} {ttl : Span} {past : List (Cache.Visit α)}, 0 < ttl.nanos →
      (∀ v ∈ past, v.force = false) → ¬ Cache.Dead name ttl past →
      NeverBack leaps (Cache.readings name ttl past) → Cache.Paced leaps name ttl past)
    ∧ ∀ {t : Nat} {a b : Scene} {caches : List (Cache ActiveJob)},
      jobShelf.Shows t none caches a.gateway → a.notes = [] → Shown leaps a.gateway.clock →
      0 < a.gateway.config.cacheTtl → Serial jobShelf leaps t .listJobs a b →
      ∀ (x : Int) (L : Nat),
        ((openings b.notes).filter fun o => x ≤ onScale leaps o ∧ onScale leaps o ≤ x + L).length
          ≤ 1 + L / (Span.ofMillis a.gateway.config.cacheTtl).nanos :=
  ⟨Cache.paced, openings_of_jobs⟩

/-- Reads of a cache whose first fetch fails: one is answered with the failure,
and the next one comes when a minute is over. -/
def threeReads : List (Cache.Visit Nat) :=
  [⟨false, ⟨72, 0⟩, ⟨.ok [7], ⟨75, 0⟩⟩⟩, ⟨false, ⟨71, 0⟩, ⟨.ok [7], ⟨71, 0⟩⟩⟩,
    ⟨false, ⟨10, 0⟩, ⟨.error (.failed (.network "ops" "reset")), ⟨12, 0⟩⟩⟩]

/-- A request for jobs while the remote system cannot be reached. -/
def unreached : Scene :=
  (Scene.midnight.until ⟨0, 0⟩ { openFailure := some (.network "ops" "reset") }).after
    (requestFor "listJobs" .empty)

/-- One a nanosecond before the minute is over. -/
def told : Scene := (unreached.until ⟨59, 999999999⟩ {}).after (requestFor "listJobs" .empty)

/-- One when the minute is over. -/
def reached : Scene := (told.until ⟨60, 0⟩ {}).after (requestFor "listJobs" .empty)

theorem serial_reached : Serial jobShelf ∅ 0 .listJobs .midnight reached := by
  have hcheck : Check.ofCommand? (requestFor "listJobs" .empty).command = some .listJobs := by
    decide +kernel
  have hunreached : Serial jobShelf ∅ 0 .listJobs .midnight unreached :=
    (Serial.start _).then hcheck (by decide +kernel) (.inl (by decide)) (by decide +kernel)
  have htold : Serial jobShelf ∅ 0 .listJobs .midnight told :=
    hunreached.then hcheck (by decide +kernel) (.inl (by decide)) (by decide +kernel)
  exact htold.then hcheck (by decide +kernel) (.inl (by decide)) (by decide +kernel)

/-- A span that is a nanosecond short of a minute holds one of the two
openings. -/
theorem load_bounded_of_outage :
    Cache.Paced ∅ "activeJobs" (60000 : Nat) threeReads
      ∧ openings reached.notes = [⟨60, 0⟩, ⟨0, 0⟩]
      ∧ ((openings reached.notes).filter fun o =>
          0 ≤ onScale ∅ o ∧ onScale ∅ o ≤ 0 + (59999999999 : Nat)).length ≤ 1 := by
  have hreadings : Cache.readings "activeJobs" (60000 : Nat) threeReads
      = [⟨75, 0⟩, ⟨72, 0⟩, ⟨71, 0⟩, ⟨12, 0⟩, ⟨10, 0⟩] := by decide
  have hfetched : Cache.fetched "activeJobs" (60000 : Nat) threeReads
      = [⟨.ok [7], ⟨75, 0⟩⟩, ⟨.error (.failed (.network "ops" "reset")), ⟨12, 0⟩⟩] := rfl
  have hshown : Shown ∅ ⟨0, 0⟩ := .inl (by decide)
  refine ⟨(load_bounded ∅).1 (by decide) (by decide) ?_ ?_, by decide +kernel, ?_⟩
  · intro hdead
    obtain ⟨f, hf, hnone⟩ := hdead
    rw [hfetched] at hf
    simp only [List.mem_cons, List.not_mem_nil, or_false] at hf
    obtain rfl | rfl := hf <;> cases hnone
  · rw [hreadings]
    refine ⟨fun t ht => ?_, ?_⟩
    · simp only [List.mem_cons, List.not_mem_nil, or_false] at ht
      obtain rfl | rfl | rfl | rfl | rfl := ht <;> exact .inl (by decide)
    · simp [Timestamp.le_iff]
  · have hshows : jobShelf.Shows 0 none [] Scene.midnight.gateway := ⟨_, rfl, rfl, rfl⟩
    have httl : (Span.ofMillis Scene.midnight.gateway.config.cacheTtl).nanos = 60000000000 := by
      decide +kernel
    have hcount := (load_bounded ∅).2 hshows rfl hshown (by decide +kernel) serial_reached 0
      59999999999
    rwa [httl] at hcount

-- ============================================================== disk units

/-- No session is opened before every failure that has been noted is over for
long enough. -/
structure Log.Spared {α : Type} (leaps : Finset Int) (l : Log α) : Prop where
  current : l.Current leaps
  recovered : l.Recovered leaps
  spaced : Spaced leaps l.cache.ttl Note.IsFailure l.notes
  followed : Followed l.notes

/-- A read keeps this if nothing is due too early. -/
theorem Consulted.spared {α : Type} {leaps : Finset Int} {force : Bool} {r : Except Fault (Read α)}
    {l l' : Log α} (hconsulted : Consulted leaps force r l l')
    (hdue : l.Due leaps Note.IsFailure force) (h : l.Spared leaps) : l'.Spared leaps where
  current := hconsulted.current h.current
  recovered := hconsulted.recovered hdue h.recovered
  spaced := by
    rw [hconsulted.keeps.1]
    exact hconsulted.spaced hdue h.spaced
  followed := hconsulted.followed h.followed

theorem lasting_spared {α : Type} {leaps : Finset Int} :
    Lasting leaps (Log.Spared leaps : Log α → Prop) where
  new name ttl now := ⟨Log.current_new name ttl now, nofun, List.Pairwise.nil, .nil⟩
  later h hle := ⟨h.current.later hle, h.recovered, h.spaced, h.followed⟩
  read hconsulted h := hconsulted.spared h.current.due h
  current h := h.current

/-- A request for disk units keeps that failures are over for long enough. -/
theorem answered_disks {leaps : Finset Int} {t : Nat} {ctx : JobContext} {r : Request}
    {found : Except Fault Findings} {a b : Scene}
    (hcheck : Check.ofCommand? r.command = some .listDisks)
    (hbetween : diskShelf.Between leaps t (Log.Spared leaps) a)
    (hends : Routine.Ends (diskShelf.Watched leaps t) (gather ctx r).run a found b)
    (hlives : isDeath found = false) : diskShelf.Answered leaps t (Log.Spared leaps) found b := by
  have hgather : gather ctx r
      = do return .disks (← (do unitsOf (← obtain .disks) (r.text? "diskName"))) := by
    unfold gather
    rw [hcheck, bind_assoc]
  rw [hgather] at hends
  refine (serves_map (serves_unitsOf lasting_spared ?_ hbetween _) _).ends hends hlives
  intro r l l' items since hheld hconsulted h
  exact hconsulted.spared (h.recovered.due h.current hheld) h

/-- A remote that fails is left alone for the time to live, whatever disk units
are asked for. What comes of each fetch is noted: no session is opened before a
failure that has been noted is over for that long. A failure that a request
tells has been noted, and nothing was noted that is later. -/
theorem failing_remote_rests {leaps : Finset Int} {t : Nat} {a b : Scene}
    {caches : List (Cache DiskUnit)} (hshows : diskShelf.Shows t none caches a.gateway)
    (hnew : a.notes = []) (hshown : Shown leaps a.gateway.clock)
    (h : Serial diskShelf leaps t .listDisks a b) :
    Followed b.notes
    ∧ (b.notes.Pairwise fun later earlier => ∀ opened e failed, later = .opened opened →
      earlier = .failed e failed →
      onScale leaps failed + (Span.ofMillis a.gateway.config.cacheTtl).nanos ≤ onScale leaps opened)
    ∧ ∀ {ctx : JobContext} {r : Request} {name : String} {e : GatewayError} {c : Scene},
      Check.ofCommand? r.command = some .listDisks →
      Routine.Ends (diskShelf.Watched leaps t) (carryOut ctx r).run b
        (.error (.failed (.refreshFailed name e))) c →
      ∃ failed notes, c.notes = .failed (.refreshFailed name e) failed :: notes
        ∧ ∀ n ∈ notes, onScale leaps n.time ≤ onScale leaps failed := by
  have hbetween : diskShelf.Between leaps t (Log.Spared leaps) b :=
    h.between lasting_spared answered_disks (.inl ⟨hshown, hnew, caches, hshows⟩)
  have htold : ∀ {ctx : JobContext} {r : Request} {name : String} {e : GatewayError} {c : Scene},
      Check.ofCommand? r.command = some .listDisks →
      Routine.Ends (diskShelf.Watched leaps t) (carryOut ctx r).run b
        (.error (.failed (.refreshFailed name e))) c →
      ∃ failed notes, c.notes = .failed (.refreshFailed name e) failed :: notes
        ∧ ∀ n ∈ notes, onScale leaps n.time ≤ onScale leaps failed := by
    intro ctx r name e c hcheck hends
    obtain ⟨found, hgathered, hfound⟩ := ends_carryOut hends
    obtain rfl := failed_of_report hfound.symm
    exact (answered_disks hcheck hbetween hgathered rfl).told name e rfl
  obtain hnone | ⟨l, hspared, hnotes, hspan⟩ := hbetween.noted
  · rw [hnone]
    exact ⟨.nil, List.Pairwise.nil, htold⟩
  · rw [← (h.passes hshown).config, ← hspan, ← hnotes]
    refine ⟨hspared.followed, hspared.spaced.imp ?_, htold⟩
    intro later earlier hspaced opened e failed hopened hfailed
    subst hfailed
    exact hspaced opened hopened ⟨e, failed, rfl⟩

/-- The disk units are listed: there are none. -/
def listed : Scene := (Scene.midnight.until ⟨0, 0⟩ {}).after (requestFor "listDisks" .empty)

/-- Ten seconds later one is asked for by its name, and the remote system cannot
be reached. -/
def insisted : Scene :=
  (listed.until ⟨10, 0⟩ { openFailure := some (.network "ops" "reset") }).after
    (requestFor "listDisks" (Record.empty.insert "diskName" (.string "DD001")))

/-- A nanosecond before the minute is over that failure is told again. -/
def retold : Scene :=
  (insisted.until ⟨69, 999999999⟩ {}).after (requestFor "listDisks" .empty)

/-- When the minute is over there is another one. -/
def retried : Scene :=
  (retold.until ⟨70, 0⟩ { openFailure := some (.network "ops" "lost") }).after
    (requestFor "listDisks" .empty)

theorem serial_retold : Serial diskShelf ∅ 0 .listDisks .midnight retold := by
  have hcheck : ∀ args,
      Check.ofCommand? (requestFor "listDisks" args).command = some .listDisks := by
    intro args
    show Check.ofCommand? "listDisks" = some .listDisks
    decide +kernel
  have hlisted : Serial diskShelf ∅ 0 .listDisks .midnight listed :=
    (Serial.start _).then (hcheck _) (by decide +kernel) (.inl (by decide)) (by decide +kernel)
  have hinsisted : Serial diskShelf ∅ 0 .listDisks .midnight insisted :=
    hlisted.then (hcheck _) (by decide +kernel) (.inl (by decide)) (by decide +kernel)
  exact hinsisted.then (hcheck _) (by decide +kernel) (.inl (by decide)) (by decide +kernel)

/-- The read that insists comes within the minute after the first one, and the
next one when the minute after the failure is over. -/
theorem failing_remote_rests_of_missing_disk :
    openings retried.notes = [⟨70, 0⟩, ⟨10, 0⟩, ⟨0, 0⟩]
      ∧ (retried.notes.Pairwise fun later earlier => ∀ opened e failed, later = .opened opened →
        earlier = .failed e failed →
        onScale ∅ failed + (60000000000 : Nat) ≤ onScale ∅ opened)
      ∧ ∃ failed notes,
        retried.notes
            = .failed (.refreshFailed "diskUnits" (.network "ops" "lost")) failed :: notes
          ∧ ∀ n ∈ notes, onScale ∅ n.time ≤ onScale ∅ failed := by
  have hshows : diskShelf.Shows 0 none [] Scene.midnight.gateway := ⟨_, rfl, rfl, rfl⟩
  have hshown : Shown ∅ ⟨0, 0⟩ := .inl (by decide)
  have hlater : Shown ∅ ⟨70, 0⟩ := .inl (by decide)
  have hcheck : Check.ofCommand? (requestFor "listDisks" .empty).command = some .listDisks := by
    decide +kernel
  have httl : (Span.ofMillis Scene.midnight.gateway.config.cacheTtl).nanos = 60000000000 := by
    decide +kernel
  have hretried : Serial diskShelf ∅ 0 .listDisks .midnight retried :=
    serial_retold.then hcheck (by decide +kernel) hlater (by decide +kernel)
  have hlost : Serial diskShelf ∅ 0 .listDisks .midnight
      (retold.until ⟨70, 0⟩ { openFailure := some (.network "ops" "lost") }) :=
    serial_retold.until (by decide +kernel) hlater
  have hends : alone 0 (carryOut ⟨⟨"AS400", "ops", "secret"⟩, 50, .panics⟩
        (requestFor "listDisks" .empty)).run
        (retold.until ⟨70, 0⟩ { openFailure := some (.network "ops" "lost") })
      = some (.error (.failed (.refreshFailed "diskUnits" (.network "ops" "lost"))), retried) := rfl
  have hspaced := (failing_remote_rests hshows rfl hshown hretried).2.1
  rw [httl] at hspaced
  refine ⟨by decide +kernel, hspaced, ?_⟩
  exact (failing_remote_rests hshows rfl hshown hlost).2.2 hcheck (ends_of_alone hends hlater)

end CheckGateway.Gateway
