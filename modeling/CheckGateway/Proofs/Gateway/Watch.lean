/-
A request that is alone with the caches of its kind, on a clock that goes on.

Between two calls of the request anything may happen that leaves the slot and
the caches of its kind in its tenant as they are: the clock goes on, the remote
system and the watermarks change in any way, and so do the other tenants. The
calls themselves are what `perform` makes of them. So what is shown of a
request here holds for every remote system and for any time that its calls
take.

# Notes

`Watched` adds notes to the gateway: when a session is opened, and what a cache
is left with each time it is saved. From them it is read off how often the
remote system is asked, and after which failures.

# Rules

Few calls matter to a cache that is read. The others are *quiet*: after them
time has passed, and that is all. `Tended` is what both kinds of caches have in
common, said of their calls: how a cache is made, loaded and saved.
-/
import CheckGateway.Proofs.Cache.Pace
import CheckGateway.Proofs.Gateway.Shelves

namespace CheckGateway

open Timestamp (Shown)

-- =================================================================== notes

/-- What is noted of requests. -/
inductive Note where
  /-- A session is opened, or refused, at a time. -/
  | opened (time : Timestamp)
  /-- A cache holds a snapshot of a time. -/
  | filled (since : Timestamp)
  /-- A cache holds a failure of a time. -/
  | failed (e : GatewayError) (since : Timestamp)

/-- When it was. -/
def Note.time : Note → Timestamp
  | .opened time => time
  | .filled since => since
  | .failed _ since => since

/-- When a session was opened, if one was. -/
def Note.opened? : Note → Option Timestamp
  | .opened time => some time
  | _ => none

theorem Note.opened_of_opened? {n : Note} {time : Timestamp} (h : n.opened? = some time) :
    n = .opened time := by
  cases n with
  | opened time' => exact congrArg Note.opened (Option.some.inj h)
  | filled | failed => cases h

/-- The time of what a cache holds. -/
def Held.since? {α : Type} : Held α → Option Timestamp
  | .nothing => none
  | .snapshot _ since => some since
  | .failure _ since => some since

/-- What is noted of a cache that is saved. -/
def Held.note {α : Type} : Held α → List Note
  | .nothing => []
  | .snapshot _ since => [.filled since]
  | .failure e since => [.failed e since]

theorem Held.time_of_note {α : Type} {held : Held α} {since : Timestamp}
    (hsince : held.since? = some since) : ∀ n ∈ held.note, n.time = since := by
  cases held with
  | nothing => cases hsince
  | snapshot items time | failure e time =>
      cases hsince
      intro n hn
      rw [List.mem_singleton.1 hn]
      rfl

namespace Gateway

open Job

/-- What is noted of a call at a time. -/
def noteOf (time : Timestamp) : Call → List Note
  | .openSession => [.opened time]
  | .saveJobCache _ c => c.held.note
  | .saveDiskCache _ c => c.held.note
  | _ => []

/-- A gateway, and what has been noted, the latest first. -/
structure Scene where
  gateway : Gateway
  notes : List Note := []

/-- The clock has gone on, if at all. -/
structure Passes (leaps : Finset Int) (g g' : Gateway) : Prop where
  clock : g.clock ≤ g'.clock
  shown : Shown leaps g'.clock
  config : g'.config = g.config

namespace Shelf

variable {α : Type}

/-- The handler of a tenant and the caches of its kind. -/
def Shows (s : Shelf α) (t : Nat) (handler : Option Nat) (caches : List (Cache α))
    (g : Gateway) : Prop :=
  ∃ x, g.tenants[t]? = some x ∧ (x.slots.get s.kind).handler = handler ∧ s.caches x = caches

/-- Time passes, and nobody touches the caches of a tenant or their slot. -/
structure Meanwhile (s : Shelf α) (leaps : Finset Int) (t : Nat) (g g' : Gateway) : Prop
    extends Passes leaps g g' where
  shows : ∀ handler caches, s.Shows t handler caches g → s.Shows t handler caches g'

/-- A call of a request of the tenant is answered, after some time. -/
def Watched (s : Shelf α) (leaps : Finset Int) (t : Nat) (a : Scene) (c : Call) (answer : Answer c)
    (b : Scene) : Prop :=
  ∃ g x gate, s.Meanwhile leaps t a.gateway g ∧ g.tenants[t]? = some x
    ∧ g.perform t x gate c = .answered answer b.gateway
    ∧ b.notes = noteOf g.clock c ++ a.notes

/-- However long its calls take and whatever they are answered, a routine ends
as said. -/
def Ensures {β : Type} (s : Shelf α) (leaps : Finset Int) (t : Nat) (a : Scene)
    (r : JobRoutine β) (post : β → Scene → Prop) : Prop :=
  r.Abides (s.Watched leaps t) (fun _ => True) post a

end Shelf

-- ============================================================= quiet calls

section

variable {α β : Type} {s : Shelf α} {leaps : Finset Int} {t : Nat} {g g' g'' : Gateway}
  {x : Tenant} {gate : Option Nat} {c : Call} {answer : Answer c} {handler handler' : Option Nat}
  {caches caches' : List (Cache α)}

theorem Passes.trans (h : Passes leaps g g') (h' : Passes leaps g' g'') : Passes leaps g g'' :=
  ⟨Timestamp.le_trans h.clock h'.clock, h'.shown, h'.config.trans h.config⟩

theorem Shelf.Meanwhile.refl (hshown : Shown leaps g.clock) : s.Meanwhile leaps t g g :=
  ⟨⟨Timestamp.le_refl _, hshown, rfl⟩, fun _ _ h => h⟩

theorem Shelf.Meanwhile.trans (h : s.Meanwhile leaps t g g') (h' : s.Meanwhile leaps t g' g'') :
    s.Meanwhile leaps t g g'' :=
  ⟨h.toPasses.trans h'.toPasses, fun _ _ hs => h'.shows _ _ (h.shows _ _ hs)⟩

/-- A call to which the caches of a tenant and their slots are nothing. -/
def Quiet : Call → Prop
  | .now | .openSession | .query .. | .closeSession _ | .acquire _ | .handler _ | .jobCache _
  | .diskCache _ => True
  | .release _ poison => poison = false
  | _ => False

/-- No call moves the clock, or changes the settings. -/
theorem clock_of_performed (h : g.perform t x gate c = .answered answer g') :
    g'.clock = g.clock ∧ g'.config = g.config := by
  have hstate := (confined_perform g t x gate c).state
  rw [h] at hstate
  have hclock := congrArg Gateway.clock hstate
  have hconfig := congrArg Gateway.config hstate
  exact ⟨hclock, hconfig⟩

theorem Shelf.Shows.congr (h : s.Shows t handler caches g) (htenants : g'.tenants = g.tenants) :
    s.Shows t handler caches g' := by
  unfold Shelf.Shows
  rw [htenants]
  exact h

theorem Shelf.Shows.update {f : Tenant → Tenant} (h : s.Shows t handler caches g)
    (hf : ∀ x, (x.slots.get s.kind).handler = handler → s.caches x = caches →
      ((f x).slots.get s.kind).handler = handler' ∧ s.caches (f x) = caches') :
    s.Shows t handler' caches' (g.update t f) := by
  obtain ⟨x, hx, hhandler, hcaches⟩ := h
  refine ⟨f x, ?_, hf x hhandler hcaches⟩
  rw [tenants_update hx, if_pos rfl]

/-- A quiet call leaves the caches and their slot as they are. -/
theorem Shelf.Shows.quiet (hlocked : ∀ x ls, s.caches { x with locked := ls } = s.caches x)
    (hc : Quiet c) (hperform : g.perform t x gate c = .answered answer g')
    (h : s.Shows t handler caches g) : s.Shows t handler caches g' := by
  have hlock : ∀ (f : Tenant → List Lock) x, (x.slots.get s.kind).handler = handler →
      s.caches x = caches →
      (({ x with locked := f x } : Tenant).slots.get s.kind).handler = handler
        ∧ s.caches { x with locked := f x } = caches :=
    fun f x hhandler hcaches => ⟨hhandler, (hlocked x _).trans hcaches⟩
  cases c with
  | now | handler kind | jobCache k | diskCache k | openSession =>
      cases hperform
      exact h.congr rfl
  | closeSession session =>
      cases hperform
      exact h.congr rfl
  | query session q =>
      unfold perform at hperform
      cases gate with
      | some k =>
          dsimp only at hperform
          split at hperform
          · cases hperform
            exact h
          · cases hperform
      | none =>
          dsimp only at hperform
          split at hperform
          · cases hperform
            exact h.congr rfl
          · cases hperform
  | acquire lock =>
      unfold perform at hperform
      dsimp only at hperform
      split at hperform
      · cases hperform
      · split at hperform
        · cases hperform
          exact h
        · cases hperform
          exact h.update (hlock _)
  | release lock poison =>
      obtain rfl : poison = false := hc
      cases hperform
      exact h.update (hlock _)
  | watermark | note | install | installSystem | saveJobCache | saveDiskCache | session
  | replaceSession | hold | letGo => exact hc.elim

/-- After any call time has passed. -/
theorem Shelf.Watched.passes {a b : Scene} (h : s.Watched leaps t a c answer b) :
    Passes leaps a.gateway b.gateway := by
  obtain ⟨g, x, gate, hmeanwhile, -, hperform, -⟩ := h
  obtain ⟨hclock, hconfig⟩ := clock_of_performed hperform
  refine ⟨?_, ?_, hconfig.trans hmeanwhile.config⟩
  · rw [hclock]
    exact hmeanwhile.clock
  · rw [hclock]
    exact hmeanwhile.shown

/-- What a call notes is noted at the time that the clock shows then. -/
theorem Shelf.Watched.notes {a b : Scene} (h : s.Watched leaps t a c answer b) :
    b.notes = noteOf b.gateway.clock c ++ a.notes := by
  obtain ⟨g, x, gate, -, -, hperform, hnotes⟩ := h
  rw [(clock_of_performed hperform).1]
  exact hnotes

end

-- ================================================================== rules

section

variable {α β γ : Type} {s : Shelf α} {leaps : Finset Int} {t : Nat} {a b : Scene}
  {c : Call} {next : Answer c → JobRoutine β} {handler : Option Nat} {caches : List (Cache α)}
  {post post' : β → Scene → Prop}

theorem ensures_done {x : β} (h : post x a) : s.Ensures leaps t a (.done x) post := h

theorem Shelf.Ensures.mono {r : JobRoutine β} (h : s.Ensures leaps t a r post)
    (himp : ∀ x b, post x b → post' x b) : s.Ensures leaps t a r post' :=
  Routine.Abides.mono h himp

theorem Shelf.Ensures.bind {r : JobRoutine γ} {f : γ → JobRoutine β}
    {between : γ → Scene → Prop} (h : s.Ensures leaps t a r between)
    (hf : ∀ x b, between x b → s.Ensures leaps t b (f x) post) :
    s.Ensures leaps t a (r.bind f) post :=
  Routine.Abides.bind (Routine.Abides.mono h hf)

/-- A job followed by one that depends on its value. -/
theorem Shelf.Ensures.andThen {job : Job γ} {f : γ → Job β}
    {between : Except Fault γ → Scene → Prop} {post : Except Fault β → Scene → Prop}
    (h : s.Ensures leaps t a job.run between)
    (hok : ∀ x b, between (.ok x) b → s.Ensures leaps t b (f x).run post)
    (herror : ∀ e b, between (.error e) b → post (.error e) b) :
    s.Ensures leaps t a (job >>= f).run post := by
  refine Shelf.Ensures.bind h fun r b hbetween => ?_
  cases r with
  | ok x => exact hok x b hbetween
  | error e => exact ensures_done (herror e b hbetween)

/-- What a job comes to, unless the worker dies over it. -/
theorem Shelf.Ensures.attempt {job : Job β} {between : Scene → Prop}
    (h : s.Ensures leaps t a job.run fun _ b => between b) :
    s.Ensures leaps t a (attempt job).run fun r b =>
      between b ∧ (r = .error .panicked ∨ ∃ o, r = .ok o) := by
  refine Shelf.Ensures.bind h fun r b hbetween => ?_
  match r with
  | .ok x => exact ensures_done ⟨hbetween, .inr ⟨.ok x, rfl⟩⟩
  | .error (.failed e) => exact ensures_done ⟨hbetween, .inr ⟨.error e, rfl⟩⟩
  | .error .panicked => exact ensures_done ⟨hbetween, .inl rfl⟩

theorem ensures_call
    (h : ∀ answer b, s.Watched leaps t a c answer b → s.Ensures leaps t b (next answer) post) :
    s.Ensures leaps t a (.call c next) post :=
  ⟨trivial, h⟩

/-- What a routine ensures holds of each of its runs. -/
theorem Shelf.Ensures.ends {r : JobRoutine β} {x : β} (h : s.Ensures leaps t a r post)
    (hends : Routine.Ends (s.Watched leaps t) r a x b) : post x b :=
  Routine.Abides.ends h hends

/-- After a quiet call time has passed, and nothing else has happened to the
caches. -/
theorem Shelf.Watched.quiet {answer : Answer c}
    (hlocked : ∀ x ls, s.caches { x with locked := ls } = s.caches x) (hc : Quiet c)
    (h : s.Watched leaps t a c answer b) : s.Meanwhile leaps t a.gateway b.gateway := by
  refine ⟨h.passes, fun handler caches hshows => ?_⟩
  obtain ⟨g, x, gate, hmeanwhile, -, hperform, -⟩ := h
  exact (hmeanwhile.shows _ _ hshows).quiet hlocked hc hperform

/-- The clock is read when the call is answered. -/
theorem Shelf.Watched.now {answer : Timestamp} (h : s.Watched leaps t a .now answer b) :
    answer = b.gateway.clock := by
  obtain ⟨g, x, gate, -, -, hperform, -⟩ := h
  cases hperform
  rfl

/-- A call is performed for the tenant with the caches that are shown. -/
theorem Shelf.Watched.performed {answer : Answer c} (h : s.Watched leaps t a c answer b)
    (hshows : s.Shows t handler caches a.gateway) :
    ∃ g x gate, s.Shows t handler caches g ∧ g.tenants[t]? = some x
      ∧ (x.slots.get s.kind).handler = handler ∧ s.caches x = caches
      ∧ g.perform t x gate c = .answered answer b.gateway := by
  obtain ⟨g, x, gate, hmeanwhile, hx, hperform, -⟩ := h
  have hnow := hmeanwhile.shows _ _ hshows
  obtain ⟨y, hy, hhandler, hcaches⟩ := hnow
  cases hx.symm.trans hy
  exact ⟨g, x, gate, hmeanwhile.shows _ _ hshows, hx, hhandler, hcaches, hperform⟩

/-- The handler in the slot is found. -/
theorem Shelf.Watched.found {answer : Option Nat}
    (h : s.Watched leaps t a (.handler s.kind) answer b)
    (hshows : s.Shows t handler caches a.gateway) : answer = handler := by
  obtain ⟨g, x, gate, -, -, hhandler, -, hperform⟩ := h.performed hshows
  cases hperform
  exact hhandler

/-- The lock of a cache is not given to anybody once it is poisoned. -/
theorem Shelf.Watched.acquire {answer : Bool} {h : Nat} {d : Cache α}
    (hwatched : s.Watched leaps t a (.acquire (s.lock h)) answer b)
    (hshows : s.Shows t handler caches a.gateway) (hd : caches[h]? = some d) :
    answer = !d.poisoned := by
  obtain ⟨g, x, gate, -, -, -, hcaches, hperform⟩ := hwatched.performed hshows
  have hpoisoned : x.isPoisoned (s.lock h) = d.poisoned := by
    rw [s.isPoisoned, hcaches, hd]
    rfl
  rw [← hpoisoned]
  unfold perform at hperform
  dsimp only at hperform
  split at hperform
  · cases hperform
  · split at hperform
    next hbroken =>
      injection hperform with hanswer
      simp [← hanswer, hbroken]
    next hsound =>
      injection hperform with hanswer
      simp [← hanswer, hsound]

end

-- ======================================================= the kinds of caches

/-- What both kinds of caches have in common, said of their calls: there is one
that makes a handler with a new cache, one that loads a cache, and one that
saves it. -/
structure Shelf.Tended {α : Type} (s : Shelf α) : Prop where
  caches_locked : ∀ x ls, s.caches { x with locked := ls } = s.caches x
  installs : ∀ (g : Gateway) t x gate,
    g.perform t x gate (.install s.kind) = .answered (s.caches x).length
    (g.update t fun y => s.store
      (s.caches y ++ [⟨s.name, g.config.cacheTtl, .nothing, {}, false⟩])
      (y.fill s.kind (s.caches x).length))
  loads : ∀ h, ∃ (c : Call) (next : Answer c → Cache α),
    (s.load h).run = .call c (fun answer => .done (.ok (next answer)))
    ∧ Quiet c ∧ (∀ time, noteOf time c = [])
    ∧ ∀ {g : Gateway} {t x gate d}, (s.caches x)[h]? = some d →
      ∃ answer, g.perform t x gate c = .answered answer g ∧ next answer = d
  saves : ∀ h d, ∃ (c : Call) (answer : Answer c),
    (s.save h d).run = .call c (fun _ => .done (.ok ()))
    ∧ (∀ time, noteOf time c = d.held.note)
    ∧ ∀ (g : Gateway) t x gate, g.perform t x gate c
      = .answered answer (g.update t fun y => s.store ((s.caches y).set h d) y)

theorem tended_jobShelf : jobShelf.Tended where
  caches_locked _ _ := rfl
  installs _ _ _ _ := rfl
  loads h := by
    refine ⟨.jobCache h, id, rfl, trivial, fun _ => rfl, fun {g t x gate d} hd => ⟨d, ?_, rfl⟩⟩
    have hfound : x.jobCaches[h]? = some d := hd
    unfold perform
    dsimp only
    rw [List.getD_eq_getElem?_getD, hfound]
    rfl
  saves h d := ⟨.saveJobCache h d, (), rfl, fun _ => rfl, fun _ _ _ _ => rfl⟩

theorem tended_diskShelf : diskShelf.Tended where
  caches_locked _ _ := rfl
  installs _ _ _ _ := rfl
  loads h := by
    refine ⟨.diskCache h, id, rfl, trivial, fun _ => rfl, fun {g t x gate d} hd => ⟨d, ?_, rfl⟩⟩
    have hfound : x.diskCaches[h]? = some d := hd
    unfold perform
    dsimp only
    rw [List.getD_eq_getElem?_getD, hfound]
    rfl
  saves h d := ⟨.saveDiskCache h d, (), rfl, fun _ => rfl, fun _ _ _ _ => rfl⟩

section

variable {α : Type} {s : Shelf α} {leaps : Finset Int} {t h : Nat} {a b : Scene}
  {handler : Option Nat} {caches : List (Cache α)} {c : Cache α}

/-- A handler is made with a new cache. -/
theorem Shelf.Tended.install (hs : s.Tended) (hwatched : s.Watched leaps t a (.install s.kind) h b)
    (hshows : s.Shows t none caches a.gateway) :
    h = caches.length ∧ b.notes = a.notes ∧ s.Shows t (some h)
      (caches ++ [⟨s.name, b.gateway.config.cacheTtl, .nothing, {}, false⟩]) b.gateway := by
  obtain ⟨g, x, gate, hnow, -, -, hcaches, hperform⟩ := hwatched.performed hshows
  have hconfig := (clock_of_performed hperform).2
  rw [hs.installs, hcaches] at hperform
  injection hperform with hanswer hgateway
  refine ⟨hanswer.symm, hwatched.notes, ?_⟩
  rw [hconfig, ← hgateway, ← hanswer]
  apply hnow.update
  intro y _ hy
  rw [s.slots_store, s.caches_store, hy]
  refine ⟨?_, rfl⟩
  show ((y.slots.set s.kind _).get s.kind).handler = some caches.length
  rw [get_set, if_pos rfl]

/-- A cache is loaded, and nothing else happens. -/
theorem Shelf.Tended.load (hs : s.Tended) (hshows : s.Shows t handler caches a.gateway)
    (hc : caches[h]? = some c) :
    s.Ensures leaps t a (s.load h).run fun r b =>
      r = .ok c ∧ s.Meanwhile leaps t a.gateway b.gateway ∧ b.notes = a.notes := by
  obtain ⟨call, next, hload, hquiet, hnote, hanswers⟩ := hs.loads h
  rw [hload]
  apply ensures_call
  intro answer b hwatched
  obtain ⟨g, x, gate, -, -, -, hcaches, hperform⟩ := hwatched.performed hshows
  obtain ⟨answer', hanswer', hnext⟩ := hanswers (hcaches ▸ hc)
  rw [hanswer'] at hperform
  injection hperform with hanswer
  refine ensures_done ⟨?_, hwatched.quiet hs.caches_locked hquiet, ?_⟩
  · rw [← hanswer, hnext]
  · rw [hwatched.notes, hnote]
    rfl

/-- A cache is saved, and what it holds is noted. -/
theorem Shelf.Tended.save (hs : s.Tended) (c : Cache α)
    (hshows : s.Shows t handler caches a.gateway) :
    s.Ensures leaps t a (s.save h c).run fun r b =>
      r = .ok () ∧ Passes leaps a.gateway b.gateway
        ∧ s.Shows t handler (caches.set h c) b.gateway ∧ b.notes = c.held.note ++ a.notes := by
  obtain ⟨call, answer, hsave, hnote, hstores⟩ := hs.saves h c
  rw [hsave]
  apply ensures_call
  intro answer' b hwatched
  obtain ⟨g, x, gate, hnow, -, -, -, hperform⟩ := hwatched.performed hshows
  rw [hstores] at hperform
  injection hperform with _ hgateway
  refine ensures_done ⟨rfl, hwatched.passes, ?_, ?_⟩
  · rw [← hgateway]
    apply hnow.update
    intro y hhandler hcaches
    rw [s.slots_store, s.caches_store, hcaches]
    exact ⟨hhandler, rfl⟩
  · rw [hwatched.notes, hnote]

end

-- ====================================================== locks and fetches

section

variable {α β : Type} {s : Shelf α} {leaps : Finset Int} {t : Nat} {a : Scene}

/-- What is done under a lock that is given, or refused for good. Nothing is
said of a worker that dies. -/
theorem Shelf.Tended.ensures_withLock (hs : s.Tended) {lock : Lock} {body : Job β}
    {post : Except Fault β → Scene → Prop}
    (hrefused : ∀ b, s.Watched leaps t a (.acquire lock) false b →
      post (.error (.failed (.lockPoisoned lock.subject))) b)
    (hbody : ∀ b, s.Watched leaps t a (.acquire lock) true b →
      s.Ensures leaps t b body.run fun r c => isDeath r = false →
        ∀ d, s.Meanwhile leaps t c.gateway d.gateway → d.notes = c.notes → post r d) :
    s.Ensures leaps t a (withLock lock body).run fun r d => isDeath r = false → post r d := by
  apply ensures_call
  intro taken b htaken
  cases taken with
  | false => exact ensures_done fun _ => hrefused b htaken
  | true =>
      show s.Ensures leaps t b (body.run.bind _) _
      refine Shelf.Ensures.bind (hbody b htaken) fun r c hafter => ?_
      apply ensures_call
      intro _ d hreleased
      refine ensures_done fun hlives => ?_
      have hquiet := hreleased.quiet (c := .release lock (isDeath r)) hs.caches_locked hlives
      exact hafter hlives d hquiet hreleased.notes

/-- Routines of quiet calls that are not noted let time pass. -/
theorem Shelf.Tended.ensures_quiet (hs : s.Tended) {r : JobRoutine β}
    (hr : r.Makes fun c => Quiet c ∧ ∀ time, noteOf time c = [])
    (hshown : Shown leaps a.gateway.clock) :
    s.Ensures leaps t a r fun _ b =>
      s.Meanwhile leaps t a.gateway b.gateway ∧ b.notes = a.notes := by
  induction r generalizing a with
  | done x => exact ensures_done ⟨.refl hshown, rfl⟩
  | call c next ih =>
      apply ensures_call
      intro answer b hwatched
      have hquiet := hwatched.quiet hs.caches_locked hr.1.1
      have hnotes : b.notes = a.notes := by
        rw [hwatched.notes, hr.1.2]
        rfl
      apply (ih answer (hr.2 answer) hquiet.shown).mono
      intro x d hd
      exact ⟨hquiet.trans hd.1, hd.2.trans hnotes⟩

/-- A job that opens a session, once, and touches no cache. -/
def OpensOne (s : Shelf α) (leaps : Finset Int) (t : Nat) (job : Job β) : Prop :=
  ∀ a, s.Ensures leaps t a job.run fun _ b => s.Meanwhile leaps t a.gateway b.gateway
    ∧ ∃ time, a.gateway.clock ≤ time ∧ time ≤ b.gateway.clock ∧ Shown leaps time
      ∧ b.notes = .opened time :: a.notes

/-- Rows are fetched over one session. -/
theorem Shelf.Tended.opensOne_fetchAll (hs : s.Tended) {γ : Type} [RowShape γ] (q : RemoteQuery) :
    OpensOne s leaps t (Handler.fetchAll γ q) := by
  intro a
  apply ensures_call
  intro opened b hopened
  have hquiet := hopened.quiet (c := .openSession) hs.caches_locked trivial
  have hnotes : b.notes = .opened b.gateway.clock :: a.notes := hopened.notes
  match opened with
  | .error e =>
      exact ensures_done ⟨hquiet, _, hquiet.clock, Timestamp.le_refl _, hquiet.shown, hnotes⟩
  | .ok session =>
      have hrest : ((fetch γ session q).run.bind fun r =>
          Routine.call (.closeSession session) fun _ => .done r).Makes
            fun c => Quiet c ∧ ∀ time, noteOf time c = [] := by
        refine Routine.Makes.bind ?_ fun r => ⟨⟨trivial, fun _ => rfl⟩, fun _ => trivial⟩
        refine ⟨⟨trivial, fun _ => rfl⟩, fun rows => ?_⟩
        match rows with
        | .error e => exact trivial
        | .ok rows =>
            show ((ofOutcome (readRows γ q.name rows)).run).Makes _
            rw [run_ofOutcome]
            exact trivial
      apply (hs.ensures_quiet hrest hquiet.shown).mono
      intro x d hd
      obtain ⟨hlater, hsame⟩ := hd
      exact ⟨hquiet.trans hlater, _, hquiet.clock, hlater.clock, hquiet.shown,
        hsame.trans hnotes⟩

end

end Gateway

end CheckGateway
