/-
Reading a cache of jobs or disk units.

If the cache holds what is young enough, the read is a hit, and otherwise one
session is opened and the cache is left with what it brought, or with the
failure to bring it. That is all that can come of a read
(`ensures_readCache`), however long its calls take.

# What stays true

What a cache holds is as late as anything that has been noted (`Log.Current`),
so when it is too old, everything is. A read that does not insist fetches only
then (`Log.Current.due`). One that insists may fetch earlier. Where it finds a
snapshot, the failures before that have been over for long enough
(`Log.Recovered.due`): no fetch came too soon after them, and the snapshot
came of a fetch.
-/
import CheckGateway.Proofs.Gateway.Watch

namespace CheckGateway.Gateway

open Timestamp (Shown onScale)
open Job Handler

-- ======================================================== what a read does

/-- A cache, what has been noted, and what the clock shows. -/
structure Log (α : Type) where
  cache : Cache α
  notes : List Note
  now : Timestamp

/-- A read of a cache. It insists on a fetch or does not, and it takes some
time. -/
inductive Consulted {α : Type} (leaps : Finset Int) :
    Bool → Except Fault (Read α) → Log α → Log α → Prop where
  /-- What the cache holds is young enough when the clock is read. -/
  | hit {c : Cache α} {notes : List Note} {before now after : Timestamp}
      {v : Outcome (Read α)} (hclock : NeverBack leaps [after, now, before])
      (hheld : c.heldAt? now = some v) :
      Consulted leaps false (v.mapError .failed) ⟨c, notes, before⟩
        ⟨c.countHit, c.held.note ++ notes, after⟩
  /-- A session is opened, and what has been brought is kept from the time on
  that the clock shows then. -/
  | fetched {force : Bool} {c : Cache α} {notes : List Note}
      {before now opened since after : Timestamp} {brought : Outcome (List α)}
      (hclock : NeverBack leaps [after, since, opened, now, before])
      (hneeded : force = true ∨ c.heldAt? now = none) :
      Consulted leaps force ((c.countMiss.settle brought since).1.mapError .failed)
        ⟨c, notes, before⟩
        ⟨(c.countMiss.settle brought since).2,
          (c.countMiss.settle brought since).2.held.note
            ++ .opened opened :: (c.held.note ++ notes), after⟩

section

variable {α : Type} {s : Shelf α} {leaps : Finset Int} {t h : Nat} {a b d : Scene}
  {handler : Option Nat} {caches : List (Cache α)} {c : Cache α} {fetch : Job (List α)}
  {force : Bool} {r : Except Fault (Read α)}

/-- A read goes on for the time that the release of its lock takes. -/
theorem Consulted.later {l : Log α} {c' : Cache α} {notes : List Note} {now now' : Timestamp}
    (h : Consulted leaps force r l ⟨c', notes, now⟩) (hle : now ≤ now')
    (hshown : Shown leaps now') : Consulted leaps force r l ⟨c', notes, now'⟩ := by
  cases h with
  | hit hclock hheld =>
      exact .hit ((hclock.push hle hshown).sublist (by simp)) hheld
  | fetched hclock hneeded =>
      exact .fetched ((hclock.push hle hshown).sublist (by simp)) hneeded

/-- A read that began at a scene has come to this one: the cache that it has
read is another one now. -/
def Shelf.LeftBy (s : Shelf α) (leaps : Finset Int) (t : Nat) (handler : Option Nat)
    (caches : List (Cache α)) (h : Nat) (c : Cache α) (force : Bool) (a : Scene)
    (r : Except Fault (Read α)) (b : Scene) : Prop :=
  ∃ c', s.Shows t handler (caches.set h c') b.gateway
    ∧ b.gateway.config = a.gateway.config
    ∧ Consulted leaps force r ⟨c, a.notes, a.gateway.clock⟩ ⟨c', b.notes, b.gateway.clock⟩

theorem Shelf.LeftBy.later (hleft : s.LeftBy leaps t handler caches h c force a r b)
    (hquiet : s.Meanwhile leaps t b.gateway d.gateway) (hsame : d.notes = b.notes) :
    s.LeftBy leaps t handler caches h c force a r d := by
  obtain ⟨c', hshows, hconfig, hconsulted⟩ := hleft
  refine ⟨c', hquiet.shows _ _ hshows, hquiet.config.trans hconfig, ?_⟩
  rw [hsame]
  exact hconsulted.later hquiet.clock hquiet.shown

/-- A read that is answered with what the cache holds. -/
theorem ensures_hit (hs : s.Tended) {v : Outcome (Read α)}
    (hshows : s.Shows t handler caches b.gateway)
    (hclock : NeverBack leaps [b.gateway.clock, a.gateway.clock])
    (hconfig : b.gateway.config = a.gateway.config) (hsame : b.notes = a.notes)
    (hheld : c.heldAt? b.gateway.clock = some v) :
    s.Ensures leaps t b (do s.save h c.countHit; ofOutcome v : Job (Read α)).run
      (s.LeftBy leaps t handler caches h c false a) := by
  refine (hs.save c.countHit hshows).andThen (fun _ d hsaved => ?_)
    fun e d hsaved => nomatch hsaved.1
  obtain ⟨-, hpasses, hcaches, hnotes⟩ := hsaved
  rw [run_ofOutcome]
  refine ensures_done ⟨_, hcaches, hpasses.config.trans hconfig, ?_⟩
  rw [hnotes, hsame]
  exact .hit (hclock.push hpasses.clock hpasses.shown) hheld

/-- What has been brought is settled with the cache. -/
theorem ensures_settled (hs : s.Tended) (brought : Outcome (List α))
    (hshows : s.Shows t handler caches a.gateway) :
    s.Ensures leaps t a
      (do
        let (r, cache) := c.countMiss.settle brought (← now)
        s.save h cache
        ofOutcome r : Job (Read α)).run fun r b =>
      ∃ since, a.gateway.clock ≤ since ∧ Shown leaps since ∧ since ≤ b.gateway.clock
        ∧ Shown leaps b.gateway.clock ∧ b.gateway.config = a.gateway.config
        ∧ r = (c.countMiss.settle brought since).1.mapError .failed
        ∧ s.Shows t handler (caches.set h (c.countMiss.settle brought since).2) b.gateway
        ∧ b.notes = (c.countMiss.settle brought since).2.held.note ++ a.notes := by
  apply ensures_call
  intro since b₁ hread
  have hquiet := hread.quiet (c := .now) hs.caches_locked trivial
  obtain rfl := hread.now
  have hnotes : b₁.notes = a.notes := hread.notes
  let settled := c.countMiss.settle brought b₁.gateway.clock
  show s.Ensures leaps t b₁
    (s.save h settled.2 >>= fun _ => ofOutcome settled.1 : Job (Read α)).run _
  refine (hs.save settled.2 (hquiet.shows _ _ hshows)).andThen (fun _ b₂ hsaved => ?_)
    fun e b₂ hsaved => nomatch hsaved.1
  obtain ⟨-, hpasses, hcaches, hnotes₂⟩ := hsaved
  rw [run_ofOutcome]
  refine ensures_done ⟨b₁.gateway.clock, hquiet.clock, hquiet.shown, hpasses.clock, hpasses.shown,
    hpasses.config.trans hquiet.config, rfl, hcaches, ?_⟩
  rw [hnotes₂, hnotes]

/-- A read that fetches, unless the worker dies over it. -/
theorem ensures_fetched (hs : s.Tended) (hfetch : OpensOne s leaps t fetch)
    (hshows : s.Shows t handler caches b.gateway)
    (hclock : NeverBack leaps [b.gateway.clock, a.gateway.clock])
    (hconfig : b.gateway.config = a.gateway.config) (hsame : b.notes = a.notes)
    (hneeded : force = true ∨ c.heldAt? b.gateway.clock = none) :
    s.Ensures leaps t b
      (do
        s.save h c.countMiss
        let fetched ← attempt fetch
        let (r, cache) := c.countMiss.settle fetched (← now)
        s.save h cache
        ofOutcome r : Job (Read α)).run fun r d =>
      isDeath r = false → s.LeftBy leaps t handler caches h c force a r d := by
  refine (hs.save c.countMiss hshows).andThen (fun _ b₁ hsaved => ?_)
    fun e b₁ hsaved => nomatch hsaved.1
  obtain ⟨-, hpasses, hcaches, hnotes⟩ := hsaved
  refine (hfetch b₁).attempt.andThen (fun brought b₂ hopens => ?_) fun e b₂ hopens hlives => ?_
  · obtain ⟨⟨hmeanwhile, opened, hopened, hopened', hshown, hnotes₂⟩, -⟩ := hopens
    apply (ensures_settled hs brought (hmeanwhile.shows _ _ hcaches)).mono
    intro r d hsettled _
    obtain ⟨since, hsince, hshownSince, hafter, hshownAfter, hconfig', rfl, hend, hnotes₃⟩ :=
      hsettled
    rw [List.set_set] at hend
    refine ⟨_, hend, ?_, ?_⟩
    · exact hconfig'.trans (hmeanwhile.config.trans (hpasses.config.trans hconfig))
    · rw [hnotes₃, hnotes₂, hnotes, hsame]
      apply Consulted.fetched _ hneeded
      have hopens := hclock.push (Timestamp.le_trans hpasses.clock hopened) hshown
      have hsettles := hopens.push (Timestamp.le_trans hopened' hsince) hshownSince
      exact hsettles.push hafter hshownAfter
  · obtain ⟨-, hdied | ⟨o, ho⟩⟩ := hopens
    · cases hdied
      cases hlives
    · cases ho

/-- All that can come of a read, unless the worker dies over it. -/
theorem ensures_readCache (hs : s.Tended) (hfetch : OpensOne s leaps t fetch)
    (hshown : Shown leaps a.gateway.clock) (hshows : s.Shows t handler caches a.gateway)
    (hc : caches[h]? = some c) (hsound : c.poisoned = false) (force : Bool) :
    s.Ensures leaps t a (readCache (s.lock h) (s.load h) (s.save h) fetch force).run fun r b =>
      isDeath r = false → s.LeftBy leaps t handler caches h c force a r b := by
  have hstart : NeverBack leaps [a.gateway.clock] :=
    ⟨fun u hu => List.mem_singleton.1 hu ▸ hshown, List.pairwise_singleton ..⟩
  have hrelease : ∀ {r : Except Fault (Read α)} {b : Scene},
      (isDeath r = false → s.LeftBy leaps t handler caches h c force a r b) →
      isDeath r = false → ∀ d, s.Meanwhile leaps t b.gateway d.gateway → d.notes = b.notes →
        s.LeftBy leaps t handler caches h c force a r d :=
    fun hleft hlives d hquiet hsame => (hleft hlives).later hquiet hsame
  apply hs.ensures_withLock
  · -- a cache that is sound is not refused to anybody
    intro b hrefused
    have htaken := hrefused.acquire hshows hc
    rw [hsound] at htaken
    cases htaken
  · intro b htaken
    have hquiet := htaken.quiet (c := .acquire (s.lock h)) hs.caches_locked trivial
    refine (hs.load (hquiet.shows _ _ hshows) hc).andThen (fun c' b₁ hloaded => ?_)
      fun e b₁ hloaded => nomatch hloaded.1
    obtain ⟨hc', hmeanwhile, hnotes⟩ := hloaded
    cases hc'
    have hbefore := hquiet.trans hmeanwhile
    have hsame : b₁.notes = a.notes := hnotes.trans htaken.notes
    extract_lets goOn
    cases force with
    | true =>
        have htimes := hstart.push hbefore.clock hbefore.shown
        exact (ensures_fetched hs hfetch (hbefore.shows _ _ hshows) htimes hbefore.config hsame
          (.inl rfl)).mono fun r d => hrelease
    | false =>
        apply ensures_call
        intro time b₂ hread
        have hpassed := hbefore.trans (hread.quiet (c := .now) hs.caches_locked trivial)
        have hsame₂ : b₂.notes = a.notes := Eq.trans hread.notes hsame
        have htimes := hstart.push hpassed.clock hpassed.shown
        obtain rfl := hread.now
        show s.Ensures leaps t b₂ (goOn (c.heldAt? b₂.gateway.clock)).run _
        cases hheld : c.heldAt? b₂.gateway.clock with
        | none =>
            exact (ensures_fetched hs hfetch (hpassed.shows _ _ hshows) htimes hpassed.config
              hsame₂ (.inr hheld)).mono fun r d => hrelease
        | some v =>
            exact (ensures_hit hs (hpassed.shows _ _ hshows) htimes hpassed.config hsame₂
              hheld).mono fun r d hleft => hrelease fun _ => hleft

end

-- ======================================================= what stays true

section

variable {α : Type} {leaps : Finset Int} {l l' : Log α} {force : Bool}
  {r : Except Fault (Read α)} {marks : Note → Prop}

/-- It is of a failure. -/
def Note.IsFailure (n : Note) : Prop := ∃ e since, n = .failed e since

/-- What a cache holds is as late as anything that has been noted. -/
structure Log.Current (leaps : Finset Int) (l : Log α) : Prop where
  untouched : l.cache.held = .nothing → l.notes = []
  latest : ∀ since, l.cache.held.since? = some since → since ≤ l.now ∧ Shown leaps since
    ∧ ∀ n ∈ l.notes, onScale leaps n.time ≤ onScale leaps since

/-- A session is opened when what is marked has been over for a time. -/
def Spaced (leaps : Finset Int) (ttl : Span) (marks : Note → Prop) (notes : List Note) : Prop :=
  notes.Pairwise fun later earlier => ∀ opened, later = .opened opened → marks earlier →
    onScale leaps earlier.time + ttl.nanos ≤ onScale leaps opened

/-- What is noted next of a session that is opened is what came of its fetch. -/
inductive Followed : List Note → Prop where
  | nil : Followed []
  | kept {n : Note} {notes : List Note} (hn : n.opened? = none) (h : Followed notes) :
      Followed (n :: notes)
  | fetched {n : Note} {opened : Timestamp} {notes : List Note} (hn : n.opened? = none)
      (hle : opened ≤ n.time) (h : Followed notes) : Followed (n :: .opened opened :: notes)

/-- By the time of a fetch what is marked has been over for as long as the
cache keeps anything. -/
def Log.Due (leaps : Finset Int) (marks : Note → Prop) (force : Bool) (l : Log α) : Prop :=
  ∀ now, l.now ≤ now → (force = true ∨ l.cache.heldAt? now = none) →
    ∀ n ∈ l.cache.held.note ++ l.notes, marks n →
      onScale leaps n.time + l.cache.ttl.nanos ≤ onScale leaps now

/-- Where there is a snapshot, every failure has been over for as long as the
cache keeps anything. -/
def Log.Recovered (leaps : Finset Int) (l : Log α) : Prop :=
  ∀ items since, l.cache.held = .snapshot items since → ∀ e failed, .failed e failed ∈ l.notes →
    onScale leaps failed + l.cache.ttl.nanos ≤ onScale leaps since

-- ------------------------------------------------------ what is noted

/-- What is held is noted now as well, and is not later than itself. -/
theorem Log.Current.noted (h : l.Current leaps) {since : Timestamp}
    (hsince : l.cache.held.since? = some since) :
    ∀ n ∈ l.cache.held.note ++ l.notes, onScale leaps n.time ≤ onScale leaps since := by
  intro n hn
  obtain hnow | hbefore := List.mem_append.1 hn
  · rw [Held.time_of_note hsince n hnow]
  · exact (h.latest since hsince).2.2 n hbefore

/-- Before a cache holds anything nothing is noted. -/
theorem Log.Current.blank (h : l.Current leaps) (hnone : l.cache.held.since? = none) :
    l.cache.held.note ++ l.notes = [] := by
  cases hheld : l.cache.held with
  | nothing => exact h.untouched hheld
  | snapshot items since | failure e since =>
      rw [hheld] at hnone
      cases hnone

/-- Nothing is later than a time which is not before what is held. -/
theorem Log.Current.le_of_later (h : l.Current leaps) {time : Timestamp} (hle : l.now ≤ time) :
    ∀ n ∈ l.cache.held.note ++ l.notes, onScale leaps n.time ≤ onScale leaps time := by
  intro n hn
  cases hsince : l.cache.held.since? with
  | none =>
      rw [h.blank hsince] at hn
      cases hn
  | some since =>
      obtain ⟨hpast, hshown, -⟩ := h.latest since hsince
      have hnoted := h.noted hsince n hn
      have hgoes := Timestamp.onScale_mono hshown (Timestamp.le_trans hpast hle)
      omega

/-- A cache stays current while the clock goes on. -/
theorem Log.Current.later {c : Cache α} {notes : List Note} {now now' : Timestamp}
    (h : Log.Current leaps ⟨c, notes, now⟩) (hle : now ≤ now') :
    Log.Current leaps ⟨c, notes, now'⟩ := by
  refine ⟨h.untouched, fun since hsince => ?_⟩
  obtain ⟨hpast, hrest⟩ := h.latest since hsince
  exact ⟨Timestamp.le_trans hpast hle, hrest⟩

theorem Log.current_new (name : String) (ttl : Span) (now : Timestamp) :
    Log.Current leaps (⟨⟨name, ttl, .nothing, {}, false⟩, [], now⟩ : Log α) :=
  ⟨fun _ => rfl, nofun⟩

-- ------------------------------------------------------- what is due

theorem old_of_heldAt? {c : Cache α} {since now : Timestamp} (hheld : c.heldAt? now = none)
    (hsince : c.held.since? = some since) :
    (c.ttl.nanos : Int) ≤ Timestamp.nanosBetween since now := by
  unfold Cache.heldAt? Cache.fresh at hheld
  cases hc : c.held with
  | nothing =>
      rw [hc] at hsince
      cases hsince
  | snapshot items time | failure e time =>
      rw [hc] at hsince hheld
      cases hsince
      simpa using hheld

/-- A read that does not insist fetches when everything has been over for long
enough. -/
theorem Log.Current.due (h : l.Current leaps) : l.Due leaps marks false := by
  intro now hnow hneeded n hn _
  obtain hforce | hheld := hneeded
  · cases hforce
  · cases hsince : l.cache.held.since? with
    | none =>
        rw [h.blank hsince] at hn
        cases hn
    | some since =>
        obtain ⟨hpast, hshown, -⟩ := h.latest since hsince
        have hold := old_of_heldAt? hheld hsince
        have hspan := Timestamp.nanosBetween_le_onScale hshown (Timestamp.le_trans hpast hnow)
        have hnoted := h.noted hsince n hn
        omega

/-- A read that insists may fetch at any time while there is a snapshot: the
failures have been over for long enough when the snapshot was taken. -/
theorem Log.Recovered.due (hcurrent : l.Current leaps) (h : l.Recovered leaps)
    {items : List α} {since : Timestamp} (hheld : l.cache.held = .snapshot items since) :
    l.Due leaps Note.IsFailure force := by
  intro now hnow _ n hn hfailure
  obtain ⟨e, failed, rfl⟩ := hfailure
  rw [hheld] at hn
  have hbefore : Note.failed e failed ∈ l.notes := by
    simpa [Held.note] using hn
  have hrecovered := h items since hheld e failed hbefore
  obtain ⟨hpast, hshown, -⟩ := hcurrent.latest since (by rw [hheld]; rfl)
  have hgoes := Timestamp.onScale_mono hshown (Timestamp.le_trans hpast hnow)
  show onScale leaps failed + l.cache.ttl.nanos ≤ onScale leaps now
  omega

-- ------------------------------------------------------------- a read

theorem settle_since (c : Cache α) (brought : Outcome (List α)) (now : Timestamp) :
    (c.settle brought now).2.held.since? = some now := by
  cases brought <;> rfl

theorem Consulted.keeps (h : Consulted leaps force r l l') :
    l'.cache.ttl = l.cache.ttl ∧ l'.cache.poisoned = l.cache.poisoned := by
  cases h with
  | hit => exact ⟨rfl, rfl⟩
  | @fetched _ _ _ _ _ _ _ _ brought => cases brought <;> exact ⟨rfl, rfl⟩

theorem Consulted.shown (h : Consulted leaps force r l l') : Shown leaps l'.now := by
  cases h with
  | hit hclock | fetched hclock => exact hclock.shown _ (List.mem_cons_self ..)

/-- The times of a read that fetches, one after the other. -/
theorem times_of_fetched {after since opened now before : Timestamp}
    (hclock : NeverBack leaps [after, since, opened, now, before]) :
    before ≤ now ∧ now ≤ opened ∧ opened ≤ since ∧ since ≤ after := by
  have hordered := hclock.ordered
  simp only [List.pairwise_cons, List.mem_cons, forall_eq_or_imp] at hordered
  exact ⟨hordered.2.2.2.1.1, hordered.2.2.1.1, hordered.2.1.1, hordered.1.1⟩

theorem Consulted.current (hconsulted : Consulted leaps force r l l') (h : l.Current leaps) :
    l'.Current leaps := by
  cases hconsulted with
  | @hit c notes before now after v hclock hheld =>
      refine ⟨fun hnothing => ?_, fun since hsince => ?_⟩
      · have hnone : c.heldAt? now = none := by
          unfold Cache.heldAt?
          rw [show c.held = .nothing from hnothing]
        rw [hnone] at hheld
        cases hheld
      · obtain ⟨hpast, hshown, -⟩ := h.latest since hsince
        obtain ⟨hafter, -⟩ := List.pairwise_cons.1 hclock.ordered
        exact ⟨Timestamp.le_trans hpast (hafter before (by simp)), hshown, h.noted hsince⟩
  | @fetched _ c notes before now opened since after brought hclock hneeded =>
      have hsettled := settle_since c.countMiss brought since
      obtain ⟨hread, hopened, hback, hafter⟩ := times_of_fetched hclock
      refine ⟨fun hnothing => ?_, fun time htime => ?_⟩
      · rw [show (c.countMiss.settle brought since).2.held = .nothing from hnothing] at hsettled
        cases hsettled
      · cases hsettled.symm.trans htime
        refine ⟨hafter, hclock.shown since (by simp), fun n hn => ?_⟩
        obtain hnew | hold := List.mem_append.1 hn
        · rw [Held.time_of_note hsettled n hnew]
        · obtain rfl | hold := List.mem_cons.1 hold
          · exact Timestamp.onScale_mono (hclock.shown opened (by simp)) hback
          · apply h.le_of_later _ n hold
            exact Timestamp.le_trans hread (Timestamp.le_trans hopened hback)

theorem Spaced.noted {ttl : Span} {notes : List Note} (h : Spaced leaps ttl marks notes)
    (c : Cache α) : Spaced leaps ttl marks (c.held.note ++ notes) := by
  cases c.held with
  | nothing => exact h
  | snapshot items since | failure e since =>
      exact List.pairwise_cons.2 ⟨fun _ _ _ hopened => (nomatch hopened), h⟩

theorem Consulted.spaced (hconsulted : Consulted leaps force r l l')
    (hdue : l.Due leaps marks force) (h : Spaced leaps l.cache.ttl marks l.notes) :
    Spaced leaps l.cache.ttl marks l'.notes := by
  cases hconsulted with
  | hit => exact Spaced.noted h _
  | @fetched _ c notes before now opened since after brought hclock hneeded =>
      obtain ⟨hread, hopened, -⟩ := times_of_fetched hclock
      refine Spaced.noted (List.pairwise_cons.2 ⟨?_, Spaced.noted h c⟩) _
      intro n hn time htime hmarked
      cases htime
      have hover := hdue now hread hneeded n hn hmarked
      have hgoes := Timestamp.onScale_mono (hclock.shown now (by simp)) hopened
      exact Int.le_trans hover hgoes

theorem Followed.noted {notes : List Note} (h : Followed notes) (c : Cache α) :
    Followed (c.held.note ++ notes) := by
  cases c.held with
  | nothing => exact h
  | snapshot items since | failure e since => exact .kept rfl h

theorem Consulted.followed (hconsulted : Consulted leaps force r l l') (h : Followed l.notes) :
    Followed l'.notes := by
  cases hconsulted with
  | hit => exact h.noted _
  | @fetched _ c notes before now opened since after brought hclock hneeded =>
      obtain ⟨-, -, hback, -⟩ := times_of_fetched hclock
      cases brought with
      | ok items => exact .fetched rfl hback (h.noted c)
      | error cause => exact .fetched rfl hback (h.noted c)

theorem Consulted.recovered (hconsulted : Consulted leaps force r l l')
    (hdue : l.Due leaps Note.IsFailure force) (h : l.Recovered leaps) : l'.Recovered leaps := by
  intro items since hheld e failed hfailed
  cases hconsulted with
  | @hit c notes before now after v hclock _ =>
      have hsnapshot : c.held = .snapshot items since := hheld
      have hbefore : Note.failed e failed ∈ notes := by
        simpa [hsnapshot, Held.note] using hfailed
      exact h items since hsnapshot e failed hbefore
  | @fetched _ c notes before now opened back after brought hclock hneeded =>
      cases brought with
      | error cause => cases hheld
      | ok fresh =>
          cases hheld
          obtain ⟨hread, hopened, hback, -⟩ := times_of_fetched hclock
          have hbefore : Note.failed e failed ∈ c.held.note ++ notes := by
            simpa [Cache.settle, Held.note] using hfailed
          have hover := hdue now hread hneeded _ hbefore ⟨e, failed, rfl⟩
          have hgoes := Timestamp.onScale_mono (hclock.shown now (by simp))
            (Timestamp.le_trans hopened hback)
          exact Int.le_trans hover hgoes

/-- A failure that a read tells is held by the cache, and noted. -/
theorem Consulted.told {e : GatewayError} (hconsulted : Consulted leaps force r l l')
    (hr : r = .error (.failed e)) :
    ∃ since notes, l'.cache.held = .failure e since ∧ l'.notes = .failed e since :: notes := by
  cases hconsulted with
  | @hit c notes before now after v hclock hheld =>
      obtain ⟨items, since, hc, rfl⟩ | ⟨e', since, hc, rfl⟩ := Cache.held_of_heldAt? hheld
      · cases hr
      · cases hr
        exact ⟨since, notes, hc, by simp [hc, Held.note]⟩
  | @fetched _ c notes before now opened since after brought hclock hneeded =>
      cases brought with
      | ok items => cases hr
      | error cause =>
          cases hr
          exact ⟨since, _, rfl, rfl⟩

/-- A read that is answered with what was there leaves a snapshot there. -/
theorem Consulted.snapshot {v : Read α} (hconsulted : Consulted leaps force r l l')
    (hr : r = .ok v) (hhit : v.hit = true) :
    ∃ items since, l'.cache.held = .snapshot items since := by
  cases hconsulted with
  | @hit c notes before now after v' hclock hheld =>
      obtain ⟨items, since, hc, rfl⟩ | ⟨e', since, hc, rfl⟩ := Cache.held_of_heldAt? hheld
      · exact ⟨items, since, hc⟩
      · cases hr
  | @fetched _ c notes before now opened since after brought hclock hneeded =>
      cases brought with
      | ok items =>
          cases hr
          cases hhit
      | error cause => cases hr

end

end CheckGateway.Gateway
