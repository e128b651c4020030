/-
A cache is what its history makes it. The history is the reads so far,
with what the clock showed at each and how a fetch would have gone; of the
fetches that were made, the last one that came back decides. While it is
younger than the time to live a read that does not insist gets its outcome
again, a failure too; any other read makes one fetch and gets that one's
outcome. After a fetch that died there is nothing but the poisoned lock.

The cache keeps three kinds of state for this, and the history needs none:
`Told` says that the state is the one the fetches call for.
-/
import CheckGateway.Cache
import Mathlib.Data.List.Basic

namespace CheckGateway.Cache

variable {α : Type} {name : String} {ttl : Span}

-- ======================================================= histories

/-- A read: whether it insists on a fetch, what the clock shows when it
comes, and how a fetch would go. -/
structure Visit (α : Type) where
  force : Bool
  now : Timestamp
  fetch : Fetch α

/-- What a fetch brought back and when; nothing if it died. -/
def Fetch.returned? (f : Fetch α) : Option (Outcome (List α) × Timestamp) :=
  match f.outcome with
  | .ok items => some (.ok items, f.endsAt)
  | .error (.failed e) => some (.error e, f.endsAt)
  | .error .panicked => none

/-- The fetch brought back an error. -/
def Fetch.failed (f : Fetch α) : Bool :=
  match f.returned? with
  | some (.error _, _) => true
  | _ => false

/-- The cache after some reads, the latest first. -/
def after (name : String) (ttl : Span) : List (Visit α) → Cache α
  | [] => ⟨name, ttl, .nothing, {}, false⟩
  | v :: past => ((after name ttl past).get v.force v.now v.fetch).2

/-- The next read runs the fetch. -/
def ran (name : String) (ttl : Span) (past : List (Visit α))
    (v : Visit α) : Bool :=
  (after name ttl past).fetches v.force v.now

/-- What the next read gets. -/
def answer (name : String) (ttl : Span) (past : List (Visit α))
    (v : Visit α) : Except Fault (Read α) :=
  ((after name ttl past).get v.force v.now v.fetch).1

/-- The fetches that were run, the latest first. -/
def fetched (name : String) (ttl : Span) : List (Visit α) → List (Fetch α)
  | [] => []
  | v :: past =>
      if ran name ttl past v then v.fetch :: fetched name ttl past
      else fetched name ttl past

/-- A fetch died. -/
def Dead (name : String) (ttl : Span) (past : List (Visit α)) : Prop :=
  ∃ f ∈ fetched name ttl past, f.returned? = none

/-- What the last fetch that came back brought, and when it did. -/
def last? (name : String) (ttl : Span) (past : List (Visit α)) :
    Option (Outcome (List α) × Timestamp) :=
  (fetched name ttl past).findSome? Fetch.returned?

/-- The read may be answered with what was brought at some time. -/
def Visit.Content (ttl : Span) (v : Visit α) (since : Timestamp) : Prop :=
  v.force = false ∧ Timestamp.nanosBetween since v.now < ttl.nanos

/-- An outcome of a fetch as readers get it. -/
def shown (name : String) (o : Outcome (List α)) (since : Timestamp)
    (hit : Bool) : Outcome (Read α) :=
  match o with
  | .ok items => .ok ⟨items, since, hit⟩
  | .error e => .error (.refreshFailed name e)

/-- What a read that runs the fetch gets. -/
def Fetch.brought (name : String) (f : Fetch α) : Except Fault (Read α) :=
  match f.returned? with
  | some (o, ends) => (shown name o ends false).mapError .failed
  | none => .error .panicked

-- ======================================= what the fetches call for

/-- What a cache holds after a fetch that came back. -/
def kept (name : String) : Option (Outcome (List α) × Timestamp) → Held α
  | none => .nothing
  | some (.ok items, since) => .snapshot items since
  | some (.error e, since) => .failure (.refreshFailed name e) since

/-- The cache is in the state that the fetches, the latest first, call
for. How often it was read shows only in the hits. -/
structure Told (name : String) (ttl : Span) (fs : List (Fetch α))
    (c : Cache α) : Prop where
  name_eq : c.name = name
  ttl_eq : c.ttl = ttl
  poisoned : c.poisoned = true ↔ ∃ f ∈ fs, f.returned? = none
  held : c.held = kept name (fs.findSome? Fetch.returned?)
  misses : c.stats.misses = fs.length
  failures : c.stats.failures = fs.countP Fetch.failed

/-- What the last fetch brought is given again while it is young. -/
theorem Told.heldAt? {fs : List (Fetch α)} {c : Cache α}
    (h : Told name ttl fs c) (now : Timestamp) :
    c.heldAt? now =
      (fs.findSome? Fetch.returned?).bind fun (o, since) =>
        if Timestamp.nanosBetween since now < ttl.nanos then
          some (shown name o since true)
        else none := by
  unfold Cache.heldAt? fresh
  rw [h.held, h.ttl_eq]
  rcases fs.findSome? Fetch.returned? with - | ⟨e | items, since⟩ <;>
    simp [kept, shown]

-- ==================================================== how reads go

variable {c : Cache α} {v : Visit α}

/-- What a cache may answer with is what it holds. -/
theorem held_of_heldAt? {now : Timestamp} {v : Outcome (Read α)}
    (hheld : c.heldAt? now = some v) :
    (∃ items since, c.held = .snapshot items since ∧ v = .ok ⟨items, since, true⟩)
      ∨ ∃ e since, c.held = .failure e since ∧ v = .error e := by
  unfold heldAt? at hheld
  split at hheld
  next => cases hheld
  next items since hc =>
    split at hheld
    · exact .inl ⟨items, since, hc, (Option.some.inj hheld).symm⟩
    · cases hheld
  next e since hc =>
    split at hheld
    · exact .inr ⟨e, since, hc, (Option.some.inj hheld).symm⟩
    · cases hheld

theorem get_poisoned (h : c.poisoned = true) :
    c.get v.force v.now v.fetch
      = (.error (.failed (.lockPoisoned (lockName c.name))), c) := by
  simp [get, h]

theorem get_held {r : Outcome (Read α)} (hp : c.poisoned = false)
    (hf : v.force = false) (hr : c.heldAt? v.now = some r) :
    c.get v.force v.now v.fetch = (r.mapError .failed, c.countHit) := by
  simp [get, hp, hf, hr]

/-- A read that fetches is settled with what the fetch brought. -/
theorem get_returned {o : Outcome (List α)} {ends : Timestamp}
    (h : c.fetches v.force v.now = true)
    (hr : v.fetch.returned? = some (o, ends)) :
    c.get v.force v.now v.fetch
      = ((c.countMiss.settle o ends).1.mapError .failed,
          (c.countMiss.settle o ends).2) := by
  obtain ⟨hp, hn⟩ : c.poisoned = false ∧
      (if v.force then none else c.heldAt? v.now) = none := by
    cases hforce : v.force <;> simp_all [fetches]
  unfold Fetch.returned? at hr
  unfold get
  rw [if_neg (by simp [hp]), hn]
  split at hr <;> simp_all

/-- A read whose fetch dies poisons the cache. -/
theorem get_died (h : c.fetches v.force v.now = true)
    (hr : v.fetch.returned? = none) :
    c.get v.force v.now v.fetch
      = (.error .panicked, { c.countMiss with poisoned := true }) := by
  obtain ⟨hp, hn⟩ : c.poisoned = false ∧
      (if v.force then none else c.heldAt? v.now) = none := by
    cases hforce : v.force <;> simp_all [fetches]
  unfold Fetch.returned? at hr
  unfold get
  rw [if_neg (by simp [hp]), hn]
  split at hr <;> simp_all

/-- What a cache answers without a fetch it gave before, and it lives. -/
theorem not_fetches (hp : c.poisoned = false)
    (h : c.fetches v.force v.now = false) :
    v.force = false ∧ ∃ r, c.heldAt? v.now = some r := by
  unfold fetches at h
  cases hh : c.heldAt? v.now <;> simp_all

-- ============================================ one read more is told

/-- Any read leaves the cache in the state that the fetches call for,
the read's own among them if it was run. -/
theorem Told.read {fs : List (Fetch α)} (h : Told name ttl fs c)
    (v : Visit α) :
    Told name ttl (if c.fetches v.force v.now then v.fetch :: fs else fs)
      (c.get v.force v.now v.fetch).2 := by
  obtain ⟨hname, httl, hpoisoned, hheld, hmisses, hfailures⟩ := h
  by_cases hrun : c.fetches v.force v.now = true
  · rw [if_pos hrun]
    rcases hr : v.fetch.returned? with - | ⟨e | items, ends⟩
    · -- the fetch dies, and what the cache held is there for nobody
      rw [get_died hrun hr]
      exact ⟨hname, httl, by simp [hr], by simpa [hr, countMiss] using hheld,
        by simp [countMiss, hmisses],
        by simpa [countMiss, Fetch.failed, hr] using hfailures⟩
    · rw [get_returned hrun hr]
      exact ⟨hname, httl, by simpa [hr, settle, countMiss] using hpoisoned,
        by simp [hr, settle, kept, refreshFailure, countMiss, hname],
        by simp [settle, countMiss, hmisses],
        by simp [settle, countMiss, Fetch.failed, hr, hfailures]⟩
    · rw [get_returned hrun hr]
      exact ⟨hname, httl, by simpa [hr, settle, countMiss] using hpoisoned,
        by simp [hr, settle, kept],
        by simp [settle, countMiss, hmisses],
        by simpa [settle, countMiss, Fetch.failed, hr] using hfailures⟩
  · rw [if_neg hrun]
    by_cases hp : c.poisoned = true
    · rw [get_poisoned hp]
      exact ⟨hname, httl, hpoisoned, hheld, hmisses, hfailures⟩
    · obtain ⟨hf, r, hr⟩ := not_fetches (by simpa using hp) (by simpa using hrun)
      rw [get_held (by simpa using hp) hf hr]
      exact ⟨hname, httl, hpoisoned, hheld, hmisses, hfailures⟩

/-- After any reads the cache is as its fetches call for. -/
theorem told_after (name : String) (ttl : Span) (past : List (Visit α)) :
    Told name ttl (fetched name ttl past) (after name ttl past) := by
  induction past with
  | nil => exact ⟨rfl, rfl, by simp [after, fetched], rfl, rfl, rfl⟩
  | cons v past ih => exact ih.read v

-- ==================================== failures that it keeps

/-- A failure that a cache holds is one of its refreshes, told as such. -/
def Genuine (name : String) (c : Cache α) : Prop :=
  c.name = name ∧ ∀ e since, c.held = .failure e since → ∃ cause, e = .refreshFailed name cause

theorem Genuine.countHit (h : Genuine name c) : Genuine name c.countHit := h

theorem Genuine.countMiss (h : Genuine name c) : Genuine name c.countMiss := h

theorem Genuine.settle (h : Genuine name c) (o : Outcome (List α)) (since : Timestamp) :
    Genuine name (c.settle o since).2 := by
  refine ⟨?_, fun e time hheld => ?_⟩
  · cases o <;> exact h.1
  · cases o with
    | ok items => cases hheld
    | error cause =>
        cases hheld
        exact ⟨cause, congrArg (GatewayError.refreshFailed · cause) h.1⟩

-- ===================================================== the answers

variable {past : List (Visit α)}

theorem after_cons : after name ttl (v :: past)
    = ((after name ttl past).get v.force v.now v.fetch).2 := rfl

/-- The lock is poisoned once a fetch has died, and not before. -/
theorem poisoned_iff_dead :
    (after name ttl past).poisoned = true ↔ Dead name ttl past :=
  (told_after name ttl past).poisoned

theorem sound_of_alive (h : ¬ Dead name ttl past) :
    (after name ttl past).poisoned = false := by
  rw [← poisoned_iff_dead] at h
  simpa using h

/-- After a fetch that died a read changes nothing. -/
theorem get_of_dead (h : Dead name ttl past) :
    ran name ttl past v = false ∧
      answer name ttl past v
        = .error (.failed (.lockPoisoned (lockName name))) ∧
      after name ttl (v :: past) = after name ttl past := by
  have hp := poisoned_iff_dead.mpr h
  have hname := (told_after name ttl past).name_eq
  unfold ran answer
  rw [after_cons, get_poisoned hp, hname]
  exact ⟨by simp [fetches, hp], rfl, rfl⟩

/-- A young outcome is given again and nothing is run. -/
theorem get_of_content {o : Outcome (List α)} {since : Timestamp}
    (h : ¬ Dead name ttl past) (hlast : last? name ttl past = some (o, since))
    (hc : v.Content ttl since) :
    ran name ttl past v = false ∧
      answer name ttl past v = (shown name o since true).mapError .failed := by
  have hp := sound_of_alive h
  have hheld : (after name ttl past).heldAt? v.now
      = some (shown name o since true) := by
    rw [(told_after name ttl past).heldAt?]
    change (last? name ttl past).bind _ = _
    simp [hlast, hc.2]
  unfold ran answer
  rw [get_held hp hc.1 hheld]
  exact ⟨by simp [fetches, hp, hc.1, hheld], rfl⟩

/-- Any other read runs the fetch and gets what it brought. -/
theorem get_of_discontent (h : ¬ Dead name ttl past)
    (hlast : ∀ o since, last? name ttl past = some (o, since) →
      ¬ v.Content ttl since) :
    ran name ttl past v = true ∧
      answer name ttl past v = v.fetch.brought name := by
  have hp := sound_of_alive h
  have hname : (after name ttl past).countMiss.name = name :=
    (told_after name ttl past).name_eq
  have hrun : ran name ttl past v = true := by
    by_contra hrun
    obtain ⟨hf, r, hr⟩ := not_fetches hp (by simpa [ran] using hrun)
    rw [(told_after name ttl past).heldAt?] at hr
    change (last? name ttl past).bind _ = _ at hr
    rcases heq : last? name ttl past with - | ⟨o, since⟩
    · simp [heq] at hr
    · apply hlast o since heq
      refine ⟨hf, ?_⟩
      by_contra hold
      simp [heq, hold] at hr
  refine ⟨hrun, ?_⟩
  unfold answer Fetch.brought
  rcases hr : v.fetch.returned? with - | ⟨e | items, ends⟩
  · rw [get_died hrun hr]
  · rw [get_returned hrun hr]
    simp [settle, shown, refreshFailure, hname]
  · rw [get_returned hrun hr]
    simp [settle, shown]

/-- A snapshot that was kept is the last thing that a fetch brought, so
it is never older than a failure. -/
theorem last_of_hit {items : List α} {since : Timestamp}
    (h : answer name ttl past v = .ok ⟨items, since, true⟩) :
    last? name ttl past = some (.ok items, since) := by
  by_cases hdead : Dead name ttl past
  · rw [(get_of_dead hdead).2.1] at h
    cases h
  by_cases hlast : ∀ o since, last? name ttl past = some (o, since) →
      ¬ v.Content ttl since
  · rw [(get_of_discontent hdead hlast).2] at h
    unfold Fetch.brought at h
    rcases hr : v.fetch.returned? with - | ⟨e | items, ends⟩ <;>
      simp [hr, shown, Except.mapError] at h
  · push Not at hlast
    obtain ⟨o, r, hlast, hc⟩ := hlast
    rw [(get_of_content hdead hlast hc).2] at h
    rcases o with e | items <;> simp [shown, Except.mapError] at h
    simp [hlast, h]

-- ==================================================== the counters

/-- A read of a cache that lives is a hit or a miss. -/
theorem reads_counted (h : ¬ Dead name ttl past) :
    (after name ttl (v :: past)).stats.hits
        + (after name ttl (v :: past)).stats.misses
      = (after name ttl past).stats.hits
        + (after name ttl past).stats.misses + 1 := by
  have hp := sound_of_alive h
  rw [after_cons]
  by_cases hrun : (after name ttl past).fetches v.force v.now = true
  · rcases hr : v.fetch.returned? with - | ⟨e | items, ends⟩
    · rw [get_died hrun hr]
      simp [countMiss, Nat.add_assoc]
    · rw [get_returned hrun hr]
      simp [settle, countMiss, Nat.add_assoc]
    · rw [get_returned hrun hr]
      simp [settle, countMiss, Nat.add_assoc]
  · obtain ⟨hf, r, hr⟩ := not_fetches hp (by simpa using hrun)
    rw [get_held hp hf hr]
    simp only [countHit]
    omega

/-- A cache does not come back to life. -/
theorem Dead.cons (h : Dead name ttl past) : Dead name ttl (v :: past) := by
  obtain ⟨f, hf, hr⟩ := h
  refine ⟨f, ?_, hr⟩
  unfold fetched
  split
  · exact List.mem_cons_of_mem _ hf
  · exact hf

/-- While no fetch has died every read is counted once. -/
theorem reads_of_alive (h : ¬ Dead name ttl past) :
    (after name ttl past).stats.hits + (after name ttl past).stats.misses
      = past.length := by
  induction past with
  | nil => rfl
  | cons v past ih =>
    have hpast : ¬ Dead name ttl past := fun hd => h hd.cons
    rw [reads_counted hpast, ih hpast, List.length_cons]

/-- The reads counted are those up to the one whose fetch died. -/
theorem reads_of_dead {later earlier : List (Visit α)} {d : Visit α}
    (halive : ¬ Dead name ttl earlier) (hdead : Dead name ttl (d :: earlier)) :
    (after name ttl (later ++ d :: earlier)).stats.hits
        + (after name ttl (later ++ d :: earlier)).stats.misses
      = earlier.length + 1 := by
  have hkept : Dead name ttl (later ++ d :: earlier) ∧
      after name ttl (later ++ d :: earlier) = after name ttl (d :: earlier) := by
    induction later with
    | nil => exact ⟨hdead, rfl⟩
    | cons v later ih =>
      exact ⟨ih.1.cons, (get_of_dead ih.1).2.2.trans ih.2⟩
  rw [hkept.2, reads_counted halive, reads_of_alive halive]

-- ================================================ the specification

/-- A cache is what its history makes it, whatever the clock does, however
the fetches go and however long the history is. -/
theorem read_follows_history (name : String) (ttl : Span)
    (past : List (Visit α)) (v : Visit α) :
    -- after a fetch that died nothing is run and nothing changes
    (Dead name ttl past →
      ran name ttl past v = false ∧
      answer name ttl past v
        = .error (.failed (.lockPoisoned (lockName name))) ∧
      after name ttl (v :: past) = after name ttl past) ∧
    -- what the last fetch that came back brought is given while it is young
    (∀ o since, ¬ Dead name ttl past → last? name ttl past = some (o, since) →
      v.Content ttl since →
      ran name ttl past v = false ∧
      answer name ttl past v = (shown name o since true).mapError .failed) ∧
    -- any other read runs the fetch and gets what that brought
    (¬ Dead name ttl past →
      (∀ o since, last? name ttl past = some (o, since) →
        ¬ v.Content ttl since) →
      ran name ttl past v = true ∧
      answer name ttl past v = v.fetch.brought name) ∧
    -- so a snapshot that was kept is the last outcome there is
    (∀ items since, answer name ttl past v = .ok ⟨items, since, true⟩ →
      last? name ttl past = some (.ok items, since)) ∧
    -- misses and failures are counted off the fetches
    (after name ttl past).stats.misses = (fetched name ttl past).length ∧
    (after name ttl past).stats.failures
      = (fetched name ttl past).countP Fetch.failed ∧
    -- and hits with misses off the reads, the one that died included
    (¬ Dead name ttl past →
      (after name ttl past).stats.hits + (after name ttl past).stats.misses
        = past.length) ∧
    (∀ later d earlier, past = later ++ d :: earlier →
      ¬ Dead name ttl earlier → Dead name ttl (d :: earlier) →
      (after name ttl past).stats.hits + (after name ttl past).stats.misses
        = earlier.length + 1) := by
  have htold := told_after name ttl past
  refine ⟨get_of_dead, fun o since halive hlast hc =>
    get_of_content halive hlast hc, get_of_discontent,
    fun items since hanswer => last_of_hit hanswer, htold.misses,
    htold.failures, reads_of_alive, ?_⟩
  · intro later d earlier hpast halive hdead
    subst hpast
    exact reads_of_dead halive hdead

/-- A fetch fails at second twelve; at second three the failure is still
young, and the fetch that would go well is not made. -/
theorem failure_kept_when_clock_goes_back :
    answer "active jobs" (60000 : Nat)
        [⟨false, ⟨10, 0⟩, ⟨.error (.failed (.network "ops" "reset")), ⟨12, 0⟩⟩⟩]
        ⟨false, ⟨3, 0⟩, ⟨.ok [7], ⟨4, 0⟩⟩⟩
      = .error (.failed (.refreshFailed "active jobs" (.network "ops" "reset"))) :=
  ((read_follows_history "active jobs" (60000 : Nat) _ _).2.1
    (.error (.network "ops" "reset")) ⟨12, 0⟩
    (by simp [Dead, fetched, ran, after, fetches, heldAt?, Fetch.returned?])
    rfl ⟨rfl, by decide⟩).2

/-- The same failure is too old after a minute, and the next fetch dies. -/
example :
    let failed : Visit Nat :=
      ⟨false, ⟨10, 0⟩, ⟨.error (.failed (.network "ops" "reset")), ⟨12, 0⟩⟩⟩
    let died : Visit Nat := ⟨false, ⟨72, 0⟩, ⟨.error .panicked, ⟨80, 0⟩⟩⟩
    let next : Visit Nat := ⟨true, ⟨90, 0⟩, ⟨.ok [7], ⟨90, 0⟩⟩⟩
    answer "active jobs" (60000 : Nat) [failed] died = .error .panicked ∧
      answer "active jobs" (60000 : Nat) [died, failed] next
        = .error (.failed (.lockPoisoned "active jobs cache")) ∧
      (after "active jobs" (60000 : Nat) [next, died, failed]).stats
        = ⟨0, 2, 1⟩ := by
  decide

end CheckGateway.Cache
