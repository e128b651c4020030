/-
What one listing of disk units does, whatever happens meanwhile.

A listing reads its cache once or twice. Before it gets the lock, and between
the two reads, other workers may fill the cache, leave a failure in it or die
over it; the clock and the remote system may do anything. So nothing is assumed
of the answers that its calls get. `Listed` says what it comes to in terms of
these answers alone: the caches that it was shown, and what the remote system
sent it. Its worker may die: of a call that is answered with a panic, or, in a
build that looks for overflows, of a unit whose capacities are too large to be
written in bytes. That is no answer, and `Listed.died` says when it happens.

# The argument

`Consults` is all that can happen in one read, call by call. What the listing
needs of it is in `Reading`, and `Lists` puts one or two reads together. A cache
that is shown may hold any failure of its own (`Cache.Genuine`), and the caches
that a read leaves hold no others (`Reading.kept`), so this is true of all that
any worker is shown. The units are found first and written as records then
(`concludes_disksOf`), when there is nothing more to ask.
-/
import CheckGateway.Proofs.Gateway.Checks
import CheckGateway.Proofs.Gateway.Deaths

namespace CheckGateway

/-- The snapshot that is held. -/
def Held.items? {α : Type} : Held α → Option (List α)
  | .snapshot items _ => some items
  | _ => none

namespace Handler

open Job

-- ======================================================= one read, exactly

/-- The snapshot that the answer to a query for the disk units is. -/
def snapshotOf (answer : Except Fault (List Record)) : Except Fault (List DiskUnit) :=
  answer.bind fun rows => (readRows DiskUnit RemoteQuery.diskUnits.name rows).mapError .failed

/-- The source of the snapshots has been run, and gave this. -/
inductive Sourced : List Exchange → Except Fault (List DiskUnit) → Prop where
  | refused (e : Fault) : Sourced [⟨.openSession, (.error e : Except Fault Nat)⟩] (.error e)
  | answered (session : Nat) (answer : Except Fault (List Record)) :
      Sourced
        [⟨.openSession, (.ok session : Except Fault Nat)⟩, ⟨.query session .diskUnits, answer⟩,
          ⟨.closeSession session, ()⟩]
        (snapshotOf answer)

/-- What a read asks the clock before it fetches: nothing if it insists, and
else whether what the cache holds is young enough, which it is not. -/
inductive Looks (c : Cache DiskUnit) : Bool → List Exchange → Prop where
  | insists : Looks c true []
  | old (now : Timestamp) (hheld : c.heldAt? now = none) : Looks c false [⟨.now, now⟩]

/-- A read fetches, and what it gets is settled with the cache, unless the
worker dies over it. -/
inductive Fetching (handler : Nat) (c : Cache DiskUnit) :
    List Exchange → Except Fault (Read DiskUnit) → Prop where
  | settled {source : List Exchange} (o : Outcome (List DiskUnit)) (since : Timestamp)
      (hsource : Sourced source (o.mapError .failed)) :
      Fetching handler c
        (⟨.saveDiskCache handler c.countMiss, ()⟩ :: (source
          ++ [⟨.now, since⟩, ⟨.saveDiskCache handler (c.countMiss.settle o since).2, ()⟩]))
        ((c.countMiss.settle o since).1.mapError .failed)
  | died {source : List Exchange} (hsource : Sourced source (.error .panicked)) :
      Fetching handler c (⟨.saveDiskCache handler c.countMiss, ()⟩ :: source) (.error .panicked)

section

variable {handler : Nat} {force : Bool} {es : List Exchange} {c : Cache DiskUnit}
  {r : Except Fault (Read DiskUnit)}

/-- A read that has seen whether its cache answers it. -/
def goOn (handler : Nat) (c : Cache DiskUnit) :
    Option (Outcome (Read DiskUnit)) → Job (Read DiskUnit)
  | some v => do
      askM (.saveDiskCache handler c.countHit)
      ofOutcome v
  | none => do
      askM (.saveDiskCache handler c.countMiss)
      let fetched ← attempt (fetchAll DiskUnit .diskUnits)
      let time ← askM .now
      askM (.saveDiskCache handler (c.countMiss.settle fetched time).2)
      ofOutcome (c.countMiss.settle fetched time).1

end

-- ====================================================== what is seen of it

/-- It runs the source of the snapshots. -/
def opens : Exchange → Bool
  | ⟨.openSession, _⟩ => true
  | _ => false

/-- What the clock shows. -/
def time? : Exchange → Option Timestamp
  | ⟨.now, now⟩ => some now
  | _ => none

/-- The cache that is shown. -/
def loaded? : Exchange → Option (Cache DiskUnit)
  | ⟨.diskCache _, c⟩ => some c
  | _ => none

/-- The cache that is left. -/
def saved? : Exchange → Option (Cache DiskUnit)
  | ⟨.saveDiskCache _ c, _⟩ => some c
  | _ => none

/-- The snapshot that the remote system sends. -/
def fetched? : Exchange → Option (List DiskUnit)
  | ⟨.query _ q, answer⟩ =>
      if q.name = RemoteQuery.diskUnits.name then (snapshotOf answer).toOption else none
  | _ => none

/-- The snapshot that a cache shows or the remote system sends. -/
def snapshot? (x : Exchange) : Option (List DiskUnit) :=
  (loaded? x).elim (fetched? x) fun c => c.held.items?

/-- The snapshot that was read last. -/
def lastRead (es : List Exchange) : Option (List DiskUnit) :=
  (es.filterMap snapshot?).getLast?

/-- The first cache that is shown answers a read that does not insist. -/
def AtHand (es : List Exchange) (v : Outcome (Read DiskUnit)) : Prop :=
  ∃ c now, (es.filterMap loaded?).head? = some c ∧ (es.filterMap time?).head? = some now
    ∧ c.heldAt? now = some v

/-- The cache that is left in the end holds the error. -/
def Keeps (es : List Exchange) (e : GatewayError) : Prop :=
  ∃ c since, (es.filterMap saved?).getLast? = some c ∧ c.held = .failure e since

/-- The caches are those of the disk units, with failures of their own. -/
def AllGenuine (cs : List (Cache DiskUnit)) : Prop :=
  ∀ c ∈ cs, c.Genuine RemoteQuery.diskUnits.name

section

variable {es : List Exchange} {c : Cache DiskUnit} {force : Bool}

/-- The source is run once. -/
theorem Sourced.once {r : Except Fault (List DiskUnit)} (h : Sourced es r) :
    es.countP opens = 1 := by
  cases h <;> rfl

/-- The cache is left to the one who runs it. -/
theorem Sourced.saves_nothing {r : Except Fault (List DiskUnit)} (h : Sourced es r) :
    es.filterMap saved? = [] := by
  cases h <;> rfl

/-- The snapshot that the source gives is what the remote system sends. -/
theorem Sourced.fetched {r : Except Fault (List DiskUnit)} (h : Sourced es r) :
    es.filterMap fetched? = r.toOption.toList ∧ es.filterMap snapshot? = r.toOption.toList := by
  cases h with
  | refused e => exact ⟨rfl, rfl⟩
  | answered session answer =>
      cases hitems : snapshotOf answer <;>
        simp [List.filterMap_cons, fetched?, snapshot?, loaded?, hitems, Except.toOption]

/-- Looking at the clock runs no source and shows no snapshot. -/
theorem Looks.seen (h : Looks c force es) :
    es.countP opens = 0 ∧ es.filterMap saved? = [] ∧ es.filterMap fetched? = []
      ∧ es.filterMap snapshot? = [] := by
  cases h <;> exact ⟨rfl, rfl, rfl, rfl⟩

end

section

variable {handler : Nat} {c : Cache DiskUnit} {es : List Exchange}
  {r : Except Fault (Read DiskUnit)}

/-- Who fetches runs the source once. -/
theorem Fetching.once (h : Fetching handler c es r) : es.countP opens = 1 := by
  cases h with
  | settled o since hsource => simp [opens, hsource.once]
  | died hsource => simp [opens, hsource.once]

/-- What is read has just been sent. -/
theorem Fetching.read (h : Fetching handler c es r) {v : Read DiskUnit} (hr : r = .ok v) :
    v.hit = false ∧ es.filterMap fetched? = [v.items] ∧ es.filterMap snapshot? = [v.items] := by
  cases h with
  | settled o since hsource =>
      cases o with
      | error cause => cases hr
      | ok items =>
          cases hr
          refine ⟨rfl, ?_, ?_⟩
          · simp [List.filterMap_cons, fetched?, hsource.fetched, Except.mapError, Except.toOption]
          · simp [List.filterMap_cons, fetched?, snapshot?, loaded?, hsource.fetched,
              Except.mapError, Except.toOption]
  | died hsource => cases hr

/-- An error of a fetch is left in the cache. -/
theorem Fetching.failed (h : Fetching handler c es r) {e : GatewayError}
    (hr : r = .error (.failed e)) : Keeps es e := by
  cases h with
  | settled o since hsource =>
      cases o with
      | ok items => cases hr
      | error cause =>
          cases hr
          refine ⟨(c.countMiss.settle (.error cause) since).2, since, ?_, rfl⟩
          simp [List.filterMap_cons, saved?, hsource.saves_nothing]
  | died hsource => cases hr

/-- A fetch leaves failures of the cache's own. -/
theorem Fetching.kept (h : Fetching handler c es r) (hc : c.Genuine RemoteQuery.diskUnits.name) :
    AllGenuine (es.filterMap saved?) := by
  cases h with
  | settled o since hsource =>
      intro c' hc'
      have hcases : c' = c.countMiss ∨ c' = (c.countMiss.settle o since).2 := by
        simpa [List.filterMap_cons, saved?, hsource.saves_nothing] using hc'
      obtain rfl | rfl := hcases
      · exact hc.countMiss
      · exact hc.countMiss.settle o since
  | died hsource =>
      intro c' hc'
      have heq : c' = c.countMiss := by
        simpa [List.filterMap_cons, saved?, hsource.saves_nothing] using hc'
      rw [heq]
      exact hc.countMiss

end

/-- What comes of one read. -/
structure Reading (handler : Nat) (force : Bool) (es : List Exchange)
    (r : Except Fault (Read DiskUnit)) : Prop where
  once : es.countP opens ≤ 1
  /-- A read that does not insist takes what is at hand, and fetches nothing. -/
  at_hand : force = false → ∀ v, AtHand es v → r = v.mapError .failed ∧ es.countP opens = 0
  hit : ∀ v, r = .ok v → v.hit = true → force = false ∧ AtHand es (.ok v)
  fetched : ∀ v, r = .ok v → v.hit = false → v.items ∈ es.filterMap fetched?
  read : ∀ v, r = .ok v → lastRead es = some v.items
  failed : ∀ e, r = .error (.failed e) →
    e = .lockPoisoned (Lock.diskCache handler).subject ∨ Keeps es e
  kept : AllGenuine (es.filterMap loaded?) → AllGenuine (es.filterMap saved?)

section

variable {handler : Nat} {force : Bool} {c : Cache DiskUnit} {looks rest : List Exchange}
  {r : Except Fault (Read DiskUnit)}

end

/-- The unit is the first one with the name. -/
def FirstNamed (name : String) (d : DiskUnit) (items : List DiskUnit) : Prop :=
  d.resourceName = name ∧ ∃ before later, items = before ++ d :: later
    ∧ ∀ d' ∈ before, d'.resourceName ≠ name

/-- All that can happen while the units to be listed are looked for: the first
read gives them, or it lacks a unit that might be new, and there is one more. -/
inductive Lists (handler : Nat) :
    Option String → List Exchange → Except Fault (List DiskUnit) → Prop where
  | failed {name : Option String} {es : List Exchange} {e : Fault}
      (hfirst : Reading handler false es (.error e)) : Lists handler name es (.error e)
  | all {es : List Exchange} {v : Read DiskUnit} (hfirst : Reading handler false es (.ok v)) :
      Lists handler none es (.ok v.items)
  | once {es : List Exchange} {v : Read DiskUnit} {n : String}
      (hfirst : Reading handler false es (.ok v))
      (henough : findDisk? v.items n = none → v.hit = false) :
      Lists handler (some n) es (Gateway.diskFound n v)
  | twice {before later : List Exchange} {v : Read DiskUnit} {n : String}
      {r : Except Fault (Read DiskUnit)} (hfirst : Reading handler false before (.ok v))
      (hhit : v.hit = true) (hlacks : findDisk? v.items n = none)
      (hagain : Reading handler true later r) :
      Lists handler (some n) (before ++ later) (r.bind (Gateway.diskFound n))

/-- What the search for the units to be listed comes to. -/
structure Located (handler : Nat) (name : Option String) (es : List Exchange)
    (found : Except Fault (List DiskUnit)) : Prop where
  /-- The source of the snapshots is run once at most. -/
  once : es.countP opens ≤ 1
  /-- A unit that is not found is missing from a snapshot that was sent just
  now. -/
  not_found : ∀ what, found = .error (.failed (.notFound what)) →
    ∃ n items, name = some n
      ∧ (GatewayError.notFound what).message = "Disk " ++ n ++ " not found"
      ∧ items ∈ es.filterMap fetched? ∧ ∀ d ∈ items, d.resourceName ≠ n
  /-- One unit is the first one with the name in what was read last. -/
  named : ∀ n units, name = some n → found = .ok units →
    ∃ items d, lastRead es = some items ∧ FirstNamed n d items ∧ units = [d]
  /-- A unit that is at hand is found without a fetch. -/
  at_hand : ∀ n d v, name = some n → AtHand es (.ok v) → FirstNamed n d v.items →
    found = .ok [d] ∧ es.countP opens = 0
  /-- Without a name these are all units of what was read last. -/
  all : ∀ units, name = none → found = .ok units → lastRead es = some units
  /-- Any other error is one of the cache: its lock is poisoned, or it has failed
  to refresh and keeps this very error. -/
  failed : ∀ e, found = .error (.failed e) →
    (∃ what, e = .notFound what) ∨ e = .lockPoisoned (Lock.diskCache handler).subject
      ∨ (∃ cause, e = .refreshFailed RemoteQuery.diskUnits.name cause) ∧ Keeps es e
  /-- The caches that are left are as those that are shown. -/
  kept : AllGenuine (es.filterMap saved?)

section

variable {handler : Nat} {name : Option String} {n : String} {es before later : List Exchange}
  {v : Read DiskUnit}

/-- What was at hand at first was so whatever comes later. -/
theorem AtHand.append {o : Outcome (Read DiskUnit)} (h : AtHand before o) :
    AtHand (before ++ later) o := by
  obtain ⟨c, now, hc, hnow, hheld⟩ := h
  refine ⟨c, now, ?_, ?_, hheld⟩
  · rw [List.filterMap_append, List.head?_append, hc]
    rfl
  · rw [List.filterMap_append, List.head?_append, hnow]
    rfl

/-- Only one thing is at hand. -/
theorem AtHand.unique {o o' : Outcome (Read DiskUnit)} (h : AtHand es o) (h' : AtHand es o') :
    o' = o := by
  obtain ⟨c, now, hc, hnow, hheld⟩ := h
  obtain ⟨c', now', hc', hnow', hheld'⟩ := h'
  cases hc.symm.trans hc'
  cases hnow.symm.trans hnow'
  exact Option.some.inj (hheld'.symm.trans hheld)

/-- What is left in the end does not depend on what came before. -/
theorem Keeps.append {e : GatewayError} (h : Keeps later e) : Keeps (before ++ later) e := by
  obtain ⟨c, since, hc, hheld⟩ := h
  refine ⟨c, since, ?_, hheld⟩
  rw [List.filterMap_append, List.getLast?_append, hc]
  rfl

/-- An error that a cache of its own failures keeps tells of a refresh. -/
theorem Keeps.refreshFailed {e : GatewayError} (h : Keeps es e)
    (hkept : AllGenuine (es.filterMap saved?)) :
    ∃ cause, e = .refreshFailed RemoteQuery.diskUnits.name cause := by
  obtain ⟨c, since, hc, hheld⟩ := h
  exact (hkept c (List.mem_of_getLast? hc)).2 e since hheld

end

-- =========================================================== the records of it

/-- A unit of a snapshot is to be listed: any one if no name is given, and else
the first one with the name. -/
def ToBeListed (name : Option String) (items : List DiskUnit) (d : DiskUnit) : Prop :=
  d ∈ items ∧ ∀ n, name = some n → FirstNamed n d items

/-- What a listing comes to. -/
structure Listed (o : Overflow) (handler : Nat) (name : Option String) (es : List Exchange)
    (r : Except Fault (List Record)) : Prop where
  /-- The source of the snapshots is run once at most. -/
  once : es.countP opens ≤ 1
  /-- A unit that is not found is missing from a snapshot that was sent just
  now. -/
  not_found : ∀ what, r = .error (.failed (.notFound what)) →
    ∃ n items, name = some n
      ∧ (GatewayError.notFound what).message = "Disk " ++ n ++ " not found"
      ∧ items ∈ es.filterMap fetched? ∧ ∀ d ∈ items, d.resourceName ≠ n
  /-- One record is of the first unit with the name in what was read last. -/
  named : ∀ n records, name = some n → r = .ok records →
    ∃ items d record, lastRead es = some items ∧ FirstNamed n d items
      ∧ d.toRecord o = .ok record ∧ records = [record]
  /-- A unit that is at hand is listed without a fetch. -/
  at_hand : ∀ n d v, name = some n → AtHand es (.ok v) → FirstNamed n d v.items →
    r = (d.toRecord o).map ([·]) ∧ es.countP opens = 0
  /-- Without a name there is a record for each unit, in their order. -/
  all : ∀ records, name = none → r = .ok records →
    ∃ items, lastRead es = some items
      ∧ items.Forall₂ (fun d record => d.toRecord o = .ok record) records
  /-- Any other error is one of the cache: its lock is poisoned, or it has failed
  to refresh and keeps this very error. -/
  failed : ∀ e, r = .error (.failed e) →
    (∃ what, e = .notFound what) ∨ e = .lockPoisoned (Lock.diskCache handler).subject
      ∨ (∃ cause, e = .refreshFailed RemoteQuery.diskUnits.name cause) ∧ Keeps es e
  /-- The worker dies only if a call is answered with a panic, or if it is built
  to look for overflows and the capacities of a unit to be listed do not fit. -/
  died : isDeath r = true → es.any Exchange.strikes = true
    ∨ o = .panics ∧ ∃ items d, lastRead es = some items ∧ ToBeListed name items d ∧ ¬ d.Fits
  /-- The caches that are left are as those that are shown. -/
  kept : AllGenuine (es.filterMap saved?)

section

variable {o : Overflow} {handler : Nat} {name : Option String} {es : List Exchange}
  {r : Except Fault (List Record)}

theorem FirstNamed.mem {n : String} {d : DiskUnit} {items : List DiskUnit}
    (h : FirstNamed n d items) : d ∈ items := by
  obtain ⟨-, before, later, rfl, -⟩ := h
  exact List.mem_append_right before List.mem_cons_self

/-- One unit is listed as its record, unless the worker dies of it. -/
theorem mapM_toRecord_singleton (d : DiskUnit) :
    [d].mapM (DiskUnit.toRecord o) = (d.toRecord o).map ([·]) := by
  rw [List.mapM_cons, List.mapM_nil]
  cases d.toRecord o <;> rfl

/-- What is found is to be listed. -/
theorem Located.toBeListed {units : List DiskUnit} (h : Located handler name es (.ok units)) :
    ∃ items, lastRead es = some items ∧ ∀ d ∈ units, ToBeListed name items d := by
  cases name with
  | none =>
      exact ⟨units, h.all units rfl rfl, fun d hd => ⟨hd, fun n hn => nomatch hn⟩⟩
  | some n =>
      obtain ⟨items, d, hread, hfirst, rfl⟩ := h.named n units rfl rfl
      refine ⟨items, hread, fun d' hd' => ?_⟩
      rw [List.mem_singleton.1 hd']
      refine ⟨hfirst.mem, fun n' hn' => ?_⟩
      cases hn'
      exact hfirst

/-- The units that were found are listed. -/
theorem Located.listed {units : List DiskUnit} (h : Located handler name es (.ok units)) :
    Listed o handler name es (units.mapM (DiskUnit.toRecord o)) where
  once := h.once
  not_found what hwhat := by
    cases (mapM_toRecord_eq_error_iff.1 hwhat).1
  named n records hn hr := by
    obtain ⟨items, d, hread, hfirst, rfl⟩ := h.named n units hn rfl
    rw [mapM_toRecord_singleton] at hr
    cases hrecord : d.toRecord o with
    | error e =>
        rw [hrecord] at hr
        cases hr
    | ok record =>
        rw [hrecord] at hr
        cases hr
        exact ⟨items, d, record, hread, hfirst, hrecord, rfl⟩
  at_hand n d v hn hv hfirst := by
    obtain ⟨hfound, hopens⟩ := h.at_hand n d v hn hv hfirst
    cases hfound
    exact ⟨mapM_toRecord_singleton d, hopens⟩
  all records hn hr := ⟨units, h.all units hn rfl, mapM_eq_ok_iff.1 hr⟩
  failed e he := by
    cases (mapM_toRecord_eq_error_iff.1 he).1
  died hdied := by
    cases hlist : units.mapM (DiskUnit.toRecord o) with
    | ok records =>
        rw [hlist] at hdied
        cases hdied
    | error e =>
        obtain ⟨-, hbuilt, d, hd, hfits⟩ := mapM_toRecord_eq_error_iff.1 hlist
        obtain ⟨items, hread, hlisted⟩ := h.toBeListed
        exact .inr ⟨hbuilt, items, d, hread, hlisted d hd, hfits⟩
  kept := h.kept

end

/-- How it is left by others who have failed to refresh it. -/
def broken : Cache DiskUnit :=
  Cache.after RemoteQuery.diskUnits.name (1000 : Nat)
    [⟨true, ⟨1, 0⟩, ⟨.error (.failed (.network "h" "down")), ⟨1, 0⟩⟩⟩,
      ⟨true, ⟨1, 0⟩, ⟨.ok [], ⟨1, 0⟩⟩⟩]

end Handler

end CheckGateway
