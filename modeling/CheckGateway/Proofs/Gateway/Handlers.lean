/-
What the handlers that a tenant keeps come to, and what they leave behind.

What a handler keeps is behind a lock, and the system handler is made under the
lock of its slot. What is done under these locks is light, so it comes to what the
outlook says. From this it follows how a job ends that goes through a handler
(`Handled`): if a lock on the way to it is poisoned, in an error that says so; if
not, such a lock is poisoned afterwards exactly if the worker has died. With no
cache fresh and no lock poisoned, a handler gives what one that has just been made
would give.

The handlers of caches are in `Shelves`; those that keep nothing are obtained there
too.
-/
import CheckGateway.Proofs.Gateway.Making
import CheckGateway.Proofs.Gateway.Stock

namespace CheckGateway

open Job (Call Same isDeath)

-- ========================================================== light handlers

/-- The queries of the checks that go through handlers which keep something. -/
def RemoteQuery.kept : Set String := {"activeJobs", "diskUnits", "systemStatus", "systemPools"}

namespace Job

section

variable {α β : Type} {Q : RemoteQuery → Prop} {M : Set WatermarkKey} {s : Nat} {q : RemoteQuery}

theorem light_withSession {body : Nat → Job α}
    (h : ∀ s, (body s).run.Makes (Call.Light Q M)) :
    (withSession body).run.Makes (Call.Light Q M) :=
  makes_withSession trivial (fun _ => trivial) h

end

end Job

namespace Handler

open Job

section

variable {Q : RemoteQuery → Prop} {M : Set WatermarkKey} {q : RemoteQuery} {s : Nat}

theorem light_fetchAll {α : Type} [RowShape α] (hq : Q q) :
    (fetchAll α q).run.Makes (Call.Light Q M) :=
  light_withSession fun _ => makes_fetch hq

theorem light_pollCall (hlength : ∀ path, Q (.messageQueueLength path))
    (hpage : ∀ path offset count, Q (.messageQueuePage path offset count)) (c : Tail.Call) :
    (pollCall s c).Makes (Call.Light Q Set.univ) :=
  makes_pollCall (fun key => Set.mem_univ key) (fun key _ => Set.mem_univ key) hlength hpage c

theorem light_systemExchange (h : Nat) (hq : Q q) :
    (systemExchange h q).run.Makes (Call.Light Q M) := by
  refine ⟨trivial, fun s => ?_⟩
  refine makes_andThen (makes_attempt (makes_query hq)) fun r => ?_
  match r with
  | .ok rows => exact trivial
  | .error e =>
      dsimp only
      split
      · refine ⟨trivial, fun opened => ?_⟩
        match opened with
        | .error e => exact trivial
        | .ok s' => exact ⟨trivial, fun _ => ⟨trivial, fun _ => makes_query hq⟩⟩
      · exact trivial

end

end Handler

namespace Outlook

open Job

section

variable {α β : Type} {o o' : Outlook}

theorem run_andThen (o : Outlook) (job : Job α) (f : α → Job β) :
    o.run (job >>= f).run =
      match (o.run job.run).1 with
      | .ok a => (o.run job.run).2.run (f a).run
      | .error e => (.error e, (o.run job.run).2) := by
  show o.run (job.run.bind _) = _
  rw [run_bind]
  cases (o.run job.run).1 <;> rfl

theorem run_andThen_ok {job : Job α} {a : α}
    (h : o.run job.run = (.ok a, o')) (f : α → Job β) :
    o.run (job >>= f).run = o'.run (f a).run := by
  rw [run_andThen, h]

theorem run_withLock (o : Outlook) (l : Lock) (body : Job α) :
    o.run (withLock l body).run = o.run body.run := by
  show o.run (body.run.bind _) = _
  rw [run_bind]
  rfl

/-- What an attempt comes to. -/
theorem run_attempt (o : Outlook) (job : Job α) :
    o.run (attempt job).run =
      ((match (o.run job.run).1 with
        | .ok a => .ok (.ok a)
        | .error (.failed e) => .ok (.error e)
        | .error .panicked => .error .panicked), (o.run job.run).2) := by
  show o.run (job.run.bind _) = _
  rw [run_bind]
  match (o.run job.run).1 with
  | .ok a => rfl
  | .error (.failed e) => rfl
  | .error .panicked => rfl

theorem snd_run_attempt (o : Outlook) (job : Job α) :
    (o.run (attempt job).run).2 = (o.run job.run).2 := by
  rw [run_attempt]

theorem run_of_attempted {job : Job α} {b : Outcome α}
    (h : (o.run (attempt job).run).1 = .ok b) : (o.run job.run).1 = b.mapError .failed := by
  rw [run_attempt] at h
  cases hjob : (o.run job.run).1 with
  | ok a =>
      rw [hjob] at h
      cases h
      rfl
  | error e =>
      rw [hjob] at h
      cases e <;> cases h
      rfl

/-- An attempt ends in nothing but the death of the worker. -/
theorem panicked_of_attempted {job : Job α} {e : Fault}
    (h : (o.run (attempt job).run).1 = .error e) :
    e = .panicked ∧ (o.run job.run).1 = .error .panicked := by
  rw [run_attempt] at h
  cases hjob : (o.run job.run).1 with
  | ok a =>
      rw [hjob] at h
      cases h
  | error e' =>
      rw [hjob] at h
      cases e' <;> cases h
      exact ⟨rfl, rfl⟩

end

end Outlook

namespace Gateway

open Job Handler

-- ============================================================ how they end

/-- How a job ends that goes through the handler of a kind. -/
structure Handled {α : Type} (kind : HandlerKind) (o : Outlook) (x : Tenant)
    (usual r : Except Fault α) (o' : Outlook) (y : Tenant) : Prop where
  outlook : Outlook.Agree RemoteQuery.kept o o'
  locked : y.locked = x.locked
  stocked : y.Stocked
  others : ∀ other ≠ kind, y.broken? other = x.broken? other
  /-- A lock that is poisoned stays so, and the answer names it. -/
  refused : ∀ l, x.broken? kind = some l →
    r = .error (.failed (.lockPoisoned l.subject)) ∧ y.broken? kind = some l
  /-- Otherwise it takes the death of the worker to poison one. -/
  broke : x.broken? kind = none → (y.broken? kind).isSome = isDeath r
  value : x.broken? kind = none → x.Stale o.clock → ScriptedRemote.refusal? o.script = none →
    r = usual

section

variable {α β : Type} {kind : HandlerKind} {o o' : Outlook} {x y z : Tenant}
  {usual r : Except Fault α} {h : Nat} {l : Lock}

theorem Handled.of_undisturbed (h : Handled kind o y usual r o' z) (hsame : x.Undisturbed y) :
    Handled kind o x usual r o' z := by
  have hbroken := hsame.broken?
  refine ⟨h.outlook, h.locked.trans hsame.locked, h.stocked,
    fun other hother => (h.others other hother).trans (hbroken other), ?_, ?_, ?_⟩
  · rw [← hbroken]
    exact h.refused
  · rw [← hbroken]
    exact h.broke
  · rw [← hbroken]
    exact fun hsound hstale => h.value hsound (hsame.stale _ hstale)

theorem Handled.sameStock (h : Handled kind o x usual r o' y) (hsame : y.SameStock z) :
    Handled kind o x usual r o' z := by
  refine ⟨h.outlook, hsame.locked.trans h.locked, hsame.stocked h.stocked, ?_, ?_, ?_, h.value⟩
  · exact fun other hother => (hsame.broken? other).trans (h.others other hother)
  · rw [hsame.broken?]
    exact h.refused
  · rw [hsame.broken?]
    exact h.broke

/-- What is made of the value afterwards makes no difference if nobody dies over
it. -/
theorem Handled.bind {f : α → Except Fault β} (h : Handled kind o x usual r o' y)
    (hlives : ∀ a, isDeath (f a) = false) :
    Handled kind o x (usual.bind f) (r.bind f) o' y := by
  refine ⟨h.outlook, h.locked, h.stocked, h.others, fun l hl => ?_, fun hsound => ?_,
    fun hsound hstale hopens => by rw [h.value hsound hstale hopens]⟩
  · obtain ⟨hr, hbroken⟩ := h.refused l hl
    rw [hr]
    exact ⟨rfl, hbroken⟩
  · rw [h.broke hsound]
    match r with
    | .ok a => exact (hlives a).symm
    | .error (.failed e) => rfl
    | .error .panicked => rfl

/-- A second job through the handler, after one that went well but not as
usual. -/
theorem Handled.trans {first : α} {usual' : Except Fault β} {usual'' r' : Except Fault β}
    {o'' : Outlook} (h : Handled kind o x usual (.ok first) o' y) (hunusual : usual ≠ .ok first)
    (h' : Handled kind o' y usual' r' o'' z) : Handled kind o x usual'' r' o'' z := by
  have hsound : x.broken? kind = none := by
    cases hbroken : x.broken? kind with
    | none => rfl
    | some l => exact nomatch (h.refused l hbroken).1
  have hsound' : y.broken? kind = none := by
    have hnot := h.broke hsound
    rwa [show isDeath (.ok first : Except Fault α) = false from rfl,
      Option.isSome_eq_false_iff, Option.isNone_iff_eq_none] at hnot
  refine ⟨h.outlook.trans h'.outlook, h'.locked.trans h.locked, h'.stocked,
    fun other hother => (h'.others other hother).trans (h.others other hother),
    fun l hl => ?_, fun _ => h'.broke hsound', fun _ hstale hopens => ?_⟩
  · rw [hsound] at hl
    cases hl
  · exact absurd (h.value hsound hstale hopens).symm hunusual

-- ============================================================ under a lock

/-- What is kept of a kind is behind a lock. -/
structure Guarded (x : Tenant) (kind : HandlerKind) (h : Nat) (l : Lock) : Prop where
  sound : (x.slots.get kind).poisoned = false
  handler : (x.slots.get kind).handler = some h
  guard : kind.guard? h = some l

theorem Guarded.broken?_eq (hguarded : Guarded x kind h l) :
    x.broken? kind = if x.isPoisoned l then some l else none := by
  unfold Tenant.broken?
  rw [hguarded.sound, hguarded.handler, if_neg Bool.false_ne_true]
  show Option.filter _ (kind.guard? h) = _
  rw [hguarded.guard, Option.filter_some]

/-- Nobody gets past a poisoned lock. -/
theorem handled_of_broken (hstocked : x.Stocked) (hbroken : x.broken? kind = some l) :
    Handled kind o x usual (.error (.failed (.lockPoisoned l.subject))) o x := by
  refine ⟨.refl o, rfl, hstocked, fun _ _ => rfl, fun l' hl' => ?_, fun hsound => ?_,
    fun hsound => ?_⟩
  · rw [hbroken] at hl'
    cases hl'
    exact ⟨rfl, hbroken⟩
  · rw [hbroken] at hsound
    cases hsound
  · rw [hbroken] at hsound
    cases hsound

theorem Guarded.refused (hguarded : Guarded x kind h l) (hstocked : x.Stocked)
    (hpoisoned : x.isPoisoned l = true) :
    Handled kind o x usual (.error (.failed (.lockPoisoned l.subject))) o x := by
  refine handled_of_broken hstocked ?_
  rw [hguarded.broken?_eq, if_pos hpoisoned]

/-- What has been done under a lock, which is poisoned then if the worker has
died. -/
theorem Guarded.handled (hguarded : Guarded x kind h l) (hsound : x.isPoisoned l = false)
    (houtlook : Outlook.Agree RemoteQuery.kept o o') (hslots : y.slots = x.slots)
    (hlocked : y.locked = x.locked) (hstocked : y.Stocked)
    (hdeath : y.isPoisoned l = isDeath r)
    (hothers : ∀ l' ≠ l, y.isPoisoned l' = x.isPoisoned l')
    (hvalue : x.Stale o.clock → ScriptedRemote.refusal? o.script = none → r = usual) :
    Handled kind o x usual r o' y := by
  have hguarded' : Guarded y kind h l := by
    refine ⟨?_, ?_, hguarded.guard⟩
    · rw [hslots]
      exact hguarded.sound
    · rw [hslots]
      exact hguarded.handler
  refine ⟨houtlook, hlocked, hstocked, fun other hother => ?_, fun l' hl' => ?_, fun _ => ?_,
    fun _ => hvalue⟩
  · unfold Tenant.broken?
    rw [hslots]
    cases (x.slots.get other).handler with
    | none => rfl
    | some k =>
        show ite _ _ (Option.filter _ (other.guard? k)) = ite _ _ (Option.filter _ (other.guard? k))
        cases hguard : other.guard? k with
        | none => rfl
        | some l' =>
            have hne := guard_ne hother hguarded.guard hguard
            rw [Option.filter_some, Option.filter_some, hothers l' hne]
  · rw [hguarded.broken?_eq, hsound] at hl'
    cases hl'
  · rw [hguarded'.broken?_eq, hdeath]
    cases isDeath r <;> rfl

end

-- ======================================================== handlers obtained

/-- There is a handler now, and the tenant is as it was otherwise. -/
structure Provided (kind : HandlerKind) (h : Nat) (x y : Tenant) : Prop where
  undisturbed : x.Undisturbed y
  sound : (y.slots.get kind).poisoned = false
  handler : (y.slots.get kind).handler = some h

section

variable {x y : Tenant} {kind : HandlerKind} {h : Nat} {l : Lock}

/-- It was there already. -/
theorem provided_present (hsound : (x.slots.get kind).poisoned = false)
    (hhandler : (x.slots.get kind).handler = some h) (hsame : (x.lock l).SameStock y) :
    Provided kind h x (y.unlock l false) := by
  have hback := hsame.unlock l false
  rw [Tenant.unlock_lock] at hback
  refine ⟨hback.undisturbed, ?_, ?_⟩
  · rw [hback.slots]
    exact hsound
  · rw [hback.slots]
    exact hhandler

/-- It is made under a lock. -/
theorem Filled.provided {f : Tenant → Tenant} (hfilled : Filled kind h x (f x))
    (hf : ∀ L, f { x with locked := L } = { f x with locked := L })
    (hsound : (x.slots.get kind).poisoned = false) (hempty : (x.slots.get kind).handler = none)
    (hsame : (f (x.lock l)).SameStock y) : Provided kind h x (y.unlock l false) := by
  have hback := hsame.unlock l false
  rw [unlock_change hf] at hback
  refine ⟨(hfilled.undisturbed hsound hempty).trans hback.undisturbed, ?_, ?_⟩
  · rw [hback.slots, hfilled.slot, if_pos rfl]
    exact hsound
  · rw [hback.slots, hfilled.slot, if_pos rfl]

end

-- =========================================================== the system handler

section

variable {α β : Type} {o : Outlook} {x : Tenant} {usual : Except Fault α} {h : Nat}
  {q : RemoteQuery}

/-- A system handler has been obtained, or not. -/
structure Obtained (o : Outlook) (x : Tenant) (r : Except Fault Nat) (o' : Outlook) (y : Tenant) :
    Prop where
  outlook : o' = o
  ok : ∀ h, r = .ok h → Provided .system h x y
  error : ∀ e, r = .error e → ∀ {α : Type} (usual : Except Fault α),
    Handled .system o x usual (.error e) o y

/-- No session is opened, so the slot stays empty, or is poisoned. -/
theorem handled_unopened (hstocked : x.Stocked) (hbroken : x.broken? .system = none) {e : Fault}
    (he : ScriptedRemote.refusal? o.script = some e) :
    Handled .system o x usual (.error e) o
      ((x.lock (.slot .system)).unlock (.slot .system) (isDeath (.error e : Except Fault β))) := by
  have hrefused {l : Lock} (hl : x.broken? .system = some l) : False := by
    rw [hbroken] at hl
    cases hl
  have hopens (h : ScriptedRemote.refusal? o.script = none) : False := by
    rw [h] at he
    cases he
  cases e with
  | failed e =>
      rw [show isDeath (.error (.failed e) : Except Fault β) = false from rfl, Tenant.unlock_lock]
      refine ⟨.refl o, rfl, hstocked, fun _ _ => rfl, fun l hl => (hrefused hl).elim, fun _ => ?_,
        fun _ _ h => (hopens h).elim⟩
      rw [hbroken]
      rfl
  | panicked =>
      rw [show isDeath (.error .panicked : Except Fault β) = true from rfl, Tenant.poison_lock]
      refine ⟨.refl o, rfl, stocked_poison_slot hstocked, fun other hother => ?_,
        fun l hl => (hrefused hl).elim, fun _ => ?_, fun _ _ h => (hopens h).elim⟩
      · rw [broken?_poison_slot, if_neg hother]
      · rw [broken?_poison_slot, if_pos rfl]
        rfl

theorem yields_obtainSystem (hlocked : x.locked = []) (hstocked : x.Stocked) :
    Yields o x obtainSystem.run (Obtained o x) := by
  refine yields_withLock (by rw [hlocked]; exact List.not_mem_nil) (fun hpoisoned => ?_)
    fun hsound => ?_
  · refine ⟨rfl, nofun, fun e he {α} usual => ?_⟩
    cases he
    exact handled_of_broken hstocked (if_pos hpoisoned)
  · have hsound : (x.slots.get .system).poisoned = false := hsound
    have hobtained {h : Nat} {y : Tenant} (hprovided : Provided .system h x y) :
        Obtained o x (.ok h) o y := by
      refine ⟨rfl, fun k hk => ?_, nofun⟩
      cases hk
      exact hprovided
    refine yields_look (a := (x.slots.get .system).handler) (fun g t _ => rfl) ?_
    cases hhandler : (x.slots.get .system).handler with
    | some h =>
        exact yields_hold fun y hsame =>
          yields_done (hobtained (provided_present hsound hhandler hsame))
    | none =>
        refine yields_openSession (fun _ s => ?_) fun e he => yields_done ?_
        · refine yields_change fun g t => ⟨x.systems.length, _, rfl, ?_⟩
          refine yields_hold fun y hsame => yields_done (hobtained ?_)
          have hfilled := filled_system (x := x) (s := ⟨some s, 0, false⟩) rfl
          exact hfilled.provided (f := fun z =>
            { z.fill .system x.systems.length with systems := z.systems ++ [⟨some s, 0, false⟩] })
            (fun _ => rfl) hsound hhandler hsame
        · have hbroken : x.broken? .system = none := by
            unfold Tenant.broken?
            rw [hsound, hhandler]
            rfl
          refine ⟨rfl, nofun, fun e' he' {α} usual => ?_⟩
          cases he'
          exact handled_unopened hstocked hbroken he

/-- Which handler it is does not matter. -/
theorem run_systemExchange (o : Outlook) (h : Nat) (q : RemoteQuery) :
    o.run (systemExchange h q).run = o.run (systemExchange 0 q).run := by
  show o.run (attempt (query 0 q) >>= _ : Job _).run = o.run (attempt (query 0 q) >>= _ : Job _).run
  rw [Outlook.run_andThen, Outlook.run_andThen]
  cases (o.run (attempt (query 0 q)).run).1 with
  | error e => rfl
  | ok r =>
      cases r with
      | ok rows => rfl
      | error e =>
          dsimp only
          split
          · show Outlook.run _ (openSession >>= _ : Job _).run
              = Outlook.run _ (openSession >>= _ : Job _).run
            rw [Outlook.run_andThen, Outlook.run_andThen]
            cases (Outlook.run _ openSession.run).1 <;> rfl
          · rfl

/-- A query over the session of a system handler. -/
theorem yields_systemQuery (hguarded : Guarded x .system h (.systemSession h))
    (hlocked : x.locked = []) (hstocked : x.Stocked) (hq : q.name ∈ RemoteQuery.kept) :
    Yields o x (systemQuery h q).run
      (Handled .system o x (o.run (systemExchange 0 q).run).1) := by
  rw [systemQuery_eq]
  refine yields_withLock (by rw [hlocked]; exact List.not_mem_nil)
    (fun hpoisoned => hguarded.refused hstocked hpoisoned) fun hsound => ?_
  have hlight := light_systemExchange (Q := fun q => q.name ∈ RemoteQuery.kept) (M := ∅) h hq
  refine (yields_light (same_systemExchange (K := ∅) (L := []) h q) hlight).mono ?_
  intro r o' y hpost
  obtain ⟨hr, rfl, hstock⟩ := hpost
  have hsame := hstock.unlock (.systemSession h) (isDeath r)
  refine Handled.sameStock (y := (x.lock _).unlock (.systemSession h) (isDeath r)) ?_ hsame
  have hvalue : r = (o.run (systemExchange 0 q).run).1 := by rw [hr, run_systemExchange]
  have houtlook := Outlook.agree_run (o := o) hlight
  cases hdeath : isDeath r with
  | false =>
      rw [Tenant.unlock_lock]
      refine hguarded.handled hsound houtlook rfl rfl hstocked ?_ (fun _ _ => rfl) fun _ _ => hvalue
      rw [hsound, hdeath]
  | true =>
      rw [Tenant.poison_lock]
      have hh : h < x.systems.length := hstocked.kept .system h hguarded.handler
      refine hguarded.handled hsound houtlook rfl rfl (stocked_poison_session hstocked) ?_
        (fun l hl => ?_) fun _ _ => hvalue
      · rw [isPoisoned_poison_session hh, if_pos rfl, hdeath]
      · rw [isPoisoned_poison_session hh, if_neg hl]

/-- A handler that was used is let go of. -/
theorem yields_holding {body : Job α} {post : Except Fault α → Outlook → Tenant → Prop}
    (h : Yields o x body.run post)
    (hstock : ∀ r o' y z, post r o' y → y.SameStock z → post r o' z) (k : Nat) :
    Yields o x (holding k body).run post := by
  refine h.bind fun r o' y hpost => yields_letGo fun z hsame => yields_done ?_
  exact hstock r o' y z hpost hsame

end

end Gateway

end CheckGateway
