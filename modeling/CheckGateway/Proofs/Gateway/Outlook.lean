/-
What a job makes of what it is shown.

Apart from its tenant a job notices three things: the script of the remote
system, the clock and the watermarks. They are its outlook. `Outlook.run`
plays a routine over an outlook alone, as if for a tenant that keeps nothing:
every lock is free, every slot is empty, every cache is new. It is what a
routine would come to just after its tenant was made.

`Yields` is about a job of a tenant as it is: from what it is shown and from
what the tenant keeps it follows how the job ends, what is shown then, and
what the tenant keeps then. Nobody else is at work, and no query is held up.

# What is shown here

There is a rule for each call, and one for what is done under a lock
(`yields_withLock`). A routine that asks nothing of what its tenant keeps is
*light*. It ends as over its outlook alone, and leaves what the tenant keeps
(`yields_twins`). The numbers of its sessions are others then, so it is
compared with a twin. From these, what the handlers yield is put together.
-/
import CheckGateway.Proofs.Gateway.Serving

namespace CheckGateway

-- ======================================================== the remote system

/-- The answer to a query, and the script from then on: a failure that comes
once is used up. -/
def Script.reply (s : Script) (q : RemoteQuery) : Except Fault (List Record) × Script :=
  match s.failOnce.get? q.name with
  | some (e :: later) =>
      (.error (.failed e), { s with failOnce := s.failOnce.insert q.name later })
  | _ => (s.answer q, s)

/-- A query over a connected session is answered from the script. -/
theorem ScriptedRemote.send_connected {r : ScriptedRemote}
    (hungated : ∀ name, r.gateOf.get? name = none) {s : Nat} (hs : s ∈ r.connected)
    (q : RemoteQuery) :
    ∃ r', r.send s q = (.answered (r.script.reply q).1, r')
      ∧ r'.script = (r.script.reply q).2 := by
  have hconnected : (r.record (.queried s q)).connected.contains s = true :=
    List.contains_iff_mem.2 hs
  obtain ⟨r', haccept, hsame⟩ := accept_ungated (r := r.record (.queried s q)) hungated q
  unfold send Script.reply
  dsimp only
  rw [if_pos hconnected, haccept, show (r.record (.queried s q)).script = r.script from rfl]
  cases r.script.failOnce.get? q.name with
  | none => exact ⟨r', rfl, hsame.script⟩
  | some failures =>
      cases failures with
      | nil => exact ⟨r', rfl, hsame.script⟩
      | cons e later => exact ⟨_, rfl, rfl⟩

-- ================================================================= outlooks

/-- What a job can notice apart from its tenant. -/
structure Outlook where
  script : Script
  clock : Timestamp
  marks : WatermarkKey → Option QueuedMessage

/-- What jobs are shown. -/
def Gateway.outlook (g : Gateway) : Outlook :=
  ⟨g.remote.script, g.clock, fun key => g.watermarks.get? key⟩

namespace Outlook

open Job (Call)

/-- What a call comes to for a tenant that keeps nothing. -/
def perform : (c : Call) → Outlook → Job.Answer c × Outlook
  | .now, o => (o.clock, o)
  | .openSession, o => ((ScriptedRemote.refusal? o.script).elim (.ok (0 : Nat)) .error, o)
  | .query _ q, o =>
      ((o.script.reply q).1, { o with script := (o.script.reply q).2 })
  | .watermark key, o => (o.marks key, o)
  | .note key entry, o => ((), { o with marks := Function.update o.marks key (some entry) })
  | .acquire _, o => (true, o)
  | .handler _, o => ((none : Option Nat), o)
  | .install _, o => ((0 : Nat), o)
  | .installSystem _, o => ((0 : Nat), o)
  | .jobCache _, o => (⟨RemoteQuery.activeJobs.name, (0 : Nat), .nothing, {}, false⟩, o)
  | .diskCache _, o => (⟨RemoteQuery.diskUnits.name, (0 : Nat), .nothing, {}, false⟩, o)
  | .session _, o => ((0 : Nat), o)
  | .closeSession _, o | .release .., o | .saveJobCache .., o | .saveDiskCache .., o
  | .replaceSession .., o | .hold _, o | .letGo _, o => ((), o)

/-- Plays a routine over an outlook alone. -/
def run {α : Type} (o : Outlook) (r : JobRoutine α) : α × Outlook := Routine.run perform r o

section

variable {α β : Type}

@[simp]
theorem run_done (o : Outlook) (a : α) : o.run (.done a) = (a, o) := rfl

@[simp]
theorem run_call (o : Outlook) (c : Call) (next : Job.Answer c → JobRoutine α) :
    o.run (.call c next) = (perform c o).2.run (next (perform c o).1) := rfl

@[simp]
theorem run_bind (o : Outlook) (r : JobRoutine α) (f : α → JobRoutine β) :
    o.run (r.bind f) = (o.run r).2.run (f (o.run r).1) := Routine.run_bind ..

theorem clock_perform (o : Outlook) (c : Call) : (perform c o).2.clock = o.clock := by
  cases c <;> rfl

/-- No time passes. -/
theorem clock_run (o : Outlook) (r : JobRoutine α) : (o.run r).2.clock = o.clock := by
  induction r generalizing o with
  | done a => rfl
  | call c next ih => exact (ih _ _).trans (clock_perform o c)

end

/-- The same, but for failures still to come once in answers to some
queries. -/
structure Agree (N : Set String) (o o' : Outlook) : Prop where
  script : o'.script = { o.script with failOnce := o'.script.failOnce }
  failures : ∀ name ∉ N, o'.script.failOnce.get? name = o.script.failOnce.get? name
  clock : o'.clock = o.clock
  marks : o'.marks = o.marks

end Outlook

-- ================================================ what a tenant keeps

namespace Tenant

/-- The tenant keeps the same, but for the sessions and the users of its
system handlers. -/
structure SameStock (x y : Tenant) : Prop where
  slots : y.slots = x.slots
  jobCaches : y.jobCaches = x.jobCaches
  diskCaches : y.diskCaches = x.diskCaches
  locked : y.locked = x.locked
  systems : y.systems.map SystemHandler.poisoned = x.systems.map SystemHandler.poisoned

section

variable {x y z : Tenant}

theorem SameStock.refl (x : Tenant) : x.SameStock x := ⟨rfl, rfl, rfl, rfl, rfl⟩

theorem SameStock.trans (h : x.SameStock y) (h' : y.SameStock z) : x.SameStock z :=
  ⟨h'.slots.trans h.slots, h'.jobCaches.trans h.jobCaches, h'.diskCaches.trans h.diskCaches,
    h'.locked.trans h.locked, h'.systems.trans h.systems⟩

theorem sameStock_modify {f : SystemHandler → SystemHandler}
    (hf : ∀ s, (f s).poisoned = s.poisoned) (h : Nat) :
    x.SameStock { x with systems := x.systems.modify h f } := by
  refine ⟨rfl, rfl, rfl, rfl, ?_⟩
  apply List.ext_getElem?
  intro k
  simp only [List.getElem?_map, List.getElem?_modify]
  cases x.systems[k]? with
  | none => rfl
  | some s =>
      by_cases heq : h = k
      · simp [heq, hf]
      · simp [heq]

theorem sameStock_disown (x : Tenant) : x.SameStock x.disown := by
  refine ⟨rfl, rfl, rfl, rfl, ?_⟩
  apply List.ext_getElem?
  intro k
  unfold disown
  simp only [List.getElem?_map, List.getElem?_zipIdx]
  cases x.systems[k]? with
  | none => rfl
  | some s =>
      simp only [Option.map_some, Nat.zero_add]
      split <;> rfl

end

end Tenant

-- ============================================================ light calls

namespace Job

/-- A call that asks nothing of what the tenant keeps and leaves it as it is.
If it is a query, it is one of some, and so are the watermarks. -/
def Call.Light (Q : RemoteQuery → Prop) (M : Set WatermarkKey) : Call → Prop
  | .query _ q => Q q
  | .watermark key | .note key _ => key ∈ M
  | .now | .openSession | .closeSession _ | .session _ | .replaceSession .. | .hold _
  | .letGo _ => True
  | _ => False

end Job

namespace Outlook

open Job (Call)

section

variable {N : Set String} {o o' o'' : Outlook} {q : RemoteQuery} {α : Type}
  {r : JobRoutine α}

theorem Agree.refl (o : Outlook) : Agree N o o := ⟨rfl, fun _ _ => rfl, rfl, rfl⟩

theorem Agree.symm (h : Agree N o o') : Agree N o' o := by
  refine ⟨?_, fun name hname => (h.failures name hname).symm, h.clock.symm, h.marks.symm⟩
  rw [h.script]

theorem Agree.trans (h : Agree N o o') (h' : Agree N o' o'') : Agree N o o'' := by
  refine ⟨?_, fun name hname => (h'.failures name hname).trans (h.failures name hname),
    h'.clock.trans h.clock, h'.marks.trans h.marks⟩
  rw [h'.script, h.script]

/-- Whether a session is opened is agreed on. -/
theorem Agree.refusal? (h : Agree N o o') :
    ScriptedRemote.refusal? o'.script = ScriptedRemote.refusal? o.script := by
  rw [h.script]
  rfl

/-- A query that is sent uses up failures of its own only. -/
theorem agree_reply (hq : q.name ∈ N) :
    Agree N o { o with script := (o.script.reply q).2 } := by
  unfold Script.reply
  split
  next e later hfail =>
    refine ⟨rfl, fun name hname => ?_, rfl, rfl⟩
    show Table.get? (Table.insert _ _ _) name = _
    rw [Table.get?_insert, if_neg fun heq : name = q.name => hname (heq ▸ hq)]
  next => exact .refl o

/-- Another query is answered alike. -/
theorem Agree.reply (h : Agree N o o') (hq : q.name ∉ N) :
    (o'.script.reply q).1 = (o.script.reply q).1
      ∧ Agree N { o with script := (o.script.reply q).2 }
        { o' with script := (o'.script.reply q).2 } := by
  have hanswer : o'.script.answer q = o.script.answer q := by
    rw [h.script]
    rfl
  unfold Script.reply
  rw [h.failures _ hq]
  split
  next e later _ =>
    refine ⟨rfl, ?_, fun name hname => ?_, h.clock, h.marks⟩
    · show ({ o'.script with failOnce := _ } : Script) = _
      rw [h.script]
    · show Table.get? (Table.insert _ _ _) name = Table.get? (Table.insert _ _ _) name
      rw [Table.get?_insert, Table.get?_insert, h.failures name hname]
  next => exact ⟨hanswer, h⟩

/-- A light routine that sends some queries only, and is about no watermark,
leaves all else as it is. -/
theorem agree_run (hlight : r.Makes (Call.Light (fun q => q.name ∈ N) ∅)) :
    Agree N o (o.run r).2 := by
  induction r generalizing o with
  | done a => exact .refl o
  | call c next ih =>
      refine Agree.trans ?_ (ih _ (hlight.2 _))
      cases c with
      | query s q => exact agree_reply hlight.1
      | note key entry => exact absurd hlight.1 (Set.notMem_empty key)
      | _ => exact .refl o

/-- A light routine that sends none of these queries does the same over
outlooks that agree. -/
theorem Agree.run {M : Set WatermarkKey} (h : Agree N o o')
    (hlight : r.Makes (Call.Light (fun q => q.name ∉ N) M)) :
    (o'.run r).1 = (o.run r).1 ∧ Agree N (o.run r).2 (o'.run r).2 := by
  induction r generalizing o o' with
  | done a => exact ⟨rfl, h⟩
  | call c next ih =>
      have hstep : (perform c o').1 = (perform c o).1
          ∧ Agree N (perform c o).2 (perform c o').2 := by
        cases c with
        | query s q => exact h.reply hlight.1
        | now => exact ⟨h.clock, h⟩
        | openSession => exact ⟨congrArg (Option.elim · _ _) h.refusal?, h⟩
        | watermark key => exact ⟨congrFun h.marks key, h⟩
        | note key entry =>
            refine ⟨rfl, h.script, h.failures, h.clock, ?_⟩
            exact congrArg (Function.update · key (some entry)) h.marks
        | _ => exact ⟨rfl, h⟩
      rw [run_call, run_call, hstep.1]
      exact ih _ hstep.2 (hlight.2 _)

end

end Outlook

namespace Gateway

open Job (Call Grip Obeys Same Twins)

/-- Over an outlook, and in a tenant that keeps something, a job that is alone
at work ends with a value, an outlook and a tenant as said, and with its hands
as it should. -/
def Yields {α : Type} (o : Outlook) (x : Tenant) (r : JobRoutine α)
    (post : α → Outlook → Tenant → Prop) : Prop :=
  ∀ (p : Post) (G : Grip) (g : Gateway) (mid : α → Grip → Prop), g.outlook = o →
    (∀ name, g.remote.gateOf.get? name = none) → Works p G g x → Obeys r mid G →
    ∃ a y g' G', advance p.tenant none r g = ((.done a, none), g') ∧ Works p G' g' y
      ∧ mid a G' ∧ Confined p.tenant g g' ∧ post a g'.outlook y

section

variable {α β : Type} {o : Outlook} {x y : Tenant} {post : α → Outlook → Tenant → Prop}
  {c : Call} {next : Job.Answer c → JobRoutine α}

theorem advance_bind {t : Nat} {g g' : Gateway} {r : JobRoutine α} {a : α}
    (h : advance t none r g = ((.done a, none), g')) (f : α → JobRoutine β) :
    advance t none (r.bind f) g = advance t none (f a) g' := by
  induction r generalizing g with
  | done b =>
      cases h
      rfl
  | call c next ih =>
      rw [advance] at h
      cases hx : g.tenants[t]? with
      | none =>
          rw [hx] at h
          cases h
      | some x =>
          rw [hx] at h
          cases hperform : g.perform t x none c with
          | answered b g₁ =>
              rw [show (Routine.call c next).bind f = .call c fun b => (next b).bind f from rfl,
                advance_call hx hperform]
              dsimp only at h
              rw [hperform] at h
              exact ih b h
          | waits gate g₁ =>
              dsimp only at h
              rw [hperform] at h
              cases h

theorem yields_done {a : α} (h : post a o x) : Yields o x (.done a) post := by
  intro p G g mid ho hungated hworks hobeys
  exact ⟨a, x, g, G, rfl, hworks, hobeys, .refl g, ho ▸ h⟩

theorem Yields.mono {r : JobRoutine α} {post' : α → Outlook → Tenant → Prop}
    (h : Yields o x r post) (himp : ∀ a o' y, post a o' y → post' a o' y) :
    Yields o x r post' := by
  intro p G g mid ho hungated hworks hobeys
  obtain ⟨a, y, g', G', hadvance, hworks', hmid, hconfined, hpost⟩ :=
    h p G g mid ho hungated hworks hobeys
  exact ⟨a, y, g', G', hadvance, hworks', hmid, hconfined, himp _ _ _ hpost⟩

/-- A routine followed by one that depends on its value. -/
theorem Yields.bind {r : JobRoutine β} {f : β → JobRoutine α}
    {between : β → Outlook → Tenant → Prop} (h : Yields o x r between)
    (hf : ∀ b o' y, between b o' y → Yields o' y (f b) post) : Yields o x (r.bind f) post := by
  intro p G g mid ho hungated hworks hobeys
  obtain ⟨b, y, g₁, G₁, hadvance, hworks₁, hobeys₁, hconfined, hbetween⟩ :=
    h p G g _ ho hungated hworks hobeys.of_bind
  obtain ⟨a, z, g₂, G₂, hadvance₂, hworks₂, hmid, hconfined₂, hpost⟩ :=
    hf b _ y hbetween p G₁ g₁ mid rfl (hconfined.gates ▸ hungated) hworks₁ hobeys₁
  exact ⟨a, z, g₂, G₂, (advance_bind hadvance f).trans hadvance₂, hworks₂, hmid,
    hconfined.trans hconfined₂, hpost⟩

/-- A job followed by one that depends on its value. -/
theorem Yields.andThen {job : Job β} {f : β → Job α}
    {between : Except Fault β → Outlook → Tenant → Prop}
    {post : Except Fault α → Outlook → Tenant → Prop} (h : Yields o x job.run between)
    (hok : ∀ b o' y, between (.ok b) o' y → Yields o' y (f b).run post)
    (herror : ∀ e o' y, between (.error e) o' y → post (.error e) o' y) :
    Yields o x (job >>= f).run post := by
  refine Yields.bind h fun r o' y hbetween => ?_
  cases r with
  | ok b => exact hok b o' y hbetween
  | error e => exact yields_done (herror e o' y hbetween)

/-- A call that is answered, whoever makes it. -/
theorem yields_call
    (h : ∀ (p : Post) (G : Grip) (g : Gateway), g.outlook = o →
      (∀ name, g.remote.gateOf.get? name = none) → Works p G g x → G.Permits c →
      ∃ a y g', g.perform p.tenant x none c = .answered a g' ∧ g'.tenants[p.tenant]? = some y
        ∧ Yields g'.outlook y (next a) post) : Yields o x (.call c next) post := by
  intro p G g mid ho hungated hworks hobeys
  obtain ⟨a, y, g₁, hperform, hy, hnext⟩ := h p G g ho hungated hworks hobeys.1
  obtain ⟨hadmits, hworks₁⟩ := hworks.perform hobeys.1 hperform hy
  have hconfined : Confined p.tenant g g₁ := by
    have hstate := confined_perform g p.tenant x none c
    rwa [hperform] at hstate
  obtain ⟨b, z, g₂, G₂, hadvance, hworks₂, hmid, hconfined₂, hpost⟩ :=
    hnext p _ g₁ mid rfl (hconfined.gates ▸ hungated) hworks₁ (hobeys.2 a hadmits)
  exact ⟨b, z, g₂, G₂, (advance_call hworks.tenant hperform).trans hadvance, hworks₂, hmid,
    hconfined.trans hconfined₂, hpost⟩

/-- A call that only looks. -/
theorem yields_look {a : Job.Answer c}
    (hperform : ∀ (g : Gateway) (t : Nat), g.outlook = o → g.perform t x none c = .answered a g)
    (hnext : Yields o x (next a) post) : Yields o x (.call c next) post := by
  refine yields_call fun p G g ho _ hworks _ =>
    ⟨a, x, g, hperform g p.tenant ho, hworks.tenant, ?_⟩
  rw [ho]
  exact hnext

/-- A call that changes the tenant. -/
theorem yields_change
    (h : ∀ (g : Gateway) (t : Nat), ∃ a f, g.perform t x none c = .answered a (g.update t f)
      ∧ Yields o (f x) (next a) post) : Yields o x (.call c next) post := by
  refine yields_call fun p G g ho _ hworks _ => ?_
  obtain ⟨a, f, hperform, hnext⟩ := h g p.tenant
  refine ⟨a, f x, _, hperform, ?_, ?_⟩
  · rw [tenants_update hworks.tenant, if_pos rfl]
  · rw [show (g.update p.tenant f).outlook = o from ho]
    exact hnext

/-- A call to the remote system. -/
theorem yields_remote (script : Script)
    (h : ∀ (p : Post) (G : Grip) (g : Gateway), g.outlook = o →
      (∀ name, g.remote.gateOf.get? name = none) → Works p G g x → G.Permits c →
      ∃ a r, g.perform p.tenant x none c = .answered a { g with remote := r }
        ∧ r.script = script ∧ Yields { o with script := script } x (next a) post) :
    Yields o x (.call c next) post := by
  refine yields_call fun p G g ho hungated hworks hpermits => ?_
  obtain ⟨a, r, hperform, hscript, hnext⟩ := h p G g ho hungated hworks hpermits
  refine ⟨a, x, _, hperform, hworks.tenant, ?_⟩
  subst ho hscript
  exact hnext

/-- Whether a session is opened is up to the script. -/
theorem yields_openSession {next : Except Fault Nat → JobRoutine α}
    (hopened : ScriptedRemote.refusal? o.script = none → ∀ s, Yields o x (next (.ok s)) post)
    (hrefused : ∀ e, ScriptedRemote.refusal? o.script = some e →
      Yields o x (next (.error e)) post) :
    Yields o x (.call .openSession next) post := by
  refine yields_remote o.script fun p G g ho _ _ _ =>
    ⟨(g.remote.openSession x.credentials g.config.socketPolicy).1,
      (g.remote.openSession x.credentials g.config.socketPolicy).2, rfl, ?_, ?_⟩
  · rw [(ScriptedRemote.sameAnswers_openSession _ _ _).script, ← ho]
    rfl
  · rw [ScriptedRemote.openSession_eq, show g.remote.script = o.script from ho ▸ rfl]
    show Yields o x _ post
    cases hrefusal : ScriptedRemote.refusal? o.script with
    | some e => exact hrefused e hrefusal
    | none => exact hopened hrefusal _

/-- A query is answered from the script. -/
theorem yields_query {s : Nat} {q : RemoteQuery}
    {next : Except Fault (List Record) → JobRoutine α}
    (hnext : Yields { o with script := (o.script.reply q).2 } x (next (o.script.reply q).1) post) :
    Yields o x (.call (.query s q) next) post := by
  refine yields_remote (o.script.reply q).2 fun p G g ho hungated hworks hpermits => ?_
  obtain ⟨r, hsend, hscript⟩ :=
    ScriptedRemote.send_connected hungated (hworks.connected hpermits) q
  subst ho
  refine ⟨_, r, ?_, hscript, hnext⟩
  unfold perform
  dsimp only
  rw [hsend]
  rfl

theorem yields_closeSession {s : Nat} {next : Unit → JobRoutine α}
    (hnext : Yields o x (next ()) post) : Yields o x (.call (.closeSession s) next) post := by
  refine yields_remote o.script fun p G g ho _ _ _ => ⟨(), _, rfl, ?_, hnext⟩
  exact (ScriptedRemote.sameAnswers_disconnectAll _ _).script.trans (ho ▸ rfl)

theorem yields_note {key : WatermarkKey} {entry : QueuedMessage} {next : Unit → JobRoutine α}
    (hnext : Yields { o with marks := Function.update o.marks key (some entry) } x (next ())
      post) :
    Yields o x (.call (.note key entry) next) post := by
  refine yields_call fun p G g ho _ hworks _ => ⟨(), x, _, rfl, hworks.tenant, ?_⟩
  have hnoted : ({ g with watermarks := g.watermarks.insert key entry } : Gateway).outlook
      = { o with marks := Function.update o.marks key (some entry) } := by
    subst ho
    refine congrArg (Outlook.mk _ _) (funext fun key' => ?_)
    show (g.watermarks.insert key entry).get? key' = _
    rw [Table.get?_insert, Function.update_apply]
    rfl
  rw [hnoted]
  exact hnext

-- ----------------------------------------------------- the system handlers

/-- Sessions that are given up are not shown to anybody. -/
theorem outlook_reclaim (g : Gateway) (t : Nat) : (g.reclaim t).outlook = g.outlook := by
  unfold reclaim
  split
  · rfl
  · exact congrArg (Outlook.mk · _ _) (ScriptedRemote.sameAnswers_disconnectAll _ _).script

/-- Its users and its session apart, a system handler is left as it is. -/
theorem yields_hold {k : Nat} {next : Unit → JobRoutine α}
    (hnext : ∀ y, x.SameStock y → Yields o y (next ()) post) :
    Yields o x (.call (.hold k) next) post :=
  yields_change fun _ _ => ⟨(), _, rfl, hnext _ <|
    Tenant.sameStock_modify (f := fun s => { s with users := s.users + 1 }) (fun _ => rfl) k⟩

theorem yields_replaceSession {k s : Nat} {next : Unit → JobRoutine α}
    (hnext : ∀ y, x.SameStock y → Yields o y (next ()) post) :
    Yields o x (.call (.replaceSession k s) next) post :=
  yields_change fun _ _ => ⟨(), _, rfl, hnext _ <|
    Tenant.sameStock_modify (f := fun y => { y with session := some s }) (fun _ => rfl) k⟩

theorem yields_letGo {k : Nat} {next : Unit → JobRoutine α}
    (hnext : ∀ y, x.SameStock y → Yields o y (next ()) post) :
    Yields o x (.call (.letGo k) next) post := by
  let f (x : Tenant) : Tenant :=
    { x with systems := x.systems.modify k fun s => { s with users := s.users - 1 } }
  have hf : x.SameStock (f x) :=
    Tenant.sameStock_modify (f := fun s => { s with users := s.users - 1 }) (fun _ => rfl) k
  refine yields_call fun p G g ho _ hworks _ => ?_
  have hy : (g.update p.tenant f).tenants[p.tenant]? = some (f x) := by
    rw [tenants_update hworks.tenant, if_pos rfl]
  refine ⟨(), (f x).disown, (g.update p.tenant f).reclaim p.tenant, rfl, tenants_reclaim hy, ?_⟩
  rw [outlook_reclaim, show (g.update p.tenant f).outlook = o from ho]
  exact hnext _ (hf.trans (Tenant.sameStock_disown _))

-- ========================================================== light routines

variable {K M : Set WatermarkKey} {E L : List Lock} {Q : RemoteQuery → Prop}

/-- What is left as it is may have been left so before. -/
theorem Yields.stock {r : JobRoutine α} {P P' : α → Outlook → Prop}
    (h : Yields o y r fun a o' z => P a o' ∧ P' a o' ∧ y.SameStock z) (hsame : x.SameStock y) :
    Yields o y r fun a o' z => P a o' ∧ P' a o' ∧ x.SameStock z := by
  refine h.mono fun a o' z hpost => ?_
  obtain ⟨hvalue, houtlook, hstock⟩ := hpost
  exact ⟨hvalue, houtlook, hsame.trans hstock⟩

/-- A light routine ends as its twin does over the outlook alone, and leaves
what the tenant keeps. -/
theorem yields_twins {V : α → β → Prop} {r : JobRoutine α} {r' : JobRoutine β}
    (h : Twins K V E L r r') (hlight : r.Makes (Call.Light Q M)) :
    Yields o x r fun a o' y => V a (o.run r').1 ∧ o' = (o.run r').2 ∧ x.SameStock y := by
  induction h generalizing o x with
  | done hvalues => exact yields_done ⟨hvalues, rfl, .refl x⟩
  | @plain L c next next' hc _ ih =>
      have hnext := fun a => hlight.2 a
      cases c with
      | openSession | query | closeSession | installSystem | session | replaceSession | acquire
        | release => exact hc.elim
      | handler | install | jobCache | saveJobCache | diskCache | saveDiskCache =>
          exact hlight.1.elim
      | now => exact yields_look (fun g t ho => by rw [← ho]; rfl) (ih o.clock (hnext _))
      | watermark key =>
          exact yields_look (fun g t ho => by rw [← ho]; rfl) (ih (o.marks key) (hnext _))
      | note key entry => exact yields_note (ih () (hnext _))
      | hold k => exact yields_hold fun y hsame => (ih () (hnext _)).stock hsame
      | letGo k => exact yields_letGo fun y hsame => (ih () (hnext _)).stock hsame
  | acquire | release | installSystem => exact hlight.1.elim
  | @openSession L next next' hopened hfailed ihopened ihfailed =>
      show Yields o x _ fun a o' y => V a (o.run (next' (Option.elim _ _ _))).1
        ∧ o' = (o.run (next' (Option.elim _ _ _))).2 ∧ x.SameStock y
      refine yields_openSession (fun hopens s => ?_) fun e he => ?_
      · rw [hopens]
        exact ihopened s 0 (hlight.2 _)
      · rw [he]
        exact ihfailed e (hlight.2 _)
  | query _ ih => exact yields_query (ih _ (hlight.2 _))
  | closeSession _ ih => exact yields_closeSession (ih (hlight.2 _))
  | session _ ih => exact yields_look (fun g t _ => rfl) (ih _ _ (hlight.2 _))
  | replaceSession _ ih =>
      exact yields_replaceSession fun y hsame => (ih (hlight.2 _)).stock hsame

theorem yields_light {job : Job α} (hsame : Same K L job.run job.run)
    (hlight : job.run.Makes (Call.Light Q M)) :
    Yields o x job.run fun r o' y =>
      r = (o.run job.run).1 ∧ o' = (o.run job.run).2 ∧ x.SameStock y :=
  yields_twins hsame.twins hlight

end

end Gateway

end CheckGateway
