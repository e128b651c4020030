/-
What a job has in its hands, and that every job gives all of it back.

Sessions, locks and holds on system handlers are taken by some calls of a
job and given back by others. `Grip` is what a job has taken so far, read
off its calls and their answers. `Obeys` is the discipline: a job asks for
nothing that its grip does not permit, whatever it is answered. It queries
and closes only sessions in its hands, looks into the system slot only
under the slot's lock, and borrows the session of a system handler only
while it has the handler's lock and a hold on it.

A borrowed session is in the hands of the borrower. It goes back to its
handler when the handler's lock does; one that was closed has to be
replaced first.

# The result

`steady_work`: a worker's program obeys the discipline from empty hands to
empty hands, on every way out, whatever is answered to it.
-/
import CheckGateway.Gateway.Checks

namespace CheckGateway.Job

/-- What a job has in its hands. -/
structure Grip where
  sessions : List Nat := []
  locks : List Lock := []
  /-- System handlers that it keeps from being dropped. -/
  handlers : List Nat := []
  /-- The handler whose session it has borrowed, and the session that the
  handler is left with. -/
  borrowed : Option (Nat × Nat) := none
  /-- The handler in the system slot, once the job has looked. -/
  view : Option (Option Nat) := none

namespace Grip

/-- The call may be made. -/
def Permits (G : Grip) : Call → Prop
  | .query s _ => s ∈ G.sessions
  | .closeSession s => s ∈ G.sessions
  | .release lock poison =>
      lock ∈ G.locks ∧ (lock = .slot .system → poison = true → G.view = some none)
        ∧ ∀ h s, lock = .systemSession h → G.borrowed = some (h, s) → s ∈ G.sessions
  | .handler kind => kind = .system → .slot .system ∈ G.locks
  | .install kind => kind ≠ .system
  | .installSystem s =>
      .slot .system ∈ G.locks ∧ G.view = some none ∧ s ∈ G.sessions
  | .session h => .systemSession h ∈ G.locks ∧ h ∈ G.handlers ∧ G.borrowed = none
  | .replaceSession h s => s ∈ G.sessions ∧ ∃ old, G.borrowed = some (h, old)
  | .hold h => G.view = some (some h) ∧ h ∉ G.handlers
  | .letGo h => h ∈ G.handlers ∧ ∀ s, G.borrowed ≠ some (h, s)
  | _ => True

/-- The answer may be given: a session that is opened is a new one, and
nobody gets a lock that he has. -/
def Admits (G : Grip) : (c : Call) → Answer c → Prop
  | .openSession, r => ∀ s, (r : Except Fault Nat) = .ok s → s ∉ G.sessions
  | .acquire lock, taken => (taken : Bool) = true → lock ∉ G.locks
  | _, _ => True

/-- The grip without a session. -/
def without (G : Grip) (s : Nat) : Grip :=
  { G with sessions := G.sessions.filter (· ≠ s) }

/-- The grip without the session that goes back with a lock. -/
def returning (G : Grip) (lock : Lock) : Grip :=
  match G.borrowed with
  | some (h, s) =>
      if lock = .systemSession h then { G.without s with borrowed := none } else G
  | none => G

/-- The grip after an answer. -/
def after (G : Grip) : (c : Call) → Answer c → Grip
  | .openSession, r =>
      match (r : Except Fault Nat) with
      | .ok s => { G with sessions := s :: G.sessions }
      | .error _ => G
  | .closeSession s, _ => G.without s
  | .acquire lock, taken =>
      match (taken : Bool) with
      | true =>
          { G with
            locks := lock :: G.locks
            view := if lock = .slot .system then none else G.view }
      | false => G
  | .release lock _, _ =>
      { G.returning lock with
        locks := G.locks.filter (· ≠ lock)
        view := if lock = .slot .system then none else G.view }
  | .handler kind, h => if kind = .system then { G with view := some h } else G
  | .installSystem s, h => { G.without s with view := some (some h) }
  | .session h, s =>
      { G with sessions := s :: G.sessions, borrowed := some (h, s) }
  | .replaceSession h s, _ => { G with borrowed := some (h, s) }
  | .hold h, _ => { G with handlers := h :: G.handlers }
  | .letGo h, _ => { G with handlers := G.handlers.filter (· ≠ h) }
  | _, _ => G

end Grip

/-- A routine that is started with a grip makes no call that its grip does
not permit, and ends with a value and a grip of a kind. -/
def Obeys {α : Type} : JobRoutine α → (α → Grip → Prop) → Grip → Prop
  | .done a, post, G => post a G
  | .call c next, post, G =>
      G.Permits c ∧ ∀ a, G.Admits c a → Obeys (next a) post (G.after c a)

section

variable {α β : Type} {G : Grip}

/-- What it ends with may be said less exactly. -/
theorem Obeys.mono {r : JobRoutine α} {post post' : α → Grip → Prop}
    (h : Obeys r post G) (himp : ∀ a G, post a G → post' a G) : Obeys r post' G := by
  induction r generalizing G with
  | done a => exact himp a G h
  | call c next ih => exact ⟨h.1, fun a ha => ih a (h.2 a ha)⟩

/-- One routine after another, which starts with the grip that the first ends with. -/
theorem Obeys.bind {r : JobRoutine α} {f : α → JobRoutine β}
    {mid : α → Grip → Prop} {post : β → Grip → Prop}
    (h : Obeys r mid G) (hf : ∀ a G, mid a G → Obeys (f a) post G) :
    Obeys (r.bind f) post G := by
  induction r generalizing G with
  | done a => exact hf a G h
  | call c next ih => exact ⟨h.1, fun a ha => ih a (h.2 a ha)⟩

/-- What a routine is followed by obeys the discipline from where it ends. -/
theorem Obeys.of_bind {r : JobRoutine α} {f : α → JobRoutine β} {post : β → Grip → Prop}
    (h : Obeys (r.bind f) post G) : Obeys r (fun a G' => Obeys (f a) post G') G := by
  induction r generalizing G with
  | done a => exact h
  | call c next ih => exact ⟨h.1, fun a ha => ih a (h.2 a ha)⟩

/-- A routine that ends with the grip that it was started with. -/
structure Steady (G : Grip) (r : JobRoutine α) : Prop where
  obeys : Obeys r (fun _ G' => G' = G) G

/-- A routine that is over has let nothing go. -/
theorem Steady.done (a : α) : Steady G (.done a) := ⟨rfl⟩

/-- One after another. -/
theorem Steady.bind {r : JobRoutine α} {f : α → JobRoutine β} (h : Steady G r)
    (hf : ∀ a, Steady G (f a)) : Steady G (r.bind f) := by
  refine ⟨h.obeys.bind fun a G' hG' => ?_⟩
  subst hG'
  exact (hf a).obeys

/-- A job followed by one that depends on its value. -/
theorem Steady.andThen {job : Job α} {f : α → Job β} (h : Steady G job.run)
    (hf : ∀ a, Steady G (f a).run) : Steady G (job >>= f).run := by
  refine Steady.bind h fun r => ?_
  cases r with
  | ok a => exact hf a
  | error e => exact .done _

/-- A call that the grip permits and that leaves it as it is. -/
theorem steady_ask {c : Call} (hpermits : G.Permits c)
    (hafter : ∀ a, G.after c a = G) : Steady G (ask c) :=
  ⟨hpermits, fun a _ => hafter a⟩

/-- A call that is permitted, and whose answer changes nothing in the grip. -/
theorem steady_askM {c : Call} (hpermits : G.Permits c)
    (hafter : ∀ a, G.after c a = G) : Steady G (askM c).run :=
  Steady.bind (steady_ask hpermits hafter) fun _ => .done _

/-- What has come out already takes no grip. -/
theorem steady_ofOutcome (o : Outcome α) : Steady G (ofOutcome o).run := by
  cases o with
  | ok a => exact .done _
  | error e => exact .done _

/-- What is done with a failure takes no grip. -/
theorem steady_attempt {job : Job α} (h : Steady G job.run) :
    Steady G (attempt job).run := by
  refine Steady.bind h fun r => ?_
  match r with
  | .ok a => exact .done _
  | .error (.failed e) => exact .done _
  | .error .panicked => exact .done _

/-- A query goes over a session that is held. -/
theorem steady_query {s : Nat} (q : RemoteQuery) (hs : s ∈ G.sessions) :
    Steady G (query s q).run :=
  Steady.bind (steady_ask (c := .query s q) hs fun _ => rfl) fun _ => .done _

/-- Reading the rows of its answer takes no grip. -/
theorem steady_fetch (α : Type) [RowShape α] {s : Nat} (q : RemoteQuery)
    (hs : s ∈ G.sessions) : Steady G (fetch α s q).run :=
  (steady_query q hs).andThen fun _ => steady_ofOutcome _

/-- What is put in front can be taken away again. -/
theorem filter_ne_cons {γ : Type} [DecidableEq γ] {x : γ} {xs : List γ} (h : x ∉ xs) :
    (x :: xs).filter (· ≠ x) = xs := by
  rw [List.filter_cons_of_neg (by simp)]
  refine List.filter_eq_self.2 fun y hy => decide_eq_true fun heq => ?_
  exact h (heq ▸ hy)

/-- What is done on a fresh session leaves the grip as it was. -/
theorem steady_withSession {body : Nat → Job α}
    (h : ∀ s, Steady { G with sessions := s :: G.sessions } (body s).run) :
    Steady G (withSession body).run := by
  refine ⟨trivial, fun r hr => ?_⟩
  match r with
  | .error e => exact rfl
  | .ok s =>
      have hs : s ∉ G.sessions := hr s rfl
      show Obeys ((body s).run.bind _) _ _
      refine (h s).obeys.bind fun a G' hG' => ?_
      subst hG'
      -- whatever the body came to, the session is closed
      refine ⟨List.mem_cons_self, fun _ _ => ?_⟩
      show Grip.without _ s = G
      unfold Grip.without
      rw [filter_ne_cons hs]

/-- Only with the lock of a session is something given back that was borrowed. -/
theorem Grip.returning_eq {lock : Lock} (h : ∀ h, lock ≠ .systemSession h) :
    G.returning lock = G := by
  unfold Grip.returning
  split
  · exact if_neg (h _)
  · rfl

/-- What is done under a lock, and then without it. -/
theorem obeys_withLock {lock : Lock} {body : Job α}
    {post : Except Fault α → Grip → Prop} (mid : Except Fault α → Grip → Prop)
    (hbody : lock ∉ G.locks → Obeys body.run mid (G.after (.acquire lock) true))
    (hrelease : ∀ r G', lock ∉ G.locks → mid r G' →
      G'.Permits (.release lock (isDeath r))
        ∧ post r (G'.after (.release lock (isDeath r)) ()))
    (hrefused : ∀ e, post (.error e) G) : Obeys (withLock lock body).run post G := by
  refine ⟨trivial, fun taken htaken => ?_⟩
  match taken with
  | false => exact hrefused _
  | true =>
      have hlock : lock ∉ G.locks := htaken rfl
      show Obeys (body.run.bind _) _ _
      refine Obeys.bind (hbody hlock) fun r G' hmid => ?_
      obtain ⟨hpermits, hpost⟩ := hrelease r G' hlock hmid
      exact ⟨hpermits, fun _ _ => hpost⟩

/-- What is done under a lock leaves the grip as it was, if the lock guards
neither the system slot nor the session of a system handler. -/
theorem steady_withLock {lock : Lock} {body : Job α} (hslot : lock ≠ .slot .system)
    (hsession : ∀ h, lock ≠ .systemSession h)
    (h : Steady { G with locks := lock :: G.locks } body.run) :
    Steady G (withLock lock body).run := by
  let inside : Grip := { G with locks := lock :: G.locks }
  have hview {v : Option (Option Nat)} : (if lock = .slot .system then none else v) = v :=
    if_neg hslot
  have hafter : G.after (.acquire lock) true = inside := by
    show Grip.mk _ _ _ _ (if lock = .slot .system then none else G.view) = _
    rw [hview]
  refine ⟨obeys_withLock (fun _ G' => G' = inside) (fun _ => ?_)
    (fun r G' hlock hG' => ?_) fun _ => rfl⟩
  · rw [hafter]
    exact h.obeys
  subst hG'
  refine ⟨⟨List.mem_cons_self, fun heq => absurd heq hslot,
    fun k s heq => absurd heq (hsession k)⟩, ?_⟩
  show Grip.mk _ _ _ _ (if lock = .slot .system then none else G.view) = G
  rw [hview, Grip.returning_eq hsession, filter_ne_cons hlock]

end

end CheckGateway.Job

namespace CheckGateway.Handler

open Job

-- ======================================================== the other checks

section

variable {G : Grip}

/-- A handler that takes no session to make is obtained and not held. -/
theorem steady_obtain (kind : HandlerKind) (hkind : kind ≠ .system) :
    Steady G (obtain kind).run := by
  have hslot : Lock.slot kind ≠ .slot .system := fun h => hkind (Lock.slot.inj h)
  refine steady_withLock hslot (fun _ => nofun) (Steady.andThen ?_ fun present => ?_)
  · exact steady_askM (fun h => absurd h hkind) fun _ => if_neg hkind
  · match present with
    | some h => exact .done _
    | none => exact steady_askM hkind fun _ => rfl

/-- A cache is read under a lock that is neither of a session nor of the system's slot.
-/
theorem steady_readCache {α : Type} {lock : Lock} {load : Job (Cache α)}
    {save : Cache α → Job Unit} {fetch : Job (List α)} (force : Bool)
    (hslot : lock ≠ .slot .system) (hsession : ∀ h, lock ≠ .systemSession h)
    (hload : ∀ G, Steady G load.run) (hsave : ∀ G c, Steady G (save c).run)
    (hfetch : ∀ G, Steady G fetch.run) :
    Steady G (readCache lock load save fetch force).run := by
  have hnow (G : Grip) : Steady G now.run := steady_askM trivial fun _ => rfl
  refine steady_withLock hslot hsession (Steady.andThen (hload _) fun cache => ?_)
  -- what follows once the cache has, or has not, a value to hand out
  extract_lets goOn
  have hgoOn : ∀ held, Steady { G with locks := lock :: G.locks } (goOn held).run := by
    intro held
    match held with
    | some r => exact (hsave _ _).andThen fun _ => steady_ofOutcome r
    | none =>
        refine (hsave _ _).andThen fun _ => (steady_attempt (hfetch _)).andThen fun r => ?_
        refine (hnow _).andThen fun time => ?_
        exact (hsave _ _).andThen fun _ => steady_ofOutcome _
  cases force with
  | true => exact Steady.andThen (.done _) hgoOn
  | false =>
      refine Steady.andThen (Steady.bind (hnow _) fun r => ?_) hgoOn
      cases r <;> exact .done _

/-- A fetch opens a session and closes it. -/
theorem steady_fetchAll (α : Type) [RowShape α] (q : RemoteQuery) :
    Steady G (fetchAll α q).run :=
  steady_withSession fun _ => steady_fetch α q List.mem_cons_self

/-- The active jobs are read without a system handler. -/
theorem steady_listJobs : Steady G listJobs.run := by
  refine (steady_obtain .jobs nofun).andThen fun h => Steady.andThen ?_ fun r => .done _
  exact steady_readCache false nofun (fun _ => nofun)
    (fun _ => steady_askM trivial fun _ => rfl)
    (fun _ _ => steady_askM trivial fun _ => rfl) fun _ => steady_fetchAll _ _

/-- So are the disk units. -/
theorem steady_readDisks (h : Nat) (force : Bool) : Steady G (readDisks h force).run :=
  steady_readCache force nofun (fun _ => nofun)
    (fun _ => steady_askM trivial fun _ => rfl)
    (fun _ _ => steady_askM trivial fun _ => rfl) fun _ => steady_fetchAll _ _

/-- Finding a unit takes no grip. -/
theorem steady_diskNamed (disks : List DiskUnit) (name : String) :
    Steady G (diskNamed disks name).run := by
  unfold diskNamed
  split <;> exact .done _

/-- Nor does reading a second time. -/
theorem steady_unitsOf (h : Nat) (name : Option String) :
    Steady G (unitsOf h name).run := by
  refine (steady_readDisks h false).andThen fun r => ?_
  cases name with
  | none => exact .done _
  | some name =>
      dsimp only
      split
      · exact steady_diskNamed _ _
      · exact (steady_readDisks h true).andThen fun r => steady_diskNamed _ _

/-- Records are written with nothing in hand but what was there before, and a
death over them takes nothing along. -/
theorem steady_diskRecords (o : Overflow) (disks : List DiskUnit) :
    Steady G (diskRecords o disks).run := .done _

/-- The disk units are listed without a system handler. -/
theorem steady_listDisks (o : Overflow) (name : Option String) :
    Steady G (listDisks o name).run :=
  (steady_obtain .disks nofun).andThen fun h =>
    (steady_unitsOf h name).andThen fun disks => steady_diskRecords o disks

/-- The subsystems are fetched over a session that is closed. -/
theorem steady_listSubsystems : Steady G listSubsystems.run := by
  refine (steady_obtain .subsystems nofun).andThen fun _ => Steady.andThen ?_ fun rows => .done _
  exact steady_withSession fun _ => steady_query _ List.mem_cons_self

/-- A command runs over a session that is closed. -/
theorem steady_executeCommand (command : String) :
    Steady G (executeCommand command).run := by
  refine (steady_obtain .commands nofun).andThen fun _ => steady_withSession fun s => ?_
  refine (steady_attempt (steady_fetch _ _ List.mem_cons_self)).andThen fun r => ?_
  match r with
  | .ok (_ :: _) => exact .done _
  | .ok [] => exact .done _
  | .error _ => exact .done _

/-- Job queues are looked up over the session that is held. -/
theorem steady_jobQueueRecords {s : Nat} (hs : s ∈ G.sessions) (refs : List JobQueueRef) :
    Steady G (jobQueueRecords s refs).run := by
  induction refs with
  | nil => exact .done _
  | cons ref refs ih =>
      have hrecord : Steady G (jobQueueRecord s ref).run := by
        refine (steady_fetch _ _ hs).andThen fun rows => ?_
        match rows with
        | _ :: _ => exact .done _
        | [] => exact .done _
      exact hrecord.andThen fun _ => ih.andThen fun _ => .done _

/-- It is closed after them. -/
theorem steady_getJobQueues (refs : List JobQueueRef) : Steady G (getJobQueues refs).run :=
  steady_withSession fun _ => steady_jobQueueRecords List.mem_cons_self refs

/-- A queue is read over a session that is closed. -/
theorem steady_readAll (query : MessageQuery) : Steady G (readAll query).run :=
  (steady_ofOutcome _).andThen fun _ => (steady_fetchAll _ _).andThen fun _ => .done _

/-- A routine whose calls are carried out by steady routines. -/
theorem steady_expand {Call : Type} {Answer : Call → Type} {α : Type}
    {f : (c : Call) → JobRoutine (Answer c)} (hf : ∀ c, Steady G (f c))
    (r : Routine Call Answer α) : Steady G (r.expand f) := by
  induction r with
  | done a => exact .done a
  | call c next ih => exact (hf c).bind ih

/-- The reads of a poll go over the session that is held. -/
theorem steady_pollCall {s : Nat} (hs : s ∈ G.sessions) (c : Tail.Call) :
    Steady G (pollCall s c) := by
  cases c with
  | watermark key => exact steady_ask trivial fun _ => rfl
  | length path => exact (steady_query _ hs).andThen fun _ => steady_ofOutcome _
  | page path offset count => exact steady_fetch _ _ hs
  | note key entry => exact steady_ask trivial fun _ => rfl

/-- It is closed after the poll. -/
theorem steady_readNew (ctx : JobContext) (query : MessageQuery) :
    Steady G (readNew ctx query).run := by
  refine (steady_ofOutcome _).andThen fun filter => Steady.andThen ?_ fun report => ?_
  · exact steady_withSession fun s =>
      steady_expand (steady_pollCall List.mem_cons_self) _
  · match report with
    | .initialized => exact .done _
    | .new _ => exact .done _

end

-- ======================================================== the system checks

/-- Whoever obtains the system handler holds it, and has nothing else. -/
def Obtained (r : Except Fault Nat) (G : Grip) : Prop :=
  (∃ h, r = .ok h ∧ G = { handlers := [h] }) ∨ (∃ e, r = .error e) ∧ G = {}

/-- Whoever obtains the system handler holds it, and else holds nothing. -/
theorem obeys_obtainSystem : Obeys obtainSystem.run Obtained {} := by
  -- under the lock, the job has looked into the slot
  let mid (r : Except Fault Nat) (G : Grip) : Prop :=
    (∃ h, r = .ok h
        ∧ G = { locks := [.slot .system], handlers := [h], view := some (some h) })
      ∨ (∃ e, r = .error e) ∧ G = { locks := [.slot .system], view := some none }
  have hhold (h : Nat) : Obeys (do askM (.hold h); return h : Job Nat).run mid
      { locks := [.slot .system], view := some (some h) } :=
    ⟨⟨rfl, List.not_mem_nil⟩, fun _ _ => .inl ⟨h, rfl, rfl⟩⟩
  refine obeys_withLock mid (fun _ => ?_) (fun r G _ hmid => ?_)
    fun e => .inr ⟨⟨e, rfl⟩, rfl⟩
  · refine ⟨fun _ => List.mem_singleton.2 rfl, fun present _ => ?_⟩
    match present with
    | some h => exact hhold h
    | none =>
        refine ⟨trivial, fun opened _ => ?_⟩
        match opened with
        | .error e => exact .inr ⟨⟨e, rfl⟩, rfl⟩
        | .ok s =>
            refine ⟨⟨List.mem_singleton.2 rfl, rfl, List.mem_singleton.2 rfl⟩,
              fun h _ => ?_⟩
            let inside : Grip :=
              { sessions := [s], locks := [.slot .system], view := some none }
            have hgrip : inside.after (.installSystem s) h
                = { locks := [.slot .system], view := some (some h) } := by
              show Grip.mk ([s].filter (· ≠ s)) _ _ _ _ = _
              rw [filter_ne_cons List.not_mem_nil]
              rfl
            show Obeys _ mid (inside.after (.installSystem s) h)
            rw [hgrip]
            exact hhold h
  · -- a job that dies under the lock has seen the slot empty
    have hsession (k : Nat) : Lock.slot .system ≠ .systemSession k := nofun
    rcases hmid with ⟨h, rfl, rfl⟩ | ⟨⟨e, rfl⟩, rfl⟩
    · refine ⟨⟨List.mem_singleton.2 rfl, fun _ hdeath => ?_, fun k s heq => ?_⟩, ?_⟩
      · cases hdeath
      · exact absurd heq (hsession k)
      · exact .inl ⟨h, rfl, rfl⟩
    · refine ⟨⟨List.mem_singleton.2 rfl, fun _ _ => rfl, fun k s heq => ?_⟩, ?_⟩
      · exact absurd heq (hsession k)
      · exact .inr ⟨⟨e, rfl⟩, rfl⟩

/-- The grip of a job that has borrowed the session of the one handler that
it holds. -/
def borrowing (h : Nat) (sessions : List Nat) (left : Nat) : Grip where
  sessions := sessions
  locks := [.systemSession h]
  handlers := [h]
  borrowed := some (h, left)

/-- A lost session is closed and replaced before the query is sent again. -/
theorem obeys_reconnect {h s : Nat} {q : RemoteQuery} :
    Obeys (do
        let fresh ← openSession
        askM (.closeSession s)
        askM (.replaceSession h fresh)
        query fresh q : Job (List Record)).run
      (fun _ G => ∃ s, G = borrowing h [s] s) (borrowing h [s] s) := by
  refine ⟨trivial, fun opened hnew => ?_⟩
  match opened with
  | .error e => exact ⟨s, rfl⟩
  | .ok fresh =>
      have hne : fresh ≠ s := fun heq => hnew fresh rfl (heq ▸ List.mem_singleton.2 rfl)
      refine ⟨List.mem_cons_of_mem _ (List.mem_singleton.2 rfl), fun _ _ => ?_⟩
      have hgrip : (borrowing h [fresh, s] s).without s = borrowing h [fresh] s := by
        unfold Grip.without borrowing
        simp [hne]
      show Obeys _ _ ((borrowing h [fresh, s] s).without s)
      rw [hgrip]
      refine ⟨⟨List.mem_singleton.2 rfl, s, rfl⟩, fun _ _ => ?_⟩
      exact (steady_query q (List.mem_singleton.2 rfl)).obeys.mono fun _ _ hG => ⟨fresh, hG⟩

/-- A query over the session of a system handler that is held gives back
what it has borrowed, on the old session or on a new one. -/
theorem steady_systemQuery (h : Nat) (q : RemoteQuery) :
    Steady { handlers := [h] } (systemQuery h q).run := by
  refine ⟨obeys_withLock (fun _ G => ∃ s, G = borrowing h [s] s) (fun _ => ?_)
    (fun r G _ hmid => ?_) fun e => rfl⟩
  · refine ⟨⟨List.mem_singleton.2 rfl, List.mem_singleton.2 rfl, rfl⟩, fun s _ => ?_⟩
    show Obeys ((attempt (query s q)).run.bind _) _ (borrowing h [s] s)
    refine (steady_attempt (steady_query q (List.mem_singleton.2 rfl))).obeys.bind
      fun r G hG => ?_
    subst hG
    match r with
    | .error fault => exact ⟨s, rfl⟩
    | .ok (.ok rows) => exact ⟨s, rfl⟩
    | .ok (.error e) =>
        show Obeys (ExceptT.run (if e.isConnectionLoss = true then _ else _)) _ _
        split
        · exact obeys_reconnect
        · exact ⟨s, rfl⟩
  · obtain ⟨s, rfl⟩ := hmid
    refine ⟨⟨List.mem_singleton.2 rfl, fun heq => ?_, fun k s' heq hborrowed => ?_⟩, ?_⟩
    · cases heq
    · cases hborrowed
      exact List.mem_singleton.2 rfl
    · show Grip.after (borrowing h [s] s) _ _ = _
      unfold Grip.after Grip.returning Grip.without borrowing
      simp

/-- What is done with the system handler held lets go of it. -/
theorem steady_holding {α : Type} {body : Nat → Job α}
    (h : ∀ k, Steady { handlers := [k] } (body k).run) :
    Steady {} (do let handler ← obtainSystem; holding handler (body handler) : Job α).run := by
  refine ⟨obeys_obtainSystem.bind fun r G hG => ?_⟩
  rcases hG with ⟨k, rfl, rfl⟩ | ⟨⟨e, rfl⟩, rfl⟩
  · show Obeys ((body k).run.bind _) _ _
    refine (h k).obeys.bind fun a G' hG' => ?_
    subst hG'
    refine ⟨⟨List.mem_singleton.2 rfl, fun _ => nofun⟩, fun _ _ => ?_⟩
    show Grip.mk [] [] ([k].filter (· ≠ k)) none none = {}
    rw [filter_ne_cons List.not_mem_nil]
  · exact rfl

/-- The system handler is held for the figures of the system and let go after them. -/
theorem steady_getSystem : Steady {} getSystem.run := by
  refine steady_holding fun h => (steady_systemQuery h _).andThen fun rows => ?_
  match rows with
  | _ :: _ => exact .done _
  | [] => exact .done _

/-- So it is for the memory pools. -/
theorem steady_pageFault : Steady {} pageFault.run :=
  steady_holding fun h => (steady_systemQuery h _).andThen fun _ => .done _

end Handler

-- ==================================================================== a worker

open Job

/-- Leaving the message out takes no grip. -/
theorem steady_recordsOnly {G : Job.Grip} {job : Job (List Record)}
    (h : Steady G job.run) : Steady G (Handler.recordsOnly job).run :=
  h.andThen fun _ => .done _

/-- A request ends with nothing in its worker's hands. -/
theorem steady_carryOut (ctx : JobContext) (r : Request) :
    Steady {} (carryOut ctx r).run := by
  unfold carryOut
  split
  · exact .done _
  · split
    · exact steady_recordsOnly Handler.steady_listJobs
    · exact steady_recordsOnly (Handler.steady_listDisks _ _)
    · exact steady_recordsOnly Handler.steady_listSubsystems
    · exact steady_recordsOnly Handler.steady_getSystem
    · exact steady_recordsOnly Handler.steady_pageFault
    · exact (steady_ofOutcome _).andThen fun command =>
        steady_recordsOnly (Handler.steady_executeCommand command)
    · exact (steady_ofOutcome _).andThen fun refs =>
        steady_recordsOnly (Handler.steady_getJobQueues refs)
    · exact (steady_ofOutcome _).andThen Handler.steady_readAll
    · exact (steady_ofOutcome _).andThen (Handler.steady_readNew ctx)

/-- A worker's program starts and ends with empty hands, and asks for nothing
in between that its hands do not permit. -/
theorem steady_work (ctx : JobContext) (r : Request) : Steady {} (work ctx r) := by
  unfold work
  exact Steady.bind (steady_carryOut ctx r) fun _ => .done _

end CheckGateway
