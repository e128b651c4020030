/-
Programs that do the same over sessions of different numbers.

Two tenants that are alike answer the calls of their jobs alike, but for the
numbers of sessions: those count every session that was ever opened, for
whomever. `Twins` relates two routines that make the same calls and go on
alike whatever numbers they get. It also follows the locks: a routine asks
for no lock that it has, and ends with as many as it was started with, so
with nobody else at work it never has to wait.

Every program of a worker is a twin of itself (`same_work`). This is shown
for each handler from the way it is put together, and it also bounds the
watermarks that the program looks up or notes.
-/
import CheckGateway.Gateway.Checks
import CheckGateway.Proofs.Tail.Scan
import Mathlib.Data.Set.Basic

namespace CheckGateway.Job

/-- A call that neither mentions a session nor gets one and takes no lock,
about one of some watermarks if about any. -/
def Call.Plain (K : Set WatermarkKey) : Call → Prop
  | .watermark key => key ∈ K
  | .note key _ => key ∈ K
  | .openSession | .query .. | .closeSession _ | .installSystem _ | .session _
  | .replaceSession .. | .acquire _ | .release .. => False
  | _ => True

/-- Two routines that hold some locks do the same and end with values in a
relation, holding others. -/
inductive Twins {α β : Type} (K : Set WatermarkKey) (V : α → β → Prop) (E : List Lock) :
    List Lock → JobRoutine α → JobRoutine β → Prop where
  | done {a : α} {b : β} (h : V a b) : Twins K V E E (.done a) (.done b)
  | plain {L : List Lock} {c : Call} {next : Answer c → JobRoutine α}
      {next' : Answer c → JobRoutine β} (hc : c.Plain K)
      (h : ∀ a, Twins K V E L (next a) (next' a)) :
      Twins K V E L (.call c next) (.call c next')
  | acquire {L : List Lock} {lock : Lock} {next : Bool → JobRoutine α}
      {next' : Bool → JobRoutine β} (hfree : lock ∉ L)
      (htaken : Twins K V E (lock :: L) (next true) (next' true))
      (hrefused : Twins K V E L (next false) (next' false)) :
      Twins K V E L (.call (.acquire lock) next) (.call (.acquire lock) next')
  | release {L : List Lock} {lock : Lock} {poison : Bool} {next : Unit → JobRoutine α}
      {next' : Unit → JobRoutine β}
      (h : Twins K V E (L.erase lock) (next ()) (next' ())) :
      Twins K V E L (.call (.release lock poison) next) (.call (.release lock poison) next')
  | openSession {L : List Lock} {next : Except Fault Nat → JobRoutine α}
      {next' : Except Fault Nat → JobRoutine β}
      (hopened : ∀ s s', Twins K V E L (next (.ok s)) (next' (.ok s')))
      (hfailed : ∀ e, Twins K V E L (next (.error e)) (next' (.error e))) :
      Twins K V E L (.call .openSession next) (.call .openSession next')
  | query {L : List Lock} {s s' : Nat} {q : RemoteQuery}
      {next : Except Fault (List Record) → JobRoutine α}
      {next' : Except Fault (List Record) → JobRoutine β}
      (h : ∀ rows, Twins K V E L (next rows) (next' rows)) :
      Twins K V E L (.call (.query s q) next) (.call (.query s' q) next')
  | closeSession {L : List Lock} {s s' : Nat} {next : Unit → JobRoutine α}
      {next' : Unit → JobRoutine β} (h : Twins K V E L (next ()) (next' ())) :
      Twins K V E L (.call (.closeSession s) next) (.call (.closeSession s') next')
  | installSystem {L : List Lock} {s s' : Nat} {next : Nat → JobRoutine α}
      {next' : Nat → JobRoutine β} (h : ∀ k, Twins K V E L (next k) (next' k)) :
      Twins K V E L (.call (.installSystem s) next) (.call (.installSystem s') next')
  | session {L : List Lock} {k : Nat} {next : Nat → JobRoutine α}
      {next' : Nat → JobRoutine β} (h : ∀ s s', Twins K V E L (next s) (next' s')) :
      Twins K V E L (.call (.session k) next) (.call (.session k) next')
  | replaceSession {L : List Lock} {k s s' : Nat} {next : Unit → JobRoutine α}
      {next' : Unit → JobRoutine β} (h : Twins K V E L (next ()) (next' ())) :
      Twins K V E L (.call (.replaceSession k s) next) (.call (.replaceSession k s') next')

/-- Twins that end with the same value and the locks they were started
with. -/
structure Same {α : Type} (K : Set WatermarkKey) (L : List Lock) (r r' : JobRoutine α) :
    Prop where
  twins : Twins K (· = ·) L L r r'

section

variable {α β γ δ : Type} {K : Set WatermarkKey} {L M E : List Lock}

/-- Twins followed by twins. -/
theorem Twins.bind {V : α → β → Prop} {W : γ → δ → Prop} {r : JobRoutine α}
    {r' : JobRoutine β} {f : α → JobRoutine γ} {f' : β → JobRoutine δ}
    (h : Twins K V M L r r') (hf : ∀ a b, V a b → Twins K W E M (f a) (f' b)) :
    Twins K W E L (r.bind f) (r'.bind f') := by
  induction h with
  | done hv => exact hf _ _ hv
  | plain hc _ ih => exact .plain hc ih
  | acquire hfree _ _ ihtaken ihrefused => exact .acquire hfree ihtaken ihrefused
  | release _ ih => exact .release ih
  | openSession _ _ ihopened ihfailed => exact .openSession ihopened ihfailed
  | query _ ih => exact .query ih
  | closeSession _ ih => exact .closeSession ih
  | installSystem _ ih => exact .installSystem ih
  | session _ ih => exact .session ih
  | replaceSession _ ih => exact .replaceSession ih

/-- Two jobs that are over with the same value. -/
theorem Same.done (a : α) : Same K L (.done a) (.done a) := ⟨.done rfl⟩

/-- One after the other, for every value that the first may come to. -/
theorem Same.bind {r r' : JobRoutine α} {f f' : α → JobRoutine β} (h : Same K L r r')
    (hf : ∀ a, Same K L (f a) (f' a)) : Same K L (r.bind f) (r'.bind f') := by
  refine ⟨h.twins.bind ?_⟩
  intro a b hab
  subst hab
  exact (hf a).twins

/-- Jobs followed by jobs that depend on their value. -/
theorem Same.andThen {job job' : Job α} {f f' : α → Job β}
    (h : Same K L job.run job'.run) (hf : ∀ a, Same K L (f a).run (f' a).run) :
    Same K L (job >>= f).run (job' >>= f').run := by
  refine Same.bind h fun r => ?_
  cases r with
  | ok a => exact hf a
  | error e => exact .done _

/-- The same call, if it is about no session and about watermarks within bounds. -/
theorem same_ask {c : Call} (hc : c.Plain K) : Same K L (ask c) (ask c) :=
  ⟨.plain hc fun _ => .done rfl⟩

/-- The same call as a job. -/
theorem same_askM {c : Call} (hc : c.Plain K) : Same K L (askM c).run (askM c).run :=
  Same.bind (same_ask hc) fun _ => .done _

/-- What has come out already is the same for both. -/
theorem same_ofOutcome (o : Outcome α) : Same K L (ofOutcome o).run (ofOutcome o).run := by
  cases o with
  | ok a => exact .done _
  | error e => exact .done _

/-- What is done with a failure depends on the failure alone. -/
theorem same_attempt {job job' : Job α} (h : Same K L job.run job'.run) :
    Same K L (attempt job).run (attempt job').run := by
  refine Same.bind h fun r => ?_
  match r with
  | .ok a => exact .done _
  | .error (.failed e) => exact .done _
  | .error .panicked => exact .done _

variable {s s' : Nat}

/-- A query is answered alike over any two sessions. -/
theorem same_query (q : RemoteQuery) : Same K L (query s q).run (query s' q).run :=
  Same.bind ⟨.query fun _ => .done rfl⟩ fun _ => .done _

/-- So the rows of its answer are read alike. -/
theorem same_fetch (α : Type) [RowShape α] (q : RemoteQuery) :
    Same K L (fetch α s q).run (fetch α s' q).run :=
  (same_query q).andThen fun _ => same_ofOutcome _

/-- What is done on a fresh session, whatever its number is. -/
theorem same_withSession {body body' : Nat → Job α}
    (h : ∀ s s', Same K L (body s).run (body' s').run) :
    Same K L (withSession body).run (withSession body').run := by
  refine ⟨.openSession (fun s s' => ?_) fun e => .done rfl⟩
  show Twins K _ L L ((body s).run.bind _) ((body' s').run.bind _)
  refine (h s s').twins.bind ?_
  intro r r' hr
  subst hr
  exact .closeSession (.done rfl)

/-- What is done under a lock that is free. -/
theorem twins_withLock {V : Except Fault α → Except Fault β → Prop} {lock : Lock}
    {body : Job α} {body' : Job β} (hfree : lock ∉ L)
    (h : Twins K V (lock :: L) (lock :: L) body.run body'.run)
    (hdeath : ∀ r r', V r r' → isDeath r = isDeath r')
    (hrefused : ∀ e, V (.error e) (.error e)) :
    Twins K V L L (withLock lock body).run (withLock lock body').run := by
  refine .acquire hfree ?_ (.done (hrefused _))
  show Twins K V L (lock :: L) (body.run.bind _) (body'.run.bind _)
  refine h.bind fun r r' hr => ?_
  rw [hdeath r r' hr]
  refine .release ?_
  rw [List.erase_cons_head]
  exact .done hr

/-- Under a lock that neither holds yet. -/
theorem same_withLock {lock : Lock} {body body' : Job α} (hfree : lock ∉ L)
    (h : Same K (lock :: L) body.run body'.run) :
    Same K L (withLock lock body).run (withLock lock body').run :=
  ⟨twins_withLock hfree h.twins (fun _ _ => congrArg _) fun _ => rfl⟩

/-- A routine whose calls are carried out by twins. -/
theorem same_expand {Call : Type} {Answer : Call → Type} {P : Call → Prop}
    {f f' : (c : Call) → JobRoutine (Answer c)} (hf : ∀ c, P c → Same K L (f c) (f' c))
    {r : Routine Call Answer α}
    (hr : r.Makes P) : Same K L (r.expand f) (r.expand f') := by
  induction r with
  | done a => exact .done a
  | call c next ih => exact (hf c hr.1).bind fun a => ih a (hr.2 a)

end

end CheckGateway.Job

namespace CheckGateway.Tail

/-- A call is about a watermark only if it is that of a key. -/
def Call.Keeps (key : WatermarkKey) : Call → Prop
  | .watermark k => k = key
  | .note k _ => k = key
  | _ => True

variable {ε : Type} {key : WatermarkKey}

/-- A poll looks up and notes no watermark but its own. -/
theorem poll_makes (size : Nat) (path : String) :
    (poll (ε := ε) size key path).Makes (Call.Keeps key) := by
  refine poll_own.mono fun c hc => ?_
  cases c with
  | watermark k | note k entry => exact hc
  | length path | page path offset count => exact trivial

end CheckGateway.Tail

namespace CheckGateway.Handler

open Job

section

variable {K : Set WatermarkKey} {L : List Lock}

/-- Handlers that take no session to make are obtained alike. -/
theorem same_obtain (kind : HandlerKind) : Same K [] (obtain kind).run (obtain kind).run := by
  refine same_withLock List.not_mem_nil (Same.andThen ?_ fun present => ?_)
  · exact same_askM trivial
  · match present with
    | some h => exact .done _
    | none => exact same_askM trivial

/-- Caches are read alike if they are loaded, left and filled alike. -/
theorem same_readCache {α : Type} {lock : Lock} {load : Job (Cache α)}
    {save : Cache α → Job Unit} {fetch : Job (List α)} (force : Bool)
    (hload : Same K [lock] load.run load.run) (hsave : ∀ c, Same K [lock] (save c).run (save c).run)
    (hfetch : Same K [lock] fetch.run fetch.run) :
    Same K [] (readCache lock load save fetch force).run
      (readCache lock load save fetch force).run := by
  have hnow : Same K [lock] now.run now.run := same_askM trivial
  refine same_withLock List.not_mem_nil (hload.andThen fun cache => ?_)
  -- what follows once the cache has, or has not, a value to hand out
  extract_lets goOn
  have hgoOn : ∀ held, Same K [lock] (goOn held).run (goOn held).run := by
    intro held
    match held with
    | some r => exact (hsave _).andThen fun _ => same_ofOutcome r
    | none =>
        refine (hsave _).andThen fun _ => (same_attempt hfetch).andThen fun r => ?_
        refine hnow.andThen fun time => ?_
        exact (hsave _).andThen fun _ => same_ofOutcome _
  cases force with
  | true => exact Same.andThen (.done _) hgoOn
  | false =>
      refine Same.andThen (Same.bind hnow fun r => ?_) hgoOn
      cases r <;> exact .done _

/-- Each fetches over a session of its own. -/
theorem same_fetchAll (α : Type) [RowShape α] (q : RemoteQuery) :
    Same K L (fetchAll α q).run (fetchAll α q).run :=
  same_withSession fun _ _ => same_fetch α q

/-- The active jobs are read from caches that are alike. -/
theorem same_listJobs : Same K [] listJobs.run listJobs.run := by
  refine (same_obtain .jobs).andThen fun h => Same.andThen ?_ fun r => .done _
  exact same_readCache false (same_askM trivial) (fun _ => same_askM trivial)
    (same_fetchAll _ _)

/-- So are the disk units. -/
theorem same_readDisks (h : Nat) (force : Bool) :
    Same K [] (readDisks h force).run (readDisks h force).run :=
  same_readCache force (same_askM trivial) (fun _ => same_askM trivial) (same_fetchAll _ _)

/-- Whether there is a unit with a name depends on the snapshot alone. -/
theorem same_diskNamed (disks : List DiskUnit) (name : String) :
    Same K [] (diskNamed disks name).run (diskNamed disks name).run := by
  unfold diskNamed
  split <;> exact .done _

/-- Both look once, or both look twice. -/
theorem same_unitsOf (h : Nat) (name : Option String) :
    Same K [] (unitsOf h name).run (unitsOf h name).run := by
  refine (same_readDisks h false).andThen fun r => ?_
  cases name with
  | none => exact .done _
  | some name =>
      dsimp only
      split
      · exact same_diskNamed _ _
      · exact (same_readDisks h true).andThen fun r => same_diskNamed _ _

/-- What a unit is written as does not depend on the tenant. -/
theorem same_diskRecords (o : Overflow) (disks : List DiskUnit) :
    Same K [] (diskRecords o disks).run (diskRecords o disks).run := .done _

/-- The disk units are listed alike. -/
theorem same_listDisks (o : Overflow) (name : Option String) :
    Same K [] (listDisks o name).run (listDisks o name).run :=
  (same_obtain .disks).andThen fun h =>
    (same_unitsOf h name).andThen fun disks => same_diskRecords o disks

/-- The subsystems are fetched alike. -/
theorem same_listSubsystems : Same K [] listSubsystems.run listSubsystems.run := by
  refine (same_obtain .subsystems).andThen fun _ => Same.andThen ?_ fun rows => .done _
  exact same_withSession fun _ _ => same_query _

/-- A command runs alike over any two sessions. -/
theorem same_executeCommand (command : String) :
    Same K [] (executeCommand command).run (executeCommand command).run := by
  refine (same_obtain .commands).andThen fun _ => same_withSession fun s s' => ?_
  refine (same_attempt (same_fetch _ _)).andThen fun r => ?_
  match r with
  | .ok (_ :: _) => exact .done _
  | .ok [] => exact .done _
  | .error _ => exact .done _

/-- Job queues are looked up in the same order, up to the same failure. -/
theorem same_jobQueueRecords (s s' : Nat) (refs : List JobQueueRef) :
    Same K L (jobQueueRecords s refs).run (jobQueueRecords s' refs).run := by
  induction refs with
  | nil => exact .done _
  | cons ref refs ih =>
      have hrecord : Same K L (jobQueueRecord s ref).run (jobQueueRecord s' ref).run := by
        refine (same_fetch _ _).andThen fun rows => ?_
        match rows with
        | _ :: _ => exact .done _
        | [] => exact .done _
      exact hrecord.andThen fun _ => ih.andThen fun _ => .done _

/-- They are looked up over a session each. -/
theorem same_getJobQueues (refs : List JobQueueRef) :
    Same K L (getJobQueues refs).run (getJobQueues refs).run :=
  same_withSession fun _ _ => same_jobQueueRecords _ _ refs

/-- A queue is read alike. -/
theorem same_readAll (query : MessageQuery) :
    Same K L (readAll query).run (readAll query).run :=
  (same_ofOutcome _).andThen fun _ => (same_fetchAll _ _).andThen fun _ => .done _

/-- The calls of a poll are about its own watermark. -/
theorem same_pollCall {s s' : Nat} {key : WatermarkKey} (hkey : key ∈ K) (c : Tail.Call)
    (hc : c.Keeps key) : Same K L (pollCall s c) (pollCall s' c) := by
  cases c with
  | watermark k => exact same_ask (c := .watermark k) ((show k = key from hc) ▸ hkey)
  | length path => exact (same_query _).andThen fun _ => same_ofOutcome _
  | page path offset count => exact same_fetch _ _
  | note k entry => exact same_ask (c := .note k entry) ((show k = key from hc) ▸ hkey)

/-- A queue is polled alike if the watermark of the query is within bounds. -/
theorem same_readNew (ctx : JobContext) (query : MessageQuery)
    (hkey : WatermarkKey.derive ctx.credentials query ∈ K) :
    Same K L (readNew ctx query).run (readNew ctx query).run := by
  refine (same_ofOutcome _).andThen fun filter => Same.andThen ?_ fun report => ?_
  · exact same_withSession fun s s' => same_expand (same_pollCall hkey) (Tail.poll_makes _ _)
  · match report with
    | .initialized => exact .done _
    | .new _ => exact .done _

-- ======================================================== the system checks

/-- The system handler is obtained alike, though its session need not be the same. -/
theorem same_obtainSystem : Same K [] obtainSystem.run obtainSystem.run := by
  refine same_withLock List.not_mem_nil (Same.andThen (same_askM trivial) fun present => ?_)
  have hhold (h : Nat) : Same K [.slot .system] (do askM (.hold h); return h : Job Nat).run
      (do askM (.hold h); return h : Job Nat).run :=
    (same_askM (c := .hold h) trivial).andThen fun _ => .done _
  match present with
  | some h => exact hhold h
  | none =>
      -- the session that is opened goes into the handler at once
      refine ⟨.openSession (fun s s' => .installSystem fun h => ?_) fun e => .done rfl⟩
      exact (hhold h).twins

/-- A query over the session of the system handler, once its lock is taken. -/
def systemExchange (handler : Nat) (q : RemoteQuery) : Job (List Record) := do
  let session : Nat ← askM (.session handler)
  match ← attempt (query session q) with
  | .ok rows => return rows
  | .error e =>
      if e.isConnectionLoss then do
        let fresh ← openSession
        askM (.closeSession session)
        askM (.replaceSession handler fresh)
        query fresh q
      else fail e

/-- A system query goes on under the lock of the handler's session. -/
theorem systemQuery_eq (h : Nat) (q : RemoteQuery) :
    systemQuery h q = withLock (.systemSession h) (systemExchange h q) := rfl

/-- Both sessions are lost, or neither is. -/
theorem same_systemExchange (h : Nat) (q : RemoteQuery) :
    Same K L (systemExchange h q).run (systemExchange h q).run := by
  refine ⟨.session fun s s' => Same.twins ?_⟩
  refine (same_attempt (same_query q)).andThen fun r => ?_
  match r with
  | .ok rows => exact .done _
  | .error e =>
      dsimp only
      split
      · refine ⟨.openSession (fun s s' => ?_) fun e => .done rfl⟩
        exact .closeSession (.replaceSession (same_query q).twins)
      · exact .done _

/-- So a system query comes to the same. -/
theorem same_systemQuery (h : Nat) (q : RemoteQuery) :
    Same K [] (systemQuery h q).run (systemQuery h q).run :=
  same_withLock List.not_mem_nil (same_systemExchange h q)

/-- Whatever is done with a system handler that both let go. -/
theorem same_holding {α : Type} {body : Nat → Job α}
    (h : ∀ k, Same K [] (body k).run (body k).run) :
    Same K [] (do let handler ← obtainSystem; holding handler (body handler) : Job α).run
      (do let handler ← obtainSystem; holding handler (body handler) : Job α).run := by
  refine same_obtainSystem.andThen fun k => ?_
  exact Same.bind (h k) fun _ => Same.bind (same_ask trivial) fun _ => .done _

/-- The figures of the system are read alike. -/
theorem same_getSystem : Same K [] getSystem.run getSystem.run := by
  refine same_holding fun h => (same_systemQuery h _).andThen fun rows => ?_
  match rows with
  | _ :: _ => exact .done _
  | [] => exact .done _

/-- So are those of the memory pools. -/
theorem same_pageFault : Same K [] pageFault.run pageFault.run :=
  same_holding fun h => (same_systemQuery h _).andThen fun _ => .done _

end

end Handler

-- ==================================================================== a worker

open Job

/-- The keys of the watermarks that a request of a tenant can be about. -/
def JobContext.keys (ctx : JobContext) (r : Request) : Set WatermarkKey :=
  { key | ∃ query, r.messageQuery = .ok query ∧ key = .derive ctx.credentials query }

section

variable {K : Set WatermarkKey}

/-- Records without a message. -/
theorem same_recordsOnly {job : Job (List Record)} (h : Same K [] job.run job.run) :
    Same K [] (Handler.recordsOnly job).run (Handler.recordsOnly job).run :=
  h.andThen fun _ => .done _

/-- A request is carried out alike if its watermarks are within bounds. -/
theorem same_carryOut {ctx : JobContext} {r : Request} (hkeys : ctx.keys r ⊆ K) :
    Same K [] (carryOut ctx r).run (carryOut ctx r).run := by
  unfold carryOut
  split
  · exact .done _
  · split
    · exact same_recordsOnly Handler.same_listJobs
    · exact same_recordsOnly (Handler.same_listDisks _ _)
    · exact same_recordsOnly Handler.same_listSubsystems
    · exact same_recordsOnly Handler.same_getSystem
    · exact same_recordsOnly Handler.same_pageFault
    · exact (same_ofOutcome _).andThen fun command =>
        same_recordsOnly (Handler.same_executeCommand command)
    · exact (same_ofOutcome _).andThen fun refs =>
        same_recordsOnly (Handler.same_getJobQueues refs)
    · exact (same_ofOutcome _).andThen Handler.same_readAll
    · cases hquery : r.messageQuery with
      | error e => exact .done _
      | ok query => exact Handler.same_readNew ctx query (hkeys ⟨query, hquery, rfl⟩)

/-- A worker's program does the same whatever numbers its sessions get, takes
no lock that it has, and is about the watermarks of its request at most. -/
theorem same_work {ctx : JobContext} {r : Request} (hkeys : ctx.keys r ⊆ K) :
    Same K [] (work ctx r) (work ctx r) := by
  unfold work
  exact Same.bind (same_carryOut hkeys) fun _ => .done _

end

end CheckGateway
