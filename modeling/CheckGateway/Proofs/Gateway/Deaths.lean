/-
What a worker dies over.

The remote system may answer a query, or the opening of a session, with a panic
(`Exchange.strikes`). No job outlives that, and hardly any job dies of anything else.
A job is `Candid` if it dies exactly if it is struck so. This is said of every list of
calls with their answers, so that it does not matter who answers them.

The one exception is the record of a disk unit: in a build that looks for overflows a
worker dies of a capacity that is too large to be written in bytes. By then all that
there is to ask has been asked, and no lock is held any more. So a request comes in
two parts. It is candid as long as it gathers (`candid_gather`), and what it makes of
what it has found asks nothing (`carryOut_eq`).

# The result

`dies_iff`: a worker dies over a request exactly if it is struck, or if it is built to
look for overflows and is to list a disk unit whose capacities do not fit.
-/
import CheckGateway.Gateway.State
import CheckGateway.Proofs.Fallible
import CheckGateway.Proofs.Gateway.Transcripts
import CheckGateway.Proofs.Tail.Reader

namespace CheckGateway

-- ==================================================================== strikes

namespace Job

/-- A query, or the opening of a session, is answered with a panic. -/
def Exchange.strikes : Exchange → Bool
  | ⟨.openSession, r⟩ => isDeath (r : Except Fault Nat)
  | ⟨.query .., r⟩ => isDeath (r : Except Fault (List Record))
  | _ => false

/-- However its calls are answered, the job dies exactly if one of the answers is a
panic. -/
def Candid {α : Type} (job : Job α) : Prop :=
  ∀ es r, job.run.Concludes es r → isDeath r = es.any Exchange.strikes

section

variable {α β : Type} {job : Job α} {f : α → Job β} {c : Call}

/-- What asks nothing is candid if it is no death. -/
theorem candid_done {r : Except Fault α} (hlives : isDeath r = false) :
    Candid (ExceptT.mk (.done r) : Job α) := by
  intro es r' h
  obtain ⟨rfl, rfl⟩ := Routine.concludes_done_iff.1 h
  exact hlives

/-- One candid job after another. -/
theorem Candid.andThen (h : Candid job) (hf : ∀ a, Candid (f a)) : Candid (job >>= f) := by
  intro es r hends
  obtain ⟨a, before, later, rfl, hfirst, hlater⟩ | ⟨e, hfirst, rfl⟩ := concludes_andThen job hends
  · have hlived : before.any Exchange.strikes = false := (h before _ hfirst).symm
    rw [List.any_append, hlived, Bool.false_or]
    exact hf a later r hlater
  · exact (show isDeath (.error e : Except Fault β) = isDeath (.error e : Except Fault α) by
      cases e <;> rfl).trans (h es _ hfirst)

/-- A call whose answer is never a panic. -/
theorem candid_askM (hc : ∀ a, Exchange.strikes ⟨c, a⟩ = false) : Candid (askM c) := by
  intro es r h
  obtain ⟨a, later, rfl, hlater⟩ := Routine.concludes_call_iff.1 h
  obtain ⟨rfl, rfl⟩ := Routine.concludes_done_iff.1 hlater
  rw [List.any_cons, hc a]
  rfl

/-- What has come out already has struck nobody. -/
theorem candid_ofOutcome (o : Outcome α) : Candid (ofOutcome o) := by
  cases o <;> exact candid_done rfl

/-- What has failed can be attempted; a panic goes through. -/
theorem Candid.attempt (h : Candid job) : Candid (attempt job) := by
  intro es r hends
  obtain ⟨o, hjob, rfl⟩ | ⟨hjob, rfl⟩ := concludes_attempt hends
  · rw [← h es _ hjob]
    cases o <;> rfl
  · exact h es _ hjob

/-- Opening a session strikes if the remote system answers with a panic. -/
theorem candid_openSession : Candid openSession := by
  intro es r h
  obtain ⟨opened, later, rfl, hlater⟩ := Routine.concludes_call_iff.1 h
  obtain ⟨rfl, rfl⟩ := Routine.concludes_done_iff.1 hlater
  exact (Bool.or_false _).symm

/-- So does a query. -/
theorem candid_query (s : Nat) (q : RemoteQuery) : Candid (query s q) := by
  intro es r h
  obtain ⟨answer, later, rfl, hlater⟩ := Routine.concludes_call_iff.1 h
  obtain ⟨rfl, rfl⟩ := Routine.concludes_done_iff.1 hlater
  exact (Bool.or_false _).symm

/-- Rows of a wrong shape are a failure and no death. -/
theorem candid_fetch [RowShape α] (s : Nat) (q : RemoteQuery) : Candid (fetch α s q) :=
  (candid_query s q).andThen fun _ => candid_ofOutcome _

/-- A session is closed whatever has happened over it. -/
theorem candid_withSession {body : Nat → Job α} (h : ∀ s, Candid (body s)) :
    Candid (withSession body) := by
  intro es r hends
  obtain ⟨e, rfl, rfl⟩ | ⟨s, inner, rfl, hinner⟩ := concludes_withSession hends
  · cases e <;> rfl
  · rw [List.any_cons, List.any_append, ← h s inner r hinner]
    exact (Bool.or_false _).symm

/-- A lock is given back whatever has happened under it. -/
theorem Candid.withLock {lock : Lock} (h : Candid job) : Candid (withLock lock job) := by
  intro es r hends
  obtain ⟨rfl, rfl⟩ | ⟨inner, rfl, hinner⟩ := concludes_withLock hends
  · rfl
  · rw [List.any_cons, List.any_append, ← h inner r hinner]
    exact (Bool.or_false _).symm

/-- A system handler is let go whatever has happened while it was held. -/
theorem Candid.holding {handler : Nat} (h : Candid job) : Candid (holding handler job) := by
  intro es r hends
  obtain ⟨inner, rfl, hinner⟩ := concludes_holding hends
  rw [List.any_append, ← h inner r hinner]
  exact (Bool.or_false _).symm

end

end Job

-- ====================================================================== polls

namespace Tail

open Job (isDeath)

/-- A read is answered with a panic. -/
def strikes : (c : Call) × Answer Fault c → Bool
  | ⟨.length _, r⟩ => isDeath (r : Except Fault Nat)
  | ⟨.page .., r⟩ => isDeath (r : Except Fault (List QueuedMessage))
  | _ => false

section

variable {size length : Nat} {path : String} {key : WatermarkKey} {mark : QueuedMessage}

/-- A scan dies of the first page that is a panic, and of nothing else. -/
theorem scan_candid {rounds offset : Nat} {found : Found} {es : List ((c : Call) × Answer Fault c)}
    {r : Except Fault Found}
    (h : (scan size path mark length rounds offset found).Concludes es r) :
    isDeath r = es.any strikes := by
  induction rounds generalizing offset found es with
  | zero =>
      obtain ⟨rfl, rfl⟩ := Routine.concludes_done_iff.1 h
      rfl
  | succ rounds ih =>
      unfold scan at h
      split at h
      · obtain ⟨rfl, rfl⟩ := Routine.concludes_done_iff.1 h
        rfl
      · obtain ⟨page, later, rfl, hrest⟩ := Routine.concludes_call_iff.1 h
        cases page with
        | error e =>
            obtain ⟨rfl, rfl⟩ := Routine.concludes_done_iff.1 hrest
            cases e <;> rfl
        | ok entries =>
            cases entries with
            | nil =>
                obtain ⟨rfl, rfl⟩ := Routine.concludes_done_iff.1 hrest
                rfl
            | cons m rest =>
                change Routine.Concludes (if _ then _ else _) _ _ at hrest
                split at hrest
                · obtain ⟨rfl, rfl⟩ := Routine.concludes_done_iff.1 hrest
                  rfl
                · show isDeath r = later.any strikes
                  exact ih hrest

/-- So does a first poll, which asks for one page. -/
theorem establish_candid {es : List ((c : Call) × Answer Fault c)} {r : Except Fault Report}
    (h : (establish key path).Concludes es r) : isDeath r = es.any strikes := by
  obtain ⟨page, later, rfl, hrest⟩ := Routine.concludes_call_iff.1 h
  cases page with
  | error e =>
      obtain ⟨rfl, rfl⟩ := Routine.concludes_done_iff.1 hrest
      cases e <;> rfl
  | ok entries =>
      cases entries with
      | nil =>
          obtain ⟨rfl, rfl⟩ := Routine.concludes_done_iff.1 hrest
          rfl
      | cons m rest =>
          obtain ⟨_, noted, rfl, hnoted⟩ := Routine.concludes_call_iff.1 hrest
          obtain ⟨rfl, rfl⟩ := Routine.concludes_done_iff.1 hnoted
          rfl

/-- So does a poll that goes on from a watermark. -/
theorem advance_candid {es : List ((c : Call) × Answer Fault c)} {r : Except Fault Report}
    (h : (advance size key path mark).Concludes es r) : isDeath r = es.any strikes := by
  obtain ⟨answered, later, rfl, hrest⟩ := Routine.concludes_call_iff.1 h
  match answered with
  | .error e =>
      obtain ⟨rfl, rfl⟩ := Routine.concludes_done_iff.1 hrest
      cases e <;> rfl
  | .ok n =>
      obtain ⟨scanned, before, after, rfl, hscan, hafter⟩ :=
        (Routine.concludes_bind_iff (r := scan size path mark n n 0 {})).1 hrest
      have hscanned := scan_candid hscan
      show _ = (before ++ after).any strikes
      match scanned with
      | .error e =>
          obtain ⟨rfl, rfl⟩ := Routine.concludes_done_iff.1 hafter
          rw [List.append_nil, ← hscanned]
          cases e <;> rfl
      | .ok found =>
          rw [List.any_append, ← hscanned]
          obtain ⟨rfl, rfl⟩ := note_concludes hafter
          cases found.newest <;> rfl

/-- A poll dies exactly if one of its reads does. -/
theorem poll_candid {es : List ((c : Call) × Answer Fault c)} {r : Except Fault Report}
    (h : (poll size key path).Concludes es r) : isDeath r = es.any strikes := by
  obtain ⟨look, later, rfl, hrest⟩ := Routine.concludes_call_iff.1 h
  show isDeath r = later.any strikes
  match look with
  | none => exact establish_candid hrest
  | some mark => exact advance_candid hrest

end

end Tail

-- =================================================================== handlers

namespace Handler

open Job

section

variable {s : Nat} {q : RemoteQuery}

/-- Nobody dies of making a handler without a session. -/
theorem candid_obtain (kind : HandlerKind) : Candid (obtain kind) := by
  refine Candid.withLock ((candid_askM fun _ => rfl).andThen fun present => ?_)
  match present with
  | some handler => exact candid_done rfl
  | none => exact candid_askM fun _ => rfl

/-- A system handler is made over a session, which may be answered with a panic. -/
theorem candid_obtainSystem : Candid obtainSystem := by
  refine Candid.withLock ((candid_askM fun _ => rfl).andThen fun present => ?_)
  have hhold (handler : Nat) : Candid (do askM (.hold handler); return handler : Job Nat) :=
    (candid_askM fun _ => rfl).andThen fun _ => candid_done rfl
  match present with
  | some handler => exact hhold handler
  | none =>
      refine candid_openSession.andThen fun session => ?_
      exact (candid_askM fun _ => rfl).andThen fun handler => hhold handler

/-- A cache is read as its source is run, and whoever dies of the source dies. -/
theorem candid_readCache {α : Type} {lock : Lock} {load : Job (Cache α)}
    {save : Cache α → Job Unit} {fetch : Job (List α)} (force : Bool) (hload : Candid load)
    (hsave : ∀ c, Candid (save c)) (hfetch : Candid fetch) :
    Candid (readCache lock load save fetch force) := by
  have hnow : Candid now := candid_askM fun _ => rfl
  refine Candid.withLock (hload.andThen fun cache => ?_)
  extract_lets goOn
  have hgoOn : ∀ held, Candid (goOn held) := by
    intro held
    match held with
    | some r => exact (hsave _).andThen fun _ => candid_ofOutcome r
    | none =>
        refine (hsave _).andThen fun _ => hfetch.attempt.andThen fun fetched => ?_
        exact hnow.andThen fun time => (hsave _).andThen fun _ => candid_ofOutcome _
  cases force with
  | true =>
      have hnone : Candid (pure none : Job (Option (Outcome (Read α)))) := candid_done rfl
      exact hnone.andThen hgoOn
  | false =>
      refine Candid.andThen ?_ hgoOn
      exact hnow.andThen (f := fun time => pure (cache.heldAt? time)) fun _ => candid_done rfl

/-- A fetch is one query over a session of its own. -/
theorem candid_fetchAll (α : Type) [RowShape α] (q : RemoteQuery) : Candid (fetchAll α q) :=
  candid_withSession fun s => candid_fetch s q

/-- The active jobs are written without any arithmetic. -/
theorem candid_listJobs : Candid listJobs := by
  refine (candid_obtain .jobs).andThen fun handler => Candid.andThen ?_ fun _ => candid_done rfl
  exact candid_readCache false (candid_askM fun _ => rfl) (fun _ => candid_askM fun _ => rfl)
    (candid_fetchAll _ _)

/-- Reading disk units is no different from reading jobs. -/
theorem candid_readDisks (handler : Nat) (force : Bool) : Candid (readDisks handler force) :=
  candid_readCache force (candid_askM fun _ => rfl) (fun _ => candid_askM fun _ => rfl)
    (candid_fetchAll _ _)

/-- A name that is missing is a failure and no death. -/
theorem candid_diskNamed (disks : List DiskUnit) (name : String) :
    Candid (diskNamed disks name) := by
  unfold diskNamed
  split <;> exact candid_done rfl

/-- The units to be listed are found before their capacities are looked at. -/
theorem candid_unitsOf (handler : Nat) (name : Option String) : Candid (unitsOf handler name) := by
  refine (candid_readDisks handler false).andThen fun r => ?_
  match name with
  | none => exact candid_done rfl
  | some name =>
      dsimp only
      split
      · exact candid_diskNamed _ name
      · exact (candid_readDisks handler true).andThen fun r => candid_diskNamed _ name

/-- The subsystems are passed on as they come. -/
theorem candid_listSubsystems : Candid listSubsystems := by
  refine (candid_obtain .subsystems).andThen fun _ => Candid.andThen ?_ fun _ => candid_done rfl
  exact candid_withSession fun s => candid_query s _

/-- A query that has lost its connection is sent once more, over a new session. -/
theorem candid_systemQuery (handler : Nat) (q : RemoteQuery) : Candid (systemQuery handler q) := by
  refine Candid.withLock ((candid_askM fun _ => rfl).andThen fun session => ?_)
  refine (candid_query _ q).attempt.andThen fun r => ?_
  match r with
  | .ok rows => exact candid_done rfl
  | .error e =>
      dsimp only
      split
      · refine candid_openSession.andThen fun fresh => ?_
        refine (candid_askM fun _ => rfl).andThen fun _ => ?_
        exact (candid_askM fun _ => rfl).andThen fun _ => candid_query fresh q
      · exact candid_done rfl

/-- A system without figures breaks the protocol, and nobody dies of it. -/
theorem candid_getSystem : Candid getSystem := by
  refine candid_obtainSystem.andThen fun handler => Candid.holding ?_
  refine (candid_systemQuery handler _).andThen fun rows => ?_
  match rows with
  | _ :: _ => exact candid_done rfl
  | [] => exact candid_done rfl

/-- The memory pools are passed on as they come. -/
theorem candid_pageFault : Candid pageFault :=
  candid_obtainSystem.andThen fun handler =>
    Candid.holding ((candid_systemQuery handler _).andThen fun _ => candid_done rfl)

/-- A command that fails is recorded, and one that panics is not. -/
theorem candid_executeCommand (command : String) : Candid (executeCommand command) := by
  refine (candid_obtain .commands).andThen fun _ => candid_withSession fun s => ?_
  refine (candid_fetch s _).attempt.andThen fun r => ?_
  match r with
  | .ok (_ :: _) => exact candid_done rfl
  | .ok [] => exact candid_done rfl
  | .error _ => exact candid_done rfl

/-- Job queues are looked up until one is missing or strikes. -/
theorem candid_jobQueueRecords (s : Nat) (refs : List JobQueueRef) :
    Candid (jobQueueRecords s refs) := by
  induction refs with
  | nil => exact candid_done rfl
  | cons ref refs ih =>
      have hrecord : Candid (jobQueueRecord s ref) := by
        refine (candid_fetch s _).andThen fun rows => ?_
        match rows with
        | _ :: _ => exact candid_done rfl
        | [] => exact candid_done rfl
      exact hrecord.andThen fun _ => ih.andThen fun _ => candid_done rfl

/-- They are looked up over one session. -/
theorem candid_getJobQueues (refs : List JobQueueRef) : Candid (getJobQueues refs) :=
  candid_withSession fun s => candid_jobQueueRecords s refs

/-- A filter that cannot be read is a failure before anything is asked. -/
theorem candid_readAll (query : MessageQuery) : Candid (readAll query) :=
  (candid_ofOutcome _).andThen fun _ => (candid_fetchAll _ _).andThen fun _ => candid_done rfl

/-- A read of a poll is struck exactly if the query in its place is. -/
theorem strikes_pollCall {c : Tail.Call} {a : Tail.Answer Fault c} {es : List Exchange}
    (h : (pollCall s c).Concludes es a) : es.any Exchange.strikes = Tail.strikes ⟨c, a⟩ := by
  cases c with
  | watermark key | note key entry =>
      obtain ⟨_, later, rfl, hlater⟩ := Routine.concludes_call_iff.1 h
      obtain ⟨rfl, -⟩ := Routine.concludes_done_iff.1 hlater
      rfl
  | length path =>
      have hcandid : Candid (queueLength s path) :=
        (candid_query s _).andThen fun _ => candid_ofOutcome _
      exact (hcandid es a h).symm
  | page path offset count => exact (candid_fetch s _ es a h).symm

/-- A poll is struck exactly if the queries in the place of its reads are. -/
theorem candid_expand {α : Type} {r : Tail.Poll Fault α} {es : List Exchange} {a : α}
    (h : (r.expand (pollCall s)).Concludes es a) :
    ∃ asked, r.Concludes asked a ∧ es.any Exchange.strikes = asked.any Tail.strikes := by
  induction r generalizing es with
  | done b =>
      obtain ⟨rfl, rfl⟩ := Routine.concludes_done_iff.1 h
      exact ⟨[], Routine.concludes_done_iff.2 ⟨rfl, rfl⟩, rfl⟩
  | call c next ih =>
      obtain ⟨answer, before, later, rfl, hcall, hlater⟩ := Routine.concludes_bind_iff.1 h
      obtain ⟨asked, hasked, hstruck⟩ := ih answer hlater
      refine ⟨⟨c, answer⟩ :: asked, Routine.concludes_call_iff.2 ⟨answer, asked, rfl, hasked⟩, ?_⟩
      rw [List.any_append, List.any_cons, strikes_pollCall hcall, hstruck]

/-- A poll is carried out by queries, and struck where they are. -/
theorem candid_readNew (ctx : JobContext) (query : MessageQuery) : Candid (readNew ctx query) := by
  have hpoll : Candid (poll ctx query) := by
    refine candid_withSession fun s es r h => ?_
    obtain ⟨asked, hasked, hstruck⟩ := candid_expand h
    rw [hstruck]
    exact Tail.poll_candid hasked
  refine (candid_ofOutcome _).andThen fun _ => hpoll.andThen fun report => ?_
  match report with
  | .initialized => exact candid_done rfl
  | .new _ => exact candid_done rfl

/-- Leaving the message out kills nobody. -/
theorem candid_recordsOnly {job : Job (List Record)} (h : Candid job) : Candid (recordsOnly job) :=
  h.andThen fun _ => candid_done rfl

end

end Handler

-- ============================================================ gathered, reported

/-- What a request has found when there is nothing more to ask. -/
inductive Findings where
  | result (r : Handler.Result)
  | disks (units : List DiskUnit)

/-- What is reported of it. -/
def Findings.report (o : Overflow) : Findings → Except Fault Handler.Result
  | result r => .ok r
  | disks units => (units.mapM (DiskUnit.toRecord o)).map fun records => ⟨records, none⟩

open Job Handler

/-- Carries a request out as far as there is anything to ask. -/
def gather (ctx : JobContext) (r : Request) : Job Findings :=
  match Check.ofCommand? r.command with
  | some .listDisks => do
      let handler ← obtain .disks
      return .disks (← unitsOf handler (r.text? "diskName"))
  | _ => do return .result (← carryOut ctx r)

section

variable {ctx : JobContext} {r : Request} {o : Overflow} {units : List DiskUnit}
  {es : List Exchange}

/-- A request gathers and then reports. -/
theorem carryOut_eq (ctx : JobContext) (r : Request) :
    carryOut ctx r
      = gather ctx r >>= fun found => ExceptT.mk (.done (found.report ctx.overflow)) := by
  unfold gather
  split
  next hcheck =>
    unfold carryOut
    rw [hcheck]
    show recordsOnly (listDisks ctx.overflow _) = _
    unfold recordsOnly listDisks disksOf
    simp only [bind_assoc]
    refine bind_congr fun handler => bind_congr fun units => ?_
    rw [pure_bind]
    unfold diskRecords Findings.report
    dsimp only
    cases units.mapM (DiskUnit.toRecord ctx.overflow) <;> rfl
  next =>
    rw [bind_assoc]
    exact (bind_pure (carryOut ctx r)).symm

/-- Nothing is asked while it reports. -/
theorem run_carryOut (ctx : JobContext) (r : Request) :
    (carryOut ctx r).run
      = (gather ctx r).run.bind fun found => .done (found.bind (Findings.report ctx.overflow)) := by
  rw [carryOut_eq]
  generalize gather ctx r = job
  refine congrArg (Routine.bind job.run) (funext fun found => ?_)
  cases found <;> rfl

/-- It can end with exactly what it makes of its findings. -/
theorem concludes_carryOut_iff {res : Except Fault Result} :
    (carryOut ctx r).run.Concludes es res ↔ ∃ found, (gather ctx r).run.Concludes es found
      ∧ res = found.bind (Findings.report ctx.overflow) := by
  rw [run_carryOut, Routine.concludes_bind_iff]
  constructor
  · rintro ⟨found, before, later, rfl, hfound, hlater⟩
    obtain ⟨rfl, rfl⟩ := Routine.concludes_done_iff.1 hlater
    rw [List.append_nil]
    exact ⟨found, hfound, rfl⟩
  · rintro ⟨found, hfound, rfl⟩
    exact ⟨found, es, [], (List.append_nil es).symm, hfound,
      Routine.concludes_done_iff.2 ⟨rfl, rfl⟩⟩

/-- However its calls are answered, what it ends with is made of its findings. -/
theorem ends_carryOut {σ : Type} {answers : σ → (c : Call) → Answer c → σ → Prop} {s s' : σ}
    {res : Except Fault Result} (h : Routine.Ends answers (carryOut ctx r).run s res s') :
    ∃ found, Routine.Ends answers (gather ctx r).run s found s'
      ∧ res = found.bind (Findings.report ctx.overflow) := by
  rw [run_carryOut] at h
  obtain ⟨found, s₁, hfound, hdone⟩ := Routine.ends_bind_iff.1 h
  obtain ⟨rfl, rfl⟩ := Routine.ends_done_iff.1 hdone
  exact ⟨found, hfound, rfl⟩

/-- Disk units cannot be listed if one of them overflows, where that is looked for. -/
theorem mapM_toRecord_eq_error_iff {e : Fault} :
    units.mapM (DiskUnit.toRecord o) = .error e
      ↔ e = .panicked ∧ o = .panics ∧ ∃ d ∈ units, ¬ d.Fits := by
  constructor
  · intro h
    obtain ⟨before, d, after, rfl, -, hd⟩ := mapM_eq_error_iff.1 h
    obtain ⟨rfl, rfl, hfits⟩ := DiskUnit.toRecord_eq_error_iff.1 hd
    exact ⟨rfl, rfl, d, List.mem_append_right before List.mem_cons_self, hfits⟩
  · rintro ⟨rfl, rfl, d, hd, hfits⟩
    cases hlist : units.mapM (DiskUnit.toRecord .panics) with
    | ok records =>
        obtain ⟨record, hrecord⟩ := exists_of_forall₂ (mapM_eq_ok_iff.1 hlist) d hd
        rw [DiskUnit.toRecord_eq_error_iff.2 ⟨rfl, rfl, hfits⟩] at hrecord
        cases hrecord
    | error e =>
        obtain ⟨before, d', after, rfl, -, hd'⟩ := mapM_eq_error_iff.1 hlist
        rw [(DiskUnit.toRecord_eq_error_iff.1 hd').1]

/-- An error that is reported has been found. -/
theorem failed_of_report {found : Except Fault Findings} {e : GatewayError}
    (h : found.bind (Findings.report o) = .error (.failed e)) : found = .error (.failed e) := by
  match found with
  | .error f =>
      cases h
      rfl
  | .ok (.result res) => cases h
  | .ok (.disks units) =>
      have hlist : (units.mapM (DiskUnit.toRecord o)).map _ = .error (.failed e) := h
      cases hrecords : units.mapM (DiskUnit.toRecord o) with
      | ok records =>
          rw [hrecords] at hlist
          cases hlist
      | error f =>
          rw [hrecords, (mapM_toRecord_eq_error_iff.1 hrecords).1] at hlist
          cases hlist

/-- Every request but for disk units is candid as a whole. -/
theorem candid_carryOut (hdisks : Check.ofCommand? r.command ≠ some .listDisks) :
    Candid (carryOut ctx r) := by
  unfold carryOut
  cases hcheck : Check.ofCommand? r.command with
  | none => exact candid_done rfl
  | some check =>
      cases check with
      | listJobs => exact candid_recordsOnly candid_listJobs
      | listDisks => exact absurd hcheck hdisks
      | listSubsystems => exact candid_recordsOnly candid_listSubsystems
      | getSystem => exact candid_recordsOnly candid_getSystem
      | pageFault => exact candid_recordsOnly candid_pageFault
      | executeCommand =>
          exact (candid_ofOutcome _).andThen fun command =>
            candid_recordsOnly (candid_executeCommand command)
      | getJobQueues =>
          exact (candid_ofOutcome _).andThen fun refs =>
            candid_recordsOnly (candid_getJobQueues refs)
      | getErrorMessageQueue => exact (candid_ofOutcome _).andThen candid_readAll
      | getNewMessageInMessageQueue => exact (candid_ofOutcome _).andThen (candid_readNew ctx)

/-- A worker that gathers dies exactly if it is struck. -/
theorem candid_gather (ctx : JobContext) (r : Request) : Candid (gather ctx r) := by
  unfold gather
  split
  · exact (candid_obtain .disks).andThen fun handler =>
      (candid_unitsOf handler _).andThen fun _ => candid_done rfl
  next hdisks => exact (candid_carryOut hdisks).andThen fun _ => candid_done rfl

/-- A worker dies over a request exactly if it is struck, or if it is built to look for
overflows and has found a disk unit to list whose capacities do not fit. -/
theorem dies_iff {res : Except Fault Result} (h : (carryOut ctx r).run.Concludes es res) :
    ∃ found, (gather ctx r).run.Concludes es found
      ∧ (isDeath res = true ↔ es.any Exchange.strikes = true
        ∨ ctx.overflow = .panics
          ∧ ∃ units, found = .ok (.disks units) ∧ ∃ d ∈ units, ¬ d.Fits) := by
  obtain ⟨found, hfound, rfl⟩ := concludes_carryOut_iff.1 h
  refine ⟨found, hfound, ?_⟩
  rw [← candid_gather ctx r es found hfound]
  match found with
  | .error e => cases e <;> simp [Except.bind, isDeath]
  | .ok (.result res) => simp [Except.bind, isDeath, Findings.report]
  | .ok (.disks units) =>
      have hdies : isDeath (Findings.report ctx.overflow (.disks units)) = true
          ↔ units.mapM (DiskUnit.toRecord ctx.overflow) = .error .panicked := by
        unfold Findings.report
        dsimp only
        cases units.mapM (DiskUnit.toRecord ctx.overflow) with
        | ok records => exact iff_of_false Bool.false_ne_true nofun
        | error e => cases e <;> simp [isDeath, Except.map]
      refine hdies.trans (mapM_toRecord_eq_error_iff.trans ?_)
      simp [isDeath]

end

-- ============================================================= in a gateway

namespace Gateway

/-- What a tenant's job asks while nobody else is at work, and what it is answered. -/
def dialogue {α : Type} (t : Nat) : JobRoutine α → Gateway → List Exchange
  | .done _, _ => []
  | .call c next, g =>
      match g.tenants[t]? with
      | none => []
      | some tenant =>
          match g.perform t tenant none c with
          | .answered a g => ⟨c, a⟩ :: dialogue t (next a) g
          | .waits _ _ => []

section

variable {α β : Type} {t : Nat} {g g' : Gateway} {routine : JobRoutine α} {a : α}

/-- A job that comes to its end has had a first call answered, unless it has none. -/
theorem answered_of_advance {c : Call} {next : Job.Answer c → JobRoutine α}
    (h : advance t none (.call c next) g = ((.done a, none), g')) :
    ∃ x g₁, advance t none (next x) g₁ = ((.done a, none), g')
      ∧ ∀ {γ : Type} (next' : Job.Answer c → JobRoutine γ),
        dialogue t (.call c next') g = ⟨c, x⟩ :: dialogue t (next' x) g₁ := by
  rw [advance] at h
  cases hx : g.tenants[t]? with
  | none =>
      rw [hx] at h
      cases h
  | some tenant =>
      rw [hx] at h
      dsimp only at h
      cases hperform : g.perform t tenant none c with
      | waits gate g₁ =>
          rw [hperform] at h
          cases h
      | answered x g₁ =>
          rw [hperform] at h
          refine ⟨x, g₁, h, fun next' => ?_⟩
          rw [dialogue, hx]
          dsimp only
          rw [hperform]

/-- A job that comes to its end concludes with this dialogue. -/
theorem concludes_dialogue (h : advance t none routine g = ((.done a, none), g')) :
    routine.Concludes (dialogue t routine g) a := by
  induction routine generalizing g with
  | done b =>
      cases h
      exact Routine.concludes_done_iff.2 ⟨rfl, rfl⟩
  | call c next ih =>
      obtain ⟨x, g₁, hrest, hdialogue⟩ := answered_of_advance h
      rw [hdialogue]
      exact Routine.concludes_call_iff.2 ⟨x, _, rfl, ih x hrest⟩

/-- What asks nothing adds nothing to it. -/
theorem dialogue_bind_done (h : advance t none routine g = ((.done a, none), g')) (f : α → β) :
    dialogue t (routine.bind fun a => .done (f a)) g = dialogue t routine g := by
  induction routine generalizing g with
  | done b => rfl
  | call c next ih =>
      obtain ⟨x, g₁, hrest, hdialogue⟩ := answered_of_advance h
      show dialogue t (.call c fun x => (next x).bind _) g = _
      rw [hdialogue, hdialogue, ih x hrest]

end

end Gateway

end CheckGateway
