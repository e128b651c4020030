/-
What jobs do about slots, whatever they are answered.

What is done while a slot is locked is to look for a handler and to make one, and
nobody dies over that; only a system handler takes a session to make. So no job gives
the lock of another slot back poisoned (`gentle_work`).
-/
import CheckGateway.Proofs.Gateway.Making

namespace CheckGateway

namespace Job

/-- A routine makes only calls of a kind. -/
structure Asks {α : Type} (P : Call → Prop) (r : JobRoutine α) : Prop where
  makes : r.Makes P

end Job

namespace Handler

open Job

-- ===================================================================== the slots

/-- The call poisons no slot but the system's. -/
def Gentle (c : Call) : Prop := ∀ kind, kind ≠ .system → c ≠ .release (.slot kind) true

section

variable {α : Type} {c : Call} {q : RemoteQuery} {handler : Nat}

/-- Only giving a lock back can poison it. -/
theorem gentle_of_other (h : ∀ lock poison, c ≠ .release lock poison) : Gentle c :=
  fun _ _ => h _ _

/-- Whoever obtains a handler that takes no session to make is alive when he gives the
lock of its slot back. -/
theorem gentle_obtain (kind : HandlerKind) : (obtain kind).run.Makes Gentle := by
  refine ⟨gentle_of_other nofun, fun taken => ?_⟩
  match taken with
  | false => exact trivial
  | true =>
      refine ⟨gentle_of_other nofun, fun present => ?_⟩
      have hrelease : Gentle (.release (.slot kind) false) := fun _ _ => nofun
      match present with
      | some handler => exact ⟨hrelease, fun _ => trivial⟩
      | none => exact ⟨gentle_of_other nofun, fun _ => ⟨hrelease, fun _ => trivial⟩⟩

/-- A lock that is none of these slots may be poisoned. -/
theorem gentle_withLock {lock : Lock} {body : Job α}
    (hlock : ∀ kind, kind ≠ .system → lock ≠ .slot kind) (h : body.run.Makes Gentle) :
    (withLock lock body).run.Makes Gentle := by
  refine makes_withLock (gentle_of_other nofun) (fun poison kind hkind heq => ?_) h
  cases heq
  exact hlock kind hkind rfl

/-- A fetch takes no lock. -/
theorem gentle_fetchAll [RowShape α] : (fetchAll α q).run.Makes Gentle :=
  makes_fetchAll (gentle_of_other nofun) (fun _ => gentle_of_other nofun)
    fun _ => gentle_of_other nofun

/-- A cache dies of its source, but its lock is no slot. -/
theorem gentle_readCache {lock : Lock} {load : Job (Cache α)} {save : Cache α → Job Unit}
    {fetch : Job (List α)} (force : Bool) (hlock : ∀ kind, kind ≠ .system → lock ≠ .slot kind)
    (hload : load.run.Makes Gentle) (hsave : ∀ c, (save c).run.Makes Gentle)
    (hfetch : fetch.run.Makes Gentle) :
    (readCache lock load save fetch force).run.Makes Gentle := by
  have hnow : Job.now.run.Makes Gentle := makes_askM (gentle_of_other nofun)
  refine gentle_withLock hlock (makes_andThen hload fun cache => ?_)
  extract_lets goOn
  have hgoOn : ∀ held, (goOn held).run.Makes Gentle := by
    intro held
    match held with
    | some r => exact makes_andThen (hsave _) fun _ => makes_ofOutcome r
    | none =>
        refine makes_andThen (hsave _) fun _ => ?_
        refine makes_andThen (makes_attempt hfetch) fun fetched => makes_andThen hnow fun time => ?_
        exact makes_andThen (hsave _) fun _ => makes_ofOutcome _
  cases force with
  | true =>
      have hnone : (pure none : Job (Option (Outcome (Read α)))).run.Makes Gentle := trivial
      exact makes_andThen hnone hgoOn
  | false =>
      refine makes_andThen ?_ hgoOn
      exact makes_andThen (f := fun time => pure (cache.heldAt? time)) hnow fun _ => trivial

/-- The slot of the active jobs is given back before the cache is read. -/
theorem gentle_listJobs : listJobs.run.Makes Gentle := by
  refine makes_andThen (gentle_obtain .jobs) fun handler => ?_
  refine makes_andThen ?_ fun _ => trivial
  exact gentle_readCache false (fun _ _ => nofun) (makes_askM (gentle_of_other nofun))
    (fun _ => makes_askM (gentle_of_other nofun)) gentle_fetchAll

/-- The lock of the disk units is no slot. -/
theorem gentle_readDisks (handler : Nat) (force : Bool) :
    (readDisks handler force).run.Makes Gentle :=
  gentle_readCache force (fun _ _ => nofun) (makes_askM (gentle_of_other nofun))
    (fun _ => makes_askM (gentle_of_other nofun)) gentle_fetchAll

/-- Finding a unit takes no call. -/
theorem gentle_diskNamed (disks : List DiskUnit) (name : String) :
    (diskNamed disks name).run.Makes Gentle := by
  unfold diskNamed
  split <;> exact trivial

/-- Units are found in one snapshot or in two. -/
theorem gentle_unitsOf (handler : Nat) (name : Option String) :
    (unitsOf handler name).run.Makes Gentle := by
  refine makes_andThen (gentle_readDisks handler false) fun r => ?_
  match name with
  | none => exact trivial
  | some name =>
      dsimp only
      split
      · exact gentle_diskNamed _ name
      · exact makes_andThen (gentle_readDisks handler true) fun r => gentle_diskNamed _ name

/-- The slot of the disk units is given back before the cache is read. -/
theorem gentle_listDisks (o : Overflow) (name : Option String) :
    (listDisks o name).run.Makes Gentle :=
  makes_andThen (gentle_obtain .disks) fun handler =>
    makes_andThen (gentle_unitsOf handler name) fun _ => trivial

/-- The subsystems are fetched when their slot has been given back. -/
theorem gentle_listSubsystems : listSubsystems.run.Makes Gentle := by
  refine makes_andThen (gentle_obtain .subsystems) fun _ => ?_
  refine makes_andThen ?_ fun _ => trivial
  exact makes_withSession (gentle_of_other nofun) (fun _ => gentle_of_other nofun)
    fun _ => makes_query (gentle_of_other nofun)

/-- The system handler is the one whose slot may be poisoned. -/
theorem gentle_obtainSystem : obtainSystem.run.Makes Gentle := by
  refine gentle_withLock (fun kind hkind heq => hkind (Lock.slot.inj heq).symm) ?_
  refine ⟨gentle_of_other nofun, fun present => ?_⟩
  have hhold (handler : Nat) : Gentle (.hold handler) := gentle_of_other nofun
  match present with
  | some handler => exact ⟨hhold handler, fun _ => trivial⟩
  | none =>
      refine ⟨gentle_of_other nofun, fun opened => ?_⟩
      match opened with
      | .error e => exact trivial
      | .ok session =>
          exact ⟨gentle_of_other nofun, fun handler => ⟨hhold handler, fun _ => trivial⟩⟩

/-- A system session has a lock of its own. -/
theorem gentle_systemQuery (handler : Nat) (q : RemoteQuery) :
    (systemQuery handler q).run.Makes Gentle := by
  have hquery (s : Nat) : (query s q).run.Makes Gentle := makes_query (gentle_of_other nofun)
  refine gentle_withLock (fun _ _ => nofun) ⟨gentle_of_other nofun, fun session => ?_⟩
  refine makes_andThen (makes_attempt (hquery _)) fun r => ?_
  match r with
  | .ok rows => exact trivial
  | .error e =>
      dsimp only
      split
      · refine ⟨gentle_of_other nofun, fun opened => ?_⟩
        match opened with
        | .error e => exact trivial
        | .ok fresh =>
            exact ⟨gentle_of_other nofun, fun _ => ⟨gentle_of_other nofun, fun _ => hquery fresh⟩⟩
      · exact trivial

/-- The figures of the system are asked for when the slot has been given back. -/
theorem gentle_getSystem : getSystem.run.Makes Gentle := by
  refine makes_andThen gentle_obtainSystem fun handler => ?_
  refine makes_holding (gentle_of_other nofun) ?_
  refine makes_andThen (gentle_systemQuery handler _) fun rows => ?_
  match rows with
  | _ :: _ => exact trivial
  | [] => exact trivial

/-- So are those of the memory pools. -/
theorem gentle_pageFault : pageFault.run.Makes Gentle := by
  refine makes_andThen gentle_obtainSystem fun handler => ?_
  refine makes_holding (gentle_of_other nofun) ?_
  exact makes_andThen (gentle_systemQuery handler _) fun _ => trivial

/-- A session is opened and closed without a lock. -/
theorem gentle_withSession {body : Nat → Job α} (h : ∀ s, (body s).run.Makes Gentle) :
    (withSession body).run.Makes Gentle :=
  makes_withSession (gentle_of_other nofun) (fun _ => gentle_of_other nofun) h

/-- A command runs when the slot of commands has been given back. -/
theorem gentle_executeCommand (command : String) : (executeCommand command).run.Makes Gentle := by
  rw [executeCommand_eq]
  refine makes_andThen (gentle_obtain .commands) fun _ => ?_
  exact gentle_withSession fun s => makes_runOver (gentle_of_other nofun)

/-- Job queues are asked for without any lock. -/
theorem gentle_getJobQueues (refs : List JobQueueRef) : (getJobQueues refs).run.Makes Gentle := by
  refine gentle_withSession fun s => makes_jobQueueRecords (fun name library => ?_) refs
  exact gentle_of_other nofun

/-- A queue is read without any lock. -/
theorem gentle_readAll (query : MessageQuery) : (readAll query).run.Makes Gentle :=
  makes_andThen (makes_ofOutcome _) fun _ => makes_andThen gentle_fetchAll fun _ => trivial

/-- A queue is polled without any lock. -/
theorem gentle_readNew (ctx : JobContext) (query : MessageQuery) :
    (readNew ctx query).run.Makes Gentle := by
  have hpoll : (poll ctx query).run.Makes Gentle := by
    refine gentle_withSession fun s => makes_expand (makes_pollCall ?_ ?_ ?_ ?_) _
    · exact fun _ => gentle_of_other nofun
    · exact fun _ _ => gentle_of_other nofun
    · exact fun _ => gentle_of_other nofun
    · exact fun _ _ _ => gentle_of_other nofun
  refine makes_andThen (makes_ofOutcome _) fun _ => makes_andThen hpoll fun report => ?_
  match report with
  | .initialized => exact trivial
  | .new _ => exact trivial

/-- Leaving the message out takes no call. -/
theorem gentle_recordsOnly {job : Job (List Record)} (h : job.run.Makes Gentle) :
    (recordsOnly job).run.Makes Gentle := makes_andThen h fun _ => trivial

/-- No check poisons a slot but the system's. -/
theorem gentle_carryOut (ctx : JobContext) (r : Request) : (carryOut ctx r).run.Makes Gentle := by
  unfold carryOut
  cases Check.ofCommand? r.command with
  | none => exact trivial
  | some check =>
      cases check with
      | listJobs => exact gentle_recordsOnly gentle_listJobs
      | listDisks => exact gentle_recordsOnly (gentle_listDisks _ _)
      | listSubsystems => exact gentle_recordsOnly gentle_listSubsystems
      | getSystem => exact gentle_recordsOnly gentle_getSystem
      | pageFault => exact gentle_recordsOnly gentle_pageFault
      | executeCommand =>
          exact makes_andThen (makes_ofOutcome _) fun _ =>
            gentle_recordsOnly (gentle_executeCommand _)
      | getJobQueues =>
          exact makes_andThen (makes_ofOutcome _) fun _ =>
            gentle_recordsOnly (gentle_getJobQueues _)
      | getErrorMessageQueue =>
          exact makes_andThen (makes_ofOutcome _) fun _ => gentle_readAll _
      | getNewMessageInMessageQueue =>
          exact makes_andThen (makes_ofOutcome _) fun _ => gentle_readNew ctx _

/-- Whatever is asked for, no job poisons a slot but the system's. -/
theorem gentle_work (ctx : JobContext) (r : Request) : Asks Gentle (work ctx r) := by
  have hcarried := gentle_carryOut ctx r
  constructor
  unfold work
  generalize (carryOut ctx r).run = routine at hcarried
  exact Routine.Makes.bind hcarried fun _ => trivial

end

end Handler

end CheckGateway
