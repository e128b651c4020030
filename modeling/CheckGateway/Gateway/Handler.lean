/-
What the checks do. A tenant keeps some handlers between requests: caches
of the active jobs and of the disk units, and a system handler with a
session of its own. They are made when they are first needed. Every other
check works on a session that it opens and closes itself.
-/
import CheckGateway.Gateway.Job
import CheckGateway.Message.Filter
import CheckGateway.Tail.Poll

namespace CheckGateway

/-- Whose jobs run, with which settings, and in which build. -/
structure JobContext where
  credentials : Credentials
  pageSize : Nat
  overflow : Overflow
  deriving Repr

namespace Handler

open Job

/-- Records, and a message if there is something to say. -/
structure Result where
  records : List Record
  message : Option String := none
  deriving Repr

-- ============================================================ handlers

/-- The handler of a kind, made if there is none. -/
def obtain (kind : HandlerKind) : Job Nat :=
  withLock (.slot kind) do
    let present : Option Nat ← askM (.handler kind)
    match present with
    | some handler => return handler
    | none => askM (.install kind)

/-- The system handler, made with a fresh session if there is none, and
held. -/
def obtainSystem : Job Nat :=
  withLock (.slot .system) do
    let present : Option Nat ← askM (.handler .system)
    let handler : Nat ← match present with
      | some handler => pure handler
      | none => do
          let session ← openSession
          askM (.installSystem session)
    askM (.hold handler)
    return handler

/-- Reads a cache under its lock, fetching if it must or is told to. -/
def readCache {α : Type} (lock : Lock) (load : Job (Cache α))
    (save : Cache α → Job Unit) (fetch : Job (List α)) (force : Bool) :
    Job (Read α) :=
  withLock lock do
    let cache ← load
    let held ← if force then pure none else cache.heldAt? <$> now
    match held with
    | some r => do
        save cache.countHit
        ofOutcome r
    | none => do
        save cache.countMiss
        let fetched ← attempt fetch
        let (r, cache) := cache.countMiss.settle fetched (← now)
        save cache
        ofOutcome r

/-- Fetches the rows of a query on a session of its own. -/
def fetchAll (α : Type) [RowShape α] (q : RemoteQuery) : Job (List α) :=
  withSession fun session => fetch α session q

-- ========================================================= active jobs

/-- Reads the active jobs. -/
def readJobs (handler : Nat) (force : Bool) : Job (Read ActiveJob) :=
  readCache (.jobCache handler) (askM (.jobCache handler))
    (fun c => askM (.saveJobCache handler c))
    (fetchAll ActiveJob .activeJobs) force

/-- The active jobs. -/
def listJobs : Job (List Record) := do
  let handler ← obtain .jobs
  let r ← readJobs handler false
  return r.items.map ActiveJob.toRecord

-- ========================================================== disk units

/-- Reads the disk units. -/
def readDisks (handler : Nat) (force : Bool) : Job (Read DiskUnit) :=
  readCache (.diskCache handler) (askM (.diskCache handler))
    (fun c => askM (.saveDiskCache handler c))
    (fetchAll DiskUnit .diskUnits) force

/-- The first disk unit with a name. -/
def findDisk? (disks : List DiskUnit) (name : String) : Option DiskUnit :=
  disks.find? fun d => d.resourceName == name

/-- The disk unit with a name. -/
def diskNamed (disks : List DiskUnit) (name : String) : Job (List DiskUnit) :=
  match findDisk? disks name with
  | some d => return [d]
  | none => fail (.notFound ("Disk " ++ name))

/-- The disk units to be listed: all of them, or the one with a name. One that
a kept snapshot lacks is looked for in a fresh one. -/
def unitsOf (handler : Nat) (name : Option String) : Job (List DiskUnit) := do
  let r ← readDisks handler false
  match name with
  | none => return r.items
  | some name =>
      if (findDisk? r.items name).isSome || !r.hit then
        diskNamed r.items name
      else do
        let r ← readDisks handler true
        diskNamed r.items name

/-- The records of disk units. The worker dies of a capacity that overflows
where that is looked for. -/
def diskRecords (o : Overflow) (disks : List DiskUnit) : Job (List Record) :=
  ExceptT.mk (return disks.mapM (DiskUnit.toRecord o))

/-- Lists the disk units, or the one with a name. No lock is held any more
when the records are written. -/
def disksOf (o : Overflow) (handler : Nat) (name : Option String) :
    Job (List Record) := do
  let disks ← unitsOf handler name
  diskRecords o disks

/-- The disk units, or the one with a name. -/
def listDisks (o : Overflow) (name : Option String) : Job (List Record) := do
  let handler ← obtain .disks
  disksOf o handler name

-- ========================================================== subsystems

/-- The attributes of a subsystem that are reported. -/
def subsystemFields : List String :=
  ["name", "path", "library", "status", "currentActiveJobs"]

/-- The subsystems. -/
def listSubsystems : Job (List Record) := do
  let _ ← obtain .subsystems
  let rows ← withSession fun session => query session .subsystems
  return rows.map (·.project subsystemFields)

-- ============================================================== system

/-- The attributes of the system that are reported. -/
def systemFields : List String :=
  ["percentProcessingUnitUsed", "percentSystemASPUsed", "maxJobInSystem",
    "jobInSystem", "activeJobInSystem", "activeThreadInSystem",
    "batchJobsEndedWithPrinterOutputWaitingToPrint", "batchJobEnding",
    "batchJobHeldInJobQueue", "batchJobHeldWhileRunning",
    "batchJobOnHeldJobQueue", "batchJobOnUnassignedJobQueue",
    "batchJobRunning", "batchJobWaitingForMessage",
    "batchJobWaitingToRunOrAlreadyScheduled"]

/-- The attributes of a memory pool that are reported. -/
def poolFields : List String :=
  ["id", "name", "dbPageFault", "dbPage", "nonDbPageFault", "nonDbPage"]

/-- Sends a query over the session of a system handler. When the
connection is lost, the query is sent once more over a new session, which
takes the place of the old one. -/
def systemQuery (handler : Nat) (q : RemoteQuery) : Job (List Record) :=
  withLock (.systemSession handler) do
    let session : Nat ← askM (.session handler)
    match ← attempt (query session q) with
    | .ok rows => return rows
    | .error e =>
        if e.isConnectionLoss then do
          let fresh ← openSession
          askM (.closeSession session)
          askM (.replaceSession handler fresh)
          query fresh q
        else fail e

/-- The figures about the whole system. -/
def getSystem : Job (List Record) := do
  let handler ← obtainSystem
  holding handler do
    match ← systemQuery handler .systemStatus with
    | row :: _ => return [row.project systemFields]
    | [] => fail (.protocol RemoteQuery.systemStatus.name "empty result")

/-- The memory pools. -/
def pageFault : Job (List Record) := do
  let handler ← obtainSystem
  holding handler do
    let rows ← systemQuery handler .systemPools
    return rows.map (·.project poolFields)

-- ============================================================ commands

/-- What a command's messages look like in a result. -/
def commandOutput (messages : List String) : String :=
  String.join (messages.map (· ++ "\n"))

/-- The record of a command that ran, or of one that could not be run. -/
def commandRecord (command : String) (run : Outcome CommandRun) : Record :=
  let base (status output : String) : Record :=
    .ofList
      [("cmdName", .string command), ("status", .string status),
        ("output", .string output)]
  match run with
  | .ok run =>
      if run.success then base "success" (commandOutput run.messages)
      else
        (base "failed" (commandOutput run.messages)).insert "message"
          (.string "command run failed")
  | .error e =>
      (base "failed" "").insert "message"
        (.string ("exception: " ++ e.message))

/-- Runs a command. A failure of the command is part of the record. -/
def executeCommand (command : String) : Job (List Record) := do
  let _ ← obtain .commands
  withSession fun session => do
    match ← attempt (fetch CommandRun session (.runCommand command)) with
    | .ok (run :: _) => return [commandRecord command (.ok run)]
    | .ok [] =>
        fail (.protocol (RemoteQuery.runCommand command).name "empty result")
    | .error e => return [commandRecord command (.error e)]

-- ========================================================== job queues

/-- How a job queue stands; there must be one of that name. -/
def jobQueueRecord (session : Nat) (ref : JobQueueRef) : Job Record := do
  match ← fetch JobQueueStatus session (.jobQueue ref.name ref.library) with
  | status :: _ => return status.toRecord
  | [] =>
      fail (.notFound
        ("JobQueue " ++ ref.name ++ " in library " ++ ref.library))

/-- How job queues stand, one after the other. -/
def jobQueueRecords (session : Nat) : List JobQueueRef → Job (List Record)
  | [] => return []
  | ref :: refs => do
      let r ← jobQueueRecord session ref
      let rs ← jobQueueRecords session refs
      return r :: rs

/-- How job queues stand. -/
def getJobQueues (refs : List JobQueueRef) : Job (List Record) :=
  withSession fun session => jobQueueRecords session refs

-- ====================================================== message queues

/-- The records of the entries that pass a filter. -/
def messageRecords (filter : MessageFilter) (entries : List QueuedMessage) :
    List Record :=
  (filter.apply entries).map QueuedMessage.toRecord

/-- Every entry of a queue that passes, oldest first. -/
def readAll (query : MessageQuery) : Job Result := do
  let filter ← ofOutcome (MessageFilter.ofQuery query)
  let entries ← fetchAll QueuedMessage (.messageQueueAll query.path)
  return ⟨messageRecords filter entries, none⟩

/-- Asks for the length of a queue. -/
def queueLength (session : Nat) (path : String) : Job Nat := do
  let q := RemoteQuery.messageQueueLength path
  ofOutcome (readLength q.name (← query session q))

/-- Reads a page of a queue. -/
def queuePage (session : Nat) (path : String) (offset count : Nat) :
    Job (List QueuedMessage) :=
  fetch QueuedMessage session (.messageQueuePage path offset count)

/-- What a poll asks, asked over a session. -/
def pollCall (session : Nat) :
    (c : Tail.Call) → JobRoutine (Tail.Answer Fault c)
  | .watermark key => ask (.watermark key)
  | .length path => (queueLength session path).run
  | .page path offset count => (queuePage session path offset count).run
  | .note key entry => ask (.note key entry)

/-- Polls a queue on a session of its own. -/
def poll (ctx : JobContext) (query : MessageQuery) : Job Tail.Report :=
  withSession fun session =>
    ExceptT.mk
      ((Tail.poll ctx.pageSize (.derive ctx.credentials query)
        query.path).expand (pollCall session))

/-- What the first poll of a query says. -/
def initializedMessage : String := "Initialisation of the local DB"

/-- The entries that are new since the last such request and pass, newest
first. -/
def readNew (ctx : JobContext) (query : MessageQuery) : Job Result := do
  let filter ← ofOutcome (MessageFilter.ofQuery query)
  match ← poll ctx query with
  | .initialized => return ⟨[], some initializedMessage⟩
  | .new entries => return ⟨messageRecords filter entries, none⟩

end Handler

end CheckGateway
