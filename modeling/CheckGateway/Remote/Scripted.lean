/-
A remote system that follows a script. It answers every known query from
its data, counts what is asked of it, can be told to fail or to die, and
can hold queries at a gate. On top of the script, single failures can be
queued, the rows of good answers replaced, and everything that happens is
logged. A script may also give its answers as a function of what is asked,
in the place of all data and failures, and with another script at any time
a remote system may do as it likes.

A query goes through in two parts: `send` is what happens at once, and a
query that has to wait at a gate gets its answer from `answer` when the
gate is open.
-/
import CheckGateway.Config
import CheckGateway.Credentials
import CheckGateway.Gate
import CheckGateway.Remote.Query
import CheckGateway.Remote.Row
import CheckGateway.Table

namespace CheckGateway

/-- What a scripted remote system has logged. -/
inductive LogEntry where
  | opened (session : Nat) (who : Credentials) (policy : SocketPolicy)
  | queried (session : Nat) (query : RemoteQuery)
  | disconnected (session : Nat)
  deriving Repr

/-- The data and the faults of a scripted remote system. -/
structure Script where
  jobs : List ActiveJob := []
  disks : List DiskUnit := []
  subsystems : List Record := []
  systemStatus : Record := .empty
  pools : List Record := []
  jobQueues : List JobQueueStatus := []
  commands : Table String CommandRun := .empty
  /-- Entries by queue, oldest first. -/
  messages : Table String (List QueuedMessage) := .empty
  /-- Queries that fail until further notice. -/
  queryFailures : Table String GatewayError := .empty
  openFailure : Option GatewayError := none
  /-- Queries in which the remote system dies. -/
  panics : List String := []
  /-- Failures that are used up one by one, before anything else. -/
  failOnce : Table String (List GatewayError) := .empty
  /-- Rows that take the place of those of a good answer. -/
  rows : Table String (List Record) := .empty
  panicOpen : Bool := false
  /-- Answers that take the place of all the others: a remote system may be
  any function of what it is asked. -/
  answers : RemoteQuery → Option (Except Fault (List Record)) := fun _ => none

namespace Script

/-- The entries of the queue that a query names. -/
def queue (s : Script) (q : RemoteQuery) : Outcome (List QueuedMessage) :=
  let path := (q.text? "path").getD ""
  match s.messages.get? path with
  | some entries => .ok entries
  | none => .error (.protocol q.name ("no message queue " ++ path))

/-- The data that answer a query. -/
def data (s : Script) (q : RemoteQuery) : Outcome (List Record) :=
  match q.name with
  | "activeJobs" => .ok (writeRows s.jobs)
  | "diskUnits" => .ok (writeRows s.disks)
  | "subsystems" => .ok s.subsystems
  | "systemStatus" => .ok [s.systemStatus]
  | "systemPools" => .ok s.pools
  | "jobQueue" =>
      let name := (q.text? "name").getD ""
      let library := (q.text? "library").getD ""
      .ok (writeRows (s.jobQueues.filter fun jq =>
        jq.name == name && jq.library == library))
  | "runCommand" =>
      let command := (q.text? "command").getD ""
      .ok (writeRows [(s.commands.get? command).getD ⟨true, []⟩])
  | "messageQueueLength" => do
      let entries ← s.queue q
      return [Record.empty.insert "length" (.nat entries.length)]
  | "messageQueuePage" => do
      let entries ← s.queue q
      let offset := (q.natural? "offset").getD 0
      let count := (q.natural? "count").getD Text.nat64Max
      return writeRows ((entries.reverse.drop offset).take count)
  | "messageQueueAll" => do return writeRows (← s.queue q)
  | other => .error (.protocol other "unknown query")

/-- The answer to a query that nothing holds up. -/
def answer (s : Script) (q : RemoteQuery) : Except Fault (List Record) :=
  match s.answers q with
  | some answer => answer
  | none =>
      if s.panics.contains q.name then .error .panicked
      else
        match s.queryFailures.get? q.name with
        | some e => .error (.failed e)
        | none =>
            match s.data q with
            | .error e => .error (.failed e)
            | .ok rows => .ok ((s.rows.get? q.name).getD rows)

end Script

/-- A scripted remote system. -/
structure ScriptedRemote where
  script : Script := {}
  /-- Every gate there has been, and the one of each query. -/
  gates : List Gate := []
  gateOf : Table String Nat := .empty
  /-- Attempts to open a session; a session has the number of its attempt. -/
  attempts : Nat := 0
  opens : Nat := 0
  disconnects : Nat := 0
  connected : List Nat := []
  queries : Table String Nat := .empty
  log : List LogEntry := []

namespace ScriptedRemote

/-- Sessions opened and not disconnected. -/
def openSessions (r : ScriptedRemote) : Nat := r.opens - r.disconnects

/-- How often a query has been run. -/
def queryCount (r : ScriptedRemote) (name : String) : Nat :=
  (r.queries.get? name).getD 0

/-- The remote system with an entry at the end of its log. -/
def record (r : ScriptedRemote) (entry : LogEntry) : ScriptedRemote :=
  { r with log := r.log ++ [entry] }

/-- Opens a session. -/
def openSession (r : ScriptedRemote) (who : Credentials)
    (policy : SocketPolicy) : Except Fault Nat × ScriptedRemote :=
  let n := r.attempts + 1
  let r := { r with attempts := n }.record (.opened n who policy)
  if r.script.panicOpen then (.error .panicked, r)
  else
    match r.script.openFailure with
    | some e => (.error (.failed e), r)
    | none =>
        (.ok n, { r with opens := r.opens + 1, connected := n :: r.connected })

/-- Disconnects a session, unless it is disconnected already. -/
def disconnect (r : ScriptedRemote) (session : Nat) : ScriptedRemote :=
  let r := r.record (.disconnected session)
  if r.connected.contains session then
    { r with
      disconnects := r.disconnects + 1
      connected := r.connected.erase session }
  else r

/-- What becomes of a query at once. -/
inductive Sent where
  | answered (rows : Except Fault (List Record))
  /-- It waits at a gate. -/
  | held (gate : Nat)

/-- The gate with a number is open. -/
def isOpen (r : ScriptedRemote) (gate : Nat) : Bool :=
  (r.gates[gate]?.map Gate.isOpen).getD true

/-- Counts a query and takes it to its gate. -/
def accept (r : ScriptedRemote) (q : RemoteQuery) : Sent × ScriptedRemote :=
  let r := { r with queries := r.queries.insert q.name (r.queryCount q.name + 1) }
  match r.gateOf.get? q.name with
  | none => (.answered (r.script.answer q), r)
  | some gate =>
      let r := { r with gates := r.gates.modify gate Gate.arrive }
      if r.isOpen gate then (.answered (r.script.answer q), r)
      else (.held gate, r)

/-- Sends a query over a session. -/
def send (r : ScriptedRemote) (session : Nat) (q : RemoteQuery) :
    Sent × ScriptedRemote :=
  let r := r.record (.queried session q)
  match r.script.failOnce.get? q.name with
  | some (e :: later) =>
      (.answered (.error (.failed e)),
        { r with
          script :=
            { r.script with failOnce := r.script.failOnce.insert q.name later } })
  | _ =>
      if r.connected.contains session then r.accept q
      else
        (.answered (.error (.failed (.protocol q.name "session disconnected"))),
          r)

/-- Puts a closed gate before a query. -/
def closeGate (r : ScriptedRemote) (query : String) : ScriptedRemote :=
  { r with
    gates := r.gates ++ [{}]
    gateOf := r.gateOf.insert query r.gates.length }

/-- Opens the gate before a query. -/
def openGate (r : ScriptedRemote) (query : String) : ScriptedRemote :=
  match r.gateOf.get? query with
  | some gate => { r with gates := r.gates.modify gate Gate.opened }
  | none => r

/-- How many have come to the gate before a query. -/
def reached (r : ScriptedRemote) (query : String) : Nat :=
  ((r.gateOf.get? query).bind fun gate =>
    r.gates[gate]?.map Gate.reached).getD 0

/-- The log, and the remote system with an empty one. -/
def takeLog (r : ScriptedRemote) : List LogEntry × ScriptedRemote :=
  (r.log, { r with log := [] })

end ScriptedRemote

end CheckGateway
