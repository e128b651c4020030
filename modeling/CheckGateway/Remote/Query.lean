/-
Queries to a remote system: a name and named parameters.
-/
import CheckGateway.Json.Value

namespace CheckGateway

/-- A question to a remote system. -/
structure RemoteQuery where
  name : String
  params : Record := .empty
  deriving Repr

namespace RemoteQuery

/-- The query with a parameter set. -/
def withParam (q : RemoteQuery) (name : String) (value : Json.Value) :
    RemoteQuery :=
  { q with params := q.params.insert name value }

/-- The text of a parameter. -/
def text? (q : RemoteQuery) (name : String) : Option String :=
  (q.params.get? name).bind Json.Value.asString?

/-- The natural number that a parameter is. -/
def natural? (q : RemoteQuery) (name : String) : Option Nat :=
  (q.params.get? name).bind Json.Value.asNat64?

-- ======================================================= known queries

/-- The running jobs. -/
def activeJobs : RemoteQuery := ⟨"activeJobs", .empty⟩

/-- The disk units. -/
def diskUnits : RemoteQuery := ⟨"diskUnits", .empty⟩

/-- The subsystems. -/
def subsystems : RemoteQuery := ⟨"subsystems", .empty⟩

/-- One row of figures about the whole system. -/
def systemStatus : RemoteQuery := ⟨"systemStatus", .empty⟩

/-- The memory pools. -/
def systemPools : RemoteQuery := ⟨"systemPools", .empty⟩

/-- How one job queue stands. -/
def jobQueue (name library : String) : RemoteQuery :=
  (RemoteQuery.mk "jobQueue" .empty).withParam "name" (.string name)
    |>.withParam "library" (.string library)

/-- Runs a command. -/
def runCommand (command : String) : RemoteQuery :=
  (RemoteQuery.mk "runCommand" .empty).withParam "command" (.string command)

/-- How many entries a message queue has. -/
def messageQueueLength (path : String) : RemoteQuery :=
  (RemoteQuery.mk "messageQueueLength" .empty).withParam "path" (.string path)

/-- Entries of a message queue, newest first. -/
def messageQueuePage (path : String) (offset count : Nat) : RemoteQuery :=
  (RemoteQuery.mk "messageQueuePage" .empty).withParam "path" (.string path)
    |>.withParam "offset" (.nat offset) |>.withParam "count" (.nat count)

/-- Every entry of a message queue, oldest first. -/
def messageQueueAll (path : String) : RemoteQuery :=
  (RemoteQuery.mk "messageQueueAll" .empty).withParam "path" (.string path)

end RemoteQuery

end CheckGateway
