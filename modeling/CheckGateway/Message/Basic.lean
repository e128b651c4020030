/-
Entries of remote message queues, and which of them a reader asks for: a
queue, a band of severities and, if wanted, a pattern for the identifier.
An entry is the same entry whether or not it has been answered since.
-/
import CheckGateway.Time.Timestamp
import CheckGateway.Json.Value

namespace CheckGateway

/-- An entry of a message queue. -/
structure QueuedMessage where
  date : Timestamp
  severity : Int
  id : Option String := none
  text : Option String := none
  fromJobName : Option String := none
  fromJobNumber : Option String := none
  user : Option String := none
  replyStatus : Option String := none
  deriving DecidableEq, Repr

namespace QueuedMessage

/-- The reply status of an entry that has been answered. -/
def answeredStatus : String := "A"

/-- Somebody has answered the entry. -/
def isAcknowledged (m : QueuedMessage) : Bool :=
  m.replyStatus == some answeredStatus

/-- The entry without its reply status. -/
def unanswered (m : QueuedMessage) : QueuedMessage :=
  { m with replyStatus := none }

/-- Two values are one entry, answered or not. -/
def sameEntry (a b : QueuedMessage) : Bool :=
  a.date == b.date && a.severity == b.severity && a.id == b.id
    && a.text == b.text && a.fromJobName == b.fromJobName
    && a.fromJobNumber == b.fromJobNumber && a.user == b.user

theorem sameEntry_iff (a b : QueuedMessage) :
    a.sameEntry b = true ↔ a.unanswered = b.unanswered := by
  cases a
  cases b
  simp [sameEntry, unanswered, and_assoc]

/-- The entry as a result. -/
def toRecord (m : QueuedMessage) : Record :=
  .ofList
    [("id", .stringOrNull m.id), ("text", .stringOrNull m.text),
      ("severity", .int m.severity), ("date", .int m.date.epochMillis),
      ("jobName", .stringOrNull m.fromJobName),
      ("jobNumber", .stringOrNull m.fromJobNumber),
      ("user", .stringOrNull m.user)]

end QueuedMessage

/-- A band of severities, from its minimum up to but not including its
maximum. -/
structure SeverityBand where
  min : Int := Text.int32Min
  max : Int := Text.int32Max
  deriving DecidableEq, Repr

/-- The severity lies in the band. -/
def SeverityBand.contains (band : SeverityBand) (severity : Int) : Bool :=
  band.min ≤ severity && severity < band.max

/-- Which entries of which queue a reader asks for. -/
structure MessageQuery where
  path : String
  idPattern : Option String := none
  band : SeverityBand := {}
  deriving DecidableEq, Repr

end CheckGateway
