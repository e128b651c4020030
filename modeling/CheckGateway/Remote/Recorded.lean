/-
A session over recorded answers, in the hands of one owner. It answers
queries with what was recorded, in order, until the owner closes it or
lets it go; either way it is disconnected exactly once.
-/
import CheckGateway.Remote.Query
import CheckGateway.Remote.Row
import CheckGateway.Text.Quoted

namespace CheckGateway

/-- A session that answers with what was recorded. -/
structure RecordedSession where
  host : String
  answers : List (Outcome (List Record))
  isOpen : Bool := true
  disconnects : Nat := 0

namespace RecordedSession

/-- Sends a query. -/
def query (s : RecordedSession) (q : RemoteQuery) :
    Outcome (List Record) × RecordedSession :=
  if s.isOpen then
    match s.answers with
    | [] => (.error (.protocol q.name "no answer"), s)
    | answer :: later => (answer, { s with answers := later })
  else (.error (.protocol q.name "session already closed"), s)

/-- Sends a query and reads its rows. -/
def fetch (α : Type) [RowShape α] (s : RecordedSession) (q : RemoteQuery) :
    Outcome (List α) × RecordedSession :=
  let (rows, s) := s.query q
  (rows.bind (readRows α q.name), s)

/-- Asks for the length of a message queue. -/
def queueLength (s : RecordedSession) (path : String) :
    Outcome Nat × RecordedSession :=
  let q := RemoteQuery.messageQueueLength path
  let (rows, s) := s.query q
  (rows.bind (readLength q.name), s)

/-- Reads a page of a message queue. -/
def queuePage (s : RecordedSession) (path : String) (offset count : Nat) :
    Outcome (List QueuedMessage) × RecordedSession :=
  s.fetch QueuedMessage (.messageQueuePage path offset count)

/-- Closes the session, or lets it go. -/
def close (s : RecordedSession) : RecordedSession :=
  if s.isOpen then
    { s with isOpen := false, disconnects := s.disconnects + 1 }
  else s

/-- The session as diagnostics show it. -/
def shown (s : RecordedSession) : String :=
  "SessionGuard \x7b host: " ++ Text.quoted s.host ++ ", open: "
    ++ (if s.isOpen then "true" else "false") ++ " \x7d"

end RecordedSession

end CheckGateway
