/-
Carrying out a request: the command decides on the check, the arguments
are read, and only then does the check's handler begin.
-/
import CheckGateway.Gateway.Handler
import CheckGateway.Request.Basic
import CheckGateway.Response

namespace CheckGateway

namespace Request

/-- An argument that must be a text, a number or a boolean. -/
def requiredText (r : Request) (name : String) : Outcome String :=
  match r.text? name with
  | some s => .ok s
  | none => .error (.missingField name)

/-- The message queue query that the arguments describe. -/
def messageQuery (r : Request) : Outcome MessageQuery := do
  let path ← r.requiredText "messageQueuePath"
  let band : SeverityBand :=
    { min := r.int32D "minSeverityLevel" Text.int32Min
      max := r.int32D "maxSeverityLevel" Text.int32Max }
  return ⟨path, r.text? MessageFilter.patternField, band⟩

end Request

open Handler Job

/-- The result of a check that only gives records. -/
def Handler.recordsOnly (job : Job (List Record)) : Job Result := do
  return ⟨← job, none⟩

/-- Carries out a request. -/
def carryOut (ctx : JobContext) (r : Request) : Job Result :=
  match Check.ofCommand? r.command with
  | none => fail (.unknownCheck r.command)
  | some check =>
      match check with
      | .listJobs => recordsOnly listJobs
      | .listDisks =>
          recordsOnly (listDisks ctx.overflow (r.text? "diskName"))
      | .listSubsystems => recordsOnly listSubsystems
      | .getSystem => recordsOnly getSystem
      | .pageFault => recordsOnly pageFault
      | .executeCommand => do
          let command ← ofOutcome (r.requiredText "cmdName")
          recordsOnly (executeCommand command)
      | .getJobQueues => do
          let refs ← ofOutcome (r.queueRefs "queues")
          recordsOnly (getJobQueues refs)
      | .getErrorMessageQueue => do
          let query ← ofOutcome r.messageQuery
          readAll query
      | .getNewMessageInMessageQueue => do
          let query ← ofOutcome r.messageQuery
          readNew ctx query

/-- The answer to a request that was carried out; `none` if the worker
died over it. -/
def Response.ofWork : Except Fault Result → Option Response
  | .ok r => some (.ofRecords r.records r.message)
  | .error (.failed e) => some (.ofError e)
  | .error .panicked => none

/-- What a worker does with a request. -/
def work (ctx : JobContext) (r : Request) : JobRoutine (Option Response) := do
  let outcome ← (carryOut ctx r).run
  return Response.ofWork outcome

end CheckGateway
