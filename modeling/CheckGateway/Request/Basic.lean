/-
Requests: who asks, for which check, with which arguments. The payload is
kept as it came, because two requests are the same request exactly if
their payloads are the same text. Arguments that are null count as absent.
-/
import CheckGateway.Request.Wire
import CheckGateway.Credentials
import CheckGateway.Check
import CheckGateway.Remote.Row
import CheckGateway.Json.Shown

namespace CheckGateway

/-- A request for a check. -/
structure Request where
  credentials : Credentials
  command : String
  args : Record
  /-- The payload that the request came in. -/
  payload : String
  deriving Repr

namespace Request

/-- A member that must be there and not null. -/
def required (name : String) (value : Option (Option String)) :
    Outcome String :=
  match value with
  | some (some s) => .ok s
  | _ => .error (.missingField name)

/-- Reads a payload. -/
def ofPayload (payload : String) : Outcome Request :=
  match Wire.read payload with
  | .error problem => .error (.malformed problem.message)
  | .ok m => do
      let host ← required "host" m.host
      let login ← required "login" m.login
      let password ← required "password" m.password
      let command ← required "command" m.command
      return ⟨⟨host, login, password⟩, command,
        (m.args.bind id).getD .empty, payload⟩

/-- The pool that works on the request. -/
def pool (r : Request) : PoolKind := .ofCommand r.command

/-- The value of an argument. -/
def arg? (r : Request) (name : String) : Option Json.Value :=
  (r.args.get? name).filter fun v => !v.isNull

/-- The text of an argument that is a text, a number or a boolean. -/
def text? (r : Request) (name : String) : Option String :=
  match r.arg? name with
  | some (.string s) => some s
  | some (.number n) => some n.text
  | some (.bool b) => some (if b then "true" else "false")
  | _ => none

/-- A signed number of 32 bits, or the default where the argument is no
such number and no text of one. -/
def int32D (r : Request) (name : String) (default : Int) : Int :=
  match r.arg? name with
  | some (.number n) => (n.within? Text.int32Min Text.int32Max).getD default
  | some (.string s) =>
      (Text.readInteger? Text.int32Min Text.int32Max (Text.trim s)).getD default
  | _ => default

/-- The job queue that an entry of a list names. -/
def queueRef (name : String) (entry : Record) : Outcome JobQueueRef :=
  match (entry.get? "name").bind Json.Value.asString?,
      (entry.get? "library").bind Json.Value.asString? with
  | some queue, some library => .ok ⟨queue, library⟩
  | _, _ =>
      .error (.invalidArgument name
        "JobQueue name/library attribute must be set")

/-- The entries of a list of maps, given as such or as its text. -/
def mapList : Json.Value → Except Json.Problem (List Record)
  | .string text => Wire.readMapList text
  | v => Json.Decode.sequence Json.Decode.map v

/-- The job queues that an argument names; at least one. -/
def queueRefs (r : Request) (name : String) : Outcome (List JobQueueRef) :=
  match r.arg? name with
  | none => .error (.missingField name)
  | some v =>
      match mapList v with
      | .error problem => .error (.invalidArgument name problem.message)
      | .ok [] => .error (.missingField name)
      | .ok entries => entries.mapM (queueRef name)

/-- The request as diagnostics show it, without its payload. -/
def shown (r : Request) : String :=
  "CheckRequest \x7b credentials: " ++ r.credentials.shown ++ ", command: "
    ++ Text.quoted r.command ++ ", args: " ++ r.args.shown ++ ", .. \x7d"

end Request

end CheckGateway
