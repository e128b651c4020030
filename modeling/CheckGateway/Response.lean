/-
The answer to a request: a code, a message if there is something to say,
how long the work took, and the resulting records. An error answer has a
message and no records.
-/
import CheckGateway.Error
import CheckGateway.Json.Decode

namespace CheckGateway

/-- Whether a request succeeded. -/
inductive ResponseCode where
  | ok | error
  deriving DecidableEq, Repr

/-- The number that stands for a code. -/
def ResponseCode.number : ResponseCode → Nat
  | ok => 0
  | error => 1

/-- The code of a number: every number but zero is an error. -/
def ResponseCode.ofNumber (n : Nat) : ResponseCode :=
  if n = 0 then ok else error

/-- The answer to a request. -/
structure Response where
  code : ResponseCode
  message : Option String
  /-- In milliseconds. -/
  duration : Nat := 0
  result : List Record
  deriving Repr

namespace Response

/-- A successful answer. -/
def ofRecords (result : List Record) (message : Option String := none) :
    Response :=
  ⟨.ok, message, 0, result⟩

/-- A failure in given words. -/
def failure (message : String) : Response := ⟨.error, some message, 0, []⟩

/-- The answer to a request that failed. -/
def ofError (e : GatewayError) : Response := failure e.message

/-- The answer with its duration, in milliseconds as far as 64 bits go. -/
def withDuration (r : Response) (seconds nanos : Nat) : Response :=
  { r with duration := (seconds * 1000 + nanos / 1000000).min Text.nat64Max }

/-- The request succeeded. -/
def isOk (r : Response) : Bool := r.code == .ok

/-- The answer as an object. -/
def toValue (r : Response) : Json.Value :=
  (Record.ofList
    [("code", .nat r.code.number), ("message", .stringOrNull r.message),
      ("requestDuration", .nat r.duration),
      ("result", .array (r.result.map Record.toValue))]).toValue

open Json.Decode in
/-- Reads an answer from its four parts in order. -/
def ofArray (items : List Json.Value) : Except Json.Problem Response := do
  let shape := "struct CheckResponse with 4 elements"
  let item (i : Nat) : Except Json.Problem Json.Value :=
    match items[i]? with
    | some v => .ok v
    | none => .error (.invalidLength i shape)
  let code ← nat8 (← item 0)
  let message ← optional string (← item 1)
  let duration ← nat64 (← item 2)
  let result ← sequence map (← item 3)
  if items.length > 4 then
    throw (.invalidLength items.length "fewer elements in array")
  return ⟨.ofNumber code, message, duration, result⟩

open Json.Decode in
/-- The members of an answer. -/
def fields : List Field :=
  [field "code" nat8, field "message" (optional string),
    field "requestDuration" nat64, field "result" (sequence map)]

open Json.Decode in
/-- Reads an answer. -/
def ofValue : Json.Value → Except Json.Problem Response
  | .array items => ofArray items
  | .object members => do
      let r : Record := ⟨members⟩
      checkFields fields r
      let code ← required r "code" nat8
      let message ← optionalText r "message"
      let duration ← required r "requestDuration" nat64
      let result ← required r "result" (sequence map)
      return ⟨.ofNumber code, message, duration, result⟩
  | v => .error (wrongKind "struct CheckResponse" v)

end Response

end CheckGateway
