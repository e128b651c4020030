/-
What can go wrong, as causes. `message` is the text that callers read and
`kind` the coarse category they can switch on; a failed refresh has the
kind of its cause, however deep.
-/
import CheckGateway.Text.Decimal

namespace CheckGateway

/-- A setting that the gateway cannot run with. -/
structure InvalidSetting where
  field : String
  value : String
  reason : String
  deriving DecidableEq, Repr

/-- The setting and what is wrong with it. -/
def InvalidSetting.message (s : InvalidSetting) : String :=
  "Invalid value for " ++ s.field ++ ": " ++ s.value ++ " - " ++ s.reason

/-- The categories of errors. -/
inductive ErrorKind where
  | authentication | network | remoteProtocol | duplicateInFlight
  | queueTimeout | notFound | argument | internal
  deriving DecidableEq, Repr

/-- The cause of a failure. -/
inductive GatewayError where
  /-- The remote system refused the login. -/
  | authentication (host login reason : String)
  /-- The connection to the remote system failed. -/
  | network (host reason : String)
  /-- A query failed, or its answer has the wrong shape. -/
  | protocol (query reason : String)
  /-- The same request is already being worked on. -/
  | duplicateInFlight (elapsedMs : Nat)
  | queueTimeout (pool : String) (waitedMs : Nat)
  | poolShutDown (pool : String)
  /-- The job died before it could answer. -/
  | workerLost (pool : String)
  | spawnFailed (pool reason : String)
  | missingField (field : String)
  | invalidArgument (field reason : String)
  | unknownCheck (name : String)
  /-- The payload is not a request. -/
  | malformed (reason : String)
  | invalidSetting (setting : InvalidSetting)
  | notFound (what : String)
  | refreshFailed (cache : String) (cause : GatewayError)
  /-- A holder of a lock died and left what it guards in an unknown state. -/
  | lockPoisoned (what : String)
  deriving DecidableEq, Repr

namespace GatewayError

/-- The category of an error. -/
def kind : GatewayError → ErrorKind
  | authentication .. => .authentication
  | network .. => .network
  | protocol .. => .remoteProtocol
  | duplicateInFlight _ => .duplicateInFlight
  | queueTimeout .. => .queueTimeout
  | poolShutDown _ | workerLost _ | spawnFailed .. => .internal
  | missingField _ | invalidArgument .. | unknownCheck _ | malformed _ =>
      .argument
  | invalidSetting _ => .internal
  | notFound _ => .notFound
  | refreshFailed _ cause => cause.kind
  | lockPoisoned _ => .internal

/-- The error in words. -/
def message : GatewayError → String
  | authentication host login reason =>
      "Remote error: Authentication failed for " ++ login ++ "@" ++ host ++ ": "
        ++ reason
  | network host reason =>
      "Remote error: Connection to " ++ host ++ " failed: " ++ reason
  | protocol query reason =>
      "Remote error: Remote query " ++ query ++ " failed: " ++ reason
  | duplicateInFlight ms =>
      "Previous request pending (started " ++ Text.ofInt ms
        ++ " ms ago). Increase your check interval and check timeout, "
        ++ "and verify bandwidth availability"
  | queueTimeout pool ms =>
      "Work queue of pool " ++ pool ++ " stayed full for " ++ Text.ofInt ms
        ++ " ms"
  | poolShutDown pool => "Pool " ++ pool ++ " is shut down"
  | workerLost pool =>
      "Worker of pool " ++ pool ++ " dropped the request before answering"
  | spawnFailed pool reason =>
      "Failed to start worker thread for pool " ++ pool ++ ": " ++ reason
  | missingField field => "Invalid arguments. please set " ++ field
  | invalidArgument field reason =>
      "Invalid argument " ++ field ++ ": " ++ reason
  | unknownCheck name => "unknown request : " ++ name
  | malformed reason => "Malformed request: " ++ reason
  | invalidSetting s => "Configuration error: " ++ s.message
  | notFound what => what ++ " not found"
  | refreshFailed cache cause =>
      "Refresh of " ++ cache ++ " failed: " ++ cause.message
  | lockPoisoned what => "Lock poisoned: " ++ what

/-- The connection was lost, so that a fresh session could help. -/
def isConnectionLoss (e : GatewayError) : Bool :=
  e.kind == .network

@[simp]
theorem kind_refreshFailed (cache : String) (cause : GatewayError) :
    (refreshFailed cache cause).kind = cause.kind := rfl

end GatewayError

/-- A value, or why there is none. -/
abbrev Outcome (α : Type) := Except GatewayError α

/-- How work can fail to give a value: it reports an error, or it dies on
the way. -/
inductive Fault where
  | failed (e : GatewayError)
  | panicked
  deriving DecidableEq, Repr

end CheckGateway
