/-
The nine checks and the worker pools that run them. A command names a
check up to the case of ASCII letters and blanks around it; what names no
check is still routed, to the global pool, and answered with an error
there.
-/
import CheckGateway.Text.Ascii
import CheckGateway.Text.Blank

namespace CheckGateway

/-- What can be asked of a remote system. -/
inductive Check where
  | listJobs | listDisks | listSubsystems | getSystem | pageFault
  | executeCommand | getJobQueues | getErrorMessageQueue
  | getNewMessageInMessageQueue
  deriving DecidableEq, Repr

namespace Check

/-- Every check. -/
def all : List Check :=
  [listJobs, listDisks, listSubsystems, getSystem, pageFault, executeCommand,
    getJobQueues, getErrorMessageQueue, getNewMessageInMessageQueue]

/-- The name of a check. -/
def name : Check → String
  | listJobs => "listJobs"
  | listDisks => "listDisks"
  | listSubsystems => "listSubsystems"
  | getSystem => "getSystem"
  | pageFault => "pageFault"
  | executeCommand => "executeCommand"
  | getJobQueues => "getJobQueues"
  | getErrorMessageQueue => "getErrorMessageQueue"
  | getNewMessageInMessageQueue => "getNewMessageInMessageQueue"

/-- The check that a command names. -/
def ofCommand? (command : String) : Option Check :=
  all.find? fun check => Text.eqIgnoreCase check.name (Text.trim command)

theorem mem_all (check : Check) : check ∈ all := by
  cases check <;> simp [all]

end Check

/-- The worker pools of a tenant. -/
inductive PoolKind where
  | global | jobs | disks
  deriving DecidableEq, Repr

namespace PoolKind

/-- The pools in the order in which they are started and stopped. -/
def all : List PoolKind := [global, jobs, disks]

/-- The word for a pool inside its name. -/
def word : PoolKind → String
  | global => "global"
  | jobs => "job"
  | disks => "disk"

/-- The pool that runs a command. -/
def ofCommand (command : String) : PoolKind :=
  match Check.ofCommand? command with
  | some .listJobs => jobs
  | some .listDisks => disks
  | _ => global

end PoolKind

end CheckGateway
