/-
Rows of remote answers and the values they stand for. Each kind of value
is written as a row with all its attributes and read back from one; a row
may have further attributes, and one that is optional may be missing. A
list of rows is read as a whole: the first row of the wrong shape makes
the answer one that breaks the protocol.
-/
import CheckGateway.Error
import CheckGateway.Json.Decode
import CheckGateway.Message.Basic
import CheckGateway.Overflow
import CheckGateway.Time.Reader

namespace CheckGateway

/-- A kind of value that rows stand for. -/
class RowShape (α : Type) where
  ofRow : Record → Except Json.Problem α
  toRow : α → Record

/-- A job that is running on the remote system. -/
structure ActiveJob where
  name : String
  subsystem : Option String := none
  status : Option String := none
  activeStatus : Option String := none
  currentLibrary : Option String := none
  deriving DecidableEq, Repr

/-- A disk unit, with its capacities in units of 2²⁰ bytes. -/
structure DiskUnit where
  resourceName : String
  unitControl : Int
  capacityMib : Int
  availableMib : Int
  reservedMib : Int
  deriving DecidableEq, Repr

/-- The name of a job queue. -/
structure JobQueueRef where
  name : String
  library : String
  deriving DecidableEq, Repr

/-- How a job queue stands. -/
structure JobQueueStatus where
  name : String
  library : String
  status : Option String := none
  activeJobs : Int := 0
  heldJobs : Int := 0
  scheduledJobs : Int := 0
  deriving DecidableEq, Repr

/-- How a command went. -/
structure CommandRun where
  success : Bool
  messages : List String := []
  deriving DecidableEq, Repr

-- ============================================================ shapes

open Json Json.Decode

/-- A point in time, in RFC 3339 form. -/
def Json.Decode.timestamp : Value → Except Problem Timestamp
  | .string s =>
      match Time.read s with
      | .ok t => .ok t
      | .error fault => .error (.badText fault.message)
  | v => .error (wrongKind "an RFC 3339 formatted date and time string" v)

namespace QueuedMessage

/-- The attributes of an entry's row. -/
def fields : List Field :=
  [field "date" timestamp, field "severity" int32,
    field "id" (optional string), field "text" (optional string),
    field "fromJobName" (optional string),
    field "fromJobNumber" (optional string),
    field "user" (optional string), field "replyStatus" (optional string)]

/-- Reads an entry. -/
def ofRow (r : Record) : Except Problem QueuedMessage := do
  checkFields fields r
  let date ← required r "date" timestamp
  let severity ← required r "severity" int32
  let id ← optionalText r "id"
  let text ← optionalText r "text"
  let fromJobName ← optionalText r "fromJobName"
  let fromJobNumber ← optionalText r "fromJobNumber"
  let user ← optionalText r "user"
  let replyStatus ← optionalText r "replyStatus"
  return ⟨date, severity, id, text, fromJobName, fromJobNumber, user,
    replyStatus⟩

/-- Writes an entry. -/
def toRow (m : QueuedMessage) : Record :=
  .ofList
    [("date", .string m.date.text), ("severity", .int m.severity),
      ("id", .stringOrNull m.id), ("text", .stringOrNull m.text),
      ("fromJobName", .stringOrNull m.fromJobName),
      ("fromJobNumber", .stringOrNull m.fromJobNumber),
      ("user", .stringOrNull m.user),
      ("replyStatus", .stringOrNull m.replyStatus)]

instance : RowShape QueuedMessage := ⟨ofRow, toRow⟩

end QueuedMessage

namespace ActiveJob

/-- The attributes of a job's row. -/
def fields : List Field :=
  [field "name" string, field "subsystem" (optional string),
    field "status" (optional string), field "activeStatus" (optional string),
    field "currentLibrary" (optional string)]

/-- Reads a job. -/
def ofRow (r : Record) : Except Problem ActiveJob := do
  checkFields fields r
  let name ← required r "name" string
  let subsystem ← optionalText r "subsystem"
  let status ← optionalText r "status"
  let activeStatus ← optionalText r "activeStatus"
  let currentLibrary ← optionalText r "currentLibrary"
  return ⟨name, subsystem, status, activeStatus, currentLibrary⟩

/-- Writes a job. -/
def toRow (j : ActiveJob) : Record :=
  .ofList
    [("name", .string j.name), ("subsystem", .stringOrNull j.subsystem),
      ("status", .stringOrNull j.status),
      ("activeStatus", .stringOrNull j.activeStatus),
      ("currentLibrary", .stringOrNull j.currentLibrary)]

instance : RowShape ActiveJob := ⟨ofRow, toRow⟩

/-- The job as a result. -/
def toRecord (j : ActiveJob) : Record :=
  .ofList
    [("name", .string j.name), ("subSystem", .stringOrNull j.subsystem),
      ("status", .stringOrNull j.status),
      ("activeStatus", .stringOrNull j.activeStatus),
      ("currentLibrary", .stringOrNull j.currentLibrary)]

end ActiveJob

namespace DiskUnit

/-- The attributes of a disk unit's row. -/
def fields : List Field :=
  [field "resourceName" string, field "unitControl" int32,
    field "capacityMib" int64, field "availableMib" int64,
    field "reservedMib" int64]

/-- Reads a disk unit. -/
def ofRow (r : Record) : Except Problem DiskUnit := do
  checkFields fields r
  let resourceName ← required r "resourceName" string
  let unitControl ← required r "unitControl" int32
  let capacityMib ← required r "capacityMib" int64
  let availableMib ← required r "availableMib" int64
  let reservedMib ← required r "reservedMib" int64
  return ⟨resourceName, unitControl, capacityMib, availableMib, reservedMib⟩

/-- Writes a disk unit. -/
def toRow (d : DiskUnit) : Record :=
  .ofList
    [("resourceName", .string d.resourceName),
      ("unitControl", .int d.unitControl),
      ("capacityMib", .int d.capacityMib),
      ("availableMib", .int d.availableMib),
      ("reservedMib", .int d.reservedMib)]

instance : RowShape DiskUnit := ⟨ofRow, toRow⟩

/-- Bytes in a unit of capacity. -/
def mebibyte : Int := 1048576

/-- The disk unit as a result, with its capacities in bytes; the one who
writes it may die of a capacity that is too large for that. -/
def toRecord (o : Overflow) (d : DiskUnit) : Except Fault Record := do
  let total ← o.mul d.capacityMib mebibyte
  let reserved ← o.mul d.reservedMib mebibyte
  let free ← o.mul d.availableMib mebibyte
  return .ofList
    [("status", .int d.unitControl), ("name", .string d.resourceName),
      ("totalSpace", .int total), ("reservedSpace", .int reserved),
      ("freeSpace", .int free)]

/-- The capacities in bytes are numbers of 64 bits. -/
def Fits (d : DiskUnit) : Prop :=
  Fits64 (d.capacityMib * mebibyte) ∧ Fits64 (d.reservedMib * mebibyte)
    ∧ Fits64 (d.availableMib * mebibyte)

instance (d : DiskUnit) : Decidable d.Fits :=
  inferInstanceAs (Decidable (_ ∧ _ ∧ _))

/-- Where they are, the result has the true ones. -/
theorem toRecord_of_fits {o : Overflow} {d : DiskUnit} (h : d.Fits) :
    d.toRecord o = .ok (.ofList
      [("status", .int d.unitControl), ("name", .string d.resourceName),
        ("totalSpace", .int (d.capacityMib * mebibyte)),
        ("reservedSpace", .int (d.reservedMib * mebibyte)),
        ("freeSpace", .int (d.availableMib * mebibyte))]) := by
  obtain ⟨htotal, hreserved, hfree⟩ := h
  unfold toRecord
  rw [Overflow.mul_of_fits htotal, Overflow.mul_of_fits hreserved, Overflow.mul_of_fits hfree]
  rfl

/-- Where they are not, a build that looks for overflows dies, and no other. -/
theorem toRecord_eq_error_iff {o : Overflow} {d : DiskUnit} {e : Fault} :
    d.toRecord o = .error e ↔ e = .panicked ∧ o = .panics ∧ ¬ d.Fits := by
  unfold toRecord Fits
  cases htotal : o.mul d.capacityMib mebibyte with
  | error _ =>
      obtain ⟨rfl, rfl, hbroken⟩ := Overflow.mul_eq_error_iff.1 htotal
      simp [bind, Except.bind, hbroken, eq_comm]
  | ok total =>
      cases hreserved : o.mul d.reservedMib mebibyte with
      | error _ =>
          obtain ⟨rfl, rfl, hbroken⟩ := Overflow.mul_eq_error_iff.1 hreserved
          simp [bind, Except.bind, hbroken, eq_comm]
      | ok reserved =>
          cases hfree : o.mul d.availableMib mebibyte with
          | error _ =>
              obtain ⟨rfl, rfl, hbroken⟩ := Overflow.mul_eq_error_iff.1 hfree
              simp [bind, Except.bind, hbroken, eq_comm]
          | ok free =>
              refine ⟨nofun, ?_⟩
              rintro ⟨-, rfl, hbroken⟩
              exact (hbroken ⟨Overflow.fits_of_mul_panics htotal,
                Overflow.fits_of_mul_panics hreserved,
                Overflow.fits_of_mul_panics hfree⟩).elim

end DiskUnit

namespace JobQueueRef

/-- The attributes of a reference's row. -/
def fields : List Field := [field "name" string, field "library" string]

/-- Reads a reference. -/
def ofRow (r : Record) : Except Problem JobQueueRef := do
  checkFields fields r
  let name ← required r "name" string
  let library ← required r "library" string
  return ⟨name, library⟩

/-- Writes a reference. -/
def toRow (q : JobQueueRef) : Record :=
  .ofList [("name", .string q.name), ("library", .string q.library)]

instance : RowShape JobQueueRef := ⟨ofRow, toRow⟩

end JobQueueRef

namespace JobQueueStatus

/-- The attributes of a job queue's row. -/
def fields : List Field :=
  [field "name" string, field "library" string,
    field "status" (optional string), field "activeJobs" int64,
    field "heldJobs" int64, field "scheduledJobs" int64]

/-- Reads how a job queue stands; a count that is missing is zero. -/
def ofRow (r : Record) : Except Problem JobQueueStatus := do
  checkFields fields r
  let name ← required r "name" string
  let library ← required r "library" string
  let status ← optionalText r "status"
  let activeJobs ← orElse r "activeJobs" int64 0
  let heldJobs ← orElse r "heldJobs" int64 0
  let scheduledJobs ← orElse r "scheduledJobs" int64 0
  return ⟨name, library, status, activeJobs, heldJobs, scheduledJobs⟩

/-- Writes how a job queue stands. -/
def toRow (q : JobQueueStatus) : Record :=
  .ofList
    [("name", .string q.name), ("library", .string q.library),
      ("status", .stringOrNull q.status), ("activeJobs", .int q.activeJobs),
      ("heldJobs", .int q.heldJobs), ("scheduledJobs", .int q.scheduledJobs)]

instance : RowShape JobQueueStatus := ⟨ofRow, toRow⟩

/-- How a job queue stands, as a result. -/
def toRecord (q : JobQueueStatus) : Record :=
  .ofList
    [("name", .string q.name), ("library", .string q.library),
      ("status", .stringOrNull q.status), ("activeJob", .int q.activeJobs),
      ("heldJobOnQueue", .int q.heldJobs),
      ("scheduledJobOnQueue", .int q.scheduledJobs)]

end JobQueueStatus

namespace CommandRun

/-- The attributes of a command's row. -/
def fields : List Field :=
  [field "success" bool, field "messages" (sequence string)]

/-- Reads how a command went. -/
def ofRow (r : Record) : Except Problem CommandRun := do
  checkFields fields r
  let success ← required r "success" bool
  let messages ← orElse r "messages" (sequence string) []
  return ⟨success, messages⟩

/-- Writes how a command went. -/
def toRow (c : CommandRun) : Record :=
  .ofList
    [("success", .bool c.success),
      ("messages", .array (c.messages.map .string))]

instance : RowShape CommandRun := ⟨ofRow, toRow⟩

end CommandRun

-- ============================================================ answers

/-- Reads the rows of a query's answer. -/
def readRows (α : Type) [RowShape α] (query : String) (rows : List Record) :
    Outcome (List α) :=
  rows.mapM fun row =>
    match RowShape.ofRow row with
    | .ok a => .ok a
    | .error problem => .error (.protocol query problem.message)

/-- Reads the length of a message queue from the rows of an answer. -/
def readLength (query : String) (rows : List Record) : Outcome Nat :=
  match (rows.head?.bind (·.get? "length")).bind Value.asNat64? with
  | some n => .ok n
  | none => .error (.protocol query "missing length")

/-- Writes values as rows. -/
def writeRows {α : Type} [RowShape α] (items : List α) : List Record :=
  items.map RowShape.toRow

/-- The attributes of a record that have one of the given names. -/
def Record.project (r : Record) (names : List String) : Record :=
  .ofList (names.filterMap fun name => (r.get? name).map fun v => (name, v))

end CheckGateway
