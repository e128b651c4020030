/-
Reading values into shapes. A shape with named fields is read from a
record in two passes: every attribute that is a field must have the right
kind, in ascending order of names, and then every field that has no
default must be there, in the order of the shape. Attributes that are no
fields are passed over.
-/
import CheckGateway.Json.Problem

namespace CheckGateway.Json.Decode

/-- The problem with a value of the wrong kind. -/
def wrongKind (expected : String) (v : Value) : Problem :=
  .invalidType (Found.ofValue v) expected

/-- A string. -/
def string : Value → Except Problem String
  | .string s => .ok s
  | v => .error (wrongKind "a string" v)

/-- A boolean. -/
def bool : Value → Except Problem Bool
  | .bool b => .ok b
  | v => .error (wrongKind "a boolean" v)

/-- A whole number within bounds; a larger one has the right kind but not
the right value. -/
def integer (min max : Int) (expected : String) : Value → Except Problem Int
  | .number (.whole i) =>
      if min ≤ i ∧ i ≤ max then .ok i
      else .error (.invalidValue (.number (.whole i)) expected)
  | v => .error (wrongKind expected v)

/-- A signed number of 32 bits. -/
def int32 : Value → Except Problem Int :=
  integer Text.int32Min Text.int32Max "i32"

/-- A signed number of 64 bits. -/
def int64 : Value → Except Problem Int :=
  integer Text.int64Min Text.int64Max "i64"

/-- An unsigned number of 64 bits. -/
def nat64 (v : Value) : Except Problem Nat :=
  (integer 0 Text.nat64Max "u64" v).map Int.toNat

/-- An unsigned number of 8 bits. -/
def nat8 (v : Value) : Except Problem Nat :=
  (integer 0 255 "u8" v).map Int.toNat

/-- A value that may be null. -/
def optional (read : Value → Except Problem α) :
    Value → Except Problem (Option α)
  | .null => .ok none
  | v => (read v).map some

/-- A list, read element by element; the first bad element reports. -/
def sequence (read : Value → Except Problem α) :
    Value → Except Problem (List α)
  | .array items => items.mapM read
  | v => .error (wrongKind "a sequence" v)

/-- A map of any attributes. -/
def map : Value → Except Problem Record
  | .object members => .ok ⟨members⟩
  | v => .error (wrongKind "a map" v)

/-- A field of a shape: its name and what its value must be. -/
structure Field where
  name : String
  check : Value → Except Problem Unit

/-- A field that is read by a function. -/
def field (name : String) (read : Value → Except Problem α) : Field :=
  ⟨name, fun v => (read v).map fun _ => ()⟩

/-- Checks the attributes that are fields, in ascending order of names. -/
def checkFields (fields : List Field) (r : Record) : Except Problem Unit :=
  r.members.forM fun (name, v) =>
    match fields.find? fun f => f.name == name with
    | some f => f.check v
    | none => .ok ()

/-- The value of a field that must be there. -/
def required (r : Record) (name : String) (read : Value → Except Problem α) :
    Except Problem α :=
  match r.get? name with
  | some v => read v
  | none => .error (.missingField name)

/-- The value of a field that has a default. -/
def orElse (r : Record) (name : String) (read : Value → Except Problem α)
    (default : α) : Except Problem α :=
  match r.get? name with
  | some v => read v
  | none => .ok default

/-- The text of a field that may be null or missing. -/
def optionalText (r : Record) (name : String) :
    Except Problem (Option String) :=
  orElse r name (optional string) none

end CheckGateway.Json.Decode
