/-
What can be wrong with JSON that is read into a given shape: the text is
no JSON at all, a value is of the wrong kind or out of range, a field is
missing or there twice, or a text inside a value has faults of its own.
-/
import CheckGateway.Json.Value
import CheckGateway.Text.Quoted

namespace CheckGateway.Json

/-- What was found in place of the value that was expected. -/
inductive Found where
  | null
  | bool (b : Bool)
  | number (n : Number)
  | string (s : String)
  | sequence
  | map
  deriving DecidableEq, Repr

/-- Why JSON could not be read into a shape. -/
inductive Problem where
  /-- The text is not JSON, or nests too deeply, or a number is too large. -/
  | notJson
  | invalidType (found : Found) (expected : String)
  | invalidValue (found : Found) (expected : String)
  | invalidLength (length : Nat) (expected : String)
  | missingField (name : String)
  | duplicateField (name : String)
  /-- A string was found, but its text is not what it should be. -/
  | badText (reason : String)
  deriving DecidableEq, Repr

namespace Found

/-- The kind of a value, as a problem names it. -/
def ofValue : Value → Found
  | .null => .null
  | .bool b => .bool b
  | .number n => .number n
  | .string s => .string s
  | .array _ => .sequence
  | .object _ => .map

/-- What was found, in words. -/
def text : Found → String
  | .null => "null"
  | .bool b => "boolean `" ++ (if b then "true" else "false") ++ "`"
  | .number (.whole i) => "integer `" ++ Text.ofInt i ++ "`"
  | .number (.real x) => "floating point `" ++ x.text ++ "`"
  | .string s => "string " ++ Text.quoted s
  | .sequence => "sequence"
  | .map => "map"

end Found

/-- The problem in words. -/
def Problem.message : Problem → String
  | .notJson => "<json syntax error>"
  | .invalidType found expected =>
      "invalid type: " ++ found.text ++ ", expected " ++ expected
  | .invalidValue found expected =>
      "invalid value: " ++ found.text ++ ", expected " ++ expected
  | .invalidLength length expected =>
      "invalid length " ++ Text.ofInt length ++ ", expected " ++ expected
  | .missingField name => "missing field `" ++ name ++ "`"
  | .duplicateField name => "duplicate field `" ++ name ++ "`"
  | .badText reason => reason

end CheckGateway.Json
