/-
JSON values as diagnostics show them: each with the name of its kind,
texts in quotes.
-/
import CheckGateway.Json.Value
import CheckGateway.Text.Quoted

namespace CheckGateway.Json

mutual

/-- A value with the name of its kind. -/
def Value.shown : Value → String
  | .null => "Null"
  | .bool b => "Bool(" ++ (if b then "true" else "false") ++ ")"
  | .number n => "Number(" ++ n.text ++ ")"
  | .string s => "String(" ++ Text.quoted s ++ ")"
  | .array items => "Array [" ++ ", ".intercalate (shownItems items) ++ "]"
  | .object members =>
      "Object \x7b" ++ ", ".intercalate (shownMembers members) ++ "\x7d"

/-- The elements of an array. -/
def shownItems : List Value → List String
  | [] => []
  | v :: vs => v.shown :: shownItems vs

/-- The members of an object. -/
def shownMembers : List (String × Value) → List String
  | [] => []
  | (name, v) :: rest => (Text.quoted name ++ ": " ++ v.shown)
      :: shownMembers rest

end

end CheckGateway.Json

namespace CheckGateway

/-- The record as diagnostics show it. -/
def Record.shown (r : Record) : String :=
  "\x7b" ++ ", ".intercalate (Json.shownMembers r.members) ++ "\x7d"

end CheckGateway
