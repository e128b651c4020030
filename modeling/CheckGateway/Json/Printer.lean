/-
Writing JSON in its compact form: no blanks, members in the order of
their names, control characters and quotes escaped and every other
character as it is.
-/
import CheckGateway.Json.Value

namespace CheckGateway.Json

/-- What stands for one character in a string. -/
def escapeChar (c : Char) : List Char :=
  match c with
  | '"' => ['\\', '"']
  | '\\' => ['\\', '\\']
  | '\x08' => ['\\', 'b']
  | '\x0c' => ['\\', 'f']
  | '\n' => ['\\', 'n']
  | '\r' => ['\\', 'r']
  | '\t' => ['\\', 't']
  | c =>
      if c.toNat < 0x20 then
        ['\\', 'u', '0', '0', Text.hexDigit (c.toNat / 16),
          Text.hexDigit c.toNat]
      else [c]

/-- A string in quotes. -/
def printString (s : String) : String :=
  String.ofList ('"' :: s.toList.flatMap escapeChar ++ ['"'])

mutual

/-- A value in its compact form. -/
def print : Value → String
  | .null => "null"
  | .bool b => if b then "true" else "false"
  | .number n => n.text
  | .string s => printString s
  | .array items => "[" ++ printItems items ++ "]"
  | .object members => "\x7b" ++ printMembers members ++ "\x7d"

/-- Values with commas between them. -/
def printItems : List Value → String
  | [] => ""
  | [item] => print item
  | item :: items => print item ++ "," ++ printItems items

/-- Members with commas between them. -/
def printMembers : List (String × Value) → String
  | [] => ""
  | [(name, item)] => printString name ++ ":" ++ print item
  | (name, item) :: members =>
      printString name ++ ":" ++ print item ++ "," ++ printMembers members

end

end CheckGateway.Json
