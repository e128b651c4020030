/-
Text in double quotes, as diagnostics show it. Quotes, backslashes and
the usual control characters get a backslash escape; a character that
would not show (controls, format characters, unassigned code points,
separators other than the plain blank, marks that attach to the character
before them, and fillers that a reader ignores) is written by its code
point in braces.
-/
import CheckGateway.Text.Decimal
import CheckGateway.Unicode.Recent

namespace CheckGateway.Text

open Unicode (Category Property)

/-- Characters that attach to the one before them. Two halfwidth sound
marks do so too, but are letters and show. -/
def isAttached (c : Char) : Bool :=
  let category := Unicode.Recent.category c
  [Category.nonspacingMark, .enclosingMark].contains category
    || (Property.graphemeExtend.holds c && category != .modifierLetter)

/-- Characters that do not show by themselves. -/
def isHidden (c : Char) : Bool :=
  if c.toNat < 0x7F then c.toNat < 0x20
  else
    isAttached c || Property.defaultIgnorableCodePoint.holds c
      || (Category.others ++ Category.separators).contains
        (Unicode.Recent.category c)

/-- The code point of a character, in braces. -/
def escapeCode (c : Char) : List Char :=
  ['\\', 'u', '\x7b'] ++ Nat.toDigits 16 c.toNat ++ ['\x7d']

/-- What stands for one character between the quotes. -/
def escapeChar (c : Char) : List Char :=
  match c with
  | '\x00' => ['\\', '0']
  | '\t' => ['\\', 't']
  | '\r' => ['\\', 'r']
  | '\n' => ['\\', 'n']
  | '"' => ['\\', '"']
  | '\\' => ['\\', '\\']
  | c => if isHidden c then escapeCode c else [c]

/-- The text in quotes. -/
def quoted (s : String) : String :=
  String.ofList ('"' :: s.toList.flatMap escapeChar ++ ['"'])

end CheckGateway.Text
