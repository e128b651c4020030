/-
Tokens of JSON text. Text is cut into tokens up to its end or to the
first place where no token can start or a token is broken; there the
stream ends in `invalid`. A reader that stops earlier, because it already
knows what is wrong, therefore never sees a later fault. Two faults are
carried inside a token because they only count where its value is used: a
number too large for its type, and a string with half a surrogate pair.
-/
import CheckGateway.Json.Number

namespace CheckGateway.Json

/-- A token of JSON text. -/
inductive Token where
  | openObject | closeObject | openArray | closeArray | comma | colon
  | null
  | bool (b : Bool)
  | number (n : Option Number)
  | string (s : Option String)
  | invalid
  deriving Repr

-- ============================================================= strings

/-- The content of a string as written, up to its closing quote, and the
text after it. `none` at a control character or at the end of the text. -/
def stringBody : List Char → Option (List Char × List Char)
  | [] => none
  | '"' :: rest => some ([], rest)
  | '\\' :: c :: rest =>
      if c.toNat < 0x20 then none
      else (stringBody rest).map fun (body, rest) => ('\\' :: c :: body, rest)
  | c :: rest =>
      if c.toNat < 0x20 then none
      else (stringBody rest).map fun (body, rest) => (c :: body, rest)

/-- The value of four hexadecimal digits. -/
def hex4? (a b c d : Char) : Option Nat := do
  let a ← Text.hexValue? a
  let b ← Text.hexValue? b
  let c ← Text.hexValue? c
  let d ← Text.hexValue? d
  return ((a * 16 + b) * 16 + c) * 16 + d

/-- The character of a one-letter escape. -/
def simpleEscape? (c : Char) : Option Char :=
  match c with
  | '"' => some '"'
  | '\\' => some '\\'
  | '/' => some '/'
  | 'b' => some '\x08'
  | 'f' => some '\x0c'
  | 'n' => some '\n'
  | 'r' => some '\r'
  | 't' => some '\t'
  | _ => none

/-- Every backslash starts an escape of the right form. -/
def escapesFormed : List Char → Bool
  | [] => true
  | '\\' :: 'u' :: a :: b :: c :: d :: rest =>
      (hex4? a b c d).isSome && escapesFormed rest
  | '\\' :: c :: rest => (simpleEscape? c).isSome && escapesFormed rest
  | '\\' :: [] => false
  | _ :: rest => escapesFormed rest

/-- The first half of a surrogate pair. -/
def isHighSurrogate (n : Nat) : Bool := 0xD800 ≤ n && n ≤ 0xDBFF

/-- The second half of a surrogate pair. -/
def isLowSurrogate (n : Nat) : Bool := 0xDC00 ≤ n && n ≤ 0xDFFF

/-- The characters that a string's content stands for. A code point above
the first plane is written as a surrogate pair; half a pair stands for
nothing. -/
def unescape : List Char → Option (List Char)
  | [] => some []
  | '\\' :: 'u' :: a :: b :: c :: d :: rest =>
      match hex4? a b c d with
      | none => none
      | some n =>
          if isHighSurrogate n then
            match rest with
            | '\\' :: 'u' :: e :: f :: g :: h :: rest =>
                match hex4? e f g h with
                | none => none
                | some m =>
                    if isLowSurrogate m then
                      (unescape rest).map fun cs =>
                        Char.ofNat
                          (0x10000 + (n - 0xD800) * 0x400 + (m - 0xDC00)) :: cs
                    else none
            | _ => none
          else if isLowSurrogate n then none
          else (unescape rest).map fun cs => Char.ofNat n :: cs
  | '\\' :: c :: rest =>
      match simpleEscape? c with
      | some e => (unescape rest).map fun cs => e :: cs
      | none => none
  | '\\' :: [] => none
  | c :: rest => (unescape rest).map fun cs => c :: cs

/-- The token of a string whose opening quote has been read. -/
def stringToken (cs : List Char) : Token × List Char :=
  match stringBody cs with
  | none => (.invalid, [])
  | some (body, rest) =>
      if escapesFormed body then
        (.string ((unescape body).map String.ofList), rest)
      else (.invalid, [])

-- ============================================================= numbers

/-- The digits at the start of a text, and the text after them. -/
def spanDigits (cs : List Char) : List Char × List Char :=
  (cs.takeWhile Char.isDigit, cs.dropWhile Char.isDigit)

/-- The digits of a whole number: a single zero, or digits that do not
start with one. -/
def wholeDigits? (cs : List Char) : Option (List Char × List Char) :=
  match spanDigits cs with
  | ([], _) => none
  | ('0' :: _ :: _, _) => none
  | found => some found

/-- The digits after a point, which must not be missing. -/
def fractionDigits? : List Char → Option (List Char × List Char)
  | '.' :: cs =>
      match spanDigits cs with
      | ([], _) => none
      | found => some found
  | cs => some ([], cs)

/-- The exponent, whose digits must not be missing. -/
def exponentDigits? (cs : List Char) :
    Option (Option (Bool × List Char) × List Char) :=
  match cs with
  | e :: rest =>
      if e = 'e' ∨ e = 'E' then
        let (down, rest) := match rest with
          | '-' :: rest => (true, rest)
          | '+' :: rest => (false, rest)
          | rest => (false, rest)
        match spanDigits rest with
        | ([], _) => none
        | (ds, rest) => some (some (down, ds), rest)
      else some (none, cs)
  | [] => some (none, [])

/-- The numeral at the start of a text. -/
def numeral? (cs : List Char) : Option (Numeral × List Char) := do
  let (negative, cs) := match cs with
    | '-' :: cs => (true, cs)
    | cs => (false, cs)
  let (whole, cs) ← wholeDigits? cs
  let (fraction, cs) ← fractionDigits? cs
  let (exponent, cs) ← exponentDigits? cs
  return (⟨negative, whole, fraction, exponent⟩, cs)

/-- The token of a number. -/
def numberToken (cs : List Char) : Token × List Char :=
  match numeral? cs with
  | some (numeral, rest) => (.number numeral.number?, rest)
  | none => (.invalid, [])

-- ============================================================== tokens

/-- The blanks that JSON allows between tokens. -/
def isGap (c : Char) : Bool :=
  c == ' ' || c == '\t' || c == '\n' || c == '\r'

/-- The token at the start of a text that does not start with a gap. -/
def tokenAt : List Char → Token × List Char
  | '\x7b' :: rest => (.openObject, rest)
  | '\x7d' :: rest => (.closeObject, rest)
  | '[' :: rest => (.openArray, rest)
  | ']' :: rest => (.closeArray, rest)
  | ',' :: rest => (.comma, rest)
  | ':' :: rest => (.colon, rest)
  | '"' :: rest => stringToken rest
  | 'n' :: 'u' :: 'l' :: 'l' :: rest => (.null, rest)
  | 't' :: 'r' :: 'u' :: 'e' :: rest => (.bool true, rest)
  | 'f' :: 'a' :: 'l' :: 's' :: 'e' :: rest => (.bool false, rest)
  | c :: rest =>
      if c == '-' || c.isDigit then numberToken (c :: rest) else (.invalid, [])
  | [] => (.invalid, [])

/-- Tokens of a text, at most as many as the fuel. -/
def tokensWithin : Nat → List Char → List Token
  | 0, _ => []
  | fuel + 1, cs =>
      match cs.dropWhile isGap with
      | [] => []
      | c :: rest =>
          match tokenAt (c :: rest) with
          | (.invalid, _) => [.invalid]
          | (token, rest) => token :: tokensWithin fuel rest

/-- The tokens of a text. Every token but the last takes at least one
character. -/
def tokens (s : String) : List Token :=
  let cs := s.toList
  tokensWithin (cs.length + 1) cs

end CheckGateway.Json
