/-
Reading timestamps. The text is RFC 3339 with some freedom: date and time
may be parted by T of either case or one blank, the offset may be Z of
either case, UTC or hours and minutes with or without a colon, blanks are
allowed around the numbers, and a year with a sign may have any number of
digits. What is wrong first decides what is reported: the text ends too
early, a character does not fit, a number is out of its range, or
something follows the timestamp.
-/
import CheckGateway.Time.Timestamp
import CheckGateway.Text.Blank
import CheckGateway.Text.Ascii

namespace CheckGateway.Time

/-- What is wrong with the text of a timestamp. -/
inductive Fault where
  | tooShort | invalid | outOfRange | tooLong | impossible
  deriving DecidableEq, Repr

/-- The fault in words. -/
def Fault.message : Fault → String
  | .tooShort => "premature end of input"
  | .invalid => "input contains invalid characters"
  | .outOfRange => "input is out of range"
  | .tooLong => "trailing input"
  | .impossible => "no possible date and time matching input"

/-- A number of at least one and at most `width` digits. -/
def number (width : Nat) (cs : List Char) : Except Fault (Nat × List Char) :=
  let ds := (cs.take width).takeWhile Char.isDigit
  match cs, ds with
  | [], _ => .error .tooShort
  | _, [] => .error .invalid
  | _, ds =>
      let n := (Text.digitsFrom? 0 ds).getD 0
      if Text.int64Max < n then .error .outOfRange
      else .ok (n, cs.drop ds.length)

/-- A number after blanks, which must lie between two bounds. -/
def field (width low high : Nat) (cs : List Char) :
    Except Fault (Nat × List Char) := do
  let (n, rest) ← number width (Text.trimStart cs)
  if low ≤ n ∧ n ≤ high then return (n, rest) else throw .outOfRange

/-- A year after blanks: four digits at most, or any number after a
sign. -/
def year (cs : List Char) : Except Fault (Int × List Char) := do
  let (value, rest) ← match Text.trimStart cs with
    | '-' :: cs => do
        let (n, rest) ← number cs.length cs
        pure (-(n : Int), rest)
    | '+' :: cs => do
        let (n, rest) ← number cs.length cs
        pure ((n : Int), rest)
    | cs => do
        let (n, rest) ← number 4 cs
        pure ((n : Int), rest)
  if Text.int32Min ≤ value ∧ value ≤ Text.int32Max then return (value, rest)
  else throw .outOfRange

/-- One given character. -/
def literal (c : Char) : List Char → Except Fault (List Char)
  | [] => .error .tooShort
  | d :: rest => if d = c then .ok rest else .error .invalid

/-- The mark between date and time. -/
def divider : List Char → Except Fault (List Char)
  | [] => .error .tooShort
  | c :: rest =>
      if c = 'T' ∨ c = 't' ∨ c = ' ' then .ok rest else .error .invalid

/-- A fraction of a second in nanoseconds; digits beyond the ninth are
passed over. -/
def fraction : List Char → Except Fault (Nat × List Char)
  | '.' :: cs => do
      let (n, rest) ← number 9 cs
      let used := cs.length - rest.length
      return (n * Nat.pow 10 (9 - used), rest.dropWhile Char.isDigit)
  | cs => .ok (0, cs)

/-- Two digits of an offset. -/
def offsetDigits (cs : List Char) : Except Fault (Nat × Nat × List Char) :=
  match cs with
  | [] => .error .tooShort
  | [c] => if c.utf8Size < 2 then .error .tooShort else .error .invalid
  | a :: b :: rest =>
      match Text.digit? a, Text.digit? b with
      | some a, some b => .ok (a, b, rest)
      | _, _ => .error .invalid

/-- The offset from UTC in seconds. -/
def offset (cs : List Char) : Except Fault (Int × List Char) := do
  match cs with
  | 'Z' :: rest => return (0, rest)
  | 'z' :: rest => return (0, rest)
  | _ =>
      let (negative, rest) ← match cs with
        | '+' :: rest => pure (false, rest)
        | '-' :: rest => pure (true, rest)
        | '−' :: rest => pure (true, rest)
        | [] => throw .tooShort
        | _ => throw .invalid
      let (h1, h2, rest) ← offsetDigits rest
      let rest := rest.dropWhile fun c => c == ':' || Text.isBlank c
      let (m1, m2, rest) ← offsetDigits rest
      if 6 ≤ m1 then throw .outOfRange
      let seconds : Int := (h1 * 10 + h2 : Nat) * 3600 + (m1 * 10 + m2 : Nat) * 60
      return (if negative then -seconds else seconds, rest)

/-- The offset, or the word UTC in its place. -/
def zone (cs : List Char) : Except Fault (Int × List Char) :=
  if Text.sameIgnoringCase (cs.take 3) ['U', 'T', 'C'] then .ok (0, cs.drop 3)
  else offset cs

/-- The timestamp of a date, a time of day and an offset. -/
def assemble (date : Date) (hour minute second nanos : Nat) (shift : Int) :
    Except Fault Timestamp :=
  if !date.valid || !date.inRange then .error .outOfRange
  else if Timestamp.perDay ≤ shift.natAbs then .error .outOfRange
  else
    let (second, nanos) :=
      if second = 60 then (59, nanos + Timestamp.perSecond)
      else (second, nanos)
    let t : Timestamp :=
      ⟨date.toDays * Timestamp.perDay
        + (hour * 3600 + minute * 60 + second : Nat) - shift, nanos⟩
    if t.date.inRange then .ok t else .error .impossible

/-- Reads a timestamp. -/
def read (s : String) : Except Fault Timestamp := do
  let (year, rest) ← year s.toList
  let rest ← literal '-' (Text.trimStart rest)
  let (month, rest) ← field 2 1 12 rest
  let rest ← literal '-' (Text.trimStart rest)
  let (day, rest) ← field 2 1 31 rest
  let rest ← divider rest
  let (hour, rest) ← field 2 0 23 rest
  let rest ← literal ':' (Text.trimStart rest)
  let (minute, rest) ← field 2 0 59 rest
  let rest ← literal ':' (Text.trimStart rest)
  let (second, rest) ← field 2 0 60 rest
  let (nanos, rest) ← fraction rest
  let (shift, rest) ← zone (Text.trimStart rest)
  if (Text.trimStart rest).isEmpty then
    assemble ⟨year, month, day⟩ hour minute second nanos shift
  else throw .tooLong

end CheckGateway.Time
