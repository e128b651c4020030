/-
Points in time, to the nanosecond, in UTC. A leap second is kept as the
second before it with a billion nanoseconds or more, so timestamps are
ordered by seconds and then nanoseconds. Spans between timestamps count a
leap second that both ends see and no other.

Ages that callers see are whole milliseconds: `elapsedMs` cuts the rest
off towards zero and never goes below it.
-/
import CheckGateway.Time.Civil
import CheckGateway.Text.Decimal

namespace CheckGateway

/-- Seconds since the start of 1970 and nanoseconds within the second, or
within the leap second after it. -/
structure Timestamp where
  seconds : Int
  nanos : Nat
  deriving DecidableEq, Repr

namespace Timestamp

/-- Nanoseconds in a second. -/
def perSecond : Nat := 1000000000

/-- Nanoseconds in a millisecond. -/
def perMilli : Nat := 1000000

/-- Seconds in a day. -/
def perDay : Int := 86400

end Timestamp

/-- A length of time. -/
structure Span where
  nanos : Nat
  deriving DecidableEq, Repr

/-- A number of milliseconds. -/
def Span.ofMillis (ms : Nat) : Span := ⟨ms * Timestamp.perMilli⟩

/-- A plain number is one of milliseconds. -/
instance : Coe Nat Span := ⟨Span.ofMillis⟩

namespace Timestamp

/-- The first timestamp is earlier than the second. -/
def before (a b : Timestamp) : Bool :=
  a.seconds < b.seconds || (a.seconds == b.seconds && a.nanos < b.nanos)

instance : LT Timestamp := ⟨fun a b => a.before b = true⟩

instance (a b : Timestamp) : Decidable (a < b) :=
  inferInstanceAs (Decidable (a.before b = true))

instance : LE Timestamp := ⟨fun a b => ¬ b < a⟩

instance (a b : Timestamp) : Decidable (a ≤ b) :=
  inferInstanceAs (Decidable (¬ b < a))

theorem lt_iff (a b : Timestamp) :
    a < b ↔ a.seconds < b.seconds ∨ (a.seconds = b.seconds ∧ a.nanos < b.nanos) := by
  change a.before b = true ↔ _
  simp [before]

theorem lt_irrefl (a : Timestamp) : ¬ a < a := by
  rw [lt_iff]
  omega

theorem lt_trans {a b c : Timestamp} (hab : a < b) (hbc : b < c) : a < c := by
  rw [lt_iff] at *
  omega

theorem lt_asymm {a b : Timestamp} (h : a < b) : ¬ b < a := fun hba =>
  lt_irrefl a (lt_trans h hba)

theorem ne_of_lt {a b : Timestamp} (h : a < b) : a ≠ b := by
  rintro rfl
  exact lt_irrefl a h

/-- Whole milliseconds since the start of 1970, rounded down. -/
def epochMillis (t : Timestamp) : Int :=
  t.seconds * 1000 + (t.nanos / perMilli : Nat)

/-- The nanoseconds from one timestamp to another, negative when the
second is earlier. A leap second at the earlier time of day counts. -/
def nanosBetween (since now : Timestamp) : Int :=
  let secondsOfDay := fun (t : Timestamp) => t.seconds % perDay
  let leap : Int :=
    if secondsOfDay since < secondsOfDay now ∧ perSecond ≤ since.nanos then 1
    else if secondsOfDay now < secondsOfDay since ∧ perSecond ≤ now.nanos then -1
    else 0
  (now.seconds - since.seconds + leap) * perSecond
    + ((now.nanos : Int) - since.nanos)

/-- Whole milliseconds from one timestamp to another, zero when the
second is not later. -/
def elapsedMs (since now : Timestamp) : Nat :=
  (Int.tdiv (nanosBetween since now) perMilli).toNat

/-- The timestamp a number of nanoseconds later, or earlier if negative.
A step that stays inside a leap second stays in it. -/
def addNanos (t : Timestamp) (span : Int) : Timestamp :=
  let wholeSeconds := Int.tdiv span perSecond
  let rest := Int.tmod span perSecond
  let nanos : Int := t.nanos
  if perSecond ≤ t.nanos ∧ wholeSeconds = 0
      ∧ ¬ (0 < rest ∧ 2 * (perSecond : Int) ≤ nanos + rest) then
    ⟨t.seconds, (nanos + rest).toNat⟩
  else
    let (seconds, nanos) :=
      if perSecond ≤ t.nanos then
        (if wholeSeconds < 0 then t.seconds + 1 else t.seconds,
          nanos - perSecond)
      else (t.seconds, nanos)
    let total := nanos + rest
    ⟨seconds + wholeSeconds + total / perSecond,
      (total % perSecond).toNat⟩

/-- The date, in UTC. -/
def date (t : Timestamp) : Time.Date := Time.Date.ofDays (t.seconds / perDay)

/-- The timestamp a number of milliseconds later, or earlier if negative,
where a date of that day exists. -/
def addMillis? (t : Timestamp) (ms : Int) : Option Timestamp :=
  let moved := t.addNanos (ms * perMilli)
  if moved.date.inRange then some moved else none

/-- The most milliseconds that a span can have. -/
def longestSpan : Nat := 0x7FFFFFFFFFFFFFFF

/-- The time on a clock that is put forward. More than the longest span
leaves it as it is; past the last date there is no time. -/
def advance? (t : Timestamp) (ms : Nat) : Option Timestamp :=
  t.addMillis? (if ms ≤ longestSpan then ms else 0)

/-- A year of four digits, with a sign and at least four digits outside
of them. -/
def yearText (year : Int) : String :=
  if 0 ≤ year ∧ year ≤ 9999 then Text.padded 4 year.toNat
  else (if year < 0 then "-" else "+") ++ Text.padded 4 year.natAbs

/-- The fraction of a second, in the fewest of 0, 3, 6 and 9 digits that
are exact. -/
def fractionText (nanos : Nat) : String :=
  if nanos = 0 then ""
  else if nanos % 1000000 = 0 then "." ++ Text.padded 3 (nanos / 1000000)
  else if nanos % 1000 = 0 then "." ++ Text.padded 6 (nanos / 1000)
  else "." ++ Text.padded 9 nanos

/-- The timestamp in RFC 3339 form, in UTC. A leap second is second
sixty. -/
def text (t : Timestamp) : String :=
  let date := t.date
  let time := (t.seconds % perDay).toNat
  let leap := perSecond ≤ t.nanos
  let second := time % 60 + (if leap then 1 else 0)
  let nanos := if leap then t.nanos - perSecond else t.nanos
  yearText date.year ++ "-" ++ Text.padded 2 date.month ++ "-"
    ++ Text.padded 2 date.day ++ "T" ++ Text.padded 2 (time / 3600) ++ ":"
    ++ Text.padded 2 (time / 60 % 60) ++ ":" ++ Text.padded 2 second
    ++ fractionText nanos ++ "Z"

/-- An age is never negative. -/
theorem elapsedMs_eq_zero_of_le {since now : Timestamp}
    (h : nanosBetween since now ≤ 0) : elapsedMs since now = 0 := by
  unfold elapsedMs
  have : Int.tdiv (nanosBetween since now) perMilli ≤ 0 := by
    have hneg : 0 ≤ -nanosBetween since now := by omega
    have := Int.tdiv_nonneg hneg (show (0 : Int) ≤ perMilli by decide)
    rw [Int.neg_tdiv] at this
    omega
  omega

/-- An age is more than a number of milliseconds when the next one is full. -/
theorem lt_elapsedMs_iff {since now : Timestamp} {n : Nat} :
    n < elapsedMs since now ↔ ((n : Int) + 1) * perMilli ≤ nanosBetween since now := by
  have hmilli : (0 : Int) < perMilli := by decide
  by_cases hpast : 0 ≤ nanosBetween since now
  · unfold elapsedMs
    rw [Int.tdiv_eq_ediv_of_nonneg hpast, ← Int.le_ediv_iff_mul_le hmilli]
    omega
  · have hzero : elapsedMs since now = 0 := elapsedMs_eq_zero_of_le (by omega)
    have hfull : (0 : Int) ≤ ((n : Int) + 1) * perMilli :=
      Int.mul_nonneg (by omega) (Int.le_of_lt hmilli)
    omega

end Timestamp

end CheckGateway
