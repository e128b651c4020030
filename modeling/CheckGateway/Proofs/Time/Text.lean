/-
The text of a timestamp is read back as the timestamp.

Each part of the text is a run of digits, as wide as it may be or followed by a mark
that is no digit, so it is read as it was written whatever stands behind it. The date
of a day has the day's number, so the parts come together to the seconds that they were
taken from. A leap second is written as second sixty, and read as such, if it comes at
the end of a minute. Timestamps that are read are of this kind (`Valid`), so their texts
are read back in turn, however they were written before.
-/
import CheckGateway.Proofs.Fallible
import CheckGateway.Proofs.Text.Decimal
import CheckGateway.Proofs.Time.Calendar
import CheckGateway.Time.Reader
import Mathlib.Data.List.TakeWhile

namespace CheckGateway.Time

open Text (Digits padded)

-- ================================================================ numbers

/-- The text ends here, or goes on with something else than a digit. -/
def Parted (rest : List Char) : Prop := ∀ c ∈ rest.head?, c.isDigit = false

section

variable {width n : Nat} {ds rest : List Char}

theorem takeWhile_digits (h : Digits ds n) (hwidth : ds.length ≤ width)
    (hend : ds.length = width ∨ Parted rest) :
    ((ds ++ rest).take width).takeWhile Char.isDigit = ds := by
  have hall : ds.takeWhile Char.isDigit = ds :=
    List.takeWhile_eq_self_iff.2 h.isDigit
  rcases hend with hfull | hparted
  · rw [← hfull, List.take_left, hall]
  · rw [List.take_append, List.take_of_length_le hwidth,
      List.takeWhile_append_of_pos h.isDigit]
    have hnone : (rest.take (width - ds.length)).takeWhile Char.isDigit = [] := by
      cases rest with
      | nil => simp
      | cons c rest =>
          have hc : c.isDigit = false := hparted c rfl
          cases width - ds.length with
          | zero => rfl
          | succ k => simp [hc]
    rw [hnone, List.append_nil]

/-- A number is read as it was written, up to the width that is allowed or to the first
character that is no digit. -/
theorem number_digits (h : Digits ds n) (hwidth : ds.length ≤ width)
    (hend : ds.length = width ∨ Parted rest) (hbound : (n : Int) ≤ Text.int64Max) :
    number width (ds ++ rest) = .ok (n, rest) := by
  obtain ⟨first, others, hds⟩ := List.exists_cons_of_ne_nil h.ne_nil
  have hrun := takeWhile_digits h hwidth hend
  have hvalue := h.digitsFrom?
  unfold number
  dsimp only
  rw [hrun]
  subst hds
  dsimp only [List.cons_append]
  rw [hvalue]
  rw [Option.getD_some, if_neg (Int.not_lt.2 hbound)]
  rw [← List.cons_append, List.drop_left]

theorem not_isBlank_of_isDigit {c : Char} (h : c.isDigit = true) : Text.isBlank c = false := by
  simp only [Char.isDigit, Bool.and_eq_true, decide_eq_true_eq, UInt32.le_iff_toNat_le] at h
  have hcode : 48 ≤ c.toNat ∧ c.toNat ≤ 57 := h
  unfold Text.isBlank
  generalize c.toNat = code at hcode
  simp
  omega

theorem trimStart_digits (h : Digits ds n) (rest : List Char) :
    Text.trimStart (ds ++ rest) = ds ++ rest := by
  obtain ⟨first, others, rfl⟩ := List.exists_cons_of_ne_nil h.ne_nil
  have hfirst := not_isBlank_of_isDigit (h.isDigit first List.mem_cons_self)
  unfold Text.trimStart
  rw [List.cons_append, List.dropWhile_cons_of_neg (by simp [hfirst])]

/-- Two digits are read as a field that they are within the bounds of. -/
theorem field_padded {low high : Nat} (hlow : low ≤ n) (hhigh : n ≤ high) (hn : n < 100)
    (rest : List Char) : field 2 low high ((padded 2 n).toList ++ rest) = .ok (n, rest) := by
  have hdigits := Text.digits_padded 2 n
  have hlength : (padded 2 n).toList.length = 2 := Text.length_padded (by decide) hn
  have hbound : (n : Int) ≤ Text.int64Max := by
    unfold Text.int64Max
    omega
  unfold field
  rw [trimStart_digits hdigits, number_digits hdigits (Nat.le_of_eq hlength) (.inl hlength) hbound]
  exact if_pos ⟨hlow, hhigh⟩

/-- A mark is found where it was put. -/
theorem literal_mark {c : Char} (hc : Text.isBlank c = false) (rest : List Char) :
    literal c (Text.trimStart (c :: rest)) = .ok rest := by
  unfold Text.trimStart
  rw [List.dropWhile_cons_of_neg (by simp [hc])]
  exact if_pos rfl

theorem parted_cons {c : Char} (hc : c.isDigit = false) : Parted (c :: rest) := by
  intro d hd
  cases hd
  exact hc

/-- A year within bounds is let through. -/
theorem year_bounded {value y : Int} (h : value = y)
    (hy : Text.int32Min ≤ y ∧ y ≤ Text.int32Max) :
    (if Text.int32Min ≤ value ∧ value ≤ Text.int32Max then .ok (value, rest)
      else .error .outOfRange : Except Fault (Int × List Char)) = .ok (y, rest) := by
  subst h
  exact if_pos hy

theorem year_minus {cs : List Char} (h : number cs.length cs = .ok (n, rest)) :
    year ('-' :: cs) = if Text.int32Min ≤ -(n : Int) ∧ -(n : Int) ≤ Text.int32Max
      then .ok (-(n : Int), rest) else .error .outOfRange := by
  have hblank : Text.trimStart ('-' :: cs) = '-' :: cs := rfl
  unfold year
  rw [hblank]
  simp only [h]
  rfl

theorem year_plus {cs : List Char} (h : number cs.length cs = .ok (n, rest)) :
    year ('+' :: cs) = if Text.int32Min ≤ (n : Int) ∧ (n : Int) ≤ Text.int32Max
      then .ok ((n : Int), rest) else .error .outOfRange := by
  have hblank : Text.trimStart ('+' :: cs) = '+' :: cs := rfl
  unfold year
  rw [hblank]
  simp only [h]
  rfl

/-- Years are read back: four digits, or a sign and more of them. -/
theorem year_text {y : Int} (hlow : -262143 ≤ y) (hhigh : y ≤ 262142) (hrest : Parted rest) :
    year ((Timestamp.yearText y).toList ++ rest) = .ok (y, rest) := by
  have hrange : Text.int32Min ≤ y ∧ y ≤ Text.int32Max := by
    unfold Text.int32Min Text.int32Max
    omega
  have hsize {k : Nat} (hk : k ≤ 262143) : (k : Int) ≤ Text.int64Max := by
    unfold Text.int64Max
    omega
  have hsigned : number ((padded 4 y.natAbs).toList ++ rest).length
      ((padded 4 y.natAbs).toList ++ rest) = .ok (y.natAbs, rest) :=
    number_digits (Text.digits_padded 4 y.natAbs) (by simp) (.inr hrest) (hsize (by omega))
  unfold Timestamp.yearText
  split
  next hplain =>
    have hdigits := Text.digits_padded 4 y.toNat
    have hlength : (padded 4 y.toNat).toList.length = 4 :=
      Text.length_padded (by decide) (show y.toNat < 10000 by omega)
    have hnumber : number 4 ((padded 4 y.toNat).toList ++ rest) = .ok (y.toNat, rest) :=
      number_digits hdigits (Nat.le_of_eq hlength) (.inl hlength) (hsize (by omega))
    obtain ⟨first, others, hfirst⟩ := List.exists_cons_of_ne_nil hdigits.ne_nil
    have hdigit := hdigits.isDigit first (hfirst ▸ List.mem_cons_self)
    unfold year
    rw [trimStart_digits hdigits]
    -- a digit is no sign
    split
    next heq =>
      rw [hfirst] at heq
      cases heq
      cases hdigit
    next heq =>
      rw [hfirst] at heq
      cases heq
      cases hdigit
    next =>
      dsimp only
      rw [hnumber]
      exact year_bounded (by omega) hrange
  next hlong =>
    rw [String.toList_append]
    by_cases hneg : y < 0
    · rw [if_pos hneg]
      show year ('-' :: ((padded 4 y.natAbs).toList ++ rest)) = _
      rw [year_minus hsigned]
      exact year_bounded (by omega) hrange
    · rw [if_neg hneg]
      show year ('+' :: ((padded 4 y.natAbs).toList ++ rest)) = _
      rw [year_plus hsigned]
      exact year_bounded (by omega) hrange

-- =============================================================== fractions

theorem fraction_dot {cs : List Char} (h : number 9 cs = .ok (n, rest)) :
    fraction ('.' :: cs) = .ok (n * Nat.pow 10 (9 - (cs.length - rest.length)),
      rest.dropWhile Char.isDigit) := by
  unfold fraction
  simp only [h]
  rfl

/-- Digits of a fraction are read for what they are worth, up to the ninth. -/
theorem fraction_padded {m nanos : Nat} (width : Nat) (hwidth : 0 < width ∧ width ≤ 9)
    (hm : m < Nat.pow 10 width) (hvalue : m * Nat.pow 10 (9 - width) = nanos) :
    fraction ("." ++ padded width m ++ "Z").toList = .ok (nanos, ['Z']) := by
  have hlength := Text.length_padded hwidth.1 hm
  have hbound : (m : Int) ≤ Text.int64Max := by
    have hmost : Nat.pow 10 width ≤ Nat.pow 10 9 := Nat.pow_le_pow_right (by decide) hwidth.2
    have hnine : Nat.pow 10 9 = 1000000000 := rfl
    unfold Text.int64Max
    omega
  have hnumber : number 9 ((padded width m).toList ++ ['Z']) = .ok (m, ['Z']) :=
    number_digits (Text.digits_padded width m) (by omega) (.inr (parted_cons rfl)) hbound
  have hused : ((padded width m).toList ++ ['Z']).length - ['Z'].length = width := by
    rw [List.length_append, hlength, Nat.add_sub_cancel]
  rw [String.toList_append, String.toList_append]
  show fraction ('.' :: ((padded width m).toList ++ ['Z'])) = _
  rw [fraction_dot hnumber, hused, hvalue]
  rfl

/-- A fraction is read back, however few digits it is written with. -/
theorem fraction_text {nanos : Nat} (h : nanos < Timestamp.perSecond) :
    fraction (Timestamp.fractionText nanos ++ "Z").toList = .ok (nanos, ['Z']) := by
  have hsecond : Timestamp.perSecond = 1000000000 := rfl
  unfold Timestamp.fractionText
  split
  next hzero =>
    subst hzero
    rfl
  next =>
    split
    next hmillis =>
      exact fraction_padded 3 (by decide) (show nanos / 1000000 < 1000 by omega)
        (show nanos / 1000000 * 1000000 = nanos by omega)
    next =>
      split
      next hmicros =>
        exact fraction_padded 6 (by decide) (show nanos / 1000 < 1000000 by omega)
          (show nanos / 1000 * 1000 = nanos by omega)
      next =>
        exact fraction_padded 9 (by decide) (show nanos < 1000000000 by omega)
          (Nat.mul_one nanos)

end

-- ============================================================ the timestamp

/-- There is such a timestamp: it has a date, and goes on past its second only in a leap
second at the end of a minute. -/
structure Valid (t : Timestamp) : Prop where
  date : t.date.inRange = true
  nanos : t.nanos < Timestamp.perSecond
    ∨ t.seconds % 60 = 59 ∧ t.nanos < 2 * Timestamp.perSecond

section

variable {t : Timestamp}

theorem hours_minutes_seconds (time : Nat) :
    time / 3600 * 3600 + time / 60 % 60 * 60 + time % 60 = time := by
  have hhours : time / 60 / 60 = time / 3600 := Nat.div_div_eq_div_mul time 60 60
  omega

/-- What a timestamp is taken apart into goes together again. -/
theorem assemble_parts (h : Valid t) {time second nanos : Nat}
    (htime : t.seconds % Timestamp.perDay = time)
    (hparts : t.nanos < Timestamp.perSecond ∧ second = time % 60 ∧ nanos = t.nanos
      ∨ time % 60 = 59 ∧ second = 60 ∧ t.nanos = nanos + Timestamp.perSecond) :
    assemble t.date (time / 3600) (time / 60 % 60) second nanos 0 = .ok t := by
  obtain ⟨hdays, hvalid, -, -⟩ := toDays_ofDays (t.seconds / Timestamp.perDay)
  have hwhole : t.date.toDays * Timestamp.perDay
      + ((time / 3600 * 3600 + time / 60 % 60 * 60 + time % 60 : Nat) : Int) - 0 = t.seconds := by
    show (Date.ofDays (t.seconds / Timestamp.perDay)).toDays * Timestamp.perDay + _ - 0 = _
    rw [hdays, hours_minutes_seconds, ← htime, Int.sub_zero]
    exact Int.ediv_mul_add_emod t.seconds Timestamp.perDay
  unfold assemble
  rw [show t.date.valid = true from hvalid, h.date]
  simp only [Bool.not_true, Bool.or_self, Bool.false_eq_true, if_false]
  rw [if_neg (by decide)]
  rcases hparts with ⟨hshort, rfl, rfl⟩ | ⟨hend, rfl, hleap⟩
  · have hsecond : time % 60 ≠ 60 := by omega
    simp only [if_neg hsecond]
    rw [hwhole]
    exact if_pos h.date
  · rw [hend] at hwhole
    simp only [if_true]
    rw [hwhole, ← hleap]
    exact if_pos h.date

/-- A text that is put together from parts within their bounds is read part by part. -/
theorem read_parts {y : Int} {month day hour minute second nanos : Nat}
    (hy : -262143 ≤ y ∧ y ≤ 262142) (hmonth : 1 ≤ month ∧ month ≤ 12)
    (hday : 1 ≤ day ∧ day ≤ 31) (hhour : hour ≤ 23) (hminute : minute ≤ 59)
    (hsecond : second ≤ 60) (hnanos : nanos < Timestamp.perSecond) :
    read (Timestamp.yearText y ++ "-" ++ padded 2 month ++ "-" ++ padded 2 day ++ "T"
        ++ padded 2 hour ++ ":" ++ padded 2 minute ++ ":" ++ padded 2 second
        ++ Timestamp.fractionText nanos ++ "Z")
      = assemble ⟨y, month, day⟩ hour minute second nanos 0 := by
  have hdash (rest : List Char) : literal '-' (Text.trimStart ("-".toList ++ rest)) = .ok rest :=
    literal_mark rfl rest
  have hcolon (rest : List Char) : literal ':' (Text.trimStart (":".toList ++ rest)) = .ok rest :=
    literal_mark rfl rest
  have hdivider (rest : List Char) : divider ("T".toList ++ rest) = .ok rest := rfl
  have hyear (rest : List Char) : year ((Timestamp.yearText y).toList ++ ("-".toList ++ rest))
      = .ok (y, "-".toList ++ rest) := year_text hy.1 hy.2 (parted_cons rfl)
  have hfraction := fraction_text hnanos
  rw [String.toList_append] at hfraction
  unfold read
  simp only [String.toList_append, List.append_assoc]
  simp only [hyear, hdash, hcolon, hdivider, hfraction, field_padded hmonth.1 hmonth.2 (by omega),
    field_padded hday.1 hday.2 (by omega), field_padded (Nat.zero_le hour) hhour (by omega),
    field_padded (Nat.zero_le minute) hminute (by omega),
    field_padded (Nat.zero_le second) hsecond (by omega), bind, Except.bind]
  rfl

/-- The text of a timestamp is read back as the timestamp. -/
theorem read_text (h : Valid t) : read t.text = .ok t := by
  obtain ⟨time, htime⟩ : ∃ time : Nat, t.seconds % Timestamp.perDay = time :=
    ⟨_, (Int.toNat_of_nonneg (Int.emod_nonneg _ (by decide))).symm⟩
  have hrest : t.seconds % 86400 = time := htime
  obtain ⟨-, hvalid, hmonth⟩ := toDays_ofDays (t.seconds / Timestamp.perDay)
  obtain ⟨hfirst, hlast⟩ := (valid_iff t.date).1 hvalid
  have hday : t.date.day ≤ 31 := hlast.trans (daysInMonth_le _ _)
  have hyear : -262143 ≤ t.date.year ∧ t.date.year ≤ 262142 := by
    have hrange := h.date
    unfold Date.inRange at hrange
    rwa [Bool.and_eq_true, decide_eq_true_eq, decide_eq_true_eq] at hrange
  have hnanos := h.nanos
  unfold Timestamp.text
  dsimp only
  rw [htime, Int.toNat_natCast]
  by_cases hleap : Timestamp.perSecond ≤ t.nanos
  · rw [if_pos hleap, if_pos hleap]
    have hend : time % 60 = 59 := by omega
    rw [hend]
    refine (read_parts hyear hmonth ⟨hfirst, hday⟩ ?_ ?_ (Nat.le_refl 60) ?_).trans
      (assemble_parts h htime (.inr ⟨hend, rfl, ?_⟩)) <;> omega
  · rw [if_neg hleap, if_neg hleap, Nat.add_zero]
    refine (read_parts hyear hmonth ⟨hfirst, hday⟩ ?_ ?_ ?_ ?_).trans
      (assemble_parts h htime (.inl ⟨?_, rfl, rfl⟩)) <;> omega

end

-- ============================================================ what is read

section

variable {t : Timestamp} {width n : Nat} {cs rest : List Char}

/-- Whatever is read for digits has no more of them than there are. -/
theorem getD_digitsFrom?_lt (ds : List Char) :
    (Text.digitsFrom? 0 ds).getD 0 < Nat.pow 10 ds.length := by
  cases hread : Text.digitsFrom? 0 ds with
  | none => exact Nat.pow_pos (by decide)
  | some n =>
      by_cases hempty : ds = []
      · subst hempty
        cases hread
        decide
      · rw [← Text.natural?_of_ne_nil hempty] at hread
        exact (Text.natural?_eq_some_iff.1 hread).lt

/-- A number has no more digits than are used for it. -/
theorem number_bounds (h : number width cs = .ok (n, rest)) :
    n < Nat.pow 10 (cs.length - rest.length) ∧ cs.length - rest.length ≤ width := by
  have hlength : ((cs.take width).takeWhile Char.isDigit).length ≤ (cs.take width).length :=
    (List.takeWhile_prefix _).length_le
  have hlt := getD_digitsFrom?_lt ((cs.take width).takeWhile Char.isDigit)
  rw [List.length_take] at hlength
  unfold number at h
  dsimp only at h
  generalize (cs.take width).takeWhile Char.isDigit = ds at h hlength hlt
  cases cs with
  | nil => cases h
  | cons c cs =>
      cases ds with
      | nil => cases h
      | cons d ds =>
          dsimp only at h
          split at h
          · cases h
          · cases h
            have hused : (c :: cs).length - ((c :: cs).drop (d :: ds).length).length
                = (d :: ds).length := by
              rw [List.length_drop]
              omega
            rw [hused]
            exact ⟨hlt, by omega⟩

/-- A fraction is less than a second. -/
theorem fraction_lt (h : fraction cs = .ok (n, rest)) : n < Timestamp.perSecond := by
  unfold fraction at h
  split at h
  next digits =>
    obtain ⟨⟨m, rest'⟩, hnumber, heq⟩ := bind_eq_ok h
    obtain ⟨hlt, hnine⟩ := number_bounds hnumber
    cases heq
    generalize digits.length - rest'.length = used at hlt hnine ⊢
    have hpow : Nat.pow 10 used * Nat.pow 10 (9 - used) = Timestamp.perSecond :=
      (Nat.mul_comm _ _).trans (Nat.pow_sub_mul_pow 10 hnine)
    rw [← hpow]
    exact Nat.mul_lt_mul_of_pos_right hlt (Nat.pow_pos (by decide))
  next =>
    cases h
    decide

/-- An offset is one of whole minutes. -/
theorem offset_minutes {shift : Int} (h : offset cs = .ok (shift, rest)) : shift % 60 = 0 := by
  unfold offset at h
  split at h
  · cases h
    rfl
  · cases h
    rfl
  · dsimp only at h
    split at h
    -- whatever the sign is, the same is read behind it
    all_goals
      obtain ⟨⟨negative, rest⟩, -, h⟩ := bind_eq_ok h
      obtain ⟨⟨h1, h2, rest⟩, -, h⟩ := bind_eq_ok h
      obtain ⟨⟨m1, m2, rest⟩, -, h⟩ := bind_eq_ok h
      dsimp only at h
      split at h
      · cases h
      · cases h
        split <;> omega

theorem zone_minutes {shift : Int} (h : zone cs = .ok (shift, rest)) : shift % 60 = 0 := by
  unfold zone at h
  split at h
  · cases h
    rfl
  · exact offset_minutes h

/-- There is a timestamp for what has been read. A leap second ends its minute, as offsets
are of whole minutes. -/
theorem assemble_valid {date : Date} {hour minute second nanos : Nat} {shift : Int}
    (hnanos : nanos < Timestamp.perSecond) (hshift : shift % 60 = 0)
    (h : assemble date hour minute second nanos shift = .ok t) : Valid t := by
  unfold assemble at h
  split at h
  · cases h
  · split at h
    · cases h
    · split at h
      next hparts =>
        split at hparts
        all_goals
          cases hparts
          dsimp only at h
          split at h
          next hdate =>
            cases h
            refine ⟨hdate, ?_⟩
            dsimp only
            have hperDay : Timestamp.perDay = 86400 := rfl
            rw [hperDay]
            omega
          · cases h

/-- There are all timestamps that are read. -/
theorem read_valid {s : String} (h : read s = .ok t) : Valid t := by
  unfold read at h
  obtain ⟨⟨y, _⟩, -, h⟩ := bind_eq_ok h
  obtain ⟨_, -, h⟩ := bind_eq_ok h
  obtain ⟨⟨month, _⟩, -, h⟩ := bind_eq_ok h
  obtain ⟨_, -, h⟩ := bind_eq_ok h
  obtain ⟨⟨day, _⟩, -, h⟩ := bind_eq_ok h
  obtain ⟨_, -, h⟩ := bind_eq_ok h
  obtain ⟨⟨hour, _⟩, -, h⟩ := bind_eq_ok h
  obtain ⟨_, -, h⟩ := bind_eq_ok h
  obtain ⟨⟨minute, _⟩, -, h⟩ := bind_eq_ok h
  obtain ⟨_, -, h⟩ := bind_eq_ok h
  obtain ⟨⟨second, _⟩, -, h⟩ := bind_eq_ok h
  obtain ⟨⟨nanos, _⟩, hnanos, h⟩ := bind_eq_ok h
  obtain ⟨⟨shift, _⟩, hshift, h⟩ := bind_eq_ok h
  dsimp only at h
  split at h
  · exact assemble_valid (fraction_lt hnanos) (zone_minutes hshift) h
  · cases h

/-- However a timestamp was written, its own text is read as the same one. -/
theorem read_text_of_read {s : String} (h : read s = .ok t) : read t.text = .ok t :=
  read_text (read_valid h)

/-- The offset is gone from the text, and the leap second has stayed. -/
example : (read "2016-12-31 18:59:60.5 -05:00").map Timestamp.text
    = .ok "2016-12-31T23:59:60.500Z" := rfl

end

end CheckGateway.Time
