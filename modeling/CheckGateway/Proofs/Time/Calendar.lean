/-
Every day number has its date.

An era of 400 years has 146097 days, and within it a day is found by dividing: first
the year, then, counted from March, the month. The division by 365 that gives the
year corrects for the leap days that have been by then. That it does so exactly is all
there is to show (`dayOfYear_bounds`): the day lies in the year that is found, and it is
the 366th one of it only if the year has a leap day.
-/
import CheckGateway.Time.Civil
import Mathlib.Data.Int.Basic

namespace CheckGateway.Time

-- ================================================================ the year

/-- The year of an era in which a day of it is, counted from March. -/
def yearOfEra (day : Int) : Int :=
  (day - day / 1460 + day / 36524 - day / 146096) / 365

/-- The day of an era on which a year of it starts. -/
def startOfYear (year : Int) : Int := 365 * year + year / 4 - year / 100

section

variable {day : Int}

/-- Except for its last day, an era has four centuries of the same length, and in each
of them the four-year cycles that are counted are right or one ahead. -/
theorem yearOfEra_cycles (h : 0 ≤ day) (hlast : day < 146096) :
    yearOfEra day / 100 = day / 36524 ∧ yearOfEra day / 4 ≤ day / 1460
      ∧ day / 1460 ≤ yearOfEra day / 4 + 1 ∧ yearOfEra day / 4 ≤ 99 := by
  have hyear : yearOfEra day = (day - day / 1460 + day / 36524 - day / 146096) / 365 := rfl
  generalize yearOfEra day = year at hyear ⊢
  have hcentury : day / 36524 = 0 ∨ day / 36524 = 1 ∨ day / 36524 = 2 ∨ day / 36524 = 3 := by
    omega
  have hera : day / 146096 = 0 := by omega
  have hcycles : 25 * (day / 36524) ≤ day / 1460 := by omega
  rw [hera] at hyear
  rcases hcentury with hcentury | hcentury | hcentury | hcentury <;>
    rw [hcentury] at hyear hcycles ⊢ <;>
    (refine ⟨?_, ?_, ?_, ?_⟩) <;> omega

theorem yearOfEra_bounds (h : 0 ≤ day) (hera : day ≤ 146096) :
    0 ≤ yearOfEra day ∧ yearOfEra day ≤ 399 := by
  unfold yearOfEra
  omega

/-- A day lies in its year, and is the last of a longer one only if that ends with a
leap day. -/
theorem dayOfYear_bounds (h : 0 ≤ day) (hera : day ≤ 146096) :
    startOfYear (yearOfEra day) ≤ day ∧ day ≤ startOfYear (yearOfEra day) + 365
      ∧ (day = startOfYear (yearOfEra day) + 365 → isLeapYear (yearOfEra day + 1) = true) := by
  rcases Int.lt_or_eq_of_le hera with hlast | rfl
  · obtain ⟨hcentury, hcycles, hahead, hfew⟩ := yearOfEra_cycles h hlast
    have hyear : yearOfEra day = (day - day / 1460 + day / 36524 - day / 146096) / 365 := rfl
    have hera : day / 146096 = 0 := by omega
    rw [hera] at hyear
    unfold startOfYear isLeapYear
    generalize yearOfEra day = year at *
    refine ⟨by omega, by omega, fun hend => ?_⟩
    -- on a 366th day one more cycle has been counted than is over
    have hcounted : day / 1460 = year / 4 + 1 := by omega
    have hcenturies : 0 ≤ day / 36524 := by omega
    have hthird : 3 ≤ year - year / 4 * 4 := by omega
    have hleap : (year + 1) % 4 = 0 := by omega
    have hnot : (year + 1) % 100 ≠ 0 := by omega
    simp [hleap, hnot]
  · decide

end

-- ================================================================ the date

/-- The date of a day of a year of an era. -/
def dateOf (era year day : Int) : Date :=
  let month := (5 * day + 2) / 153
  let civil := if month < 10 then month + 3 else month - 9
  ⟨if civil ≤ 2 then year + era * 400 + 1 else year + era * 400, civil.toNat,
    (day - (153 * month + 2) / 5 + 1).toNat⟩

theorem ofDays_eq {days era day : Int} (h : days + 719468 = era * 146097 + day)
    (hday : 0 ≤ day ∧ day ≤ 146096) :
    Date.ofDays days = dateOf era (yearOfEra day) (day - startOfYear (yearOfEra day)) := by
  have hera : (days + 719468) / 146097 = era := by omega
  have hrest : days + 719468 - era * 146097 = day := by omega
  unfold Date.ofDays
  dsimp only
  rw [hera, hrest]
  rfl

section

variable {era year day : Int}

/-- Months are counted from March; these are the calendar's. -/
theorem civil_cases (era year : Int) (hday : 0 ≤ day ∧ day ≤ 365) :
    (0 ≤ (5 * day + 2) / 153 ∧ (5 * day + 2) / 153 ≤ 9
        ∧ dateOf era year day = ⟨year + era * 400, ((5 * day + 2) / 153 + 3).toNat,
          (day - (153 * ((5 * day + 2) / 153) + 2) / 5 + 1).toNat⟩)
      ∨ (10 ≤ (5 * day + 2) / 153 ∧ (5 * day + 2) / 153 ≤ 11
        ∧ dateOf era year day = ⟨year + era * 400 + 1, ((5 * day + 2) / 153 - 9).toNat,
          (day - (153 * ((5 * day + 2) / 153) + 2) / 5 + 1).toNat⟩) := by
  have hmonth : 0 ≤ (5 * day + 2) / 153 ∧ (5 * day + 2) / 153 ≤ 11 := by omega
  unfold dateOf
  dsimp only
  by_cases hspring : (5 * day + 2) / 153 < 10
  · refine .inl ⟨hmonth.1, by omega, ?_⟩
    rw [if_pos hspring, if_neg (by omega)]
  · refine .inr ⟨by omega, hmonth.2, ?_⟩
    rw [if_neg hspring, if_pos (by omega)]

/-- The day of a year is found again from the month and the day of the month. -/
theorem day_of_month (day : Int) :
    (153 * ((5 * day + 2) / 153) + 2) / 5
      + ((day - (153 * ((5 * day + 2) / 153) + 2) / 5 + 1).toNat : Int) - 1 = day := by
  omega

theorem toDays_dateOf (era : Int) (hyear : 0 ≤ year ∧ year ≤ 399) (hday : 0 ≤ day ∧ day ≤ 365) :
    (dateOf era year day).toDays = era * 146097 + (startOfYear year + day) - 719468 := by
  have hera : (year + era * 400) / 400 = era := by omega
  have hrest : year + era * 400 - era * 400 = year := by omega
  have hback := day_of_month day
  unfold Date.toDays startOfYear
  rcases civil_cases era year hday with ⟨hlow, hhigh, hdate⟩ | ⟨hlow, hhigh, hdate⟩
  · rw [hdate]
    generalize (5 * day + 2) / 153 = month at *
    have hcivil : ¬ (month + 3).toNat ≤ 2 := by omega
    have hmonth : ((month + 3).toNat : Int) - 3 = month := by omega
    dsimp only
    rw [if_neg hcivil, if_neg hcivil, hmonth, hback, hera, hrest]
    omega
  · rw [hdate]
    generalize (5 * day + 2) / 153 = month at *
    have hcivil : (month - 9).toNat ≤ 2 := by omega
    have hmonth : ((month - 9).toNat : Int) + 9 = month := by omega
    dsimp only
    rw [if_pos hcivil, if_pos hcivil, Int.add_sub_cancel, hmonth, hback, hera, hrest]
    omega

theorem valid_iff (date : Date) :
    date.valid = true ↔ 1 ≤ date.day ∧ date.day ≤ daysInMonth date.year date.month := by
  unfold Date.valid
  rw [Bool.and_eq_true, decide_eq_true_eq, decide_eq_true_eq]

/-- The number in the calendar of a month counted from March. -/
def civilMonth (month : Nat) : Nat := if month < 10 then month + 3 else month - 9

/-- All months but February end where the next one starts. -/
theorem daysInMonth_civil (year : Int) {month : Nat} (h : month ≤ 10) :
    (153 * month + 2) / 5 + daysInMonth year (civilMonth month) = (153 * (month + 1) + 2) / 5 := by
  have hmonth : month = 0 ∨ month = 1 ∨ month = 2 ∨ month = 3 ∨ month = 4 ∨ month = 5
      ∨ month = 6 ∨ month = 7 ∨ month = 8 ∨ month = 9 ∨ month = 10 := by omega
  rcases hmonth with rfl | rfl | rfl | rfl | rfl | rfl | rfl | rfl | rfl | rfl | rfl <;> rfl

theorem daysInMonth_le (year : Int) (month : Nat) : daysInMonth year month ≤ 31 := by
  have hfebruary : (if isLeapYear year then 29 else 28) ≤ 31 := by split <;> decide
  unfold daysInMonth
  split <;> first | exact hfebruary | decide

theorem isLeapYear_add_era (year era : Int) :
    isLeapYear (year + era * 400) = isLeapYear year := by
  unfold isLeapYear
  rw [show (year + era * 400) % 4 = year % 4 by omega,
    show (year + era * 400) % 100 = year % 100 by omega,
    show (year + era * 400) % 400 = year % 400 by omega]

/-- Dates of days exist. February comes last here, and ends with the year. -/
theorem valid_dateOf (era : Int) (hday : 0 ≤ day ∧ day ≤ 365)
    (hleap : day = 365 → isLeapYear (year + 1) = true) :
    1 ≤ (dateOf era year day).month ∧ (dateOf era year day).month ≤ 12
      ∧ (dateOf era year day).valid = true := by
  obtain ⟨month, hmonth⟩ : ∃ month : Nat, (5 * day + 2) / 153 = month :=
    ⟨((5 * day + 2) / 153).toNat, by omega⟩
  have hcivil : (dateOf era year day).month = civilMonth month := by
    unfold dateOf civilMonth
    dsimp only
    rw [hmonth]
    split <;> split <;> omega
  have hfebruary : month = 11 → (dateOf era year day).year = year + 1 + era * 400 := by
    rintro rfl
    unfold dateOf
    dsimp only
    rw [hmonth]
    show year + era * 400 + 1 = _
    omega
  have hdays : (dateOf era year day).day = (day - (153 * month + 2) / 5 + 1).toNat := by
    unfold dateOf
    dsimp only
    rw [hmonth]
  rw [valid_iff, hcivil, hdays]
  refine ⟨?_, ?_, by omega, ?_⟩
  · unfold civilMonth
    split <;> omega
  · unfold civilMonth
    split <;> omega
  · rcases Nat.lt_or_ge month 11 with hlt | hge
    · have hlength := daysInMonth_civil (dateOf era year day).year (Nat.le_of_lt_succ hlt)
      have hover : (153 * (month : Int) + 2) / 5
          + (daysInMonth (dateOf era year day).year (civilMonth month) : Int)
          = (153 * (month + 1) + 2) / 5 := by exact_mod_cast hlength
      omega
    · have hlast : month = 11 := by omega
      rw [hfebruary hlast, hlast]
      show _ ≤ if isLeapYear (year + 1 + era * 400) then 29 else 28
      rw [isLeapYear_add_era]
      split
      · omega
      · have hshort : day ≠ 365 := by simp_all
        omega

end

/-- Every day has a date that exists, and its number is the day's. -/
theorem toDays_ofDays (days : Int) : (Date.ofDays days).toDays = days
    ∧ (Date.ofDays days).valid = true
    ∧ 1 ≤ (Date.ofDays days).month ∧ (Date.ofDays days).month ≤ 12 := by
  obtain ⟨era, day, hdays, hday⟩ : ∃ era day, days + 719468 = era * 146097 + day
      ∧ 0 ≤ day ∧ day ≤ 146096 :=
    ⟨(days + 719468) / 146097, days + 719468 - (days + 719468) / 146097 * 146097, by omega⟩
  obtain ⟨hstart, hend, hleap⟩ := dayOfYear_bounds hday.1 hday.2
  have hbounds : 0 ≤ day - startOfYear (yearOfEra day)
      ∧ day - startOfYear (yearOfEra day) ≤ 365 := by omega
  obtain ⟨hfirst, hlast, hvalid⟩ := valid_dateOf era hbounds fun h => hleap (by omega)
  rw [ofDays_eq hdays hday]
  refine ⟨?_, hvalid, hfirst, hlast⟩
  rw [toDays_dateOf era (yearOfEra_bounds hday.1 hday.2) hbounds]
  omega

end CheckGateway.Time
