/-
Runs of digits and their values.

`Digits` says which number a run of decimal digits stands for, by the last digit: what
stands before it counts ten times. This is what is read from a run, and numbers are
written as such runs, with zeros in front of them if they are to have some width.
-/
import CheckGateway.Text.Decimal
import Mathlib.Data.List.Induction

namespace CheckGateway.Text

/-- A run of decimal digits, of which there is one at least, and its value. -/
inductive Digits : List Char → Nat → Prop where
  | one {c : Char} {d : Nat} (h : digit? c = some d) : Digits [c] d
  | snoc {cs : List Char} {c : Char} {n d : Nat} (hcs : Digits cs n) (h : digit? c = some d) :
      Digits (cs ++ [c]) (n * 10 + d)

variable {c : Char} {cs : List Char} {acc n : Nat}

-- ============================================================ runs that are read

theorem digitsFrom?_concat : digitsFrom? acc (cs ++ [c])
    = (digitsFrom? acc cs).bind fun n => (digit? c).map fun d => n * 10 + d := by
  induction cs generalizing acc with
  | nil =>
      show (digit? c).bind (fun d => some (acc * 10 + d)) = (digit? c).map fun d => acc * 10 + d
      cases digit? c <;> rfl
  | cons b cs ih =>
      show (digit? b).bind _ = ((digit? b).bind _).bind _
      cases digit? b with
      | none => rfl
      | some d => exact ih

theorem natural?_of_ne_nil (h : cs ≠ []) : natural? cs = digitsFrom? 0 cs := by
  cases cs with
  | nil => exact absurd rfl h
  | cons c cs => rfl

theorem Digits.ne_nil (h : Digits cs n) : cs ≠ [] := by
  cases h with
  | one => exact List.cons_ne_nil _ _
  | snoc => exact List.append_ne_nil_of_right_ne_nil _ (List.cons_ne_nil _ _)

theorem natural?_eq_some_iff : natural? cs = some n ↔ Digits cs n := by
  -- By the last digit: what is read up to it is the number that it goes behind.
  constructor
  · induction cs using List.reverseRecOn generalizing n with
    | nil => exact nofun
    | append_singleton cs c ih =>
        intro h
        rw [natural?_of_ne_nil (by simp), digitsFrom?_concat] at h
        obtain ⟨m, hm, hlast⟩ := Option.bind_eq_some_iff.1 h
        obtain ⟨d, hd, rfl⟩ := Option.map_eq_some_iff.1 hlast
        cases cs with
        | nil =>
            cases hm
            rw [Nat.zero_mul, Nat.zero_add]
            exact .one hd
        | cons b cs => exact .snoc (ih hm) hd
  · intro h
    induction h with
    | @one c d h =>
        show (digit? c).bind (fun d => some (0 * 10 + d)) = some d
        rw [h, Option.bind_some, Nat.zero_mul, Nat.zero_add]
    | @snoc cs c n d hcs h ih =>
        rw [natural?_of_ne_nil hcs.ne_nil] at ih
        rw [natural?_of_ne_nil (by simp), digitsFrom?_concat, ih, h]
        rfl

theorem Digits.digitsFrom? (h : Digits cs n) : digitsFrom? 0 cs = some n := by
  rw [← natural?_of_ne_nil h.ne_nil]
  exact natural?_eq_some_iff.2 h

/-- Digits do not start with a sign. -/
theorem not_digits_cons (h : digit? c = none) : ¬ Digits (c :: cs) n := by
  intro hdigits
  have hread : (digit? c).bind (fun d => Text.digitsFrom? (0 * 10 + d) cs) = some n :=
    natural?_eq_some_iff.2 hdigits
  rw [h] at hread
  cases hread

theorem isDigit_of_digit? {d : Nat} (h : digit? c = some d) : c.isDigit = true := by
  unfold digit? at h
  split at h
  next hbounds =>
    unfold Char.isDigit
    rw [Bool.and_eq_true, decide_eq_true_eq, decide_eq_true_eq]
    exact hbounds
  · cases h

theorem Digits.isDigit (h : Digits cs n) : ∀ c ∈ cs, c.isDigit = true := by
  induction h with
  | one h => exact fun c hc => List.mem_singleton.1 hc ▸ isDigit_of_digit? h
  | snoc _ h ih =>
      intro c hc
      rcases List.mem_append.1 hc with hc | hc
      · exact ih c hc
      · exact List.mem_singleton.1 hc ▸ isDigit_of_digit? h

theorem lt_of_digit? {d : Nat} (h : digit? c = some d) : d < 10 := by
  unfold digit? at h
  split at h
  next hbounds =>
    have hnine : c.toNat ≤ 57 := hbounds.2
    have hzero : '0'.toNat = 48 := rfl
    cases h
    omega
  · cases h

/-- Every further digit makes room for ten times as much. -/
theorem Digits.lt (h : Digits cs n) : n < Nat.pow 10 cs.length := by
  induction h with
  | one h => exact lt_of_digit? h
  | @snoc cs c n d _ h ih =>
      have hd := lt_of_digit? h
      have hpow : Nat.pow 10 (cs ++ [c]).length = Nat.pow 10 cs.length * 10 := by
        rw [List.length_append]
        rfl
      omega

-- ========================================================= runs that are written

theorem digit?_digitChar : ∀ d < 10, digit? (Nat.digitChar d) = some d := by decide

/-- A number is written as its digits. -/
theorem digits_digits (n : Nat) : Digits (digits n) n := by
  induction n using Nat.strongRecOn with
  | _ n ih =>
      unfold digits
      rw [Nat.toDigits_eq_if (by decide)]
      split
      next hsmall => exact .one (digit?_digitChar n hsmall)
      next hlarge =>
        have hrest : Digits (Nat.toDigits 10 (n / 10)) (n / 10) := ih (n / 10) (by omega)
        have hsnoc := Digits.snoc hrest (digit?_digitChar (n % 10) (Nat.mod_lt n (by decide)))
        rwa [Nat.div_add_mod' n 10] at hsnoc

/-- Zeros in front do not count. -/
theorem Digits.zeros (h : Digits cs n) (k : Nat) : Digits (List.replicate k '0' ++ cs) n := by
  induction k with
  | zero => exact h
  | succ k ih =>
      rw [List.replicate_succ, List.cons_append, ← natural?_eq_some_iff]
      exact ih.digitsFrom?

theorem toList_padded (width n : Nat) : (padded width n).toList
    = List.replicate (width - (digits n).length) '0' ++ digits n := String.toList_ofList

theorem digits_padded (width n : Nat) : Digits (padded width n).toList n := by
  rw [toList_padded]
  exact (digits_digits n).zeros _

/-- A number that has no more digits gets the width that it is padded to. -/
theorem length_padded {width : Nat} (hwidth : 0 < width) (h : n < Nat.pow 10 width) :
    (padded width n).toList.length = width := by
  have hlength : (digits n).length ≤ width := (Nat.length_toDigits_le_iff (by decide) hwidth).2 h
  rw [toList_padded, List.length_append, List.length_replicate]
  omega

end CheckGateway.Text
