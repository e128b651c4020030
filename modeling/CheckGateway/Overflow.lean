/-
Products of signed 64-bit integers. What an overflow comes to is decided
when a program is built: one that is built to look for overflows dies of
them, and any other goes on with the product wrapped around.
-/
import CheckGateway.Error

namespace CheckGateway

/-- What an overflow comes to. -/
inductive Overflow where
  | panics
  | wraps
  deriving DecidableEq, Repr

/-- The number is one of 64 bits. -/
def Fits64 (n : Int) : Prop := Text.int64Min ≤ n ∧ n ≤ Text.int64Max

instance (n : Int) : Decidable (Fits64 n) := inferInstanceAs (Decidable (_ ∧ _))

/-- How many numbers have 64 bits. -/
def span64 : Nat := 18446744073709551616

namespace Overflow

/-- The product of two numbers of 64 bits. -/
def mul (o : Overflow) (a b : Int) : Except Fault Int :=
  if Fits64 (a * b) then .ok (a * b)
  else
    match o with
    | .panics => .error .panicked
    | .wraps => .ok ((a * b).bmod span64)

section

variable {o : Overflow} {a b n : Int} {e : Fault}

/-- What fits is the product. -/
theorem mul_of_fits (h : Fits64 (a * b)) : o.mul a b = .ok (a * b) := if_pos h

/-- The only fault is a death of an overflow. -/
theorem mul_eq_error_iff :
    o.mul a b = .error e ↔ e = .panicked ∧ o = .panics ∧ ¬ Fits64 (a * b) := by
  unfold mul
  split
  next hfits => simp [hfits]
  next hfits => cases o <;> simp [hfits, eq_comm]

/-- One that is built to look for overflows has no product but the true one. -/
theorem fits_of_mul_panics (h : mul .panics a b = .ok n) : Fits64 (a * b) := by
  unfold mul at h
  split at h
  next hfits => exact hfits
  next => cases h

/-- What there is of a product has 64 bits, and differs from the true one by
multiples of their range. -/
theorem fits_of_mul_eq_ok (h : o.mul a b = .ok n) : Fits64 n ∧ (span64 : Int) ∣ n - a * b := by
  unfold mul at h
  split at h
  next hfits =>
    cases h
    exact ⟨hfits, by simp⟩
  next =>
    cases o with
    | panics => cases h
    | wraps =>
        cases h
        refine ⟨⟨?_, ?_⟩, ?_⟩
        · exact Int.le_bmod (by decide)
        · have hlt := Int.bmod_lt (x := a * b) (m := span64) (by decide)
          unfold Text.int64Max
          unfold span64 at hlt ⊢
          omega
        · exact Int.dvd_bmod_sub_self

end

end Overflow

end CheckGateway
