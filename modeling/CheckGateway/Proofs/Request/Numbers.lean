/-
Arguments that are numbers.

Bounds come as numbers or as texts of them, and whatever is no such number counts for
nothing: it is as if the argument were not there. `GivesNumber` says when an argument is a
number of 32 bits and which one, whatever the default that is taken otherwise.
-/
import CheckGateway.Proofs.Request.Arguments
import CheckGateway.Proofs.Text.Decimal

namespace CheckGateway

namespace Text

/-- A whole number in decimal, with a sign if need be. -/
inductive Numeral : List Char → Int → Prop where
  | plain {cs : List Char} {n : Nat} (h : Digits cs n) : Numeral cs n
  | plus {cs : List Char} {n : Nat} (h : Digits cs n) : Numeral ('+' :: cs) n
  | minus {cs : List Char} {n : Nat} (h : Digits cs n) : Numeral ('-' :: cs) (-n)

section

variable {cs : List Char} {i : Int}

/-- What is read from digits after a sign, or without one, is their value as it counts
there. -/
theorem map_natural?_eq_some_iff (f : Nat → Int) :
    (natural? cs).map f = some i ↔ ∃ n, Digits cs n ∧ f n = i := by
  rw [Option.map_eq_some_iff]
  exact exists_congr fun n => and_congr_left' natural?_eq_some_iff

/-- A number is read from a text that is a numeral, if it is within the bounds. -/
theorem readInteger?_eq_some_iff {min max : Int} {s : String} :
    readInteger? min max s = some i ↔ Numeral s.toList i ∧ min ≤ i ∧ i ≤ max := by
  unfold readInteger?
  dsimp only
  rw [Option.filter_eq_some_iff, Bool.and_eq_true, decide_eq_true_eq, decide_eq_true_eq]
  refine and_congr_left' ?_
  generalize s.toList = cs
  split
  next cs =>
    have hread : ((natural? cs >>= fun n => pure (n : Int)).map fun n => -n)
        = (natural? cs).map fun n : Nat => -(n : Int) := by
      cases natural? cs <;> rfl
    rw [hread, map_natural?_eq_some_iff]
    constructor
    · rintro ⟨n, hn, rfl⟩
      exact .minus hn
    · intro h
      cases h with
      | plain h => exact absurd h (not_digits_cons rfl)
      | minus h => exact ⟨_, h, rfl⟩
  next cs =>
    rw [map_natural?_eq_some_iff]
    constructor
    · rintro ⟨n, hn, rfl⟩
      exact .plus hn
    · intro h
      cases h with
      | plain h => exact absurd h (not_digits_cons rfl)
      | plus h => exact ⟨_, h, rfl⟩
  next hminus hplus =>
    rw [map_natural?_eq_some_iff]
    constructor
    · rintro ⟨n, hn, rfl⟩
      exact .plain hn
    · intro h
      cases h with
      | plain h => exact ⟨_, h, rfl⟩
      | plus h => exact absurd rfl (hplus _)
      | minus h => exact absurd rfl (hminus _)

end

end Text

namespace Request

/-- An argument is a number of 32 bits, as such or as a text with blanks around it. -/
inductive GivesNumber (r : Request) (name : String) (i : Int) : Prop where
  | number (h : r.args.get? name = some (.number (.whole i)))
      (hmin : Text.int32Min ≤ i) (hmax : i ≤ Text.int32Max)
  | text {s : String} (h : r.args.get? name = some (.string s))
      (hnumeral : Text.Numeral (Text.trim s).toList i)
      (hmin : Text.int32Min ≤ i) (hmax : i ≤ Text.int32Max)

variable {r : Request} {name : String} {i default : Int}

theorem givesNumber_text_iff {s : String} (h : r.args.get? name = some (.string s)) :
    r.GivesNumber name i
      ↔ Text.readInteger? Text.int32Min Text.int32Max (Text.trim s) = some i := by
  rw [Text.readInteger?_eq_some_iff]
  constructor
  · intro hgives
    cases hgives with
    | number hi =>
        rw [h] at hi
        cases hi
    | text hs hnumeral hmin hmax =>
        rw [h] at hs
        cases hs
        exact ⟨hnumeral, hmin, hmax⟩
  · rintro ⟨hnumeral, hmin, hmax⟩
    exact .text h hnumeral hmin hmax

theorem not_gives_of_absent (h : r.args.get? name = none) : ∀ s, ¬ r.Gives name s := by
  rw [← text?_eq_none_iff]
  unfold text? arg?
  rw [h]
  rfl

theorem not_givesNumber_of_absent (h : r.args.get? name = none) : ∀ i, ¬ r.GivesNumber name i := by
  intro i hgives
  cases hgives with
  | number hi =>
      rw [h] at hi
      cases hi
  | text hs =>
      rw [h] at hs
      cases hs

/-- What is taken for an argument is the number that it gives, if it gives one. -/
theorem int32D_cases (r : Request) (name : String) (default : Int) :
    r.GivesNumber name (r.int32D name default) ∨ r.int32D name default = default := by
  unfold int32D
  split
  next n hget =>
    obtain ⟨hget, -⟩ := arg?_eq_some_iff.1 hget
    cases n with
    | real x => exact .inr rfl
    | whole n =>
        unfold Json.Number.within?
        dsimp only
        split
        next hwithin => exact .inl (.number hget hwithin.1 hwithin.2)
        next => exact .inr rfl
  next s hget =>
    obtain ⟨hget, -⟩ := arg?_eq_some_iff.1 hget
    cases hread : Text.readInteger? Text.int32Min Text.int32Max (Text.trim s) with
    | none => exact .inr rfl
    | some n => exact .inl ((givesNumber_text_iff hget).2 hread)
  next => exact .inr rfl

/-- A bound that is absent, or that is no number of 32 bits, is the default. -/
theorem int32D_of_none (h : ∀ i, ¬ r.GivesNumber name i) : r.int32D name default = default :=
  (int32D_cases r name default).resolve_left (h _)

end Request

end CheckGateway
