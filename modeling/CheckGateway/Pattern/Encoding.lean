/-
Code point ranges as ranges of bytes. A range of code points is written in
UTF-8 by several rows of byte ranges; each row stands for all texts with
one byte from every range of the row. Main statement: the rows for numbers
of a fixed number of digits hold just the numbers between the ends
(`holds_digitRows`).
-/
import CheckGateway.Unicode.CodePointSet

namespace CheckGateway.Pattern.Encoding

/-- Ranges of bytes or digits, one for each place. -/
abbrev Row := List (Nat × Nat)

/-- How many numbers so many digits can write. -/
def capacity : Nat → Nat
  | 0 => 1
  | places + 1 => capacity places * 64

theorem capacity_pos (places : Nat) : 0 < capacity places := by
  induction places with
  | zero => exact Nat.one_pos
  | succ places ih => exact Nat.mul_pos ih (by decide)

/-- The rows for all numbers from `low` to `high`, in digits of base 64:
one leading digit, which may be larger, and so many after it. What the two
ends share stands in front; otherwise the leading digits between them take
all digits after, and an end takes a row of its own where it does not. -/
def digitRows : Nat → Nat → Nat → List Row
  | 0, low, high => [[(low, high)]]
  | places + 1, low, high =>
      let unit := capacity (places + 1)
      let a := low / unit
      let b := high / unit
      let under (digit : Nat) (rows : List Row) := rows.map ((digit, digit) :: ·)
      if a = b then under a (digitRows places (low % unit) (high % unit))
      else
        let start := if low % unit = 0 then a else a + 1
        let stop := if high % unit = unit - 1 then b + 1 else b
        let first :=
          if low % unit = 0 then []
          else under a (digitRows places (low % unit) (unit - 1))
        let middle :=
          if start < stop then
            [(start, stop - 1) :: List.replicate (places + 1) (0, 63)]
          else []
        let last :=
          if high % unit = unit - 1 then []
          else under b (digitRows places 0 (high % unit))
        first ++ middle ++ last

/-- The code points whose encoding has so many bytes after the first one,
without surrogates. -/
def blocks : List (Nat × Nat × Nat) :=
  [(0, 0, 0x7F), (1, 0x80, 0x7FF), (2, 0x800, 0xD7FF), (2, 0xE000, 0xFFFF),
    (3, 0x10000, 0x10FFFF)]

/-- What the first byte holds beside its digit, by the number of bytes
after it. -/
def leadMark : Nat → Nat
  | 0 => 0
  | 1 => 0xC0
  | 2 => 0xE0
  | _ => 0xF0

/-- The bytes that digits are written in. -/
def bytesOf (places : Nat) : Row → Row
  | [] => []
  | lead :: digits =>
      (leadMark places + lead.1, leadMark places + lead.2)
        :: digits.map fun d => (0x80 + d.1, 0x80 + d.2)

/-- The rows of bytes for a range of code points, in ascending order. -/
def rowsOf (r : Nat × Nat) : List Row :=
  blocks.flatMap fun (places, first, last) =>
    let low := max r.1 first
    let high := min r.2 last
    if low ≤ high then (digitRows places low high).map (bytesOf places) else []

/-- The rows of bytes for a set. -/
def rows (s : Unicode.CodePointSet) : List Row := s.ranges.flatMap rowsOf

-- ============================================================= meaning

/-- The digits of a number lie in the ranges of a row. -/
def holds : Row → Nat → Bool
  | [], _ => true
  | r :: rest, n =>
      Unicode.inRange (n / capacity rest.length) r
        && holds rest (n % capacity rest.length)

theorem length_of_mem_digitRows {places low high : Nat} {row : Row}
    (h : row ∈ digitRows places low high) : row.length = places + 1 := by
  induction places generalizing low high row with
  | zero =>
      rw [digitRows, List.mem_singleton] at h
      rw [h]; rfl
  | succ places ih =>
      have hunder : ∀ {digit low high : Nat} {row : Row},
          row ∈ (digitRows places low high).map ((digit, digit) :: ·) →
            row.length = places + 2 := by
        intro digit low high row h
        obtain ⟨rest, hrest, rfl⟩ := List.mem_map.1 h
        rw [List.length_cons, ih hrest]
      simp only [digitRows] at h
      split at h
      · exact hunder h
      · have hend : ∀ {c : Prop} [Decidable c] {digit low high : Nat}
            {row : Row},
            row ∈ (if c then [] else
              (digitRows places low high).map ((digit, digit) :: ·)) →
              row.length = places + 2 := by
          intro c _ digit low high row h
          split at h
          · cases h
          · exact hunder h
        have hfull : ∀ {c : Prop} [Decidable c] {r : Nat × Nat} {row : Row},
            row ∈ (if c then [r :: List.replicate (places + 1) (0, 63)]
              else []) → row.length = places + 2 := by
          intro c _ r row h
          split at h
          · rw [List.mem_singleton] at h
            rw [h, List.length_cons, List.length_replicate]
          · cases h
        rcases List.mem_append.1 h with h | h
        · rcases List.mem_append.1 h with h | h
          · exact hend h
          · exact hfull h
        · exact hend h

/-- Any number's digits lie in a row that allows all of them. -/
theorem holds_replicate (places n : Nat) (h : n < capacity places) :
    holds (List.replicate places (0, 63)) n = true := by
  induction places generalizing n with
  | zero => rfl
  | succ places ih =>
      have hpos : 0 < capacity places := capacity_pos _
      have hzero := Nat.zero_le (n / capacity places)
      have hlead : n / capacity places < 64 := by
        rw [Nat.div_lt_iff_lt_mul hpos, Nat.mul_comm]
        exact h
      rw [List.replicate_succ, holds, List.length_replicate,
        ih _ (Nat.mod_lt _ hpos), Bool.and_true, Unicode.inRange,
        Bool.and_eq_true, decide_eq_true_eq, decide_eq_true_eq]
      omega

/-- Numbers compare by their leading digit, then by the rest. -/
theorem le_iff_digits {u : Nat} (hu : 0 < u) (a b : Nat) :
    a ≤ b ↔ a / u < b / u ∨ (a / u = b / u ∧ a % u ≤ b % u) := by
  have ha := Nat.div_add_mod a u
  have hb := Nat.div_add_mod b u
  have hra := Nat.mod_lt a hu
  have hrb := Nat.mod_lt b hu
  constructor
  · intro h
    rcases Nat.lt_or_eq_of_le (Nat.div_le_div_right (c := u) h) with hlt | heq
    · exact Or.inl hlt
    · refine Or.inr ⟨heq, ?_⟩
      rw [heq] at ha
      omega
  · rintro (h | ⟨h, hr⟩)
    · have := Nat.mul_le_mul_left u h
      rw [Nat.mul_succ] at this
      omega
    · rw [h] at ha
      omega

theorem any_under (places digit low high n : Nat) :
    ((digitRows places low high).map ((digit, digit) :: ·)).any (holds · n)
      = (n / capacity (places + 1) == digit
        && (digitRows places low high).any
          (holds · (n % capacity (places + 1)))) := by
  rw [List.any_map, Bool.eq_iff_iff, Bool.and_eq_true, List.any_eq_true,
    List.any_eq_true]
  have key : ∀ row ∈ digitRows places low high,
      (holds ((digit, digit) :: row) n = true
        ↔ n / capacity (places + 1) = digit
          ∧ holds row (n % capacity (places + 1)) = true) := by
    intro row hrow
    rw [holds, length_of_mem_digitRows hrow, Bool.and_eq_true,
      Unicode.inRange, Bool.and_eq_true, decide_eq_true_eq,
      decide_eq_true_eq]
    constructor
    · rintro ⟨⟨h₁, h₂⟩, h₃⟩
      exact ⟨Nat.le_antisymm h₂ h₁, h₃⟩
    · rintro ⟨rfl, h₃⟩
      exact ⟨⟨Nat.le_refl _, Nat.le_refl _⟩, h₃⟩
  constructor
  · rintro ⟨row, hrow, h⟩
    obtain ⟨h₁, h₂⟩ := (key row hrow).1 h
    exact ⟨by simpa using h₁, row, hrow, h₂⟩
  · rintro ⟨h₁, row, hrow, h₂⟩
    exact ⟨row, hrow, (key row hrow).2 ⟨by simpa using h₁, h₂⟩⟩

/-- The rows between two numbers hold those between them. -/
theorem holds_digitRows (places : Nat) {low high : Nat} (n : Nat)
    (h : low ≤ high) :
    (digitRows places low high).any (holds · n)
      = (decide (low ≤ n) && decide (n ≤ high)) := by
  induction places generalizing low high n with
  | zero =>
      simp [digitRows, holds, capacity, Unicode.inRange]
  | succ places ih =>
      have hu : 0 < capacity (places + 1) := capacity_pos _
      have hn := Nat.mod_lt n hu
      have hlow := Nat.mod_lt low hu
      have hhigh := Nat.mod_lt high hu
      have hn₀ := Nat.zero_le (n / capacity (places + 1))
      have hlow₀ := Nat.zero_le (low / capacity (places + 1))
      have hhigh₀ := Nat.zero_le (high / capacity (places + 1))
      have hfull : ∀ start stop : Nat,
          holds ((start, stop) :: List.replicate (places + 1) (0, 63)) n
            = (decide (start ≤ n / capacity (places + 1))
              && decide (n / capacity (places + 1) ≤ stop)) := by
        intro start stop
        rw [holds, List.length_replicate, holds_replicate _ _ hn,
          Bool.and_true]
        rfl
      rw [Bool.eq_iff_iff, Bool.and_eq_true, decide_eq_true_eq,
        decide_eq_true_eq, le_iff_digits hu low n, le_iff_digits hu n high]
      rw [le_iff_digits hu low high] at h
      simp only [digitRows]
      split
      · rename_i hab
        rw [any_under, ih _ (by omega), Bool.and_eq_true, Bool.and_eq_true,
          beq_iff_eq, decide_eq_true_eq, decide_eq_true_eq]
        omega
      · rename_i hab
        rw [List.any_append, List.any_append, Bool.or_eq_true,
          Bool.or_eq_true]
        by_cases hl : low % capacity (places + 1) = 0 <;>
          by_cases hh : high % capacity (places + 1) = capacity (places + 1) - 1 <;>
          simp only [hl, hh, if_true, if_false] <;> split <;>
          simp only [List.any_nil, List.any_cons, any_under, hfull,
            ih _ (Nat.zero_le _),
            ih _ (show low % capacity (places + 1) ≤ capacity (places + 1) - 1 by
              omega),
            Bool.or_false, Bool.and_eq_true, beq_iff_eq, decide_eq_true_eq,
            Bool.false_eq_true, false_or, or_false] <;>
          omega

end CheckGateway.Pattern.Encoding
