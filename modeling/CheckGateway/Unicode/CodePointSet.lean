/-
Sets of code points, kept as inclusive ranges that ascend with a gap
between any two, so that a set has one form. Main statements: what the
operations build has exactly the members that their names promise
(`contains_ofList`, `contains_outside`, `contains_union`, `contains_inter`,
`contains_diff`, `contains_symmDiff`).
-/

namespace CheckGateway.Unicode

/-- The greatest code point. -/
def maxCodePoint : Nat := 0x10FFFF

/-- Ranges from `start` on, none of them empty, with a gap before each but
the first. -/
def AscendingFrom (start : Nat) : List (Nat × Nat) → Prop
  | [] => True
  | (low, high) :: rest =>
      start ≤ low ∧ low ≤ high ∧ AscendingFrom (high + 2) rest

theorem AscendingFrom.mono {a b : Nat} {rs : List (Nat × Nat)}
    (h : AscendingFrom a rs) (hab : b ≤ a) : AscendingFrom b rs := by
  cases rs with
  | nil => trivial
  | cons r rest => exact ⟨Nat.le_trans hab h.1, h.2⟩

/-- A set of code points. -/
structure CodePointSet where
  ranges : List (Nat × Nat)
  ascending : AscendingFrom 0 ranges
  deriving DecidableEq, Repr

/-- A code point lies between the ends of a range. -/
def inRange (n : Nat) (r : Nat × Nat) : Bool :=
  r.1 ≤ n && n ≤ r.2

-- =============================================================== joining

/-- Joins a range with those after it that overlap or touch it. -/
def joinFrom (low high : Nat) : List (Nat × Nat) → List (Nat × Nat)
  | [] => [(low, high)]
  | (a, b) :: rest =>
      if a ≤ high + 1 then joinFrom low (max high b) rest
      else (low, high) :: joinFrom a b rest

/-- Joins ranges that are sorted by their lower ends. -/
def join : List (Nat × Nat) → List (Nat × Nat)
  | [] => []
  | (a, b) :: rest => joinFrom a b rest

/-- What joining needs of its list. -/
def Joinable (rs : List (Nat × Nat)) : Prop :=
  rs.Pairwise (fun r s => r.1 ≤ s.1) ∧ ∀ r ∈ rs, r.1 ≤ r.2

theorem ascending_joinFrom {rs : List (Nat × Nat)} {start low high : Nat}
    (hs : start ≤ low) (hr : low ≤ high) (hj : Joinable ((low, high) :: rs)) :
    AscendingFrom start (joinFrom low high rs) := by
  induction rs generalizing start low high with
  | nil => exact ⟨hs, hr, trivial⟩
  | cons r rest ih =>
      obtain ⟨a, b⟩ := r
      obtain ⟨hsort, hne⟩ := hj
      have hab : a ≤ b := hne (a, b) (by simp)
      have hrest := (List.pairwise_cons.1 hsort).2
      have hlow : ∀ s ∈ rest, low ≤ s.1 := fun s h =>
        (List.pairwise_cons.1 hsort).1 s (List.mem_cons_of_mem _ h)
      simp only [joinFrom]
      split
      · refine ih hs (Nat.le_trans hr (Nat.le_max_left ..)) ⟨?_, ?_⟩
        · exact List.pairwise_cons.2 ⟨hlow, (List.pairwise_cons.1 hrest).2⟩
        · intro s h
          rcases List.mem_cons.1 h with rfl | h
          · exact Nat.le_trans hr (Nat.le_max_left ..)
          · exact hne s (by simp [h])
      · refine ⟨hs, hr, ih (by omega) hab ⟨hrest, ?_⟩⟩
        intro s h
        exact hne s (List.mem_cons_of_mem _ h)

theorem any_joinFrom {rs : List (Nat × Nat)} {low high : Nat}
    (hr : low ≤ high) (hj : Joinable ((low, high) :: rs)) (n : Nat) :
    (joinFrom low high rs).any (inRange n)
      = (inRange n (low, high) || rs.any (inRange n)) := by
  induction rs generalizing low high with
  | nil => simp [joinFrom]
  | cons r rest ih =>
      obtain ⟨a, b⟩ := r
      obtain ⟨hsort, hne⟩ := hj
      have hla : low ≤ a :=
        (List.pairwise_cons.1 hsort).1 (a, b) (by simp)
      have hab : a ≤ b := hne (a, b) (by simp)
      have hrest := (List.pairwise_cons.1 hsort).2
      have hlow : ∀ s ∈ rest, low ≤ s.1 := fun s h =>
        (List.pairwise_cons.1 hsort).1 s (List.mem_cons_of_mem _ h)
      simp only [joinFrom]
      split
      · rw [ih (Nat.le_trans hr (Nat.le_max_left ..)) ⟨?_, ?_⟩]
        · have : inRange n (low, max high b)
              = (inRange n (low, high) || inRange n (a, b)) := by
            rw [Bool.eq_iff_iff]
            simp only [inRange, Bool.and_eq_true, Bool.or_eq_true,
              decide_eq_true_eq]
            omega
          rw [this, List.any_cons, Bool.or_assoc]
        · exact List.pairwise_cons.2 ⟨hlow, (List.pairwise_cons.1 hrest).2⟩
        · intro s h
          rcases List.mem_cons.1 h with rfl | h
          · exact Nat.le_trans hr (Nat.le_max_left ..)
          · exact hne s (by simp [h])
      · rw [List.any_cons, ih hab ⟨hrest, ?_⟩, List.any_cons]
        intro s h
        exact hne s (List.mem_cons_of_mem _ h)

theorem ascending_join {rs : List (Nat × Nat)} (h : Joinable rs) :
    AscendingFrom 0 (join rs) := by
  cases rs with
  | nil => trivial
  | cons r rest =>
      exact ascending_joinFrom (Nat.zero_le _) (h.2 r (by simp)) h

theorem any_join {rs : List (Nat × Nat)} (h : Joinable rs) (n : Nat) :
    (join rs).any (inRange n) = rs.any (inRange n) := by
  cases rs with
  | nil => rfl
  | cons r rest =>
      rw [join, any_joinFrom (h.2 r (by simp)) h, List.any_cons]

/-- Ranges without the empty ones, sorted by their lower ends. -/
def sortRanges (rs : List (Nat × Nat)) : List (Nat × Nat) :=
  (rs.filter fun r => r.1 ≤ r.2).mergeSort fun r s => r.1 ≤ s.1

theorem joinable_sortRanges (rs : List (Nat × Nat)) :
    Joinable (sortRanges rs) := by
  constructor
  · have h : (sortRanges rs).Pairwise fun r s => decide (r.1 ≤ s.1) = true :=
      List.pairwise_mergeSort
        (by intro a b c; simp only [decide_eq_true_eq]; omega)
        (by intro a b; simp only [Bool.or_eq_true, decide_eq_true_eq]; omega)
        (rs.filter fun r => r.1 ≤ r.2)
    exact h.imp fun h => by simpa using h
  · intro r hr
    have := (List.mergeSort_perm _ _).mem_iff.1 hr
    simpa using (List.mem_filter.1 this).2

theorem any_sortRanges (rs : List (Nat × Nat)) (n : Nat) :
    (sortRanges rs).any (inRange n) = rs.any (inRange n) := by
  rw [Bool.eq_iff_iff, List.any_eq_true, List.any_eq_true]
  constructor
  · rintro ⟨r, hr, hn⟩
    exact ⟨r, (List.mem_filter.1
      ((List.mergeSort_perm _ _).mem_iff.1 hr)).1, hn⟩
  · rintro ⟨r, hr, hn⟩
    refine ⟨r, (List.mergeSort_perm _ _).mem_iff.2
      (List.mem_filter.2 ⟨hr, ?_⟩), hn⟩
    simp only [inRange, Bool.and_eq_true, decide_eq_true_eq] at hn ⊢
    omega

-- ================================================================== gaps

/-- The ranges between given ones, from `start` on. -/
def gapsFrom (start : Nat) : List (Nat × Nat) → List (Nat × Nat)
  | [] => if start ≤ maxCodePoint then [(start, maxCodePoint)] else []
  | (low, high) :: rest =>
      if start < low then (start, low - 1) :: gapsFrom (high + 1) rest
      else gapsFrom (high + 1) rest

theorem ascending_gapsFrom {rs : List (Nat × Nat)} {start : Nat}
    (h : AscendingFrom start rs) : AscendingFrom start (gapsFrom start rs) := by
  induction rs generalizing start with
  | nil =>
      simp only [gapsFrom]
      split
      · exact ⟨Nat.le_refl _, by assumption, trivial⟩
      · trivial
  | cons r rest ih =>
      obtain ⟨low, high⟩ := r
      obtain ⟨h₁, h₂, h₃⟩ := h
      have hrest := ih (h₃.mono (Nat.le_succ (high + 1)))
      simp only [gapsFrom]
      split
      · exact ⟨Nat.le_refl _, by omega, hrest.mono (by omega)⟩
      · exact hrest.mono (by omega)

theorem not_any_of_lt {rs : List (Nat × Nat)} {start n : Nat}
    (h : AscendingFrom start rs) (hn : n < start) :
    rs.any (inRange n) = false := by
  induction rs generalizing start with
  | nil => rfl
  | cons r rest ih =>
      obtain ⟨h₁, h₂, h₃⟩ := h
      rw [List.any_cons, ih h₃ (by omega), Bool.or_false]
      simp only [inRange, Bool.and_eq_false_iff, decide_eq_false_iff_not]
      omega

theorem any_gapsFrom {rs : List (Nat × Nat)} {start n : Nat}
    (h : AscendingFrom start rs) (hn : start ≤ n) (hmax : n ≤ maxCodePoint) :
    (gapsFrom start rs).any (inRange n) = !rs.any (inRange n) := by
  induction rs generalizing start with
  | nil =>
      have : start ≤ maxCodePoint := Nat.le_trans hn hmax
      simp [gapsFrom, this, inRange, hn, hmax]
  | cons r rest ih =>
      obtain ⟨low, high⟩ := r
      obtain ⟨h₁, h₂, h₃⟩ := h
      have h₄ : AscendingFrom (high + 1) rest := h₃.mono (Nat.le_succ _)
      have hgap : (gapsFrom start ((low, high) :: rest)).any (inRange n)
          = (decide (n < low) || (gapsFrom (high + 1) rest).any (inRange n)) := by
        simp only [gapsFrom]
        split
        · have : inRange n (start, low - 1) = decide (n < low) := by
            rw [Bool.eq_iff_iff]
            simp only [inRange, Bool.and_eq_true, decide_eq_true_eq]
            omega
          rw [List.any_cons, this]
        · have : decide (n < low) = false := by
            rw [decide_eq_false_iff_not]; omega
          rw [this, Bool.false_or]
      rw [hgap, List.any_cons]
      by_cases hlow : n < low
      · have hin : inRange n (low, high) = false := by
          simp only [inRange, Bool.and_eq_false_iff, decide_eq_false_iff_not]
          omega
        rw [not_any_of_lt (n := n) h₃ (by omega), hin]
        simp [hlow]
      · by_cases hhigh : n ≤ high
        · have hin : inRange n (low, high) = true := by
            simp only [inRange, Bool.and_eq_true, decide_eq_true_eq]
            omega
          rw [not_any_of_lt (ascending_gapsFrom h₄) (by omega), hin]
          simp [hlow]
        · have hin : inRange n (low, high) = false := by
            simp only [inRange, Bool.and_eq_false_iff, decide_eq_false_iff_not]
            omega
          rw [ih h₄ (by omega), hin]
          simp [hlow]

-- ================================================================ the API

namespace CodePointSet

/-- The set of the code points in any of the ranges. -/
def ofList (rs : List (Nat × Nat)) : CodePointSet :=
  ⟨join (sortRanges rs), ascending_join (joinable_sortRanges rs)⟩

/-- The set without members. -/
def empty : CodePointSet := ⟨[], trivial⟩

instance : EmptyCollection CodePointSet := ⟨empty⟩

/-- The code points from `low` to `high`. -/
def range (low high : Nat) : CodePointSet := ofList [(low, high)]

/-- The set of one code point. -/
def single (n : Nat) : CodePointSet := range n n

/-- Membership. -/
def contains (s : CodePointSet) (n : Nat) : Bool := s.ranges.any (inRange n)

/-- The code points in either set. -/
def union (s t : CodePointSet) : CodePointSet := ofList (s.ranges ++ t.ranges)

instance : Union CodePointSet := ⟨union⟩

/-- The code points outside the set. -/
def outside (s : CodePointSet) : CodePointSet :=
  ⟨gapsFrom 0 s.ranges, ascending_gapsFrom s.ascending⟩

/-- The code points in both sets. -/
def inter (s t : CodePointSet) : CodePointSet := (s.outside ∪ t.outside).outside

instance : Inter CodePointSet := ⟨inter⟩

/-- The code points of the first set that are not in the second. -/
def diff (s t : CodePointSet) : CodePointSet := (s.outside ∪ t).outside

instance : SDiff CodePointSet := ⟨diff⟩

/-- The code points in exactly one of the sets. -/
def symmDiff (s t : CodePointSet) : CodePointSet := (s ∪ t) \ (s ∩ t)

theorem contains_ofList (rs : List (Nat × Nat)) (n : Nat) :
    (ofList rs).contains n = rs.any (inRange n) := by
  rw [contains, ofList, any_join (joinable_sortRanges rs), any_sortRanges]

@[simp]
theorem contains_empty (n : Nat) : (∅ : CodePointSet).contains n = false := rfl

@[simp]
theorem contains_single (m n : Nat) : (single m).contains n = (n == m) := by
  rw [single, range, contains_ofList, Bool.eq_iff_iff]
  simp only [List.any_cons, List.any_nil, inRange, Bool.or_false,
    Bool.and_eq_true, decide_eq_true_eq, beq_iff_eq]
  omega

@[simp]
theorem contains_union (s t : CodePointSet) (n : Nat) :
    (s ∪ t).contains n = (s.contains n || t.contains n) := by
  show (ofList (s.ranges ++ t.ranges)).contains n = _
  rw [contains_ofList, List.any_append]
  rfl

theorem contains_outside (s : CodePointSet) {n : Nat} (h : n ≤ maxCodePoint) :
    s.outside.contains n = !s.contains n :=
  any_gapsFrom s.ascending (Nat.zero_le n) h

theorem contains_inter (s t : CodePointSet) {n : Nat} (h : n ≤ maxCodePoint) :
    (s ∩ t).contains n = (s.contains n && t.contains n) := by
  show (s.outside ∪ t.outside).outside.contains n = _
  rw [contains_outside _ h, contains_union, contains_outside _ h,
    contains_outside _ h]
  cases s.contains n <;> cases t.contains n <;> rfl

theorem contains_diff (s t : CodePointSet) {n : Nat} (h : n ≤ maxCodePoint) :
    (s \ t).contains n = (s.contains n && !t.contains n) := by
  show (s.outside ∪ t).outside.contains n = _
  rw [contains_outside _ h, contains_union, contains_outside _ h]
  cases s.contains n <;> cases t.contains n <;> rfl

theorem contains_symmDiff (s t : CodePointSet) {n : Nat}
    (h : n ≤ maxCodePoint) :
    (s.symmDiff t).contains n = (s.contains n != t.contains n) := by
  rw [symmDiff, contains_diff _ _ h, contains_union, contains_inter _ _ h]
  cases s.contains n <;> cases t.contains n <;> rfl

/-- The set has no members. -/
def isEmpty (s : CodePointSet) : Bool := s.ranges.isEmpty

/-- The only member of the set. -/
def single? (s : CodePointSet) : Option Nat :=
  match s.ranges with
  | [(low, high)] => if low = high then some low else none
  | _ => none

/-- The union of several sets. -/
def unionAll (sets : List CodePointSet) : CodePointSet :=
  ofList (sets.flatMap ranges)

-- ================================================================ tables

/-- The numbers in a text, separated by single blanks. -/
def readNumbers (acc : Nat) : List Char → List Nat
  | [] => [acc]
  | c :: cs =>
      if c = ' ' then acc :: readNumbers 0 cs
      else readNumbers (acc * 10 + (c.toNat - '0'.toNat)) cs

/-- Ranges from pairs of a gap and a length, starting at `start`. -/
def rangesFrom (start : Nat) : List Nat → List (Nat × Nat)
  | gap :: length :: rest =>
      (start + gap, start + gap + length - 1)
        :: rangesFrom (start + gap + length) rest
  | _ => []

/-- The set that a table spells: numbers in pairs from code point zero on,
how many code points to skip, then how many are members. -/
def ofTable (text : List String) : CodePointSet :=
  ofList (rangesFrom 0 (readNumbers 0 (String.join text).toList))

end CodePointSet

end CheckGateway.Unicode
