/-
Letter case over ASCII. Host names, logins and check names are compared
without regard to the case of the twenty-six ASCII letters; every other
character, accented letters included, compares exactly. `lowerAscii` is
the normal form and `sameIgnoringCase` the comparison: they are written
apart, one as a map and one as a walk over both texts.
-/

namespace CheckGateway.Text

/-- The text with its ASCII letters in lower case. -/
def lowerAscii (s : String) : String :=
  String.ofList (s.toList.map Char.toLower)

/-- Two lists of characters agree position by position up to ASCII case. -/
def sameIgnoringCase : List Char → List Char → Bool
  | [], [] => true
  | a :: as, b :: bs =>
      (a == b || a.toLower == b.toLower) && sameIgnoringCase as bs
  | _, _ => false

/-- Equality of two texts up to the case of ASCII letters. -/
def eqIgnoreCase (a b : String) : Bool :=
  sameIgnoringCase a.toList b.toList

theorem sameIgnoringCase_iff (as bs : List Char) :
    sameIgnoringCase as bs = true ↔
      as.map Char.toLower = bs.map Char.toLower := by
  induction as generalizing bs with
  | nil => cases bs <;> simp [sameIgnoringCase]
  | cons a as ih =>
      cases bs with
      | nil => simp [sameIgnoringCase]
      | cons b bs =>
          have hab : (a = b ∨ a.toLower = b.toLower) ↔
              a.toLower = b.toLower :=
            ⟨fun h => h.elim (fun e => by rw [e]) id, Or.inr⟩
          simp [sameIgnoringCase, ih, hab]

/-- The comparison is equality of the normal forms. -/
theorem eqIgnoreCase_iff (a b : String) :
    eqIgnoreCase a b = true ↔ lowerAscii a = lowerAscii b := by
  unfold eqIgnoreCase lowerAscii
  rw [sameIgnoringCase_iff]
  constructor
  · intro h
    rw [h]
  · intro h
    simpa using congrArg String.toList h

/-- What comes before the letters is the lower case of itself only. -/
theorem toLower_eq_iff_of_lt {c d : Char} (hd : d < 'A') :
    c.toLower = d ↔ c = d := by
  have hlow : d.toNat < 65 := hd
  unfold Char.toLower
  simp only [ge_iff_le]
  split
  next h =>
      have hletter : 65 ≤ c.toNat ∧ c.toNat ≤ 90 := by
        simpa [UInt32.le_iff_toNat_le] using h
      constructor
      · intro heq
        have hval : (c.val + 32).toNat = d.toNat := congrArg Char.toNat heq
        have hsum : (c.val + 32).toNat = c.toNat + 32 := by
          rw [UInt32.toNat_add]
          exact Nat.mod_eq_of_lt
            (Nat.lt_of_le_of_lt (Nat.add_le_add_right hletter.2 32) (by decide))
        omega
      · intro heq
        subst heq
        omega
  next => rfl

end CheckGateway.Text
