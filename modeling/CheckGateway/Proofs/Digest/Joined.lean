/-
What the joined bytes of several parts tell about the parts. The separator
keeps parts apart only where no part holds it; a text that does not hold
it is seamless. UTF-8 writes a byte below 128 for the ASCII character of
that number and for nothing else, so a text is seamless when it does not
hold the unit separator as a character, and the case of its letters does
not matter.
-/
import CheckGateway.Digest.Parts
import CheckGateway.Text.Ascii
import Mathlib.Data.List.Basic

namespace CheckGateway.Digest

-- ================================================ texts as bytes

/-- The loop that lists bytes puts what is left behind what it has. -/
theorem toList_loop (bs : ByteArray) (i : Nat) (r : List UInt8) :
    ByteArray.toList.loop bs i r = r.reverse ++ bs.data.toList.drop i := by
  fun_induction ByteArray.toList.loop bs i r with
  | case1 i r hlt ih =>
    have hi : i < bs.data.toList.length := by simpa using hlt
    have hget : bs.get! i = bs.data.toList[i] := by
      simp only [ByteArray.get!, Array.getElem_toList]
      exact getElem!_pos bs.data i (by simpa using hlt)
    rw [ih, List.drop_eq_getElem_cons hi, hget]
    simp
  | case2 i r hge =>
    have hi : bs.data.toList.length ≤ i := by simpa using hge
    rw [List.drop_eq_nil_of_le hi, List.append_nil]

/-- A text in bytes is its characters one after the other. -/
theorem bytesOf_eq (s : String) :
    bytesOf s = s.toList.flatMap String.utf8EncodeChar := by
  have hdata : bytesOf s = s.toByteArray.data.toList := by
    simp [bytesOf, ByteArray.toList, toList_loop]
  rw [hdata, ← String.utf8Encode_toList]
  exact List.toList_data_toByteArray

theorem bytesOf_append (s t : String) :
    bytesOf (s ++ t) = bytesOf s ++ bytesOf t := by
  simp [bytesOf_eq]

/-- Different texts are different bytes. -/
theorem bytesOf_inj {s t : String} : bytesOf s = bytesOf t ↔ s = t := by
  constructor
  · intro h
    rw [← String.toByteArray_inj]
    apply ByteArray.ext
    apply Array.ext'
    simpa [bytesOf, ByteArray.toList, toList_loop] using h
  · intro h
    rw [h]

-- =============================================== seamless texts

/-- The text does not hold the separator. -/
def Seamless (s : String) : Prop := separator ∉ bytesOf s

/-- The separator is the only character that has its byte. -/
theorem separator_mem_encode (c : Char) :
    separator ∈ String.utf8EncodeChar c ↔ c = '\x1f' := by
  have hbyte : ∀ n, separator = UInt8.ofNat n ↔ n % 256 = 31 := by
    intro n
    rw [← UInt8.toNat_inj, UInt8.toNat_ofNat']
    change 31 = n % 256 ↔ _
    omega
  have hchar : c = '\x1f' ↔ c.val.toNat = 31 := by
    rw [← Char.toNat_inj]
    rfl
  rw [hchar]
  unfold String.utf8EncodeChar
  dsimp only
  -- every byte of a longer encoding is 128 or more
  split
  · simp only [List.mem_singleton, hbyte]
    omega
  · split
    · simp only [List.mem_cons, List.not_mem_nil, or_false, hbyte]
      omega
    · split
      · simp only [List.mem_cons, List.not_mem_nil, or_false, hbyte]
        omega
      · simp only [List.mem_cons, List.not_mem_nil, or_false, hbyte]
        omega

theorem seamless_iff {s : String} : Seamless s ↔ '\x1f' ∉ s.toList := by
  simp [Seamless, bytesOf_eq, separator_mem_encode]

instance (s : String) : Decidable (Seamless s) :=
  decidable_of_iff _ seamless_iff.symm

/-- The case of letters does not matter to the separator. -/
theorem seamless_lowerAscii {s : String} :
    Seamless (Text.lowerAscii s) ↔ Seamless s := by
  rw [seamless_iff, seamless_iff]
  simp [Text.lowerAscii, Text.toLower_eq_iff_of_lt (show '\x1f' < 'A' by decide)]

-- ================================================ joined parts

/-- What stands before the first separator of two lists is the same. -/
theorem seam_inj {p q r r' : List UInt8} (hp : separator ∉ p)
    (hq : separator ∉ q) (h : p ++ separator :: r = q ++ separator :: r') :
    p = q ∧ r = r' := by
  induction p generalizing q with
  | nil =>
    cases q with
    | nil => exact ⟨rfl, by simpa using h⟩
    | cons b q =>
      have hb : separator = b := (List.cons.inj h).1
      simp [hb] at hq
  | cons a p ih =>
    cases q with
    | nil =>
      have ha : a = separator := (List.cons.inj h).1
      simp [ha] at hp
    | cons b q =>
      obtain ⟨hab, h⟩ := List.cons.inj h
      obtain ⟨hpq, hr⟩ := ih (fun hm => hp (List.mem_cons_of_mem _ hm))
        (fun hm => hq (List.mem_cons_of_mem _ hm)) h
      exact ⟨by rw [hab, hpq], hr⟩

@[simp]
theorem joined_cons (p : List UInt8) (ps : List (List UInt8)) :
    joined (p :: ps) = p ++ separator :: joined ps := by
  simp [joined]

@[simp]
theorem joined_nil : joined [] = [] := rfl

/-- As many parts without the separator can be told from what follows. -/
theorem joined_append_inj {ps qs : List (List UInt8)} {r r' : List UInt8}
    (hlen : ps.length = qs.length) (hps : ∀ p ∈ ps, separator ∉ p)
    (hqs : ∀ q ∈ qs, separator ∉ q)
    (h : joined ps ++ r = joined qs ++ r') : ps = qs ∧ r = r' := by
  induction ps generalizing qs with
  | nil =>
    cases qs with
    | nil => exact ⟨rfl, h⟩
    | cons q qs => simp at hlen
  | cons p ps ih =>
    cases qs with
    | nil => simp at hlen
    | cons q qs =>
      simp only [joined_cons, List.append_assoc, List.cons_append] at h
      obtain ⟨hpq, h⟩ := seam_inj (hps p (by simp)) (hqs q (by simp)) h
      obtain ⟨hrest, hr⟩ := ih (by simpa using hlen)
        (fun p hp => hps p (by simp [hp])) (fun q hq => hqs q (by simp [hq])) h
      exact ⟨by rw [hpq, hrest], hr⟩

end CheckGateway.Digest
