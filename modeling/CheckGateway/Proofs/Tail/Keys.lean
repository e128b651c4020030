/-
Which queries share a watermark. The key is a digest, so wherever the
digest has no collision two queries share one exactly when their joined
bytes are the same. The bounds of the band have a fixed width at the end
and can always be read off, and the tag keeps the absent pattern apart.
Host, login and path stand in front of it with nothing but the separator
between them: while none of the three holds it, queries share a watermark
only if they are the same query of the same account.

A text that does hold it can hand a piece of itself to its neighbour, and
so two accounts can share a watermark, or two queries of different queues.
-/
import CheckGateway.Tail.Key
import CheckGateway.Proofs.Digest.Joined
import Mathlib.Data.Set.Function

namespace CheckGateway.WatermarkKey

open Digest

variable {a b : Credentials} {p q : MessageQuery}

-- ============================================ bounds and patterns

/-- The bounds are signed numbers of 32 bits. -/
def Signed (band : SeverityBand) : Prop :=
  (Text.int32Min ≤ band.min ∧ band.min ≤ Text.int32Max) ∧
    (Text.int32Min ≤ band.max ∧ band.max ≤ Text.int32Max)

instance (band : SeverityBand) : Decidable (Signed band) :=
  inferInstanceAs (Decidable ((_ ∧ _) ∧ (_ ∧ _)))

/-- Four bytes tell a signed number of 32 bits. -/
theorem bytes32_inj {m n : Int} (hm : Text.int32Min ≤ m ∧ m ≤ Text.int32Max)
    (hn : Text.int32Min ≤ n ∧ n ≤ Text.int32Max)
    (h : bytes32 m = bytes32 n) : m = n := by
  simp only [bytes32, List.cons.injEq, and_true, ← UInt8.toNat_inj,
    Nat.toUInt8_eq, UInt8.toNat_ofNat'] at h
  simp only [Text.int32Min, Text.int32Max] at hm hn
  omega

/-- The tag tells whether there is a pattern, and the rest which. -/
theorem patternBytes_inj {x y : Option String} :
    patternBytes x = patternBytes y ↔ x = y := by
  cases x <;> cases y <;> simp [patternBytes, bytesOf_inj]

-- =================================================== joined bytes

/-- What stands before the bounds. -/
def heading (who : Credentials) (query : MessageQuery) : List UInt8 :=
  joined [bytesOf (Text.lowerAscii who.host),
    bytesOf (Text.lowerAscii who.login), bytesOf query.path]
    ++ patternBytes query.idPattern

/-- The bounds, each between separators. -/
def tail (band : SeverityBand) : List UInt8 :=
  separator :: bytes32 band.min ++ separator :: bytes32 band.max
    ++ [separator]

theorem joined_parts (who : Credentials) (query : MessageQuery) :
    joined (parts who query) = heading who query ++ tail query.band := by
  simp [parts, heading, tail]

theorem length_tail (band : SeverityBand) : (tail band).length = 11 := rfl

theorem tail_inj {x y : SeverityBand} (hx : Signed x) (hy : Signed y)
    (h : tail x = tail y) : x = y := by
  have hsplit : ∀ z : SeverityBand,
      tail z = (separator :: bytes32 z.min) ++ (separator :: bytes32 z.max)
        ++ [separator] := fun _ => rfl
  rw [hsplit, hsplit] at h
  obtain ⟨h, -⟩ := List.append_inj h rfl
  obtain ⟨hmin, hmax⟩ := List.append_inj h rfl
  obtain ⟨xmin, xmax⟩ := x
  obtain ⟨ymin, ymax⟩ := y
  congr
  · exact bytes32_inj hx.1 hy.1 (List.cons.inj hmin).2
  · exact bytes32_inj hx.2 hy.2 (List.cons.inj hmax).2

/-- The joined bytes tell the bounds, and what stands before them. -/
theorem joined_parts_inj (hp : Signed p.band) (hq : Signed q.band) :
    joined (parts a p) = joined (parts b q) ↔
      p.band = q.band ∧ heading a p = heading b q := by
  rw [joined_parts, joined_parts]
  constructor
  · intro h
    obtain ⟨hheading, htail⟩ := List.append_inj' h (by simp [length_tail])
    exact ⟨tail_inj hp hq htail, hheading⟩
  · intro h
    rw [h.1, h.2]

/-- Nothing in front of the bounds holds the separator but the pattern. -/
def Plain (who : Credentials) (query : MessageQuery) : Prop :=
  Seamless who.host ∧ Seamless who.login ∧ Seamless query.path

/-- Without the separator in a text the account, the path and the pattern
can be told. -/
theorem heading_inj (hp : Plain a p) (hq : Plain b q) :
    heading a p = heading b q ↔
      Text.eqIgnoreCase a.host b.host = true ∧
        Text.eqIgnoreCase a.login b.login = true ∧
        p.path = q.path ∧ p.idPattern = q.idPattern := by
  have hseamless : ∀ (who : Credentials) (query : MessageQuery),
      Plain who query → ∀ part ∈ [bytesOf (Text.lowerAscii who.host),
        bytesOf (Text.lowerAscii who.login), bytesOf query.path],
        separator ∉ part := by
    intro who query h
    simp only [List.mem_cons, List.not_mem_nil, or_false, forall_eq_or_imp,
      forall_eq]
    exact ⟨seamless_lowerAscii.mpr h.1, seamless_lowerAscii.mpr h.2.1, h.2.2⟩
  rw [Text.eqIgnoreCase_iff, Text.eqIgnoreCase_iff]
  constructor
  · intro h
    obtain ⟨hparts, hpattern⟩ :=
      joined_append_inj (by simp) (hseamless a p hp) (hseamless b q hq) h
    simpa [bytesOf_inj, patternBytes_inj.mp hpattern] using hparts
  · intro ⟨hhost, hlogin, hpath, hpattern⟩
    simp only [heading, hhost, hlogin, hpath, hpattern]

-- ======================================================= the keys

theorem derive_eq_iff_joined
    (hhash : Set.InjOn Sha256.hash
      {joined (parts a p), joined (parts b q)}) :
    derive a p = derive b q ↔
      joined (parts a p) = joined (parts b q) := by
  unfold derive ofParts
  rw [WatermarkKey.mk.injEq]
  exact hhash.eq_iff (by simp) (by simp)

/-- Two queries share a watermark exactly when they agree on the bounds
and on the bytes in front of them. Where host, login and path hold no
separator these are queries of one account, and the same. -/
theorem derive_eq_iff
    (hhash : Set.InjOn Sha256.hash
      {joined (parts a p), joined (parts b q)})
    (hp : Signed p.band) (hq : Signed q.band) :
    (derive a p = derive b q ↔
      p.band = q.band ∧ heading a p = heading b q) ∧
    (Plain a p → Plain b q →
      (derive a p = derive b q ↔
        Text.eqIgnoreCase a.host b.host = true ∧
          Text.eqIgnoreCase a.login b.login = true ∧ p = q)) := by
  have hexact : derive a p = derive b q ↔
      p.band = q.band ∧ heading a p = heading b q :=
    (derive_eq_iff_joined hhash).trans (joined_parts_inj hp hq)
  refine ⟨hexact, fun hplain hplain' => ?_⟩
  rw [hexact, heading_inj hplain hplain']
  obtain ⟨path, pattern, band⟩ := p
  obtain ⟨path', pattern', band'⟩ := q
  simp only [MessageQuery.mk.injEq]
  constructor
  · intro ⟨hband, hhost, hlogin, hpath, hpattern⟩
    exact ⟨hhost, hlogin, hpath, hpattern, hband⟩
  · intro ⟨hhost, hlogin, hpath, hpattern, hband⟩
    exact ⟨hband, hhost, hlogin, hpath, hpattern⟩

/-- Two systems of like names keep watermarks apart. -/
theorem derive_ne_of_host :
    derive ⟨"ops1", "admin", "pw"⟩ ⟨"/Q.MSGQ", none, {}⟩
      ≠ derive ⟨"OPS2", "Admin", "pw"⟩ ⟨"/Q.MSGQ", none, {}⟩ := by
  have hsigned : Signed {} := by decide
  have hhash : Set.InjOn Sha256.hash
      {joined (parts ⟨"ops1", "admin", "pw"⟩ ⟨"/Q.MSGQ", none, {}⟩),
        joined (parts ⟨"OPS2", "Admin", "pw"⟩ ⟨"/Q.MSGQ", none, {}⟩)} := by
    rw [Set.injOn_pair]
    intro h
    exact absurd h (by decide +kernel)
  intro h
  have hsame := ((derive_eq_iff hhash hsigned hsigned).2
    ⟨by decide, by decide, by decide⟩ ⟨by decide, by decide, by decide⟩).mp h
  exact absurd hsame.1 (by decide)

-- ================================================= shared watermarks

/-- A host that holds the separator can hand what is behind it to the
login, and nobody can tell. -/
theorem derive_handed_on (x y z password : String) (query : MessageQuery) :
    derive ⟨x ++ "\x1f" ++ y, z, password⟩ query
      = derive ⟨x, y ++ "\x1f" ++ z, password⟩ query := by
  have hlower : ∀ s t : String,
      Text.lowerAscii (s ++ "\x1f" ++ t)
        = Text.lowerAscii s ++ "\x1f" ++ Text.lowerAscii t := by
    intro s t
    simp [Text.lowerAscii, String.append_assoc]
  have hsep : bytesOf "\x1f" = [separator] := by
    rw [bytesOf_eq]
    decide
  simp [derive, ofParts, parts, hlower, bytesOf_append, hsep]

/-- Two hosts share a watermark, and so do two queues of one account. -/
theorem watermark_shared :
    (derive ⟨"h\x1fl", "x", "p"⟩ ⟨"/Q.MSGQ", none, {}⟩
        = derive ⟨"h", "l\x1fx", "p"⟩ ⟨"/Q.MSGQ", none, {}⟩ ∧
      Text.eqIgnoreCase "h\x1fl" "h" = false) ∧
    (derive ⟨"h", "l", "p"⟩ ⟨"/Q.MSGQ\x1f\x01a", some "b", {}⟩
        = derive ⟨"h", "l", "p"⟩ ⟨"/Q.MSGQ", some "a\x1f\x01b", {}⟩ ∧
      "/Q.MSGQ\x1f\x01a" ≠ "/Q.MSGQ") := by
  refine ⟨⟨derive_handed_on "h" "l" "x" "p" _, by decide⟩, ?_, by decide⟩
  have hjoined : joined (parts ⟨"h", "l", "p"⟩ ⟨"/Q.MSGQ\x1f\x01a", some "b", {}⟩)
      = joined (parts ⟨"h", "l", "p"⟩ ⟨"/Q.MSGQ", some "a\x1f\x01b", {}⟩) := by
    decide +kernel
  exact congrArg (fun bytes => (⟨Sha256.hash bytes⟩ : WatermarkKey)) hjoined

end CheckGateway.WatermarkKey
