/-
Repetitions are read with bounds in order.

A counted repetition is refused if its maximum is below its minimum (`counts_le`), and the
marks have bounds of their own, so every expression that is read is one of those of which
the matches are computed right (`reading_bounded`).
-/
import CheckGateway.Proofs.Pattern.Groups
import CheckGateway.Proofs.Pattern.Matching

namespace CheckGateway.Pattern

section

variable {fl : Flags} {names : List (List Char)} {done current ps : List Piece}
  {cs rest : List Char} {classes : List Char → Option (ClassPiece × List Char)} {next : Reader}

/-- The bounds of a repetition are in order. -/
def InOrder (bounds : Nat × Option Nat) : Prop := ∀ m, bounds.2 = some m → bounds.1 ≤ m

/-- Bounds that are closed by a brace are those that were read. -/
theorem closedBounds_eq_some {low : Nat} {high : Option Nat} {r : (Nat × Option Nat) × List Char}
    (h : closedBounds low high cs = some r) : r.1 = (low, high) := by
  unfold closedBounds at h
  split_ifs at h
  cases h
  rfl

/-- Counts in braces are read only if they are in order. -/
theorem counts_inOrder {r : (Nat × Option Nat) × List Char}
    (h : (counts fl cs).map boundsView = some r) : InOrder r.1 := by
  rw [counts_eq] at h
  obtain ⟨low?, -, h⟩ := Option.bind_eq_some_iff.1 h
  obtain ⟨low?, -, h⟩ := Option.bind_eq_some_iff.1 h
  obtain ⟨low, -, h⟩ := Option.bind_eq_some_iff.1 h
  split_ifs at h
  · cases h
    intro m hm
    cases hm
    exact Nat.le_refl low
  · unfold upperBound at h
    split_ifs at h
    · cases h
      intro m hm
      cases hm
    · obtain ⟨high?, -, h⟩ := Option.bind_eq_some_iff.1 h
      obtain ⟨high?, -, h⟩ := Option.bind_eq_some_iff.1 h
      obtain ⟨high, -, h⟩ := Option.bind_eq_some_iff.1 h
      split_ifs at h with hle
      rw [closedBounds_eq_some h]
      intro m hm
      cases hm
      exact hle

/-- So are the bounds that a single sign stands for. -/
theorem bounds?_inOrder {c : Char} {bounds : Nat × Option Nat} (h : bounds? c = some bounds) :
    InOrder bounds := by
  unfold bounds? at h
  split at h
  · cases h
    intro m hm
    cases hm
    exact Nat.zero_le 1
  · cases h
    exact nofun
  · cases h
    exact nofun
  · cases h

-- =========================================================================== pieces

/-- Repeating with bounds in order keeps what is bounded. -/
theorem Regex.Bounded.repeated {r : Regex} (h : r.Bounded) {bounds : Nat × Option Nat}
    (hbounds : InOrder bounds) : (r.repeated bounds.1 bounds.2).Bounded := by
  unfold Regex.repeated
  split
  · refine ⟨h, fun m hm => ?_⟩
    cases hm
    cases hmax : bounds.2 with
    | none => exact Nat.min_le_right _ _
    | some max =>
        have hle := hbounds max hmax
        show min bounds.1 1 ≤ min max 1
        omega
  · exact ⟨h, hbounds⟩

/-- Pieces put together one by one are bounded if each of them is. -/
theorem combine_bounded {regex : Regex → Regex → Regex} {plan : List Plan → Plan}
    (hregex : ∀ {a b : Regex}, a.Bounded → b.Bounded → (regex a b).Bounded)
    (h : ∀ p ∈ ps, p.regex.Bounded) : (combine regex plan ps).regex.Bounded := by
  have hfold (before : List Piece) (hbefore : ∀ p ∈ before, p.regex.Bounded) {r : Regex}
      (hr : r.Bounded) : (before.foldl (fun r q => regex q.regex r) r).Bounded := by
    induction before generalizing r with
    | nil => exact hr
    | cons p before ih =>
        exact ih (fun q hq => hbefore q (List.mem_cons_of_mem p hq))
          (hregex (hbefore p List.mem_cons_self) hr)
  match ps with
  | [] => trivial
  | [p] => exact h p List.mem_cons_self
  | p :: q :: before =>
      exact hfold (q :: before) (fun r hr => h r (List.mem_cons_of_mem p hr))
        (h p List.mem_cons_self)

/-- One piece after another. -/
theorem sequencePiece_bounded (h : ∀ p ∈ ps, p.regex.Bounded) :
    (sequencePiece ps).regex.Bounded :=
  combine_bounded (fun ha hb => ⟨ha, hb⟩) h

/-- One piece or another. -/
theorem choicePiece_bounded (h : ∀ p ∈ ps, p.regex.Bounded) :
    (choicePiece ps).regex.Bounded :=
  combine_bounded (fun ha hb => ⟨ha, hb⟩) h

/-- With one more piece they are all bounded still. -/
theorem cons_bounded {p : Piece} (hp : p.regex.Bounded) (h : ∀ p ∈ ps, p.regex.Bounded) :
    ∀ q ∈ p :: ps, q.regex.Bounded := by
  intro q hq
  rcases List.mem_cons.1 hq with rfl | hq
  · exact hp
  · exact h q hq

/-- Of the pieces so far only the last one is repeated. -/
theorem repeatLast_bounded {bounds : Nat × Option Nat} {greedy : Bool} (hbounds : InOrder bounds)
    (h : ∀ p ∈ current, p.regex.Bounded)
    (heq : repeatLast bounds.1 bounds.2 greedy current = some ps) :
    ∀ p ∈ ps, p.regex.Bounded := by
  cases current with
  | nil => cases heq
  | cons p before =>
      unfold repeatLast at heq
      dsimp only at heq
      split_ifs at heq
      cases heq
      exact cons_bounded ((h p List.mem_cons_self).repeated hbounds)
        fun q hq => h q (List.mem_cons_of_mem p hq)

/-- A single character has no repetition in it. -/
theorem single?_bounded {c : Char} {p : Piece} (h : single? fl c = some p) : p.regex.Bounded := by
  unfold single? at h
  split at h
  · unfold anyChar? at h
    split_ifs at h <;> cases h <;> trivial
  · cases h
    trivial
  · cases h
    trivial
  · unfold Literal.piece? at h
    split_ifs at h
    cases h
    trivial

/-- Neither has what is escaped. -/
theorem escape_piece?_bounded {e : Escape} {p : Piece} (h : e.piece? fl = some p) :
    p.regex.Bounded := by
  cases e with
  | literal l =>
      change l.piece? fl = some p at h
      unfold Literal.piece? at h
      split_ifs at h
      cases h
      trivial
  | set s =>
      cases h
      trivial
  | look cond =>
      cases h
      trivial

-- ========================================================================== reading

/-- What reading goes on to is bounded if the pieces so far are. -/
def Bounding (next : Reader) : Prop :=
  ∀ fl names done current cs r, (∀ p ∈ done, p.regex.Bounded) → (∀ p ∈ current, p.regex.Bounded) →
    next fl names done current cs = some r → r.1.1.regex.Bounded

/-- Reading goes on after a repetition with pieces that are bounded. -/
theorem repetition_bounded (hnext : Bounding next) {bounds : Nat × Option Nat}
    (hbounds : InOrder bounds) (hdone : ∀ p ∈ done, p.regex.Bounded)
    (hcurrent : ∀ p ∈ current, p.regex.Bounded) {r : Read × List Char}
    (h : repetition fl next names done current bounds cs = some r) : r.1.1.regex.Bounded := by
  obtain ⟨mark, -, h⟩ := Option.bind_eq_some_iff.1 h
  obtain ⟨ps, hps, h⟩ := Option.bind_eq_some_iff.1 h
  exact hnext _ _ _ _ _ r hdone (repeatLast_bounded hbounds hcurrent hps) h

/-- It goes on after the start of a group with the pieces around it kept. -/
theorem group_bounded (hnext : Bounding next) (hdone : ∀ p ∈ done, p.regex.Bounded)
    (hcurrent : ∀ p ∈ current, p.regex.Bounded) {r : Read × List Char}
    (h : group fl next names done current cs = some r) : r.1.1.regex.Bounded := by
  obtain ⟨⟨kind, after⟩, -, h⟩ := Option.bind_eq_some_iff.1 h
  cases kind with
  | inl changed => exact hnext _ _ _ _ _ r hdone (cons_bounded (p := flagPiece) trivial hcurrent) h
  | inr kind =>
      obtain ⟨names, -, h⟩ := Option.bind_eq_some_iff.1 h
      obtain ⟨⟨body, rest⟩, hbody, h⟩ := Option.bind_eq_some_iff.1 h
      have hpiece : (groupPiece kind.2.1 body.1).regex.Bounded :=
        hnext _ _ _ _ _ _ (List.forall_mem_nil _) (List.forall_mem_nil _) hbody
      cases rest with
      | nil => cases h
      | cons c rest =>
          unfold closeGroup at h
          dsimp only at h
          split_ifs at h
          exact hnext _ _ _ _ _ r hdone (cons_bounded hpiece hcurrent) h

/-- So it does after anything that can come next. -/
theorem turn_bounded (hnext : Bounding next) (hdone : ∀ p ∈ done, p.regex.Bounded)
    (hcurrent : ∀ p ∈ current, p.regex.Bounded) {c : Char} {r : Read × List Char}
    (h : turn fl classes next names done current c cs = some r) : r.1.1.regex.Bounded := by
  unfold turn at h
  split_ifs at h
  · exact hnext _ _ _ _ _ r (cons_bounded (sequencePiece_bounded hcurrent) hdone)
      (List.forall_mem_nil _) h
  · exact group_bounded hnext hdone hcurrent h
  · obtain ⟨⟨inner, after⟩, -, h⟩ := Option.bind_eq_some_iff.1 h
    exact hnext _ _ _ _ _ r hdone (cons_bounded (p := classPiece inner) trivial hcurrent) h
  · obtain ⟨bounds, hbounds, h⟩ := Option.bind_eq_some_iff.1 h
    exact repetition_bounded hnext (counts_inOrder hbounds) hdone hcurrent h
  · obtain ⟨e, -, h⟩ := Option.bind_eq_some_iff.1 h
    obtain ⟨p, hp, h⟩ := Option.bind_eq_some_iff.1 h
    exact hnext _ _ _ _ _ r hdone (cons_bounded (escape_piece?_bounded hp) hcurrent) h
  · split at h
    next bounds hbounds => exact repetition_bounded hnext (bounds?_inOrder hbounds) hdone hcurrent h
    next =>
      obtain ⟨p, hp, h⟩ := Option.bind_eq_some_iff.1 h
      exact hnext _ _ _ _ _ r hdone (cons_bounded (single?_bounded hp) hcurrent) h

/-- Every expression that is read has bounds in order. -/
theorem reading_bounded (n : Nat) : Bounding (reading n) := by
  induction n with
  | zero => exact fun _ _ _ _ _ _ _ _ h => nomatch h
  | succ n ih =>
      intro fl names done current cs r hdone hcurrent h
      rw [reading_succ] at h
      dsimp only at h
      have hpiece := choicePiece_bounded (cons_bounded (sequencePiece_bounded hcurrent) hdone)
      cases htext : space fl cs with
      | nil =>
          rw [htext] at h
          cases h
          exact hpiece
      | cons c text =>
          rw [htext] at h
          unfold upToClosing at h
          dsimp only at h
          split_ifs at h
          · cases h
            exact hpiece
          · exact turn_bounded ih hdone hcurrent h

end

end CheckGateway.Pattern
