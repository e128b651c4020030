/-
A pattern is matched against a whole identifier.

A filter reads its pattern between `^(?:` and `)$`. That is what the pattern means between
the conditions for both ends of the text, unless the pattern can tell that something
stands around it. It can in two ways: a closing parenthesis that nothing in the pattern
opened ends the group around it (`closesEarly`), and a comment at its end hides what
follows (`hides`). With the first, what is no expression by itself may become one, and with
the second, what is one is refused. Other patterns are accepted if they are expressions by
themselves and what stands around them keeps within the limits (`readWhole?_eq_some_iff`),
and then they match whole identifiers only.
-/
import CheckGateway.Message.Filter
import CheckGateway.Proofs.Pattern.Bounds
import Mathlib.Data.Option.Basic

namespace CheckGateway.Pattern

section

variable {pattern : String} {piece : Piece} {r : Regex}

-- =========================================================================== limits

/-- What a pattern is by itself, limits aside. -/
def parse? (pattern : String) : Option Piece :=
  match alternatives (pattern.toList.length + 1) {} [] [] [] pattern.toList with
  | some (piece, _, []) => some piece
  | _ => none

/-- The piece keeps within the limits for a pattern. -/
def Piece.Admitted (piece : Piece) : Prop := piece.height ≤ maxHeight ∧ piece.plan.fits = true

theorem read?_eq_some_iff :
    read? pattern = some r
      ↔ ∃ piece, parse? pattern = some piece ∧ piece.Admitted ∧ r = piece.regex := by
  unfold read? parse? Piece.Admitted
  dsimp only
  match alternatives (pattern.toList.length + 1) {} [] [] [] pattern.toList with
  | none => simp
  | some (piece, names, c :: rest) => simp
  | some (piece, names, []) =>
      have hflip : piece.regex = r ↔ r = piece.regex := eq_comm
      simp [Option.bind_eq_some_iff, and_assoc, hflip]

/-- A closing parenthesis comes up that nothing in the pattern opened. -/
def closesEarly (pattern : String) : Bool :=
  (alternatives (pattern.toList.length + 1) {} [] [] [] pattern.toList).any
    fun r => r.2.2.head? == some ')'

/-- The pattern ends in a comment, and what closes it is in it. -/
def hides (pattern : String) : Bool :=
  let cs := pattern.toList ++ closing
  (alternatives (cs.length + 1) {} [] [] [] cs).any fun r => r.2.2.isEmpty

/-- The piece between the ends of the text. -/
def Piece.whole (piece : Piece) : Piece :=
  sequencePiece [.ofLook .endText, groupPiece false piece, .ofLook .startText]

/-- What stands around a pattern nests two deep. -/
theorem Piece.whole_height : piece.whole.height = piece.height + 2 := by
  show max (max (max 0 1) (piece.height + 1 + 1)) 1 = piece.height + 2
  omega

theorem Piece.whole_admitted_iff :
    piece.whole.Admitted ↔ piece.height + 2 ≤ maxHeight ∧ piece.whole.plan.fits = true := by
  unfold Admitted
  rw [whole_height]

-- ========================================================================== reading

variable {fl : Flags} {names : List (List Char)} {done current : List Piece} {cs : List Char}
  {next : Reader}

/-- Fuel beyond the length of a text does not count. -/
theorem reading_fuel {n m : Nat} (hn : cs.length < n) (hm : cs.length < m) :
    reading n fl names done current cs = reading m fl names done current cs := by
  have hcarries {n m : Nat} (hm : cs.length < m) {r : Read × List Char}
      (h : reading n fl names done current cs = some r) :
      reading m fl names done current cs = some r :=
    (fueled_reading n m fl names done current).carries h (by omega)
  cases hread : reading n fl names done current cs with
  | some r => exact (hcarries hm hread).symm
  | none =>
      cases hread' : reading m fl names done current cs with
      | none => rfl
      | some r =>
          rw [hcarries hn hread'] at hread
          cases hread

theorem reading_eq_some_iff {n : Nat} {names' : List (List Char)} {rest : List Char} :
    reading n fl names done current cs = some ((piece, names'), rest)
      ↔ alternatives n fl names done current cs = some (piece, names', rest) := by
  unfold reading
  match alternatives n fl names done current cs with
  | none => exact iff_of_false nofun nofun
  | some (a, b, c) =>
      constructor
      · intro h
        cases h
        rfl
      · intro h
        cases h
        rfl

/-- What is read of a pattern. -/
def readingOf (cs : List Char) : Option (Read × List Char) :=
  reading (cs.length + 1) {} [] [] [] cs

section

variable {α : Type} {a : α} {f : Char → List Char → Option (α × List Char)} {c : Char}
  {rest : List Char} {classes : List Char → Option (ClassPiece × List Char)} {next : Reader}

theorem upToClosing_cons (hc : c ≠ ')') : upToClosing a f (c :: rest) = f c rest := if_neg hc

theorem turn_start : turn {} classes next names done current '^' rest
    = next {} names done (.ofLook .startText :: current) rest := rfl

theorem turn_end : turn {} classes next names done current '$' rest
    = next {} names done (.ofLook .endText :: current) rest := rfl

/-- A group that neither captures nor changes flags. -/
theorem turn_group : turn {} classes next names done current '(' ('?' :: ':' :: rest)
    = (next {} names [] [] rest).bind fun r =>
        closeGroup {} next done current (groupPiece false r.1.1) r.1.2 r.2 := rfl

end

theorem parse?_eq_some_iff :
    parse? pattern = some piece
      ↔ ∃ names, readingOf pattern.toList = some ((piece, names), []) := by
  simp only [readingOf, reading_eq_some_iff]
  unfold parse?
  match alternatives (pattern.toList.length + 1) {} [] [] [] pattern.toList with
  | none => simp
  | some (piece, names, []) => simp
  | some (piece, names, c :: rest) => simp

theorem closesEarly_iff :
    closesEarly pattern = true ↔ ∃ r rest, readingOf pattern.toList = some (r, ')' :: rest) := by
  simp only [readingOf, Prod.exists, reading_eq_some_iff]
  unfold closesEarly
  match alternatives (pattern.toList.length + 1) {} [] [] [] pattern.toList with
  | none => simp
  | some (piece, names, []) => simp
  | some (piece, names, c :: rest) => simp

theorem hides_iff :
    hides pattern = true ↔ ∃ r, readingOf (pattern.toList ++ closing) = some (r, []) := by
  simp only [readingOf, Prod.exists, reading_eq_some_iff]
  unfold hides
  dsimp only
  match alternatives ((pattern.toList ++ closing).length + 1) {} [] [] []
      (pattern.toList ++ closing) with
  | none => simp
  | some (piece, names, rest) => simp

/-- What stands around a pattern begins a group and ends it. -/
theorem readingOf_wrapped (cs : List Char) :
    readingOf ('^' :: '(' :: '?' :: ':' :: (cs ++ closing))
      = (readingOf (cs ++ closing)).bind fun r =>
          closeGroup {} (reading (cs.length + 5)) [] [.ofLook .startText] (groupPiece false r.1.1)
            r.1.2 r.2 := by
  have hfuel : readingOf (cs ++ closing) = reading (cs.length + 5) {} [] [] [] (cs ++ closing) := by
    have hlength : (cs ++ closing).length = cs.length + 2 := List.length_append
    exact reading_fuel (Nat.lt_succ_self _) (by omega)
  rw [hfuel]
  show reading ((cs ++ closing).length + 4 + 1) _ _ _ _ _ = _
  rw [List.length_append, show cs.length + closing.length + 4 + 1 = cs.length + 5 + 1 + 1 from rfl,
    reading_succ]
  show upToClosing _ _ ('^' :: _) = _
  rw [upToClosing_cons (by decide), turn_start, reading_succ]
  show upToClosing _ _ ('(' :: _) = _
  rw [upToClosing_cons (by decide), turn_group]

theorem closeGroup_closing (n : Nat) (piece : Piece) :
    closeGroup {} (reading (n + 2)) [] [.ofLook .startText] (groupPiece false piece) names closing
      = some ((piece.whole, names), []) := by
  show (if ')' = ')' then reading (n + 1 + 1) _ _ _ _ ['$'] else none) = _
  rw [if_pos rfl, reading_succ]
  show upToClosing _ _ ['$'] = _
  rw [upToClosing_cons (by decide), turn_end, reading_succ]
  rfl

theorem closeGroup_of_suffix {rest : List Char} (h : rest <:+ ['$']) :
    closeGroup fl next done current piece names rest = none := by
  cases rest with
  | nil => rfl
  | cons c rest =>
      have hc : c = '$' := List.mem_singleton.1 (h.mem List.mem_cons_self)
      subst hc
      rfl

theorem readingOf_agrees (cs : List Char) :
    Agrees ['$'] (readingOf cs) (readingOf (cs ++ closing)) := by
  have hlength : cs.length < (cs ++ closing).length + 1 := by
    rw [List.length_append]
    omega
  unfold readingOf
  rw [reading_fuel (Nat.lt_succ_self cs.length) hlength]
  exact (fueled_reading _ 0 {} [] [] []).agrees (.goesOn cs)

/-- A pattern that closes nothing early is itself between the ends of the text, if nothing
of these is hidden. -/
theorem parse?_wrapped (hcloses : ¬ closesEarly pattern) {whole : Piece} :
    parse? ("^(?:" ++ pattern ++ ")$") = some whole
      ↔ ∃ piece, parse? pattern = some piece ∧ ¬ hides pattern ∧ whole = piece.whole := by
  have htext : ("^(?:" ++ pattern ++ ")$").toList
      = '^' :: '(' :: '?' :: ':' :: (pattern.toList ++ closing) := by
    rw [String.toList_append, String.toList_append]
    rfl
  have hagrees := readingOf_agrees pattern.toList
  simp only [parse?_eq_some_iff, hides_iff, htext, readingOf_wrapped]
  rw [closesEarly_iff] at hcloses
  generalize readingOf pattern.toList = alone at hagrees hcloses
  generalize readingOf (pattern.toList ++ closing) = wrapped at hagrees
  cases hagrees with
  | failed => simp
  | beyond r hrest =>
      -- the parenthesis is taken, and no other follows
      have hopen : closeGroup {} (reading (pattern.toList.length + 5)) [] [.ofLook .startText]
          (groupPiece false r.1) r.2 _ = none := closeGroup_of_suffix hrest
      simp [hopen]
  | read r hmeets =>
      cases hmeets with
      | hidden => simp [closeGroup]
      | goesOn =>
          rename_i rest
          cases rest with
          | nil =>
              have hclose : closeGroup {} (reading (pattern.toList.length + 5)) []
                  [.ofLook .startText] (groupPiece false r.1) r.2 closing
                  = some ((r.1.whole, r.2), []) := closeGroup_closing _ r.1
              have hseen : ¬ ∃ r', some (r, [] ++ closing) = some (r', []) := by
                rintro ⟨r', h⟩
                cases h
              constructor
              · rintro ⟨names, h⟩
                cases hclose.symm.trans h
                exact ⟨r.1, ⟨r.2, rfl⟩, hseen, rfl⟩
              · rintro ⟨piece, ⟨names, h⟩, -, rfl⟩
                cases h
                exact ⟨names, hclose⟩
          | cons c rest =>
              have hc : c ≠ ')' := by
                rintro rfl
                exact hcloses ⟨r, rest, rfl⟩
              simp [closeGroup, hc]

theorem readWhole?_eq_some_iff (hcloses : ¬ closesEarly pattern) :
    readWhole? pattern = some r ↔ ∃ piece, parse? pattern = some piece
      ∧ (¬ hides pattern ∧ piece.whole.Admitted) ∧ r = piece.regex.whole := by
  unfold readWhole?
  rw [read?_eq_some_iff]
  constructor
  · rintro ⟨whole, hwhole, hadmitted, rfl⟩
    obtain ⟨piece, hpiece, hseen, rfl⟩ := (parse?_wrapped hcloses).1 hwhole
    exact ⟨piece, hpiece, ⟨hseen, hadmitted⟩, rfl⟩
  · rintro ⟨piece, hpiece, ⟨hseen, hadmitted⟩, rfl⟩
    exact ⟨piece.whole, (parse?_wrapped hcloses).2 ⟨piece, hpiece, hseen, rfl⟩, hadmitted, rfl⟩

/-- What is an expression by itself closes nothing early. -/
theorem not_closesEarly (h : parse? pattern = some piece) : ¬ closesEarly pattern := by
  obtain ⟨names, hread⟩ := parse?_eq_some_iff.1 h
  rw [closesEarly_iff, hread]
  rintro ⟨r, rest, heq⟩
  cases heq

theorem parse?_bounded (h : parse? pattern = some piece) : piece.regex.Bounded := by
  obtain ⟨names, hread⟩ := parse?_eq_some_iff.1 h
  exact reading_bounded _ _ _ _ _ _ _ (List.forall_mem_nil _) (List.forall_mem_nil _) hread

end

end Pattern

-- ========================================================================== filters

namespace MessageFilter

open Pattern

section

variable {query : MessageQuery} {pattern : String}

theorem ofQuery_eq_ok_iff (hpattern : query.idPattern = some pattern) {f : MessageFilter} :
    ofQuery query = .ok f ↔ ∃ r, readWhole? pattern = some r ∧ f = ⟨query.band, some r⟩ := by
  unfold ofQuery readPattern
  rw [hpattern]
  dsimp only
  cases readWhole? pattern with
  | none =>
      refine iff_of_false nofun ?_
      rintro ⟨r, h, -⟩
      cases h
  | some r =>
      constructor
      · intro h
        cases h
        exact ⟨r, rfl, rfl⟩
      · rintro ⟨r', hr, rfl⟩
        cases hr
        rfl

/-- The refusal of a pattern. -/
def Refused (query : MessageQuery) : Prop :=
  ∃ why, ofQuery query = .error (.invalidArgument patternField why)

theorem refused_of_none (hpattern : query.idPattern = some pattern)
    (h : readWhole? pattern = none) : Refused query := by
  refine ⟨"<regex error>", ?_⟩
  unfold ofQuery readPattern
  rw [hpattern]
  dsimp only
  rw [h]
  rfl

theorem ok_or_refused (hpattern : query.idPattern = some pattern) :
    (∃ f, ofQuery query = .ok f) ∨ Refused query := by
  cases hread : readWhole? pattern with
  | none => exact .inr (refused_of_none hpattern hread)
  | some r => exact .inl ⟨_, (ofQuery_eq_ok_iff hpattern).2 ⟨r, hread, rfl⟩⟩

/-- A pattern that is an expression by itself is accepted unless it ends in a comment or
what stands around it goes beyond a limit, and then it passes the identifiers that it
matches from the first to the last character. One that is none is refused unless it closes
a parenthesis that it did not open. Every refusal names the argument. -/
theorem whole_identifier (hpattern : query.idPattern = some pattern) :
    ((∃ f, ofQuery query = .ok f) ∨ Refused query)
      ∧ (∀ piece, parse? pattern = some piece →
        (∀ r, read? pattern = some r ↔ piece.Admitted ∧ r = piece.regex)
          ∧ ((∃ f, ofQuery query = .ok f)
            ↔ ¬ hides pattern ∧ piece.height + 2 ≤ maxHeight ∧ piece.whole.plan.fits = true)
          ∧ ∀ f, ofQuery query = .ok f → ∀ id, f.passesPattern id = true
            ↔ ∃ text, id = some text ∧ piece.regex.Spans text.toList 0 text.toList.length)
      ∧ (parse? pattern = none →
        read? pattern = none ∧ (¬ closesEarly pattern → Refused query)) := by
  refine ⟨ok_or_refused hpattern, fun piece hpiece => ?_, fun hnone => ⟨?_, fun hcloses => ?_⟩⟩
  · have hwhole {r : Regex} : readWhole? pattern = some r
        ↔ (¬ hides pattern ∧ piece.whole.Admitted) ∧ r = piece.regex.whole := by
      rw [readWhole?_eq_some_iff (not_closesEarly hpiece), hpiece]
      simp
    refine ⟨fun r => ?_, ?_, fun f hf id => ?_⟩
    · rw [read?_eq_some_iff, hpiece]
      simp
    · rw [← Piece.whole_admitted_iff]
      simp only [ofQuery_eq_ok_iff hpattern, hwhole]
      simp
    · obtain ⟨r, hr, rfl⟩ := (ofQuery_eq_ok_iff hpattern).1 hf
      obtain ⟨-, rfl⟩ := hwhole.1 hr
      cases id with
      | none => exact iff_of_false nofun fun ⟨_, h, _⟩ => nomatch h
      | some text =>
          show piece.regex.whole.occurs text.toList = true ↔ _
          rw [occurs_whole_iff (parse?_bounded hpiece)]
          simp
  · cases hread : read? pattern with
    | none => rfl
    | some r =>
        obtain ⟨piece, hpiece, -⟩ := read?_eq_some_iff.1 hread
        rw [hnone] at hpiece
        cases hpiece
  · refine refused_of_none hpattern ?_
    cases hread : readWhole? pattern with
    | none => rfl
    | some r =>
        obtain ⟨piece, hpiece, -⟩ := (readWhole?_eq_some_iff hcloses).1 hread
        rw [hnone] at hpiece
        cases hpiece

/-- Four digits after the letters, and an expression that is none. -/
theorem whole_identifier_of_digits :
    (∃ piece f, parse? "CPF[0-9]\x7b4\x7d" = some piece
        ∧ ofQuery { path := "", idPattern := some "CPF[0-9]\x7b4\x7d" } = .ok f
        ∧ ∀ id, f.passesPattern id = true
          ↔ ∃ text, id = some text ∧ piece.regex.Spans text.toList 0 text.toList.length)
      ∧ Refused { path := "", idPattern := some "(" } := by
  have hparse : (parse? "CPF[0-9]\x7b4\x7d").map
      (fun piece => decide (piece.height + 2 ≤ maxHeight ∧ piece.whole.plan.fits = true))
      = some true := by
    decide +kernel
  obtain ⟨piece, hpiece, hadmitted⟩ := Option.map_eq_some_iff.1 hparse
  have hseen : ¬ hides "CPF[0-9]\x7b4\x7d" := by decide +kernel
  have hdigits := @whole_identifier { path := "", idPattern := some "CPF[0-9]\x7b4\x7d" } _ rfl
  obtain ⟨-, haccepted, hpasses⟩ := hdigits.2.1 piece hpiece
  obtain ⟨f, hf⟩ := haccepted.2 ⟨hseen, of_decide_eq_true hadmitted⟩
  have hnone : parse? "(" = none := by decide +kernel
  have hopen := (@whole_identifier { path := "", idPattern := some "(" } _ rfl).2.2 hnone
  exact ⟨⟨piece, f, hpiece, hf, hpasses f hf⟩, hopen.2 (by decide +kernel)⟩

/-- What is no expression by itself makes one with what stands around it, and passes an
identifier that only begins as its first alternative does. What ends in a comment is one
by itself and is refused. -/
theorem unopened_parenthesis_accepted :
    (read? "a)|(?:b" = none
        ∧ ∃ f, ofQuery { path := "", idPattern := some "a)|(?:b" } = .ok f
          ∧ f.passesPattern (some "aX") = true)
      ∧ (read? "(?x)a #c").isSome = true
      ∧ Refused { path := "", idPattern := some "(?x)a #c" } := by
  refine ⟨⟨by decide +kernel, ?_⟩, by decide +kernel, refused_of_none rfl (by decide +kernel)⟩
  have hpasses : (readWhole? "a)|(?:b").map (fun r => r.occurs "aX".toList) = some true := by
    decide +kernel
  obtain ⟨r, hr, hoccurs⟩ := Option.map_eq_some_iff.1 hpasses
  exact ⟨_, (ofQuery_eq_ok_iff rfl).2 ⟨r, hr, rfl⟩, hoccurs⟩

end

end MessageFilter

end CheckGateway
