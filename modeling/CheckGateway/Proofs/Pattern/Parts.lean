/-
Escapes, groups and counts are read within the text.

What is read of an escape, of what follows an opening parenthesis, and of the bounds of a
repetition does not depend on what closes the text (`Local`). An escape alone can end
where the closing characters leave it with an opening brace after which there is no count
(`escape_agrees`).
-/
import CheckGateway.Proofs.Pattern.Local
import Mathlib.Data.Option.Basic

namespace CheckGateway.Pattern

section

variable {cs cs' rest : List Char} {fl : Flags}

-- ========================================================================== escapes

/-- What stands in braces is read up to the closing one. -/
theorem local_braced (fl : Flags) (inComment : Bool) (before : List Char) :
    Local (braced fl inComment before) := by
  refine Local.walk (f := fun s : Bool × List Char => braced fl s.1 s.2) (fun _ => rfl) ?_
    (inComment, before)
  rintro ⟨b, before⟩ c
  dsimp only
  by_cases hcomment : b = true
  · exact .inl ⟨(c != '\n', before), fun cs => by rw [braced, if_pos hcomment]⟩
  · by_cases hblank : (fl.verbose && Text.isBlank c) = true
    · exact .inl ⟨(false, before), fun cs => by rw [braced, if_neg hcomment, if_pos hblank]⟩
    · by_cases hmark : (fl.verbose && c == '#') = true
      · refine .inl ⟨(true, before), fun cs => ?_⟩
        rw [braced, if_neg hcomment, if_neg hblank, if_pos hmark]
      · by_cases hbrace : c = '\x7d'
        · refine .inr ⟨some before.reverse, fun cs => ?_⟩
          rw [braced, if_neg hcomment, if_neg hblank, if_neg hmark, if_pos hbrace]
          rfl
        · refine .inl ⟨(false, c :: before), fun cs => ?_⟩
          rw [braced, if_neg hcomment, if_neg hblank, if_neg hmark, if_neg hbrace]

/-- A number of hexadecimal digits. -/
theorem local_hexDigits (fl : Flags) (n acc : Nat) : Local (hexDigits fl n acc) := by
  induction n generalizing acc with
  | zero =>
      exact .done acc
  | succ n ih =>
      refine .head rfl fun c => .given _ fun d => ?_
      exact (ih _).spaced fl

/-- A character by its code, in braces or of fixed width. -/
theorem local_hexLiteral (fl : Flags) (width : Nat) : Local (hexLiteral fl width) := by
  refine .spacedSwitch fl '\x7b' (by decide)
    (fun cs rest h => by
      unfold hexLiteral
      rw [h])
    (fun cs rest h hhead => by
      unfold hexLiteral
      rewrite [h]
      split
      · exact absurd rfl hhead
      · rfl) ?_ ?_
  · exact (local_braced fl false []).bind fun _ =>
      .given _ fun _ => .given _ fun _ => .given _ fun _ => .done _
  · exact (local_hexDigits fl width 0).bind fun _ => .given _ fun _ => .done _

/-- A property by its name, in braces or of one letter. -/
theorem local_propertySet (fl : Flags) (negated : Bool) : Local (propertySet fl negated) := by
  have hset (query : PropertyQuery) : Local fun rest => do
      let s ← fl.negate? (negated != query.unequal) (fl.close (← query.set?))
      return (s, rest) := .given _ fun _ => .given _ fun _ => .done _
  unfold propertySet
  refine .given _ fun _ => .afterSpace fl (fun cs rest h => by rw [h]) (.head rfl fun c => ?_)
  by_cases hbrace : c = '\x7b'
  · subst hbrace
    exact ((local_braced fl false []).map fun _ => .done _).bind fun _ => hset _
  · simp only
    split_ifs
    · exact .fail
    · exact (hset _).spaced fl

/-- What follows `\b` and an opening brace. -/
theorem wordBoundary_brace (fl : Flags) (inner : List Char) :
    wordBoundary fl ('\x7b' :: inner) = match (space fl inner).head? with
      | none => none
      | some c =>
          if c.isAlpha || c == '-' then do
            let (name, rest) ← braced fl false [] inner
            guard (name.all fun c => c.isAlpha || c == '-')
            let look ← boundary? (!fl.unicode) (String.ofList name)
            return (look, rest)
          else some (.wordBoundary !fl.unicode, '\x7b' :: inner) := by
  simp only [wordBoundary]
  cases space fl inner <;> rfl

/-- Without a brace it is a plain word boundary. -/
theorem wordBoundary_else (hhead : cs.head? ≠ some '\x7b') :
    wordBoundary fl cs = some (.wordBoundary !fl.unicode, cs) := by
  unfold wordBoundary
  split
  · exact absurd rfl hhead
  · rfl

/-- The name of a special word boundary, in braces. -/
theorem local_boundaryName (fl : Flags) : Local fun inner => do
    let (name, rest) ← braced fl false [] inner
    guard (name.all fun c => c.isAlpha || c == '-')
    let look ← boundary? (!fl.unicode) (String.ofList name)
    return (look, rest) :=
  (local_braced fl false []).bind fun _ => .given _ fun _ => .given _ fun _ => .done _

/-- Reading a word boundary takes from the front. -/
theorem wordBoundary_suffix {cond : Look} (h : wordBoundary fl cs = some (cond, rest)) :
    rest <:+ cs := by
  by_cases hhead : cs.head? = some '\x7b'
  · obtain ⟨inner, rfl⟩ := List.head?_eq_some_iff.1 hhead
    rw [wordBoundary_brace] at h
    split at h
    · cases h
    · split_ifs at h
      · exact ((local_boundaryName fl).suffix h).trans (List.suffix_cons _ _)
      · cases h
        exact List.suffix_refl _
  · rw [wordBoundary_else hhead] at h
    cases h
    exact List.suffix_refl _

/-- An opening brace that ends the text is no name and no count, whatever closes the
text. -/
theorem wordBoundary_agrees (fl : Flags) (h : Meets cs cs') :
    Agrees ['$'] (wordBoundary fl cs) (wordBoundary fl cs')
      ∨ wordBoundary fl cs = none ∧ ∃ cond rest,
        wordBoundary fl cs' = some (cond, '\x7b' :: rest) ∧ counts fl rest = none := by
  cases h with
  | hidden => exact .inl (.read _ .hidden)
  | goesOn =>
      by_cases hhead : cs.head? = some '\x7b'
      · obtain ⟨inner, rfl⟩ := List.head?_eq_some_iff.1 hhead
        rw [List.cons_append, wordBoundary_brace, wordBoundary_brace]
        have hspace := (Meets.goesOn inner).space fl
        generalize hinner : space fl inner = before at hspace
        generalize hinner' : space fl (inner ++ closing) = before' at hspace
        cases hspace with
        | hidden => exact .inl .failed
        | goesOn =>
            cases before with
            | nil =>
                refine .inr ⟨rfl, .wordBoundary !fl.unicode, inner ++ closing, rfl, ?_⟩
                unfold counts
                rw [hinner']
                rfl
            | cons c before =>
                dsimp only [List.head?, List.cons_append]
                split_ifs
                · exact .inl ((local_boundaryName fl).agrees (.goesOn inner))
                · exact .inl (.read _ (.goesOn ('\x7b' :: inner)))
      · have hhead' : (cs ++ closing).head? ≠ some '\x7b' := by
          cases cs with
          | nil => decide
          | cons c cs => exact hhead
        rw [wordBoundary_else hhead, wordBoundary_else hhead']
        exact .inl (.read _ (.goesOn cs))

/-- An escape other than `\b`. -/
theorem local_escape_cons (fl : Flags) {c : Char} (hc : c ≠ 'b') :
    Local fun cs => escape fl (c :: cs) := by
  unfold escape
  dsimp only
  split_ifs
  · exact .fail
  · exact .done _
  · split
    · exact (local_hexLiteral fl 2).map fun l => .done (Escape.literal l)
    · exact (local_hexLiteral fl 4).map fun l => .done (Escape.literal l)
    · exact (local_hexLiteral fl 8).map fun l => .done (Escape.literal l)
    · exact (local_propertySet fl false).map fun members => .done (Escape.set members)
    · exact (local_propertySet fl true).map fun members => .done (Escape.set members)
    all_goals first
      | exact .done _
      | exact absurd rfl hc
      | cases shorthand fl c with
        | none => exact .fail
        | some members => exact .done _

/-- An escaped b is a word boundary of some kind. -/
theorem escape_b : escape fl ('b' :: cs) = (wordBoundary fl cs).map fun r => (.look r.1, r.2) := rfl

/-- Reading what is escaped takes from the front. -/
theorem escape_suffix {e : Escape} (h : escape fl cs = some (e, rest)) : rest <:+ cs := by
  cases cs with
  | nil => cases h
  | cons c cs =>
      by_cases hc : c = 'b'
      · subst hc
        rw [escape_b] at h
        obtain ⟨r, hr, heq⟩ := Option.map_eq_some_iff.1 h
        cases heq
        exact (wordBoundary_suffix hr).trans (List.suffix_cons 'b' cs)
      · exact ((local_escape_cons fl hc).suffix h).trans (List.suffix_cons c cs)

/-- What is read of an escape. At the end of a text it may be left with an opening brace
after which there is no count. -/
theorem escape_agrees (fl : Flags) (h : Meets cs cs') :
    Agrees ['$'] (escape fl cs) (escape fl cs')
      ∨ escape fl cs = none ∧ ∃ cond rest,
        escape fl cs' = some (.look cond, '\x7b' :: rest) ∧ counts fl rest = none := by
  cases h with
  | hidden => exact .inl .failed
  | goesOn =>
      cases cs with
      | nil => exact .inl (.beyond _ (List.suffix_refl _))
      | cons c cs =>
          by_cases hc : c = 'b'
          · subst hc
            rw [List.cons_append, escape_b, escape_b]
            rcases wordBoundary_agrees fl (.goesOn cs) with hagrees
              | ⟨hnone, cond, rest, hsome, hcounts⟩
            · exact .inl (hagrees.map Escape.look)
            · rw [hnone, hsome]
              exact .inr ⟨rfl, cond, rest, rfl, hcounts⟩
          · exact .inl ((local_escape_cons fl hc).agrees (.goesOn cs))

-- =========================================================================== groups

/-- The flag letters with the mark that ends them. -/
def flagMark (seen : List Char) (fl : Flags) (cs : List Char) :
    Option ((List Char × Flags × Char) × List Char) :=
  (flagLetters seen fl cs).bind fun (seen, fl, rest) =>
    match rest with
    | [] => none
    | m :: rest => some ((seen, fl, m), rest)

/-- One mark among the flags of a group. -/
theorem local_flagMark (seen : List Char) (fl : Flags) : Local (flagMark seen fl) := by
  refine Local.walk (f := fun s : List Char × Flags => flagMark s.1 s.2) (fun _ => rfl) ?_
    (seen, fl)
  rintro ⟨seen, fl⟩ c
  dsimp only [flagMark]
  by_cases hmark : c = ':' ∨ c = ')'
  · by_cases hhyphen : seen.head? = some '-'
    · exact .inr ⟨none, fun cs => by rw [flagLetters, if_pos hmark, if_pos hhyphen]; rfl⟩
    · refine .inr ⟨some (seen, fl, c), fun cs => ?_⟩
      rw [flagLetters, if_pos hmark, if_neg hhyphen]
      rfl
  · by_cases hseen : seen.contains c = true
    · exact .inr ⟨none, fun cs => by rw [flagLetters, if_neg hmark, if_pos hseen]; rfl⟩
    · by_cases hhyphen : c = '-'
      · refine .inl ⟨('-' :: seen, fl), fun cs => ?_⟩
        rw [flagLetters, if_neg hmark, if_neg hseen, if_pos hhyphen]
      · cases hflag : flagOf? c with
        | none =>
            refine .inr ⟨none, fun cs => ?_⟩
            rw [flagLetters, if_neg hmark, if_neg hseen, if_neg hhyphen, hflag]
            rfl
        | some set =>
            refine .inl ⟨(c :: seen, set (!seen.contains '-') fl), fun cs => ?_⟩
            rw [flagLetters, if_neg hmark, if_neg hseen, if_neg hhyphen, hflag]
            rfl

/-- Where a mark ends the characters before it, it does so whatever closes the text. -/
theorem upTo_append {p : Char → Bool} {m : Char} (hdrop : cs.dropWhile p = m :: rest) :
    (cs ++ closing).dropWhile p = m :: (rest ++ closing)
      ∧ (cs ++ closing).takeWhile p = cs.takeWhile p := by
  have hlength : (cs.takeWhile p).length ≠ cs.length := by
    intro heq
    have hboth := congrArg List.length (List.takeWhile_append_dropWhile (p := p) (l := cs))
    rw [List.length_append, heq, hdrop, List.length_cons] at hboth
    omega
  constructor
  · rw [List.dropWhile_append, hdrop]
    rfl
  · rw [List.takeWhile_append, if_neg hlength]

/-- The name of a group, up to the closing angle bracket. -/
theorem local_groupName : Local groupName := by
  constructor
  · intro cs rest name h
    unfold groupName at h
    split at h
    next m rest' hdrop =>
      split at h
      · split_ifs at h
        cases h
        exact (List.suffix_cons m _).trans (hdrop ▸ List.dropWhile_suffix _)
      · cases h
    next => cases h
  · intro cs cs' h
    cases h with
    | hidden => exact .failed
    | goesOn =>
        unfold groupName
        cases hdrop : cs.dropWhile (· != '>') with
        | nil =>
            rw [List.dropWhile_append, hdrop]
            exact .failed
        | cons m rest =>
            rw [(upTo_append hdrop).1, (upTo_append hdrop).2]
            dsimp only
            split
            · split_ifs
              · exact .read _ (.goesOn rest)
              · exact .failed
            · exact .failed

/-- Flags for the rest of the group around, or those of a group, whether it captures, and by
which name. -/
abbrev Opening.Kind := Flags ⊕ Flags × Bool × Option (List Char)

/-- The kind of an opening, and what is left of the text. -/
def Opening.view : Opening → Opening.Kind × List Char
  | .flags fl rest => (.inl fl, rest)
  | .group fl captures name rest => (.inr (fl, captures, name), rest)

/-- A group with a name, after the mark in front of the name. -/
def named (fl : Flags) (cs : List Char) : Option Opening :=
  (groupName cs).map fun (name, rest) => .group fl true (some name) rest

/-- Flags, for the rest of the group around or for one of their own. -/
def flagged (fl : Flags) (cs : List Char) : Option Opening :=
  (flagMark [] fl cs).bind fun ((seen, changed, m), rest) =>
    if m = ':' then some (.group changed false none rest)
    else match seen with
      | [] => none
      | _ :: _ => some (.flags changed rest)

/-- A group with a name. -/
theorem local_named (fl : Flags) : Local fun cs => (named fl cs).map Opening.view := by
  have heq (cs : List Char) : (named fl cs).map Opening.view
      = (groupName cs).map fun r => (.inr (fl, true, some r.1), r.2) := by
    unfold named
    cases groupName cs <;> rfl
  simp only [heq]
  exact local_groupName.map fun name =>
    .done (.inr (fl, true, some name) : Opening.Kind)

/-- A group with flags, or flags by themselves. -/
theorem local_flagged (fl : Flags) : Local fun cs => (flagged fl cs).map Opening.view := by
  refine (local_flagMark [] fl).bindMap fun ⟨seen, changed, m⟩ => ?_
  dsimp only
  split_ifs
  · exact .done (.inr (changed, false, none) : Opening.Kind)
  · cases seen with
    | nil => exact .fail
    | cons => exact .done (.inl changed : Opening.Kind)

/-- Flags end at a colon, which opens a group, or else they stand by themselves. -/
theorem flagged_eq (fl : Flags) (cs : List Char) :
    flagged fl cs = match flagLetters [] fl cs with
      | some (_, inner, ':' :: rest) => some (.group inner false none rest)
      | some (_ :: _, changed, _ :: rest) => some (.flags changed rest)
      | _ => none := by
  unfold flagged flagMark
  match flagLetters [] fl cs with
  | none => rfl
  | some (seen, changed, []) => cases seen <;> rfl
  | some (seen, changed, m :: rest) =>
      by_cases hmark : m = ':'
      · subst hmark
        rfl
      · dsimp only [Option.bind]
        rw [if_neg hmark]
        cases seen with
        | nil =>
            dsimp only
            split
            · rename_i heq
              cases heq
              exact absurd rfl hmark
            · rename_i heq
              cases heq
            · rfl
        | cons =>
            dsimp only
            split
            · rename_i heq
              cases heq
              exact absurd rfl hmark
            · rename_i heq
              cases heq
              rfl
            · rename_i hnot
              exact absurd rfl (hnot _ _ _ _ _)

/-- After a parenthesis and a question mark come a name or flags, and no look around. -/
theorem opening_question (h : space fl cs = '?' :: rest) :
    opening fl cs =
      if rest.head? = some '<' then
        if (rest.tail.head?.any fun c => c == '=' || c == '!') = true then none
        else named fl rest.tail
      else if rest.head? = some 'P' then
        if rest.tail.head? = some '<' then named fl rest.tail.tail else none
      else flagged fl rest := by
  unfold opening
  rw [h]
  split
  case h_1 heq | h_2 heq | h_3 heq | h_4 heq | h_5 heq =>
    cases heq
    rfl
  case h_6 cs hequal hbang heq =>
    cases heq
    have hname : ¬ (cs.head?.any fun c => c == '=' || c == '!') = true := by
      cases cs with
      | nil => exact Bool.false_ne_true
      | cons c cs =>
          dsimp only [List.head?, Option.any]
          rw [Bool.or_eq_true, beq_iff_eq, beq_iff_eq]
          rintro (rfl | rfl)
          · exact hequal cs rfl
          · exact hbang cs rfl
    exact (if_neg hname).symm
  case h_7 hnamed hname heq =>
    cases heq
    have hless : rest.head? ≠ some '<' := fun hhead => by
      obtain ⟨cs, rfl⟩ := List.head?_eq_some_iff.1 hhead
      exact hname cs rfl
    rw [if_neg hless]
    refine (flagged_eq fl rest).symm.trans ?_
    split_ifs with hp hnext
    · obtain ⟨after, rfl⟩ := List.head?_eq_some_iff.1 hp
      obtain ⟨cs, rfl⟩ := List.head?_eq_some_iff.1 hnext
      exact absurd rfl (hnamed cs)
    · obtain ⟨after, rfl⟩ := List.head?_eq_some_iff.1 hp
      rfl
    · rfl
  case h_8 hnot => exact absurd rfl (hnot rest)

/-- Everything that can follow an opening parenthesis. -/
theorem local_opening (fl : Flags) : Local fun cs => (opening fl cs).map Opening.view := by
  have hletters : Local fun rest =>
      if rest.head? = some 'P' then
        if rest.tail.head? = some '<' then (named fl rest.tail.tail).map Opening.view else none
      else (flagged fl rest).map Opening.view :=
    .byHead 'P' (by decide) (.byHead '<' (by decide) (local_named fl) .fail) (local_flagged fl)
  have hbarring : Local fun rest =>
      if (rest.head?.any fun c => c == '=' || c == '!') = true then none
      else (named fl rest).map Opening.view := .barring _ rfl (local_named fl)
  refine .spacedSwitch fl '?' (by decide) (fun cs rest h => ?_)
    (fun cs rest h hhead => ?_) (.byHead '<' (by decide) hbarring hletters)
    (.done (.inr (fl, true, none) : Opening.Kind))
  · rw [opening_question h]
    simp only [apply_ite (Option.map Opening.view), Option.map_none]
  · unfold opening
    rw [h]
    split
    all_goals first
      | exact absurd rfl hhead
      | rfl

-- =========================================================================== counts

/-- Blanks are dropped from both texts alike. -/
theorem Meets.dropBlanks (h : Meets cs cs') :
    Meets (cs.dropWhile Text.isBlank) (cs'.dropWhile Text.isBlank) := by
  cases h with
  | hidden => exact .hidden
  | goesOn =>
      rw [List.dropWhile_append]
      split
      next hempty =>
        rw [List.isEmpty_iff.1 hempty]
        exact .goesOn []
      next => exact .goesOn _

/-- Another digit of a number. -/
def takeDigit (acc : Option Nat) (c : Char) : Option (Option Nat) :=
  (Text.digit? c).map fun d => some (acc.getD 0 * 10 + d)

/-- Another blank. -/
def takeBlank (_ : Unit) (c : Char) : Option Unit :=
  if Text.isBlank c then some () else none

/-- Reading digits is a run over digits. -/
theorem digits_eq (acc : Option Nat) (n : Nat) (cs : List Char) :
    decimal.digits fl acc n cs = takeRun fl takeDigit n acc cs := by
  induction n generalizing acc cs with
  | zero => rfl
  | succ n ih =>
      cases cs with
      | nil => rfl
      | cons c cs =>
          unfold decimal.digits takeRun takeDigit
          cases Text.digit? c with
          | none => rfl
          | some d => exact ih _ _

/-- Skipping blanks is a run over blanks. -/
theorem blanks_eq (n : Nat) (cs : List Char) :
    decimal.blanks fl n cs = (takeRun fl takeBlank n () cs).2 := by
  induction n generalizing cs with
  | zero => rfl
  | succ n ih =>
      cases cs with
      | nil => rfl
      | cons c cs =>
          unfold decimal.blanks takeRun takeBlank
          split_ifs
          · exact ih _
          · rfl

/-- Blanks in front do not matter to what is local. -/
theorem Local.dropBlanks {α : Type} {f : List Char → Option (α × List Char)} (hf : Local f) :
    Local fun cs => f (cs.dropWhile Text.isBlank) :=
  ⟨fun h => (hf.suffix h).trans (List.dropWhile_suffix _), fun h => hf.agrees h.dropBlanks⟩

/-- A number of 32 bits, if it is one. -/
def clip (n : Option Nat) : Option (Option Nat) :=
  match n with
  | none => some none
  | some n => if n < 0x100000000 then some (some n) else none

/-- The digits of a number, and then blanks. -/
theorem decimal_eq (cs : List Char) :
    some (decimal fl cs)
      = (some (takeRun fl takeDigit (cs.dropWhile Text.isBlank).length none
          (cs.dropWhile Text.isBlank))).bind fun r =>
        (some (takeRun fl takeBlank r.2.length () r.2)).bind fun r' => some (clip r.1, r'.2) := by
  unfold decimal
  simp only [digits_eq, blanks_eq]
  dsimp only [Option.bind]
  generalize takeRun fl takeDigit _ none _ = r
  cases r.1 <;> rfl

/-- A number, with the blanks around it. -/
theorem local_decimal (fl : Flags) : Local fun cs => some (decimal fl cs) := by
  simp only [decimal_eq]
  have hblanks (n : Option Nat) : Local fun rest =>
      (some (takeRun fl takeBlank rest.length () rest)).bind fun r => some (clip n, r.2) :=
    (local_takeRun fl (fun _ => rfl) ()).bind fun _ => .done _
  exact ((local_takeRun fl (fun _ => rfl) none).bind hblanks).dropBlanks

/-- The bounds, and the text after the closing brace. -/
def boundsView (r : Nat × Option Nat × List Char) : (Nat × Option Nat) × List Char :=
  ((r.1, r.2.1), r.2.2)

/-- The closing brace after the bounds. -/
def closedBounds (low : Nat) (high : Option Nat) (cs : List Char) :
    Option ((Nat × Option Nat) × List Char) :=
  if cs.head? = some '\x7d' then some ((low, high), cs.tail) else none

/-- What follows the comma after the lower bound. -/
def upperBound (fl : Flags) (low : Nat) (cs : List Char) :
    Option ((Nat × Option Nat) × List Char) :=
  if cs.head? = some '\x7d' then some ((low, none), cs.tail)
  else (some (decimal fl cs)).bind fun r => r.1.bind fun high? => high?.bind fun high =>
    if low ≤ high then closedBounds low (some high) r.2 else none

/-- Bounds are closed by a brace. -/
theorem local_closedBounds (low : Nat) (high : Option Nat) : Local (closedBounds low high) :=
  .byHead '\x7d' (by decide) (.done _) .fail

/-- The upper bound is a number or left out. -/
theorem local_upperBound (fl : Flags) (low : Nat) : Local (upperBound fl low) := by
  refine .byHead '\x7d' (by decide) (.done _) ?_
  refine (local_decimal fl).bind fun high? => .given high? fun high? => .given high? fun high => ?_
  split_ifs
  · exact local_closedBounds low (some high)
  · exact .fail

/-- A brace closes the bounds, and nothing else does. -/
theorem closedBounds_eq (low : Nat) (high : Option Nat) (cs : List Char) :
    Option.map boundsView (match cs with
      | '\x7d' :: rest => some (low, high, rest)
      | _ => none) = closedBounds low high cs := by
  unfold closedBounds
  split
  · rfl
  next hnot =>
    split_ifs with hhead
    · obtain ⟨rest, rfl⟩ := List.head?_eq_some_iff.1 hhead
      exact absurd rfl (hnot rest)
    · rfl

/-- Counts are one number, or two with a comma between them, of which the second may be
left out. -/
theorem counts_eq (cs : List Char) :
    (counts fl cs).map boundsView =
      (some (decimal fl (space fl cs))).bind fun r => r.1.bind fun low? => low?.bind fun low =>
        if r.2.head? = some '\x7d' then some ((low, some low), r.2.tail)
        else if r.2.head? = some ',' then upperBound fl low (space fl r.2.tail)
        else none := by
  unfold counts
  match decimal fl (space fl cs) with
  | (none, rest) => rfl
  | (some none, rest) => rfl
  | (some (some low), rest) =>
      dsimp only [Option.bind, bind]
      split
      · rfl
      next rest =>
        show _ = upperBound fl low (space fl rest)
        unfold upperBound
        split
        next heq =>
          rw [heq]
          rfl
        next hnot =>
          rw [if_neg fun hhead => (List.head?_eq_some_iff.1 hhead).elim hnot]
          match decimal fl (space fl rest) with
          | (none, rest) => rfl
          | (some none, rest) => rfl
          | (some (some high), rest) =>
              dsimp only [Option.bind]
              split_ifs with hle
              · rw [← closedBounds_eq]
                simp only [guard, if_pos hle]
                rfl
              · simp only [guard, if_neg hle]
                split <;> rfl
      next hbrace hcomma =>
        rw [if_neg fun hhead => (List.head?_eq_some_iff.1 hhead).elim hbrace,
          if_neg fun hhead => (List.head?_eq_some_iff.1 hhead).elim hcomma]
        rfl

/-- What is left of counts, and the bounds. -/
theorem local_counts (fl : Flags) : Local fun cs => (counts fl cs).map boundsView := by
  simp only [counts_eq]
  refine ((local_decimal fl).spaced fl).bind fun low? => .given low? fun low? =>
    .given low? fun low => ?_
  exact .byHead '\x7d' (by decide) (.done (low, some low))
    (.byHead ',' (by decide) ((local_upperBound fl low).spaced fl) .fail)

/-- A question mark after a repetition makes it lazy. -/
theorem local_lazyMark : Local fun cs => some (lazyMark cs) :=
  .switch '?' (by decide) (.done true) (.done false) (fun _ => rfl) fun cs hhead => by
    unfold lazyMark
    split
    · exact absurd rfl hhead
    · rfl

end

end CheckGateway.Pattern
