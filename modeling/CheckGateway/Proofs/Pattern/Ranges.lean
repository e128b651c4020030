/-
Ranges and named classes are read within the text.

A range that the end of the text cuts short goes on where the closing characters follow,
and takes what it needs of them (`classRange_agrees`). Whether a hyphen is part of a range
is the same with the closing characters and without (`hyphenEnds_append`), and so is what
is read of the name of a class (`asciiClass_append`).
-/
import CheckGateway.Proofs.Pattern.Parts

namespace CheckGateway.Pattern

section

variable {α : Type} {cs cs' rest : List Char} {fl : Flags}

-- =========================================================================== ranges

/-- What is left over may be said to be more. -/
theorem Agrees.mono {left left' : List Char} {o o' : Option (α × List Char)}
    (h : Agrees left o o') (hleft : left <:+ left') : Agrees left' o o' := by
  cases h with
  | read a hmeets => exact .read a hmeets
  | failed => exact .failed
  | beyond a hrest => exact .beyond a (hrest.trans hleft)

/-- Drops a comment mark and the blanks after it. -/
def dropMark : List Char → List Char
  | '#' :: rest => rest.dropWhile Text.isBlank
  | rest => rest

/-- Without a mark nothing is dropped. -/
theorem dropMark_else (hhead : cs.head? ≠ some '#') : dropMark cs = cs := by
  unfold dropMark
  split
  · exact absurd rfl hhead
  · rfl

/-- A comment mark is dropped from both texts alike. -/
theorem Meets.dropMark (h : Meets cs cs') : Meets (Pattern.dropMark cs) (Pattern.dropMark cs') := by
  cases h with
  | hidden => exact .hidden
  | goesOn =>
      by_cases hhead : cs.head? = some '#'
      · obtain ⟨cs, rfl⟩ := List.head?_eq_some_iff.1 hhead
        exact (Meets.goesOn cs).dropBlanks
      · have hhead' : (cs ++ closing).head? ≠ some '#' := by
          cases cs with
          | nil => decide
          | cons c cs => exact hhead
        rw [dropMark_else hhead, dropMark_else hhead']
        exact .goesOn cs

/-- What is seen after a hyphen in brackets. -/
def afterMark (cs : List Char) : List Char := dropMark (cs.dropWhile Text.isBlank)

/-- If nothing is seen after a hyphen, what stood there was a blank or a mark. -/
theorem head_of_afterMark (h : afterMark cs = []) {c : Char} (hc : cs.head? = some c) :
    Text.isBlank c = true ∨ c = '#' := by
  obtain ⟨cs, rfl⟩ := List.head?_eq_some_iff.1 hc
  unfold afterMark dropMark at h
  by_cases hblank : Text.isBlank c = true
  · exact .inl hblank
  · rw [List.dropWhile_cons_of_neg hblank] at h
    split at h
    next heq =>
      cases heq
      exact .inr rfl
    next => cases h

/-- A hyphen that ends a class or is one of two is no range. -/
def hyphenEnds (fl : Flags) (cs : List Char) : Bool :=
  peekSpace fl cs == some ']' || peekSpace fl cs == some '-'

/-- Blanks and comment marks are neither. -/
theorem hyphenEnds_append (fl : Flags) (cs : List Char) :
    hyphenEnds fl (cs ++ closing) = hyphenEnds fl cs := by
  unfold hyphenEnds
  by_cases hverbose : fl.verbose = true
  · have hpeek (cs : List Char) : peekSpace fl cs = ((afterMark cs).head?).or cs.head? := by
      unfold peekSpace
      rw [if_pos hverbose]
      rfl
    have hneither {c : Char} (hc : Text.isBlank c = true ∨ c = '#') :
        (some c == some ']' || some c == some '-') = false := by
      rw [Option.some_beq_some, Option.some_beq_some, Bool.or_eq_false_iff, beq_eq_false_iff_ne,
        beq_eq_false_iff_ne]
      constructor
      · rintro rfl
        revert hc
        decide
      · rintro rfl
        revert hc
        decide
    have hmark : Meets (afterMark cs) (afterMark (cs ++ closing)) :=
      (Meets.goesOn cs).dropBlanks.dropMark
    rw [hpeek, hpeek]
    generalize hafter : afterMark cs = after at hmark
    generalize afterMark (cs ++ closing) = after' at hmark
    cases hmark with
    | hidden => cases cs <;> rfl
    | goesOn =>
        cases after with
        | cons c after => rfl
        | nil =>
            cases cs with
            | nil => rfl
            | cons c cs => exact (hneither (head_of_afterMark hafter rfl)).symm
  · have hpeek (cs : List Char) : peekSpace fl cs = cs.head? := by
      unfold peekSpace
      rw [if_neg hverbose]
    rw [hpeek, hpeek]
    cases cs <;> rfl

/-- A hyphen comes next, and it stands between two ends of a range. -/
def isRange (fl : Flags) (cs : List Char) : Bool :=
  cs.head? == some '-' && !hyphenEnds fl cs.tail

/-- Whether a range follows a character does not change with what closes the pattern. -/
theorem isRange_cons_append (fl : Flags) (c : Char) (cs : List Char) :
    isRange fl (c :: (cs ++ closing)) = isRange fl (c :: cs) := by
  unfold isRange
  rw [List.tail_cons, List.tail_cons, hyphenEnds_append]
  rfl

/-- After a hyphen, there is a range unless the hyphen ends it. -/
theorem isRange_hyphen (fl : Flags) (cs : List Char) :
    isRange fl ('-' :: cs) = !hyphenEnds fl cs := rfl

/-- The set that one end of a range stands for by itself. -/
def Escape.member? (fl : Flags) : Escape → Option CharSet
  | .literal l => (l.inClass? fl).map CharSet.char
  | .set s => some s
  | .look _ => none

/-- The set between two ends. -/
def rangeTo (fl : Flags) : Escape → Escape → Option CharSet
  | .literal low, .literal high => do
      let low ← low.inClass? fl
      let high ← high.inClass? fl
      guard (low ≤ high)
      return .range low.toNat high.toNat
  | _, _ => none

/-- What follows one end of a range. -/
def rangeRest (fl : Flags) (first : Escape) (cs : List Char) : Option (CharSet × List Char) :=
  if cs = [] then none
  else if isRange fl cs = true then
    (classItem fl (space fl cs.tail)).bind fun r =>
      (rangeTo fl first r.1).map fun members => (members, r.2)
  else (first.member? fl).map fun members => (members, cs)

/-- One end of a range by itself is a member. -/
theorem single_eq (first : Escape) (cs : List Char) :
    (match first with
      | .literal l => (l.inClass? fl).map fun c => (CharSet.char c, cs)
      | .set s => some (s, cs)
      | .look _ => none) = (first.member? fl).map fun members => (members, cs) := by
  cases first with
  | literal l =>
      show Option.map _ (l.inClass? fl) = Option.map _ (Option.map CharSet.char (l.inClass? fl))
      rw [Option.map_map]
      rfl
  | set s => rfl
  | look cond => rfl

/-- A range is read from its two ends. -/
theorem rangeTo_eq (first second : Escape) (rest : List Char) :
    (match first, second with
      | .literal a, .literal b => do
          let low ← a.inClass? fl
          let high ← b.inClass? fl
          guard (low ≤ high)
          return (Unicode.CodePointSet.range low.toNat high.toNat, rest)
      | _, _ => none) = (rangeTo fl first second).map fun members => (members, rest) := by
  match first, second with
  | .literal a, .literal b =>
      unfold rangeTo
      dsimp only
      cases a.inClass? fl with
      | none => rfl
      | some low =>
          cases b.inClass? fl with
          | none => rfl
          | some high =>
              dsimp only [bind, Option.bind, guard]
              split_ifs <;> rfl
  | .literal _, .set _ | .literal _, .look _ | .set _, _ | .look _, _ => rfl

/-- One member is read, and then what follows it. -/
theorem classRange_eq :
    classRange fl cs = (classItem fl cs).bind fun r => rangeRest fl r.1 (space fl r.2) := by
  unfold classRange
  cases hitem : classItem fl cs with
  | none => rfl
  | some r =>
      obtain ⟨first, rest⟩ := r
      dsimp only [Option.bind, bind]
      unfold rangeRest
      generalize space fl rest = rest
      split
      · rfl
      next after =>
        rw [if_neg (List.cons_ne_nil _ _)]
        rw [isRange_hyphen]
        by_cases hends : hyphenEnds fl after = true
        · rw [hends]
          exact (if_pos hends).trans (single_eq first _)
        · rw [Bool.eq_false_iff.2 hends]
          refine (if_neg hends).trans ?_
          show _ = (classItem fl (space fl after)).bind fun r =>
            (rangeTo fl first r.1).map fun members => (members, r.2)
          cases classItem fl (space fl after) with
          | none => rfl
          | some r =>
              obtain ⟨second, rest⟩ := r
              exact rangeTo_eq first second rest
      next hnil hhyphen =>
        have hnot : ¬ isRange fl rest = true := by
          unfold isRange
          rw [Bool.and_eq_true, beq_iff_eq]
          exact fun h => (List.head?_eq_some_iff.1 h.1).elim hhyphen
        rw [if_neg hnil, if_neg hnot]
        exact single_eq first rest

/-- A character that is no backslash is a member as it is. -/
theorem classItem_plain {c : Char} (hc : c ≠ '\\') (cs : List Char) :
    classItem fl (c :: cs) = some (.literal ⟨c, false⟩, cs) := by
  unfold classItem
  split
  next heq => cases heq
  next heq =>
    cases heq
    exact absurd rfl hc
  next heq =>
    cases heq
    rfl

/-- What is read of an end. At the end of a text it may be a condition with an opening
brace after it. -/
theorem classItem_agrees (fl : Flags) (h : Meets cs cs') :
    Agrees ['$'] (classItem fl cs) (classItem fl cs')
      ∨ classItem fl cs = none ∧ ∃ cond rest,
        classItem fl cs' = some (.look cond, '\x7b' :: rest) := by
  cases h with
  | hidden => exact .inl .failed
  | goesOn =>
      cases cs with
      | nil => exact .inl (.beyond _ (List.suffix_refl _))
      | cons c cs =>
          by_cases hc : c = '\\'
          · subst hc
            rcases escape_agrees fl (.goesOn cs) with hagrees
              | ⟨hnone, cond, rest, hsome, -⟩
            · exact .inl hagrees
            · exact .inr ⟨hnone, cond, rest, hsome⟩
          · refine .inl ?_
            rw [List.cons_append, classItem_plain hc, classItem_plain hc]
            exact .read _ (.goesOn cs)

/-- Reading a member takes from the front. -/
theorem classItem_suffix {c : Char} {e : Escape} (h : classItem fl (c :: cs) = some (e, rest)) :
    rest <:+ cs := by
  by_cases hc : c = '\\'
  · subst hc
    exact escape_suffix h
  · rw [classItem_plain hc] at h
    cases h
    exact List.suffix_refl _

/-- So does reading what follows one end of a range. -/
theorem rangeRest_suffix {e : Escape} {members : CharSet}
    (h : rangeRest fl e cs = some (members, rest)) : rest <:+ cs := by
  unfold rangeRest at h
  split_ifs at h with hnil hhyphen
  · obtain ⟨r, hr, hrest⟩ := Option.bind_eq_some_iff.1 h
    obtain ⟨members, -, heq⟩ := Option.map_eq_some_iff.1 hrest
    cases heq
    cases hspace : space fl cs.tail with
    | nil =>
        rw [hspace] at hr
        cases hr
    | cons c after =>
        rw [hspace] at hr
        have hafter : after <:+ cs.tail :=
          (List.suffix_cons c after).trans (hspace ▸ space_suffix fl cs.tail)
        exact (classItem_suffix hr).trans (hafter.trans (List.tail_suffix cs))
  · obtain ⟨members, -, heq⟩ := Option.map_eq_some_iff.1 h
    cases heq
    exact List.suffix_refl _

/-- So does reading a member or a range. -/
theorem classRange_suffix {c : Char} {members : CharSet}
    (h : classRange fl (c :: cs) = some (members, rest)) : rest <:+ cs := by
  rw [classRange_eq] at h
  obtain ⟨r, hr, hrest⟩ := Option.bind_eq_some_iff.1 h
  exact (rangeRest_suffix hrest).trans ((space_suffix fl r.2).trans (classItem_suffix hr))

/-- What is read of the rest of a range. It may end too early alone. -/
theorem rangeRest_agrees (first : Escape) (h : Meets cs cs') :
    Agrees closing (rangeRest fl first cs) (rangeRest fl first cs') := by
  cases h with
  | hidden => exact .failed
  | goesOn =>
      cases cs with
      | nil =>
          cases hclosing : rangeRest fl first ([] ++ closing) with
          | none => exact .failed
          | some r => exact .beyond r.1 (rangeRest_suffix hclosing)
      | cons c cs =>
          rw [List.cons_append]
          unfold rangeRest
          rw [if_neg (List.cons_ne_nil _ _), if_neg (List.cons_ne_nil _ _)]
          rw [isRange_cons_append]
          dsimp only [List.tail]
          split_ifs
          · rcases classItem_agrees fl ((Meets.goesOn cs).space fl) with hagrees
              | ⟨hnone, cond, rest, hsome⟩
            · refine (hagrees.mono (List.suffix_cons _ _)).bind (fun h => ?_) fun hmeets => ?_
              · obtain ⟨members, -, heq⟩ := Option.map_eq_some_iff.1 h
                cases heq
                exact List.suffix_refl _
              · cases rangeTo fl first _ with
                | none => exact .failed
                | some members => exact .read members hmeets
            · -- a condition is no end of a range
              rw [hnone, hsome]
              cases first <;> exact .failed
          · cases first.member? fl with
            | none => exact .failed
            | some members => exact .read members (.goesOn (c :: cs))

/-- A member or a range is read alike of both texts. -/
theorem classRange_agrees (h : Meets cs cs') :
    Agrees closing (classRange fl cs) (classRange fl cs') := by
  rw [classRange_eq, classRange_eq]
  rcases classItem_agrees fl h with hagrees | ⟨hnone, cond, rest, hsome⟩
  · exact (hagrees.mono (List.suffix_cons _ _)).bind
      (fun hrest => (rangeRest_suffix hrest).trans (space_suffix fl _))
      fun hmeets => rangeRest_agrees _ (hmeets.space fl)
  · have hbrace : rangeRest fl (.look cond) (space fl ('\x7b' :: rest)) = none := by
      rw [space_brace]
      rfl
    rw [hnone, hsome]
    dsimp only [Option.bind]
    rw [hbrace]
    exact .failed

-- ==================================================================== named classes

/-- What follows the name of a class. -/
def nameEnd : List Char → Option (List Char)
  | ':' :: ']' :: rest => some rest
  | _ => none

/-- The name of a class, after its first colon and circumflex. -/
def className (fl : Flags) (negated : Bool) (cs : List Char) :
    Option (Option CharSet × List Char) :=
  (nameEnd (cs.dropWhile (· != ':'))).bind fun rest =>
    (CharSet.ascii? (String.ofList (cs.takeWhile (· != ':')))).bind fun members =>
      some (fl.negate? negated (fl.close members), rest)

/-- A class between colons is looked up by the characters before the next colon. -/
theorem asciiClass_named (negated : Bool) (cs : List Char) :
    (match cs.dropWhile (· != ':') with
      | ':' :: ']' :: rest => (CharSet.ascii? (String.ofList (cs.takeWhile (· != ':')))).bind
          fun members => some (fl.negate? negated (fl.close members), rest)
      | _ => none) = className fl negated cs := by
  unfold className
  split
  next heq =>
    rw [heq]
    rfl
  next hnot =>
    have hnone : nameEnd (cs.dropWhile (· != ':')) = none := by
      unfold nameEnd
      split
      next heq => exact absurd heq (hnot _)
      next => rfl
    rw [hnone]
    rfl

/-- A class between colons has a name, with or without a circumflex before it. -/
theorem asciiClass_eq : asciiClass fl cs =
    if cs.head? = some ':' then
      if cs.tail.head? = some '^' then className fl true cs.tail.tail
      else className fl false cs.tail
    else none := by
  unfold asciiClass
  split
  next cs =>
    refine Eq.trans ?_ (if_pos rfl).symm
    by_cases hhead : cs.head? = some '^'
    · obtain ⟨cs, rfl⟩ := List.head?_eq_some_iff.1 hhead
      exact asciiClass_named true cs
    · refine Eq.trans ?_ (if_neg hhead).symm
      split
      next hsplit =>
        split at hsplit
        · exact absurd rfl hhead
        · cases hsplit
          exact asciiClass_named false cs
  next hnot => rw [if_neg fun h => (List.head?_eq_some_iff.1 h).elim hnot]

/-- What closes the pattern starts with a parenthesis, so any other character that comes
first has come before it. -/
theorem head_append_closing {x : Char} (hx : x ≠ ')') (cs : List Char) :
    (cs ++ closing).head? = some x ↔ cs.head? = some x := by
  cases cs with
  | nil => exact iff_of_false (fun h => hx (Option.some.inj h).symm) nofun
  | cons c cs => rfl

/-- The end of a name is found alike, whatever closes the pattern. -/
theorem nameEnd_append (m : Char) (rest : List Char) :
    nameEnd (m :: (rest ++ closing)) = (nameEnd (m :: rest)).map (· ++ closing) := by
  have hnone {after : List Char} (hnot : ¬ (m = ':' ∧ after.head? = some ']')) :
      nameEnd (m :: after) = none := by
    unfold nameEnd
    split
    next heq =>
      cases heq
      exact absurd ⟨rfl, rfl⟩ hnot
    next => rfl
  by_cases hclosed : m = ':' ∧ rest.head? = some ']'
  · obtain ⟨rfl, hhead⟩ := hclosed
    obtain ⟨rest, rfl⟩ := List.head?_eq_some_iff.1 hhead
    rfl
  · rw [hnone hclosed, hnone]
    · rfl
    · exact fun h => hclosed ⟨h.1, (head_append_closing (by decide) rest).1 h.2⟩

/-- A name is read alike, whatever closes the pattern. -/
theorem className_append (fl : Flags) (negated : Bool) (cs : List Char) :
    className fl negated (cs ++ closing)
      = (className fl negated cs).map fun r => (r.1, r.2 ++ closing) := by
  unfold className
  cases hdrop : cs.dropWhile (· != ':') with
  | nil =>
      rw [List.dropWhile_append, hdrop]
      rfl
  | cons m rest =>
      rw [(upTo_append hdrop).1, (upTo_append hdrop).2, nameEnd_append]
      cases nameEnd (m :: rest) with
      | none => rfl
      | some rest =>
          dsimp only [Option.map, Option.bind]
          cases CharSet.ascii? (String.ofList (cs.takeWhile (· != ':'))) <;> rfl

/-- Reading a name takes from the front. -/
theorem className_suffix {negated : Bool} {members : Option CharSet}
    (h : className fl negated cs = some (members, rest)) : rest <:+ cs := by
  unfold className at h
  obtain ⟨after, hend, hname⟩ := Option.bind_eq_some_iff.1 h
  obtain ⟨s, -, heq⟩ := Option.bind_eq_some_iff.1 hname
  cases heq
  unfold nameEnd at hend
  split at hend
  next hdrop =>
    cases hend
    have hsuffix : ':' :: ']' :: rest <:+ cs := hdrop ▸ List.dropWhile_suffix _
    exact (List.suffix_cons _ _).trans ((List.suffix_cons _ _).trans hsuffix)
  next => cases hend

/-- A class between colons is read alike, whatever closes the pattern. -/
theorem asciiClass_append (fl : Flags) (cs : List Char) :
    asciiClass fl (cs ++ closing) = (asciiClass fl cs).map fun r => (r.1, r.2 ++ closing) := by
  rw [asciiClass_eq, asciiClass_eq]
  by_cases hcolon : cs.head? = some ':'
  · obtain ⟨cs, rfl⟩ := List.head?_eq_some_iff.1 hcolon
    refine (if_pos rfl).trans ((?_ : _ = Option.map _ _).trans (congrArg _ (if_pos rfl).symm))
    by_cases hmark : cs.head? = some '^'
    · obtain ⟨cs, rfl⟩ := List.head?_eq_some_iff.1 hmark
      exact className_append fl true cs
    · refine (if_neg (mt (head_append_closing (by decide) cs).1 hmark)).trans ?_
      exact (className_append fl false cs).trans (congrArg _ (if_neg hmark).symm)
  · rw [if_neg (mt (head_append_closing (by decide) cs).1 hcolon), if_neg hcolon]
    rfl

/-- Reading a class between colons takes from the front. -/
theorem asciiClass_suffix {members : Option CharSet} (h : asciiClass fl cs = some (members, rest)) :
    rest <:+ cs := by
  rw [asciiClass_eq] at h
  split_ifs at h
  · exact (className_suffix h).trans ((List.tail_suffix _).trans (List.tail_suffix cs))
  · exact (className_suffix h).trans (List.tail_suffix cs)

end

end CheckGateway.Pattern
