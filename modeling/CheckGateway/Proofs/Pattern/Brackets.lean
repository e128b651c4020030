/-
Classes in brackets are read within the text.

A class ends at a bracket, which is none of the characters that close a pattern, so what
is left open in the text is left open with these after it (`classes_close`). Between the
brackets, then, it does no harm that a range takes everything that follows it.

One induction on the fuel says all of `bracket` and `classBody` (`fueled_classes`): they
read within the text, and a unit of fuel for each character is enough.
-/
import CheckGateway.Proofs.Pattern.Ranges

namespace CheckGateway.Pattern

section

variable {fl : Flags}

-- ========================================================================== classes

/-- Another hyphen at the start of a class. -/
def takeHyphen (items : List ClassPiece) (c : Char) : Option (List ClassPiece) :=
  if c = '-' then some (⟨.char '-', 0⟩ :: items) else none

theorem leadingHyphens_eq (n : Nat) (items : List ClassPiece) (cs : List Char) :
    leadingHyphens fl n items cs = takeRun fl takeHyphen n items cs := by
  induction n generalizing items cs with
  | zero =>
      unfold leadingHyphens
      rfl
  | succ n ih =>
      cases cs with
      | nil =>
          unfold leadingHyphens
          rfl
      | cons c cs =>
          unfold takeRun takeHyphen
          by_cases hc : c = '-'
          · subst hc
            exact ih _ _
          · rw [if_neg hc]
            unfold leadingHyphens
            split
            next heq =>
              cases heq
              exact absurd rfl hc
            next => rfl

section

variable (fl) (inner : List Char → Option (ClassPiece × List Char))
  (body : List ClassPiece → List Char → Option (ClassPiece × List Char))
  (next : Option (ClassPiece × SetOp) → List ClassPiece → List Char →
    Option (ClassPiece × List Char))

/-- What follows the hyphens at the start. A bracket there stands for itself. -/
def afterHyphens (items : List ClassPiece) (cs : List Char) : Option (ClassPiece × List Char) :=
  match items with
  | [] => if cs.head? = some ']' then body [⟨.char ']', 0⟩] (space fl cs.tail) else body [] cs
  | items => body items cs

/-- What follows the bracket and the circumflex of a class. -/
def bracketItems (negated : Bool) (cs : List Char) : Option (ClassPiece × List Char) :=
  (some (takeRun fl takeHyphen cs.length [] cs)).bind fun r =>
    (afterHyphens fl body r.1 r.2).bind fun r =>
      (fl.negate? negated (fl.close r.1.set)).bind fun members =>
        some (⟨members, r.1.height + 1⟩, r.2)

theorem bracketItems_eq (negated : Bool) (cs : List Char) :
    (do
      let (items, cs) := leadingHyphens fl cs.length [] cs
      let (items, cs) := match items, cs with
        | [], ']' :: cs => ([⟨.char ']', 0⟩], space fl cs)
        | items, cs => (items, cs)
      let (body, rest) ← body items cs
      let s ← fl.negate? negated (fl.close body.set)
      return (⟨s, body.height + 1⟩, rest)) = bracketItems fl body negated cs := by
  unfold bracketItems
  rw [leadingHyphens_eq]
  obtain ⟨items, cs⟩ := takeRun fl takeHyphen cs.length [] cs
  dsimp only [Option.bind]
  cases items with
  | cons item items => rfl
  | nil =>
      by_cases hhead : cs.head? = some ']'
      · obtain ⟨cs, rfl⟩ := List.head?_eq_some_iff.1 hhead
        rfl
      · unfold afterHyphens
        dsimp only
        rw [if_neg hhead]
        split
        · exact absurd rfl hhead
        · rfl

/-- A bracket starts with a circumflex or with its first member. -/
theorem bracket_succ (n : Nat) (cs : List Char) :
    bracket fl (n + 1) cs =
      if (space fl cs).head? = some '^' then
        bracketItems fl (classBody fl n none) true (space fl (space fl cs).tail)
      else bracketItems fl (classBody fl n none) false (space fl cs) := by
  rw [bracket]
  generalize space fl cs = text
  by_cases hhead : text.head? = some '^'
  · obtain ⟨text, rfl⟩ := List.head?_eq_some_iff.1 hhead
    refine Eq.trans ?_ (if_pos rfl).symm
    exact bracketItems_eq fl (classBody fl n none) true (space fl text)
  · rw [if_neg hhead]
    split
    next heq =>
      split at heq
      · exact absurd rfl hhead
      · cases heq
        exact bracketItems_eq fl (classBody fl n none) false text

/-- The operator that a mark written twice stands for. -/
def operatorOf? : Char → Option SetOp
  | '&' => some .inter
  | '-' => some .diff
  | '~' => some .symmDiff
  | _ => none

/-- A character or a range, and what follows. -/
def rangeMember (left : Option (ClassPiece × SetOp)) (items : List ClassPiece) (c : Char)
    (rest : List Char) : Option (ClassPiece × List Char) :=
  (classRange fl (c :: rest)).bind fun r => next left (⟨r.1, 0⟩ :: items) r.2

/-- A class in a class, and what follows. -/
def classMember (left : Option (ClassPiece × SetOp)) (items : List ClassPiece)
    (rest : List Char) : Option (ClassPiece × List Char) :=
  match asciiClass fl rest with
  | some (members?, rest) => members?.bind fun members => next left (⟨members, 0⟩ :: items) rest
  | none => (inner rest).bind fun r => next left (r.1 :: items) r.2

/-- What is read in brackets from a character that counts. -/
def member (left : Option (ClassPiece × SetOp)) (items : List ClassPiece) (c : Char)
    (rest : List Char) : Option (ClassPiece × List Char) :=
  if c = ']' then some (applyOp fl left (unite items), rest)
  else if c = '[' then classMember fl inner next left items rest
  else match operatorOf? c with
    | some op =>
        if rest.head? = some c then next (some (applyOp fl left (unite items), op)) [] rest.tail
        else rangeMember fl next left items c rest
    | none => rangeMember fl next left items c rest

/-- What is read in brackets from there on. -/
def members (left : Option (ClassPiece × SetOp)) (items : List ClassPiece) :
    List Char → Option (ClassPiece × List Char)
  | [] => none
  | c :: rest => member fl inner next left items c rest

/-- The inside of a bracket goes on member by member. -/
theorem classBody_succ (n : Nat) (left : Option (ClassPiece × SetOp)) (items : List ClassPiece)
    (cs : List Char) :
    classBody fl (n + 1) left items cs
      = members fl (bracket fl n) (classBody fl n) left items (space fl cs) := by
  rw [classBody]
  generalize space fl cs = text
  split
  · rfl
  · rfl
  · rfl
  · rfl
  · rfl
  next rest =>
    show _ = classMember fl (bracket fl n) (classBody fl n) left items rest
    unfold classMember
    cases asciiClass fl rest <;> rfl
  next hnil hclose hinter hdiff hsymm hopen =>
    cases text with
    | nil => exact absurd rfl hnil
    | cons c rest =>
        have hrange : member fl (bracket fl n) (classBody fl n) left items c rest
            = rangeMember fl (classBody fl n) left items c rest := by
          unfold member
          rw [if_neg fun h => hclose rest (congrArg (· :: rest) h),
            if_neg fun h => hopen rest (congrArg (· :: rest) h)]
          split
          next op hop =>
            refine if_neg fun hhead => ?_
            obtain ⟨rest, rfl⟩ := List.head?_eq_some_iff.1 hhead
            unfold operatorOf? at hop
            split at hop
            · exact hinter rest rfl
            · exact hdiff rest rfl
            · exact hsymm rest rfl
            · cases hop
          next => rfl
        exact hrange.symm

end

end

-- ========================================================================== closing

section

variable {α β : Type} {b : Nat} {cs rest : List Char} {a : α} {fl : Flags}
  {inner inner' f f' g g' : List Char → Option (α × List Char)}

/-- What is read ends at a bracket. -/
def Closes (f : List Char → Option (α × List Char)) : Prop :=
  ∀ cs rest a, f cs = some (a, rest) → ']' :: rest <:+ cs

theorem Closes.suffix (hf : Closes f) (h : f cs = some (a, rest)) : rest <:+ cs :=
  (List.suffix_cons _ _).trans (hf cs rest a h)

theorem Closes.length_lt (hf : Closes f) (h : f cs = some (a, rest)) : rest.length < cs.length :=
  (hf cs rest a h).length_le

/-- No bracket is among the closing characters. -/
theorem Closes.none_of_suffix (hf : Closes f) (h : cs <:+ closing) : f cs = none := by
  cases hread : f cs with
  | none => rfl
  | some r =>
      have hmem : ']' ∈ closing := h.mem ((hf cs r.2 r.1 hread).mem List.mem_cons_self)
      exact absurd hmem (by decide)

end

section

variable {b : Nat} {fl : Flags} {inner inner' : List Char → Option (ClassPiece × List Char)}
  {body body' : List ClassPiece → List Char → Option (ClassPiece × List Char)}
  {next next' : Option (ClassPiece × SetOp) → List ClassPiece → List Char →
    Option (ClassPiece × List Char)}

/-- Hyphens in front are members, and then the bracket goes on to its end. -/
theorem afterHyphens_closes (hbody : ∀ items, Closes (body items)) (items : List ClassPiece) :
    Closes (afterHyphens fl body items) := by
  intro cs rest p h
  unfold afterHyphens at h
  split at h
  · split_ifs at h
    · exact (hbody _ _ rest p h).trans ((space_suffix fl cs.tail).trans (List.tail_suffix cs))
    · exact hbody _ cs rest p h
  · exact hbody _ cs rest p h

/-- A bracket is read up to where it is closed. -/
theorem bracketItems_closes (hbody : ∀ items, Closes (body items)) (negated : Bool) :
    Closes (bracketItems fl body negated) := by
  intro cs rest p h
  obtain ⟨r, hr, hafter⟩ := Option.bind_eq_some_iff.1 h
  obtain ⟨r', hr', hset⟩ := Option.bind_eq_some_iff.1 hafter
  obtain ⟨members, -, heq⟩ := Option.bind_eq_some_iff.1 hset
  cases hr
  cases heq
  exact (afterHyphens_closes hbody _ _ r'.2 r'.1 hr').trans (takeRun_suffix _ cs)

/-- After a member or a range the bracket goes on to its end. -/
theorem rangeMember_closes (hnext : ∀ left items, Closes (next left items))
    {left : Option (ClassPiece × SetOp)} {items : List ClassPiece} {c : Char}
    {cs rest : List Char} {p : ClassPiece}
    (h : rangeMember fl next left items c cs = some (p, rest)) : ']' :: rest <:+ c :: cs := by
  obtain ⟨r, hr, hrest⟩ := Option.bind_eq_some_iff.1 h
  exact (hnext _ _ _ rest p hrest).trans ((classRange_suffix hr).trans (List.suffix_cons c cs))

/-- So it does after a class within it. -/
theorem classMember_closes (hinner : Closes inner) (hnext : ∀ left items, Closes (next left items))
    (left : Option (ClassPiece × SetOp)) (items : List ClassPiece) :
    Closes (classMember fl inner next left items) := by
  intro cs rest p h
  unfold classMember at h
  split at h
  next heq =>
    obtain ⟨members, -, hrest⟩ := Option.bind_eq_some_iff.1 h
    exact (hnext _ _ _ rest p hrest).trans (asciiClass_suffix heq)
  next =>
    obtain ⟨r, hr, hrest⟩ := Option.bind_eq_some_iff.1 h
    exact (hnext _ _ _ rest p hrest).trans (hinner.suffix hr)

/-- So it does after whatever is a member. -/
theorem member_closes (hinner : Closes inner) (hnext : ∀ left items, Closes (next left items))
    {left : Option (ClassPiece × SetOp)} {items : List ClassPiece} {c : Char}
    {cs rest : List Char} {p : ClassPiece}
    (h : member fl inner next left items c cs = some (p, rest)) : ']' :: rest <:+ c :: cs := by
  unfold member at h
  by_cases hclose : c = ']'
  · rw [if_pos hclose] at h
    cases h
    subst hclose
    exact List.suffix_refl _
  · rw [if_neg hclose] at h
    by_cases hopen : c = '['
    · rw [if_pos hopen] at h
      exact (classMember_closes hinner hnext left items cs rest p h).trans (List.suffix_cons c cs)
    · rw [if_neg hopen] at h
      split at h
      · split at h
        · exact (hnext _ _ _ rest p h).trans ((List.tail_suffix cs).trans (List.suffix_cons c cs))
        · exact rangeMember_closes hnext h
      · exact rangeMember_closes hnext h

/-- Brackets within brackets are closed one by one. -/
theorem classes_close (fl : Flags) (n : Nat) :
    Closes (bracket fl n) ∧ ∀ left items, Closes (classBody fl n left items) := by
  induction n with
  | zero =>
      constructor
      · intro cs rest p h
        rw [bracket] at h
        cases h
      · intro left items cs rest p h
        rw [classBody] at h
        cases h
  | succ n ih =>
      constructor
      · intro cs rest p h
        rw [bracket_succ] at h
        have hspace := space_suffix fl cs
        split_ifs at h
        · refine (bracketItems_closes (ih.2 none) true _ rest p h).trans ?_
          exact (space_suffix fl _).trans ((List.tail_suffix _).trans hspace)
        · exact (bracketItems_closes (ih.2 none) false _ rest p h).trans hspace
      · intro left items cs rest p h
        rw [classBody_succ] at h
        have hspace := space_suffix fl cs
        cases htext : space fl cs with
        | nil =>
            rw [htext] at h
            cases h
        | cons c text =>
            rw [htext] at h hspace
            exact (member_closes ih.1 ih.2 h).trans hspace

-- ============================================================================= fuel

theorem classRange_agrees_cons {cs cs' : List Char} (c : Char) (h : Meets cs cs') :
    Agrees closing (classRange fl (c :: cs)) (classRange fl (c :: cs')) := by
  cases h with
  | goesOn => exact classRange_agrees (.goesOn (c :: cs))
  | hidden =>
      cases hrange : classRange fl [c] with
      | none => exact .failed
      | some r =>
          have hrest : r.2 = [] := List.suffix_nil.1 (classRange_suffix hrange)
          rw [← Prod.eta r, hrest]
          exact .read r.1 .hidden

/-- What is read alone of the closing characters must not go on within a bracket. -/
theorem Agrees.bindClosing {α β : Type} {left : List Char} {o o' : Option (α × List Char)}
    {k : α × List Char → Option (β × List Char)} (h : Agrees closing o o')
    (hnone : ∀ a rest, rest <:+ closing → k (a, rest) = none)
    (hk : ∀ {a rest rest'}, Meets rest rest' → Agrees left (k (a, rest)) (k (a, rest'))) :
    Agrees left (o.bind k) (o'.bind k) := by
  cases h with
  | read a hmeets => exact hk hmeets
  | failed => exact .failed
  | @beyond a rest hrest =>
      show Agrees left none (k (a, rest))
      rw [hnone a rest hrest]
      exact .failed

section

variable {α β : Type} {f f' g g' h h' : List Char → Option (α × List Char)}

/-- What closes takes a character at least. -/
theorem Fueled.bindClosed {k k' : α × List Char → Option (β × List Char)} (hf : Fueled b f f')
    (hk : ∀ a, Fueled (b + 1) (fun rest => k (a, rest)) fun rest => k' (a, rest))
    (hcloses : ∀ a, Closes fun rest => k (a, rest)) :
    Fueled (b + 1) (fun cs => (f cs).bind k) fun cs => (f' cs).bind k' := by
  refine ⟨hf.toLocal.bind fun a => (hk a).toLocal, fun {cs rest _} h hlt => ?_⟩
  obtain ⟨⟨a, middle⟩, hfirst, hsecond⟩ := Option.bind_eq_some_iff.1 h
  have hmiddle := (hf.suffix hfirst).length_le
  have hrest := (hcloses a).length_lt hsecond
  rw [hf.carries hfirst (by omega)]
  exact (hk a).carries hsecond (by omega)

/-- Whether the name of a class comes next does not depend on what closes the text. -/
theorem Local.named {g : Option CharSet → List Char → Option (α × List Char)}
    (hg : ∀ members, Local (g members)) (hh : Local h) :
    Local fun cs => match asciiClass fl cs with
      | some (members, rest) => g members rest
      | none => h cs := by
  constructor
  · intro cs rest a heq
    split at heq
    next hclass => exact ((hg _).suffix heq).trans (asciiClass_suffix hclass)
    next => exact hh.suffix heq
  · intro cs cs' hmeets
    cases hmeets with
    | hidden => exact hh.agrees .hidden
    | goesOn =>
        rw [asciiClass_append]
        cases asciiClass fl cs with
        | none => exact hh.agrees (.goesOn cs)
        | some r => exact (hg r.1).agrees (.goesOn r.2)

theorem Fueled.named {g g' : Option CharSet → List Char → Option (α × List Char)}
    (hg : ∀ members, Fueled b (g members) (g' members)) (hh : Fueled b h h') :
    Fueled b
      (fun cs => match asciiClass fl cs with
        | some (members, rest) => g members rest
        | none => h cs)
      fun cs => match asciiClass fl cs with
        | some (members, rest) => g' members rest
        | none => h' cs := by
  refine ⟨.named (fun members => (hg members).toLocal) hh.toLocal, fun {cs rest a} heq hlt => ?_⟩
  split at heq
  next hclass =>
    have hle := (asciiClass_suffix hclass).length_le
    exact (hg _).carries heq (by omega)
  next => exact hh.carries heq hlt

end

/-- What follows a range reads nothing of the closing characters. -/
theorem fueled_rangeMember (fl : Flags)
    (hnext : ∀ left items, Fueled b (next left items) (next' left items))
    (hcloses : ∀ left items, Closes (next left items))
    (left : Option (ClassPiece × SetOp)) (items : List ClassPiece) (c : Char) :
    Fueled b (rangeMember fl next left items c) (rangeMember fl next' left items c) := by
  refine ⟨⟨fun h => ?_, fun h => ?_⟩, fun {cs rest p} h hlt => ?_⟩
  · obtain ⟨r, hr, hrest⟩ := Option.bind_eq_some_iff.1 h
    exact ((hnext _ _).suffix hrest).trans (classRange_suffix hr)
  · exact (classRange_agrees_cons c h).bindClosing (fun _ _ h => (hcloses _ _).none_of_suffix h)
      fun hmeets => (hnext _ _).agrees hmeets
  · obtain ⟨r, hr, hrest⟩ := Option.bind_eq_some_iff.1 h
    have hle := (classRange_suffix hr).length_le
    unfold rangeMember
    rw [hr]
    exact (hnext _ _).carries hrest (by omega)

/-- A class in a class is followed by a character at least. -/
theorem fueled_classMember (hinner : Fueled b inner inner')
    (hnext : ∀ left items, Fueled (b + 1) (next left items) (next' left items))
    (hcloses : ∀ left items, Closes (next left items))
    (left : Option (ClassPiece × SetOp)) (items : List ClassPiece) :
    Fueled (b + 1) (classMember fl inner next left items)
      (classMember fl inner' next' left items) :=
  .named (fun members? => .given members? fun _ => hnext _ _)
    (.bindClosed hinner (fun p => hnext left (p :: items)) fun p => hcloses left (p :: items))

/-- A member takes a character, so less fuel is needed after it. -/
theorem fueled_member (hinner : Fueled b inner inner')
    (hnext : ∀ left items, Fueled (b + 1) (next left items) (next' left items))
    (hcloses : ∀ left items, Closes (next left items))
    (left : Option (ClassPiece × SetOp)) (items : List ClassPiece) (c : Char) :
    Fueled (b + 1) (member fl inner next left items c) (member fl inner' next' left items c) := by
  have hrange := fueled_rangeMember fl hnext hcloses left items c
  unfold member
  by_cases hclose : c = ']'
  · simp only [if_pos hclose]
    exact (Local.done _).fueled
  · simp only [if_neg hclose]
    by_cases hopen : c = '['
    · simp only [if_pos hopen]
      exact fueled_classMember hinner hnext hcloses left items
    · simp only [if_neg hopen]
      cases hop : operatorOf? c with
      | none => exact hrange
      | some op =>
          have hc : c ≠ ')' := by
            rintro rfl
            cases hop
          exact .byHead c hc (hnext _ _) hrange

/-- Hyphens in front take no fuel. -/
theorem fueled_afterHyphens (hbody : ∀ items, Fueled b (body items) (body' items))
    (items : List ClassPiece) :
    Fueled b (afterHyphens fl body items) (afterHyphens fl body' items) := by
  cases items with
  | cons item items => exact hbody (item :: items)
  | nil => exact .byHead ']' (by decide) ((hbody _).spaced fl) (hbody [])

/-- Nor does the start of a bracket. -/
theorem fueled_bracketItems (fl : Flags)
    (hbody : ∀ items, Fueled b (body items) (body' items))
    (negated : Bool) :
    Fueled b (bracketItems fl body negated) (bracketItems fl body' negated) := by
  have hhyphens : Local fun cs => some (takeRun fl takeHyphen cs.length [] cs) :=
    local_takeRun fl (fun _ => rfl) []
  refine hhyphens.fueled.bind fun items => (fueled_afterHyphens hbody items).bind fun p => ?_
  exact (Local.given (fl.negate? negated (fl.close p.set)) fun members =>
    .done (ClassPiece.mk members (p.height + 1))).fueled

theorem fueled_bracket_succ (n m : Nat)
    (h : ∀ items, Fueled b (classBody fl n none items) (classBody fl m none items)) :
    Fueled b (bracket fl (n + 1)) (bracket fl (m + 1)) := by
  have hitems := fueled_bracketItems fl h
  rw [funext (bracket_succ fl n), funext (bracket_succ fl m)]
  exact (Fueled.byHead '^' (by decide) ((hitems true).spaced fl) (hitems false)).spaced fl

theorem fueled_classBody_succ (n m : Nat) (hinner : Fueled m (bracket fl n) (bracket fl m))
    (hbody : ∀ left items, Fueled (m + 1) (classBody fl n left items) (classBody fl m left items))
    (left : Option (ClassPiece × SetOp)) (items : List ClassPiece) :
    Fueled (m + 2) (classBody fl (n + 1) left items) (classBody fl (m + 1) left items) := by
  have hcloses := (classes_close fl n).2
  rw [funext (classBody_succ fl n left items), funext (classBody_succ fl m left items)]
  have hmembers : Fueled (m + 2) (members fl (bracket fl n) (classBody fl n) left items)
      (members fl (bracket fl m) (classBody fl m) left items) :=
    .head rfl fun c => fueled_member hinner hbody hcloses left items c
  exact hmembers.spaced fl

/-- A class takes a unit of fuel for each character and one more. Its items need none
beside. -/
theorem fueled_classes (fl : Flags) (n m : Nat) :
    Fueled m (bracket fl n) (bracket fl m)
      ∧ ∀ left items, Fueled (m + 1) (classBody fl n left items) (classBody fl m left items) := by
  induction n generalizing m with
  | zero =>
      have hbracket (cs : List Char) : bracket fl 0 cs = none := by rw [bracket]
      have hbody (left : Option (ClassPiece × SetOp)) (items : List ClassPiece) (cs : List Char) :
          classBody fl 0 left items cs = none := by rw [classBody]
      refine ⟨?_, fun left items => ?_⟩
      · rw [funext hbracket]
        exact ⟨Local.fail, nofun⟩
      · rw [funext (hbody left items)]
        exact ⟨Local.fail, nofun⟩
  | succ n ih =>
      have hbracket (m : Nat) : Fueled (m + 1) (bracket fl (n + 1)) (bracket fl (m + 1)) :=
        fueled_bracket_succ n m ((ih m).2 none)
      have hbody (m : Nat) := fueled_classBody_succ n m (ih m).1 (ih m).2
      cases m with
      | zero =>
          refine ⟨(hbracket 0).toLocal.unfueled, fun left items =>
            ⟨(hbody 0 left items).toLocal, fun {cs rest p} h hlt => ?_⟩⟩
          have hlength := Closes.length_lt ((classes_close fl (n + 1)).2 left items) h
          omega
      | succ m => exact ⟨hbracket m, hbody m⟩

/-- A bracket that is short needs little fuel. -/
theorem fueled_bracket (fl : Flags) (n m : Nat) : Fueled m (bracket fl n) (bracket fl m) :=
  (fueled_classes fl n m).1

end

end CheckGateway.Pattern
