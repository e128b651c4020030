/-
Patterns are read within the text.

`reading` is `alternatives` with what is left of the text apart. It stops at the end of
the text or at a closing parenthesis (`upToClosing`), and otherwise goes on from the first
character that counts (`turn`). That a text is read within, and with no more fuel than it
has characters, goes from what `turn` goes on with to `turn` itself (`fueled_turn`), and so
by one induction to all of it (`fueled_reading`).
-/
import CheckGateway.Proofs.Pattern.Brackets

namespace CheckGateway.Pattern

-- =========================================================================== reading

/-- What is read, and the names of groups used so far. -/
abbrev Read := Piece × List (List Char)

/-- How reading goes on, given the flags, the names, the alternatives before and the pieces
since. -/
abbrev Reader :=
  Flags → List (List Char) → List Piece → List Piece → List Char → Option (Read × List Char)

/-- What is read, and what is left of the text. -/
def readView (r : Piece × List (List Char) × List Char) : Read × List Char :=
  ((r.1, r.2.1), r.2.2)

/-- What is read up to the end of the group or of the text. -/
def reading (fuel : Nat) : Reader := fun fl names done current cs =>
  (alternatives fuel fl names done current cs).map readView

section

variable (fl : Flags) (classes : List Char → Option (ClassPiece × List Char)) (next : Reader)
  (names : List (List Char)) (done current : List Piece)

/-- The piece that a character stands for by itself. -/
def single? (c : Char) : Option Piece :=
  match c with
  | '.' => anyChar? fl
  | '^' => some (.ofLook fl.startLook)
  | '$' => some (.ofLook fl.endLook)
  | c => Literal.piece? fl ⟨c, false⟩

/-- The bounds that a mark after a piece stands for. -/
def bounds? : Char → Option (Nat × Option Nat)
  | '?' => some (0, some 1)
  | '*' => some (0, none)
  | '+' => some (1, none)
  | _ => none

/-- A repetition of the last piece, and what follows. -/
def repetition (bounds : Nat × Option Nat) (rest : List Char) : Option (Read × List Char) :=
  (some (lazyMark rest)).bind fun r =>
    (repeatLast bounds.1 bounds.2 (r.1 == fl.swapGreed) current).bind fun current =>
      next fl names done current r.2

/-- The names with that of a group, which must be new. -/
def addName (names : List (List Char)) : Option (List Char) → Option (List (List Char))
  | none => some names
  | some n => if names.contains n then none else some (n :: names)

/-- The piece that changes flags and matches nothing. -/
def flagPiece : Piece := { regex := .empty, plan := .empty, repeatable := false }

/-- A group as a piece. -/
def groupPiece (captures : Bool) (body : Piece) : Piece :=
  ⟨body.regex, if captures then .capture body.plan else body.plan, body.height + 1, true⟩

/-- The closing parenthesis of a group, and what follows. -/
def closeGroup (piece : Piece) (names : List (List Char)) :
    List Char → Option (Read × List Char)
  | [] => none
  | c :: rest => if c = ')' then next fl names done (piece :: current) rest else none

/-- A change of flags or a group, and what follows. -/
def group (rest : List Char) : Option (Read × List Char) :=
  ((opening fl rest).map Opening.view).bind fun r =>
    match r.1 with
    | .inl changed => next changed names done (flagPiece :: current) r.2
    | .inr (inner, captures, name) =>
        (addName names name).bind fun names =>
          (next inner names [] [] r.2).bind fun r =>
            closeGroup fl next done current (groupPiece captures r.1.1) r.1.2 r.2

/-- A class in brackets as a piece. -/
def classPiece (p : ClassPiece) : Piece := { Piece.ofSet p.set with height := p.height }

/-- What is read from a character that counts. -/
def turn (c : Char) (rest : List Char) : Option (Read × List Char) :=
  if c = '|' then next fl names (sequencePiece current :: done) [] rest
  else if c = '(' then group fl next names done current rest
  else if c = '[' then
    (classes rest).bind fun r => next fl names done (classPiece r.1 :: current) r.2
  else if c = '\x7b' then
    ((counts fl rest).map boundsView).bind fun r =>
      repetition fl next names done current r.1 (space fl r.2)
  else if c = '\\' then
    (escape fl rest).bind fun r =>
      (r.1.piece? fl).bind fun piece => next fl names done (piece :: current) r.2
  else match bounds? c with
    | some bounds => repetition fl next names done current bounds rest
    | none => (single? fl c).bind fun piece => next fl names done (piece :: current) rest

end

/-- What is read ends where the text does or at a closing parenthesis. -/
def upToClosing {α : Type} (a : α) (f : Char → List Char → Option (α × List Char)) :
    List Char → Option (α × List Char)
  | [] => some (a, [])
  | c :: rest => if c = ')' then some (a, c :: rest) else f c rest

section

variable {fl : Flags} {names : List (List Char)} {done current : List Piece} {cs : List Char}
  {fuel : Nat}

theorem repetition_eq (min : Nat) (max : Option Nat) (rest : List Char) :
    Option.map readView (do
      let (isLazy, rest) := lazyMark rest
      let current ← repeatLast min max (isLazy == fl.swapGreed) current
      alternatives fuel fl names done current rest)
      = repetition fl (reading fuel) names done current (min, max) rest := by
  unfold repetition
  dsimp only [Option.bind, bind]
  cases repeatLast min max ((lazyMark rest).1 == fl.swapGreed) current <;> rfl

theorem closeGroup_eq (piece : Piece) (rest : List Char) :
    Option.map readView (match rest with
      | ')' :: rest => alternatives fuel fl names done (piece :: current) rest
      | _ => none) = closeGroup fl (reading fuel) done current piece names rest := by
  cases rest with
  | nil => rfl
  | cons c rest =>
      unfold closeGroup
      dsimp only
      split_ifs with hc
      · subst hc
        rfl
      · split
        next heq =>
          cases heq
          exact absurd rfl hc
        · rfl

/-- What stands in a group, and what follows. -/
theorem groupBody_eq (inner : Flags) (captures : Bool) (rest : List Char) :
    Option.map readView (do
      let (body, names, rest) ← alternatives fuel inner names [] [] rest
      match rest with
      | ')' :: rest =>
          alternatives fuel fl names done (groupPiece captures body :: current) rest
      | _ => none)
      = (reading fuel inner names [] [] rest).bind fun r =>
          closeGroup fl (reading fuel) done current (groupPiece captures r.1.1) r.1.2 r.2 := by
  unfold reading
  dsimp only [bind, Option.bind]
  cases alternatives fuel inner names [] [] rest with
  | none => rfl
  | some r => exact closeGroup_eq (groupPiece captures r.1) r.2.2

/-- The name of a group, then what stands in it. -/
theorem groupName_eq (inner : Flags) (captures : Bool) (name : Option (List Char))
    (rest : List Char) :
    Option.map readView (do
      let names ← match name with
        | none => some names
        | some n => if names.contains n then none else some (n :: names)
      let (body, names, rest) ← alternatives fuel inner names [] [] rest
      match rest with
      | ')' :: rest =>
          alternatives fuel fl names done (groupPiece captures body :: current) rest
      | _ => none)
      = (addName names name).bind fun names =>
          (reading fuel inner names [] [] rest).bind fun r =>
            closeGroup fl (reading fuel) done current (groupPiece captures r.1.1) r.1.2 r.2 := by
  cases name with
  | none => exact groupBody_eq inner captures rest
  | some n =>
      by_cases hused : names.contains n = true
      · rw [show addName names (some n) = none from if_pos hused]
        exact congrArg (Option.map readView) (if_pos hused)
      · rw [show addName names (some n) = some (n :: names) from if_neg hused]
        exact (congrArg (Option.map readView) (if_neg hused)).trans
          (groupBody_eq inner captures rest)

/-- A character that stands for itself. -/
theorem turn_plain {classes : List Char → Option (ClassPiece × List Char)} {next : Reader}
    {c : Char} {rest : List Char} (halt : c ≠ '|') (hopen : c ≠ '(') (hclass : c ≠ '[')
    (hopt : c ≠ '?') (hstar : c ≠ '*') (hplus : c ≠ '+') (hcount : c ≠ '\x7b') (hescape : c ≠ '\\')
    (hdot : c ≠ '.') (hstart : c ≠ '^') (hend : c ≠ '$') :
    turn fl classes next names done current c rest
      = (Literal.piece? fl ⟨c, false⟩).bind fun piece =>
          next fl names done (piece :: current) rest := by
  have hbounds : bounds? c = none := by
    unfold bounds?
    split
    · exact absurd rfl hopt
    · exact absurd rfl hstar
    · exact absurd rfl hplus
    · rfl
  have hsingle : single? fl c = Literal.piece? fl ⟨c, false⟩ := by
    unfold single?
    split
    · exact absurd rfl hdot
    · exact absurd rfl hstart
    · exact absurd rfl hend
    · rfl
  unfold turn
  rw [if_neg halt, if_neg hopen, if_neg hclass, if_neg hcount, if_neg hescape, hbounds]
  dsimp only
  rw [hsingle]

theorem reading_succ : reading (fuel + 1) fl names done current
    = fun cs => upToClosing (choicePiece (sequencePiece current :: done), names)
        (turn fl (bracket fl fuel) (reading fuel) names done current) (space fl cs) := by
  funext cs
  show Option.map readView (alternatives (fuel + 1) fl names done current cs) = _
  rw [alternatives]
  generalize space fl cs = text
  split
  · rfl
  · rfl
  · rfl
  next rest =>
    show _ = group fl (reading fuel) names done current rest
    unfold group
    cases opening fl rest with
    | none => rfl
    | some o =>
        cases o with
        | flags changed rest => rfl
        | group inner captures name rest => exact groupName_eq inner captures name rest
  next rest =>
    show _ = (bracket fl fuel rest).bind fun r =>
      reading fuel fl names done (classPiece r.1 :: current) r.2
    cases bracket fl fuel rest <;> rfl
  · exact repetition_eq ..
  · exact repetition_eq ..
  · exact repetition_eq ..
  next rest =>
    show _ = ((counts fl rest).map boundsView).bind fun r =>
      repetition fl (reading fuel) names done current r.1 (space fl r.2)
    cases counts fl rest with
    | none => rfl
    | some r => exact repetition_eq ..
  next rest =>
    show _ = (escape fl rest).bind fun r => (r.1.piece? fl).bind fun piece =>
      reading fuel fl names done (piece :: current) r.2
    cases escape fl rest with
    | none => rfl
    | some r =>
        dsimp only [bind, Option.bind]
        cases r.1.piece? fl <;> rfl
  next rest =>
    show _ = (anyChar? fl).bind fun piece => reading fuel fl names done (piece :: current) rest
    cases anyChar? fl <;> rfl
  · rfl
  · rfl
  next c rest hclose halt hopen hclass hopt hstar hplus hcount hescape hdot hstart hend =>
    refine Eq.trans ?_ (if_neg hclose).symm
    rw [turn_plain halt hopen hclass hopt hstar hplus hcount hescape hdot hstart hend]
    cases Literal.piece? fl ⟨c, false⟩ <;> rfl

end

-- ============================================================================= fuel

section

variable {α : Type} {b : Nat} {fl : Flags} {names : List (List Char)}
  {done current : List Piece} {classes classes' : List Char → Option (ClassPiece × List Char)}
  {next next' : Reader}

theorem Fueled.mono {b' : Nat} {f f' : List Char → Option (α × List Char)} (hf : Fueled b' f f')
    (hle : b ≤ b') : Fueled b f f' :=
  ⟨hf.toLocal, fun h hlt => hf.carries h (by omega)⟩

/-- What ends at a closing parenthesis ends where the text does. -/
theorem local_upToClosing (a : α) {f : Char → List Char → Option (α × List Char)}
    (hf : ∀ c, Local (f c)) : Local (upToClosing a f) := by
  constructor
  · intro cs rest d h
    cases cs with
    | nil =>
        cases h
        exact List.suffix_refl _
    | cons c cs =>
        unfold upToClosing at h
        dsimp only at h
        split_ifs at h
        · cases h
          exact List.suffix_refl _
        · exact ((hf c).suffix h).trans (List.suffix_cons c cs)
  · intro cs cs' h
    cases h with
    | hidden => exact .read a .hidden
    | goesOn =>
        cases cs with
        | nil => exact .read a (.goesOn [])
        | cons c cs =>
            rw [List.cons_append]
            unfold upToClosing
            dsimp only
            split_ifs
            · exact .read a (.goesOn (c :: cs))
            · exact (hf c).agrees (.goesOn cs)

theorem fueled_upToClosing (a : α) {f f' : Char → List Char → Option (α × List Char)}
    (hf : ∀ c, Fueled b (f c) (f' c)) : Fueled (b + 1) (upToClosing a f) (upToClosing a f') := by
  refine ⟨local_upToClosing a fun c => (hf c).toLocal, fun {cs rest d} h hlt => ?_⟩
  cases cs with
  | nil => exact h
  | cons c cs =>
      unfold upToClosing at h ⊢
      dsimp only at h ⊢
      rw [List.length_cons] at hlt
      split_ifs at h ⊢
      · exact h
      · exact (hf c).carries h (by omega)

/-- What reading goes on with takes no more fuel. -/
def Continues (b : Nat) (next next' : Reader) : Prop :=
  ∀ fl names done current, Fueled b (next fl names done current) (next' fl names done current)

theorem fueled_repetition (hnext : Continues b next next') (bounds : Nat × Option Nat) :
    Fueled b (repetition fl next names done current bounds)
      (repetition fl next' names done current bounds) :=
  local_lazyMark.fueled.bind fun isLazy =>
    .given (repeatLast bounds.1 bounds.2 (isLazy == fl.swapGreed) current) fun current =>
      hnext fl names done current

theorem fueled_closeGroup (hnext : Continues b next next') (piece : Piece) :
    Fueled b (closeGroup fl next done current piece names)
      (closeGroup fl next' done current piece names) := by
  refine .mono (.head rfl fun c => ?_) (Nat.le_succ b)
  unfold closeGroup
  dsimp only
  split_ifs
  · exact hnext fl names done (piece :: current)
  · exact Local.fail.fueled

theorem fueled_group (hnext : Continues b next next') :
    Fueled b (group fl next names done current) (group fl next' names done current) := by
  refine (local_opening fl).fueled.bind fun kind => ?_
  cases kind with
  | inl changed => exact hnext changed names done (flagPiece :: current)
  | inr kind =>
      obtain ⟨inner, captures, name⟩ := kind
      refine .given _ fun names => (hnext inner names [] []).bind fun r => ?_
      obtain ⟨body, names⟩ := r
      exact fueled_closeGroup hnext (groupPiece captures body)

/-- After an opening brace there are counts. -/
def Counted (next : Reader) : Prop :=
  ∀ fl names done current rest, counts fl rest = none →
    next fl names done current ('\x7b' :: rest) = none

theorem local_escaped (hnext : Continues b next next') (hcounted : Counted next) :
    Local fun rest => (escape fl rest).bind fun r =>
      (r.1.piece? fl).bind fun piece => next fl names done (piece :: current) r.2 := by
  have hpiece (e : Escape) : Local fun rest =>
      (e.piece? fl).bind fun piece => next fl names done (piece :: current) rest :=
    .given _ fun piece => (hnext fl names done (piece :: current)).toLocal
  constructor
  · intro cs rest r h
    obtain ⟨e, he, hrest⟩ := Option.bind_eq_some_iff.1 h
    exact ((hpiece e.1).suffix hrest).trans (escape_suffix he)
  · intro cs cs' h
    rcases escape_agrees fl h with hagrees | ⟨hnone, cond, rest, hsome, hcounts⟩
    · exact hagrees.bind (hpiece _).suffix (hpiece _).agrees
    · rw [hnone, hsome]
      show Agrees _ none (next fl names done (.ofLook cond :: current) ('\x7b' :: rest))
      rw [hcounted _ _ _ _ rest hcounts]
      exact .failed

theorem fueled_escaped (hnext : Continues b next next') (hcounted : Counted next) :
    Fueled b
      (fun rest => (escape fl rest).bind fun r =>
        (r.1.piece? fl).bind fun piece => next fl names done (piece :: current) r.2)
      fun rest => (escape fl rest).bind fun r =>
        (r.1.piece? fl).bind fun piece => next' fl names done (piece :: current) r.2 := by
  refine ⟨local_escaped hnext hcounted, fun {cs rest r} h hlt => ?_⟩
  obtain ⟨e, he, hrest⟩ := Option.bind_eq_some_iff.1 h
  obtain ⟨piece, hpiece, hread⟩ := Option.bind_eq_some_iff.1 hrest
  have hle := (escape_suffix he).length_le
  show (escape fl cs).bind _ = _
  rw [he]
  show (e.1.piece? fl).bind _ = _
  rw [hpiece]
  exact (hnext fl names done (piece :: current)).carries hread (by omega)

theorem fueled_turn (hclasses : Fueled b classes classes') (hnext : Continues b next next')
    (hcounted : Counted next) (c : Char) :
    Fueled b (turn fl classes next names done current c)
      (turn fl classes' next' names done current c) := by
  unfold turn
  by_cases halt : c = '|'
  · simp only [if_pos halt]
    exact hnext fl names (sequencePiece current :: done) []
  simp only [if_neg halt]
  by_cases hopen : c = '('
  · simp only [if_pos hopen]
    exact fueled_group hnext
  simp only [if_neg hopen]
  by_cases hclass : c = '['
  · simp only [if_pos hclass]
    exact hclasses.bind fun p => hnext fl names done (classPiece p :: current)
  simp only [if_neg hclass]
  by_cases hcount : c = '\x7b'
  · simp only [if_pos hcount]
    exact (local_counts fl).fueled.bind fun bounds => (fueled_repetition hnext bounds).spaced fl
  simp only [if_neg hcount]
  by_cases hescape : c = '\\'
  · simp only [if_pos hescape]
    exact fueled_escaped hnext hcounted
  simp only [if_neg hescape]
  cases bounds? c with
  | some bounds => exact fueled_repetition hnext bounds
  | none => exact .given _ fun piece => hnext fl names done (piece :: current)

theorem counted_reading (n : Nat) : Counted (reading n) := by
  intro fl names done current rest hcounts
  cases n with
  | zero => rfl
  | succ n =>
      rw [reading_succ]
      dsimp only
      rw [space_brace]
      show ((counts fl rest).map boundsView).bind _ = none
      rw [hcounts]
      rfl

/-- A pattern is read within the text, and a unit of fuel for each character and one more
is enough. -/
theorem fueled_reading (n m : Nat) : Continues m (reading n) (reading m) := by
  induction n generalizing m with
  | zero => exact fun _ _ _ _ => ⟨Local.fail, nofun⟩
  | succ n ih =>
      have hnext (m : Nat) : Continues (m + 1) (reading (n + 1)) (reading (m + 1)) := by
        intro fl names done current
        rw [reading_succ, reading_succ]
        refine (fueled_upToClosing _ fun c => ?_).spaced fl
        exact fueled_turn (fueled_bracket fl n m) (ih m) (counted_reading n) c
      cases m with
      | zero => exact fun fl names done current => (hnext 0 fl names done current).toLocal.unfueled
      | succ m => exact hnext m

end

end CheckGateway.Pattern
