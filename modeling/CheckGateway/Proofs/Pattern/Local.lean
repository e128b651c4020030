/-
What is read of a pattern, and what stands after it.

A pattern is put between `^(?:` and `)$` before it is read. Each function that reads a
part of it takes characters from the front of a text, so of the text with the closing
characters after it (`closing`) it reads what it reads of the text alone, as long as it
stays within the text. There are two exceptions. Where the text ends in a comment, the
comment goes on and hides what is after it (`Meets.hidden`). And what ends too early by
itself may take a closing character for one of its own (`Agrees.beyond`).

`Local` says so of a function. The lemmas are about ways to put such functions together,
and about blanks and runs of characters.
-/
import CheckGateway.Pattern.Parser
import Mathlib.Data.List.TakeDrop
import Mathlib.Data.List.TakeWhile

namespace CheckGateway.Pattern

/-- What closes a pattern that identifiers must match as a whole. -/
def closing : List Char := [')', '$']

/-- A text, and what there is of it with the closing characters after it. -/
inductive Meets : List Char → List Char → Prop where
  | goesOn (cs : List Char) : Meets cs (cs ++ closing)
  | hidden : Meets [] []

/-- What is read of a text, and what is read of it with the closing characters after it.
What is read of these alone leaves no more than `left`. -/
inductive Agrees {α : Type} (left : List Char) :
    Option (α × List Char) → Option (α × List Char) → Prop where
  | read (a : α) {rest rest' : List Char} (h : Meets rest rest') :
      Agrees left (some (a, rest)) (some (a, rest'))
  | failed : Agrees left none none
  | beyond (a : α) {rest : List Char} (h : rest <:+ left) : Agrees left none (some (a, rest))

/-- A function takes characters from the front of a text, and of one that the closing
characters follow it reads the same. -/
structure Local {α : Type} (f : List Char → Option (α × List Char)) : Prop where
  suffix : ∀ {cs rest a}, f cs = some (a, rest) → rest <:+ cs
  agrees : ∀ {cs cs'}, Meets cs cs' → Agrees ['$'] (f cs) (f cs')

section

variable {α β : Type} {left cs cs' rest : List Char} {a : α} {fl : Flags}
  {f : List Char → Option (α × List Char)}

-- =================================================================== ways to go on

/-- What goes on after agreeing reads agrees if it does so from texts that meet. -/
theorem Agrees.bind {o o' : Option (α × List Char)} {k : α × List Char → Option (β × List Char)}
    (h : Agrees left o o') (hsuffix : ∀ {a cs rest b}, k (a, cs) = some (b, rest) → rest <:+ cs)
    (hk : ∀ {a rest rest'}, Meets rest rest' → Agrees left (k (a, rest)) (k (a, rest'))) :
    Agrees left (o.bind k) (o'.bind k) := by
  cases h with
  | read a hmeets => exact hk hmeets
  | failed => exact .failed
  | @beyond a rest hrest =>
      show Agrees left none (k (a, rest))
      cases hnext : k (a, rest) with
      | none => exact .failed
      | some r => exact .beyond r.1 ((hsuffix hnext).trans hrest)

/-- What is made of the values does not matter. -/
theorem Agrees.map {o o' : Option (α × List Char)} (h : Agrees left o o') (g : α → β) :
    Agrees left (o.map fun r => (g r.1, r.2)) (o'.map fun r => (g r.1, r.2)) := by
  cases h with
  | read a hmeets => exact .read (g a) hmeets
  | failed => exact .failed
  | beyond a hrest => exact .beyond (g a) hrest

/-- Reading nothing is local. -/
theorem Local.fail : Local fun _ => (none : Option (α × List Char)) :=
  ⟨nofun, fun _ => .failed⟩

/-- So is taking nothing. -/
theorem Local.done (a : α) : Local fun cs => some (a, cs) := by
  refine ⟨fun h => ?_, fun h => .read a h⟩
  cases h
  exact List.suffix_refl _

/-- One local function after another. -/
theorem Local.bind {k : α × List Char → Option (β × List Char)} (hf : Local f)
    (hk : ∀ a, Local fun rest => k (a, rest)) : Local fun cs => (f cs).bind k := by
  constructor
  · intro cs rest b h
    obtain ⟨⟨a, middle⟩, hfirst, hsecond⟩ := Option.bind_eq_some_iff.1 h
    exact ((hk a).suffix hsecond).trans (hf.suffix hfirst)
  · intro cs cs' h
    exact (hf.agrees h).bind (hk _).suffix (hk _).agrees

/-- What does not depend on the text may be missing. -/
theorem Local.given (o : Option β) {k : β → List Char → Option (α × List Char)}
    (hk : ∀ b, Local (k b)) : Local fun cs => o.bind fun b => k b cs := by
  cases o with
  | none => exact .fail
  | some b => exact hk b

/-- A local function, and something that is made of what it leaves. -/
theorem Local.map {k : α × List Char → β × List Char} (hf : Local f)
    (hk : ∀ a, Local fun rest => some (k (a, rest))) : Local fun cs => (f cs).map k := by
  have heq (cs : List Char) : (f cs).map k = (f cs).bind fun r => some (k r) := by
    cases f cs <;> rfl
  simp only [heq]
  exact hf.bind hk

/-- The same under a view of what is read. -/
theorem Local.bindMap {γ : Type} {k : α × List Char → Option γ} {view : γ → β × List Char}
    (hf : Local f) (hk : ∀ a, Local fun rest => (k (a, rest)).map view) :
    Local fun cs => ((f cs).bind k).map view := by
  have heq (cs : List Char) : ((f cs).bind k).map view = (f cs).bind fun r => (k r).map view := by
    cases f cs <;> rfl
  simp only [heq]
  exact hf.bind hk

/-- A function that reads nothing of the empty text goes by the first character. -/
theorem Local.head (hnil : f [] = none) (hcons : ∀ c, Local fun cs => f (c :: cs)) : Local f := by
  constructor
  · intro cs rest a h
    cases cs with
    | nil =>
        rw [hnil] at h
        cases h
    | cons c cs => exact ((hcons c).suffix h).trans (List.suffix_cons c cs)
  · intro cs cs' h
    cases h with
    | hidden =>
        rw [hnil]
        exact .failed
    | goesOn =>
        cases cs with
        | nil =>
            rw [hnil, List.nil_append]
            cases hclosing : f closing with
            | none => exact .failed
            | some r => exact .beyond r.1 ((hcons ')').suffix hclosing)
        | cons c cs => exact (hcons c).agrees (.goesOn cs)

/-- A function with a state that takes one character after the other. -/
theorem Local.walk {σ : Type} {f : σ → List Char → Option (α × List Char)}
    (hnil : ∀ s, f s [] = none)
    (hcons : ∀ s c, (∃ s', ∀ cs, f s (c :: cs) = f s' cs)
      ∨ ∃ a?, ∀ cs, f s (c :: cs) = Option.map (fun a => (a, cs)) a?) (s : σ) : Local (f s) := by
  have hsuffix {cs rest : List Char} {a : α} : ∀ s, f s cs = some (a, rest) → rest <:+ cs := by
    induction cs with
    | nil =>
        intro s h
        rw [hnil] at h
        cases h
    | cons c cs ih =>
        intro s h
        rcases hcons s c with ⟨s', hs'⟩ | ⟨a?, ha?⟩
        · rw [hs'] at h
          exact (ih s' h).trans (List.suffix_cons c cs)
        · rw [ha?] at h
          obtain ⟨a', -, heq⟩ := Option.map_eq_some_iff.1 h
          cases heq
          exact List.suffix_cons c _
  have hagrees (cs : List Char) : ∀ s, Agrees ['$'] (f s cs) (f s (cs ++ closing)) := by
    induction cs with
    | nil =>
        intro s
        rw [hnil, List.nil_append]
        cases hclosing : f s closing with
        | none => exact .failed
        | some r =>
            refine .beyond r.1 ?_
            rcases hcons s ')' with ⟨s', hs'⟩ | ⟨a?, ha?⟩
            · exact hsuffix s' ((hs' ['$']).symm.trans hclosing)
            · obtain ⟨a', -, heq⟩ := Option.map_eq_some_iff.1 ((ha? ['$']).symm.trans hclosing)
              cases heq
              exact List.suffix_refl _
    | cons c cs ih =>
        intro s
        rcases hcons s c with ⟨s', hs'⟩ | ⟨a?, ha?⟩
        · rw [List.cons_append, hs', hs']
          exact ih s'
        · rw [List.cons_append, ha?, ha?]
          cases a? with
          | none => exact .failed
          | some a => exact .read a (.goesOn cs)
  refine ⟨hsuffix s, fun h => ?_⟩
  cases h with
  | goesOn => exact hagrees _ s
  | hidden =>
      rw [hnil]
      exact .failed

-- =========================================================================== blanks

/-- Skipping blanks and comments takes from the front. -/
theorem skipBlanks_suffix (inComment : Bool) (cs : List Char) : skipBlanks inComment cs <:+ cs := by
  induction cs generalizing inComment with
  | nil => exact List.suffix_refl _
  | cons c cs ih =>
      unfold skipBlanks
      split_ifs
      · exact (ih _).trans (List.suffix_cons c cs)
      · exact (ih _).trans (List.suffix_cons c cs)
      · exact (ih _).trans (List.suffix_cons c cs)
      · exact List.suffix_refl _

/-- What is dropped is dropped; a comment at the end goes on. -/
theorem meets_skipBlanks (inComment : Bool) (cs : List Char) :
    Meets (skipBlanks inComment cs) (skipBlanks inComment (cs ++ closing)) := by
  induction cs generalizing inComment with
  | nil =>
      cases inComment with
      | true => exact .hidden
      | false => exact .goesOn []
  | cons c cs ih =>
      rw [List.cons_append]
      unfold skipBlanks
      split_ifs
      · exact ih _
      · exact ih _
      · exact ih _
      · exact .goesOn (c :: cs)

theorem space_suffix (fl : Flags) (cs : List Char) : space fl cs <:+ cs := by
  unfold space
  split
  · exact skipBlanks_suffix false cs
  · exact List.suffix_refl _

/-- Before a brace there is nothing to skip. -/
theorem space_brace (fl : Flags) (cs : List Char) : space fl ('\x7b' :: cs) = '\x7b' :: cs := by
  unfold space
  split <;> rfl

/-- Blanks and comments are skipped alike in both texts. -/
theorem Meets.space (h : Meets cs cs') (fl : Flags) : Meets (space fl cs) (space fl cs') := by
  unfold Pattern.space
  split
  · cases h with
    | goesOn => exact meets_skipBlanks false cs
    | hidden => exact .hidden
  · exact h

/-- Blanks in front do not matter to what is local. -/
theorem Local.spaced (hf : Local f) (fl : Flags) : Local fun cs => f (space fl cs) :=
  ⟨fun h => (hf.suffix h).trans (space_suffix fl _), fun h => hf.agrees (h.space fl)⟩

/-- A function that drops what does not count, and goes on. -/
theorem Local.afterSpace {g : List Char → Option (α × List Char)} (fl : Flags)
    (h : ∀ cs rest, space fl cs = rest → f cs = g rest) (hg : Local g) : Local f := by
  rw [show f = fun cs => g (space fl cs) from funext fun cs => h cs _ rfl]
  exact hg.spaced fl

/-- A function that goes by whether the text begins with a character. -/
theorem Local.switch {g h : List Char → Option (α × List Char)} (x : Char) (hx : x ≠ ')')
    (hg : Local g) (hh : Local h) (hgiven : ∀ cs, f (x :: cs) = g cs)
    (helse : ∀ cs, cs.head? ≠ some x → f cs = h cs) : Local f := by
  constructor
  · intro cs rest a heq
    by_cases hhead : cs.head? = some x
    · obtain ⟨cs, rfl⟩ := List.head?_eq_some_iff.1 hhead
      rw [hgiven] at heq
      exact (hg.suffix heq).trans (List.suffix_cons x cs)
    · rw [helse cs hhead] at heq
      exact hh.suffix heq
  · intro cs cs' hmeets
    cases hmeets with
    | hidden =>
        rw [helse [] nofun]
        exact hh.agrees .hidden
    | goesOn =>
        by_cases hhead : cs.head? = some x
        · obtain ⟨cs, rfl⟩ := List.head?_eq_some_iff.1 hhead
          rw [List.cons_append, hgiven, hgiven]
          exact hg.agrees (.goesOn cs)
        · have hhead' : (cs ++ closing).head? ≠ some x := by
            cases cs with
            | nil => exact fun h => hx (Option.some.inj h).symm
            | cons c cs => exact hhead
          rw [helse cs hhead, helse _ hhead']
          exact hh.agrees (.goesOn cs)

/-- A choice by the first character is local if both ways are and the character closes
nothing. -/
theorem Local.byHead {g h : List Char → Option (α × List Char)} (x : Char) (hx : x ≠ ')')
    (hg : Local g) (hh : Local h) :
    Local fun cs => if cs.head? = some x then g cs.tail else h cs :=
  .switch x hx hg hh (fun _ => if_pos rfl) fun _ hhead => if_neg hhead

/-- A function that drops what does not count, and then goes by whether the text begins
with a character. -/
theorem Local.spacedSwitch {g h : List Char → Option (α × List Char)} (fl : Flags) (x : Char)
    (hx : x ≠ ')') (hgiven : ∀ cs rest, space fl cs = x :: rest → f cs = g rest)
    (helse : ∀ cs rest, space fl cs = rest → rest.head? ≠ some x → f cs = h rest)
    (hg : Local g) (hh : Local h) : Local f := by
  refine .afterSpace fl (fun cs rest hrest => ?_) (.byHead x hx hg hh)
  by_cases hhead : rest.head? = some x
  · obtain ⟨rest, rfl⟩ := List.head?_eq_some_iff.1 hhead
    rw [hgiven cs rest hrest]
    exact (if_pos rfl).symm
  · rw [helse cs rest hrest hhead]
    exact (if_neg hhead).symm

/-- A function that does not begin with some characters. -/
theorem Local.barring (bad : Char → Bool) (hbad : bad ')' = false) (hf : Local f) :
    Local fun cs => if cs.head?.any bad = true then none else f cs := by
  constructor
  · intro cs rest a h
    split_ifs at h
    exact hf.suffix h
  · intro cs cs' h
    have hhead : cs'.head?.any bad = cs.head?.any bad := by
      cases h with
      | hidden => rfl
      | goesOn =>
          cases cs with
          | nil => exact hbad
          | cons c cs => rfl
    rw [hhead]
    split_ifs
    · exact .failed
    · exact hf.agrees h

-- ============================================================================= runs

theorem space_length_le (fl : Flags) (cs : List Char) : (space fl cs).length ≤ cs.length :=
  (space_suffix fl cs).length_le

/-- Characters are taken as long as they fit, and what does not count after each. -/
def takeRun {σ : Type} (fl : Flags) (take : σ → Char → Option σ) :
    Nat → σ → List Char → σ × List Char
  | n + 1, s, c :: cs =>
      match take s c with
      | some s => takeRun fl take n s (space fl cs)
      | none => (s, c :: cs)
  | _, s, cs => (s, cs)

section

variable {σ : Type} {take : σ → Char → Option σ} {s : σ}

/-- A run takes from the front. -/
theorem takeRun_suffix (n : Nat) (cs : List Char) : (takeRun fl take n s cs).2 <:+ cs := by
  induction n generalizing s cs with
  | zero => exact List.suffix_refl _
  | succ n ih =>
      cases cs with
      | nil => exact List.suffix_refl _
      | cons c cs =>
          unfold takeRun
          split
          · exact (ih _).trans ((space_suffix fl cs).trans (List.suffix_cons c cs))
          · exact List.suffix_refl _

theorem takeRun_nil (n : Nat) : takeRun fl take n s [] = (s, []) := by
  cases n <;> rfl

/-- The run ends at what closes the text. -/
theorem takeRun_meets_nil {n : Nat} (htake : ∀ s, take s ')' = none) (h : Meets [] cs') :
    takeRun fl take n s cs' = (s, cs') := by
  cases h with
  | hidden => exact takeRun_nil n
  | goesOn =>
      cases n with
      | zero => rfl
      | succ n =>
          show (match take s ')' with | some s => _ | none => _) = _
          rw [htake]
          rfl

/-- What fits is taken to its end if there is fuel for every character. -/
theorem takeRun_meets (fl : Flags) {n n' : Nat} (htake : ∀ s, take s ')' = none) (h : Meets cs cs')
    (hn : cs.length ≤ n) (hn' : cs'.length ≤ n') :
    (takeRun fl take n' s cs').1 = (takeRun fl take n s cs).1
      ∧ Meets (takeRun fl take n s cs).2 (takeRun fl take n' s cs').2 := by
  have hnil {cs' : List Char} (h : Meets [] cs') {s : σ} {n n' : Nat} :
      (takeRun fl take n' s cs').1 = (takeRun fl take n s []).1
        ∧ Meets (takeRun fl take n s []).2 (takeRun fl take n' s cs').2 := by
    rw [takeRun_nil, takeRun_meets_nil htake h]
    exact ⟨rfl, h⟩
  induction n generalizing s cs cs' n' with
  | zero =>
      obtain rfl := List.length_eq_zero_iff.1 (Nat.le_zero.1 hn)
      exact hnil h
  | succ n ih =>
      cases h with
      | hidden => exact hnil .hidden
      | goesOn =>
          cases cs with
          | nil => exact hnil (.goesOn [])
          | cons c cs =>
              cases n' with
              | zero => cases Nat.le_zero.1 hn'
              | succ n' =>
                  rw [List.cons_append]
                  unfold takeRun
                  cases take s c with
                  | none => exact ⟨rfl, .goesOn (c :: cs)⟩
                  | some s =>
                      refine ih ((Meets.goesOn cs).space fl) ?_ ?_
                      · exact (space_length_le fl cs).trans (Nat.le_of_succ_le_succ hn)
                      · exact (space_length_le fl _).trans (Nat.le_of_succ_le_succ hn')

/-- A run over a whole text. -/
theorem local_takeRun (fl : Flags) (htake : ∀ s, take s ')' = none) (s : σ) :
    Local fun cs => some (takeRun fl take cs.length s cs) := by
  constructor
  · intro cs rest a h
    obtain rfl : (takeRun fl take cs.length s cs).2 = rest := congrArg Prod.snd (Option.some.inj h)
    exact takeRun_suffix _ cs
  · intro cs cs' h
    obtain ⟨hstate, hrest⟩ :=
      takeRun_meets fl (s := s) htake h (Nat.le_refl _) (Nat.le_refl _)
    rw [← Prod.eta (takeRun fl take cs.length s cs), ← Prod.eta (takeRun fl take cs'.length s cs'),
      hstate]
    exact .read _ hrest

end

end

-- ============================================================================= fuel

section

variable {α β : Type} {b : Nat} {fl : Flags} {f g h f' g' h' : List Char → Option (α × List Char)}

/-- A function and what it is with less fuel: of a text of which it takes fewer than `b`
characters it reads the same. -/
structure Fueled {α : Type} (b : Nat) (f f' : List Char → Option (α × List Char)) : Prop
    extends Local f where
  carries : ∀ {cs rest a}, f cs = some (a, rest) → cs.length < b + rest.length →
    f' cs = some (a, rest)

/-- A local function needs no fuel. -/
theorem Local.fueled (hf : Local f) : Fueled b f f := ⟨hf, fun h _ => h⟩

/-- Nothing is said without fuel. -/
theorem Local.unfueled (hf : Local f) : Fueled 0 f f' := by
  refine ⟨hf, fun h hlt => ?_⟩
  have hle := (hf.suffix h).length_le
  omega

/-- Blanks in front do not matter to the fuel. -/
theorem Fueled.spaced (hf : Fueled b f f') (fl : Flags) :
    Fueled b (fun cs => f (space fl cs)) fun cs => f' (space fl cs) := by
  refine ⟨hf.toLocal.spaced fl, fun {cs _ _} h hlt => hf.carries h ?_⟩
  have hle := space_length_le fl cs
  omega

/-- One function with fuel after another. -/
theorem Fueled.bind {k k' : α × List Char → Option (β × List Char)} (hf : Fueled b f f')
    (hk : ∀ a, Fueled b (fun rest => k (a, rest)) fun rest => k' (a, rest)) :
    Fueled b (fun cs => (f cs).bind k) fun cs => (f' cs).bind k' := by
  refine ⟨hf.toLocal.bind fun a => (hk a).toLocal, fun {cs rest _} h hlt => ?_⟩
  obtain ⟨⟨a, middle⟩, hfirst, hsecond⟩ := Option.bind_eq_some_iff.1 h
  have hmiddle := (hf.suffix hfirst).length_le
  have hrest := ((hk a).suffix hsecond).length_le
  rw [hf.carries hfirst (by omega)]
  exact (hk a).carries hsecond (by omega)

/-- What does not depend on the text may come first. -/
theorem Fueled.given (o : Option β) {k k' : β → List Char → Option (α × List Char)}
    (hk : ∀ d, Fueled b (k d) (k' d)) :
    Fueled b (fun cs => o.bind fun d => k d cs) fun cs => o.bind fun d => k' d cs := by
  cases o with
  | none => exact Local.fail.fueled
  | some d => exact hk d

/-- A choice by the first character. -/
theorem Fueled.byHead (x : Char) (hx : x ≠ ')') (hg : Fueled b g g') (hh : Fueled b h h') :
    Fueled b (fun cs => if cs.head? = some x then g cs.tail else h cs)
      fun cs => if cs.head? = some x then g' cs.tail else h' cs := by
  refine ⟨.byHead x hx hg.toLocal hh.toLocal, fun {cs rest _} heq hlt => ?_⟩
  split_ifs at heq ⊢
  · refine hg.carries heq ?_
    have hle := (List.tail_suffix cs).length_le
    omega
  · exact hh.carries heq hlt

/-- A character takes a unit of fuel. -/
theorem Fueled.head (hnil : f [] = none)
    (hcons : ∀ c, Fueled b (fun cs => f (c :: cs)) fun cs => f' (c :: cs)) :
    Fueled (b + 1) f f' := by
  refine ⟨.head hnil fun c => (hcons c).toLocal, fun {cs rest _} heq hlt => ?_⟩
  cases cs with
  | nil =>
      rw [hnil] at heq
      cases heq
  | cons c cs =>
      refine (hcons c).carries heq ?_
      rw [List.length_cons] at hlt
      omega

end

end CheckGateway.Pattern
