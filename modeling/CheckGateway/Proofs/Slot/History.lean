/-
What a slot gives is what was made in it.

A slot is used in three ways, in any order and as often as one likes: its handler
is asked for, and made if there is none; it is looked at; it is forgotten. Which
maker is run decides everything, and a slot is in one of three states for that:

- it is open: there is no handler, and the next maker is run;
- it is full: every use gives the handler, until it is forgotten;
- it is dead: a maker has died in it. There is no handler and never will be.

`Use.on_full`, `Use.on_dead` and `Use.on_open` say what one use does in each of
them, and `slot_keeps_what_was_made` is what any history comes to.
-/
import CheckGateway.Slot
import Mathlib.Data.List.Basic

namespace CheckGateway.Slot

variable {α : Type}

-- ================================================================== uses

/-- A use of a slot. -/
inductive Use (α : Type) where
  | init (make : Except Fault α)
  | get
  | clear

namespace Use

/-- The slot after a use. -/
def on (s : Slot α) : Use α → Slot α
  | .init make => (s.getOrInit make).2
  | .get => s
  | .clear => s.clear

/-- The handler that a use makes, where its maker is run and succeeds. -/
def made? (s : Slot α) : Use α → Option α
  | .init make => if s.makes then make.toOption else none
  | .get | .clear => none

/-- The handler that a use gives. -/
def given? (s : Slot α) : Use α → Option α
  | .init make => (s.getOrInit make).1.toOption
  | .get => s.get?
  | .clear => none

end Use

/-- The slot after some uses. -/
def after (s : Slot α) (uses : List (Use α)) : Slot α := uses.foldl Use.on s

/-- What some uses show, each at the slot as it is then. -/
def along (show? : Slot α → Use α → Option α) (s : Slot α) : List (Use α) → List α
  | [] => []
  | u :: uses => (show? s u).toList ++ along show? (u.on s) uses

/-- The handlers that some uses make. -/
def made (s : Slot α) (uses : List (Use α)) : List α := along Use.made? s uses

/-- The handlers that some uses give. -/
def given (s : Slot α) (uses : List (Use α)) : List α := along Use.given? s uses

/-- A slot of a name after all its uses. -/
def reached (name : String) (past : List (Use α)) : Slot α := after ⟨name, none, false⟩ past

/-- A maker was run and died. -/
def Died (name : String) (past : List (Use α)) : Prop :=
  ∃ before later, past = before ++ .init (.error .panicked) :: later
    ∧ (reached name before).makes = true

section

variable {s : Slot α} {handler : α} {u : Use α} {uses : List (Use α)}

-- ====================================================== makers that are run

theorem makes_iff (s : Slot α) :
    s.makes = true ↔ s.handler = none ∧ s.poisoned = false := by
  unfold makes
  cases s.poisoned <;> cases s.handler <;> simp

/-- A maker that is run decides the answer. -/
theorem getOrInit_of_makes (h : s.makes = true) (make : Except Fault α) :
    (s.getOrInit make).1 = make := by
  obtain ⟨hempty, hsound⟩ := s.makes_iff.1 h
  unfold getOrInit
  rw [hsound, if_neg Bool.false_ne_true, hempty]
  rcases make with (e | -) | handler <;> rfl

/-- A maker that is not run is not looked at. -/
theorem getOrInit_eq_of_not_makes (h : s.makes = false) (make make' : Except Fault α) :
    s.getOrInit make = s.getOrInit make' := by
  unfold makes at h
  unfold getOrInit
  cases hp : s.poisoned with
  | true => rfl
  | false =>
      cases hh : s.handler with
      | some handler => rfl
      | none => simp [hp, hh] at h

theorem getOrInit_of_poisoned (h : s.poisoned = true) (make : Except Fault α) :
    s.getOrInit make = (.error (.failed (.lockPoisoned (lockName s.name))), s) := by
  unfold getOrInit
  rw [if_pos h]

/-- What a maker that fails leaves behind is the slot as it was. -/
theorem getOrInit_failed (s : Slot α) (e : GatewayError) :
    (s.getOrInit (.error (.failed e))).2 = s := by
  unfold getOrInit
  split
  · rfl
  · split <;> rfl

theorem get?_of_makes (h : s.makes = true) : s.get? = none := by
  unfold get?
  rw [(s.makes_iff.1 h).1]
  exact ite_self none

theorem get?_eq_some_iff :
    s.get? = some handler ↔ s.handler = some handler ∧ s.poisoned = false := by
  unfold get?
  cases s.poisoned <;> simp

-- ================================================================ one use

/-- A handler that is there is given by every use, until it is forgotten. -/
theorem Use.on_full (hfull : s.get? = some handler) (hu : u ≠ .clear) :
    u.on s = s ∧ u.made? s = none ∧ u.given? s = some handler := by
  have hnot : s.makes = false := by
    rw [← Bool.not_eq_true, makes_iff, (get?_eq_some_iff.1 hfull).1]
    simp
  cases u with
  | init make =>
      refine ⟨getOrInit_of_not_makes hnot make, ?_, ?_⟩
      · unfold made?
        rw [hnot]
        rfl
      · show (s.getOrInit make).1.toOption = some handler
        rw [getOrInit_of_get? hfull]
        rfl
  | get => exact ⟨rfl, rfl, hfull⟩
  | clear => exact absurd rfl hu

/-- No use of a dead slot does anything. -/
theorem Use.on_dead (hdead : s.poisoned = true) (u : Use α) :
    u.on s = s ∧ u.made? s = none ∧ u.given? s = none := by
  have hnot : s.makes = false := by
    unfold makes
    rw [hdead]
    rfl
  cases u with
  | init make =>
      refine ⟨getOrInit_of_not_makes hnot make, ?_, ?_⟩
      · unfold made?
        rw [hnot]
        rfl
      · show (s.getOrInit make).1.toOption = none
        rw [getOrInit_of_poisoned hdead]
        rfl
  | get => exact ⟨rfl, rfl, if_pos hdead⟩
  | clear => exact ⟨if_pos hdead, rfl, rfl⟩

/-- A use of an open slot leaves it open and gives nothing, or makes the handler
and gives it, or dies. -/
theorem Use.on_open (hopen : s.makes = true) (u : Use α) :
    (u.on s = s ∧ u.made? s = none ∧ u.given? s = none)
      ∨ (∃ handler, u = .init (.ok handler) ∧ u.on s = { s with handler := some handler }
          ∧ u.made? s = some handler ∧ u.given? s = some handler)
      ∨ (u = .init (.error .panicked) ∧ u.on s = { s with poisoned := true }
          ∧ u.made? s = none ∧ u.given? s = none) := by
  obtain ⟨hempty, hsound⟩ := s.makes_iff.1 hopen
  have hmade (make : Except Fault α) : Use.made? s (.init make) = make.toOption := if_pos hopen
  have hgiven (make : Except Fault α) : Use.given? s (.init make) = make.toOption :=
    congrArg Except.toOption (getOrInit_of_makes hopen make)
  have hon (make : Except Fault α) : Use.on s (.init make) = (s.getOrInit make).2 := rfl
  cases u with
  | init make =>
      rw [hmade, hgiven, hon]
      unfold getOrInit
      rw [hsound, if_neg Bool.false_ne_true, hempty]
      rcases make with (e | -) | handler
      · exact .inl ⟨rfl, rfl, rfl⟩
      · exact .inr (.inr ⟨rfl, rfl, rfl, rfl⟩)
      · exact .inr (.inl ⟨handler, rfl, rfl, rfl, rfl⟩)
  | get => exact .inl ⟨rfl, rfl, get?_of_makes hopen⟩
  | clear =>
      refine .inl ⟨?_, rfl, rfl⟩
      show s.clear = s
      unfold Slot.clear
      rw [hsound, if_neg Bool.false_ne_true, ← hsound, ← hempty]

-- ============================================================== stretches

theorem after_cons : after s (u :: uses) = after (u.on s) uses := rfl

theorem made_cons : made s (u :: uses) = (u.made? s).toList ++ made (u.on s) uses := rfl

theorem given_cons : given s (u :: uses) = (u.given? s).toList ++ given (u.on s) uses := rfl

theorem after_append (s : Slot α) (uses more : List (Use α)) :
    after s (uses ++ more) = after (after s uses) more := List.foldl_append ..

theorem reached_append (name : String) (past uses : List (Use α)) :
    reached name (past ++ uses) = after (reached name past) uses := after_append ..

/-- As long as the handler is not forgotten, all uses give it. -/
theorem stretch_of_full (hfull : s.get? = some handler) (huses : .clear ∉ uses) :
    after s uses = s ∧ made s uses = [] ∧ given s uses = List.replicate uses.length handler := by
  induction uses with
  | nil => exact ⟨rfl, rfl, rfl⟩
  | cons u uses ih =>
      rw [List.mem_cons, not_or] at huses
      obtain ⟨hon, hmade, hgiven⟩ := Use.on_full hfull (Ne.symm huses.1)
      obtain ⟨hafter, hnone, hall⟩ := ih huses.2
      rw [after_cons, made_cons, given_cons, hon, hmade, hgiven]
      exact ⟨hafter, hnone, congrArg (handler :: ·) hall⟩

theorem stretch_of_dead (hdead : s.poisoned = true) (uses : List (Use α)) :
    after s uses = s ∧ made s uses = [] ∧ given s uses = [] := by
  induction uses with
  | nil => exact ⟨rfl, rfl, rfl⟩
  | cons u uses ih =>
      obtain ⟨hon, hmade, hgiven⟩ := Use.on_dead hdead u
      rw [after_cons, made_cons, given_cons, hon, hmade, hgiven]
      exact ih

/-- An open slot is filled once, if at all, and gives what was made. -/
theorem stretch_of_open (hopen : s.makes = true) (huses : .clear ∉ uses) :
    (made s uses = [] ∧ given s uses = [])
      ∨ ∃ handler n, made s uses = [handler] ∧ given s uses = List.replicate (n + 1) handler
        ∧ (after s uses).get? = some handler := by
  induction uses with
  | nil => exact .inl ⟨rfl, rfl⟩
  | cons u uses ih =>
      rw [List.mem_cons, not_or] at huses
      rw [after_cons, made_cons, given_cons]
      rcases Use.on_open hopen u with ⟨hon, hmade, hgiven⟩ | ⟨handler, -, hon, hmade, hgiven⟩
        | ⟨-, hon, hmade, hgiven⟩
      · rw [hon, hmade, hgiven]
        exact ih huses.2
      · have hfull : (u.on s).get? = some handler := by
          rw [hon]
          exact get?_eq_some_iff.2 ⟨rfl, (s.makes_iff.1 hopen).2⟩
        obtain ⟨hafter, hnone, hall⟩ := stretch_of_full hfull huses.2
        rw [hafter, hmade, hgiven, hnone, hall]
        exact .inr ⟨handler, uses.length, rfl, rfl, hfull⟩
      · have hdead : (u.on s).poisoned = true := by rw [hon]
        obtain ⟨-, hnone, hall⟩ := stretch_of_dead hdead uses
        rw [hmade, hgiven, hnone, hall]
        exact .inl ⟨rfl, rfl⟩

-- ================================================================== death

/-- A slot that is dead has no handler. -/
def Sound (s : Slot α) : Prop := s.poisoned = true → s.handler = none

/-- A slot is open, full or dead. -/
theorem open_or_full_or_dead (s : Slot α) :
    s.makes = true ∨ (∃ handler, s.get? = some handler) ∨ s.poisoned = true := by
  cases hdead : s.poisoned with
  | true => exact .inr (.inr rfl)
  | false =>
      cases hh : s.handler with
      | none => exact .inl (s.makes_iff.2 ⟨hh, hdead⟩)
      | some handler => exact .inr (.inl ⟨handler, get?_eq_some_iff.2 ⟨hh, hdead⟩⟩)

theorem sound_clear (hsound : s.Sound) : s.clear.Sound := by
  unfold Slot.clear
  split
  · exact hsound
  · exact fun _ => rfl

theorem Sound.on (hsound : s.Sound) (u : Use α) : (u.on s).Sound := by
  rcases s.open_or_full_or_dead with hopen | ⟨handler, hfull⟩ | hdead
  · obtain ⟨hempty, halive⟩ := s.makes_iff.1 hopen
    rcases Use.on_open hopen u with ⟨hon, -⟩ | ⟨handler, -, hon, -⟩ | ⟨-, hon, -⟩ <;> rw [hon]
    · exact hsound
    · exact fun hdead => absurd (halive.symm.trans hdead) Bool.false_ne_true
    · exact fun _ => hempty
  · cases u with
    | init make =>
        have hkept : Use.init make ≠ .clear := nofun
        rwa [(Use.on_full hfull hkept).1]
    | get => exact hsound
    | clear => exact sound_clear hsound
  · rwa [(Use.on_dead hdead u).1]

theorem Sound.after (hsound : s.Sound) (uses : List (Use α)) : (after s uses).Sound := by
  induction uses generalizing s with
  | nil => exact hsound
  | cons u uses ih => exact ih (hsound.on u)

theorem sound_reached (name : String) (past : List (Use α)) : (reached name past).Sound :=
  Sound.after (s := ⟨name, none, false⟩) nofun past

/-- A slot dies of nothing but a maker that is run in it and dies. -/
theorem Use.poisoned_on_iff : (u.on s).poisoned = true ↔
    s.poisoned = true ∨ (u = .init (.error .panicked) ∧ s.makes = true) := by
  cases u with
  | init make =>
      show (s.getOrInit make).2.poisoned = true ↔ _
      cases hopen : s.makes with
      | true =>
          obtain ⟨hempty, halive⟩ := s.makes_iff.1 hopen
          unfold getOrInit
          rw [halive, if_neg Bool.false_ne_true, hempty]
          rcases make with (e | -) | handler <;> simp [halive]
      | false =>
          rw [getOrInit_of_not_makes hopen]
          simp
  | get => simp [on]
  | clear => simp [on, poisoned_clear]

/-- A slot that is dead was dead, or a maker has died in it. -/
theorem poisoned_after_iff (s : Slot α) (uses : List (Use α)) :
    (after s uses).poisoned = true ↔ s.poisoned = true
      ∨ ∃ before later, uses = before ++ .init (.error .panicked) :: later
        ∧ (after s before).makes = true := by
  induction uses generalizing s with
  | nil => simp [after]
  | cons u uses ih =>
      rw [after_cons, ih, Use.poisoned_on_iff, or_assoc]
      refine or_congr_right ⟨?_, ?_⟩
      · rintro (⟨rfl, hopen⟩ | ⟨before, later, rfl, hopen⟩)
        · exact ⟨[], uses, rfl, hopen⟩
        · exact ⟨u :: before, later, rfl, hopen⟩
      · rintro ⟨before, later, heq, hopen⟩
        cases before with
        | nil =>
            cases heq
            exact .inl ⟨rfl, hopen⟩
        | cons first before =>
            cases heq
            exact .inr ⟨before, later, rfl, hopen⟩

theorem poisoned_reached_iff (name : String) (past : List (Use α)) :
    (reached name past).poisoned = true ↔ Died name past := by
  unfold reached Died
  rw [poisoned_after_iff]
  exact or_iff_right Bool.false_ne_true

theorem name_on (s : Slot α) (u : Use α) : (u.on s).name = s.name := by
  rcases s.open_or_full_or_dead with hopen | ⟨handler, hfull⟩ | hdead
  · rcases Use.on_open hopen u with ⟨hon, -⟩ | ⟨handler, -, hon, -⟩ | ⟨-, hon, -⟩ <;> rw [hon]
  · cases u with
    | init make =>
        have hkept : Use.init make ≠ .clear := nofun
        rw [(Use.on_full hfull hkept).1]
    | get => rfl
    | clear => exact s.name_clear
  · rw [(Use.on_dead hdead u).1]

theorem name_reached (name : String) (past : List (Use α)) : (reached name past).name = name := by
  have hafter (s : Slot α) : (after s past).name = s.name := by
    induction past generalizing s with
    | nil => rfl
    | cons u past ih => exact (ih (u.on s)).trans (name_on s u)
  exact hafter _

-- ============================================================ the histories

/-- However a slot is used. A maker is run exactly if there is no handler and none
has died in the slot: then it decides the answer, and otherwise it is not looked
at. From one clear to the next, no more than one handler is made: one that is
there is all that is given and none is made, and where there was none, whatever is
given is the one that was made. A maker that fails leaves no trace. One that dies
leaves the slot empty for good: nothing has an effect any more, nothing is given,
and whoever asks for the handler is told of the lock. -/
theorem slot_keeps_what_was_made (name : String) (past : List (Use α)) :
    ((reached name past).makes = true ↔
        (reached name past).handler = none ∧ ¬ Died name past)
    ∧ ((reached name past).makes = true →
        ∀ make, ((reached name past).getOrInit make).1 = make)
    ∧ ((reached name past).makes = false →
        ∀ make make', (reached name past).getOrInit make = (reached name past).getOrInit make')
    ∧ (reached name (past ++ [.clear])).get? = none
    ∧ (∀ uses, .clear ∉ uses → (reached name past).get? = none →
        (made (reached name past) uses = [] ∧ given (reached name past) uses = [])
        ∨ ∃ handler, made (reached name past) uses = [handler]
          ∧ ∀ h ∈ given (reached name past) uses, h = handler)
    ∧ (∀ uses, .clear ∉ uses → ∀ handler, (reached name past).get? = some handler →
        made (reached name past) uses = []
        ∧ given (reached name past) uses = List.replicate uses.length handler)
    ∧ (∀ e, reached name (past ++ [.init (.error (.failed e))]) = reached name past)
    ∧ ((reached name past).poisoned = true ↔ Died name past)
    ∧ (Died name past →
        (reached name past).handler = none
        ∧ ∀ uses, reached name (past ++ uses) = reached name past
          ∧ made (reached name past) uses = [] ∧ given (reached name past) uses = []
          ∧ ∀ make, (reached name (past ++ uses)).makes = false
            ∧ ((reached name (past ++ uses)).getOrInit make).1
              = .error (.failed (.lockPoisoned (name ++ " handler slot")))) := by
  have hpoisoned := poisoned_reached_iff name past
  have hsound := sound_reached name past
  refine ⟨?_, getOrInit_of_makes, getOrInit_eq_of_not_makes, ?_, ?_, ?_, ?_, hpoisoned, ?_⟩
  · rw [makes_iff, ← hpoisoned, Bool.not_eq_true]
  · rw [reached_append]
    exact get?_clear _
  · intro uses huses hnone
    rcases (reached name past).open_or_full_or_dead with hopen | ⟨handler, hfull⟩ | hdead
    · rcases stretch_of_open hopen huses with hnothing | ⟨handler, n, hmade, hgiven, -⟩
      · exact .inl hnothing
      · exact .inr ⟨handler, hmade, hgiven ▸ fun _ => List.eq_of_mem_replicate⟩
    · rw [hnone] at hfull
      cases hfull
    · exact .inl (stretch_of_dead hdead uses).2
  · intro uses huses handler hfull
    exact (stretch_of_full hfull huses).2
  · intro e
    rw [reached_append]
    exact getOrInit_failed _ e
  · intro hdied
    have hdead := hpoisoned.2 hdied
    refine ⟨hsound hdead, fun uses => ?_⟩
    obtain ⟨hafter, hmade, hgiven⟩ := stretch_of_dead hdead uses
    rw [reached_append, hafter]
    refine ⟨rfl, hmade, hgiven, fun make => ⟨?_, ?_⟩⟩
    · rw [← Bool.not_eq_true, makes_iff, hdead]
      simp
    · rw [getOrInit_of_poisoned hdead, name_reached]
      rfl

end

end CheckGateway.Slot
