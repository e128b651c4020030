/-
Steps that can fail, one after another.

What comes after a step is reached only through its result. A list is gone through to
its end if each of its elements is, and comes to their results, in order; if one fails,
the list comes to what is wrong with the first such element.
-/
import Mathlib.Data.List.Forall2

namespace CheckGateway

section

variable {α β ε : Type} {f : α → Except ε β} {l : List α} {ys : List β} {e : ε}

/-- What follows a result has been reached through it. -/
theorem bind_eq_ok {x : Except ε α} {f : α → Except ε β} {b : β} (h : x >>= f = .ok b) :
    ∃ a, x = .ok a ∧ f a = .ok b := by
  cases x with
  | error e => cases h
  | ok a => exact ⟨a, rfl, h⟩

/-- A list comes to the results of its elements. -/
theorem mapM_eq_ok_iff : l.mapM f = .ok ys ↔ List.Forall₂ (fun a b => f a = .ok b) l ys := by
  induction l generalizing ys with
  | nil =>
      rw [List.forall₂_nil_left_iff]
      exact ⟨fun h => (Except.ok.inj h).symm, fun h => h ▸ rfl⟩
  | cons a l ih =>
      rw [List.mapM_cons, List.forall₂_cons_left_iff]
      simp only [← ih]
      cases f a with
      | error e => exact iff_of_false nofun nofun
      | ok b =>
          cases l.mapM f with
          | error e => exact iff_of_false nofun nofun
          | ok bs =>
              constructor
              · intro h
                cases h
                exact ⟨b, bs, rfl, rfl, rfl⟩
              · rintro ⟨_, _, hb, hbs, rfl⟩
                cases hb
                cases hbs
                rfl

/-- Whatever is in one of two lists goes with something in the other. -/
theorem exists_of_forall₂ {R : α → β → Prop} (h : List.Forall₂ R l ys) :
    ∀ a ∈ l, ∃ b, R a b := by
  have hpaired : List.Forall₂ (fun a b => (∃ b, R a b) ∧ R a b) l ys :=
    h.imp fun a b hab => ⟨⟨b, hab⟩, hab⟩
  exact ((List.forall₂_and_left l ys).1 hpaired).1

/-- If an element fails, the list fails as the first one does. -/
theorem mapM_eq_error_iff : l.mapM f = .error e ↔
    ∃ before a after, l = before ++ a :: after ∧ (∀ b ∈ before, ∃ y, f b = .ok y)
      ∧ f a = .error e := by
  induction l with
  | nil =>
      refine iff_of_false nofun ?_
      rintro ⟨before, a, after, heq, -⟩
      exact List.append_ne_nil_of_right_ne_nil before (List.cons_ne_nil a after) heq.symm
  | cons x l ih =>
      rw [List.mapM_cons]
      cases hx : f x with
      | error e' =>
          constructor
          · intro h
            cases h
            exact ⟨[], x, l, rfl, nofun, hx⟩
          · rintro ⟨_ | ⟨y, before⟩, a, after, heq, hbefore, ha⟩
            · obtain ⟨rfl, -⟩ := List.cons.inj heq
              rw [hx] at ha
              cases ha
              rfl
            · obtain ⟨rfl, -⟩ := List.cons.inj heq
              obtain ⟨y, hy⟩ := hbefore x List.mem_cons_self
              rw [hx] at hy
              cases hy
      | ok y =>
          have hrest : (do let ys ← l.mapM f; pure (y :: ys) : Except ε (List β)) = .error e
              ↔ l.mapM f = .error e := by
            cases l.mapM f with
            | error e' => exact ⟨fun h => by cases h; rfl, fun h => by cases h; rfl⟩
            | ok ys => exact iff_of_false nofun nofun
          refine (hrest.trans ih).trans ⟨?_, ?_⟩
          · rintro ⟨before, a, after, rfl, hbefore, ha⟩
            exact ⟨x :: before, a, after, rfl, List.forall_mem_cons.2 ⟨⟨y, hx⟩, hbefore⟩, ha⟩
          · rintro ⟨_ | ⟨x', before⟩, a, after, heq, hbefore, ha⟩
            · obtain ⟨rfl, -⟩ := List.cons.inj heq
              rw [hx] at ha
              cases ha
            · obtain ⟨rfl, rfl⟩ := List.cons.inj heq
              exact ⟨before, a, after, rfl, (List.forall_mem_cons.1 hbefore).2, ha⟩

/-- A list is gone through to its end if nothing is wrong with an element. -/
theorem exists_mapM_eq_ok_iff : (∃ ys, l.mapM f = .ok ys) ↔ ∀ a ∈ l, ∃ b, f a = .ok b := by
  constructor
  · rintro ⟨ys, h⟩
    exact exists_of_forall₂ (mapM_eq_ok_iff.1 h)
  · intro h
    cases hread : l.mapM f with
    | ok ys => exact ⟨ys, rfl⟩
    | error e =>
        obtain ⟨before, a, after, rfl, -, ha⟩ := mapM_eq_error_iff.1 hread
        obtain ⟨b, hb⟩ := h a (List.mem_append_right before List.mem_cons_self)
        rw [ha] at hb
        cases hb

end

end CheckGateway
