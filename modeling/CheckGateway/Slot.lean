/-
A place for something that is made when it is first needed and then kept.
A maker that fails leaves the place empty; one that dies makes it
unusable, and from then on it stays empty.
-/
import CheckGateway.Error

namespace CheckGateway

/-- A place for a handler. -/
structure Slot (α : Type) where
  name : String
  handler : Option α := none
  poisoned : Bool := false
  deriving Repr

namespace Slot

variable {α : Type}

/-- What the poisoned lock of a slot is called. -/
def lockName (name : String) : String := name ++ " handler slot"

/-- The handler, made if there is none. The maker is only looked at when
it is run. -/
def getOrInit (s : Slot α) (make : Except Fault α) :
    Except Fault α × Slot α :=
  if s.poisoned then
    (.error (.failed (.lockPoisoned (lockName s.name))), s)
  else
    match s.handler with
    | some h => (.ok h, s)
    | none =>
        match make with
        | .ok h => (.ok h, { s with handler := some h })
        | .error (.failed e) => (.error (.failed e), s)
        | .error .panicked => (.error .panicked, { s with poisoned := true })

/-- The maker would be run. -/
def makes (s : Slot α) : Bool := !s.poisoned && s.handler.isNone

/-- The handler, if there is one. -/
def get? (s : Slot α) : Option α :=
  if s.poisoned then none else s.handler

/-- The slot without its handler. -/
def clear (s : Slot α) : Slot α :=
  if s.poisoned then s else { s with handler := none }

theorem get?_clear (s : Slot α) : s.clear.get? = none := by
  unfold clear get?
  cases h : s.poisoned <;> simp [h]

theorem name_clear (s : Slot α) : s.clear.name = s.name := by
  unfold clear
  split <;> rfl

theorem poisoned_clear (s : Slot α) : s.clear.poisoned = s.poisoned := by
  unfold clear
  split <;> rfl

/-- A maker that is not run changes nothing. -/
theorem getOrInit_of_not_makes {s : Slot α} (h : s.makes = false)
    (make : Except Fault α) : (s.getOrInit make).2 = s := by
  unfold makes at h
  unfold getOrInit
  cases hp : s.poisoned with
  | true => rfl
  | false =>
      cases hh : s.handler with
      | some handler => rfl
      | none => simp [hp, hh] at h

/-- A handler that is there is what is given. -/
theorem getOrInit_of_get? {s : Slot α} {handler : α}
    (h : s.get? = some handler) (make : Except Fault α) :
    (s.getOrInit make).1 = .ok handler := by
  unfold get? at h
  unfold getOrInit
  cases hp : s.poisoned with
  | true => simp [hp] at h
  | false =>
      rw [hp] at h
      rw [if_neg Bool.false_ne_true] at h
      rw [if_neg Bool.false_ne_true, h]

end Slot

end CheckGateway
