/-
The requests that are being worked on, by their fingerprints, with the
time when each was admitted. A fingerprint is admitted only while it is
absent.
-/
import CheckGateway.Error
import CheckGateway.Table
import CheckGateway.Time.Timestamp

namespace CheckGateway

/-- The admitted fingerprints. -/
structure InFlight where
  entries : Table String Timestamp := .empty

namespace InFlight

/-- Admits a fingerprint, unless it is there already. -/
def accept (f : InFlight) (fingerprint : String) (now : Timestamp) :
    Outcome InFlight :=
  match f.entries.get? fingerprint with
  | some since => .error (.duplicateInFlight (since.elapsedMs now))
  | none => .ok ⟨f.entries.insert fingerprint now⟩

/-- Releases a fingerprint. -/
def finish (f : InFlight) (fingerprint : String) : InFlight :=
  ⟨f.entries.erase fingerprint⟩

/-- The fingerprint is admitted. -/
def holds (f : InFlight) (fingerprint : String) : Bool :=
  (f.entries.get? fingerprint).isSome

/-- How many fingerprints are admitted. -/
def size (f : InFlight) : Nat := f.entries.size

theorem holds_finish (f : InFlight) (fp other : String) :
    (f.finish fp).holds other = (f.holds other && other != fp) := by
  by_cases h : other = fp <;> simp [holds, finish, Table.get?_erase, h]

theorem accept_isOk (f : InFlight) (fp : String) (now : Timestamp) :
    (∃ g, f.accept fp now = .ok g) ↔ f.holds fp = false := by
  cases h : f.entries.get? fp <;> simp [accept, holds, h]

theorem holds_accept {f g : InFlight} {fp : String} {now : Timestamp}
    (h : f.accept fp now = .ok g) (other : String) :
    g.holds other = (f.holds other || other == fp) := by
  cases hf : f.entries.get? fp with
  | some since => simp [accept, hf] at h
  | none =>
      simp only [accept, hf, Except.ok.injEq] at h
      subst h
      by_cases ho : other = fp <;> simp [holds, Table.get?_insert, ho]

/-- Releasing what has just been admitted undoes the admission. -/
theorem finish_accept {f g : InFlight} {fp : String} {now : Timestamp}
    (h : f.accept fp now = .ok g) : g.finish fp = f := by
  cases hf : f.entries.get? fp with
  | some since => simp [accept, hf] at h
  | none =>
      simp only [accept, hf, Except.ok.injEq] at h
      subst h
      have herase := (Table.erase_insert f.entries fp now).trans (Table.erase_of_get? hf)
      exact congrArg InFlight.mk herase

/-- Nothing is admitted where no fingerprint is held. -/
theorem size_eq_zero_iff (f : InFlight) : f.size = 0 ↔ ∀ fp, f.holds fp = false := by
  unfold size Table.size holds Table.get?
  constructor
  · intro h fp
    rw [List.eq_nil_of_length_eq_zero h]
    rfl
  · intro h
    cases hentries : f.entries.entries with
    | nil => rfl
    | cons entry rest =>
        have hfirst := h entry.1
        rw [hentries, List.lookup_cons_self] at hfirst
        cases hfirst

end InFlight

end CheckGateway
