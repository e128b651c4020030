/-
Rows that are read one by one.

The rows of a remote answer are read if each of them is, and to the values that they
stand for, in order. If one cannot be read, the answer comes to an error that names the
query, for what is wrong with the first such row.
-/
import CheckGateway.Proofs.Fallible
import CheckGateway.Remote.Row

namespace CheckGateway

section

variable {α : Type} [RowShape α] {query : String} {rows : List Record} {items : List α}
  {e : GatewayError}

/-- What is wrong with a row is wrong with the answer. -/
theorem readRows_eq (query : String) (rows : List Record) : readRows α query rows
    = rows.mapM fun row =>
        (RowShape.ofRow row).mapError fun problem => .protocol query problem.message := by
  unfold readRows
  refine congrArg (List.mapM · rows) (funext fun row => ?_)
  cases (RowShape.ofRow row : Except Json.Problem α) <;> rfl

/-- An answer is read if all its rows are, each as a value of its own. -/
theorem readRows_eq_ok_iff : readRows α query rows = .ok items
    ↔ List.Forall₂ (fun row a => RowShape.ofRow row = .ok a) rows items := by
  rw [readRows_eq, mapM_eq_ok_iff]
  have hrow (row : Record) (a : α) :
      ((RowShape.ofRow row).mapError fun problem => GatewayError.protocol query problem.message)
        = .ok a ↔ RowShape.ofRow row = .ok a := by
    cases (RowShape.ofRow row : Except Json.Problem α) with
    | ok b => exact ⟨fun h => by cases h; rfl, fun h => by cases h; rfl⟩
    | error problem => exact iff_of_false nofun nofun
  simp only [hrow]

/-- Values that are read back from their rows one by one are read back together. -/
theorem readRows_writeRows (query : String)
    (h : ∀ a ∈ items, RowShape.ofRow (RowShape.toRow a) = .ok a) :
    readRows α query (writeRows items) = .ok items := by
  rw [readRows_eq_ok_iff]
  unfold writeRows
  rw [List.forall₂_map_left_iff, List.forall₂_same]
  exact h

/-- An answer with a row that cannot be read breaks the protocol, as the first such row
does. -/
theorem readRows_eq_error_iff : readRows α query rows = .error e
    ↔ ∃ before row after problem, rows = before ++ row :: after
      ∧ (∀ r ∈ before, ∃ a : α, RowShape.ofRow r = .ok a)
      ∧ (RowShape.ofRow row : Except Json.Problem α) = .error problem
      ∧ e = .protocol query problem.message := by
  rw [readRows_eq, mapM_eq_error_iff]
  constructor
  · rintro ⟨before, row, after, hrows, hbefore, hrow⟩
    cases hread : (RowShape.ofRow row : Except Json.Problem α) with
    | ok a =>
        rw [hread] at hrow
        cases hrow
    | error problem =>
        rw [hread] at hrow
        cases hrow
        refine ⟨before, row, after, problem, hrows, fun r hr => ?_, hread, rfl⟩
        obtain ⟨a, ha⟩ := hbefore r hr
        cases hr : (RowShape.ofRow r : Except Json.Problem α) with
        | ok a => exact ⟨a, rfl⟩
        | error problem =>
            rw [hr] at ha
            cases ha
  · rintro ⟨before, row, after, problem, hrows, hbefore, hrow, rfl⟩
    refine ⟨before, row, after, hrows, fun r hr => ?_, by rw [hrow]; rfl⟩
    obtain ⟨a, ha⟩ := hbefore r hr
    exact ⟨a, by rw [ha]; rfl⟩

end

end CheckGateway
