/-
Finite maps as lists of entries, each key at most once. The order of the
entries is of no account: look-up is the only view.
-/

namespace CheckGateway

/-- A finite map. -/
structure Table (κ α : Type) where
  entries : List (κ × α)
  nodup : (entries.map Prod.fst).Nodup

namespace Table

variable {κ α : Type} [DecidableEq κ]

/-- The map without entries. -/
def empty : Table κ α := ⟨[], List.nodup_nil⟩

instance : EmptyCollection (Table κ α) := ⟨empty⟩

instance : Inhabited (Table κ α) := ⟨empty⟩

/-- The value of a key. -/
def get? (t : Table κ α) (key : κ) : Option α := t.entries.lookup key

/-- The number of entries. -/
def size (t : Table κ α) : Nat := t.entries.length

/-- The map without an entry for a key. -/
def erase (t : Table κ α) (key : κ) : Table κ α where
  entries := t.entries.filter fun e => e.1 ≠ key
  nodup := t.nodup.sublist (List.filter_sublist.map Prod.fst)

/-- The map with the value of a key set. -/
def insert (t : Table κ α) (key : κ) (value : α) : Table κ α where
  entries := (key, value) :: (t.erase key).entries
  nodup := by
    simp only [List.map_cons, List.nodup_cons]
    refine ⟨?_, (t.erase key).nodup⟩
    simp [erase]

theorem lookup_filter_ne (entries : List (κ × α)) (key other : κ) :
    (entries.filter fun e => e.1 ≠ key).lookup other =
      if other = key then none else entries.lookup other := by
  induction entries with
  | nil => simp
  | cons entry rest ih =>
      obtain ⟨k, v⟩ := entry
      by_cases hk : k = key
      · subst hk
        by_cases ho : other = k
        · subst ho
          simpa using ih
        · have hb : (other == k) = false := by simpa using ho
          simpa [List.lookup_cons, ho, hb] using ih
      · by_cases ho : other = k
        · subst ho
          simp [hk]
        · have hb : (other == k) = false := by simpa using ho
          simpa [List.lookup_cons, hk, hb] using ih

@[simp]
theorem get?_empty (key : κ) : (empty : Table κ α).get? key = none := rfl

theorem get?_erase (t : Table κ α) (key other : κ) :
    (t.erase key).get? other =
      if other = key then none else t.get? other :=
  lookup_filter_ne t.entries key other

theorem get?_insert (t : Table κ α) (key other : κ) (value : α) :
    (t.insert key value).get? other =
      if other = key then some value else t.get? other := by
  by_cases h : other = key
  · subst h
    simp [get?, insert]
  · have hb : (other == key) = false := by simpa using h
    have := get?_erase t key other
    simp only [get?, h, if_false] at this
    simpa [get?, insert, List.lookup_cons, hb, h] using this

theorem erase_of_get? {t : Table κ α} {key : κ} (h : t.get? key = none) :
    t.erase key = t := by
  obtain ⟨entries, nodup⟩ := t
  unfold erase
  congr 1
  refine List.filter_eq_self.2 fun e he => ?_
  rw [decide_eq_true_eq]
  rintro rfl
  exact absurd (List.lookup_eq_none_iff.1 h e he) (by simp)

theorem erase_insert (t : Table κ α) (key : κ) (value : α) :
    (t.insert key value).erase key = t.erase key := by
  unfold insert erase
  congr 1
  simp

end Table

end CheckGateway
