/-
A list of maps as such, and as a text that holds it.

A list of maps can be written into a text of its own. It is then read token by
token, without making the list of values first, but the maps that come of it are
those that reading the whole text as one value would give (`readMapList_eq_ok_iff`).
-/
import CheckGateway.Proofs.Fallible
import CheckGateway.Request.Basic

namespace CheckGateway.Json

section

variable {α β ε : Type} {fuel depth : Nat} {tokens rest : List Token}

/-- Reading has used up some of the tokens, and comes to the same with any fuel that
is enough for these. -/
def Uses (read : Nat → Except Problem (α × List Token)) (tokens : List Token) (a : α)
    (rest : List Token) : Prop :=
  rest.length < tokens.length
    ∧ ∀ fuel, tokens.length ≤ fuel + rest.length → read fuel = .ok (a, rest)

/-- Where reading does its first step with a unit of fuel. -/
theorem uses_of_succ {read : Nat → Except Problem (α × List Token)} {a : α}
    (hlt : rest.length < tokens.length)
    (h : ∀ fuel, tokens.length ≤ fuel + 1 + rest.length → read (fuel + 1) = .ok (a, rest)) :
    Uses read tokens a rest := by
  refine ⟨hlt, fun fuel hfuel => ?_⟩
  cases fuel with
  | zero => omega
  | succ fuel => exact h fuel hfuel

/-- The three readers use up what they read. -/
structure Used (fuel : Nat) : Prop where
  value : ∀ depth tokens v rest, value fuel depth tokens = .ok (v, rest) →
    Uses (fun f => Json.value f depth tokens) tokens v rest
  elements : ∀ depth tokens vs rest, elements fuel depth tokens = .ok (vs, rest) →
    Uses (fun f => Json.elements f depth tokens) tokens vs rest
  members : ∀ depth before tokens after rest,
    members fuel depth before tokens = .ok (after, rest) →
    Uses (fun f => Json.members f depth before tokens) tokens after rest

theorem Used.value_succ (ih : Used fuel) {v : Value}
    (h : Json.value (fuel + 1) depth tokens = .ok (v, rest)) :
    Uses (fun f => Json.value f depth tokens) tokens v rest := by
  unfold Json.value at h
  split at h
  next => cases h; exact uses_of_succ (by simp) fun f _ => by simp [Json.value]
  next => cases h; exact uses_of_succ (by simp) fun f _ => by simp [Json.value]
  next => cases h; exact uses_of_succ (by simp) fun f _ => by simp [Json.value]
  next => cases h; exact uses_of_succ (by simp) fun f _ => by simp [Json.value]
  next =>
    split at h
    · cases h
    next hdepth =>
      split at h
      next =>
        cases h
        refine uses_of_succ (by simp only [List.length_cons]; omega) fun f _ => ?_
        simp [Json.value, hdepth]
      next hopen =>
        obtain ⟨⟨items, _⟩, hitems, heq⟩ := bind_eq_ok h
        cases heq
        obtain ⟨hlt, hread⟩ := ih.elements _ _ _ _ hitems
        refine uses_of_succ (by simp only [List.length_cons]; omega) fun f hf => ?_
        simp only [List.length_cons] at hf
        have hitems : Json.elements f _ _ = _ := hread f (by omega)
        unfold Json.value
        dsimp only
        rw [if_neg hdepth]
        split
        next => exact absurd rfl (hopen _)
        next => rw [hitems]; rfl
  next =>
    split at h
    · cases h
    next hdepth =>
      split at h
      next =>
        cases h
        refine uses_of_succ (by simp only [List.length_cons]; omega) fun f _ => ?_
        simp [Json.value, hdepth]
      next hopen =>
        obtain ⟨⟨items, _⟩, hitems, heq⟩ := bind_eq_ok h
        cases heq
        obtain ⟨hlt, hread⟩ := ih.members _ _ _ _ _ hitems
        refine uses_of_succ (by simp only [List.length_cons]; omega) fun f hf => ?_
        simp only [List.length_cons] at hf
        have hitems : Json.members f _ _ _ = _ := hread f (by omega)
        unfold Json.value
        dsimp only
        rw [if_neg hdepth]
        split
        next => exact absurd rfl (hopen _)
        next => rw [hitems]; rfl
  next => cases h

theorem Used.elements_succ (ih : Used fuel) {vs : List Value}
    (h : Json.elements (fuel + 1) depth tokens = .ok (vs, rest)) :
    Uses (fun f => Json.elements f depth tokens) tokens vs rest := by
  unfold Json.elements at h
  obtain ⟨⟨item, later⟩, hitem, h⟩ := bind_eq_ok h
  obtain ⟨hlt, hread⟩ := ih.value _ _ _ _ hitem
  dsimp only at h
  split at h
  next =>
    obtain ⟨⟨items, last⟩, hitems, heq⟩ := bind_eq_ok h
    obtain ⟨rfl, rfl⟩ : item :: items = vs ∧ last = rest := Prod.mk.inj (Except.ok.inj heq)
    obtain ⟨hlt', hread'⟩ := ih.elements _ _ _ _ hitems
    simp only [List.length_cons] at hlt hread
    refine uses_of_succ (by omega) fun f hf => ?_
    have hitem : Json.value f _ _ = _ := hread f (by omega)
    have hitems : Json.elements f _ _ = _ := hread' f (by omega)
    unfold Json.elements
    rw [hitem]
    show Except.bind (Json.elements f _ _) _ = _
    rw [hitems]
    rfl
  next =>
    cases h
    simp only [List.length_cons] at hlt hread
    refine uses_of_succ (by omega) fun f hf => ?_
    have hitem : Json.value f _ _ = _ := hread f (by omega)
    unfold Json.elements
    rw [hitem]
    rfl
  next => cases h

theorem Used.members_succ (ih : Used fuel) {before after : List (String × Value)}
    (h : Json.members (fuel + 1) depth before tokens = .ok (after, rest)) :
    Uses (fun f => Json.members f depth before tokens) tokens after rest := by
  unfold Json.members at h
  split at h
  next =>
    obtain ⟨⟨item, later⟩, hitem, h⟩ := bind_eq_ok h
    obtain ⟨hlt, hread⟩ := ih.value _ _ _ _ hitem
    dsimp only at h
    split at h
    next =>
      obtain ⟨hlt', hread'⟩ := ih.members _ _ _ _ _ h
      simp only [List.length_cons] at hlt hread
      refine uses_of_succ (by simp only [List.length_cons]; omega) fun f hf => ?_
      simp only [List.length_cons] at hf
      have hitem : Json.value f _ _ = _ := hread f (by omega)
      have hitems : Json.members f _ _ _ = _ := hread' f (by omega)
      unfold Json.members
      dsimp only
      rw [hitem]
      exact hitems
    next =>
      cases h
      simp only [List.length_cons] at hlt hread
      refine uses_of_succ (by simp only [List.length_cons]; omega) fun f hf => ?_
      simp only [List.length_cons] at hf
      have hitem : Json.value f _ _ = _ := hread f (by omega)
      unfold Json.members
      dsimp only
      rw [hitem]
      rfl
    next => cases h
  next => cases h

theorem used (fuel : Nat) : Used fuel := by
  induction fuel with
  | zero =>
      exact ⟨fun _ _ _ _ h => (nomatch h), fun _ _ _ _ h => (nomatch h),
        fun _ _ _ _ _ h => (nomatch h)⟩
  | succ fuel ih =>
      exact ⟨fun _ _ _ _ => ih.value_succ, fun _ _ _ _ => ih.elements_succ,
        fun _ _ _ _ _ => ih.members_succ⟩

-- ======================================================================= maps

/-- An array or an object starts with its own token. -/
theorem opened_of_value {v : Value} (h : Json.value fuel depth tokens = .ok (v, rest)) :
    match v with
    | .array _ => ∃ later, tokens = .openArray :: later
    | .object _ => ∃ later, tokens = .openObject :: later
    | _ => True := by
  cases fuel with
  | zero => cases h
  | succ fuel =>
      unfold Json.value at h
      split at h
      next => cases h; trivial
      next => cases h; trivial
      next => cases h; trivial
      next => cases h; trivial
      next later =>
        split at h
        · cases h
        · split at h
          · cases h
            exact ⟨_, rfl⟩
          · obtain ⟨_, -, heq⟩ := bind_eq_ok h
            cases heq
            exact ⟨_, rfl⟩
      next later =>
        split at h
        · cases h
        · split at h
          · cases h
            exact ⟨_, rfl⟩
          · obtain ⟨_, -, heq⟩ := bind_eq_ok h
            cases heq
            exact ⟨_, rfl⟩
      next => cases h

/-- A record is what an object is read as. -/
theorem record_eq_ok_iff {r : Record} :
    record fuel depth tokens = .ok (r, rest)
      ↔ Json.value (fuel + 1) depth tokens = .ok (r.toValue, rest) := by
  obtain ⟨attributes⟩ := r
  unfold record
  split
  next later =>
    by_cases hdepth : depth ≤ 1
    · simp [Json.value, hdepth]
    · simp [Json.value, hdepth, Record.toValue, Record.empty, eq_comm]
  next later hopen =>
    by_cases hdepth : depth ≤ 1
    · simp [Json.value, hdepth]
    · unfold Json.value
      dsimp only
      rw [if_neg hdepth, if_neg hdepth]
      split
      next => exact absurd rfl (hopen _)
      next =>
        cases Json.members fuel (depth - 1) [] later with
        | error e => exact ⟨fun h => (nomatch h), fun h => (nomatch h)⟩
        | ok p =>
            obtain ⟨attributes', later⟩ := p
            show Except.ok _ = Except.ok _ ↔ Except.ok _ = Except.ok _
            simp [Record.toValue]
  next hobject hopen =>
    refine iff_of_false (by simp) fun h => ?_
    obtain ⟨later, rfl⟩ := opened_of_value h
    exact hopen _ rfl

theorem complete_eq_ok_iff {result : Except Problem (α × List Token)} {a : α} :
    complete result = .ok a ↔ result = .ok (a, []) := by
  cases result with
  | error e => exact ⟨fun h => (nomatch h), fun h => (nomatch h)⟩
  | ok p =>
      obtain ⟨b, rest⟩ := p
      cases rest with
      | nil =>
          show Except.ok b = Except.ok a ↔ _
          simp
      | cons t ts =>
          refine iff_of_false (fun h => (nomatch h)) ?_
          simp

/-- A value does not start with the end of an array. -/
theorem elements_closeArray_ne_ok {later : List Token} {vs : List Value} :
    elements fuel depth (.closeArray :: later) ≠ .ok (vs, rest) := by
  intro h
  cases fuel with
  | zero => cases h
  | succ fuel =>
      unfold elements at h
      obtain ⟨_, hitem, -⟩ := bind_eq_ok h
      cases fuel <;> cases hitem

/-- The maps of a list are read as the elements of an array. -/
theorem uses_of_readMaps {rs : List Record} (h : Wire.readMaps depth fuel tokens = .ok (rs, rest)) :
    Uses (fun f => elements f depth tokens) tokens (rs.map Record.toValue) rest := by
  induction fuel generalizing tokens rs with
  | zero => cases h
  | succ fuel ih =>
      unfold Wire.readMaps at h
      obtain ⟨⟨r, later⟩, hrecord, h⟩ := bind_eq_ok h
      obtain ⟨hlt, hread⟩ := (used _).value _ _ _ _ (record_eq_ok_iff.1 hrecord)
      dsimp only at h
      split at h
      next => cases h
      next =>
        obtain ⟨⟨rs', last⟩, hmaps, heq⟩ := bind_eq_ok h
        obtain ⟨rfl, rfl⟩ : r :: rs' = rs ∧ last = rest := Prod.mk.inj (Except.ok.inj heq)
        obtain ⟨hlt', hread'⟩ := ih hmaps
        simp only [List.length_cons] at hlt hread
        refine uses_of_succ (by omega) fun f hf => ?_
        have hitem : value f _ _ = _ := hread f (by omega)
        have hitems : elements f _ _ = _ := hread' f (by omega)
        unfold elements
        rw [hitem]
        show Except.bind (elements f _ _) _ = _
        rw [hitems]
        rfl
      next =>
        obtain ⟨rfl, rfl⟩ : [r] = rs ∧ _ = rest := Prod.mk.inj (Except.ok.inj h)
        simp only [List.length_cons] at hlt hread
        refine uses_of_succ (by omega) fun f hf => ?_
        have hitem : value f _ _ = _ := hread f (by omega)
        unfold elements
        rw [hitem]
        rfl
      next => cases h

/-- The elements of an array that are all maps are read as a list of maps. -/
theorem uses_of_elements {rs : List Record}
    (h : elements fuel depth tokens = .ok (rs.map Record.toValue, rest)) :
    Uses (fun f => Wire.readMaps depth f tokens) tokens rs rest := by
  induction fuel generalizing tokens rs with
  | zero => cases h
  | succ fuel ih =>
      unfold elements at h
      obtain ⟨⟨item, later⟩, hitem, h⟩ := bind_eq_ok h
      obtain ⟨hlt, hread⟩ := (used _).value _ _ _ _ hitem
      dsimp only at h
      split at h
      next later =>
        obtain ⟨⟨items, last⟩, hitems, heq⟩ := bind_eq_ok h
        obtain ⟨hall, rfl⟩ : item :: items = rs.map Record.toValue ∧ last = rest :=
          Prod.mk.inj (Except.ok.inj heq)
        cases rs with
        | nil => cases hall
        | cons r rs =>
            obtain ⟨rfl, rfl⟩ := List.cons.inj hall
            obtain ⟨hlt', hread'⟩ := ih hitems
            simp only [List.length_cons] at hlt hread
            refine uses_of_succ (by omega) fun f hf => ?_
            have hrecord : record f depth tokens = _ :=
              record_eq_ok_iff.2 (hread (f + 1) (by omega))
            have hmaps : Wire.readMaps depth f _ = _ := hread' f (by omega)
            unfold Wire.readMaps
            rw [hrecord]
            show Except.bind (.ok _) _ = _
            unfold Except.bind
            dsimp only
            split
            next heq =>
              cases heq
              exact absurd hitems elements_closeArray_ne_ok
            next heq =>
              cases heq
              show Except.bind (Wire.readMaps depth f _) _ = _
              rw [hmaps]
              rfl
            next heq => cases heq
            next hcomma _ => exact absurd rfl (hcomma _)
      next =>
        obtain ⟨hall, rfl⟩ : [item] = rs.map Record.toValue ∧ _ = rest :=
          Prod.mk.inj (Except.ok.inj h)
        obtain ⟨r, rfl, rfl⟩ : ∃ r, rs = [r] ∧ item = r.toValue := by
          cases rs with
          | nil => cases hall
          | cons r rs =>
              obtain ⟨rfl, hnil⟩ := List.cons.inj hall
              obtain rfl := List.map_eq_nil_iff.1 hnil.symm
              exact ⟨r, rfl, rfl⟩
        simp only [List.length_cons] at hlt hread
        refine uses_of_succ (by omega) fun f hf => ?_
        have hrecord : record f depth tokens = _ := record_eq_ok_iff.2 (hread (f + 1) (by omega))
        unfold Wire.readMaps
        rw [hrecord]
        rfl
      next => cases h

/-- A text that holds a list of maps is read as this list, whether the list is what
is expected or any value. -/
theorem readMapList_eq_ok_iff {text : String} {rs : List Record} :
    Wire.readMapList text = .ok rs ↔ parse text = .ok (.array (rs.map Record.toValue)) := by
  unfold Wire.readMapList parse
  dsimp only
  rw [complete_eq_ok_iff, complete_eq_ok_iff]
  generalize Json.tokens text = tokens
  have hdepth : ¬ maxDepth ≤ 1 := by decide
  unfold Wire.maps
  split
  next later =>
    simp [value, hdepth, eq_comm]
  next later hopen =>
    have hvalue : value (later.length + 1 + 1) maxDepth (.openArray :: later)
        = elements (later.length + 1) (maxDepth - 1) later >>= fun p => .ok (.array p.1, p.2) := by
      unfold value
      dsimp only
      rw [if_neg hdepth]
      split
      next => exact absurd rfl (hopen _)
      next => rfl
    rw [List.length_cons, hvalue]
    constructor
    · intro h
      have hitems : elements (later.length + 1) (maxDepth - 1) later = _ :=
        (uses_of_readMaps h).2 _ (by omega)
      rw [hitems]
      rfl
    · intro h
      obtain ⟨⟨items, last⟩, hitems, heq⟩ := bind_eq_ok h
      obtain ⟨harray, rfl⟩ := Prod.mk.inj (Except.ok.inj heq)
      obtain rfl := Value.array.inj harray
      exact (uses_of_elements hitems).2 _ (by simp only [List.length_nil]; omega)
  next hlist hopen =>
    refine iff_of_false (by simp) fun h => ?_
    obtain ⟨later, rfl⟩ := opened_of_value h
    exact hopen _ rfl

end

end CheckGateway.Json
