/-
Shapes that are read straight from the tokens.

A reader that knows what it wants goes through the tokens itself, without making the
value first. Where the tokens do spell a value, it comes to what the shape makes of that
value: the same result with the same tokens left, or the same problem. This is so of
maps (`Spells.record`), of lists of maps (`readMapList_of_parse`), and of passing over a
value that nobody wants (`Spells.skip`).

An object loses the order of its members, and all but the last of a name. `Entries` has
them as the text has them, and the object is what comes of putting them into a record
one after the other (`parse_eq_object_iff`).
-/
import CheckGateway.Proofs.Json.Encoded

namespace CheckGateway.Json

/-- The tokens start with a value, and with enough fuel it is read and these are left. -/
def Spells (depth : Nat) (tokens : List Token) (v : Value) (rest : List Token) : Prop :=
  ∃ fuel, value fuel depth tokens = .ok (v, rest)

/-- What the first token tells of a value: all of it, or that it is an array or an
object. -/
inductive Starts : List Token → Value → List Token → Prop where
  | null (rest : List Token) : Starts (.null :: rest) .null rest
  | bool (b : Bool) (rest : List Token) : Starts (.bool b :: rest) (.bool b) rest
  | number (n : Number) (rest : List Token) : Starts (.number (some n) :: rest) (.number n) rest
  | string (s : String) (rest : List Token) : Starts (.string (some s) :: rest) (.string s) rest
  | array (items : List Value) (later rest : List Token) :
      Starts (.openArray :: later) (.array items) rest
  | object (members : List (String × Value)) (later rest : List Token) :
      Starts (.openObject :: later) (.object members) rest

section

variable {α : Type} {fuel depth : Nat} {tokens rest rest' : List Token} {v w : Value}
  {items : List Value}

theorem Spells.uses (h : Spells depth tokens v rest) :
    Uses (fun f => value f depth tokens) tokens v rest := by
  obtain ⟨fuel, h⟩ := h
  exact (used fuel).value _ _ _ _ h

/-- Tokens start with one value at most. -/
theorem Spells.unique (h : Spells depth tokens v rest) (h' : Spells depth tokens w rest') :
    w = v ∧ rest' = rest := by
  have hv : value tokens.length depth tokens = .ok (v, rest) := h.uses.2 _ (by omega)
  have hw : value tokens.length depth tokens = .ok (w, rest') := h'.uses.2 _ (by omega)
  rw [hv] at hw
  cases hw
  exact ⟨rfl, rfl⟩

theorem Spells.starts (h : Spells depth tokens v rest) : Starts tokens v rest := by
  obtain ⟨fuel, h⟩ := h
  cases fuel with
  | zero => cases h
  | succ fuel =>
      unfold value at h
      split at h
      next => cases h; exact .null _
      next => cases h; exact .bool _ _
      next => cases h; exact .number _ _
      next => cases h; exact .string _ _
      next =>
        split at h
        · cases h
        · split at h
          · cases h
            exact .array _ _ _
          · obtain ⟨_, -, heq⟩ := bind_eq_ok h
            cases heq
            exact .array _ _ _
      next =>
        split at h
        · cases h
        · split at h
          · cases h
            exact .object _ _ _
          · obtain ⟨_, -, heq⟩ := bind_eq_ok h
            cases heq
            exact .object _ _ _
      next => cases h

/-- What is wrong with a value can be told from its first token. -/
theorem Spells.mismatch (h : Spells depth tokens v rest) (expected : String) :
    mismatch expected tokens = Decode.wrongKind expected v := by
  cases h.starts <;> rfl

-- ======================================================================= maps

/-- A map is read from its tokens as it is from the value. -/
theorem Spells.record (h : Spells depth tokens v rest)
    (hfuel : tokens.length ≤ fuel + 1 + rest.length) :
    Json.record fuel depth tokens = (Decode.map v).map (·, rest) := by
  have hvalue : value (fuel + 1) depth tokens = .ok (v, rest) := h.uses.2 _ hfuel
  cases h.starts with
  | object members => exact record_eq_ok_iff.2 hvalue
  | _ => rfl

/-- After an element of an array comes another one or the end. -/
theorem elements_inv (h : elements (fuel + 1) depth tokens = .ok (items, rest)) :
    ∃ item later, value fuel depth tokens = .ok (item, later)
      ∧ ((later = .closeArray :: rest ∧ items = [item])
        ∨ ∃ later' items', later = .comma :: later' ∧ items = item :: items'
          ∧ elements fuel depth later' = .ok (items', rest)) := by
  unfold elements at h
  obtain ⟨⟨item, later⟩, hitem, h⟩ := bind_eq_ok h
  refine ⟨item, later, hitem, ?_⟩
  dsimp only at h
  split at h
  next =>
    obtain ⟨⟨items', _⟩, hitems, heq⟩ := bind_eq_ok h
    cases heq
    exact .inr ⟨_, items', rfl, rfl, hitems⟩
  next =>
    cases h
    exact .inl ⟨rfl, rfl⟩
  next => cases h

/-- So are the maps of a list from the elements of an array: up to the first element
that is no map. -/
theorem readMaps_of_elements {fuel' : Nat} (h : elements fuel depth tokens = .ok (items, rest))
    (hfuel : tokens.length ≤ fuel' + rest.length) :
    Wire.readMaps depth fuel' tokens = (items.mapM Decode.map).map (·, rest) := by
  -- On the fuel of the elements, which need more of it than the maps do: what they leave
  -- bounds the fuel that the maps must have.
  induction fuel generalizing fuel' tokens items with
  | zero => cases h
  | succ fuel ih =>
      have hlt := ((used _).elements _ _ _ _ h).1
      obtain ⟨fuel', rfl⟩ : ∃ f, fuel' = f + 1 := ⟨fuel' - 1, by omega⟩
      obtain ⟨item, later, hitem, hnext⟩ := elements_inv h
      have hspells : Spells depth tokens item later := ⟨fuel, hitem⟩
      have hshorter := hspells.uses.1
      have hlater : rest.length < later.length := by
        rcases hnext with ⟨rfl, -⟩ | ⟨later', items', rfl, -, hitems⟩
        · simp
        · have := ((used _).elements _ _ _ _ hitems).1
          simp only [List.length_cons]
          omega
      unfold Wire.readMaps
      rw [hspells.record (by omega)]
      rcases hnext with ⟨rfl, rfl⟩ | ⟨later', items', rfl, rfl, hitems⟩
      · rw [List.mapM_cons]
        cases Decode.map item <;> rfl
      · rw [List.mapM_cons]
        cases Decode.map item with
        | error p => rfl
        | ok r =>
            simp only [List.length_cons] at hshorter
            have hmaps : Wire.readMaps depth fuel' later' = _ := ih hitems (by omega)
            show Except.bind (.ok (r, .comma :: later')) _ = _
            unfold Except.bind
            dsimp only
            split
            next heq =>
              cases heq
              exact absurd hitems elements_closeArray_ne_ok
            next heq =>
              cases heq
              rw [hmaps]
              cases items'.mapM Decode.map <;> rfl
            next heq => cases heq
            next hcomma _ => exact absurd rfl (hcomma _)

/-- An array is empty, or its elements follow. -/
theorem array_inv (h : value (fuel + 1) depth (.openArray :: tokens) = .ok (.array items, rest)) :
    (tokens = .closeArray :: rest ∧ items = [])
      ∨ elements fuel (depth - 1) tokens = .ok (items, rest) := by
  unfold value at h
  dsimp only at h
  split at h
  · cases h
  · split at h
    · cases h
      exact .inl ⟨rfl, rfl⟩
    · obtain ⟨_, hitems, heq⟩ := bind_eq_ok h
      cases heq
      exact .inr hitems

/-- An object is empty, or its members follow. -/
theorem object_inv {after : List (String × Value)}
    (h : value (fuel + 1) depth (.openObject :: tokens) = .ok (.object after, rest)) :
    (tokens = .closeObject :: rest ∧ after = [])
      ∨ members fuel (depth - 1) [] tokens = .ok (after, rest) := by
  unfold value at h
  dsimp only at h
  split at h
  · cases h
  · split at h
    · cases h
      exact .inl ⟨rfl, rfl⟩
    · obtain ⟨_, hmembers, heq⟩ := bind_eq_ok h
      cases heq
      exact .inr hmembers

/-- Members do not start with the end of an object. -/
theorem members_closeObject_ne_ok {before after : List (String × Value)} {later : List Token} :
    members fuel depth before (.closeObject :: later) ≠ .ok (after, rest) := by
  cases fuel <;> exact nofun

theorem value_openObject (hdepth : ¬ depth ≤ 1) {after : List (String × Value)}
    (h : members fuel (depth - 1) [] tokens = .ok (after, rest)) :
    value (fuel + 1) depth (.openObject :: tokens) = .ok (.object after, rest) := by
  unfold value
  dsimp only
  rw [if_neg hdepth]
  split
  next => exact absurd h members_closeObject_ne_ok
  next =>
    rw [h]
    rfl

/-- A list of maps that is encoded in a text comes to what the value in the text
does. -/
theorem readMapList_of_parse {text : String} (h : parse text = .ok v) :
    Wire.readMapList text = Decode.sequence Decode.map v := by
  unfold parse at h
  unfold Wire.readMapList
  dsimp only at h ⊢
  rw [complete_eq_ok_iff] at h
  generalize Json.tokens text = tokens at h ⊢
  have hspells : Spells maxDepth tokens v [] := ⟨_, h⟩
  cases hspells.starts with
  | array items later =>
      rcases array_inv h with ⟨rfl, rfl⟩ | hitems
      · rfl
      · have hmaps : Wire.readMaps (maxDepth - 1) (later.length + 2) later = _ :=
          readMaps_of_elements hitems (by simp)
        unfold Wire.maps
        split
        next heq =>
          cases heq
          exact absurd hitems elements_closeArray_ne_ok
        next heq =>
          cases heq
          rw [List.length_cons, hmaps]
          show complete ((items.mapM Decode.map).map (·, [])) = items.mapM Decode.map
          cases items.mapM Decode.map <;> rfl
        next hopen => exact absurd rfl (hopen _)
  | _ => rfl

-- ============================================================= passing over a value

/-- After a member of an object comes another one or the end. -/
theorem members_inv {before after : List (String × Value)}
    (h : members (fuel + 1) depth before tokens = .ok (after, rest)) :
    ∃ name item tokens' later, tokens = .string (some name) :: .colon :: tokens'
      ∧ value fuel depth tokens' = .ok (item, later)
      ∧ ((later = .closeObject :: rest ∧ after = insertMember name item before)
        ∨ ∃ later', later = .comma :: later'
          ∧ members fuel depth (insertMember name item before) later' = .ok (after, rest)) := by
  unfold members at h
  split at h
  next name tokens' =>
    obtain ⟨⟨item, later⟩, hitem, h⟩ := bind_eq_ok h
    refine ⟨name, item, tokens', later, rfl, hitem, ?_⟩
    dsimp only at h
    split at h
    next => exact .inr ⟨_, rfl, h⟩
    next =>
      cases h
      exact .inl ⟨rfl, rfl⟩
    next => cases h
  next => cases h

theorem skip_openArray (h : ∀ later, tokens ≠ .closeArray :: later) :
    skip (fuel + 1) (.openArray :: tokens) = skipElements fuel tokens := by
  cases tokens with
  | nil => rfl
  | cons t later =>
      cases t with
      | closeArray => exact absurd rfl (h later)
      | _ => rfl

theorem skip_openObject (h : ∀ later, tokens ≠ .closeObject :: later) :
    skip (fuel + 1) (.openObject :: tokens) = skipMembers fuel tokens := by
  cases tokens with
  | nil => rfl
  | cons t later =>
      cases t with
      | closeObject => exact absurd rfl (h later)
      | _ => rfl

/-- What is read can be passed over, with the same fuel. -/
structure Skipped (fuel : Nat) : Prop where
  value : ∀ depth tokens v rest, value fuel depth tokens = .ok (v, rest) →
    skip fuel tokens = .ok rest
  elements : ∀ depth tokens vs rest, elements fuel depth tokens = .ok (vs, rest) →
    skipElements fuel tokens = .ok rest
  members : ∀ depth before tokens after rest,
    members fuel depth before tokens = .ok (after, rest) → skipMembers fuel tokens = .ok rest

theorem Skipped.value_succ (ih : Skipped fuel)
    (h : Json.value (fuel + 1) depth tokens = .ok (v, rest)) :
    skip (fuel + 1) tokens = .ok rest := by
  have hspells : Spells depth tokens v rest := ⟨_, h⟩
  cases hspells.starts with
  | array items later =>
      rcases array_inv h with ⟨rfl, -⟩ | hitems
      · rfl
      · rw [skip_openArray (by rintro _ rfl; exact elements_closeArray_ne_ok hitems)]
        exact ih.elements _ _ _ _ hitems
  | object members later =>
      rcases object_inv h with ⟨rfl, -⟩ | hmembers
      · rfl
      · rw [skip_openObject (by rintro _ rfl; exact members_closeObject_ne_ok hmembers)]
        exact ih.members _ _ _ _ _ hmembers
  | _ => rfl

theorem Skipped.elements_succ (ih : Skipped fuel)
    (h : Json.elements (fuel + 1) depth tokens = .ok (items, rest)) :
    skipElements (fuel + 1) tokens = .ok rest := by
  obtain ⟨item, later, hitem, hnext⟩ := elements_inv h
  unfold skipElements
  rw [ih.value _ _ _ _ hitem]
  rcases hnext with ⟨rfl, -⟩ | ⟨later', items', rfl, -, hitems⟩
  · rfl
  · exact ih.elements _ _ _ _ hitems

theorem Skipped.members_succ (ih : Skipped fuel) {before after : List (String × Value)}
    (h : Json.members (fuel + 1) depth before tokens = .ok (after, rest)) :
    skipMembers (fuel + 1) tokens = .ok rest := by
  obtain ⟨name, item, tokens', later, rfl, hitem, hnext⟩ := members_inv h
  unfold skipMembers
  dsimp only
  rw [ih.value _ _ _ _ hitem]
  rcases hnext with ⟨rfl, -⟩ | ⟨later', rfl, hmembers⟩
  · rfl
  · exact ih.members _ _ _ _ _ hmembers

theorem skipped (fuel : Nat) : Skipped fuel := by
  induction fuel with
  | zero =>
      exact ⟨fun _ _ _ _ h => (nomatch h), fun _ _ _ _ h => (nomatch h),
        fun _ _ _ _ _ h => (nomatch h)⟩
  | succ fuel ih =>
      exact ⟨fun _ _ _ _ => ih.value_succ, fun _ _ _ _ => ih.elements_succ,
        fun _ _ _ _ _ => ih.members_succ⟩

theorem Spells.skip (h : Spells depth tokens v rest)
    (hfuel : tokens.length ≤ fuel + rest.length) : Json.skip fuel tokens = .ok rest :=
  (skipped fuel).value _ _ _ _ (h.uses.2 fuel hfuel)

-- ========================================================== members as they are written

/-- The tokens go through the members of an object to its end, in this order. -/
inductive Entries (depth : Nat) :
    List Token → List (String × Value) → List Token → Prop where
  | last {name : String} {tokens rest : List Token} {v : Value}
      (h : Spells depth tokens v (.closeObject :: rest)) :
      Entries depth (.string (some name) :: .colon :: tokens) [(name, v)] rest
  | more {name : String} {tokens later rest : List Token} {v : Value}
      {entries : List (String × Value)} (h : Spells depth tokens v (.comma :: later))
      (hlater : Entries depth later entries rest) :
      Entries depth (.string (some name) :: .colon :: tokens) ((name, v) :: entries) rest

/-- A text is an object with these members, as they stand there one after the other. -/
inductive Lists (text : String) : List (String × Value) → Prop where
  | empty (h : Json.tokens text = [.openObject, .closeObject]) : Lists text []
  | members {tokens : List Token} {entries : List (String × Value)}
      (h : Json.tokens text = .openObject :: tokens)
      (hentries : Entries (maxDepth - 1) tokens entries []) : Lists text entries

/-- Puts members into others one after the other. -/
def insertAll (before entries : List (String × Value)) : List (String × Value) :=
  entries.foldl (fun members entry => insertMember entry.1 entry.2 members) before

theorem entries_of_members {before after : List (String × Value)}
    (h : members fuel depth before tokens = .ok (after, rest)) :
    ∃ entries, Entries depth tokens entries rest ∧ after = insertAll before entries := by
  induction fuel generalizing before tokens with
  | zero => cases h
  | succ fuel ih =>
      obtain ⟨name, item, tokens', later, rfl, hitem, ⟨rfl, rfl⟩ | ⟨later', rfl, hmembers⟩⟩ :=
        members_inv h
      · exact ⟨[(name, item)], .last ⟨fuel, hitem⟩, rfl⟩
      · obtain ⟨entries, hentries, rfl⟩ := ih hmembers
        exact ⟨(name, item) :: entries, .more ⟨fuel, hitem⟩ hentries, rfl⟩

theorem Entries.uses {entries : List (String × Value)} (h : Entries depth tokens entries rest)
    (before : List (String × Value)) :
    Uses (fun f => members f depth before tokens) tokens (insertAll before entries) rest := by
  induction h generalizing before with
  | last h =>
      obtain ⟨hlt, hread⟩ := h.uses
      simp only [List.length_cons] at hlt hread
      refine uses_of_succ (by simp only [List.length_cons]; omega) fun f hf => ?_
      simp only [List.length_cons] at hf
      have hitem : value f _ _ = _ := hread f (by omega)
      unfold members
      dsimp only
      rw [hitem]
      rfl
  | more h hlater ih =>
      obtain ⟨hlt, hread⟩ := h.uses
      obtain ⟨hlt', hread'⟩ := ih _
      simp only [List.length_cons] at hlt hread
      refine uses_of_succ (by simp only [List.length_cons]; omega) fun f hf => ?_
      simp only [List.length_cons] at hf
      have hitem : value f _ _ = _ := hread f (by omega)
      have hmembers : members f _ _ _ = _ := hread' f (by omega)
      unfold members
      dsimp only
      rw [hitem]
      exact hmembers

/-- Tokens have one list of members at most. -/
theorem Entries.unique {entries entries' : List (String × Value)}
    (h : Entries depth tokens entries rest) (h' : Entries depth tokens entries' rest') :
    entries' = entries := by
  induction h generalizing entries' with
  | last h =>
      cases h' with
      | last h' => rw [(h.unique h').1]
      | more h' _ => cases (h.unique h').2
  | more h _ ih =>
      cases h' with
      | last h' => cases (h.unique h').2
      | more h' hlater' =>
          obtain ⟨rfl, heq⟩ := h.unique h'
          cases heq
          rw [ih hlater']

theorem Lists.unique {text : String} {entries entries' : List (String × Value)}
    (h : Lists text entries) (h' : Lists text entries') : entries' = entries := by
  cases h with
  | empty h =>
      cases h' with
      | empty => rfl
      | members h' hentries =>
          rw [h] at h'
          cases h'
          cases hentries
  | members h hentries =>
      cases h' with
      | empty h' =>
          rw [h] at h'
          cases h'
          cases hentries
      | members h' hentries' =>
          rw [h] at h'
          cases h'
          exact hentries.unique hentries'

theorem members_ofList (entries : List (String × Value)) :
    (Record.ofList entries).members = insertAll [] entries := by
  unfold Record.ofList insertAll
  exact (List.foldl_hom Record.members fun _ _ => rfl).symm

/-- A text that is an object has its members in an order, and is read as a record of
them, where the last of a name counts. -/
theorem parse_eq_object_iff {text : String} {attributes : List (String × Value)} :
    parse text = .ok (.object attributes)
      ↔ ∃ entries, Lists text entries ∧ attributes = (Record.ofList entries).members := by
  unfold parse
  dsimp only
  rw [complete_eq_ok_iff]
  simp only [members_ofList]
  constructor
  · intro h
    have hspells : Spells maxDepth (Json.tokens text) (.object attributes) [] := ⟨_, h⟩
    generalize htokens : Json.tokens text = tokens at h hspells
    cases hspells.starts with
    | object _ later =>
        rcases object_inv h with ⟨rfl, rfl⟩ | hmembers
        · exact ⟨[], .empty htokens, rfl⟩
        · obtain ⟨entries, hentries, rfl⟩ := entries_of_members hmembers
          exact ⟨entries, .members htokens hentries, rfl⟩
  · rintro ⟨entries, hlists, rfl⟩
    cases hlists with
    | empty h =>
        rw [h]
        rfl
    | members h hentries =>
        rw [h]
        exact value_openObject (by decide) ((hentries.uses []).2 _ (Nat.le_succ _))

end

end CheckGateway.Json
