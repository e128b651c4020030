/-
Values that are sent as rows come back as they were.

A shape looks at its own fields only, and it takes a text that is null for one that
is not there. So a row can be given members that the shape does not know, and lose
nulls of optional texts, and it is still read in the same way (`Edit`, `Alike`). What
a value is written as is such a row to begin with.

`Faithful` is what this comes to for lists of values of a kind: they are read back in
order, edits of their rows do not show, and the first row that is broken decides
about all of them. What is read from rows has dates and numbers that can be written, so
rows can be written anew without a change in what they say (`Rewritten`).
-/
import CheckGateway.Proofs.Remote.Rows
import CheckGateway.Proofs.Time.Text
import Mathlib.Data.List.Induction
import Mathlib.Data.String.Basic
import Mathlib.Logic.Relation

namespace CheckGateway

open Json Json.Decode

-- ================================================================= records

namespace Record

variable {r : Record} {name key : String} {v : Value}

/-- The attributes of a record stand in ascending order, each name once. -/
def Ordered (r : Record) : Prop := r.members.Pairwise fun a b => a.1 < b.1

/-- The record without an attribute. -/
def erase (r : Record) (name : String) : Record :=
  ⟨r.members.filter fun entry => entry.1 ≠ name⟩

/-- What is in a list of members after an insertion is the new member or was there
before. -/
theorem mem_insertMember {members : List (String × Value)} {entry : String × Value}
    (h : entry ∈ insertMember name v members) : entry = (name, v) ∨ entry ∈ members := by
  induction members with
  | nil => exact .inl (List.mem_singleton.1 h)
  | cons first rest ih =>
      unfold insertMember at h
      split at h
      · exact List.mem_cons.1 h
      · split at h
        · exact (List.mem_cons.1 h).imp_right (List.mem_cons_of_mem _)
        · rcases List.mem_cons.1 h with rfl | h
          · exact .inr List.mem_cons_self
          · exact (ih h).imp_right (List.mem_cons_of_mem _)

/-- Members stay in order when one is put in. -/
theorem Ordered.insert (h : r.Ordered) (name : String) (v : Value) :
    (r.insert name v).Ordered := by
  obtain ⟨members⟩ := r
  unfold Ordered Record.insert at *
  dsimp only at *
  induction members with
  | nil => exact List.pairwise_singleton _ _
  | cons first rest ih =>
      obtain ⟨hfirst, hrest⟩ := List.pairwise_cons.1 h
      unfold insertMember
      split
      next hlt =>
        refine List.pairwise_cons.2 ⟨?_, h⟩
        exact List.forall_mem_cons.2 ⟨hlt, fun entry hentry => hlt.trans (hfirst entry hentry)⟩
      next hge =>
        split
        next heq =>
          subst heq
          exact List.pairwise_cons.2 ⟨hfirst, hrest⟩
        next hne =>
          refine List.pairwise_cons.2 ⟨fun entry hentry => ?_, ih hrest⟩
          rcases mem_insertMember hentry with rfl | hentry
          · exact lt_of_le_of_ne (not_lt.1 hge) (Ne.symm hne)
          · exact hfirst entry hentry

/-- So those of a record that is written are in order. -/
theorem ordered_ofList (entries : List (String × Value)) : (ofList entries).Ordered := by
  unfold ofList
  refine List.foldlRecOn entries _ (b := empty) (motive := Ordered) .nil ?_
  intro r hr entry _
  exact hr.insert entry.1 entry.2

/-- They stay in order when one is left out. -/
theorem Ordered.erase (h : r.Ordered) (name : String) : (r.erase name).Ordered :=
  List.Pairwise.filter _ h

/-- Each name that occurs has the value that it is given. -/
theorem Ordered.get?_of_mem (h : r.Ordered) (hmem : (name, v) ∈ r.members) :
    r.get? name = some v := by
  obtain ⟨members⟩ := r
  unfold Ordered at h
  unfold get?
  dsimp only at *
  induction members with
  | nil => cases hmem
  | cons first rest ih =>
      obtain ⟨n, w⟩ := first
      obtain ⟨hfirst, hrest⟩ := List.pairwise_cons.1 h
      rw [lookup_cons]
      rcases List.mem_cons.1 hmem with heq | hmem
      · cases heq
        exact if_pos rfl
      · have hlt : n < name := hfirst _ hmem
        rw [if_neg hlt.ne', ih hrest hmem]

/-- A member that is left out is missing, and the others are still there. -/
theorem get?_erase (r : Record) (name key : String) :
    (r.erase name).get? key = if key = name then none else r.get? key := by
  obtain ⟨members⟩ := r
  unfold erase get?
  dsimp only
  induction members with
  | nil => exact (ite_self none).symm
  | cons first rest ih =>
      obtain ⟨n, w⟩ := first
      rw [List.filter_cons, lookup_cons]
      by_cases hn : n = name
      · rw [if_neg (by simpa using hn), ih]
        by_cases hkey : key = name
        · rw [if_pos hkey, if_pos hkey]
        · rw [if_neg hkey, if_neg hkey, if_neg (hn ▸ hkey)]
      · rw [if_pos (by simpa using hn), lookup_cons, ih]
        by_cases hkey : key = n
        · rw [if_pos hkey, if_pos hkey, if_neg (hkey ▸ hn)]
        · rw [if_neg hkey, if_neg hkey]

/-- In a record that is made of some attributes the last of a name counts. -/
theorem get?_ofList (entries : List (String × Value)) (key : String) :
    (ofList entries).get? key = entries.reverse.lookup key := by
  induction entries using List.reverseRecOn with
  | nil => rfl
  | append_singleton entries last ih =>
      have hlast : ofList (entries ++ [last]) = (ofList entries).insert last.1 last.2 :=
        List.foldl_concat ..
      rw [hlast, get?_insert, ih, List.reverse_concat, ← lookup_cons]

/-- A record that is made of some attributes has no others. -/
theorem mem_ofList {entries : List (String × Value)} :
    ∀ entry ∈ (ofList entries).members, entry ∈ entries := by
  unfold ofList
  refine List.foldlRecOn entries _ (b := empty)
    (motive := fun r => ∀ entry ∈ r.members, entry ∈ entries) nofun ?_
  intro r hr added hadded entry hentry
  rcases mem_insertMember hentry with rfl | hentry
  · exact hadded
  · exact hr entry hentry

end Record

-- ============================================================ checked fields

section

variable {fields : List Field} {r r' : Record} {name : String}

/-- What a shape makes of one attribute. -/
def checkEntry (fields : List Field) (entry : String × Value) : Except Problem Unit :=
  match fields.find? fun f => f.name == entry.1 with
  | some f => f.check entry.2
  | none => .ok ()

/-- The fields of a row are checked one member after another. -/
theorem checkFields_eq (fields : List Field) (r : Record) :
    checkFields fields r = forM r.members (checkEntry fields) := rfl

/-- A shape does not look at attributes that are no fields. -/
theorem checkEntry_of_unknown (h : name ∉ fields.map Field.name) (v : Value) :
    checkEntry fields (name, v) = .ok () := by
  have hnone : (fields.find? fun f => f.name == name) = none := by simpa using h
  unfold checkEntry
  rw [hnone]

/-- Nothing is wrong with what can be read. -/
theorem checkEntry_of_read {γ : Type} {read : Value → Except Problem γ} {a : γ} {v : Value}
    (hfind : (fields.find? fun f => f.name == name) = some (field name read))
    (hread : read v = .ok a) : checkEntry fields (name, v) = .ok () := by
  unfold checkEntry field at *
  rw [hfind]
  show (read v).map _ = .ok ()
  rw [hread]
  rfl

/-- Nothing is found wrong with a record that is made of attributes with none of which
anything is wrong. -/
theorem checkFields_written {entries : List (String × Value)} (hr : r = .ofList entries)
    (h : ∀ entry ∈ entries, checkEntry fields entry = .ok ()) : checkFields fields r = .ok () := by
  have hall : ∀ entry ∈ r.members, checkEntry fields entry = .ok () := by
    intro entry hentry
    subst hr
    exact h entry (Record.mem_ofList entry hentry)
  rw [checkFields_eq]
  generalize r.members = members at hall
  induction members with
  | nil => rfl
  | cons first rest ih =>
      obtain ⟨hfirst, hrest⟩ := List.forall_mem_cons.1 hall
      rw [List.forM_cons, hfirst]
      exact ih hrest

/-- An attribute with which nothing can be wrong does not matter. -/
theorem checkFields_insert (h : ∀ v, checkEntry fields (name, v) = .ok ()) (r : Record)
    (v : Value) : checkFields fields (r.insert name v) = checkFields fields r := by
  rw [checkFields_eq, checkFields_eq]
  unfold Record.insert
  dsimp only
  induction r.members with
  | nil =>
      unfold insertMember
      rw [List.forM_cons, h]
      rfl
  | cons first rest ih =>
      unfold insertMember
      split
      · rw [List.forM_cons, h]
        rfl
      · split
        next heq =>
          subst heq
          rw [List.forM_cons, List.forM_cons, h, h first.2]
        next => rw [List.forM_cons, List.forM_cons, ih]

/-- A member that passes its check can be left out. -/
theorem checkFields_erase (h : ∀ v, (name, v) ∈ r.members → checkEntry fields (name, v) = .ok ()) :
    checkFields fields (r.erase name) = checkFields fields r := by
  rw [checkFields_eq, checkFields_eq]
  unfold Record.erase
  dsimp only
  generalize r.members = members at h
  induction members with
  | nil => rfl
  | cons first rest ih =>
      have hrest := ih fun v hv => h v (List.mem_cons_of_mem _ hv)
      rw [List.filter_cons, List.forM_cons]
      split
      · rw [List.forM_cons, hrest]
      next hname =>
        have hfirst : first.1 = name := by simpa using hname
        have hnothing : checkEntry fields first = .ok () := by
          subst hfirst
          exact h first.2 List.mem_cons_self
        rw [hrest, hnothing]
        rfl

end

-- ==================================================================== edits

/-- An edit of a row that does not matter to a shape: a member is added, or
overwritten, that is no field; or a text that is null is left out, where the shape
can do without. -/
inductive Edit (fields : List Field) (optional : List String) : Record → Record → Prop where
  | add {r : Record} {name : String} (v : Value) (hunknown : name ∉ fields.map Field.name) :
      Edit fields optional r (r.insert name v)
  | drop {r : Record} {name : String} (hoptional : name ∈ optional)
      (hnull : r.get? name = some .null) : Edit fields optional r (r.erase name)

/-- Two rows that are the same to a shape. -/
structure Alike (fields : List Field) (optional : List String) (r r' : Record) : Prop where
  check : checkFields fields r = checkFields fields r'
  value : ∀ name ∈ fields.map Field.name, name ∉ optional → r.get? name = r'.get? name
  text : ∀ name ∈ optional, optionalText r name = optionalText r' name

section

variable {fields : List Field} {optional : List String} {r r' r'' : Record}

/-- One edit after another that does not show. -/
theorem Alike.trans (h : Alike fields optional r r') (h' : Alike fields optional r' r'') :
    Alike fields optional r r'' :=
  ⟨h.check.trans h'.check, fun name hf hnot => (h.value name hf hnot).trans (h'.value name hf hnot),
    fun name hname => (h.text name hname).trans (h'.text name hname)⟩

/-- An optional text is read from one member alone. -/
theorem optionalText_congr {name : String} (h : r.get? name = r'.get? name) :
    optionalText r name = optionalText r' name := by
  unfold optionalText orElse
  rw [h]

/-- An edited row has its members in order. -/
theorem Edit.ordered (h : Edit fields optional r r') (hr : r.Ordered) : r'.Ordered := by
  cases h with
  | add v hunknown => exact hr.insert _ v
  | drop hoptional hnull => exact hr.erase _

/-- The fields of a shape fit its optional texts: these are fields, and may be null. -/
def Fits (fields : List Field) (optional : List String) : Prop :=
  ∀ name ∈ optional, name ∈ fields.map Field.name ∧ checkEntry fields (name, .null) = .ok ()

/-- An edit that does not matter to a shape leaves a row that is the same to it. -/
theorem Edit.alike (h : Edit fields optional r r') (hfits : Fits fields optional)
    (hr : r.Ordered) : Alike fields optional r r' := by
  cases h with
  | @add name v hunknown =>
      have hget (key : String) (hkey : key ≠ name) : r.get? key = (r.insert name v).get? key := by
        rw [Record.get?_insert, if_neg hkey]
      have hknown (key : String) (hkey : key ∈ fields.map Field.name) : key ≠ name :=
        ne_of_mem_of_not_mem hkey hunknown
      exact ⟨(checkFields_insert (checkEntry_of_unknown hunknown) r v).symm,
        fun key hkey _ => hget key (hknown key hkey),
        fun key hkey => optionalText_congr (hget key (hknown key (hfits key hkey).1))⟩
  | @drop name hoptional hnull =>
      have hget (key : String) (hkey : key ≠ name) : r.get? key = (r.erase name).get? key := by
        rw [Record.get?_erase, if_neg hkey]
      refine ⟨(checkFields_erase fun v hv => ?_).symm,
        fun key _ hnot => hget key (ne_of_mem_of_not_mem hoptional hnot).symm,
        fun key hkey => ?_⟩
      · have hv := (hr.get?_of_mem hv).symm.trans hnull
        cases hv
        exact (hfits name hoptional).2
      · by_cases hsame : key = name
        · subst hsame
          unfold optionalText orElse
          rw [hnull, Record.get?_erase, if_pos rfl]
          rfl
        · exact optionalText_congr (hget key hsame)

end

-- ================================================================== shapes

section

variable {fields : List Field} {r r' : Record} {name : String} {v : Value} {γ : Type}

/-- A member that must be there is read from that member alone. -/
theorem required_congr (h : r.get? name = r'.get? name) (read : Value → Except Problem γ) :
    required r name read = required r' name read := by
  unfold required
  rw [h]

/-- So is one that has a value if it is missing. -/
theorem orElse_congr (h : r.get? name = r'.get? name) (read : Value → Except Problem γ)
    (default : γ) : orElse r name read default = orElse r' name read default := by
  unfold orElse
  rw [h]

/-- Of a row that has been written, a member reads as what was written. -/
theorem required_written {entries : List (String × Value)} (hr : r = .ofList entries)
    (hv : entries.reverse.lookup name = some v) (read : Value → Except Problem γ) :
    required r name read = read v := by
  unfold required
  rw [hr, Record.get?_ofList, hv]

/-- It does so too where it could be missing. -/
theorem orElse_written {entries : List (String × Value)} (hr : r = .ofList entries)
    (hv : entries.reverse.lookup name = some v) (read : Value → Except Problem γ) (default : γ) :
    orElse r name read default = read v := by
  unfold orElse
  rw [hr, Record.get?_ofList, hv]

/-- A text that may be missing is written as null then, and reads back. -/
theorem optional_stringOrNull (text : Option String) :
    optional string (.stringOrNull text) = .ok text := by
  cases text <;> rfl

/-- So does one of a row that has been written. -/
theorem optionalText_written {entries : List (String × Value)} {text : Option String}
    (hr : r = .ofList entries) (hv : entries.reverse.lookup name = some (.stringOrNull text)) :
    optionalText r name = .ok text :=
  (orElse_written hr hv _ _).trans (optional_stringOrNull text)

/-- Numbers within the range of 32 bits are read. -/
theorem int32_int {i : Int} (h : Text.int32Min ≤ i ∧ i ≤ Text.int32Max) :
    int32 (.int i) = .ok i := if_pos h

/-- Numbers within the range of 64 bits are read. -/
theorem int64_int {i : Int} (h : Text.int64Min ≤ i ∧ i ≤ Text.int64Max) :
    int64 (.int i) = .ok i := if_pos h

/-- Whole numbers are read within their bounds. -/
theorem integer_bounds {min max i : Int} {expected : String}
    (h : integer min max expected v = .ok i) : min ≤ i ∧ i ≤ max := by
  unfold integer at h
  split at h
  · split at h
    next hbounds =>
      cases h
      exact hbounds
    · cases h
  · cases h

/-- Timestamps that are read can be written. -/
theorem timestamp_text {t : Timestamp} (h : timestamp v = .ok t) : Time.read t.text = .ok t := by
  unfold timestamp at h
  split at h
  · split at h
    next hread =>
      cases h
      exact Time.read_text_of_read hread
    · cases h
  · cases h

/-- What has been read of a member that must be there was in it. -/
theorem required_eq_ok {read : Value → Except Problem γ} {a : γ}
    (h : required r name read = .ok a) : ∃ v, read v = .ok a := by
  unfold required at h
  split at h
  · exact ⟨_, h⟩
  · cases h

/-- What has been read of another was in it, or stands in for it. -/
theorem orElse_eq_ok {read : Value → Except Problem γ} {default a : γ}
    (h : orElse r name read default = .ok a) : (∃ v, read v = .ok a) ∨ a = default := by
  unfold orElse at h
  split at h
  · exact .inl ⟨_, h⟩
  · cases h
    exact .inr rfl

/-- A count is within bounds, if it is there or not. -/
theorem count_bounds {i : Int} (h : orElse r name int64 0 = .ok i) :
    Text.int64Min ≤ i ∧ i ≤ Text.int64Max := by
  rcases orElse_eq_ok h with ⟨v, h⟩ | rfl
  · exact integer_bounds h
  · decide

/-- A list of texts reads back. -/
theorem sequence_strings (texts : List String) :
    sequence string (.array (texts.map .string)) = .ok texts := by
  show (texts.map Value.string).mapM string = .ok texts
  rw [mapM_eq_ok_iff, List.forall₂_map_left_iff, List.forall₂_same]
  exact fun _ _ => rfl

end

namespace QueuedMessage

/-- The texts that an entry's row can do without. -/
def optionalTexts : List String :=
  ["id", "text", "fromJobName", "fromJobNumber", "user", "replyStatus"]

/-- An entry is read from what its shape sees of the row. -/
theorem ofRow_congr {r r' : Record} (h : Alike fields optionalTexts r r') :
    ofRow r = ofRow r' := by
  unfold ofRow
  rw [h.check, required_congr (h.value "date" (by decide) (by decide)),
    required_congr (h.value "severity" (by decide) (by decide)), h.text "id" (by decide),
    h.text "text" (by decide), h.text "fromJobName" (by decide),
    h.text "fromJobNumber" (by decide), h.text "user" (by decide),
    h.text "replyStatus" (by decide)]

/-- An entry comes through if its date does and its severity has 32 bits. -/
theorem ofRow_toRow {m : QueuedMessage} (hdate : Time.read m.date.text = .ok m.date)
    (hseverity : Text.int32Min ≤ m.severity ∧ m.severity ≤ Text.int32Max) :
    ofRow (toRow m) = .ok m := by
  have hdate : timestamp (.string m.date.text) = .ok m.date := by
    unfold timestamp
    dsimp only
    rw [hdate]
  have hrow : toRow m = .ofList _ := rfl
  have hcheck : checkFields fields (toRow m) = .ok () := by
    refine checkFields_written hrow ?_
    simp only [List.forall_mem_cons]
    refine ⟨checkEntry_of_read rfl hdate, checkEntry_of_read rfl (int32_int hseverity), ?_, ?_,
      ?_, ?_, ?_, ?_, nofun⟩
    all_goals exact checkEntry_of_read rfl (optional_stringOrNull _)
  unfold ofRow
  rw [hcheck, required_written hrow rfl, hdate, required_written hrow rfl, int32_int hseverity,
    optionalText_written hrow rfl, optionalText_written hrow rfl, optionalText_written hrow rfl,
    optionalText_written hrow rfl, optionalText_written hrow rfl, optionalText_written hrow rfl]
  rfl

/-- What is read as an entry can be written as one. -/
theorem toRow_of_ofRow {r : Record} {m : QueuedMessage} (h : ofRow r = .ok m) :
    ofRow (toRow m) = .ok m := by
  obtain ⟨_, -, hread⟩ := bind_eq_ok h
  obtain ⟨date, hdate, hread⟩ := bind_eq_ok hread
  obtain ⟨severity, hseverity, hread⟩ := bind_eq_ok hread
  obtain ⟨id, -, hread⟩ := bind_eq_ok hread
  obtain ⟨text, -, hread⟩ := bind_eq_ok hread
  obtain ⟨fromJobName, -, hread⟩ := bind_eq_ok hread
  obtain ⟨fromJobNumber, -, hread⟩ := bind_eq_ok hread
  obtain ⟨user, -, hread⟩ := bind_eq_ok hread
  obtain ⟨replyStatus, -, hread⟩ := bind_eq_ok hread
  cases hread
  obtain ⟨_, hdate⟩ := required_eq_ok hdate
  obtain ⟨_, hseverity⟩ := required_eq_ok hseverity
  exact ofRow_toRow (timestamp_text hdate) (integer_bounds hseverity)

end QueuedMessage

namespace ActiveJob

/-- The texts that a job's row can do without. -/
def optionalTexts : List String := ["subsystem", "status", "activeStatus", "currentLibrary"]

/-- An active job is read from what its shape sees of the row. -/
theorem ofRow_congr {r r' : Record} (h : Alike fields optionalTexts r r') :
    ofRow r = ofRow r' := by
  unfold ofRow
  rw [h.check, required_congr (h.value "name" (by decide) (by decide)),
    h.text "subsystem" (by decide), h.text "status" (by decide),
    h.text "activeStatus" (by decide), h.text "currentLibrary" (by decide)]

/-- Every active job comes through. -/
theorem ofRow_toRow (j : ActiveJob) : ofRow (toRow j) = .ok j := by
  have hrow : toRow j = .ofList _ := rfl
  have hname : string (.string j.name) = .ok j.name := rfl
  have hcheck : checkFields fields (toRow j) = .ok () := by
    refine checkFields_written hrow ?_
    simp only [List.forall_mem_cons]
    refine ⟨checkEntry_of_read rfl hname, ?_, ?_, ?_, ?_, nofun⟩
    all_goals exact checkEntry_of_read rfl (optional_stringOrNull _)
  unfold ofRow
  rw [hcheck, required_written hrow rfl, hname, optionalText_written hrow rfl,
    optionalText_written hrow rfl, optionalText_written hrow rfl, optionalText_written hrow rfl]
  rfl

end ActiveJob

namespace DiskUnit

/-- The numbers of a disk unit have the size of their fields. -/
def InRange (d : DiskUnit) : Prop :=
  (Text.int32Min ≤ d.unitControl ∧ d.unitControl ≤ Text.int32Max)
    ∧ (Text.int64Min ≤ d.capacityMib ∧ d.capacityMib ≤ Text.int64Max)
    ∧ (Text.int64Min ≤ d.availableMib ∧ d.availableMib ≤ Text.int64Max)
    ∧ (Text.int64Min ≤ d.reservedMib ∧ d.reservedMib ≤ Text.int64Max)

/-- A disk unit is read from what its shape sees of the row. -/
theorem ofRow_congr {r r' : Record} (h : Alike fields [] r r') : ofRow r = ofRow r' := by
  have hvalue (name : String) (hname : name ∈ fields.map Field.name) : r.get? name = r'.get? name :=
    h.value name hname List.not_mem_nil
  unfold ofRow
  rw [h.check, required_congr (hvalue "resourceName" (by decide)),
    required_congr (hvalue "unitControl" (by decide)),
    required_congr (hvalue "capacityMib" (by decide)),
    required_congr (hvalue "availableMib" (by decide)),
    required_congr (hvalue "reservedMib" (by decide))]

/-- A disk unit comes through if its numbers are in range. -/
theorem ofRow_toRow {d : DiskUnit} (h : d.InRange) : ofRow (toRow d) = .ok d := by
  obtain ⟨hcontrol, hcapacity, havailable, hreserved⟩ := h
  have hrow : toRow d = .ofList _ := rfl
  have hname : string (.string d.resourceName) = .ok d.resourceName := rfl
  have hcheck : checkFields fields (toRow d) = .ok () := by
    refine checkFields_written hrow ?_
    simp only [List.forall_mem_cons]
    exact ⟨checkEntry_of_read rfl hname, checkEntry_of_read rfl (int32_int hcontrol),
      checkEntry_of_read rfl (int64_int hcapacity), checkEntry_of_read rfl (int64_int havailable),
      checkEntry_of_read rfl (int64_int hreserved), nofun⟩
  unfold ofRow
  rw [hcheck, required_written hrow rfl, hname, required_written hrow rfl, int32_int hcontrol,
    required_written hrow rfl, int64_int hcapacity, required_written hrow rfl,
    int64_int havailable, required_written hrow rfl, int64_int hreserved]
  rfl

/-- What is read as a disk unit can be written as one. -/
theorem toRow_of_ofRow {r : Record} {d : DiskUnit} (h : ofRow r = .ok d) :
    ofRow (toRow d) = .ok d := by
  obtain ⟨_, -, hread⟩ := bind_eq_ok h
  obtain ⟨name, -, hread⟩ := bind_eq_ok hread
  obtain ⟨control, hcontrol, hread⟩ := bind_eq_ok hread
  obtain ⟨capacity, hcapacity, hread⟩ := bind_eq_ok hread
  obtain ⟨available, havailable, hread⟩ := bind_eq_ok hread
  obtain ⟨reserved, hreserved, hread⟩ := bind_eq_ok hread
  cases hread
  obtain ⟨_, hcontrol⟩ := required_eq_ok hcontrol
  obtain ⟨_, hcapacity⟩ := required_eq_ok hcapacity
  obtain ⟨_, havailable⟩ := required_eq_ok havailable
  obtain ⟨_, hreserved⟩ := required_eq_ok hreserved
  exact ofRow_toRow ⟨integer_bounds hcontrol, integer_bounds hcapacity,
    integer_bounds havailable, integer_bounds hreserved⟩

end DiskUnit

namespace JobQueueStatus

/-- The texts that a job queue's row can do without. -/
def optionalTexts : List String := ["status"]

/-- The counts of a job queue have the size of their fields. -/
def InRange (q : JobQueueStatus) : Prop :=
  (Text.int64Min ≤ q.activeJobs ∧ q.activeJobs ≤ Text.int64Max)
    ∧ (Text.int64Min ≤ q.heldJobs ∧ q.heldJobs ≤ Text.int64Max)
    ∧ (Text.int64Min ≤ q.scheduledJobs ∧ q.scheduledJobs ≤ Text.int64Max)

/-- The state of a job queue is read from what its shape sees of the row. -/
theorem ofRow_congr {r r' : Record} (h : Alike fields optionalTexts r r') :
    ofRow r = ofRow r' := by
  unfold ofRow
  rw [h.check, required_congr (h.value "name" (by decide) (by decide)),
    required_congr (h.value "library" (by decide) (by decide)), h.text "status" (by decide),
    orElse_congr (h.value "activeJobs" (by decide) (by decide)),
    orElse_congr (h.value "heldJobs" (by decide) (by decide)),
    orElse_congr (h.value "scheduledJobs" (by decide) (by decide))]

/-- It comes through if its counts are in range. -/
theorem ofRow_toRow {q : JobQueueStatus} (h : q.InRange) : ofRow (toRow q) = .ok q := by
  obtain ⟨hactive, hheld, hscheduled⟩ := h
  have hrow : toRow q = .ofList _ := rfl
  have hstring (s : String) : string (.string s) = .ok s := rfl
  have hcheck : checkFields fields (toRow q) = .ok () := by
    refine checkFields_written hrow ?_
    simp only [List.forall_mem_cons]
    exact ⟨checkEntry_of_read rfl (hstring _), checkEntry_of_read rfl (hstring _),
      checkEntry_of_read rfl (optional_stringOrNull _), checkEntry_of_read rfl (int64_int hactive),
      checkEntry_of_read rfl (int64_int hheld), checkEntry_of_read rfl (int64_int hscheduled),
      nofun⟩
  unfold ofRow
  rw [hcheck, required_written hrow rfl, hstring, required_written hrow rfl, hstring,
    optionalText_written hrow rfl, orElse_written hrow rfl, int64_int hactive,
    orElse_written hrow rfl, int64_int hheld, orElse_written hrow rfl, int64_int hscheduled]
  rfl

/-- What is read as a job queue can be written as one. -/
theorem toRow_of_ofRow {r : Record} {q : JobQueueStatus} (h : ofRow r = .ok q) :
    ofRow (toRow q) = .ok q := by
  obtain ⟨_, -, hread⟩ := bind_eq_ok h
  obtain ⟨name, -, hread⟩ := bind_eq_ok hread
  obtain ⟨library, -, hread⟩ := bind_eq_ok hread
  obtain ⟨status, -, hread⟩ := bind_eq_ok hread
  obtain ⟨active, hactive, hread⟩ := bind_eq_ok hread
  obtain ⟨held, hheld, hread⟩ := bind_eq_ok hread
  obtain ⟨scheduled, hscheduled, hread⟩ := bind_eq_ok hread
  cases hread
  exact ofRow_toRow ⟨count_bounds hactive, count_bounds hheld, count_bounds hscheduled⟩

end JobQueueStatus

namespace CommandRun

/-- How a command went is read from what its shape sees of the row. -/
theorem ofRow_congr {r r' : Record} (h : Alike fields [] r r') : ofRow r = ofRow r' := by
  unfold ofRow
  rw [h.check, required_congr (h.value "success" (by decide) List.not_mem_nil),
    orElse_congr (h.value "messages" (by decide) List.not_mem_nil)]

/-- It always comes through. -/
theorem ofRow_toRow (c : CommandRun) : ofRow (toRow c) = .ok c := by
  have hrow : toRow c = .ofList _ := rfl
  have hsuccess : Decode.bool (.bool c.success) = .ok c.success := rfl
  have hcheck : checkFields fields (toRow c) = .ok () := by
    refine checkFields_written hrow ?_
    simp only [List.forall_mem_cons]
    exact ⟨checkEntry_of_read rfl hsuccess, checkEntry_of_read rfl (sequence_strings _), nofun⟩
  unfold ofRow
  rw [hcheck, required_written hrow rfl, hsuccess, orElse_written hrow rfl, sequence_strings]
  rfl

end CommandRun

-- =================================================================== lists

/-- Lists of values of a kind come through as rows. Those that can be written are read
back in order; edits of rows do not show, and values are written as rows that can be
edited; and if some rows are broken, the first of them breaks the protocol for the
whole answer. -/
structure Faithful (α : Type) [RowShape α] (fields : List Field) (optional : List String)
    (Writable : α → Prop) : Prop where
  read_back : ∀ (query : String) (items : List α), (∀ a ∈ items, Writable a) →
    readRows α query (writeRows items) = .ok items
  ordered : ∀ a : α, (RowShape.toRow a).Ordered
  edited : ∀ (query : String) (rows rows' : List Record), (∀ row ∈ rows, row.Ordered) →
    List.Forall₂ (Relation.ReflTransGen (Edit fields optional)) rows rows' →
    readRows α query rows' = readRows α query rows
  broken : ∀ (query : String) (rows : List Record),
    (∃ row ∈ rows, ∃ problem, (RowShape.ofRow row : Except Problem α) = .error problem) →
    ∃ before row after problem, rows = before ++ row :: after
      ∧ (∀ r ∈ before, ∃ a : α, RowShape.ofRow r = .ok a)
      ∧ (RowShape.ofRow row : Except Problem α) = .error problem
      ∧ readRows α query rows = .error (.protocol query problem.message)

section

variable {α : Type} [RowShape α] {fields : List Field} {optional : List String}
  {Writable : α → Prop} {query : String} {rows rows' : List Record}

/-- Rows that are read alike one by one are read alike together. -/
theorem readRows_congr (h : List.Forall₂
      (fun r r' => (RowShape.ofRow r' : Except Problem α) = RowShape.ofRow r) rows rows') :
    readRows α query rows' = readRows α query rows := by
  rw [readRows_eq, readRows_eq]
  induction h with
  | nil => rfl
  | cons hrow _ ih => rw [List.mapM_cons, List.mapM_cons, hrow, ih]

/-- However often a row is edited, the shape sees the same in it. -/
theorem alike_of_edits (hfits : Fits fields optional) {r r' : Record} (hr : r.Ordered)
    (hedits : Relation.ReflTransGen (Edit fields optional) r r') :
    Alike fields optional r r' ∧ r'.Ordered := by
  induction hedits with
  | refl => exact ⟨⟨rfl, fun _ _ _ => rfl, fun _ _ => rfl⟩, hr⟩
  | tail _ hedit ih =>
      obtain ⟨halike, hordered⟩ := ih
      exact ⟨halike.trans (hedit.alike hfits hordered), hedit.ordered hordered⟩

/-- An answer that has a broken row has a first one. -/
theorem readRows_of_broken
    (h : ∃ row ∈ rows, ∃ problem, (RowShape.ofRow row : Except Problem α) = .error problem) :
    ∃ before row after problem, rows = before ++ row :: after
      ∧ (∀ r ∈ before, ∃ a : α, RowShape.ofRow r = .ok a)
      ∧ (RowShape.ofRow row : Except Problem α) = .error problem
      ∧ readRows α query rows = .error (.protocol query problem.message) := by
  obtain ⟨row, hmem, problem, hbroken⟩ := h
  cases hread : readRows α query rows with
  | ok items =>
      obtain ⟨a, ha⟩ := exists_of_forall₂ (readRows_eq_ok_iff.1 hread) row hmem
      rw [hbroken] at ha
      cases ha
  | error e =>
      obtain ⟨before, first, after, reason, hrows, hbefore, hfirst, rfl⟩ :=
        readRows_eq_error_iff.1 hread
      exact ⟨before, first, after, reason, hrows, hbefore, hfirst, rfl⟩

/-- It is enough to look at one row. -/
theorem faithful_of_rows (hfits : Fits fields optional)
    (hread : ∀ a : α, Writable a → RowShape.ofRow (RowShape.toRow a) = .ok a)
    (hwritten : ∀ a : α, ∃ entries, RowShape.toRow a = .ofList entries)
    (hcongr : ∀ r r', Alike fields optional r r' →
      (RowShape.ofRow r : Except Problem α) = RowShape.ofRow r') :
    Faithful α fields optional Writable where
  read_back query items hitems := readRows_writeRows query fun a ha => hread a (hitems a ha)
  ordered a := by
    obtain ⟨entries, hrow⟩ := hwritten a
    rw [hrow]
    exact Record.ordered_ofList entries
  edited query rows rows' hordered hedits := by
    refine readRows_congr ?_
    have hboth := (List.forall₂_and_left rows rows').2 ⟨hordered, hedits⟩
    refine hboth.imp fun r r' h => ?_
    exact (hcongr r r' (alike_of_edits hfits h.1 h.2).1).symm
  broken _ _ := readRows_of_broken

/-- Rows that have been read can be written anew: they may change, but not in what is
read from them. -/
def Rewritten (α : Type) [RowShape α] : Prop :=
  ∀ (query : String) (rows : List Record) (items : List α), readRows α query rows = .ok items →
    readRows α query (writeRows items) = .ok items

/-- Rows can be written anew if each of them can. -/
theorem rewritten_of_rows (h : ∀ (r : Record) (a : α), RowShape.ofRow r = .ok a →
    RowShape.ofRow (RowShape.toRow a) = .ok a) : Rewritten α := by
  intro query rows items hread
  refine readRows_writeRows query fun a ha => ?_
  obtain ⟨row, hrow⟩ := exists_of_forall₂ (readRows_eq_ok_iff.1 hread).flip a ha
  exact h row a hrow

/-- Nothing has to be known of rows that have been read: the dates and numbers that are
in them can be written. -/
theorem rows_rewritten : Rewritten QueuedMessage ∧ Rewritten ActiveJob ∧ Rewritten DiskUnit
    ∧ Rewritten JobQueueStatus ∧ Rewritten CommandRun :=
  ⟨rewritten_of_rows fun _ _ => QueuedMessage.toRow_of_ofRow,
    rewritten_of_rows fun _ j _ => ActiveJob.ofRow_toRow j,
    rewritten_of_rows fun _ _ => DiskUnit.toRow_of_ofRow,
    rewritten_of_rows fun _ _ => JobQueueStatus.toRow_of_ofRow,
    rewritten_of_rows fun _ c _ => CommandRun.ofRow_toRow c⟩

/-- Queue entries, jobs, disk units, job queues and what commands say come through as
rows, as long as the dates of entries can be read and numbers have their size. -/
theorem rows_come_through :
    Faithful QueuedMessage QueuedMessage.fields QueuedMessage.optionalTexts
        (fun m => Time.read m.date.text = .ok m.date
          ∧ Text.int32Min ≤ m.severity ∧ m.severity ≤ Text.int32Max)
      ∧ Faithful ActiveJob ActiveJob.fields ActiveJob.optionalTexts (fun _ => True)
      ∧ Faithful DiskUnit DiskUnit.fields [] DiskUnit.InRange
      ∧ Faithful JobQueueStatus JobQueueStatus.fields JobQueueStatus.optionalTexts
        JobQueueStatus.InRange
      ∧ Faithful CommandRun CommandRun.fields [] (fun _ => True) := by
  have hnothing (fields : List Field) : Fits fields [] := nofun
  refine ⟨?_, ?_, ?_, ?_, ?_⟩
  · refine faithful_of_rows ?_ (fun m h => QueuedMessage.ofRow_toRow h.1 h.2)
      (fun m => ⟨_, rfl⟩) fun r r' => QueuedMessage.ofRow_congr
    simp only [Fits, QueuedMessage.optionalTexts, List.forall_mem_cons]
    exact ⟨⟨by decide, rfl⟩, ⟨by decide, rfl⟩, ⟨by decide, rfl⟩, ⟨by decide, rfl⟩,
      ⟨by decide, rfl⟩, ⟨by decide, rfl⟩, nofun⟩
  · refine faithful_of_rows ?_ (fun j _ => ActiveJob.ofRow_toRow j) (fun j => ⟨_, rfl⟩)
      fun r r' => ActiveJob.ofRow_congr
    simp only [Fits, ActiveJob.optionalTexts, List.forall_mem_cons]
    exact ⟨⟨by decide, rfl⟩, ⟨by decide, rfl⟩, ⟨by decide, rfl⟩, ⟨by decide, rfl⟩, nofun⟩
  · exact faithful_of_rows (hnothing _) (fun d => DiskUnit.ofRow_toRow) (fun d => ⟨_, rfl⟩)
      fun r r' => DiskUnit.ofRow_congr
  · refine faithful_of_rows ?_ (fun q => JobQueueStatus.ofRow_toRow) (fun q => ⟨_, rfl⟩)
      fun r r' => JobQueueStatus.ofRow_congr
    simp only [Fits, JobQueueStatus.optionalTexts, List.forall_mem_cons]
    exact ⟨⟨by decide, rfl⟩, nofun⟩
  · exact faithful_of_rows (hnothing _) (fun c _ => CommandRun.ofRow_toRow c) (fun c => ⟨_, rfl⟩)
      fun r r' => CommandRun.ofRow_congr

/-- A member that is no field is passed over, and texts that are not there are missing. -/
example : readRows QueuedMessage "messageQueue"
    [⟨[("colour", .int 3), ("date", .string "2024-01-01T00:00:01Z"), ("id", .string "CPF0001"),
      ("severity", .int 40)]⟩]
    = .ok [⟨⟨1704067201, 0⟩, 40, some "CPF0001", none, none, none, none, none⟩] := rfl

end

end CheckGateway
