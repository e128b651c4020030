/-
Payloads that are objects, member by member.

A payload that is an object is a list of members in the order of the text, in which a name
may occur again and again. Four of the members of a request have to be there, as texts;
its arguments may be missing. What is read goes by the members alone: it is a request if
none of its own is there twice or has the wrong kind and none of the four is missing. The
first problem is the one that is told. A member that occurs twice or has the wrong kind is
a problem of the payload, told before one that is missing.

# The argument

Reading the tokens is taking the members in one after the other (`readMembers_eq`), and
what has been taken in is seen through `Members.value?`, in which all five are alike. One
member either leaves the list sound or spoils it (`Holds.take`), and so does a whole list
(`Holds.takeAll`).
-/
import Mathlib
import CheckGateway.Gateway.Registry
import CheckGateway.Proofs.Json.Streamed

namespace CheckGateway.Wire

open Json

/-- The name of a member. -/
def Member.name : Member → String
  | .host => "host"
  | .login => "login"
  | .password => "password"
  | .command => "command"
  | .args => "args"

/-- What a member must be unless it is null. -/
def Member.expected : Member → String
  | .args => "a map"
  | _ => "a string"

/-- The members that have to be there, in the order in which they are missed. -/
def needed : List Member := [.host, .login, .password, .command]

/-- A member may have this value. -/
inductive Fits : Member → Value → Prop where
  | null (member : Member) : Fits member .null
  | text {member : Member} (h : member ∈ needed) (s : String) : Fits member (.string s)
  | map (members : List (String × Value)) : Fits .args (.object members)

/-- No member of a request is there twice, and none has a value that it cannot have. -/
structure Sound (entries : List (String × Value)) : Prop where
  once : ∀ member : Member, (entries.map Prod.fst).count member.name ≤ 1
  fits : ∀ (member : Member) (v : Value), (member.name, v) ∈ entries → Fits member v

/-- What is wrong with the first member of a request that is there again or does not
fit. -/
inductive Spoilt : List (String × Value) → Problem → Prop where
  | again {before after : List (String × Value)} {member : Member} {v : Value}
      (hbefore : Sound before) (h : member.name ∈ before.map Prod.fst) :
      Spoilt (before ++ (member.name, v) :: after) (.duplicateField member.name)
  | unfit {before after : List (String × Value)} {member : Member} {v : Value}
      (hbefore : Sound before) (hnew : member.name ∉ before.map Prod.fst)
      (h : ¬ Fits member v) :
      Spoilt (before ++ (member.name, v) :: after) (Decode.wrongKind member.expected v)

-- =============================================================== taking members in

/-- Sets a member to a value. -/
def Members.set (m : Members) (member : Member) (v : Value) : Except Problem Members :=
  match member with
  | .host => (Decode.optional Decode.string v).map fun s => { m with host := some s }
  | .login => (Decode.optional Decode.string v).map fun s => { m with login := some s }
  | .password => (Decode.optional Decode.string v).map fun s => { m with password := some s }
  | .command => (Decode.optional Decode.string v).map fun s => { m with command := some s }
  | .args => (Decode.optional Decode.map v).map fun r => { m with args := some r }

/-- Takes in a member of an object, if it is one of a request. -/
def take (m : Members) (entry : String × Value) : Except Problem Members :=
  match Member.ofName? entry.1 with
  | none => .ok m
  | some member =>
      if m.has member then .error (.duplicateField entry.1) else m.set member entry.2

/-- The value that a member has had, if it has occurred. -/
def Members.value? (m : Members) : Member → Option Value
  | .host => m.host.map Value.stringOrNull
  | .login => m.login.map Value.stringOrNull
  | .password => m.password.map Value.stringOrNull
  | .command => m.command.map Value.stringOrNull
  | .args => m.args.map fun r => r.elim Value.null Record.toValue

/-- What has been taken in is what these members say. -/
def Holds (m : Members) (entries : List (String × Value)) : Prop :=
  ∀ member : Member, m.value? member = entries.lookup member.name

section

variable {fuel depth : Nat} {tokens rest : List Token} {v : Value} {m : Members}
  {member : Member} {name : String} {before entries : List (String × Value)}

theorem ofName?_eq_some_iff : Member.ofName? name = some member ↔ name = member.name := by
  constructor
  · intro h
    unfold Member.ofName? at h
    split at h <;> cases h <;> rfl
  · rintro rfl
    cases member <;> rfl

theorem name_inj {other : Member} (h : other.name = member.name) : other = member := by
  have hother := ofName?_eq_some_iff.2 h
  rw [ofName?_eq_some_iff.2 rfl] at hother
  exact Option.some.inj hother

theorem has_eq (m : Members) (member : Member) : m.has member = (m.value? member).isSome := by
  cases member <;> exact Option.isSome_map.symm

/-- A text or null is read from its tokens as it is from the value, and so is a map. -/
theorem textOrNull_eq (h : Spells depth tokens v rest) :
    textOrNull tokens = (Decode.optional Decode.string v).map (·, rest) := by
  cases h.starts <;> rfl

theorem recordOrNull_eq (h : Spells depth tokens v rest)
    (hfuel : tokens.length ≤ fuel + 1 + rest.length) :
    recordOrNull fuel depth tokens = (Decode.optional Decode.map v).map (·, rest) := by
  have hrecord := h.record hfuel
  cases h.starts with
  | null => rfl
  | bool | number | string | array => rfl
  | object members later =>
      unfold recordOrNull
      dsimp only
      rw [hrecord]
      rfl

theorem read_eq (h : Spells depth tokens v rest)
    (hfuel : tokens.length ≤ fuel + 1 + rest.length) (m : Members) (member : Member) :
    m.read fuel depth member tokens = (m.set member v).map (·, rest) := by
  cases member with
  | args =>
      unfold Members.read Members.set
      rw [recordOrNull_eq h hfuel]
      cases Decode.optional Decode.map v <;> rfl
  | _ =>
      unfold Members.read Members.set
      rw [textOrNull_eq h]
      cases Decode.optional Decode.string v <;> rfl

/-- A member is taken in, and then comes another one or the end. -/
theorem readMembers_succ {later : List Token} (h : Spells depth tokens v later)
    (hfuel : tokens.length ≤ fuel + later.length) (m : Members) (name : String) :
    readMembers depth (fuel + 1) m (.string (some name) :: .colon :: tokens)
      = take m (name, v) >>= fun m' => match later with
        | .comma :: rest => readMembers depth fuel m' rest
        | .closeObject :: rest => .ok (m', rest)
        | _ => .error .notJson := by
  rw [readMembers]
  unfold take
  dsimp only
  cases Member.ofName? name with
  | none =>
      dsimp only
      rw [h.skip hfuel]
      rfl
  | some member =>
      dsimp only
      rw [read_eq h (by omega)]
      cases m.has member with
      | true => rfl
      | false => cases m.set member v <;> rfl

/-- The members of an object are taken in one after the other. -/
theorem readMembers_eq (h : Entries depth tokens entries rest)
    (hfuel : tokens.length ≤ fuel + rest.length) (m : Members) :
    readMembers depth fuel m tokens = (entries.foldlM take m).map (·, rest) := by
  induction h generalizing fuel m with
  | @last name tokens rest v h =>
      obtain ⟨hlt, -⟩ := h.uses
      simp only [List.length_cons] at hlt hfuel
      obtain ⟨f, rfl⟩ : ∃ f, fuel = f + 1 := ⟨fuel - 1, by omega⟩
      rw [readMembers_succ h (by simp only [List.length_cons]; omega), List.foldlM_cons]
      cases take m (name, v) <;> rfl
  | @more name tokens later rest v entries h hlater ih =>
      obtain ⟨hlt, -⟩ := h.uses
      obtain ⟨hlt', -⟩ := hlater.uses []
      simp only [List.length_cons] at hlt hfuel
      obtain ⟨f, rfl⟩ : ∃ f, fuel = f + 1 := ⟨fuel - 1, by omega⟩
      rw [readMembers_succ h (by simp only [List.length_cons]; omega), List.foldlM_cons]
      cases take m (name, v) with
      | error problem => rfl
      | ok m' => exact ih (by omega) m'

theorem read_of_lists {text : String} (h : Lists text entries) :
    Wire.read text = entries.foldlM take {} := by
  unfold Wire.read
  cases h with
  | empty h =>
      rw [h]
      rfl
  | @members tokens _ h hentries =>
      have hrequest : request (tokens.length + 2) (.openObject :: tokens)
          = readMembers (maxDepth - 1) (tokens.length + 2) {} tokens := by
        cases hentries <;> rfl
      have hread : readMembers (maxDepth - 1) (tokens.length + 2) {} tokens = _ :=
        readMembers_eq hentries (by omega) {}
      rw [h]
      dsimp only
      rw [List.length_cons, hrequest, hread]
      cases entries.foldlM take {} <;> rfl

-- ==================================================== what the members come to

theorem mem_names_iff : name ∈ entries.map Prod.fst ↔ (entries.lookup name).isSome := by
  induction entries with
  | nil => exact iff_of_false List.not_mem_nil Bool.false_ne_true
  | cons entry entries ih =>
      obtain ⟨n, v⟩ := entry
      rw [List.map_cons, List.mem_cons, ih, Record.lookup_cons]
      by_cases h : name = n <;> simp [h]

theorem Sound.mem_iff (h : Sound entries) :
    (member.name, v) ∈ entries ↔ entries.lookup member.name = some v := by
  constructor
  · intro hmem
    obtain ⟨earlier, later, rfl⟩ := List.append_of_mem hmem
    have honce := h.once member
    simp only [List.map_append, List.map_cons, List.count_append, List.count_cons_self] at honce
    have hnew : member.name ∉ earlier.map Prod.fst := List.count_eq_zero.1 (by omega)
    have hnone : earlier.lookup member.name = none := by
      rw [mem_names_iff, Option.not_isSome_iff_eq_none] at hnew
      exact hnew
    rw [List.lookup_append, hnone, List.lookup_cons_self]
    rfl
  · intro hlookup
    obtain ⟨earlier, later, rfl, -⟩ := List.lookup_eq_some_iff.1 hlookup
    exact List.mem_append_right earlier List.mem_cons_self

theorem holds_empty : Holds {} [] := fun member => by cases member <;> rfl

theorem Holds.has_iff (h : Holds m before) :
    m.has member = true ↔ member.name ∈ before.map Prod.fst := by
  rw [has_eq, h member, mem_names_iff]

/-- A member is set to a value that fits it, and the others stay as they are. -/
theorem set_of_fits (h : Fits member v) (m : Members) :
    ∃ m', m.set member v = .ok m' ∧ m'.value? member = some v
      ∧ ∀ other, other ≠ member → m'.value? other = m.value? other := by
  cases h with
  | map members =>
      refine ⟨_, rfl, rfl, fun other hne => ?_⟩
      cases other <;> first | rfl | exact absurd rfl hne
  | null =>
      cases member <;> refine ⟨_, rfl, rfl, fun other hne => ?_⟩ <;>
        cases other <;> first | rfl | exact absurd rfl hne
  | text hneeded s =>
      cases member
      case args => exact absurd hneeded (by decide)
      all_goals
        refine ⟨_, rfl, rfl, fun other hne => ?_⟩
        cases other <;> first | rfl | exact absurd rfl hne

theorem set_of_not_fits (h : ¬ Fits member v) (m : Members) :
    m.set member v = .error (Decode.wrongKind member.expected v) := by
  cases v with
  | null => exact absurd (.null member) h
  | string s =>
      cases member with
      | args => rfl
      | _ => exact absurd (.text (by decide) s) h
  | object members =>
      cases member with
      | args => exact absurd (.map members) h
      | _ => rfl
  | bool | number | array => cases member <;> rfl

theorem sound_nil : Sound [] where
  once := fun _ => Nat.zero_le 1
  fits := nofun

/-- Another member leaves members sound if its name is none of a request, or if it is new
and its value fits. -/
theorem Sound.snoc (h : Sound before)
    (hlast : ∀ member : Member, name = member.name →
      member.name ∉ before.map Prod.fst ∧ Fits member v) : Sound (before ++ [(name, v)]) where
  once := by
    intro member
    rw [List.map_append, List.count_append, List.map_singleton, List.count_singleton]
    by_cases hname : name = member.name
    · rw [List.count_eq_zero.2 (hlast member hname).1, Nat.zero_add]
      split <;> decide
    · rw [if_neg (by simpa using hname)]
      exact h.once member
  fits := by
    intro member w hmem
    rcases List.mem_append.1 hmem with hmem | hmem
    · exact h.fits member w hmem
    · obtain ⟨hname, rfl⟩ := Prod.mk.inj (List.mem_singleton.1 hmem)
      exact (hlast member hname.symm).2

theorem Spoilt.not_sound {problem : Problem} (h : Spoilt entries problem) : ¬ Sound entries := by
  intro hsound
  cases h with
  | @again before after member v _ h =>
      have honce := hsound.once member
      have hbefore := List.count_pos_iff.2 h
      simp only [List.map_append, List.map_cons, List.count_append, List.count_cons_self] at honce
      omega
  | @unfit before after member v _ _ h =>
      exact h (hsound.fits member v (List.mem_append_right before List.mem_cons_self))

/-- A new member that has been set is among those that have been taken in. -/
theorem Holds.snoc {m' : Members} (h : Holds m before) (hnew : member.name ∉ before.map Prod.fst)
    (hvalue : m'.value? member = some v)
    (hothers : ∀ other, other ≠ member → m'.value? other = m.value? other) :
    Holds m' (before ++ [(member.name, v)]) := by
  intro other
  rw [List.lookup_append, Record.lookup_cons]
  by_cases hother : other = member
  · subst hother
    rw [mem_names_iff, Option.not_isSome_iff_eq_none] at hnew
    rw [hvalue, hnew, if_pos rfl]
    rfl
  · rw [hothers other hother, if_neg (mt name_inj hother), h other]
    exact Option.or_none.symm

/-- A member is taken in and leaves the members sound, or it is what spoils them. -/
theorem Holds.take (h : Holds m before) (hsound : Sound before) (entry : String × Value) :
    (∃ m', take m entry = .ok m' ∧ Holds m' (before ++ [entry]) ∧ Sound (before ++ [entry]))
      ∨ ∃ problem, take m entry = .error problem
        ∧ ∀ after, Spoilt (before ++ entry :: after) problem := by
  obtain ⟨name, v⟩ := entry
  unfold Wire.take
  dsimp only
  cases hread : Member.ofName? name with
  | none =>
      -- A member of another name changes nothing that is asked of the five.
      have hother (member : Member) : name ≠ member.name := by
        intro hname
        rw [ofName?_eq_some_iff.2 hname] at hread
        cases hread
      refine .inl ⟨m, rfl, fun member => ?_, hsound.snoc fun member hname => ?_⟩
      · rw [List.lookup_append, Record.lookup_cons, if_neg (hother member).symm, h member]
        exact Option.or_none.symm
      · exact absurd hname (hother member)
  | some member =>
      obtain rfl := ofName?_eq_some_iff.1 hread
      dsimp only
      by_cases hhas : m.has member = true
      · rw [if_pos hhas]
        exact .inr ⟨_, rfl, fun after => .again hsound (h.has_iff.1 hhas)⟩
      · -- The first of its name, so it is its value that decides.
        rw [if_neg hhas]
        have hnew : member.name ∉ before.map Prod.fst := mt h.has_iff.2 hhas
        by_cases hfits : Fits member v
        · obtain ⟨m', hset, hvalue, hothers⟩ := set_of_fits hfits m
          refine .inl ⟨m', hset, h.snoc hnew hvalue hothers, hsound.snoc fun other hname => ?_⟩
          obtain rfl := name_inj hname
          exact ⟨hnew, hfits⟩
        · exact .inr ⟨_, set_of_not_fits hfits m, fun after => .unfit hsound hnew hfits⟩

/-- Members are all taken in if they are sound, and otherwise up to the one that spoils
them. -/
theorem Holds.takeAll (h : Holds m before) (hsound : Sound before)
    (entries : List (String × Value)) :
    (∃ m', entries.foldlM Wire.take m = .ok m' ∧ Holds m' (before ++ entries)
        ∧ Sound (before ++ entries))
      ∨ ∃ problem, entries.foldlM Wire.take m = .error problem
        ∧ Spoilt (before ++ entries) problem := by
  -- What has been taken in already is `before`, and it grows by a member at a time.
  induction entries generalizing m before with
  | nil =>
      rw [List.append_nil]
      exact .inl ⟨m, rfl, h, hsound⟩
  | cons entry entries ih =>
      rw [List.foldlM_cons]
      obtain ⟨m', htake, hholds, hlonger⟩ | ⟨problem, htake, hspoilt⟩ := h.take hsound entry
      · rw [htake, List.append_cons]
        exact ih hholds hlonger
      · rw [htake]
        exact .inr ⟨problem, rfl, hspoilt entries⟩

/-- Of members that have been read, one that is needed is a text or missing. -/
theorem Holds.text_or_missing (h : Holds m entries) (hsound : Sound entries)
    {o : Option (Option String)} (ho : m.value? member = o.map Value.stringOrNull) :
    (∃ s, Request.required member.name o = .ok s ∧ (member.name, .string s) ∈ entries)
      ∨ Request.required member.name o = .error (.missingField member.name)
        ∧ ∀ s, (member.name, .string s) ∉ entries := by
  have hvalue : entries.lookup member.name = o.map Value.stringOrNull := (h member).symm.trans ho
  match o, hvalue with
  | some (some s), hvalue => exact .inl ⟨s, rfl, hsound.mem_iff.2 hvalue⟩
  | none, hvalue | some none, hvalue =>
      refine .inr ⟨rfl, fun s hmem => ?_⟩
      rw [hsound.mem_iff.1 hmem] at hvalue
      cases hvalue

end

end CheckGateway.Wire

namespace CheckGateway.Request

open Json Wire

/-- The arguments that members give: none if there are none, or null. -/
inductive Argues (entries : List (String × Value)) : Record → Prop where
  | absent (h : "args" ∉ entries.map Prod.fst) : Argues entries .empty
  | null (h : ("args", .null) ∈ entries) : Argues entries .empty
  | given {members : List (String × Value)} (h : ("args", .object members) ∈ entries) :
      Argues entries ⟨members⟩

/-- A request is what its members say. -/
structure Carries (text : String) (entries : List (String × Value)) (r : Request) : Prop where
  host : ("host", .string r.credentials.host) ∈ entries
  login : ("login", .string r.credentials.login) ∈ entries
  password : ("password", .string r.credentials.password) ∈ entries
  command : ("command", .string r.command) ∈ entries
  args : Argues entries r.args
  payload : r.payload = text

/-- The first of the members that have to be there that is not. -/
def FirstMissing (entries : List (String × Value)) (member : Member) : Prop :=
  ∃ before after, needed = before ++ member :: after
    ∧ (∀ other ∈ before, ∃ s, (other.name, .string s) ∈ entries)
    ∧ ∀ s, (member.name, .string s) ∉ entries

section

variable {text : String} {entries : List (String × Value)} {m : Members}

theorem argues_of_holds (h : Holds m entries) (hsound : Sound entries) :
    Argues entries ((m.args.bind id).getD .empty) := by
  have hvalue : m.args.map (fun r => r.elim Value.null Record.toValue) = entries.lookup "args" :=
    h .args
  have hmem {v : Value} :
      (Member.args.name, v) ∈ entries ↔ entries.lookup Member.args.name = some v := hsound.mem_iff
  match m.args, hvalue with
  | none, hvalue =>
      refine .absent ?_
      rw [mem_names_iff, ← hvalue]
      exact Bool.false_ne_true
  | some none, hvalue => exact .null (hmem.2 hvalue.symm)
  | some (some r), hvalue => exact .given (hmem.2 hvalue.symm)

theorem ofPayload_of_read (h : Wire.read text = .ok m) : ofPayload text = (do
    let host ← required Member.host.name m.host
    let login ← required Member.login.name m.login
    let password ← required Member.password.name m.password
    let command ← required Member.command.name m.command
    return ⟨⟨host, login, password⟩, command, (m.args.bind id).getD .empty, text⟩) := by
  unfold ofPayload
  rw [h]
  rfl

/-- A payload whose members are sound is a request, or one of them is missing. -/
theorem carries_or_missing (hread : Wire.read text = .ok m) (h : Holds m entries)
    (hsound : Sound entries) :
    (∃ r, ofPayload text = .ok r ∧ Carries text entries r)
      ∨ ∃ member, ofPayload text = .error (.missingField member.name)
        ∧ FirstMissing entries member := by
  rw [ofPayload_of_read hread]
  obtain ⟨host, hhost, hhostIn⟩ | ⟨hhost, hnone⟩ :=
    h.text_or_missing hsound (rfl : m.value? .host = m.host.map _)
  · obtain ⟨login, hlogin, hloginIn⟩ | ⟨hlogin, hnone⟩ :=
      h.text_or_missing hsound (rfl : m.value? .login = m.login.map _)
    · obtain ⟨password, hpassword, hpasswordIn⟩ | ⟨hpassword, hnone⟩ :=
        h.text_or_missing hsound (rfl : m.value? .password = m.password.map _)
      · obtain ⟨command, hcommand, hcommandIn⟩ | ⟨hcommand, hnone⟩ :=
          h.text_or_missing hsound (rfl : m.value? .command = m.command.map _)
        · rw [hhost, hlogin, hpassword, hcommand]
          exact .inl ⟨_, rfl, hhostIn, hloginIn, hpasswordIn, hcommandIn,
            argues_of_holds h hsound, rfl⟩
        · rw [hhost, hlogin, hpassword, hcommand]
          refine .inr ⟨.command, rfl, [.host, .login, .password], _, rfl, ?_, hnone⟩
          exact List.forall_mem_cons.2 ⟨⟨host, hhostIn⟩, List.forall_mem_cons.2
            ⟨⟨login, hloginIn⟩, List.forall_mem_singleton.2 ⟨password, hpasswordIn⟩⟩⟩
      · rw [hhost, hlogin, hpassword]
        refine .inr ⟨.password, rfl, [.host, .login], _, rfl, ?_, hnone⟩
        exact List.forall_mem_cons.2
          ⟨⟨host, hhostIn⟩, List.forall_mem_singleton.2 ⟨login, hloginIn⟩⟩
    · rw [hhost, hlogin]
      refine .inr ⟨.login, rfl, [.host], _, rfl, ?_, hnone⟩
      exact List.forall_mem_singleton.2 ⟨host, hhostIn⟩
  · rw [hhost]
    exact .inr ⟨.host, rfl, [], _, rfl, nofun, hnone⟩

/-- Nothing of a request is missing then. -/
theorem Carries.present {r : Request} (h : Carries text entries r) :
    ∀ member ∈ needed, ∃ s, (member.name, .string s) ∈ entries := by
  intro member hmember
  cases member with
  | host => exact ⟨_, h.host⟩
  | login => exact ⟨_, h.login⟩
  | password => exact ⟨_, h.password⟩
  | command => exact ⟨_, h.command⟩
  | args => exact absurd hmember (by decide)

theorem FirstMissing.absent {member : Member} (h : FirstMissing entries member) :
    member ∈ needed ∧ ∀ s, (member.name, .string s) ∉ entries := by
  obtain ⟨before, after, heq, -, hnone⟩ := h
  exact ⟨heq ▸ List.mem_append_right before List.mem_cons_self, hnone⟩

/-- What a payload that is an object with these members comes to. -/
theorem ofPayload_cases (h : Lists text entries) :
    (∃ r, ofPayload text = .ok r ∧ Sound entries ∧ Carries text entries r)
      ∨ (∃ member, ofPayload text = .error (.missingField member.name) ∧ Sound entries
        ∧ FirstMissing entries member)
      ∨ ∃ problem : Problem, ofPayload text = .error (.malformed problem.message)
        ∧ Spoilt entries problem := by
  have hread := read_of_lists h
  obtain ⟨m, htaken, hholds, hsound⟩ | ⟨problem, htaken, hspoilt⟩ :=
    holds_empty.takeAll sound_nil entries
  · rw [htaken] at hread
    obtain ⟨r, hr, hcarries⟩ | ⟨member, hmember, hfirst⟩ :=
      carries_or_missing hread hholds hsound
    · exact .inl ⟨r, hr, hsound, hcarries⟩
    · exact .inr (.inl ⟨member, hmember, hsound, hfirst⟩)
  · rw [htaken] at hread
    refine .inr (.inr ⟨problem, ?_, hspoilt⟩)
    unfold ofPayload
    rw [hread]

theorem not_read_of_error {e : GatewayError} (h : ofPayload text = .error e) :
    ¬ ∃ r, ofPayload text = .ok r := by
  rintro ⟨r, hr⟩
  rw [h] at hr
  cases hr

/-- Whatever is wrong with such a payload is wrong with the arguments, and no gateway has
come to know of it. -/
theorem refused_as_it_came (hlists : Lists text entries) {e : GatewayError}
    (h : ofPayload text = .error e) :
    e.kind = .argument ∧ ∀ g : Gateway, g.dispatchPayload text = (some (.ofError e), g) := by
  constructor
  · obtain ⟨r, hr, -⟩ | ⟨member, hmember, -⟩ | ⟨problem, hproblem, -⟩ := ofPayload_cases hlists
    · exact absurd ⟨r, hr⟩ (not_read_of_error h)
    · rw [hmember] at h
      cases h
      rfl
    · rw [hproblem] at h
      cases h
      rfl
  · intro g
    unfold Gateway.dispatchPayload
    rw [h]

end

/-- A payload that is an object is read by its members, in the order of the text and with
all that have the same name.

It is a request if and only if they are sound and those that have to be there are there as
texts. Then the request has these texts, the arguments that are given and the payload as
it came. If the members are sound and something is missing, the first that is missing is
told, and if they are not, the payload is malformed in what spoils them first. Whatever is
wrong is wrong with the arguments, and the gateway is as it was before. -/
theorem object_read_by_members {text : String} {attributes : List (String × Value)}
    (h : parse text = .ok (.object attributes)) :
    ∃ entries, (∀ other, Lists text other ↔ other = entries)
      ∧ attributes = (Record.ofList entries).members
      ∧ ((∃ r, ofPayload text = .ok r)
        ↔ Sound entries ∧ ∀ member ∈ needed, ∃ s, (member.name, .string s) ∈ entries)
      ∧ (∀ r, ofPayload text = .ok r → Carries text entries r)
      ∧ ((Sound entries ∧ ∃ member ∈ needed, ∀ s, (member.name, .string s) ∉ entries) →
        ∃ member, FirstMissing entries member
          ∧ ofPayload text = .error (.missingField member.name))
      ∧ (¬ Sound entries → ∃ problem : Problem, Spoilt entries problem
          ∧ ofPayload text = .error (.malformed problem.message))
      ∧ ∀ e, ofPayload text = .error e → e.kind = .argument
          ∧ ∀ g : Gateway, g.dispatchPayload text = (some (.ofError e), g) := by
  obtain ⟨entries, hlists, hattributes⟩ := parse_eq_object_iff.1 h
  have hunique : ∀ other, Lists text other ↔ other = entries := by
    intro other
    constructor
    · exact fun hother => hlists.unique hother
    · rintro rfl
      exact hlists
  refine ⟨entries, hunique, hattributes, ?_⟩
  obtain ⟨r, hr, hsound, hcarries⟩ | ⟨member, hmember, hsound, hfirst⟩ | ⟨problem, he, hspoilt⟩ :=
    ofPayload_cases hlists
  · -- It is a request.
    rw [hr]
    refine ⟨iff_of_true ⟨r, rfl⟩ ⟨hsound, hcarries.present⟩, ?_, ?_, absurd hsound, nofun⟩
    · rintro _ ⟨⟩
      exact hcarries
    · rintro ⟨-, member, hneeded, hnone⟩
      obtain ⟨s, hs⟩ := hcarries.present member hneeded
      exact absurd hs (hnone s)
  · -- Something is missing.
    obtain ⟨hneeded, hnone⟩ := hfirst.absent
    have hincomplete :
        ¬ (Sound entries ∧ ∀ member ∈ needed, ∃ s, (member.name, .string s) ∈ entries) := by
      rintro ⟨-, hall⟩
      obtain ⟨s, hs⟩ := hall member hneeded
      exact hnone s hs
    have hnot := not_read_of_error hmember
    exact ⟨iff_of_false hnot hincomplete, fun r hr => absurd ⟨r, hr⟩ hnot,
      fun _ => ⟨member, hfirst, hmember⟩, absurd hsound, fun _ => refused_as_it_came hlists⟩
  · -- A member is there again or does not fit.
    have hnot := not_read_of_error he
    exact ⟨iff_of_false hnot fun hall => hspoilt.not_sound hall.1,
      fun r hr => absurd ⟨r, hr⟩ hnot, fun hall => absurd hall.1 hspoilt.not_sound,
      fun _ => ⟨problem, hspoilt, he⟩, fun _ => refused_as_it_came hlists⟩

/-- A payload with its members in another order, and one that is none of a request. -/
def shuffled : String :=
  "\x7b\"command\":\"listJobs\",\"login\":\"qsecofr\",\"note\":[1,\x7b\x7d],"
    ++ "\"password\":\"secret\",\"host\":\"as400\",\"args\":null\x7d"

theorem object_read_shuffled :
    parse shuffled = .ok (.object
        [("args", .null), ("command", .string "listJobs"), ("host", .string "as400"),
          ("login", .string "qsecofr"), ("note", .array [.int 1, .object []]),
          ("password", .string "secret")])
      ∧ ∃ entries, Lists shuffled entries ∧ Sound entries
        ∧ Carries shuffled entries
          ⟨⟨"as400", "qsecofr", "secret"⟩, "listJobs", .empty, shuffled⟩ := by
  have hparse : parse shuffled = .ok (.object
      [("args", .null), ("command", .string "listJobs"), ("host", .string "as400"),
        ("login", .string "qsecofr"), ("note", .array [.int 1, .object []]),
        ("password", .string "secret")]) := by
    cbv
  have hread : ofPayload shuffled
      = .ok ⟨⟨"as400", "qsecofr", "secret"⟩, "listJobs", .empty, shuffled⟩ := by
    cbv
  obtain ⟨entries, hunique, -, hiff, hcarries, -⟩ := object_read_by_members hparse
  exact ⟨hparse, entries, (hunique entries).2 rfl, (hiff.1 ⟨_, hread⟩).1, hcarries _ hread⟩

end CheckGateway.Request
