/-
JSON values. A number is a whole number of 64 bits, signed or unsigned,
or a finite binary64 value; nothing else is representable, so a longer
whole number is kept as the nearest binary64. An object's members are
sorted by name and names occur once. `Record` is the same thing as a
value of its own: the attribute maps that remote rows and results are.
-/
import CheckGateway.Binary64.Layout

namespace CheckGateway.Json

/-- A JSON number. -/
inductive Number where
  | whole (i : Int)
  | real (x : Binary64)
  deriving DecidableEq, Repr

/-- A JSON value; the members of an object are in ascending order of
their names. -/
inductive Value where
  | null
  | bool (b : Bool)
  | number (n : Number)
  | string (s : String)
  | array (items : List Value)
  | object (members : List (String × Value))
  deriving Repr

namespace Number

/-- The number as it is written. -/
def text : Number → String
  | .whole i => Text.ofInt i
  | .real x => x.text

/-- The number as a whole number within bounds. -/
def within? (min max : Int) : Number → Option Int
  | .whole i => if min ≤ i ∧ i ≤ max then some i else none
  | .real _ => none

end Number

namespace Value

/-- A whole number. -/
def int (i : Int) : Value := .number (.whole i)

/-- A natural number. -/
def nat (n : Nat) : Value := .number (.whole n)

/-- A string, or null where there is none. -/
def stringOrNull : Option String → Value
  | some s => .string s
  | none => .null

/-- The text of a string value. -/
def asString? : Value → Option String
  | .string s => some s
  | _ => none

/-- A whole number of at most 64 bits without sign. -/
def asNat64? : Value → Option Nat
  | .number n => (n.within? 0 Text.nat64Max).map Int.toNat
  | _ => none

/-- A whole number of 64 bits with sign. -/
def asInt64? : Value → Option Int
  | .number n => n.within? Text.int64Min Text.int64Max
  | _ => none

/-- The value is null. -/
def isNull : Value → Bool
  | .null => true
  | _ => false

end Value

/-- Puts a member into a list sorted by name, in place of a member of the
same name. -/
def insertMember (name : String) (value : Value) :
    List (String × Value) → List (String × Value)
  | [] => [(name, value)]
  | (n, v) :: rest =>
      if name < n then (name, value) :: (n, v) :: rest
      else if name = n then (name, value) :: rest
      else (n, v) :: insertMember name value rest

end CheckGateway.Json

namespace CheckGateway

/-- A map from attribute names to values, in ascending order of names. -/
structure Record where
  members : List (String × Json.Value)
  deriving Repr

namespace Record

/-- The record without attributes. -/
def empty : Record := ⟨[]⟩

/-- The record with an attribute set. -/
def insert (r : Record) (name : String) (value : Json.Value) : Record :=
  ⟨Json.insertMember name value r.members⟩

/-- The value of an attribute. -/
def get? (r : Record) (name : String) : Option Json.Value :=
  r.members.lookup name

/-- The record of a list of attributes; the last of a name counts. -/
def ofList (entries : List (String × Json.Value)) : Record :=
  entries.foldl (fun r entry => r.insert entry.1 entry.2) empty

/-- The record as an object. -/
def toValue (r : Record) : Json.Value := .object r.members

theorem get?_empty (name : String) : empty.get? name = none := rfl

theorem lookup_cons (key n : String) (v : Json.Value)
    (rest : List (String × Json.Value)) :
    ((n, v) :: rest).lookup key =
      if key = n then some v else rest.lookup key := by
  by_cases h : key = n
  · simp [h]
  · have hb : (key == n) = false := by simpa using h
    simp [List.lookup_cons, h, hb]

/-- Reading what was written: the new attribute has its value and every
other one is as before. -/
theorem get?_insert (r : Record) (name key : String) (value : Json.Value) :
    (r.insert name value).get? key =
      if key = name then some value else r.get? key := by
  obtain ⟨members⟩ := r
  simp only [get?, insert]
  induction members with
  | nil => simp [Json.insertMember, lookup_cons]
  | cons entry rest ih =>
      obtain ⟨n, v⟩ := entry
      simp only [Json.insertMember]
      by_cases hlt : name < n
      · simp [hlt, lookup_cons]
      · by_cases heq : name = n
        · subst heq
          by_cases h : key = name <;> simp [lookup_cons, h]
        · simp only [hlt, heq, if_false, lookup_cons, ih]
          by_cases hk : key = n
          · subst hk
            have : key ≠ name := fun e => heq e.symm
            simp [this]
          · simp [hk]

end Record

end CheckGateway
