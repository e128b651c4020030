/-
Sets of characters as a pattern writes them: single characters, ranges,
named classes and properties, and the set operations. A set is one of code
points; surrogates, which are no characters, are taken off the ends of the
ranges that an operation leaves. Main statements: the operations have the
members that their names promise (`mem_union`, `mem_inter`, `mem_diff`,
`mem_compl`).
-/
import CheckGateway.Unicode.Age
import CheckGateway.Unicode.Break
import CheckGateway.Unicode.Extensions
import CheckGateway.Unicode.Fold
import CheckGateway.Unicode.Property
import CheckGateway.Text.Ascii

namespace CheckGateway.Pattern

open Unicode (Category CodePointSet Property)

/-- A set of characters. -/
abbrev CharSet := CodePointSet

namespace CharSet

/-- Membership. -/
def mem (s : CharSet) (c : Char) : Bool := s.contains c.toNat

/-- The set of one character. -/
def char (c : Char) : CharSet := .single c.toNat

/-- All characters. -/
def any : CharSet := .range 0 Unicode.maxCodePoint

-- ========================================================== surrogates

/-- A code point that is no character. -/
def isSurrogate (n : Nat) : Bool := 0xD800 ≤ n && n ≤ 0xDFFF

/-- A range without the surrogates at its ends. One that holds nothing
else comes out upside down. -/
def trim (r : Nat × Nat) : Nat × Nat :=
  (if isSurrogate r.1 then 0xE000 else r.1,
    if isSurrogate r.2 then 0xD7FF else r.2)

/-- A range whose lower end comes first. -/
def upright (r : Nat × Nat) : Nat × Nat :=
  if r.1 ≤ r.2 then r else (r.2, r.1)

/-- The set without the surrogates at the ends of its ranges. -/
def trimmed (s : CharSet) : CharSet := .ofList (s.ranges.map trim)

/-- The characters in both sets. -/
def inter (s t : CharSet) : CharSet := trimmed (s ∩ t)

/-- The characters of the first set that are not in the second. -/
def diff (s t : CharSet) : CharSet := trimmed (s \ t)

/-- The characters in exactly one of the sets. -/
def symmDiff (s t : CharSet) : CharSet := trimmed (CodePointSet.symmDiff s t)

/-- The characters outside the set. Where its ranges leave nothing but the
surrogates between them, the two characters at that gap are taken in. -/
def compl (s : CharSet) : CharSet :=
  .ofList (s.outside.ranges.map fun r => upright (trim r))

theorem mem_char (a c : Char) : mem (char a) c = true ↔ c = a := by
  rw [mem, char, CodePointSet.contains_single, beq_iff_eq]
  exact Char.toNat_inj

theorem mem_union (s t : CharSet) (c : Char) :
    mem (s ∪ t) c = (mem s c || mem t c) :=
  CodePointSet.contains_union s t c.toNat

theorem toNat_le_max (c : Char) : c.toNat ≤ Unicode.maxCodePoint := by
  have h : c.toNat.isValidChar := c.valid
  simp only [Nat.isValidChar] at h
  simp only [Unicode.maxCodePoint]
  omega

/-- No character is a surrogate. -/
theorem not_isSurrogate (c : Char) : c.toNat < 0xD800 ∨ 0xDFFF < c.toNat := by
  have h : c.toNat.isValidChar := c.valid
  simp only [Nat.isValidChar] at h
  omega

theorem inRange_trim (r : Nat × Nat) (c : Char) :
    Unicode.inRange c.toNat (trim r) = Unicode.inRange c.toNat r := by
  have h := not_isSurrogate c
  obtain ⟨a, b⟩ := r
  rw [Bool.eq_iff_iff]
  simp only [Unicode.inRange, trim, isSurrogate, Bool.and_eq_true,
    decide_eq_true_eq]
  split <;> split <;> omega

theorem mem_trimmed (s : CharSet) (c : Char) :
    mem (trimmed s) c = mem s c := by
  rw [mem, trimmed, CodePointSet.contains_ofList, List.any_map]
  exact congrArg s.ranges.any (funext fun r => inRange_trim r c)

theorem mem_inter (s t : CharSet) (c : Char) :
    mem (inter s t) c = (mem s c && mem t c) := by
  rw [inter, mem_trimmed]
  exact CodePointSet.contains_inter s t (toNat_le_max c)

theorem mem_diff (s t : CharSet) (c : Char) :
    mem (diff s t) c = (mem s c && !mem t c) := by
  rw [diff, mem_trimmed]
  exact CodePointSet.contains_diff s t (toNat_le_max c)

theorem mem_symmDiff (s t : CharSet) (c : Char) :
    mem (symmDiff s t) c = (mem s c != mem t c) := by
  rw [symmDiff, mem_trimmed]
  exact CodePointSet.contains_symmDiff s t (toNat_le_max c)

/-- Where no gap of the set holds the surrogates alone, a character is in
the set or in its complement. -/
theorem mem_compl (s : CharSet) (c : Char)
    (h : ∀ r ∈ s.outside.ranges, (trim r).1 ≤ (trim r).2) :
    mem (compl s) c = !mem s c := by
  have hgap : mem (compl s) c = s.outside.contains c.toNat := by
    rw [mem, compl, CodePointSet.contains_ofList, List.any_map,
      CodePointSet.contains, Bool.eq_iff_iff, List.any_eq_true,
      List.any_eq_true]
    constructor
    · rintro ⟨r, hr, hc⟩
      refine ⟨r, hr, ?_⟩
      rw [← inRange_trim]
      simpa only [Function.comp_apply, upright, if_pos (h r hr)] using hc
    · rintro ⟨r, hr, hc⟩
      refine ⟨r, hr, ?_⟩
      rw [← inRange_trim] at hc
      simpa only [Function.comp_apply, upright, if_pos (h r hr)] using hc
  rw [hgap, CodePointSet.contains_outside s (toNat_le_max c), mem]

-- ================================================================ case

/-- The ranges of a set within the letters from `low` on, each moved. -/
def lettersMoved (s : CharSet) (low : Nat) (move : Nat → Nat) :
    List (Nat × Nat) :=
  (s ∩ CodePointSet.range low (low + 25)).ranges.map fun r =>
    (move r.1, move r.2)

/-- The set with the other case of its ASCII letters. -/
def closeAscii (s : CharSet) : CharSet :=
  s ∪ .ofList (lettersMoved s 'a'.toNat (· - 32)
    ++ lettersMoved s 'A'.toNat (· + 32))

/-- The set with all that differs from a member only in case; `unicode`
says whether all letters count or only those of ASCII. -/
def close (unicode : Bool) (s : CharSet) : CharSet :=
  if unicode then Unicode.Fold.close s else closeAscii s

-- ======================================================= named classes

/-- Decimal digits. -/
def digit : CharSet := Category.members [.decimalNumber]

/-- Blanks. -/
def space : CharSet := Property.whiteSpace.members

/-- Letters, marks, decimal digits, connecting punctuation and joiners. -/
def word : CharSet :=
  .unionAll [Property.alphabetic.members,
    Category.members
      (.decimalNumber :: .connectorPunctuation :: Category.marks),
    Property.joinControl.members]

/-- Letters, digits and the underscore of ASCII. -/
def asciiWord : CharSet := .ofList [(48, 57), (65, 90), (95, 95), (97, 122)]

/-- The ASCII class with a name, as in `[:alpha:]`. -/
def ascii? (name : String) : Option CharSet :=
  match name with
  | "alnum" => some (.ofList [(48, 57), (65, 90), (97, 122)])
  | "alpha" => some (.ofList [(65, 90), (97, 122)])
  | "ascii" => some (.ofList [(0, 127)])
  | "blank" => some (.ofList [(9, 9), (32, 32)])
  | "cntrl" => some (.ofList [(0, 31), (127, 127)])
  | "digit" => some (.ofList [(48, 57)])
  | "graph" => some (.ofList [(33, 126)])
  | "lower" => some (.ofList [(97, 122)])
  | "print" => some (.ofList [(32, 126)])
  | "punct" => some (.ofList [(33, 47), (58, 64), (91, 96), (123, 126)])
  | "space" => some (.ofList [(9, 13), (32, 32)])
  | "upper" => some (.ofList [(65, 90)])
  | "word" => some asciiWord
  | "xdigit" => some (.ofList [(48, 57), (65, 70), (97, 102)])
  | _ => none

-- ========================================================== properties

/-- A property name as it is looked up: lower case, without a leading "is"
and without blanks, hyphens, underscores and what is not ASCII. Of "isc",
the name of a property of its own, nothing is taken off. -/
def normalName (name : String) : String :=
  let kept (cs : List Char) := (cs.filter fun c =>
    c.toNat < 0x80 && c != ' ' && c != '_' && c != '-').map Char.toLower
  match name.toList with
  | a :: b :: rest =>
      if Text.sameIgnoringCase [a, b] ['i', 's'] then
        let rest := kept rest
        String.ofList (if rest == ['c'] then ['i', 's', 'c'] else rest)
      else String.ofList (kept (a :: b :: rest))
  | cs => String.ofList (kept cs)

/-- The set that a general category names. There is no set of surrogates. -/
def ofCategoryName? (name : String) : Option CharSet :=
  match name with
  | "any" => some any
  | "assigned" => some (compl (Category.members [.unassigned]))
  | "ascii" => some (.range 0 127)
  | name => (Category.ofName? name).map Category.members

/-- The set that a property name alone stands for: a property that a
character has or has not, a general category or a script. Three names of
categories are names of other properties too, and mean the category. -/
def ofPropertyName? (name : String) : Option CharSet :=
  let name := normalName name
  let property :=
    if ["cf", "sc", "lc"].contains name then none
    else (Property.ofName? name).map Property.members
  (property.or
    ((ofCategoryName? name).or
      ((Unicode.Script.ofName? name).map Unicode.Script.members))).map trimmed

/-- The code points of a property with a value, both as they are looked up. -/
def withValue? (name value : String) : Option CodePointSet :=
  match name with
  | "generalcategory" | "gc" => ofCategoryName? value
  | "script" | "sc" =>
      (Unicode.Script.ofName? value).map Unicode.Script.members
  | "scriptextensions" | "scx" =>
      (Unicode.Script.ofName? value).map Unicode.Script.users
  | "age" => Unicode.Age.ofName? value
  | "graphemeclusterbreak" | "gcb" =>
      Unicode.Break.classNamed? value ∅ Unicode.Break.grapheme
  | "wordbreak" | "wb" =>
      Unicode.Break.classNamed? value ∅ Unicode.Break.word
  | "sentencebreak" | "sb" =>
      Unicode.Break.classNamed? value ∅ Unicode.Break.sentence
  | _ => none

/-- The set of a property with a value. -/
def ofPropertyValue? (name value : String) : Option CharSet :=
  (withValue? (normalName name) (normalName value)).map trimmed

end CharSet

/-- A character that belongs to words. -/
def isWordChar (c : Char) : Bool := CharSet.word.mem c

/-- A letter, digit or underscore of ASCII. -/
def isAsciiWordChar (c : Char) : Bool := CharSet.asciiWord.mem c

end CheckGateway.Pattern
