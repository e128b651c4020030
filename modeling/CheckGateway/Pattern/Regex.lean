/-
Regular expressions over characters, and what they match. `Spans` is the
meaning: a relation between an expression and two positions of a text.
`ends` computes it, from a set of starting positions to the set of
positions where a match can end. Since only the existence of a match is
ever asked, there is no preference between matches.
-/
import CheckGateway.Pattern.CharSet

namespace CheckGateway.Pattern

/-- Conditions on a position between two characters. -/
inductive Look where
  | startText | endText
  | startLine | endLine
  /-- Line ends where a carriage return also ends a line. -/
  | startLineCr | endLineCr
  | wordBoundary (ascii : Bool)
  | notWordBoundary (ascii : Bool)
  | wordStart (ascii : Bool)
  | wordEnd (ascii : Bool)
  | wordStartHalf (ascii : Bool)
  | wordEndHalf (ascii : Bool)
  deriving DecidableEq, Repr

/-- A regular expression. -/
inductive Regex where
  | empty
  | one (set : CharSet)
  | look (cond : Look)
  | seq (first second : Regex)
  | alt (first second : Regex)
  /-- At least `min` and, if there is a maximum, at most so many times. -/
  | rep (body : Regex) (min : Nat) (max : Option Nat)
  deriving Repr

/-- The character before a position is there and is in a class. -/
def charBefore (text : List Char) (p : Char → Bool) (i : Nat) : Bool :=
  0 < i && (text[i - 1]?.map p).getD false

/-- The character after a position is there and is in a class. -/
def charAfter (text : List Char) (p : Char → Bool) (i : Nat) : Bool :=
  (text[i]?.map p).getD false

/-- Membership in the word class that a boundary refers to. -/
def wordClass (ascii : Bool) : Char → Bool :=
  if ascii then isAsciiWordChar else isWordChar

/-- The condition holds at a position of a text. -/
def Look.holds (text : List Char) (i : Nat) : Look → Bool
  | .startText => i == 0
  | .endText => i == text.length
  | .startLine => i == 0 || charBefore text (· == '\n') i
  | .endLine => i == text.length || charAfter text (· == '\n') i
  | .startLineCr =>
      i == 0 || charBefore text (· == '\n') i
        || (charBefore text (· == '\r') i && !charAfter text (· == '\n') i)
  | .endLineCr =>
      i == text.length || charAfter text (· == '\r') i
        || (charAfter text (· == '\n') i && !charBefore text (· == '\r') i)
  | .wordBoundary ascii =>
      charBefore text (wordClass ascii) i != charAfter text (wordClass ascii) i
  | .notWordBoundary ascii =>
      charBefore text (wordClass ascii) i == charAfter text (wordClass ascii) i
  | .wordStart ascii =>
      !charBefore text (wordClass ascii) i && charAfter text (wordClass ascii) i
  | .wordEnd ascii =>
      charBefore text (wordClass ascii) i && !charAfter text (wordClass ascii) i
  | .wordStartHalf ascii => !charBefore text (wordClass ascii) i
  | .wordEndHalf ascii => !charAfter text (wordClass ascii) i

-- ============================================================= meaning

/-- A chain of `n` steps of a relation. -/
inductive Chain (step : Nat → Nat → Prop) : Nat → Nat → Nat → Prop where
  | nil (i : Nat) : Chain step 0 i i
  | cons {n i j k : Nat} : step i j → Chain step n j k →
      Chain step (n + 1) i k

/-- The expression matches the text from one position to another. -/
def Regex.Spans (text : List Char) : Regex → Nat → Nat → Prop
  | .empty, i, j => i = j
  | .one set, i, j => j = i + 1 ∧ ∃ c, text[i]? = some c ∧ set.mem c = true
  | .look cond, i, j => i = j ∧ cond.holds text i = true
  | .seq a b, i, k => ∃ j, a.Spans text i j ∧ b.Spans text j k
  | .alt a b, i, j => a.Spans text i j ∨ b.Spans text i j
  | .rep r min max, i, j =>
      ∃ n, min ≤ n ∧ (∀ m, max = some m → n ≤ m) ∧
        Chain (fun i j => r.Spans text i j) n i j

/-- The expression matches somewhere in the text. -/
def Regex.Occurs (r : Regex) (text : List Char) : Prop :=
  ∃ i j, i ≤ text.length ∧ r.Spans text i j

-- ========================================================== evaluation

/-- The elements of two lists, those of the first list once. -/
def merge (a b : List Nat) : List Nat :=
  a ++ b.filter fun i => !a.contains i

/-- A function applied a number of times; an empty set stays empty. -/
def iterate (f : List Nat → List Nat) : Nat → List Nat → List Nat
  | 0, s => s
  | n + 1, s => if s.isEmpty then [] else iterate f n (f s)

/-- What at most `n` further applications reach, the start included. It
ends early once nothing new comes up. -/
def reach (f : List Nat → List Nat) : Nat → List Nat → List Nat → List Nat
  | 0, seen, _ => seen
  | n + 1, seen, last =>
      let new := (f last).filter fun i => !seen.contains i
      if new.isEmpty then seen else reach f n (merge seen new) new

/-- The positions where a match that starts in one of the given positions
can end. Beyond the minimum a repetition needs no more rounds than there
are positions, because a round that adds no position adds none later. -/
def Regex.ends (text : List Char) : Regex → List Nat → List Nat
  | .empty, s => s
  | .one set, s =>
      s.filterMap fun i =>
        match text[i]? with
        | some c => if set.mem c then some (i + 1) else none
        | none => none
  | .look cond, s => s.filter (cond.holds text)
  | .seq a b, s =>
      let t := a.ends text s
      if t.isEmpty then [] else b.ends text t
  | .alt a b, s => merge (a.ends text s) (b.ends text s)
  | .rep r min max, s =>
      let start := (iterate (r.ends text) min s).eraseDups
      let rounds := match max with
        | some m => Nat.min (m - min) (text.length + 1)
        | none => text.length + 1
      reach (r.ends text) rounds start start

/-- The expression matches somewhere in the text. -/
def Regex.occurs (r : Regex) (text : List Char) : Bool :=
  !(r.ends text (List.range (text.length + 1))).isEmpty

-- ========================================================== repetition

/-- The expression takes no character in any match. -/
def Regex.isWidthless : Regex → Bool
  | .empty => true
  | .one _ => false
  | .look _ => true
  | .seq a b => a.isWidthless && b.isWidthless
  | .alt a b => a.isWidthless && b.isWidthless
  | .rep r _ max => r.isWidthless || max == some 0

/-- A repetition. Of an expression without width the first round decides,
so more than one is never kept. -/
def Regex.repeated (body : Regex) (min : Nat) (max : Option Nat) : Regex :=
  if body.isWidthless then .rep body (min.min 1) (some ((max.getD 1).min 1))
  else .rep body min max

end CheckGateway.Pattern
