/-
How much room the automata of a pattern take. A pattern is run by two
automata over bytes, one that reads forward and one that reads backward; it
is refused when either takes more than ten mebibytes. An automaton is laid
out state by state, each numbered by how many came before it, and every
state takes the same room and some more for its steps and branches. Laying
out stops at the limit, so that a pattern is measured in time that the
limit bounds, however often it repeats a part.
-/
import Std.Data.HashMap
import CheckGateway.Pattern.Encoding
import CheckGateway.Pattern.Plan

namespace CheckGateway.Pattern

/-- What is laid out of an automaton: the number of its states, and the
bytes that they hold for their steps and branches. -/
structure Footprint where
  states : Nat := 0
  held : Nat := 0
  deriving DecidableEq, Repr

namespace Footprint

/-- The bytes of a state. -/
def stateBytes : Nat := 32

/-- The bytes of a step, where a state holds several. -/
def stepBytes : Nat := 8

/-- The bytes of a branch to another state. -/
def branchBytes : Nat := 4

/-- The bytes that an automaton may take. -/
def limit : Nat := 10 * 1024 * 1024

/-- The bytes that the automaton takes. -/
def bytes (f : Footprint) : Nat := stateBytes * f.states + f.held

/-- Adds states that hold some bytes together, within the limit. -/
def add (states held : Nat) (f : Footprint) : Option Footprint :=
  let f : Footprint := ⟨f.states + states, f.held + held⟩
  if f.bytes ≤ limit then some f else none

/-- Lays out a part a number of times. -/
def times (part : Footprint → Option Footprint) :
    Nat → Footprint → Option Footprint
  | 0, f => some f
  | n + 1, f =>
      match part f with
      | some f => times part n f
      | none => none

-- ================================================================= sets

/-- States that can be shared, by their place in a table of fixed size; a
state is known by the numbers that describe it. -/
abbrev Shared := Std.HashMap Nat (List Nat × Nat)

/-- An automaton of which a set is being laid out. -/
structure SetLayout where
  footprint : Footprint
  shared : Shared := ∅

/-- One step of the hash of numbers. -/
def mix (h : UInt64) (n : Nat) : UInt64 := (h ^^^ n.toUInt64) * 1099511628211

/-- The place of a state in a table: a hash of its numbers. -/
def place (size : Nat) (key : List Nat) : Nat :=
  (key.foldl mix 14695981039346656037).toNat % size

/-- The state with these numbers: the one at its place, or else a new one,
which takes that place over. -/
def SetLayout.state (size : Nat) (key : List Nat) (held : Nat)
    (l : SetLayout) : Option (Nat × SetLayout) :=
  let slot := place size key
  let add : Option (Nat × SetLayout) := do
    let id := l.footprint.states
    let f ← l.footprint.add 1 held
    return (id, ⟨f, l.shared.insert slot (key, id)⟩)
  match l.shared[slot]? with
  | some (known, id) => if known = key then some (id, l) else add
  | none => add

/-- Lays out rows of bytes as a tree that leads to a state; rows that begin
alike go through one step, and trees that are alike are one. Gives the
state at the root. -/
def layTree (target : Nat) : Nat → List Encoding.Row → SetLayout →
    Option (Nat × SetLayout)
  | 0, _, l => some (target, l)
  | depth + 1, rows, l =>
      if rows.all List.isEmpty then some (target, l)
      else do
        let (key, l) ← (rows.splitBy fun a b => a.head? == b.head?).foldlM
          (fun (key, l) group => do
            let (next, l) ← layTree target depth (group.map List.tail) l
            let r := (group.head?.bind List.head?).getD (0, 0)
            return (next :: r.2 :: r.1 :: key, l))
          (([] : List Nat), l)
        l.state 10000 key.reverse (stepBytes * (key.length / 3))

/-- Lays out a row of bytes from its end: a state for each, unless there is
one that leads to the same state already. -/
def layRow (target : Nat) (row : Encoding.Row) (l : SetLayout) :
    Option SetLayout := do
  let (_, l) ← row.foldlM
    (fun (next, l) r => l.state 1000 [next, r.1, r.2] 0) (target, l)
  return l

/-- Lays out a set. One of ASCII is a single state with a step for each
range. -/
def laySet (dir : Direction) (s : CharSet) (f : Footprint) :
    Option Footprint :=
  if s.ranges.all fun r => r.2 < 0x80 then
    f.add 2 (stepBytes * s.ranges.length)
  else
    let rows := Encoding.rows s
    match dir with
    | .forward => do
        let target := f.states
        let f ← f.add 1 0
        let (_, l) ← layTree target 4 rows { footprint := f }
        return l.footprint
    | .backward => do
        let target := f.states + 1
        let f ← f.add 2 (branchBytes * rows.length)
        let l ← rows.foldlM (fun l row => layRow target row l)
          { footprint := f }
        return l.footprint

-- ============================================================= literals

/-- The bytes of a literal, in the order of reading. -/
def spelled (dir : Direction) (text : List Char) : List UInt8 :=
  let bytes := text.flatMap String.utf8EncodeChar
  match dir with
  | .forward => bytes
  | .backward => bytes.reverse

/-- Cuts the words at the empty ones among them. -/
def cutAtEmpty (words : List (List UInt8)) : List (List (List UInt8)) :=
  words.foldr
    (fun word cut =>
      match word, cut with
      | [], _ => [] :: cut
      | _, [] => [[word]]
      | _, first :: rest => (word :: first) :: rest)
    [[]]

/-- What follows a byte in the words that begin with it. -/
def after (byte : UInt8) (words : List (List UInt8)) : List (List UInt8) :=
  words.filterMap fun
    | b :: rest => if b = byte then some rest else none
    | [] => none

/-- Lays out a node of the tree of several words, and what is below it. The
node has a branch for each place where a word ends in it and for the words
between two of these; several ends before the first longer word are one. -/
def layNode : Nat → List (List UInt8) → Footprint → Option Footprint
  | 0, _, f => some f
  | depth + 1, words, f => do
      let longer := words.dropWhile List.isEmpty
      let words := if longer.length = words.length then words else [] :: longer
      let chunks := cutAtEmpty words
      let full := chunks.filter fun chunk => !chunk.isEmpty
      let f ← full.foldlM
        (fun f chunk => do
          let bytes := (chunk.filterMap List.head?).eraseDups
          let f ← bytes.foldlM
            (fun f byte =>
              let below := after byte chunk
              if below.all List.isEmpty then some f else layNode depth below f)
            f
          let steps := bytes.length
          f.add 1 (if steps = 1 then 0 else stepBytes * steps))
        f
      f.add 1 (branchBytes * (full.length + (chunks.length - 1)))

/-- Lays out a choice between literals as the tree of their bytes. -/
def layWords (words : List (List UInt8)) (f : Footprint) :
    Option Footprint := do
  let f ← f.add 1 0
  layNode ((words.map List.length).foldl max 0) words f

-- ================================================================ plans

/-- Lays out a repetition of a part. -/
def layRep (part : Footprint → Option Footprint) (takesCharacter : Bool)
    (min : Nat) (max : Option Nat) (f : Footprint) : Option Footprint :=
  let fork := 2 * branchBytes
  match min, max with
  | 0, none =>
      if takesCharacter then do part (← f.add 1 fork)
      else do (← part f).add 3 (2 * fork)
  | min + 1, none => do (← times part (min + 1) f).add 1 fork
  | 0, some 1 => do (← part (← f.add 1 fork)).add 1 0
  | min, some max => do
      let f ← if min = 0 then f.add 1 0 else times part min f
      if min = max then some f
      else
        times (fun f => do part (← f.add 1 fork)) (max - min) (← f.add 1 0)

/-- The words of a choice between literals alone. -/
def words? (dir : Direction) (ps : List Plan) : Option (List (List UInt8)) :=
  ps.mapM fun
    | .literal text => some (spelled dir text)
    | _ => none

mutual

/-- Lays out a plan. Groups are marked in the automaton that reads forward
alone. -/
def lay (dir : Direction) : Plan → Footprint → Option Footprint
  | .empty, f => f.add 1 0
  | .literal text, f => f.add (spelled dir text).length 0
  | .set s, f => laySet dir s f
  | .look _, f => f.add 1 0
  | .rep body min max _, f =>
      layRep (lay dir body) body.takesCharacter min max f
  | .capture body, f =>
      match dir with
      | .forward => do (← lay .forward body (← f.add 1 0)).add 1 0
      | .backward => lay .backward body f
  | .sequence parts, f => laySequence dir parts f
  | .choice parts, f =>
      match words? dir parts with
      | some words => layWords words f
      | none => layChoice dir parts.length 0 parts f

/-- Lays out the parts of a sequence in the order of reading. -/
def laySequence (dir : Direction) : List Plan → Footprint → Option Footprint
  | [], f => some f
  | p :: ps, f =>
      match dir with
      | .forward => do laySequence .forward ps (← lay .forward p f)
      | .backward => do lay .backward p (← laySequence .backward ps f)

/-- Lays out so many alternatives in all, of which some are laid out. The
branch to all of them and the place where they meet come after the second. -/
def layChoice (dir : Direction) (total : Nat) :
    Nat → List Plan → Footprint → Option Footprint
  | _, [], f => some f
  | done, p :: ps, f => do
      let f ← lay dir p f
      let f ← if done = 1 then f.add 2 (branchBytes * total) else some f
      layChoice dir total (done + 1) ps f

end

/-- Lays out the automaton of a pattern. Where no match is tied to the
place where the reading begins, the bytes before it are passed over. -/
def ofPlan? (dir : Direction) (plan : Plan) : Option Footprint := do
  let f : Footprint := {}
  let f ← if plan.isAnchored dir then f.add 1 0
    else f.add 3 (2 * branchBytes + stepBytes)
  (← lay dir (.capture plan) f).add 1 0

end Footprint

/-- Both automata of the plan keep within the limit. -/
def Plan.fits (plan : Plan) : Bool :=
  (Footprint.ofPlan? .forward plan).isSome
    && (Footprint.ofPlan? .backward plan).isSome

end CheckGateway.Pattern
