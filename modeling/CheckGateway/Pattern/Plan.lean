/-
The simplified form of an expression from which its automaton is laid out.
Sequences and alternatives are flat lists, neighbouring characters are one
literal, alternatives that are all single characters or all sets are one
set, and a start that all alternatives share stands once in front of them.
Beside the form stand the facts that the layout asks for: what is the
shortest match, what takes no character, what is tied to an end of the
text.
-/
import CheckGateway.Pattern.Regex

namespace CheckGateway.Pattern

open Unicode (CodePointSet)

/-- A simplified expression. -/
inductive Plan where
  | empty
  /-- Characters in a row, at least one. -/
  | literal (text : List Char)
  | set (members : CharSet)
  | look (cond : Look)
  | rep (body : Plan) (min : Nat) (max : Option Nat) (greedy : Bool)
  | capture (body : Plan)
  /-- Two parts or more, none of them empty or a sequence. -/
  | sequence (parts : List Plan)
  /-- Two alternatives or more, none of them a choice. -/
  | choice (parts : List Plan)
  deriving Repr

namespace Plan

-- ============================================================ equality

mutual

/-- Two plans are the same. Groups are told apart by their place in the
pattern, so two of them never are. -/
def same : Plan → Plan → Bool
  | .empty, .empty => true
  | .literal a, .literal b => a == b
  | .set a, .set b => a == b
  | .look a, .look b => a == b
  | .rep a min max greedy, .rep b min' max' greedy' =>
      same a b && min == min' && max == max' && greedy == greedy'
  | .sequence as, .sequence bs => sameAll as bs
  | .choice as, .choice bs => sameAll as bs
  | _, _ => false

/-- Two lists of plans are the same. -/
def sameAll : List Plan → List Plan → Bool
  | [], [] => true
  | a :: as, b :: bs => same a b && sameAll as bs
  | _, _ => false

end

-- =============================================================== facts

mutual

/-- The plan takes no character in any match. -/
def isWidthless : Plan → Bool
  | .empty => true
  | .literal _ => false
  | .set _ => false
  | .look _ => true
  | .rep body _ _ _ => body.isWidthless
  | .capture body => body.isWidthless
  | .sequence parts => allWidthless parts
  | .choice parts => allWidthless parts

/-- No plan of a list takes a character. -/
def allWidthless : List Plan → Bool
  | [] => true
  | p :: ps => p.isWidthless && allWidthless ps

end

mutual

/-- The plan can match the empty text. A set without members leaves the
question open for itself and for all that holds it. -/
def canBeEmpty : Plan → Option Bool
  | .empty => some true
  | .literal _ => some false
  | .set s => if s.isEmpty then none else some false
  | .look _ => some true
  | .rep body min _ _ => body.canBeEmpty.map fun b => b || min == 0
  | .capture body => body.canBeEmpty
  | .sequence parts => allCanBeEmpty parts
  | .choice parts => anyCanBeEmpty parts

/-- All plans of a list can match the empty text. -/
def allCanBeEmpty : List Plan → Option Bool
  | [] => some true
  | p :: ps => do return (← p.canBeEmpty) && (← allCanBeEmpty ps)

/-- Some plan of a list can match the empty text. -/
def anyCanBeEmpty : List Plan → Option Bool
  | [] => some false
  | p :: ps => do return (← p.canBeEmpty) || (← anyCanBeEmpty ps)

end

/-- The plan matches, and takes a character in every match. -/
def takesCharacter (p : Plan) : Bool := p.canBeEmpty == some false

end Plan

/-- The direction in which an automaton reads. -/
inductive Direction where
  | forward | backward
  deriving DecidableEq, Repr

/-- The condition that ties a match to where the reading begins. -/
def Direction.anchor : Direction → Look
  | .forward => .startText
  | .backward => .endText

namespace Plan

mutual

/-- Every match begins, in the direction of reading, at the end of the
text. -/
def isAnchored (dir : Direction) : Plan → Bool
  | .empty => false
  | .literal _ => false
  | .set _ => false
  | .look cond => cond == dir.anchor
  | .rep body min _ _ => min > 0 && body.isAnchored dir
  | .capture body => body.isAnchored dir
  | .sequence parts => isAnchoredRow dir parts
  | .choice parts => allAnchored dir parts

/-- A part of the sequence is anchored that only parts without width come
before. -/
def isAnchoredRow (dir : Direction) : List Plan → Bool
  | [] => false
  | p :: ps =>
      match dir with
      | .forward =>
          p.isAnchored .forward || (p.isWidthless && isAnchoredRow .forward ps)
      | .backward =>
          isAnchoredRow .backward ps
            || (allWidthless ps && p.isAnchored .backward)

/-- All alternatives are anchored. -/
def allAnchored (dir : Direction) : List Plan → Bool
  | [] => true
  | p :: ps => p.isAnchored dir && allAnchored dir ps

end

-- ======================================================== construction

/-- A set. A set of one character is that character. -/
def ofSet (s : CharSet) : Plan :=
  match s.single? with
  | some n => .literal [Char.ofNat n]
  | none => .set s

/-- A repetition. Of what has no width the first round decides, and none or
one round in all cases is no repetition. -/
def repeated (body : Plan) (min : Nat) (max : Option Nat) (greedy : Bool) :
    Plan :=
  let (min, max) :=
    if body.isWidthless then (min.min 1, some ((max.getD 1).min 1))
    else (min, max)
  if min = 0 ∧ max = some 0 then .empty
  else if min = 1 ∧ max = some 1 then body
  else .rep body min max greedy

/-- The parts of a sequence, or the plan itself. -/
def parts : Plan → List Plan
  | .empty => []
  | .sequence ps => ps
  | p => [p]

/-- Puts a part in front of a sequence; literals that meet become one. -/
def consPart : Plan → List Plan → List Plan
  | .literal a, .literal b :: ps => .literal (a ++ b) :: ps
  | p, ps => p :: ps

/-- Several plans in a row. -/
def inOrder (ps : List Plan) : Plan :=
  match (ps.flatMap parts).foldr consPart [] with
  | [] => .empty
  | [p] => p
  | ps => .sequence ps

/-- The alternatives of a choice, or the plan itself. -/
def alternatives : Plan → List Plan
  | .choice ps => ps
  | p => [p]

/-- The only character of a literal. -/
def singleChar? : Plan → Option Char
  | .literal [c] => some c
  | _ => none

/-- The members of a set. -/
def members? : Plan → Option CharSet
  | .set s => some s
  | _ => none

/-- The parts of what is a sequence of two or more. -/
def row? : Plan → Option (List Plan)
  | .sequence ps => some ps
  | _ => none

/-- Alternatives that share no start. -/
def oneOf (ps : List Plan) : Plan :=
  match ps.flatMap alternatives with
  | [] => .set ∅
  | [p] => p
  | ps =>
      match ps.mapM singleChar?, ps.mapM members? with
      | some cs, _ => ofSet (.ofList (cs.map fun c => (c.toNat, c.toNat)))
      | none, some sets => ofSet (.unionAll sets)
      | none, none => .choice ps

/-- The start that two sequences share. -/
def sharedStart (as bs : List Plan) : List Plan :=
  ((as.zip bs).takeWhile fun p => p.1.same p.2).map Prod.fst

/-- Several alternatives. Where all are sequences with a common start, the
start stands once in front of the rest of each. -/
def anyOf (ps : List Plan) : Plan :=
  let ps := ps.flatMap alternatives
  match ps.mapM row? with
  | some (first :: second :: rows) =>
      let start := (second :: rows).foldl sharedStart first
      if start.isEmpty then oneOf ps
      else
        let rests := (first :: second :: rows).map fun row =>
          inOrder (row.drop start.length)
        inOrder (start ++ [oneOf rests])
  | _ => oneOf ps

end Plan

end CheckGateway.Pattern
