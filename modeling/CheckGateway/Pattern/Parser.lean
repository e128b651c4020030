/-
Reading patterns. A pattern is alternatives of sequences of pieces; a
piece is a character, an escape, a class in brackets, a group, or one of
these repeated. Flags such as `(?i)` hold from where they stand to the end
of the group around them, later alternatives included. There are no
back-references and no look-around. A pattern is refused when it nests
more than 250 deep or when an automaton for it takes more than ten
mebibytes.

Every function that follows the nesting takes fuel; `read?` gives one more
than there are characters, and every step takes a character.
-/
import CheckGateway.Pattern.Footprint
import CheckGateway.Text.Decimal
import CheckGateway.Unicode.Recent

namespace CheckGateway.Pattern

/-- The flags at a place of a pattern. -/
structure Flags where
  ignoreCase : Bool := false
  multiLine : Bool := false
  dotNewline : Bool := false
  swapGreed : Bool := false
  unicode : Bool := true
  crlf : Bool := false
  /-- Blanks and comments between pieces do not count. -/
  verbose : Bool := false
  deriving DecidableEq, Repr

/-- A piece of a pattern: what it means, from what its automaton is laid
out, how deep it nests, and whether a repetition may follow it. -/
structure Piece where
  regex : Regex
  plan : Plan
  height : Nat := 0
  repeatable : Bool := true
  deriving Repr

/-- A piece of a class in brackets. -/
structure ClassPiece where
  set : CharSet
  height : Nat
  deriving Repr

/-- A character of a pattern; `byte` marks one written as two hexadecimal
digits. -/
structure Literal where
  char : Char
  byte : Bool
  deriving DecidableEq, Repr

/-- What an escape stands for. -/
inductive Escape where
  | literal (l : Literal)
  | set (s : CharSet)
  | look (cond : Look)
  deriving Repr

/-- The operators between sets in brackets. -/
inductive SetOp where
  | inter | diff | symmDiff
  deriving DecidableEq, Repr

-- ============================================================== blanks

/-- Drops blanks and comments; a comment runs to the end of its line. -/
def skipBlanks (inComment : Bool) : List Char → List Char
  | [] => []
  | c :: cs =>
      if inComment then skipBlanks (c != '\n') cs
      else if Text.isBlank c then skipBlanks false cs
      else if c = '#' then skipBlanks true cs
      else c :: cs

/-- Drops what does not count at a place. -/
def space (fl : Flags) (cs : List Char) : List Char :=
  if fl.verbose then skipBlanks false cs else cs

/-- The first character that counts after a hyphen in brackets. A comment
mark hides only the blanks after it here. -/
def peekSpace (fl : Flags) (cs : List Char) : Option Char :=
  if fl.verbose then
    let after := match cs.dropWhile Text.isBlank with
      | '#' :: rest => rest.dropWhile Text.isBlank
      | rest => rest
    (after.head?).or cs.head?
  else cs.head?

/-- The characters up to a closing brace, without what does not count. -/
def braced (fl : Flags) (inComment : Bool) (before : List Char) :
    List Char → Option (List Char × List Char)
  | [] => none
  | c :: cs =>
      if inComment then braced fl (c != '\n') before cs
      else if fl.verbose && Text.isBlank c then braced fl false before cs
      else if fl.verbose && c == '#' then braced fl true before cs
      else if c = '\x7d' then some (before.reverse, cs)
      else braced fl false (c :: before) cs

-- ============================================================= escapes

/-- The set closed under letter case, where case is ignored. -/
def Flags.close (fl : Flags) (s : CharSet) : CharSet :=
  if fl.ignoreCase then CharSet.close fl.unicode s else s

/-- The complement, which only sets of whole characters have. -/
def Flags.negate? (fl : Flags) (negated : Bool) (s : CharSet) :
    Option CharSet :=
  if !negated then some s
  else if fl.unicode then some (CharSet.compl s)
  else none

/-- The character with a code point. -/
def charOf? (n : Nat) : Option Char :=
  if n.isValidChar then some (Char.ofNat n) else none

/-- The value of a fixed number of hexadecimal digits. -/
def hexDigits (fl : Flags) : Nat → Nat → List Char → Option (Nat × List Char)
  | 0, acc, cs => some (acc, cs)
  | _ + 1, _, [] => none
  | n + 1, acc, c :: cs => do
      let d ← Text.hexValue? c
      hexDigits fl n (acc * 16 + d) (space fl cs)

/-- A character by its code point, after `\x`, `\u` or `\U`. -/
def hexLiteral (fl : Flags) (width : Nat) (cs : List Char) :
    Option (Literal × List Char) :=
  match space fl cs with
  | '\x7b' :: cs => do
      let (digits, rest) ← braced fl false [] cs
      guard !digits.isEmpty
      let values ← digits.mapM Text.hexValue?
      let c ← charOf? (values.foldl (fun acc d => acc * 16 + d) 0)
      return (⟨c, false⟩, rest)
  | cs => do
      let (n, rest) ← hexDigits fl width 0 cs
      let c ← charOf? n
      return (⟨c, width == 2⟩, rest)

/-- What a property in braces asks for: the name, the value after `=`, `:`
or `!=` if there is one, and whether it is `!=`. -/
structure PropertyQuery where
  name : String
  value : Option String := none
  unequal : Bool := false
  deriving DecidableEq, Repr

/-- What stands before and after the first `!=`. -/
def splitUnequal (before : List Char) :
    List Char → Option (List Char × List Char)
  | '!' :: '=' :: value => some (before.reverse, value)
  | c :: cs => splitUnequal (c :: before) cs
  | [] => none

/-- Reads what stands between the braces. -/
def PropertyQuery.ofText (text : List Char) : PropertyQuery :=
  match splitUnequal [] text with
  | some (name, value) => ⟨.ofList name, some (.ofList value), true⟩
  | none =>
      let mark := if text.contains ':' then ':' else '='
      match text.dropWhile (· != mark) with
      | _ :: value =>
          ⟨.ofList (text.takeWhile (· != mark)), some (.ofList value), false⟩
      | [] => ⟨.ofList text, none, false⟩

/-- The set that is asked for, where `!=` is not looked at. -/
def PropertyQuery.set? (query : PropertyQuery) : Option CharSet :=
  match query.value with
  | none => CharSet.ofPropertyName? query.name
  | some value => CharSet.ofPropertyValue? query.name value

/-- A Unicode class, after `\p` or `\P`. -/
def propertySet (fl : Flags) (negated : Bool) (cs : List Char) :
    Option (CharSet × List Char) := do
  guard fl.unicode
  let (query, rest) ← match space fl cs with
    | '\x7b' :: cs =>
        (braced fl false [] cs).map fun (text, rest) =>
          (PropertyQuery.ofText text, rest)
    | c :: cs =>
        if c = '\\' then none
        else some ({ name := String.singleton c }, space fl cs)
    | [] => none
  let s ← fl.negate? (negated != query.unequal) (fl.close (← query.set?))
  return (s, rest)

/-- The digits, blanks or word characters. -/
def shorthand (fl : Flags) : Char → Option CharSet
  | 'd' => if fl.unicode then some .digit else CharSet.ascii? "digit"
  | 's' => if fl.unicode then some .space else CharSet.ascii? "space"
  | 'w' => if fl.unicode then some .word else CharSet.ascii? "word"
  | 'D' => if fl.unicode then some (CharSet.compl .digit) else none
  | 'S' => if fl.unicode then some (CharSet.compl .space) else none
  | 'W' => if fl.unicode then some (CharSet.compl .word) else none
  | _ => none

/-- Characters with a meaning of their own in a pattern. -/
def metaChars : List Char :=
  ['\\', '.', '+', '*', '?', '(', ')', '|', '[', ']', '\x7b', '\x7d', '^',
    '$', '#', '&', '-', '~']

/-- A character that a backslash makes plain. -/
def isPlainEscape (c : Char) : Bool :=
  metaChars.contains c
    || (c.toNat < 0x80 && !c.isAlphanum && c != '<' && c != '>')

/-- The conditions written `\b` and a name in braces. -/
def boundary? (ascii : Bool) (name : String) : Option Look :=
  match name with
  | "start" => some (.wordStart ascii)
  | "end" => some (.wordEnd ascii)
  | "start-half" => some (.wordStartHalf ascii)
  | "end-half" => some (.wordEndHalf ascii)
  | _ => none

/-- A condition after `\b`. Braces that cannot hold a name are left for a
repetition. -/
def wordBoundary (fl : Flags) (cs : List Char) : Option (Look × List Char) :=
  let ascii := !fl.unicode
  match cs with
  | '\x7b' :: inner =>
      match space fl inner with
      | [] => none
      | c :: _ =>
          if c.isAlpha || c == '-' then do
            let (name, rest) ← braced fl false [] inner
            guard (name.all fun c => c.isAlpha || c == '-')
            let look ← boundary? ascii (String.ofList name)
            return (look, rest)
          else some (.wordBoundary ascii, cs)
  | cs => some (.wordBoundary ascii, cs)

/-- What follows a backslash. -/
def escape (fl : Flags) : List Char → Option (Escape × List Char)
  | [] => none
  | c :: cs =>
      let ascii := !fl.unicode
      let plain (c : Char) := some (Escape.literal ⟨c, false⟩, cs)
      let look (l : Look) := some (Escape.look l, cs)
      if c.isDigit then none
      else if isPlainEscape c then plain c
      else match c with
        | 'x' => (hexLiteral fl 2 cs).map fun (l, cs) => (.literal l, cs)
        | 'u' => (hexLiteral fl 4 cs).map fun (l, cs) => (.literal l, cs)
        | 'U' => (hexLiteral fl 8 cs).map fun (l, cs) => (.literal l, cs)
        | 'p' => (propertySet fl false cs).map fun (s, cs) => (.set s, cs)
        | 'P' => (propertySet fl true cs).map fun (s, cs) => (.set s, cs)
        | 'a' => plain '\x07'
        | 'f' => plain '\x0c'
        | 't' => plain '\t'
        | 'n' => plain '\n'
        | 'r' => plain '\r'
        | 'v' => plain '\x0b'
        | 'A' => look .startText
        | 'z' => look .endText
        | 'b' => (wordBoundary fl cs).map fun (l, cs) => (.look l, cs)
        | 'B' => look (.notWordBoundary ascii)
        | '<' => look (.wordStart ascii)
        | '>' => look (.wordEnd ascii)
        | c => (shorthand fl c).map fun s => (.set s, cs)

-- ============================================================ brackets

/-- A character in brackets. Where single bytes are meant it is one of
ASCII. -/
def Literal.inClass? (fl : Flags) (l : Literal) : Option Char :=
  if fl.unicode || l.char.toNat < 0x80 then some l.char else none

/-- One character or class in brackets, with or without backslash. -/
def classItem (fl : Flags) : List Char → Option (Escape × List Char)
  | [] => none
  | '\\' :: cs => escape fl cs
  | c :: cs => some (.literal ⟨c, false⟩, cs)

/-- One character, class or range in brackets. -/
def classRange (fl : Flags) (cs : List Char) :
    Option (CharSet × List Char) := do
  let (first, rest) ← classItem fl cs
  let single : Option (CharSet × List Char) :=
    match first with
    | .literal l => (l.inClass? fl).map fun c => (.char c, space fl rest)
    | .set s => some (s, space fl rest)
    | .look _ => none
  match space fl rest with
  | [] => none
  | '-' :: after =>
      if peekSpace fl after == some ']' || peekSpace fl after == some '-' then
        single
      else do
        let (second, rest) ← classItem fl (space fl after)
        match first, second with
        | .literal a, .literal b => do
            let low ← a.inClass? fl
            let high ← b.inClass? fl
            guard (low ≤ high)
            return (.range low.toNat high.toNat, rest)
        | _, _ => none
  | _ => single

/-- A named class such as `[:alpha:]`, after its first bracket. -/
def asciiClass (fl : Flags) (cs : List Char) :
    Option (Option CharSet × List Char) :=
  match cs with
  | ':' :: cs =>
      let (negated, cs) := match cs with
        | '^' :: cs => (true, cs)
        | cs => (false, cs)
      match cs.dropWhile (· != ':') with
      | ':' :: ']' :: rest => do
          let s ← CharSet.ascii? (String.ofList (cs.takeWhile (· != ':')))
          some (fl.negate? negated (fl.close s), rest)
      | _ => none
  | _ => none

/-- What stands between two operators of a class, in any order. -/
def unite : List ClassPiece → ClassPiece
  | [] => ⟨∅, 0⟩
  | [p] => p
  | ps =>
      ⟨.unionAll (ps.map ClassPiece.set),
        (ps.map fun p => p.height + 1).foldl max 0⟩

/-- Applies the operator that was waiting for its right side. -/
def applyOp (fl : Flags) (left : Option (ClassPiece × SetOp))
    (right : ClassPiece) : ClassPiece :=
  match left with
  | none => right
  | some (left, op) =>
      let a := fl.close left.set
      let b := fl.close right.set
      let s := match op with
        | .inter => CharSet.inter a b
        | .diff => CharSet.diff a b
        | .symmDiff => CharSet.symmDiff a b
      ⟨s, left.height.max right.height + 1⟩

/-- The hyphens at the start of a class, which stand for themselves. -/
def leadingHyphens (fl : Flags) :
    Nat → List ClassPiece → List Char → List ClassPiece × List Char
  | fuel + 1, items, '-' :: cs =>
      leadingHyphens fl fuel (⟨.char '-', 0⟩ :: items) (space fl cs)
  | _, items, cs => (items, cs)

mutual

/-- A class, after its opening bracket. -/
def bracket (fl : Flags) : Nat → List Char → Option (ClassPiece × List Char)
  | 0, _ => none
  | fuel + 1, cs => do
      let cs := space fl cs
      let (negated, cs) := match cs with
        | '^' :: cs => (true, space fl cs)
        | cs => (false, cs)
      let (items, cs) := leadingHyphens fl cs.length [] cs
      let (items, cs) := match items, cs with
        | [], ']' :: cs => ([⟨.char ']', 0⟩], space fl cs)
        | items, cs => (items, cs)
      let (body, rest) ← classBody fl fuel none items cs
      let s ← fl.negate? negated (fl.close body.set)
      return (⟨s, body.height + 1⟩, rest)

/-- The rest of a class up to its closing bracket, with the operator that
waits for its right side and the items since. -/
def classBody (fl : Flags) : Nat → Option (ClassPiece × SetOp) →
    List ClassPiece → List Char → Option (ClassPiece × List Char)
  | 0, _, _, _ => none
  | fuel + 1, left, items, cs =>
      let operator (op : SetOp) (rest : List Char) :=
        classBody fl fuel (some (applyOp fl left (unite items), op)) [] rest
      match space fl cs with
      | [] => none
      | ']' :: rest => some (applyOp fl left (unite items), rest)
      | '&' :: '&' :: rest => operator .inter rest
      | '-' :: '-' :: rest => operator .diff rest
      | '~' :: '~' :: rest => operator .symmDiff rest
      | '[' :: rest =>
          match asciiClass fl rest with
          | some (s?, rest) => do
              let s ← s?
              classBody fl fuel left (⟨s, 0⟩ :: items) rest
          | none => do
              let (inner, rest) ← bracket fl fuel rest
              classBody fl fuel left (inner :: items) rest
      | cs => do
          let (s, rest) ← classRange fl cs
          classBody fl fuel left (⟨s, 0⟩ :: items) rest

end

-- ============================================================== groups

/-- The flag that a letter stands for, as a change of flags. -/
def flagOf? (c : Char) : Option (Bool → Flags → Flags) :=
  match c with
  | 'i' => some fun on fl => { fl with ignoreCase := on }
  | 'm' => some fun on fl => { fl with multiLine := on }
  | 's' => some fun on fl => { fl with dotNewline := on }
  | 'U' => some fun on fl => { fl with swapGreed := on }
  | 'u' => some fun on fl => { fl with unicode := on }
  | 'R' => some fun on fl => { fl with crlf := on }
  | 'x' => some fun on fl => { fl with verbose := on }
  | _ => none

/-- The flag letters up to `:` or `)`. A letter or hyphen occurs once, and
a letter follows a hyphen. Gives the letters seen, the new flags, and the
text from the mark on. -/
def flagLetters (seen : List Char) (fl : Flags) :
    List Char → Option (List Char × Flags × List Char)
  | [] => none
  | c :: cs =>
      if c = ':' ∨ c = ')' then
        if seen.head? = some '-' then none else some (seen, fl, c :: cs)
      else if seen.contains c then none
      else if c = '-' then flagLetters ('-' :: seen) fl cs
      else do
        let set ← flagOf? c
        flagLetters (c :: seen) (set (!seen.contains '-') fl) cs

/-- A letter that a group's name can begin with. -/
def isNameStart (c : Char) : Bool :=
  c == '_' || Unicode.Recent.isAlphabetic c

/-- A character inside a group's name. -/
def isNameChar (c : Char) : Bool :=
  isNameStart c || c == '.' || c == '[' || c == ']'
    || Unicode.Recent.isNumeric c

/-- A group's name and the text after its closing mark. -/
def groupName (cs : List Char) : Option (List Char × List Char) :=
  match cs.dropWhile (· != '>') with
  | _ :: rest =>
      match cs.takeWhile (· != '>') with
      | c :: name =>
          if isNameStart c && name.all isNameChar then some (c :: name, rest)
          else none
      | [] => none
  | [] => none

/-- What an opening parenthesis begins. -/
inductive Opening where
  /-- Flags for the rest of the group around. -/
  | flags (fl : Flags) (rest : List Char)
  /-- A group, with the name that it captures by. -/
  | group (fl : Flags) (captures : Bool) (name : Option (List Char))
      (rest : List Char)

/-- Reads what follows an opening parenthesis. -/
def opening (fl : Flags) (cs : List Char) : Option Opening :=
  match space fl cs with
  | '?' :: '=' :: _ | '?' :: '!' :: _ => none
  | '?' :: '<' :: '=' :: _ | '?' :: '<' :: '!' :: _ => none
  | '?' :: 'P' :: '<' :: cs | '?' :: '<' :: cs =>
      (groupName cs).map fun (name, rest) => .group fl true (some name) rest
  | '?' :: cs =>
      match flagLetters [] fl cs with
      | some (_, inner, ':' :: rest) => some (.group inner false none rest)
      | some (_ :: _, fl, _ :: rest) => some (.flags fl rest)
      | _ => none
  | cs => some (.group fl true none cs)

-- ========================================================== repetition

/-- A decimal number of 32 bits with blanks around it; `none` outside
means a number that is too large, `none` inside means no digits. -/
def decimal (fl : Flags) (cs : List Char) : Option (Option Nat) × List Char :=
  let rec digits (acc : Option Nat) : Nat → List Char → Option Nat × List Char
    | fuel + 1, c :: cs =>
        match Text.digit? c with
        | some d => digits (some (acc.getD 0 * 10 + d)) fuel (space fl cs)
        | none => (acc, c :: cs)
    | _, cs => (acc, cs)
  let cs := cs.dropWhile Text.isBlank
  let (n, rest) := digits none cs.length cs
  let rec blanks : Nat → List Char → List Char
    | fuel + 1, c :: cs =>
        if Text.isBlank c then blanks fuel (space fl cs) else c :: cs
    | _, cs => cs
  let rest := blanks rest.length rest
  match n with
  | none => (some none, rest)
  | some n => (if n < 0x100000000 then some (some n) else none, rest)

/-- The bounds of a counted repetition, after its opening brace. -/
def counts (fl : Flags) (cs : List Char) :
    Option (Nat × Option Nat × List Char) := do
  let (low?, rest) := decimal fl (space fl cs)
  let low ← (← low?)
  match rest with
  | '\x7d' :: rest => return (low, some low, rest)
  | ',' :: rest =>
      match space fl rest with
      | '\x7d' :: rest => return (low, none, rest)
      | rest => do
          let (high?, rest) := decimal fl rest
          let high ← (← high?)
          match rest with
          | '\x7d' :: rest =>
              guard (low ≤ high)
              return (low, some high, rest)
          | _ => none
  | _ => none

/-- Whether the mark follows that asks for as few rounds as possible, and
the text after it. Which match is found first does not matter here, but two
repetitions that differ in it are not the same. -/
def lazyMark : List Char → Bool × List Char
  | '?' :: cs => (true, cs)
  | cs => (false, cs)

/-- Repeats the last piece of a sequence. -/
def repeatLast (min : Nat) (max : Option Nat) (greedy : Bool) :
    List Piece → Option (List Piece)
  | [] => none
  | p :: before =>
      if p.repeatable then
        some ({ regex := p.regex.repeated min max
                plan := p.plan.repeated min max greedy
                height := p.height + 1 } :: before)
      else none

-- ============================================================ patterns

/-- A set as a piece. -/
def Piece.ofSet (set : CharSet) : Piece :=
  { regex := .one set, plan := .ofSet set }

/-- A condition as a piece. -/
def Piece.ofLook (cond : Look) : Piece :=
  { regex := .look cond, plan := .look cond }

/-- A character outside brackets. -/
def Literal.piece? (fl : Flags) (l : Literal) : Option Piece :=
  if !fl.unicode && l.byte && l.char.toNat ≥ 0x80 then none
  else some (.ofSet (fl.close (.char l.char)))

/-- The piece that an escape stands for. -/
def Escape.piece? (fl : Flags) : Escape → Option Piece
  | .literal l => l.piece? fl
  | .set s => some (.ofSet s)
  | .look cond => some (.ofLook cond)

/-- The point: any character but a line end. -/
def anyChar? (fl : Flags) : Option Piece :=
  if !fl.unicode then none
  else
    let lineEnd : CharSet :=
      if fl.crlf then .char '\n' ∪ .char '\r' else .char '\n'
    some (.ofSet
      (if fl.dotNewline then CharSet.any else CharSet.compl lineEnd))

/-- The start of the text or, in several lines, of a line. -/
def Flags.startLook (fl : Flags) : Look :=
  if !fl.multiLine then .startText
  else if fl.crlf then .startLineCr else .startLine

/-- The end of the text or, in several lines, of a line. -/
def Flags.endLook (fl : Flags) : Look :=
  if !fl.multiLine then .endText
  else if fl.crlf then .endLineCr else .endLine

/-- One piece of several, last one first. -/
def combine (regex : Regex → Regex → Regex) (plan : List Plan → Plan) :
    List Piece → Piece
  | [] => { regex := .empty, plan := .empty }
  | [p] => p
  | p :: before =>
      { regex := before.foldl (fun r q => regex q.regex r) p.regex
        plan := plan ((p :: before).reverse.map Piece.plan)
        height := ((p :: before).map fun q => q.height + 1).foldl max 0 }

/-- The pieces of a sequence, last one first, as one piece. -/
def sequencePiece : List Piece → Piece := combine .seq Plan.inOrder

/-- Alternatives, last one first, as one piece. -/
def choicePiece : List Piece → Piece := combine .alt Plan.anyOf

/-- Reads up to the end of the group or of the text. `names` are the group
names used so far, `done` the alternatives before, and `current` the
pieces of this alternative, each last one first. -/
def alternatives : Nat → Flags → List (List Char) → List Piece → List Piece →
    List Char → Option (Piece × List (List Char) × List Char)
  | 0, _, _, _, _, _ => none
  | fuel + 1, fl, names, done, current, cs =>
      let continueWith (piece : Piece) (rest : List Char) :=
        alternatives fuel fl names done (piece :: current) rest
      let repeated (min : Nat) (max : Option Nat) (rest : List Char) := do
        let (isLazy, rest) := lazyMark rest
        let current ← repeatLast min max (isLazy == fl.swapGreed) current
        alternatives fuel fl names done current rest
      match space fl cs with
      | [] => some (choicePiece (sequencePiece current :: done), names, [])
      | ')' :: rest =>
          some (choicePiece (sequencePiece current :: done), names,
            ')' :: rest)
      | '|' :: rest =>
          alternatives fuel fl names (sequencePiece current :: done) [] rest
      | '(' :: rest => do
          match ← opening fl rest with
          | .flags changed rest =>
              alternatives fuel changed names done
                ({ regex := .empty, plan := .empty, repeatable := false }
                  :: current)
                rest
          | .group inner captures name rest => do
              let names ← match name with
                | none => some names
                | some n => if names.contains n then none else some (n :: names)
              let (body, names, rest) ←
                alternatives fuel inner names [] [] rest
              match rest with
              | ')' :: rest =>
                  let plan := if captures then .capture body.plan else body.plan
                  alternatives fuel fl names done
                    (⟨body.regex, plan, body.height + 1, true⟩ :: current) rest
              | _ => none
      | '[' :: rest => do
          let (inner, rest) ← bracket fl fuel rest
          continueWith { Piece.ofSet inner.set with height := inner.height } rest
      | '?' :: rest => repeated 0 (some 1) rest
      | '*' :: rest => repeated 0 none rest
      | '+' :: rest => repeated 1 none rest
      | '\x7b' :: rest => do
          let (min, max, rest) ← counts fl rest
          repeated min max (space fl rest)
      | '\\' :: rest => do
          let (e, rest) ← escape fl rest
          continueWith (← e.piece? fl) rest
      | '.' :: rest => do continueWith (← anyChar? fl) rest
      | '^' :: rest => continueWith (.ofLook fl.startLook) rest
      | '$' :: rest => continueWith (.ofLook fl.endLook) rest
      | c :: rest => do
          continueWith (← Literal.piece? fl ⟨c, false⟩) rest

/-- How deep a pattern may nest. -/
def maxHeight : Nat := 250

/-- Reads a whole pattern. -/
def read? (pattern : String) : Option Regex := do
  let cs := pattern.toList
  let (piece, _, rest) ← alternatives (cs.length + 1) {} [] [] [] cs
  guard rest.isEmpty
  guard (piece.height ≤ maxHeight)
  guard piece.plan.fits
  return piece.regex

/-- The expression that a whole identifier must match, and the text it is
read from. -/
def readWhole? (pattern : String) : Option Regex :=
  read? ("^(?:" ++ pattern ++ ")$")

end CheckGateway.Pattern
