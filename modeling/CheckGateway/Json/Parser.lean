/-
Reading JSON values from tokens. Containers nest at most 127 deep; of two
members of one name the later counts. `skip` passes over a value that
nobody uses: its form is checked, but neither its depth nor the size of
its numbers.

Every function takes fuel that bounds the tokens it may read; the callers
below give one more than there are tokens, so it never runs out.
-/
import CheckGateway.Json.Token
import CheckGateway.Json.Problem

namespace CheckGateway.Json

/-- The depth that is left at the outermost value. -/
def maxDepth : Nat := 128

mutual

/-- Reads one value; `depth` is the depth that is left. -/
def value : Nat → Nat → List Token → Except Problem (Value × List Token)
  | 0, _, _ => .error .notJson
  | fuel + 1, depth, tokens =>
      match tokens with
      | .null :: rest => .ok (.null, rest)
      | .bool b :: rest => .ok (.bool b, rest)
      | .number (some n) :: rest => .ok (.number n, rest)
      | .string (some s) :: rest => .ok (.string s, rest)
      | .openArray :: rest =>
          if depth ≤ 1 then .error .notJson
          else
            match rest with
            | .closeArray :: rest => .ok (.array [], rest)
            | _ => do
                let (items, rest) ← elements fuel (depth - 1) rest
                return (.array items, rest)
      | .openObject :: rest =>
          if depth ≤ 1 then .error .notJson
          else
            match rest with
            | .closeObject :: rest => .ok (.object [], rest)
            | _ => do
                let (members, rest) ← members fuel (depth - 1) [] rest
                return (.object members, rest)
      | _ => .error .notJson

/-- Reads the elements of an array that has at least one, and its end. -/
def elements : Nat → Nat → List Token →
    Except Problem (List Value × List Token)
  | 0, _, _ => .error .notJson
  | fuel + 1, depth, tokens => do
      let (item, rest) ← value fuel depth tokens
      match rest with
      | .comma :: rest => do
          let (items, rest) ← elements fuel depth rest
          return (item :: items, rest)
      | .closeArray :: rest => return ([item], rest)
      | _ => throw .notJson

/-- Reads the members of an object that has at least one, and its end,
into the members before them. -/
def members : Nat → Nat → List (String × Value) → List Token →
    Except Problem (List (String × Value) × List Token)
  | 0, _, _, _ => .error .notJson
  | fuel + 1, depth, before, tokens =>
      match tokens with
      | .string (some name) :: .colon :: rest => do
          let (item, rest) ← value fuel depth rest
          let before := insertMember name item before
          match rest with
          | .comma :: rest => members fuel depth before rest
          | .closeObject :: rest => return (before, rest)
          | _ => throw .notJson
      | _ => .error .notJson

end

mutual

/-- Passes over one value and gives the tokens after it. -/
def skip : Nat → List Token → Except Problem (List Token)
  | 0, _ => .error .notJson
  | fuel + 1, tokens =>
      match tokens with
      | .null :: rest => .ok rest
      | .bool _ :: rest => .ok rest
      | .number _ :: rest => .ok rest
      | .string _ :: rest => .ok rest
      | .openArray :: .closeArray :: rest => .ok rest
      | .openArray :: rest => skipElements fuel rest
      | .openObject :: .closeObject :: rest => .ok rest
      | .openObject :: rest => skipMembers fuel rest
      | _ => .error .notJson

/-- Passes over the elements of an array and its end. -/
def skipElements : Nat → List Token → Except Problem (List Token)
  | 0, _ => .error .notJson
  | fuel + 1, tokens => do
      match ← skip fuel tokens with
      | .comma :: rest => skipElements fuel rest
      | .closeArray :: rest => return rest
      | _ => throw .notJson

/-- Passes over the members of an object and its end. -/
def skipMembers : Nat → List Token → Except Problem (List Token)
  | 0, _ => .error .notJson
  | fuel + 1, tokens =>
      match tokens with
      | .string _ :: .colon :: rest => do
          match ← skip fuel rest with
          | .comma :: rest => skipMembers fuel rest
          | .closeObject :: rest => return rest
          | _ => throw .notJson
      | _ => .error .notJson

end

/-- The problem with a value of the wrong kind, read from its first
token. -/
def mismatch (expected : String) : List Token → Problem
  | .null :: _ => .invalidType .null expected
  | .bool b :: _ => .invalidType (.bool b) expected
  | .number (some n) :: _ => .invalidType (.number n) expected
  | .string (some s) :: _ => .invalidType (.string s) expected
  | .openArray :: _ => .invalidType .sequence expected
  | .openObject :: _ => .invalidType .map expected
  | _ => .notJson

/-- Reads an object as a record. -/
def record (fuel depth : Nat) (tokens : List Token) :
    Except Problem (Record × List Token) :=
  match tokens with
  | .openObject :: .closeObject :: rest =>
      if depth ≤ 1 then .error .notJson else .ok (.empty, rest)
  | .openObject :: rest =>
      if depth ≤ 1 then .error .notJson
      else do
        let (members, rest) ← members fuel (depth - 1) [] rest
        return (⟨members⟩, rest)
  | tokens => .error (mismatch "a map" tokens)

/-- A value that must be followed by the end of the text. -/
def complete (result : Except Problem (α × List Token)) :
    Except Problem α := do
  match ← result with
  | (a, []) => return a
  | _ => throw .notJson

/-- Reads a text that holds one value. -/
def parse (s : String) : Except Problem Value :=
  let tokens := tokens s
  complete (value (tokens.length + 1) maxDepth tokens)

end CheckGateway.Json
