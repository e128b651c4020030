/-
Reading a payload as the members of a request, in one pass over its
tokens: the first problem in the order of the text is the one that
counts. Members of other names are passed over. A payload may also be an
array of the members in order, where only the last may be left out.
-/
import CheckGateway.Json.Parser

namespace CheckGateway.Wire

open Json

/-- The members of a request as far as they have been read; `none` outside
for one that has not occurred, inside for one that is null. -/
structure Members where
  host : Option (Option String) := none
  login : Option (Option String) := none
  password : Option (Option String) := none
  command : Option (Option String) := none
  args : Option (Option Record) := none
  deriving Repr

/-- The names of the members of a request. -/
inductive Member where
  | host | login | password | command | args
  deriving DecidableEq, Repr

/-- The member with a name. -/
def Member.ofName? (name : String) : Option Member :=
  match name with
  | "host" => some .host
  | "login" => some .login
  | "password" => some .password
  | "command" => some .command
  | "args" => some .args
  | _ => none

/-- The member has occurred. -/
def Members.has (m : Members) : Member → Bool
  | .host => m.host.isSome
  | .login => m.login.isSome
  | .password => m.password.isSome
  | .command => m.command.isSome
  | .args => m.args.isSome

/-- A text or null. -/
def textOrNull : List Token → Except Problem (Option String × List Token)
  | .null :: rest => .ok (none, rest)
  | .string (some s) :: rest => .ok (some s, rest)
  | tokens => .error (mismatch "a string" tokens)

/-- A record or null. -/
def recordOrNull (fuel depth : Nat) :
    List Token → Except Problem (Option Record × List Token)
  | .null :: rest => .ok (none, rest)
  | tokens => do
      let (r, rest) ← record fuel depth tokens
      return (some r, rest)

/-- Reads the value of a member. -/
def Members.read (fuel depth : Nat) (m : Members) (member : Member)
    (tokens : List Token) : Except Problem (Members × List Token) :=
  match member with
  | .host => do
      let (v, rest) ← textOrNull tokens
      return ({ m with host := some v }, rest)
  | .login => do
      let (v, rest) ← textOrNull tokens
      return ({ m with login := some v }, rest)
  | .password => do
      let (v, rest) ← textOrNull tokens
      return ({ m with password := some v }, rest)
  | .command => do
      let (v, rest) ← textOrNull tokens
      return ({ m with command := some v }, rest)
  | .args => do
      let (v, rest) ← recordOrNull fuel depth tokens
      return ({ m with args := some v }, rest)

/-- Reads members up to the end of an object that has at least one. -/
def readMembers (depth : Nat) : Nat → Members → List Token →
    Except Problem (Members × List Token)
  | 0, _, _ => .error .notJson
  | fuel + 1, m, tokens =>
      match tokens with
      | .string (some name) :: rest => do
          let (m, rest) ← match Member.ofName? name with
            | some member =>
                if m.has member then throw (.duplicateField name)
                else match rest with
                  | .colon :: rest => m.read fuel depth member rest
                  | _ => throw .notJson
            | none => match rest with
                | .colon :: rest => do
                    let rest ← skip fuel rest
                    pure (m, rest)
                | _ => throw .notJson
          match rest with
          | .comma :: rest => readMembers depth fuel m rest
          | .closeObject :: rest => return (m, rest)
          | _ => throw .notJson
      | _ => .error .notJson

/-- What a request is called when a part of it is missing. -/
def arrayShape : String := "struct WireRequest with 5 elements"

/-- The members in the order of the array form. -/
def arrayOrder : List Member :=
  [.host, .login, .password, .command, .args]

/-- Reads elements of the array form for the given members, the first of
which is the `i`th element. -/
def readElements (fuel depth : Nat) : Nat → Members → List Member →
    List Token → Except Problem (Members × List Token)
  | _, m, [], tokens =>
      match tokens with
      | .closeArray :: rest => .ok (m, rest)
      | _ => .error .notJson
  | i, m, member :: later, tokens =>
      match tokens with
      | .closeArray :: rest =>
          if member = .args then .ok (m, rest)
          else .error (.invalidLength i arrayShape)
      | tokens => do
          let tokens ←
            if i = 0 then pure tokens
            else match tokens with
              | .comma :: .closeArray :: _ => throw .notJson
              | .comma :: rest => pure rest
              | _ => throw .notJson
          let (m, rest) ← m.read fuel depth member tokens
          readElements fuel depth (i + 1) m later rest

/-- Reads a request. -/
def request (fuel : Nat) (tokens : List Token) :
    Except Problem (Members × List Token) :=
  match tokens with
  | .openObject :: .closeObject :: rest => .ok ({}, rest)
  | .openObject :: rest => readMembers (maxDepth - 1) fuel {} rest
  | .openArray :: rest => readElements fuel (maxDepth - 1) 0 {} arrayOrder rest
  | tokens => .error (mismatch "struct WireRequest" tokens)

/-- Reads a payload that holds one request. -/
def read (payload : String) : Except Problem Members :=
  let tokens := tokens payload
  complete (request (tokens.length + 1) tokens)

-- ======================================================= lists of maps

/-- Reads maps up to the end of an array that has at least one. -/
def readMaps (depth : Nat) : Nat → List Token →
    Except Problem (List Record × List Token)
  | 0, _ => .error .notJson
  | fuel + 1, tokens => do
      let (r, rest) ← record fuel depth tokens
      match rest with
      | .comma :: .closeArray :: _ => throw .notJson
      | .comma :: rest => do
          let (rs, rest) ← readMaps depth fuel rest
          return (r :: rs, rest)
      | .closeArray :: rest => return ([r], rest)
      | _ => throw .notJson

/-- Reads a list of maps. -/
def maps (fuel : Nat) (tokens : List Token) :
    Except Problem (List Record × List Token) :=
  match tokens with
  | .openArray :: .closeArray :: rest => .ok ([], rest)
  | .openArray :: rest => readMaps (maxDepth - 1) fuel rest
  | tokens => .error (mismatch "a sequence" tokens)

/-- Reads a text that holds one list of maps. -/
def readMapList (text : String) : Except Problem (List Record) :=
  let tokens := tokens text
  complete (maps (tokens.length + 1) tokens)

end CheckGateway.Wire
