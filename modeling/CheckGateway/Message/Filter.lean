/-
Filtering entries of message queues. An entry passes if its severity lies
in the band, nobody has answered it, and its identifier, if there is a
pattern, matches the pattern as a whole. Filtering keeps the order.
-/
import CheckGateway.Message.Basic
import CheckGateway.Error
import CheckGateway.Pattern.Parser

namespace CheckGateway

/-- A filter that is ready to use. -/
structure MessageFilter where
  band : SeverityBand
  idPattern : Option Pattern.Regex
  deriving Repr

namespace MessageFilter

/-- The argument that holds an identifier pattern. -/
def patternField : String := "messageIdfilterPattern"

/-- Reads a pattern that identifiers must match as a whole. -/
def readPattern (pattern : String) : Outcome Pattern.Regex :=
  match Pattern.readWhole? pattern with
  | some r => .ok r
  | none => .error (.invalidArgument patternField "<regex error>")

/-- The filter of a query. -/
def ofQuery (query : MessageQuery) : Outcome MessageFilter :=
  match query.idPattern with
  | none => .ok ⟨query.band, none⟩
  | some pattern => do
      let r ← readPattern pattern
      return ⟨query.band, some r⟩

/-- An identifier passes the pattern. -/
def passesPattern (f : MessageFilter) (id : Option String) : Bool :=
  match f.idPattern, id with
  | none, _ => true
  | some r, some id => r.occurs id.toList
  | some _, none => false

/-- The entry passes, where `answered` says which entries are answered. -/
def acceptsWith (f : MessageFilter) (answered : QueuedMessage → Bool)
    (m : QueuedMessage) : Bool :=
  f.band.contains m.severity && !answered m && f.passesPattern m.id

/-- The entry passes. -/
def accepts (f : MessageFilter) (m : QueuedMessage) : Bool :=
  f.acceptsWith QueuedMessage.isAcknowledged m

/-- The entries that pass, in order. -/
def apply (f : MessageFilter) (ms : List QueuedMessage) :
    List QueuedMessage :=
  ms.filter f.accepts

end MessageFilter

end CheckGateway
