/-
The key of a watermark: a digest of who asks (host and login, up to ASCII
case) and of what is asked (queue, identifier pattern and severity band).
The password is no part of it. A tag byte in front of the pattern keeps
the absent pattern apart from every present one.
-/
import CheckGateway.Credentials
import CheckGateway.Message.Basic
import CheckGateway.Table

namespace CheckGateway

/-- The key of a watermark. -/
structure WatermarkKey where
  digest : List UInt8
  deriving DecidableEq, Repr

namespace WatermarkKey

/-- A signed number of 32 bits as four bytes, the highest first. -/
def bytes32 (n : Int) : List UInt8 :=
  let m := (n % 0x100000000).toNat
  [(m / 0x1000000).toUInt8, (m / 0x10000).toUInt8, (m / 0x100).toUInt8,
    m.toUInt8]

/-- The pattern with its tag. -/
def patternBytes : Option String → List UInt8
  | some pattern => 1 :: Digest.bytesOf pattern
  | none => [0]

/-- What goes into the digest. -/
def parts (who : Credentials) (query : MessageQuery) : List (List UInt8) :=
  [Digest.bytesOf (Text.lowerAscii who.host),
    Digest.bytesOf (Text.lowerAscii who.login), Digest.bytesOf query.path,
    patternBytes query.idPattern, bytes32 query.band.min,
    bytes32 query.band.max]

/-- The key of a query. -/
def derive (who : Credentials) (query : MessageQuery) : WatermarkKey :=
  ⟨Digest.ofParts (parts who query)⟩

/-- The key in hexadecimal. -/
def hex (key : WatermarkKey) : String := Digest.hex key.digest

/-- The key as diagnostics show it, cut short. -/
def shown (key : WatermarkKey) : String :=
  "WatermarkKey(" ++ String.ofList (key.hex.toList.take 12) ++ ")"

end WatermarkKey

/-- The newest entry seen for each key. -/
abbrev Watermarks := Table WatermarkKey QueuedMessage

end CheckGateway
