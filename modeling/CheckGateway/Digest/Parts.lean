/-
The digest of several parts. Each part is followed by a unit separator
byte, which keeps parts apart that do not hold that byte themselves.
`joined` is what goes into the digest; statements about keys are
statements about it wherever the digest has no collisions.
-/
import CheckGateway.Digest.Sha256
import CheckGateway.Text.Decimal

namespace CheckGateway.Digest

/-- The byte after each part. -/
def separator : UInt8 := 0x1f

/-- The parts one after the other, each followed by the separator. -/
def joined (parts : List (List UInt8)) : List UInt8 :=
  parts.flatMap fun part => part ++ [separator]

/-- The digest of the joined parts. -/
def ofParts (parts : List (List UInt8)) : List UInt8 :=
  Sha256.hash (joined parts)

/-- The UTF-8 bytes of a text. -/
def bytesOf (s : String) : List UInt8 :=
  s.toUTF8.toList

/-- Bytes in lower-case hexadecimal. -/
def hex (bytes : List UInt8) : String :=
  String.ofList (bytes.flatMap fun b =>
    [Text.hexDigit (b.toNat / 16), Text.hexDigit b.toNat])

/-- The bytes that a hexadecimal text stands for. -/
def ofHex? : List Char → Option (List UInt8)
  | [] => some []
  | a :: b :: rest => do
      let high ← Text.hexValue? a
      let low ← Text.hexValue? b
      let bytes ← ofHex? rest
      return (high * 16 + low).toUInt8 :: bytes
  | [_] => none

end CheckGateway.Digest
