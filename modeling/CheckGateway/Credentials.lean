/-
Who asks which remote system. Host and login count up to the case of
ASCII letters, the password exactly. A tenant is known by its key, which
holds the password only as a digest.
-/
import CheckGateway.Text.Ascii
import CheckGateway.Text.Quoted
import CheckGateway.Digest.Parts

namespace CheckGateway

/-- An account on a remote system. -/
structure Credentials where
  host : String
  login : String
  password : String
  deriving DecidableEq, Repr

/-- The identity of a tenant. -/
structure CredentialKey where
  host : String
  login : String
  passwordDigest : List UInt8
  deriving DecidableEq, Repr

namespace Credentials

/-- Two credentials are those of one tenant. -/
def agree (a b : Credentials) : Bool :=
  Text.eqIgnoreCase a.host b.host && Text.eqIgnoreCase a.login b.login
    && a.password == b.password

/-- What of the password goes into the digest. -/
def passwordParts (c : Credentials) : List (List UInt8) :=
  [Digest.bytesOf c.password]

/-- The tenant's identity. -/
def key (c : Credentials) : CredentialKey where
  host := Text.lowerAscii c.host
  login := Text.lowerAscii c.login
  passwordDigest := Digest.ofParts c.passwordParts

/-- The credentials as diagnostics show them, without the password. -/
def shown (c : Credentials) : String :=
  "Credentials \x7b host: " ++ Text.quoted c.host ++ ", login: "
    ++ Text.quoted c.login ++ ", password: \"[REDACTED]\" \x7d"

end Credentials

/-- The key as diagnostics show it. -/
def CredentialKey.shown (k : CredentialKey) : String :=
  "CredentialKey(" ++ k.login ++ "@" ++ k.host ++ ")"

end CheckGateway
