import BearerAuth.Issuer.SigningKey
import BearerAuth.Time.Instant

/-!
# Token builders

Claims and header fields for a token to be signed. A builder begins with usual claims and is
changed one field at a time; the last change of a field counts.
-/
namespace BearerAuth

open Json

/-- A whole number of a signed word is one of JSON. -/
def Json.Value.ofInt64 (value : Int64) : Value :=
  .number (.integer value.toInt (by
    have := value.le_toInt
    have := value.toInt_lt
    unfold FitsWord
    omega))

/-- The identifier in the header: the key's own, another, or none. -/
inductive KidChoice
  | fromKey
  | replaced (kid : String)
  | omitted
  deriving DecidableEq, Repr

structure TokenBuilder where
  claims : Members
  typ : Option String
  kid : KidChoice
  deriving Repr

namespace TokenBuilder

def defaultIssuer : String := "https://idp.example"

def defaultAudience : String := "svc-a"

/-- Set any claim. -/
def claim (builder : TokenBuilder) (name : String) (value : Value) : TokenBuilder :=
  { builder with claims := builder.claims.insert name value }

def withoutClaim (builder : TokenBuilder) (name : String) : TokenBuilder :=
  { builder with claims := builder.claims.erase name }

/-- A builder for a token issued at a time in seconds and good for one hour. -/
def issuedAt (seconds : Int64) : TokenBuilder :=
  { claims := Members.ofPairs
      [("iss", .string defaultIssuer), ("sub", .string "test-subject"),
        ("aud", .array [.string defaultAudience]), ("iat", .ofInt64 seconds),
        ("exp", .ofInt64 (seconds + 3600))]
    typ := some "JWT"
    kid := .fromKey }

def issuer (builder : TokenBuilder) (text : String) : TokenBuilder :=
  builder.claim "iss" (.string text)

def subject (builder : TokenBuilder) (text : String) : TokenBuilder :=
  builder.claim "sub" (.string text)

def audience (builder : TokenBuilder) (text : String) : TokenBuilder :=
  builder.claim "aud" (.string text)

def audiences (builder : TokenBuilder) (texts : List String) : TokenBuilder :=
  builder.claim "aud" (.array (texts.map .string))

def expiresAt (builder : TokenBuilder) (seconds : Int64) : TokenBuilder :=
  builder.claim "exp" (.ofInt64 seconds)

def withoutExpiry (builder : TokenBuilder) : TokenBuilder := builder.withoutClaim "exp"

def withTyp (builder : TokenBuilder) (text : String) : TokenBuilder :=
  { builder with typ := some text }

def withoutTyp (builder : TokenBuilder) : TokenBuilder := { builder with typ := none }

def withKid (builder : TokenBuilder) (text : String) : TokenBuilder :=
  { builder with kid := .replaced text }

def withoutKid (builder : TokenBuilder) : TokenBuilder := { builder with kid := .omitted }

/-- The identifier that a token signed with this key carries. -/
def kidFor (builder : TokenBuilder) (key : SigningKey) : Option String :=
  match builder.kid with
  | .fromKey => key.kid
  | .replaced kid => some kid
  | .omitted => none

def sign (builder : TokenBuilder) (key : SigningKey) : String :=
  key.sign builder.typ (builder.kidFor key) builder.claims

end TokenBuilder
end BearerAuth
