import BearerAuth.Crypto.Ed25519
import BearerAuth.Json.Printing
import BearerAuth.Base64Url

/-!
# Signing keys

Ed25519 keys made from a small number, so that the same number gives the same key again, with
the public key as a JSON Web Key and key sets of such keys.
-/
namespace BearerAuth

open Json

structure SigningKey where
  seed : UInt8
  kid : Option String
  deriving DecidableEq, Repr

namespace SigningKey

/-- The secret of thirty-two bytes: the seed itself, then a pattern made from it. -/
def secret (key : SigningKey) : Bytes :=
  (List.range 32).map fun i =>
    let position := UInt8.ofNat i
    if i = 0 then key.seed else key.seed * position + position

def publicKey (key : SigningKey) : Bytes := Crypto.Ed25519.publicKey key.secret

/-- The public key as an object; without an identifier that member is left out. -/
def jwk (key : SigningKey) : Value :=
  let members : Members := Members.ofPairs
    [("kty", .string "OKP"), ("crv", .string "Ed25519"),
      ("x", .string (Base64Url.encode key.publicKey)), ("alg", .string "EdDSA"),
      ("use", .string "sig")]
  match key.kid with
  | some kid => .object (members.insert "kid" (.string kid))
  | none => .object members

/-- The document that publishes keys. -/
def jwks (keys : List SigningKey) : Value := .object [("keys", .array (keys.map jwk))]

/-- The header members in the order in which they are written; absent ones are left out. -/
def headerMembers (typ kid : Option String) : Members :=
  (typ.map fun text => ("typ", Value.string text)).toList ++ [("alg", .string "EdDSA")] ++
    (kid.map fun text => ("kid", Value.string text)).toList

/-- The text that a signature over header and claims covers. -/
def signingInput (typ kid : Option String) (claims : Members) : String :=
  let segment (value : Value) := Base64Url.encode (Bytes.ofText value.print)
  segment (.object (headerMembers typ kid)) ++ "." ++ segment (.object claims)

/-- A signed token with these claims. -/
def sign (key : SigningKey) (typ kid : Option String) (claims : Members) : String :=
  let input := signingInput typ kid claims
  input ++ "." ++ Base64Url.encode (Crypto.Ed25519.sign key.secret (Bytes.ofText input))

end SigningKey
end BearerAuth
