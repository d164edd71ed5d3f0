import BearerAuth.Crypto.Sha2

/-!
# Signature algorithms and key families

Which algorithms a key of each type may be used with. The table keeps a public key from
ever serving as a shared secret.
-/
namespace BearerAuth

inductive Algorithm
  | hs256
  | hs384
  | hs512
  | es256
  | es384
  | rs256
  | rs384
  | rs512
  | ps256
  | ps384
  | ps512
  | edDsa
  deriving DecidableEq, Repr

namespace Algorithm

def all : List Algorithm :=
  [hs256, hs384, hs512, es256, es384, rs256, rs384, rs512, ps256, ps384, ps512, edDsa]

def name : Algorithm → String
  | hs256 => "HS256"
  | hs384 => "HS384"
  | hs512 => "HS512"
  | es256 => "ES256"
  | es384 => "ES384"
  | rs256 => "RS256"
  | rs384 => "RS384"
  | rs512 => "RS512"
  | ps256 => "PS256"
  | ps384 => "PS384"
  | ps512 => "PS512"
  | edDsa => "EdDSA"

/-- The algorithm with exactly this name. -/
def ofName? (text : String) : Option Algorithm := all.find? fun algorithm => algorithm.name = text

theorem ofName?_name (algorithm : Algorithm) : ofName? algorithm.name = some algorithm := by
  cases algorithm <;> decide

theorem ofName?_eq_some_iff {text : String} {algorithm : Algorithm} :
    ofName? text = some algorithm ↔ algorithm.name = text := by
  constructor
  · intro h
    simpa using List.find?_some h
  · rintro rfl
    exact ofName?_name algorithm

end Algorithm

/-- The type of a key, which decides what it can verify. -/
inductive KeyFamily
  | hmac
  | rsa
  | ec
  | okp
  deriving DecidableEq, Repr

namespace KeyFamily

def name : KeyFamily → String
  | hmac => "Hmac"
  | rsa => "Rsa"
  | ec => "Ec"
  | okp => "Okp"

def allows : KeyFamily → Algorithm → Bool
  | hmac, .hs256 | hmac, .hs384 | hmac, .hs512 => true
  | rsa, .rs256 | rsa, .rs384 | rsa, .rs512 => true
  | rsa, .ps256 | rsa, .ps384 | rsa, .ps512 => true
  | ec, .es256 | ec, .es384 => true
  | okp, .edDsa => true
  | _, _ => false

end KeyFamily

/-- What a key may declare as its algorithm: one for signatures, or one of three that only
encrypt. -/
inductive DeclaredAlgorithm
  | signature (algorithm : Algorithm)
  | rsa15
  | rsaOaep
  | rsaOaep256
  deriving DecidableEq, Repr

namespace DeclaredAlgorithm

def all : List DeclaredAlgorithm := Algorithm.all.map signature ++ [rsa15, rsaOaep, rsaOaep256]

/-- The name in key documents. -/
def name : DeclaredAlgorithm → String
  | signature algorithm => algorithm.name
  | rsa15 => "RSA1_5"
  | rsaOaep => "RSA-OAEP"
  | rsaOaep256 => "RSA-OAEP-256"

/-- The name in messages, where a hyphen would split the word. -/
def label : DeclaredAlgorithm → String
  | signature algorithm => algorithm.name
  | rsa15 => "RSA1_5"
  | rsaOaep => "RSA_OAEP"
  | rsaOaep256 => "RSA_OAEP_256"

def signature? : DeclaredAlgorithm → Option Algorithm
  | signature algorithm => some algorithm
  | _ => none

end DeclaredAlgorithm
end BearerAuth
