import BearerAuth.Base64Url
import BearerAuth.Crypto.Ed25519
import BearerAuth.Crypto.Hmac
import BearerAuth.Crypto.Rsa
import BearerAuth.Crypto.Weierstrass
import BearerAuth.Key.Jwk

/-!
# Verification keys

A key that may verify signatures, bound to one algorithm or to the algorithms of its family.
The declared algorithm always wins; without one the token may name an algorithm, but only of
the family. Lengths and curve points are left to verification, where a bad key verifies
nothing.
-/
namespace BearerAuth

/-- Decoded key material. A point of a curve is in its uncompressed form. -/
inductive KeyMaterial
  | secret (key : Bytes)
  | rsa (modulus exponent : Bytes)
  | ec (point : Bytes)
  | okp (point : Bytes)
  deriving DecidableEq, Repr

namespace KeyMaterial

def family : KeyMaterial → KeyFamily
  | secret _ => .hmac
  | rsa _ _ => .rsa
  | ec _ => .ec
  | okp _ => .okp

def ofJwk? : JwkMaterial → Option KeyMaterial
  | .oct k => (Base64Url.decode? k).map .secret
  | .okp x => (Base64Url.decode? x).map .okp
  | .rsa n e =>
    match Base64Url.decode? n, Base64Url.decode? e with
    | some n, some e => some (.rsa n e)
    | _, _ => none
  | .ec x y =>
    match Base64Url.decode? x, Base64Url.decode? y with
    | some x, some y => some (.ec (4 :: x ++ y))
    | _, _ => none

theorem family_of_ofJwk? {written : JwkMaterial} {material : KeyMaterial}
    (h : ofJwk? written = some material) : material.family = written.family := by
  cases written with
  | oct k =>
    obtain ⟨_, _, rfl⟩ := Option.map_eq_some_iff.1 h
    rfl
  | okp x =>
    obtain ⟨_, _, rfl⟩ := Option.map_eq_some_iff.1 h
    rfl
  | rsa n e =>
    rw [ofJwk?] at h
    split at h
    · cases h
      rfl
    · cases h
  | ec x y =>
    rw [ofJwk?] at h
    split at h
    · cases h
      rfl
    · cases h

/-- Check a signature, given as base64url, with an algorithm. Material of another family
than the algorithm's verifies nothing. -/
def checkSignature (material : KeyMaterial) (algorithm : Algorithm) (input : Bytes)
    (signature : String) : Bool :=
  let decoded (check : Bytes → Bool) : Bool := (Base64Url.decode? signature).any check
  match algorithm, material with
  | .hs256, secret key => Base64Url.encode (Crypto.hmac .sha256 key input) = signature
  | .hs384, secret key => Base64Url.encode (Crypto.hmac .sha384 key input) = signature
  | .hs512, secret key => Base64Url.encode (Crypto.hmac .sha512 key input) = signature
  | .rs256, rsa n e => decoded fun s => (Crypto.Rsa.PublicKey.ofBytes? n e).any
      fun key => Crypto.Rsa.verifyBlock .sha256 key input s
  | .rs384, rsa n e => decoded fun s => (Crypto.Rsa.PublicKey.ofBytes? n e).any
      fun key => Crypto.Rsa.verifyBlock .sha384 key input s
  | .rs512, rsa n e => decoded fun s => (Crypto.Rsa.PublicKey.ofBytes? n e).any
      fun key => Crypto.Rsa.verifyBlock .sha512 key input s
  | .ps256, rsa n e => decoded fun s => (Crypto.Rsa.PublicKey.ofBytes? n e).any
      fun key => Crypto.Rsa.verifySalted .sha256 key input s
  | .ps384, rsa n e => decoded fun s => (Crypto.Rsa.PublicKey.ofBytes? n e).any
      fun key => Crypto.Rsa.verifySalted .sha384 key input s
  | .ps512, rsa n e => decoded fun s => (Crypto.Rsa.PublicKey.ofBytes? n e).any
      fun key => Crypto.Rsa.verifySalted .sha512 key input s
  | .es256, ec point => decoded (Crypto.Weierstrass.p256.verify .sha256 point input)
  | .es384, ec point => decoded (Crypto.Weierstrass.p384.verify .sha384 point input)
  | .edDsa, okp point => decoded (Crypto.Ed25519.verify point input)
  | _, _ => false

end KeyMaterial

/-- Why a readable key cannot be used. Of material that cannot be decoded the message leaves out
what the decoder adds behind the colon. -/
inductive KeyFault
  | forEncryption
  | unsupportedAlgorithm (declared : DeclaredAlgorithm)
  | mismatchedAlgorithm (algorithm : Algorithm)
  | undecodable
  deriving DecidableEq, Repr

namespace KeyFault

def message : KeyFault → String
  | forEncryption => "key is declared for encryption"
  | unsupportedAlgorithm declared => "unsupported key algorithm " ++ declared.label
  | mismatchedAlgorithm algorithm =>
    "algorithm " ++ algorithm.name ++ " does not match key type"
  | undecodable => "undecodable key: "

end KeyFault

structure VerificationKey where
  kid : Option String
  algorithm : Option Algorithm
  material : KeyMaterial
  deriving DecidableEq, Repr

namespace VerificationKey

def family (key : VerificationKey) : KeyFamily := key.material.family

/-- An identifier that is empty is no identifier. -/
def nonEmpty? (text : Option String) : Option String := text.filter (· ≠ "")

/-- The algorithm a key declares, checked against its family. -/
def declaredAlgorithm (jwk : Jwk) : Except KeyFault (Option Algorithm) :=
  match jwk.algorithm with
  | none => .ok none
  | some declared =>
    match declared.signature? with
    | none => .error (.unsupportedAlgorithm declared)
    | some algorithm =>
      if jwk.material.family.allows algorithm then .ok (some algorithm)
      else .error (.mismatchedAlgorithm algorithm)

/-- Load a key. Its purpose is checked first, then its algorithm, then its material. -/
def ofJwk (jwk : Jwk) : Except KeyFault VerificationKey :=
  if jwk.use = some "enc" then .error .forEncryption
  else
    match declaredAlgorithm jwk with
    | .error fault => .error fault
    | .ok algorithm =>
      match KeyMaterial.ofJwk? jwk.material with
      | none => .error .undecodable
      | some material => .ok ⟨nonEmpty? jwk.kid, algorithm, material⟩

/-- The algorithm to verify with, for a token that names one. -/
def algorithmFor (key : VerificationKey) (named : String) : Option Algorithm :=
  match key.algorithm with
  | some algorithm => some algorithm
  | none => (Algorithm.ofName? named).filter key.family.allows

/-- Whether a signature over `input` is good, for a token that names an algorithm. -/
def verify (key : VerificationKey) (input : Bytes) (signature named : String) : Bool :=
  match key.algorithmFor named with
  | none => false
  | some algorithm => key.material.checkSignature algorithm input signature

end VerificationKey
end BearerAuth
