import BearerAuth.Cache.Snapshot
import BearerAuth.Dialogue
import BearerAuth.Validation.ValidatedToken

/-!
# Token validation

The checks on one token, as a dialogue with the key cache and the clock: envelope, type, key,
signature, payload and claims. Nothing of the payload is read before a signature over it has
been verified.
-/
namespace BearerAuth

/-- What a validation asks: a key that is at hand, a key after a refresh, or the time. -/
inductive Question
  | lookup (kid : Option String)
  | refresh (kid : Option String)
  | now

def Question.Answer : Question → Type
  | lookup _ => Option VerificationKey
  | refresh _ => Except CacheError VerificationKey
  | now => Instant

abbrev Inquiry (α : Type) := Dialogue Question Question.Answer α

namespace Inquiry

def lookup (kid : Option String) : Inquiry (Option VerificationKey) :=
  Dialogue.question (Question.lookup kid)

def refresh (kid : Option String) : Inquiry (Except CacheError VerificationKey) :=
  Dialogue.question (Question.refresh kid)

def now : Inquiry Instant := Dialogue.question Question.now

end Inquiry

/-- An inquiry that may end with a rejection at any point. -/
abbrev Validation (α : Type) := ExceptT Rejection Inquiry α

namespace Validation

/-- A check that asks nothing. -/
def check {α : Type} (result : Except Rejection α) : Validation α := ExceptT.mk (pure result)

def checkEnvelope {α : Type} (result : Except EnvelopeError α) : Validation α :=
  check (result.mapError Rejection.malformed)

/-- The key at hand, or the one that a refresh brings. -/
def findKey (kid : Option String) : Validation VerificationKey := do
  match ← Inquiry.lookup kid with
  | some key => return key
  | none => check ((← Inquiry.refresh kid).mapError Rejection.ofCacheError)

/-- The first key to try. With identifiers the token must carry one, since a refresh could
not find a key without it. -/
def resolveKey (keyIdDisabled : Bool) (header : Header) : Validation VerificationKey :=
  if keyIdDisabled then findKey none
  else
    match header.kid with
    | some kid => findKey (some kid)
    | none => throw (.keyNotFound none)

/-- Whether the signature is good over exactly the bytes of the first two segments. -/
def verifiesUnder (token : CompactToken) (header : Header) (key : VerificationKey) : Bool :=
  key.verify (Bytes.ofText token.signingInput) token.signature header.algorithm

/-- What a second refresh, made for the signature's sake, says about the token: whatever goes
wrong counts against the signature, except that the caller gave up. -/
def judgeRefreshed (token : CompactToken) (header : Header) :
    Except CacheError VerificationKey → Except Rejection Unit
  | .ok key => if verifiesUnder token header key then .ok () else .error .signatureInvalid
  | .error .cancelled => .error .cancelled
  | .error _ => .error .signatureInvalid

/-- Without identifiers the only key may have been replaced since it was read, so that one
more refresh is allowed. -/
def verifySignature (keyIdDisabled : Bool) (token : CompactToken) (header : Header)
    (key : VerificationKey) : Validation Unit :=
  if verifiesUnder token header key then return ()
  else if keyIdDisabled then do
    check (judgeRefreshed token header (← Inquiry.refresh none))
  else throw .signatureInvalid

/-- The stages of a validation, each reached only after those before it have passed. -/
def stages (policy : Policy) (keyIdDisabled : Bool) (text : String) :
    Validation ValidatedToken := do
  let token ← checkEnvelope (CompactToken.parse text)
  let header ← checkEnvelope token.unverifiedHeader
  check (policy.checkType header)
  let key ← resolveKey keyIdDisabled header
  verifySignature keyIdDisabled token header key
  let claims ← checkEnvelope token.claims
  let standard ← check (policy.checkClaims claims (← Inquiry.now))
  return ⟨header, claims, standard⟩

end Validation

/-- The dialogue that validates a token. -/
def validate (policy : Policy) (keyIdDisabled : Bool) (text : String) :
    Inquiry (Except Rejection ValidatedToken) :=
  ExceptT.run (Validation.stages policy keyIdDisabled text)

end BearerAuth
