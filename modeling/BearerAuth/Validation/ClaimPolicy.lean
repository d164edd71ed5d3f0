import BearerAuth.Claim.Containment
import BearerAuth.Claim.Expiry

/-!
# Claim policy

What the claims of a token must say once its signature has been verified: not expired, from
the right issuer, for the right audience, with the required claims. The first failure in this
order is the answer.
-/
namespace BearerAuth

open Json

/-- The claims that every accepted token has, as they were read. -/
structure StandardClaims where
  issuer : String
  audience : List String
  expiresAt : Instant
  deriving DecidableEq, Repr

namespace Policy

def checkIssuer (policy : Policy) (claims : Members) : Except Rejection String :=
  let received := (claims.get? "iss").bind Value.string?
  if policy.issuer ≠ "" ∧ received = some policy.issuer then .ok policy.issuer
  else .error (.issuerMismatch policy.issuer received)

/-- The claim `aud` as a list: one text stands for itself, other elements than texts do not
count, and absent or null is empty. -/
def audienceList (claims : Members) : Except ClaimFault (List String) :=
  match claims.get? "aud" with
  | none => .ok []
  | some .null => .ok []
  | some (.string text) => .ok [text]
  | some (.array items) => .ok (items.filterMap Value.string?)
  | some other => .error ⟨["aud"], .kind .sequence other.kind⟩

/-- An empty requirement is none. -/
def audience? (policy : Policy) : Option String := policy.requiredAudience.filter (· ≠ "")

/-- Without a requirement, an audience that cannot be read counts as empty. -/
def checkAudience (policy : Policy) (claims : Members) : Except Rejection (List String) :=
  match policy.audience?, audienceList claims with
  | none, .ok audience => .ok audience
  | none, .error _ => .ok []
  | some _, .error fault => .error (.claim fault)
  | some required, .ok audience =>
    if required ∈ audience then .ok audience else .error (.audienceMismatch required)

def checkRequiredClaims (policy : Policy) (claims : Members) : Except Rejection Unit :=
  match policy.requiredClaims with
  | none => .ok ()
  | some required => (Claim.checkMembers required claims).mapError .claim

/-- All checks on the claims at the time `now`. -/
def checkClaims (policy : Policy) (claims : Members) (now : Instant) :
    Except Rejection StandardClaims := do
  let expiresAt ← (Claim.expiryTime claims).mapError .claim
  Claim.checkExpiry expiresAt policy.clockDrift now
  let issuer ← policy.checkIssuer claims
  let audience ← policy.checkAudience claims
  policy.checkRequiredClaims claims
  return ⟨issuer, audience, expiresAt⟩

/-- The type of a token, compared exactly. -/
def checkType (policy : Policy) (header : Header) : Except Rejection Unit :=
  match policy.requiredTokenType with
  | none => .ok ()
  | some required =>
    if header.typ = some required then .ok () else .error (.badType required header.typ)

end Policy
end BearerAuth
