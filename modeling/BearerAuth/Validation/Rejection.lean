import BearerAuth.Cache.Error
import BearerAuth.Claim.Kind
import BearerAuth.Time.Instant
import BearerAuth.Token.Envelope
import BearerAuth.Verifier.Config
import BearerAuth.Verifier.Discovery

/-!
# Rejections

Why a token was not accepted. Each rejection belongs to one reason with a stable name, so
that rejections can be counted without looking at their messages.
-/
namespace BearerAuth

/-- What is wrong with the verifier itself. -/
inductive Misconfiguration
  | invalid (error : ConfigError)
  | discovery (error : DiscoveryError)
  | initialFetch (error : CacheError)
  | ambiguousKeySet (count : Nat)
  | modeMismatch
  deriving DecidableEq, Repr

namespace Misconfiguration

def message : Misconfiguration → String
  | invalid error => error.message
  | discovery error => "discovery failed: " ++ error.message
  | initialFetch error => "initial key set fetch failed: " ++ error.message
  | ambiguousKeySet count => (CacheError.ambiguousKeySet count).message
  | modeMismatch => "key identifier mode differs between configuration and key cache"

end Misconfiguration

inductive Reason
  | badType
  | malformed
  | keyNotFound
  | keyUnavailable
  | signatureInvalid
  | expired
  | issuerMismatch
  | audienceMismatch
  | claimMissing
  | claimTypeMismatch
  | claimValueMismatch
  | cancelled
  | configuration
  deriving DecidableEq, Repr

namespace Reason

def all : List Reason :=
  [badType, malformed, keyNotFound, keyUnavailable, signatureInvalid, expired, issuerMismatch,
    audienceMismatch, claimMissing, claimTypeMismatch, claimValueMismatch, cancelled, configuration]

def name : Reason → String
  | badType => "bad-type"
  | malformed => "malformed"
  | keyNotFound => "key-not-found"
  | keyUnavailable => "key-unavailable"
  | signatureInvalid => "signature-invalid"
  | expired => "expired"
  | issuerMismatch => "issuer-mismatch"
  | audienceMismatch => "audience-mismatch"
  | claimMissing => "claim-missing"
  | claimTypeMismatch => "claim-type-mismatch"
  | claimValueMismatch => "claim-value-mismatch"
  | cancelled => "cancelled"
  | configuration => "configuration"

end Reason

inductive Rejection
  | badType (required : String) (received : Option String)
  | malformed (error : EnvelopeError)
  | keyNotFound (kid : Option String)
  | keyUnavailable (error : CacheError)
  | signatureInvalid
  | expired (instant : Instant)
  | issuerMismatch (expected : String) (received : Option String)
  | audienceMismatch (expected : String)
  | claim (fault : ClaimFault)
  | cancelled
  | configuration (fault : Misconfiguration)
  deriving DecidableEq, Repr

namespace Rejection

def reason : Rejection → Reason
  | badType _ _ => .badType
  | malformed _ => .malformed
  | keyNotFound _ => .keyNotFound
  | keyUnavailable _ => .keyUnavailable
  | signatureInvalid => .signatureInvalid
  | expired _ => .expired
  | issuerMismatch _ _ => .issuerMismatch
  | audienceMismatch _ => .audienceMismatch
  | claim fault =>
    match fault.mismatch with
    | .missing => .claimMissing
    | .kind _ _ => .claimTypeMismatch
    | .value => .claimValueMismatch
  | cancelled => .cancelled
  | configuration _ => .configuration

def message : Rejection → String
  | badType required received =>
    "token type " ++ Text.quotedOption received ++ " does not match required type " ++
      Text.quoted required
  | malformed error => error.message
  | keyNotFound kid => "no verification key for key id " ++ Text.quotedOption kid
  | keyUnavailable error => "verification keys unavailable: " ++ error.message
  | signatureInvalid => "token signature is invalid"
  | expired instant => "token expired at " ++ instant.display
  | issuerMismatch expected received =>
    "token issuer " ++ Text.quotedOption received ++ " does not match " ++ Text.quoted expected
  | audienceMismatch expected => "token audience does not include " ++ Text.quoted expected
  | claim fault => fault.message
  | cancelled => "token validation was cancelled"
  | configuration fault => "verifier is misconfigured: " ++ fault.message

/-- An unknown key and a cancelled wait are the caller's own; an ambiguous key set is a matter
of configuration; everything else means that there are no keys to verify with. -/
def ofCacheError : CacheError → Rejection
  | .keyNotFound kid => keyNotFound kid
  | .cancelled => cancelled
  | .ambiguousKeySet count => configuration (.ambiguousKeySet count)
  | error => keyUnavailable error

end Rejection
end BearerAuth
