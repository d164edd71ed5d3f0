import BearerAuth.Validation.ClaimPolicy

/-!
# Validated tokens

A token that has passed every check, with its claims. Its description names the subject only
as present, never by what it says.
-/
namespace BearerAuth

open Json

structure ValidatedToken where
  header : Header
  claims : Members
  standard : StandardClaims
  deriving Repr

namespace ValidatedToken

/-- The claim `sub`, if it is a text. -/
def subject? (token : ValidatedToken) : Option String :=
  (token.claims.get? "sub").bind Value.string?

def describe (token : ValidatedToken) : String :=
  "ValidatedToken \x7b issuer: " ++ Text.quoted token.standard.issuer ++
    ", subject: " ++ Text.quotedOption (token.subject?.map fun _ => "[REDACTED]") ++
    ", audience: " ++ Text.quotedList token.standard.audience ++
    ", expires_at: " ++ token.standard.expiresAt.displayCompact ++
    ", kid: " ++ Text.quotedOption token.header.kid ++ ", .. \x7d"

end ValidatedToken
end BearerAuth
