import BearerAuth.Key.KeySet
import BearerAuth.Text.Quoted
import BearerAuth.Time.Span

/-!
# Failures of the key cache

What can go wrong when a key set is fetched or a key is looked for. One value may be handed
to every caller that waited for the same refresh.
-/
namespace BearerAuth

inductive CacheError
  | transport (detail : String)
  | status (code : Nat)
  | timeout (limit : Span)
  | invalidDocument (fault : DocumentFault)
  | ambiguousKeySet (count : Nat)
  | keyNotFound (kid : Option String)
  | cancelled
  deriving DecidableEq, Repr

namespace CacheError

def message : CacheError → String
  | transport detail => "failed to fetch key set: " ++ detail
  | status code => "key set endpoint returned status " ++ toString code
  | timeout limit => "key set fetch timed out after " ++ limit.display
  | invalidDocument fault => "invalid key set document: " ++ fault.message
  | ambiguousKeySet count =>
    "key set contains " ++ toString count ++ " keys but key identifiers are disabled"
  | keyNotFound kid => "no verification key found for key id " ++ Text.quotedOption kid
  | cancelled => "waiting for key set refresh was cancelled"

end CacheError
end BearerAuth
