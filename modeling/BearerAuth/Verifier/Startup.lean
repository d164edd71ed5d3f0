import BearerAuth.Dialogue
import BearerAuth.Http.Network
import BearerAuth.Cache.State
import BearerAuth.Validation.Rejection

/-!
# Startup of a verifier

Where the keys are and the first key set, as a dialogue of GET requests: the metadata document
unless the configuration names the key set itself, then the key set.
-/
namespace BearerAuth

open Http

/-- A computation that sends GET requests. -/
abbrev Requests (α : Type) := Dialogue String (fun _ => Exchange) α

/-- A key cache and the URL that it is refreshed from. -/
structure Started where
  jwksUrl : String
  cache : Cache

namespace Config

/-- The configured metadata URL, or the one that belongs to the issuer. -/
def resolvedDiscoveryUrl (config : Config) : String :=
  config.discoveryUrl.getD (metadataUrl config.issuer)

/-- The metadata may name another issuer than the configuration. -/
def findJwksUrl (config : Config) : Requests (Except Misconfiguration String) :=
  match config.jwksUrl with
  | some url => .done (.ok url)
  | none =>
    .ask config.resolvedDiscoveryUrl fun exchange =>
      .done (((metadataOf exchange).mapError .discovery).map ProviderMetadata.jwksUri)

/-- The key set of a fetch with a timeout of its own. -/
def keySetWithin (timeout : Span) : Exchange → Except CacheError KeySet
  | .error (.overdue _) => .error (.timeout timeout)
  | exchange => keySetOf exchange

/-- The first key set from a URL. -/
def openCache (settings : CacheSettings) (url : String) : Requests (Except CacheError Started) :=
  .ask url fun exchange =>
    .done ((Cache.start settings (keySetWithin settings.fetchTimeout exchange)).map
      (Started.mk url))

def startup (config : Config) : Requests (Except Misconfiguration Started) :=
  config.findJwksUrl >>= fun
    | .error fault => .done (.error fault)
    | .ok url =>
      openCache config.cacheSettings url >>= fun started =>
        .done (started.mapError .initialFetch)

end Config
end BearerAuth
