import BearerAuth.Validation.Alone
import BearerAuth.Verifier.Startup

/-!
# Token verifiers

A verifier holds a configuration and, once it has started, a key cache. It starts when it is
made, or with its first token if it is to load lazily; a start that fails leaves it as it was,
so that the next token tries again.
-/
namespace BearerAuth

open Http

structure Verifier where
  config : Config
  started : Option Started

namespace Verifier

/-- Send each request to a network. -/
def runRequests {α : Type} (requests : Requests α) (network : Network) : α × Network :=
  requests.run (fun url network => network.get url) network

def checkConfig (config : Config) : Except Rejection Unit :=
  config.validate.mapError fun error => .configuration (.invalid error)

/-- Start a verifier that has not been started yet. -/
def start (verifier : Verifier) (network : Network) : Except Rejection Started × Network :=
  let (result, network) := runRequests verifier.config.startup network
  (result.mapError .configuration, network)

/-- Make a verifier, and start it unless it loads lazily. -/
def create (config : Config) (network : Network) : Except Rejection Verifier × Network :=
  match checkConfig config with
  | .error rejection => (.error rejection, network)
  | .ok () =>
    let verifier : Verifier := ⟨config, none⟩
    if config.lazyLoad then (.ok verifier, network)
    else
      let (result, network) := verifier.start network
      (result.map fun started => { verifier with started := some started }, network)

/-- A verifier around a cache that somebody else has made. The two must agree on the use of
identifiers. -/
def ofCache (config : Config) (started : Started) : Except Rejection Verifier :=
  match checkConfig config with
  | .error rejection => .error rejection
  | .ok () =>
    if started.cache.settings.keyIdDisabled ≠ config.keyIdDisabled then
      .error (.configuration .modeMismatch)
    else .ok ⟨config, some started⟩

/-- Validate a token with a started cache. -/
def validate (verifier : Verifier) (started : Started) (network : Network) (cancelled : Bool)
    (now : Instant) (text : String) :
    Except Rejection ValidatedToken × Verifier × Network :=
  let (result, fed) := Fed.validate (keySetSource started.jwksUrl) verifier.config.policy cancelled
    now text ⟨started.cache, network⟩
  (result, { verifier with started := some { started with cache := fed.cache } }, fed.source)

/-- Validate a token, starting the verifier first if need be. A caller that has been cancelled
before does not start it. -/
def parse (verifier : Verifier) (network : Network) (cancelled : Bool) (now : Instant)
    (text : String) : Except Rejection ValidatedToken × Verifier × Network :=
  match verifier.started with
  | some started => verifier.validate started network cancelled now text
  | none =>
    if cancelled then (.error .cancelled, verifier, network)
    else
      match verifier.start network with
      | (.error rejection, network) => (.error rejection, verifier, network)
      | (.ok started, network) =>
        { verifier with started := some started }.validate started network cancelled now text

end Verifier
end BearerAuth
