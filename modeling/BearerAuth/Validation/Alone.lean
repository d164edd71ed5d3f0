import BearerAuth.Cache.State
import BearerAuth.Simulation.Source
import BearerAuth.Validation.Validator

/-!
# Validation by a single caller

The answers to one validation when nothing else goes on: a refresh then runs from its start
to its end before the caller goes on. A caller that has been cancelled still starts the
refresh and merely does not wait for it.
-/
namespace BearerAuth

/-- A cache and the source it fetches from. -/
structure Fed (σ : Type) where
  cache : Cache
  source : σ

namespace Fed

variable {σ : Type}

/-- A fetch that nothing interrupts: the source waits and chooses, and the timeout cuts it
off. Without any waiting the reply is in time even for a timeout of zero. -/
def fetch (source : Source σ) (timeout : Span) (state : σ) : Reply × Nat × σ :=
  let limit := timeout.toNanos
  let state := source.start state
  let delay := source.delay state
  if limit < delay then (.error (.timeout timeout), limit, state)
  else
    let ((reply, nanos), state) := source.take state
    if limit < delay + nanos then (.error (.timeout timeout), limit, state)
    else (reply, delay + nanos, state)

def refresh (source : Source σ) (cancelled : Bool) (kid : Option String) (fed : Fed σ) :
    Except CacheError VerificationKey × Fed σ :=
  let fetched := fetch source fed.cache.settings.fetchTimeout fed.source
  let refreshed := fed.cache.refreshAlone fetched.1
  let cache := { refreshed.2 with clock := refreshed.2.clock + fetched.2.1 }
  (if cancelled then .error .cancelled else cache.resolveOutcome kid refreshed.1,
    ⟨cache, fetched.2.2⟩)

/-- Answer one question of a validation. -/
def respond (source : Source σ) (cancelled : Bool) (now : Instant) :
    (question : Question) → Fed σ → question.Answer × Fed σ
  | .lookup kid, fed => (fed.cache.lookup kid, fed)
  | .refresh kid, fed => fed.refresh source cancelled kid
  | .now, fed => (now, fed)

/-- Validate one token with the cache's own mode. -/
def validate (source : Source σ) (policy : Policy) (cancelled : Bool) (now : Instant)
    (text : String) (fed : Fed σ) : Except Rejection ValidatedToken × Fed σ :=
  (BearerAuth.validate policy fed.cache.settings.keyIdDisabled text).run
    (respond source cancelled now) fed

end Fed
end BearerAuth
