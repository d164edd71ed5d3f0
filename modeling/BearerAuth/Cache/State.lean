import BearerAuth.Cache.Snapshot
import BearerAuth.Verifier.Config

/-!
# The key cache

The state that callers and refreshes share. A refresh is numbered when it is started and
passes through four stages: it waits for its permit, fetches, settles by replacing the
snapshot or leaving it, and finishes by clearing the slot. The slot names the refresh that a
caller joins; replacing the snapshot and clearing the slot are separate steps.
-/
namespace BearerAuth

/-- How far a refresh has come. -/
inductive RefreshStage
  | queued
  | fetching
  | settled (outcome : RefreshOutcome)
  | finished (outcome : RefreshOutcome)
  deriving Repr

structure Cache where
  settings : CacheSettings
  snapshot : Snapshot
  /-- All refreshes ever started, by number. -/
  refreshes : List RefreshStage
  /-- The refresh in flight, which callers join. -/
  slot : Option Nat
  /-- Nanoseconds since the cache was made. -/
  clock : Nat
  /-- When the limiter grants its next permit. The limiter comes from a library: this time and the
  guard of `grant?` are what is assumed of it. -/
  nextPermit : Nat
  deriving Repr

namespace Cache

/-- A cache around the key set of an initial fetch, which takes no permit. -/
def start (settings : CacheSettings) (fetched : Except CacheError KeySet) :
    Except CacheError Cache := do
  let keys ← checkUnambiguous settings.keyIdDisabled (← fetched)
  return ⟨settings, ⟨keys, 0⟩, [], none, 0, 0⟩

def lookup (cache : Cache) (kid : Option String) : Option VerificationKey :=
  cache.snapshot.resolve cache.settings.keyIdDisabled kid

/-- Join the refresh in flight, or start one. Answers its number. -/
def joinOrStart (cache : Cache) : Nat × Cache :=
  match cache.slot with
  | some id => (id, cache)
  | none =>
    let id := cache.refreshes.length
    (id, { cache with refreshes := cache.refreshes ++ [.queued], slot := some id })

/-- Give a queued refresh its permit, and let it fetch. With a limit on the cadence, permits
are at least the refresh interval apart; nothing else is assumed of when the limiter gives them. -/
def grant? (cache : Cache) (id : Nat) : Option Cache :=
  match cache.refreshes[id]? with
  | some .queued =>
    if cache.nextPermit ≤ cache.clock then
      some { cache with
        refreshes := cache.refreshes.set id .fetching
        nextPermit := cache.clock + cache.settings.refreshInterval.toNanos }
    else none
  | _ => none

/-- What a refresh comes to when its fetch has ended: the next snapshot, if the key set may be
used. -/
def outcomeOf (cache : Cache) (fetched : Except CacheError KeySet) : RefreshOutcome :=
  (fetched.bind (checkUnambiguous cache.settings.keyIdDisabled)).map fun keys =>
    ⟨keys, cache.snapshot.refreshCount + 1⟩

/-- Replace the snapshot as a whole; after a failure it stays as it was. -/
def install (cache : Cache) : RefreshOutcome → Cache
  | .ok snapshot => { cache with snapshot }
  | .error _ => cache

/-- End the fetch of a refresh. -/
def settle? (cache : Cache) (id : Nat) (fetched : Except CacheError KeySet) : Option Cache :=
  match cache.refreshes[id]? with
  | some .fetching =>
    let outcome := cache.outcomeOf fetched
    some { cache.install outcome with refreshes := cache.refreshes.set id (.settled outcome) }
  | _ => none

/-- Clear the slot after a refresh has settled, and make its outcome known. -/
def finish? (cache : Cache) (id : Nat) : Option Cache :=
  match cache.refreshes[id]? with
  | some (.settled outcome) =>
    some { cache with refreshes := cache.refreshes.set id (.finished outcome), slot := none }
  | _ => none

/-- What a caller who waited for a refresh gets: its error, or its own key in the snapshot
that this refresh made, whatever has happened since. -/
def resolveOutcome (cache : Cache) (kid : Option String) :
    RefreshOutcome → Except CacheError VerificationKey
  | .error error => .error error
  | .ok snapshot =>
    match snapshot.resolve cache.settings.keyIdDisabled kid with
    | some key => .ok key
    | none => .error (.keyNotFound kid)

/-- A whole refresh on behalf of a single caller, from a cache with none in flight: wait for
the permit, fetch, settle and finish. -/
def refreshAlone (cache : Cache) (fetched : Except CacheError KeySet) : RefreshOutcome × Cache :=
  let outcome := cache.outcomeOf fetched
  let granted := max cache.clock cache.nextPermit
  (outcome,
    { cache.install outcome with
      refreshes := cache.refreshes ++ [.finished outcome]
      clock := granted
      nextPermit := granted + cache.settings.refreshInterval.toNanos })

end Cache
end BearerAuth
