import BearerAuth.Cache.Error

/-!
# Snapshots

The key set that readers see, with the number of refreshes that led to it. A snapshot never
changes: a reader that keeps one is not affected by later refreshes.
-/
namespace BearerAuth

structure Snapshot where
  keys : KeySet
  refreshCount : Nat
  deriving DecidableEq, Repr

namespace Snapshot

/-- The key for an identifier. Without identifiers it is the only key of the set. -/
def resolve (snapshot : Snapshot) (keyIdDisabled : Bool) (kid : Option String) :
    Option VerificationKey :=
  if keyIdDisabled then snapshot.keys.sole?
  else kid.bind snapshot.keys.find?

end Snapshot

/-- How a refresh ended, for everyone who waited for it. -/
abbrev RefreshOutcome := Except CacheError Snapshot

/-- Without identifiers, several keys would leave a choice that nobody may make. -/
def checkUnambiguous (keyIdDisabled : Bool) (keys : KeySet) : Except CacheError KeySet :=
  if keyIdDisabled ∧ 1 < keys.keys.length then .error (.ambiguousKeySet keys.keys.length)
  else .ok keys

end BearerAuth
