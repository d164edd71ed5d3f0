import BearerAuth.Cache.Error

/-!
# Sources of key sets

What a simulation fetches from: a source counts a fetch when it begins, may make it wait,
gives a reply, and may let the reply take its time. A script is a source that replays a queue
of replies, of which the last one left is never used up.
-/
namespace BearerAuth

abbrev Reply := Except CacheError KeySet

structure Source (σ : Type) where
  /-- Count a fetch that begins. -/
  start : σ → σ
  /-- Nanoseconds before the reply is chosen. -/
  delay : σ → Nat
  /-- Choose the reply, with the nanoseconds until it arrives. -/
  take : σ → (Reply × Nat) × σ

structure Script where
  replies : List Reply
  delay : Nat
  /-- How long each fetch takes after its reply is chosen, by number; nothing beyond the end. -/
  slow : List Nat
  started : Nat

namespace Script

/-- A script that always gives one key set. -/
def constant (keys : KeySet) : Script := ⟨[.ok keys], 0, [], 0⟩

/-- Queue one more reply. -/
def push (script : Script) (reply : Reply) : Script :=
  { script with replies := script.replies ++ [reply] }

/-- The reply for the next fetch. -/
def next (script : Script) : Reply × Script :=
  match script.replies with
  | [] => (.error (.transport "no mock response queued"), script)
  | [last] => (last, script)
  | first :: rest => (first, { script with replies := rest })

def source : Source Script where
  start script := { script with started := script.started + 1 }
  delay script := script.delay
  take script :=
    let (reply, script) := script.next
    ((reply, script.slow.getD (script.started - 1) 0), script)

end Script
end BearerAuth
