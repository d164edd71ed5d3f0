import BearerAuth.Cache.State
import BearerAuth.Validation.Validator

/-!
# Callers and refreshes, interleaved

A cache together with any number of callers, each in the middle of an inquiry. One event
moves one of them: a caller takes a step of its own, its token of cancellation fires, a
refresh gets its permit, its fetch ends or times out, it clears the slot, or time passes. An
event that is not possible in a state has no successor; every order of possible events is a
run.
-/
namespace BearerAuth

structure Caller (α : Type) where
  inquiry : Inquiry α
  /-- The refresh that the caller has joined for the question it asks now. -/
  waitingFor : Option Nat
  cancelled : Bool

structure System (α : Type) where
  cache : Cache
  callers : List (Caller α)

inductive Event (α : Type)
  | call (inquiry : Inquiry α)
  | cancel (caller : Nat)
  | proceed (caller : Nat) (now : Instant)
  | grant (refresh : Nat)
  | answer (refresh : Nat) (fetched : Except CacheError KeySet)
  | timeOut (refresh : Nat)
  | finish (refresh : Nat)
  | tick (nanos : Nat)

namespace Caller

variable {α : Type}

def result? (caller : Caller α) : Option α :=
  match caller.inquiry with
  | .done result => some result
  | .ask _ _ => none

/-- One step of a caller. A look at the snapshot and at the clock are immediate. A refresh is
first joined; then the caller waits until it has been cancelled or the refresh has finished,
and cancellation is looked at first. -/
def proceed? (caller : Caller α) (cache : Cache) (now : Instant) : Option (Caller α × Cache) :=
  match caller.inquiry with
  | .done _ => none
  | .ask (.lookup kid) next => some ({ caller with inquiry := next (cache.lookup kid) }, cache)
  | .ask .now next => some ({ caller with inquiry := next now }, cache)
  | .ask (.refresh kid) next =>
    match caller.waitingFor with
    | none =>
      let (id, cache) := cache.joinOrStart
      some ({ caller with waitingFor := some id }, cache)
    | some id =>
      if caller.cancelled then
        some ({ caller with inquiry := next (.error .cancelled), waitingFor := none }, cache)
      else
        match cache.refreshes[id]? with
        | some (.finished outcome) =>
          let inquiry := next (cache.resolveOutcome kid outcome)
          some ({ caller with inquiry, waitingFor := none }, cache)
        | _ => none

end Caller

namespace System

variable {α : Type}

/-- Let one caller take a step. -/
def proceed? (system : System α) (i : Nat) (now : Instant) : Option (System α) :=
  match system.callers[i]? with
  | none => none
  | some caller =>
    (caller.proceed? system.cache now).map fun (caller, cache) =>
      ⟨cache, system.callers.set i caller⟩

def step (system : System α) : Event α → Option (System α)
  | .call inquiry => some { system with callers := system.callers ++ [⟨inquiry, none, false⟩] }
  | .cancel i =>
    some { system with
      callers := system.callers.modify i fun caller => { caller with cancelled := true } }
  | .proceed i now => system.proceed? i now
  | .grant id => (system.cache.grant? id).map fun cache => { system with cache }
  | .answer id fetched => (system.cache.settle? id fetched).map fun cache => { system with cache }
  | .timeOut id =>
    (system.cache.settle? id (.error (.timeout system.cache.settings.fetchTimeout))).map
      fun cache => { system with cache }
  | .finish id => (system.cache.finish? id).map fun cache => { system with cache }
  | .tick nanos =>
    some { system with cache := { system.cache with clock := system.cache.clock + nanos } }

/-- The state after a sequence of events, if each was possible in its turn. -/
def run (system : System α) (events : List (Event α)) : Option (System α) :=
  events.foldlM step system

end System
end BearerAuth
