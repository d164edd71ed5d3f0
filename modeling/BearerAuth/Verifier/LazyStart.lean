import BearerAuth.Cache.System
import BearerAuth.Verifier.Startup

/-!
# Lazy start under concurrent callers

Callers of a verifier that has not started yet take turns: the one who holds the lock runs a
start, the others wait. A start that fails, or whose caller is cancelled, gives the lock back,
and the next caller tries for itself. Once a start has succeeded, everyone validates against its
cache. One event lets one caller take a step, delivers one reply, or moves the cache.
-/
namespace BearerAuth

open Http

/-- What a start has led to: where the keys are, and the cache with those who validate against
it. -/
structure Service where
  jwksUrl : String
  system : System (Except Rejection ValidatedToken)

/-- How far a caller has come. -/
inductive LazyStage
  | arrived
  | waiting
  /-- Its start waits for the reply to a request. -/
  | starting (url : String) (next : Exchange → Requests (Except Misconfiguration Started))
  /-- It validates its token, as the caller of this number. -/
  | validating (number : Nat)
  | refused (rejection : Rejection)

structure LazyCaller where
  token : String
  stage : LazyStage
  cancelled : Bool

structure LazyStart where
  config : Config
  service : Option Service
  /-- The caller whose start is under way. The cell that keeps the service comes from a library:
  that nobody else begins a start before this one has ended, and that the next caller may then
  begin one, is what is assumed of it. -/
  holder : Option Nat
  callers : List LazyCaller
  /-- All requests of all starts, each with the caller that has sent it. -/
  requests : List (Nat × String)

inductive LazyEvent
  | call (token : String)
  | cancel (caller : Nat)
  | proceed (caller : Nat) (now : Instant)
  | reply (caller : Nat) (exchange : Exchange)
  | grant (refresh : Nat)
  | answer (refresh : Nat) (fetched : Except CacheError KeySet)
  | timeOut (refresh : Nat)
  | finish (refresh : Nat)
  | tick (nanos : Nat)

/-- One more caller of the cache. -/
def Service.enroll (service : Service) (config : Config) (caller : LazyCaller) : Service :=
  let inquiry := validate config.policy service.system.cache.settings.keyIdDisabled caller.token
  { service with
    system := { service.system with
      callers := service.system.callers ++ [⟨inquiry, none, caller.cancelled⟩] } }

namespace LazyStart

/-- A verifier that nobody has called yet. -/
def opening (config : Config) : LazyStart := ⟨config, none, none, [], []⟩

def setCaller (state : LazyStart) (i : Nat) (caller : LazyCaller) : LazyStart :=
  { state with callers := state.callers.set i caller }

/-- Let a caller validate its token with a service. -/
def enroll (state : LazyStart) (i : Nat) (caller : LazyCaller) (service : Service) : LazyStart :=
  { state.setCaller i { caller with stage := .validating service.system.callers.length } with
    service := some (service.enroll state.config caller) }

/-- Run the start of a caller up to its next request, or to its end. -/
def advance (state : LazyStart) (i : Nat) (caller : LazyCaller) :
    Requests (Except Misconfiguration Started) → LazyStart
  | .ask url next =>
    { state.setCaller i { caller with stage := .starting url next } with
      holder := some i
      requests := state.requests ++ [(i, url)] }
  | .done (.ok started) =>
    { state.enroll i caller ⟨started.jwksUrl, ⟨started.cache, []⟩⟩ with holder := none }
  | .done (.error fault) =>
    { state.setCaller i { caller with stage := .refused (.configuration fault) } with
      holder := none }

/-- Something happens to the cache or to those who validate against it. -/
def serve? (state : LazyStart) (event : Event (Except Rejection ValidatedToken)) :
    Option LazyStart :=
  match state.service with
  | none => none
  | some service =>
    (service.system.step event).map fun system =>
      { state with service := some { service with system } }

/-- One step of a caller of its own. Cancellation is looked at before anything else, except by
a caller who finds the verifier started when it arrives. -/
def proceed? (state : LazyStart) (i : Nat) (now : Instant) : Option LazyStart :=
  match state.callers[i]? with
  | none => none
  | some caller =>
    match caller.stage with
    | .arrived =>
      match state.service with
      | some service => some (state.enroll i caller service)
      | none =>
        let stage := if caller.cancelled then .refused .cancelled else .waiting
        some (state.setCaller i { caller with stage })
    | .waiting =>
      if caller.cancelled then
        some (state.setCaller i { caller with stage := .refused .cancelled })
      else
        match state.service with
        | some service => some (state.enroll i caller service)
        | none =>
          if state.holder = none then some (state.advance i caller state.config.startup) else none
    | .starting _ _ =>
      if caller.cancelled then
        some { state.setCaller i { caller with stage := .refused .cancelled } with holder := none }
      else none
    | .validating number => state.serve? (.proceed number now)
    | .refused _ => none

/-- A caller whose start waits for a reply goes on with it, unless it has been cancelled. -/
def reply? (state : LazyStart) (i : Nat) (exchange : Exchange) : Option LazyStart :=
  match state.callers[i]? with
  | none => none
  | some caller =>
    match caller.stage with
    | .starting _ next =>
      if caller.cancelled then none else some (state.advance i caller (next exchange))
    | _ => none

/-- The token of a caller fires, wherever the caller is. -/
def cancel? (state : LazyStart) (i : Nat) : Option LazyStart :=
  match state.callers[i]? with
  | none => some state
  | some caller =>
    let fired := state.setCaller i { caller with cancelled := true }
    match caller.stage with
    | .validating number => fired.serve? (.cancel number)
    | _ => some fired

def step (state : LazyStart) : LazyEvent → Option LazyStart
  | .call token => some { state with callers := state.callers ++ [⟨token, .arrived, false⟩] }
  | .cancel i => state.cancel? i
  | .proceed i now => state.proceed? i now
  | .reply i exchange => state.reply? i exchange
  | .grant id => state.serve? (.grant id)
  | .answer id fetched => state.serve? (.answer id fetched)
  | .timeOut id => state.serve? (.timeOut id)
  | .finish id => state.serve? (.finish id)
  | .tick nanos => state.serve? (.tick nanos)

def run (state : LazyStart) (events : List LazyEvent) : Option LazyStart := events.foldlM step state

/-- What the call of a caller has returned. -/
def result? (state : LazyStart) (i : Nat) : Option (Except Rejection ValidatedToken) :=
  match state.callers[i]? with
  | some ⟨_, .refused rejection, _⟩ => some (.error rejection)
  | some ⟨_, .validating number, _⟩ =>
    state.service.bind fun service => service.system.callers[number]?.bind Caller.result?
  | _ => none

end LazyStart
end BearerAuth
