import BearerAuth.Cache.System
import BearerAuth.Validation.Alone

/-!
# Sessions in virtual time

One run of the interleaved system, chosen by a simple rule: whatever can happen without time
passing happens, callers before refreshes and in their order; only when everything waits does
the clock jump, to the next moment at which something is due. Every change of the system is
one of its events.
-/
namespace BearerAuth

/-- When a caller's token of cancellation fires. -/
inductive Cancellation
  | never
  | before
  | after (nanos : Nat)
  deriving DecidableEq, Repr

/-- A fetch under way: its reply is not chosen yet, or is about to arrive. -/
inductive FetchStage
  | delayed (due : Nat)
  | arriving (due : Nat) (reply : Reply)

structure Fetch where
  refresh : Nat
  deadline : Nat
  stage : FetchStage

def FetchStage.due : FetchStage → Nat
  | delayed due => due
  | arriving due _ => due

structure Alarm where
  due : Nat
  caller : Nat

structure Simulation (σ α : Type) where
  system : System α
  source : σ
  fetch : Option Fetch
  alarms : List Alarm

namespace Simulation

variable {σ α : Type}

def clock (sim : Simulation σ α) : Nat := sim.system.cache.clock

def perform? (sim : Simulation σ α) (event : Event α) : Option (Simulation σ α) :=
  (sim.system.step event).map fun system => { sim with system }

/-- Fire a token of cancellation that is due. -/
def fireAlarm? (sim : Simulation σ α) : Option (Simulation σ α) :=
  match sim.alarms.find? fun alarm => alarm.due ≤ sim.clock with
  | none => none
  | some alarm =>
    { sim with alarms := sim.alarms.filter fun other => other.caller ≠ alarm.caller }.perform?
      (.cancel alarm.caller)

/-- Let the first caller that can take a step take it. -/
def moveCaller? (sim : Simulation σ α) (now : Instant) : Option (Simulation σ α) :=
  (List.range sim.system.callers.length).findSome? fun i => sim.perform? (.proceed i now)

/-- Move the fetch on: choose its reply, or end it. A reply that is due wins over a deadline
that is due as well. -/
def moveFetch? (source : Source σ) (sim : Simulation σ α) (fetch : Fetch) :
    Option (Simulation σ α) :=
  if fetch.stage.due ≤ sim.clock then
    match fetch.stage with
    | .delayed _ =>
      let ((reply, nanos), state) := source.take sim.source
      some { sim with
        source := state
        fetch := some { fetch with stage := .arriving (sim.clock + nanos) reply } }
    | .arriving _ reply => { sim with fetch := none }.perform? (.answer fetch.refresh reply)
  else if fetch.deadline ≤ sim.clock then
    { sim with fetch := none }.perform? (.timeOut fetch.refresh)
  else none

/-- Begin the fetch of a refresh that has got its permit. -/
def beginFetch (source : Source σ) (sim : Simulation σ α) (refresh : Nat) : Simulation σ α :=
  let state := source.start sim.source
  let fetch : Fetch :=
    { refresh
      deadline := sim.clock + sim.system.cache.settings.fetchTimeout.toNanos
      stage := .delayed (sim.clock + source.delay state) }
  { sim with source := state, fetch := some fetch }

/-- Move the refresh in flight on. -/
def moveRefresh? (source : Source σ) (sim : Simulation σ α) : Option (Simulation σ α) :=
  match sim.fetch, sim.system.cache.slot with
  | some fetch, _ => moveFetch? source sim fetch
  | none, some id =>
    match sim.perform? (.grant id) with
    | some granted => some (beginFetch source granted id)
    | none => sim.perform? (.finish id)
  | none, none => none

/-- One thing that can happen without time passing. -/
def move? (source : Source σ) (now : Instant) (sim : Simulation σ α) :
    Option (Simulation σ α) :=
  sim.fireAlarm? <|> sim.moveCaller? now <|> moveRefresh? source sim

/-- Everything that can happen without time passing, at most `fuel` things. -/
def settleWithin (source : Source σ) (now : Instant) :
    (fuel : Nat) → Simulation σ α → Simulation σ α
  | 0, sim => sim
  | fuel + 1, sim =>
    match move? source now sim with
    | none => sim
    | some sim => settleWithin source now fuel sim

/-- More than can happen at one moment: each caller asks a handful of questions, and each
refresh has a handful of stages. -/
def bound (sim : Simulation σ α) : Nat := 64 * (sim.system.callers.length + 4)

def settle (source : Source σ) (now : Instant) (sim : Simulation σ α) : Simulation σ α :=
  settleWithin source now sim.bound sim

/-- Moments at which something will be due. -/
def timers (sim : Simulation σ α) : List Nat :=
  let cache := sim.system.cache
  let fetch := match sim.fetch with
    | some fetch => [fetch.stage.due, fetch.deadline]
    | none => if cache.slot.isSome then [cache.nextPermit] else []
  fetch ++ sim.alarms.map Alarm.due

def nextTimer? (sim : Simulation σ α) : Option Nat :=
  (sim.timers.filter fun due => sim.clock < due).min?

/-- Let the clock jump to a later moment. -/
def jump (sim : Simulation σ α) (moment : Nat) : Simulation σ α :=
  (sim.perform? (.tick (moment - sim.clock))).getD sim

def isDone (sim : Simulation σ α) : Bool :=
  sim.system.callers.all fun caller => caller.result?.isSome

/-- Run until every caller has its result. -/
def completeWithin (source : Source σ) (now : Instant) :
    (fuel : Nat) → Simulation σ α → Simulation σ α
  | 0, sim => sim
  | fuel + 1, sim =>
    let sim := sim.settle source now
    if sim.isDone then sim
    else
      match sim.nextTimer? with
      | none => sim
      | some moment => completeWithin source now fuel (sim.jump moment)

def complete (source : Source σ) (now : Instant) (sim : Simulation σ α) : Simulation σ α :=
  completeWithin source now sim.bound sim

/-- Run up to a moment. -/
def advanceWithin (source : Source σ) (now : Instant) (moment : Nat) :
    (fuel : Nat) → Simulation σ α → Simulation σ α
  | 0, sim => sim
  | fuel + 1, sim =>
    let sim := sim.settle source now
    match sim.nextTimer? with
    | none => sim.jump moment
    | some due =>
      if due ≤ moment then advanceWithin source now moment fuel (sim.jump due)
      else sim.jump moment

def advance (source : Source σ) (now : Instant) (nanos : Nat) (sim : Simulation σ α) :
    Simulation σ α :=
  advanceWithin source now (sim.clock + nanos) sim.bound sim

end Simulation

/-- A cache between calls, with the fetch that may still be under way. -/
structure Session (σ : Type) where
  cache : Cache
  source : σ
  fetch : Option Fetch

namespace Session

variable {σ : Type}

/-- Make a cache with an initial fetch. The source goes on as that fetch leaves it. -/
def start (source : Source σ) (settings : CacheSettings) (state : σ) :
    Except CacheError (Session σ) × σ :=
  let (reply, clock, state) := Fed.fetch source settings.fetchTimeout state
  ((Cache.start settings reply).map fun cache => ⟨{ cache with clock }, state, none⟩, state)

/-- Let callers start together, in their order, and run until all have their results. -/
def call {α : Type} (source : Source σ) (now : Instant) (session : Session σ)
    (calls : List (Inquiry α × Cancellation)) : List (Option α) × Session σ :=
  let callers := calls.map fun (inquiry, cancellation) =>
    (⟨inquiry, none, cancellation = .before⟩ : Caller α)
  let alarms := calls.zipIdx.filterMap fun ((_, cancellation), i) =>
    match cancellation with
    | .after nanos => some (⟨session.cache.clock + nanos, i⟩ : Alarm)
    | _ => none
  let sim : Simulation σ α := ⟨⟨session.cache, callers⟩, session.source, session.fetch, alarms⟩
  let sim := sim.complete source now
  (sim.system.callers.map Caller.result?, ⟨sim.system.cache, sim.source, sim.fetch⟩)

/-- Let time pass. -/
def advance (source : Source σ) (now : Instant) (nanos : Nat) (session : Session σ) : Session σ :=
  let sim : Simulation σ Unit := ⟨⟨session.cache, []⟩, session.source, session.fetch, []⟩
  let sim := sim.advance source now nanos
  ⟨sim.system.cache, sim.source, sim.fetch⟩

end Session
end BearerAuth
