import BearerAuth.Proofs.Cache.SingleFlight
import BearerAuth.Proofs.Cache.Waiters

/-!
# What callers have in common

Two runs are compared that differ in what some callers do for themselves: when their tokens fire
and when they look at their answers. All that such callers do to the others is to join a refresh
or to start one. If that happens at the same places in both runs, the cache, the snapshots it goes
through and the other callers are the same in both, step by step.
-/
namespace BearerAuth

variable {α : Type}

/-- What an event that is none of a caller does, to any cache. -/
def Event.cacheStep? : Event α → Option (Cache → Option Cache)
  | .grant id => some fun cache => cache.grant? id
  | .answer id fetched => some fun cache => cache.settle? id fetched
  | .timeOut id =>
    some fun cache => cache.settle? id (.error (.timeout cache.settings.fetchTimeout))
  | .finish id => some fun cache => cache.finish? id
  | .tick nanos => some fun cache => some { cache with clock := cache.clock + nanos }
  | _ => none

namespace System

theorem step_of_cacheStep? {event : Event α} {f : Cache → Option Cache}
    (h : event.cacheStep? = some f) (s : System α) :
    s.step event = (f s.cache).map fun cache => { s with cache } := by
  cases event <;> cases h <;> rfl

/-- The snapshots that a run goes through, each as it replaces the one before. -/
def snapshots (s : System α) : List (Event α) → List Snapshot
  | [] => []
  | event :: events =>
    match s.step event with
    | none => []
    | some t =>
      if t.cache.snapshot = s.cache.snapshot then t.snapshots events
      else t.cache.snapshot :: t.snapshots events

theorem snapshots_cons {s t : System α} {event : Event α} {events : List (Event α)}
    (h : s.step event = some t) :
    s.snapshots (event :: events) =
      if t.cache.snapshot = s.cache.snapshot then t.snapshots events
      else t.cache.snapshot :: t.snapshots events := by
  rw [snapshots, h]

section Callers

variable (K : Nat → Bool)

/-- Whether a caller of `K` does something for itself alone: its token fires, or it takes a step
with which it does not begin a call of refresh. -/
def isPrivate (s : System α) : Event α → Bool
  | .cancel i => K i
  | .proceed i now => K i && !s.beginsRefresh (.proceed i now)
  | _ => false

/-- The events of a run apart from what the callers of `K` do for themselves. -/
def sharedEvents (s : System α) : List (Event α) → List (Event α)
  | [] => []
  | event :: events =>
    (if s.isPrivate K event then [] else [event]) ++
      match s.step event with
      | none => []
      | some t => t.sharedEvents events

/-- The same cache and the same callers, apart from those in `K`. -/
structure SameExcept (s t : System α) : Prop where
  cache : s.cache = t.cache
  length : s.callers.length = t.callers.length
  caller : ∀ i, K i = false → s.callers[i]? = t.callers[i]?

end Callers

variable {K : Nat → Bool}

theorem sharedEvents_cons {s t : System α} {event : Event α} {events : List (Event α)}
    (h : s.step event = some t) :
    s.sharedEvents K (event :: events) =
      (if s.isPrivate K event then [] else [event]) ++ t.sharedEvents K events := by
  rw [sharedEvents, h]

theorem sharedEvents_append {s m : System α} {before : List (Event α)}
    (hrun : s.run before = some m) (after : List (Event α)) :
    s.sharedEvents K (before ++ after) = s.sharedEvents K before ++ m.sharedEvents K after := by
  induction before generalizing s with
  | nil =>
    cases hrun
    rfl
  | cons event before ih =>
    obtain ⟨s₁, hstep, hrest⟩ := run_cons_eq_some_iff.mp hrun
    rw [List.cons_append, sharedEvents_cons hstep, sharedEvents_cons hstep, ih hrest,
      List.append_assoc]

namespace SameExcept

theorem refl (s : System α) : SameExcept K s s := ⟨rfl, rfl, fun _ _ => rfl⟩

theorem symm {s t : System α} (h : SameExcept K s t) : SameExcept K t s :=
  ⟨h.cache.symm, h.length.symm, fun i hi => (h.caller i hi).symm⟩

theorem trans {s t u : System α} (h : SameExcept K s t) (h' : SameExcept K t u) :
    SameExcept K s u :=
  ⟨h.cache.trans h'.cache, h.length.trans h'.length,
    fun i hi => (h.caller i hi).trans (h'.caller i hi)⟩

end SameExcept

theorem ne_of_apart {i j : Nat} (hi : K i = false) (hj : K j = true) : j ≠ i := by
  rintro rfl
  rw [hi] at hj
  cases hj

/-- A private event changes nothing for the others. -/
theorem sameExcept_of_private {s t : System α} {event : Event α} (hstep : s.step event = some t)
    (h : s.isPrivate K event = true) : SameExcept K s t := by
  cases event with
  | cancel j =>
    cases hstep
    exact ⟨rfl, by simp, fun i hi => by simp [ne_of_apart hi h]⟩
  | proceed j now =>
    obtain ⟨hj, hbegins⟩ : K j = true ∧ s.beginsRefresh (.proceed j now) = false := by
      simpa [isPrivate] using h
    have hcache : s.cache = t.cache := by
      have heffect := effect_of_step hstep
      generalize t.cache = next at heffect
      cases heffect with
      | go => rfl
      | start _ _ begins =>
        rw [hbegins] at begins
        cases begins
    obtain ⟨caller, caller', cache', -, -, rfl⟩ := step_proceed_eq_some_iff.mp hstep
    exact ⟨hcache, by simp, fun i hi => by simp [ne_of_apart hi hj]⟩
  | _ => cases h

theorem cache_of_beginsRefresh {s t : System α} {i : Nat} {now : Instant}
    (hbegins : s.beginsRefresh (.proceed i now) = true) (hstep : s.step (.proceed i now) = some t) :
    t.cache = s.cache.joinOrStart.2 := by
  obtain ⟨t', caller, hstep', hcache, -⟩ := step_of_beginsRefresh hbegins
  obtain rfl : t' = t := Option.some.inj (hstep'.symm.trans hstep)
  exact hcache

/-- What the others do, and what happens to the cache, they can do without the callers of `K`. -/
theorem SameExcept.exists_step {s s' t : System α} {event : Event α} (h : SameExcept K s s')
    (hothers : ∀ i now, event = .proceed i now → K i = false) (hstep : s.step event = some t) :
    ∃ t', s'.step event = some t' ∧ SameExcept K t t' := by
  cases event with
  | call inquiry =>
    cases hstep
    refine ⟨_, rfl, h.cache, by simp [h.length], fun i hi => ?_⟩
    simp only [List.getElem?_append, h.length, h.caller i hi]
  | cancel j =>
    cases hstep
    refine ⟨_, rfl, h.cache, by simp [h.length], fun i hi => ?_⟩
    simp only [List.getElem?_modify, h.caller i hi]
  | proceed j now =>
    obtain ⟨caller, next, cache, hj, hp, rfl⟩ := step_proceed_eq_some_iff.mp hstep
    rw [h.cache] at hp
    rw [h.caller j (hothers j now rfl)] at hj
    refine ⟨_, step_proceed_eq_some_iff.mpr ⟨caller, next, cache, hj, hp, rfl⟩, rfl,
      by simp [h.length], fun i hi => ?_⟩
    simp only [List.getElem?_set, h.length, h.caller i hi]
  | _ =>
    rw [step_of_cacheStep? rfl] at hstep
    obtain ⟨cache, hcache, rfl⟩ := Option.map_eq_some_iff.mp hstep
    rw [h.cache] at hcache
    refine ⟨⟨cache, s'.callers⟩, ?_, rfl, h.length, h.caller⟩
    rw [step_of_cacheStep? rfl]
    exact Option.map_eq_some_iff.mpr ⟨cache, hcache, rfl⟩

/-- A shared event does the same in both runs. -/
theorem SameExcept.step {s s' t t' : System α} {event : Event α} (h : SameExcept K s s')
    (hshared : s.isPrivate K event = false) (hshared' : s'.isPrivate K event = false)
    (hstep : s.step event = some t) (hstep' : s'.step event = some t') : SameExcept K t t' := by
  by_cases hothers : ∀ i now, event = .proceed i now → K i = false
  · obtain ⟨u, hu, hsame⟩ := h.exists_step hothers hstep
    obtain rfl : u = t' := Option.some.inj (hu.symm.trans hstep')
    exact hsame
  · -- A caller of `K` begins a call in both runs, and all that matters of it is what it does
    -- to the cache.
    push Not at hothers
    obtain ⟨j, now, rfl, hj⟩ := hothers
    have hK : K j = true := by simpa using hj
    simp only [isPrivate, hK, Bool.true_and, Bool.not_eq_false'] at hshared hshared'
    have hcache : t.cache = t'.cache := by
      rw [cache_of_beginsRefresh hshared hstep, cache_of_beginsRefresh hshared' hstep', h.cache]
    obtain ⟨_, _, _, -, -, rfl⟩ := step_proceed_eq_some_iff.mp hstep
    obtain ⟨_, _, _, -, -, rfl⟩ := step_proceed_eq_some_iff.mp hstep'
    exact ⟨hcache, by simp [h.length], fun i hi => by simp [ne_of_apart hi hK, h.caller i hi]⟩

/-- A run up to its next shared event: until then it stays the same for the others. -/
theorem exists_of_sharedEvents_cons {s t : System α} {events rest : List (Event α)}
    {event : Event α} (hrun : s.run events = some t)
    (hshared : s.sharedEvents K events = event :: rest) :
    ∃ m u later, SameExcept K s m ∧ m.isPrivate K event = false ∧ m.step event = some u ∧
      u.run later = some t ∧ u.sharedEvents K later = rest ∧
        s.snapshots events = m.snapshots (event :: later) := by
  induction events generalizing s with
  | nil => cases hshared
  | cons first events ih =>
    obtain ⟨s₁, hstep, hrest⟩ := run_cons_eq_some_iff.mp hrun
    rw [sharedEvents_cons hstep] at hshared
    cases hfirst : s.isPrivate K first with
    | false =>
      rw [hfirst] at hshared
      cases hshared
      exact ⟨s, s₁, events, .refl s, hfirst, hstep, hrest, rfl, rfl⟩
    | true =>
      rw [hfirst] at hshared
      obtain ⟨m, u, later, hsame, hevent, hnext, hlater, hlast, hsnapshots⟩ := ih hrest hshared
      have hquiet := sameExcept_of_private hstep hfirst
      refine ⟨m, u, later, hquiet.trans hsame, hevent, hnext, hlater, hlast, ?_⟩
      rw [snapshots_cons hstep, if_pos (congrArg Cache.snapshot hquiet.cache.symm), hsnapshots]

theorem sameExcept_of_sharedEvents_nil {s t : System α} {events : List (Event α)}
    (hrun : s.run events = some t) (hshared : s.sharedEvents K events = []) :
    SameExcept K s t ∧ s.snapshots events = [] := by
  induction events generalizing s with
  | nil =>
    cases hrun
    exact ⟨.refl _, rfl⟩
  | cons first events ih =>
    obtain ⟨s₁, hstep, hrest⟩ := run_cons_eq_some_iff.mp hrun
    rw [sharedEvents_cons hstep, List.append_eq_nil_iff] at hshared
    have hfirst : s.isPrivate K first = true := by
      cases hfirst : s.isPrivate K first with
      | true => rfl
      | false => simp [hfirst] at hshared
    obtain ⟨hsame, hsnapshots⟩ := ih hrest hshared.2
    have hquiet := sameExcept_of_private hstep hfirst
    refine ⟨hquiet.trans hsame, ?_⟩
    rw [snapshots_cons hstep, if_pos (congrArg Cache.snapshot hquiet.cache.symm), hsnapshots]

/-- Two runs with the same shared events are the same for the others, at their ends and in the
snapshots they go through. -/
theorem sameExcept_of_sharedEvents {s s' t t' : System α} {events events' : List (Event α)}
    (h : SameExcept K s s') (hrun : s.run events = some t) (hrun' : s'.run events' = some t')
    (hshared : s'.sharedEvents K events' = s.sharedEvents K events) :
    SameExcept K t t' ∧ s'.snapshots events' = s.snapshots events := by
  induction events generalizing s s' events' with
  | nil =>
    cases hrun
    obtain ⟨hsame, hsnapshots⟩ := sameExcept_of_sharedEvents_nil hrun' hshared
    exact ⟨h.trans hsame, hsnapshots⟩
  | cons event events ih =>
    obtain ⟨s₁, hstep, hrest⟩ := run_cons_eq_some_iff.mp hrun
    rw [sharedEvents_cons hstep] at hshared
    cases hevent : s.isPrivate K event with
    | true =>
      rw [hevent] at hshared
      have hquiet := sameExcept_of_private hstep hevent
      obtain ⟨hsame, hsnapshots⟩ := ih (hquiet.symm.trans h) hrest hrun' hshared
      refine ⟨hsame, ?_⟩
      rw [hsnapshots, snapshots_cons hstep, if_pos (congrArg Cache.snapshot hquiet.cache.symm)]
    | false =>
      rw [hevent] at hshared
      obtain ⟨m, u, later, hquiet, hevent', hstep', hlater, hlast, hsnapshots⟩ :=
        exists_of_sharedEvents_cons hrun' hshared
      have hm := h.trans hquiet
      have hu := hm.step hevent hevent' hstep hstep'
      obtain ⟨hsame, htail⟩ := ih hu hrest hlater hlast
      refine ⟨hsame, ?_⟩
      rw [hsnapshots, snapshots_cons hstep', snapshots_cons hstep, htail, ← hu.cache, ← hm.cache]

end System
end BearerAuth
