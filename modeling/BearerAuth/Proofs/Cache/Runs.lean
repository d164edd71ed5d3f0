import BearerAuth.Cache.System
import BearerAuth.Proofs.Cache.Coherence

/-!
# Runs

Runs of a cache with its callers, and what every step of one preserves. A caller moves only by
its own steps, in one of five ways; all that it shares with the others is the cache.
-/
namespace BearerAuth

variable {α : Type}

namespace Caller

/-- A step of a caller of its own, from a cache and at a time. -/
inductive Proceeds (cache : Cache) (now : Instant) : Caller α → Caller α → Cache → Prop
  | lookup (kid : Option String) (next : Option VerificationKey → Inquiry α) (w : Option Nat)
      (c : Bool) :
    Proceeds cache now ⟨.ask (.lookup kid) next, w, c⟩ ⟨next (cache.lookup kid), w, c⟩ cache
  | clock (next : Instant → Inquiry α) (w : Option Nat) (c : Bool) :
    Proceeds cache now ⟨.ask .now next, w, c⟩ ⟨next now, w, c⟩ cache
  | join (kid : Option String) (next : Except CacheError VerificationKey → Inquiry α) (c : Bool) :
    Proceeds cache now ⟨.ask (.refresh kid) next, none, c⟩
      ⟨.ask (.refresh kid) next, some cache.joinOrStart.1, c⟩ cache.joinOrStart.2
  | giveUp (kid : Option String) (next : Except CacheError VerificationKey → Inquiry α)
      (id : Nat) :
    Proceeds cache now ⟨.ask (.refresh kid) next, some id, true⟩
      ⟨next (.error .cancelled), none, true⟩ cache
  | learn (kid : Option String) (next : Except CacheError VerificationKey → Inquiry α)
      (id : Nat) (outcome : RefreshOutcome)
      (finished : cache.refreshes[id]? = some (.finished outcome)) :
    Proceeds cache now ⟨.ask (.refresh kid) next, some id, false⟩
      ⟨next (cache.resolveOutcome kid outcome), none, false⟩ cache

theorem proceeds_of_proceed? {caller caller' : Caller α} {cache cache' : Cache} {now : Instant}
    (h : caller.proceed? cache now = some (caller', cache')) :
    caller.Proceeds cache now caller' cache' := by
  obtain ⟨inquiry, w, c⟩ := caller
  unfold proceed? at h
  split at h
  · cases h
  · next kid next heq =>
    cases heq
    cases h
    exact .lookup kid next w c
  · next next heq =>
    cases heq
    cases h
    exact .clock next w c
  · next kid next heq =>
    cases heq
    split at h
    · next hw =>
      cases hw
      cases h
      exact .join kid next c
    · next id hw =>
      cases hw
      cases c with
      | true =>
        cases h
        exact .giveUp kid next id
      | false =>
        split at h
        · next hc => cases hc
        · split at h
          · next outcome hf =>
            cases h
            exact .learn kid next id outcome hf
          · cases h

end Caller

namespace System

/-- A cache that nobody has called yet. -/
def opening (cache : Cache) : System α := ⟨cache, []⟩

@[simp] theorem run_nil (s : System α) : s.run [] = some s := rfl

theorem run_cons (s : System α) (event : Event α) (events : List (Event α)) :
    s.run (event :: events) = (s.step event).bind fun t => t.run events := rfl

theorem run_cons_eq_some_iff {s u : System α} {event : Event α} {events : List (Event α)} :
    s.run (event :: events) = some u ↔ ∃ t, s.step event = some t ∧ t.run events = some u := by
  rw [run_cons, Option.bind_eq_some_iff]

theorem run_append (s : System α) (before after : List (Event α)) :
    s.run (before ++ after) = (s.run before).bind fun t => t.run after := by
  simp only [run, List.foldlM_append]
  rfl

theorem run_append_eq_some_iff {s u : System α} {before after : List (Event α)} :
    s.run (before ++ after) = some u ↔ ∃ t, s.run before = some t ∧ t.run after = some u := by
  rw [run_append, Option.bind_eq_some_iff]

/-- One of the states that the run from `s` through `events` passes, its ends included. -/
def Visits (s : System α) (events : List (Event α)) (m : System α) : Prop :=
  ∃ before after, events = before ++ after ∧ s.run before = some m

theorem visits_start (s : System α) (events : List (Event α)) : s.Visits events s :=
  ⟨[], events, rfl, rfl⟩

theorem Visits.later {s t m : System α} {event : Event α} {events : List (Event α)}
    (hstep : s.step event = some t) (h : t.Visits events m) : s.Visits (event :: events) m := by
  obtain ⟨before, after, rfl, hrun⟩ := h
  exact ⟨event :: before, after, rfl, run_cons_eq_some_iff.mpr ⟨t, hstep, hrun⟩⟩

/-- What every step from a visited state keeps, a run keeps. -/
theorem run_keeps {P : System α → Prop} {s t : System α} {events : List (Event α)}
    (hrun : s.run events = some t) (hs : P s)
    (hstep : ∀ a event b, s.Visits events a → s.Visits events b → event ∈ events →
      a.step event = some b → P a → P b) : P t := by
  induction events generalizing s with
  | nil =>
    cases hrun
    exact hs
  | cons event events ih =>
    obtain ⟨m, hm, hrest⟩ := run_cons_eq_some_iff.mp hrun
    refine ih hrest ?_ ?_
    · exact hstep s event m (visits_start s _) ((visits_start m events).later hm)
        List.mem_cons_self hm hs
    · intro a e b ha hb he hab
      exact hstep a e b (ha.later hm) (hb.later hm) (List.mem_cons_of_mem event he) hab

/-- Whether an event begins a call of refresh: its caller asks for one and has joined none. -/
def beginsRefresh (s : System α) : Event α → Bool
  | .proceed i _ =>
    match s.callers[i]? with
    | some ⟨.ask (.refresh _) _, none, _⟩ => true
    | _ => false
  | _ => false

/-- The effect of each event on the cache. Of all that callers do, only the beginning of a
call of refresh can have one, and only if no refresh is in flight. -/
inductive Effect (s : System α) : Event α → Cache → Prop
  | call (inquiry : Inquiry α) : Effect s (.call inquiry) s.cache
  | cancel (i : Nat) : Effect s (.cancel i) s.cache
  | go (i : Nat) (now : Instant) : Effect s (.proceed i now) s.cache
  | start (i : Nat) (now : Instant) (begins : s.beginsRefresh (.proceed i now) = true)
      (empty : s.cache.slot = none) :
    Effect s (.proceed i now) { s.cache with
      refreshes := s.cache.refreshes ++ [.queued]
      slot := some s.cache.refreshes.length }
  | grant (id : Nat) (queued : s.cache.refreshes[id]? = some .queued)
      (due : s.cache.nextPermit ≤ s.cache.clock) :
    Effect s (.grant id) { s.cache with
      refreshes := s.cache.refreshes.set id .fetching
      nextPermit := s.cache.clock + s.cache.settings.refreshInterval.toNanos }
  | answer (id : Nat) (fetched : Except CacheError KeySet)
      (fetching : s.cache.refreshes[id]? = some .fetching) :
    Effect s (.answer id fetched) { s.cache.install (s.cache.outcomeOf fetched) with
      refreshes := s.cache.refreshes.set id (.settled (s.cache.outcomeOf fetched)) }
  | timeOut (id : Nat) (fetching : s.cache.refreshes[id]? = some .fetching) :
    Effect s (.timeOut id) { s.cache with
      refreshes := s.cache.refreshes.set id
        (.settled (.error (.timeout s.cache.settings.fetchTimeout))) }
  | finish (id : Nat) (outcome : RefreshOutcome)
      (settled : s.cache.refreshes[id]? = some (.settled outcome)) :
    Effect s (.finish id) { s.cache with
      refreshes := s.cache.refreshes.set id (.finished outcome)
      slot := none }
  | tick (nanos : Nat) : Effect s (.tick nanos) { s.cache with clock := s.cache.clock + nanos }

theorem effect_of_proceeds {s : System α} {i : Nat} {now : Instant} {caller caller' : Caller α}
    {cache' : Cache} (hi : s.callers[i]? = some caller)
    (h : caller.Proceeds s.cache now caller' cache') : s.Effect (.proceed i now) cache' := by
  cases h with
  | join kid next c =>
    cases hs : s.cache.slot with
    | none =>
      rw [Cache.joinOrStart_of_empty hs]
      exact .start i now (by simp only [beginsRefresh, hi]) hs
    | some id =>
      rw [Cache.joinOrStart_of_slot hs]
      exact .go i now
  | _ => exact .go i now

theorem effect_of_step {s t : System α} {event : Event α} (h : s.step event = some t) :
    s.Effect event t.cache := by
  cases event with
  | call inquiry =>
    cases h
    exact .call inquiry
  | cancel i =>
    cases h
    exact .cancel i
  | proceed i now =>
    simp only [step, proceed?] at h
    split at h
    · cases h
    · next caller hi =>
      obtain ⟨⟨caller', cache'⟩, hp, rfl⟩ := Option.map_eq_some_iff.mp h
      exact effect_of_proceeds hi (Caller.proceeds_of_proceed? hp)
  | grant id =>
    obtain ⟨cache', hg, rfl⟩ := Option.map_eq_some_iff.mp h
    obtain ⟨hq, hdue, rfl⟩ := Cache.grant?_eq_some_iff.mp hg
    exact .grant id hq hdue
  | answer id fetched =>
    obtain ⟨cache', hs, rfl⟩ := Option.map_eq_some_iff.mp h
    obtain ⟨hf, rfl⟩ := Cache.settle?_eq_some_iff.mp hs
    exact .answer id fetched hf
  | timeOut id =>
    obtain ⟨cache', hs, rfl⟩ := Option.map_eq_some_iff.mp h
    obtain ⟨hf, rfl⟩ := Cache.settle?_eq_some_iff.mp hs
    exact .timeOut id hf
  | finish id =>
    obtain ⟨cache', hf, rfl⟩ := Option.map_eq_some_iff.mp h
    obtain ⟨outcome, hs, rfl⟩ := Cache.finish?_eq_some_iff.mp hf
    exact .finish id outcome hs
  | tick nanos =>
    cases h
    exact .tick nanos

/-- The effects without the events. -/
theorem Effect.move {s : System α} {event : Event α} {next : Cache} (h : s.Effect event next) :
    s.cache.Move next := by
  cases h with
  | start i now begins empty => exact .start empty
  | grant id queued due => exact .grant id queued due
  | answer id fetched fetching => exact .settle id fetched fetching
  | timeOut id fetching =>
    exact .settle id (.error (.timeout s.cache.settings.fetchTimeout)) fetching
  | finish id outcome settled => exact .finish id outcome settled
  | tick nanos => exact .tick nanos
  | _ => exact .rest

theorem move_of_step {s t : System α} {event : Event α} (h : s.step event = some t) :
    s.cache.Move t.cache :=
  (effect_of_step h).move

/-- What each move of the cache keeps, a run keeps. -/
theorem run_keeps_cache {P : Cache → Prop} {s t : System α} {events : List (Event α)}
    (hrun : s.run events = some t) (hs : P s.cache)
    (hmove : ∀ cache next : Cache, cache.Move next → P cache → P next) : P t.cache :=
  run_keeps (P := fun m => P m.cache) hrun hs fun a _ b _ _ _ hab ha =>
    hmove a.cache b.cache (move_of_step hab) ha

theorem coherent_of_run {s t : System α} {events : List (Event α)} (hrun : s.run events = some t)
    (hs : s.cache.Coherent) : t.cache.Coherent :=
  run_keeps_cache hrun hs fun _ _ move hc => move.coherent hc

theorem settings_of_run {s t : System α} {events : List (Event α)}
    (hrun : s.run events = some t) : t.cache.settings = s.cache.settings :=
  run_keeps_cache (P := fun cache => cache.settings = s.cache.settings) hrun rfl
    fun _ _ move h => move.settings_eq.trans h

/-- Runs of a cache that has been initialized are coherent throughout. -/
theorem coherent_of_opening {settings : CacheSettings} {fetched : Except CacheError KeySet}
    {cache : Cache} (hstart : Cache.start settings fetched = .ok cache)
    {events : List (Event α)} {s : System α} (hrun : (opening cache).run events = some s) :
    s.cache.Coherent := by
  obtain ⟨keys, -, -, rfl⟩ := Cache.start_eq_ok_iff.mp hstart
  exact coherent_of_run hrun (Cache.coherent_initial settings keys)

theorem settings_of_opening {settings : CacheSettings} {fetched : Except CacheError KeySet}
    {cache : Cache} (hstart : Cache.start settings fetched = .ok cache)
    {events : List (Event α)} {s : System α} (hrun : (opening cache).run events = some s) :
    s.cache.settings = settings := by
  obtain ⟨keys, -, -, rfl⟩ := Cache.start_eq_ok_iff.mp hstart
  exact settings_of_run hrun

/-- What one event makes of one caller: nothing, a cancelled one, or a step of its own. -/
theorem caller_of_step {s t : System α} {event : Event α} {i : Nat} {caller : Caller α}
    (h : s.step event = some t) (hi : s.callers[i]? = some caller) :
    ∃ caller', t.callers[i]? = some caller' ∧
      ((caller' = caller ∧ ∀ now, event ≠ .proceed i now) ∨
        (caller' = { caller with cancelled := true } ∧ event = .cancel i) ∨
        ∃ now, event = .proceed i now ∧ caller.Proceeds s.cache now caller' t.cache) := by
  cases event with
  | call inquiry =>
    cases h
    have hlt := (List.getElem?_eq_some_iff.mp hi).1
    exact ⟨caller, by simpa [List.getElem?_append_left hlt] using hi, .inl ⟨rfl, by simp⟩⟩
  | cancel j =>
    cases h
    by_cases hj : j = i
    · subst j
      exact ⟨_, by simp [hi], .inr (.inl ⟨rfl, rfl⟩)⟩
    · exact ⟨caller, by simp [hi, hj], .inl ⟨rfl, by simp⟩⟩
  | proceed j now =>
    simp only [step, proceed?] at h
    split at h
    · cases h
    · next other hother =>
      obtain ⟨⟨other', cache'⟩, hp, rfl⟩ := Option.map_eq_some_iff.mp h
      by_cases hj : j = i
      · subst j
        rw [hi] at hother
        cases hother
        refine ⟨other', ?_, .inr (.inr ⟨now, rfl, Caller.proceeds_of_proceed? hp⟩)⟩
        rw [Cache.getElem?_set_of_some hi, if_pos rfl]
      · refine ⟨caller, ?_, .inl ⟨rfl, by simp [hj]⟩⟩
        rw [Cache.getElem?_set_of_some hother, if_neg hj, hi]
  | grant id =>
    obtain ⟨cache', -, rfl⟩ := Option.map_eq_some_iff.mp h
    exact ⟨caller, hi, .inl ⟨rfl, by simp⟩⟩
  | answer id fetched =>
    obtain ⟨cache', -, rfl⟩ := Option.map_eq_some_iff.mp h
    exact ⟨caller, hi, .inl ⟨rfl, by simp⟩⟩
  | timeOut id =>
    obtain ⟨cache', -, rfl⟩ := Option.map_eq_some_iff.mp h
    exact ⟨caller, hi, .inl ⟨rfl, by simp⟩⟩
  | finish id =>
    obtain ⟨cache', -, rfl⟩ := Option.map_eq_some_iff.mp h
    exact ⟨caller, hi, .inl ⟨rfl, by simp⟩⟩
  | tick nanos =>
    cases h
    exact ⟨caller, hi, .inl ⟨rfl, by simp⟩⟩

end System
end BearerAuth
