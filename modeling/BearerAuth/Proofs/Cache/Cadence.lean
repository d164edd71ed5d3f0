import BearerAuth.Proofs.Cache.SingleFlight
import BearerAuth.Proofs.Cache.Waiters

/-!
# The cadence of refreshes

Each refresh takes one permit of its own before it fetches, and not before every earlier refresh
has cleared the slot. Permits are at least the refresh interval apart, so that demand makes
callers wait together and never makes fetches follow each other faster.
-/
namespace BearerAuth

variable {α : Type}

namespace Cache

/-- Past its permit. -/
def HasPermit (cache : Cache) (id : Nat) : Prop :=
  ∃ stage, cache.refreshes[id]? = some stage ∧ stage.hasFetched = true

theorem hasPermit_started {cache next : Cache}
    (h : next.refreshes = cache.refreshes ++ [.queued]) (id : Nat) :
    next.HasPermit id ↔ cache.HasPermit id := by
  unfold HasPermit
  rw [h, List.getElem?_append]
  split
  · rfl
  · next hge =>
    rw [List.getElem?_eq_none (Nat.le_of_not_lt hge), List.getElem?_singleton]
    split <;> simp [RefreshStage.hasFetched]

theorem hasPermit_restaged {cache next : Cache} {i : Nat} {stage stage' : RefreshStage}
    (h : cache.refreshes[i]? = some stage) (hset : next.refreshes = cache.refreshes.set i stage')
    (id : Nat) :
    next.HasPermit id ↔ if i = id then stage'.hasFetched = true else cache.HasPermit id := by
  unfold HasPermit
  rw [hset, getElem?_set_of_some h]
  by_cases hid : i = id
  · simp [hid]
  · simp [hid]

/-- A refresh that keeps its permit, or keeps waiting for it. -/
theorem hasPermit_restaged_same {cache next : Cache} {i : Nat} {stage stage' : RefreshStage}
    (h : cache.refreshes[i]? = some stage) (hset : next.refreshes = cache.refreshes.set i stage')
    (hsame : stage'.hasFetched = stage.hasFetched) (id : Nat) :
    next.HasPermit id ↔ cache.HasPermit id := by
  rw [hasPermit_restaged h hset]
  by_cases hid : i = id
  · subst id
    rw [if_pos rfl, hsame]
    simp [HasPermit, h]
  · rw [if_neg hid]

/-- The limiter never makes anyone wait longer than the interval. -/
def WaitsAtMost (cache : Cache) : Prop :=
  cache.nextPermit ≤ cache.clock + cache.settings.refreshInterval.toNanos

theorem Move.waitsAtMost {cache next : Cache} (move : cache.Move next)
    (h : cache.WaitsAtMost) : next.WaitsAtMost := by
  unfold WaitsAtMost at h ⊢
  cases move with
  | settle id fetched fetching => simpa using h
  | grant id queued due => exact Nat.le_refl _
  | tick nanos =>
    dsimp only
    omega
  | _ => exact h

theorem Coherent.earlier_finished {cache : Cache} (hc : cache.Coherent) {id j : Nat}
    (hslot : cache.slot = some id) (hj : j < cache.refreshes.length) (hne : j ≠ id) :
    ∃ outcome, cache.refreshes[j]? = some (.finished outcome) := by
  have hstage := List.getElem?_eq_getElem hj
  cases hactive : cache.refreshes[j].isActive with
  | true =>
    have hown := hc.slot_of_stage hstage hactive
    rw [hslot] at hown
    exact absurd (Option.some.inj hown).symm hne
  | false =>
    cases hfinal : cache.refreshes[j] with
    | finished outcome => exact ⟨outcome, by rw [hstage, hfinal]⟩
    | _ => rw [hfinal] at hactive; cases hactive

end Cache

namespace Event

/-- The refresh that gets its permit by an event. -/
def granted? : Event α → Option Nat
  | .grant id => some id
  | _ => none

/-- The refresh whose fetch ends with an event, and what it has fetched by then. -/
def fetched? (limit : Span) : Event α → Option (Nat × Except CacheError KeySet)
  | .answer id fetched => some (id, fetched)
  | .timeOut id => some (id, .error (.timeout limit))
  | _ => none

end Event

namespace System

/-- The permits along a sequence of events: which refresh got one, and when by the clock of the
cache. -/
def permits (s : System α) : List (Event α) → List (Nat × Nat)
  | [] => []
  | event :: events =>
    (event.granted?.map fun id => (id, s.cache.clock)).toList ++
      match s.step event with
      | some t => t.permits events
      | none => []

theorem mem_permits_cons_iff {s t : System α} {event : Event α} {events : List (Event α)}
    (h : s.step event = some t) {x : Nat × Nat} :
    x ∈ s.permits (event :: events) ↔
      event.granted? = some x.1 ∧ x.2 = s.cache.clock ∨ x ∈ t.permits events := by
  obtain ⟨id, time⟩ := x
  rw [permits, h, List.mem_append]
  simp only [Option.mem_toList, Option.map_eq_some_iff, Prod.mk.injEq]
  refine or_congr_left ?_
  constructor
  · rintro ⟨id', hid, rfl, rfl⟩
    exact ⟨hid, rfl⟩
  · rintro ⟨hid, rfl⟩
    exact ⟨id, hid, rfl, rfl⟩

theorem Effect.hasPermit_iff {s : System α} {event : Event α} {next : Cache}
    (h : s.Effect event next) (id : Nat) :
    next.HasPermit id ↔ s.cache.HasPermit id ∨ event.granted? = some id := by
  cases h with
  | start i now begins empty =>
    refine Iff.trans (Cache.hasPermit_started rfl id) (or_iff_left ?_).symm
    simp [Event.granted?]
  | grant j queued due =>
    refine Iff.trans (Cache.hasPermit_restaged queued rfl id) ?_
    by_cases hj : j = id
    · simp [hj, RefreshStage.hasFetched, Event.granted?]
    · simp [hj, Event.granted?]
  | answer j fetched fetching =>
    refine Iff.trans (Cache.hasPermit_restaged_same fetching rfl (by rfl) id) ?_
    simp [Event.granted?]
  | timeOut j fetching =>
    refine Iff.trans (Cache.hasPermit_restaged_same fetching rfl (by rfl) id) ?_
    simp [Event.granted?]
  | finish j outcome settled =>
    refine Iff.trans (Cache.hasPermit_restaged_same settled rfl (by rfl) id) ?_
    simp [Event.granted?]
  | _ => exact (or_iff_left (by simp [Event.granted?])).symm

/-- What an event does to the limiter and its clock. A permit is granted when it is due, and the
next one is due an interval later. -/
theorem Effect.limiter {s : System α} {event : Event α} {next : Cache}
    (h : s.Effect event next) :
    s.cache.clock ≤ next.clock ∧
      (event.granted? = none → next.nextPermit = s.cache.nextPermit) ∧
        ∀ id, event.granted? = some id → s.cache.refreshes[id]? = some .queued ∧
          s.cache.nextPermit ≤ s.cache.clock ∧
            next.nextPermit = s.cache.clock + s.cache.settings.refreshInterval.toNanos := by
  cases h with
  | grant id queued due =>
    refine ⟨Nat.le_refl _, nofun, fun j hj => ?_⟩
    cases hj
    exact ⟨queued, due, rfl⟩
  | answer id fetched fetching => exact ⟨by simp, fun _ => by simp, nofun⟩
  | tick nanos => exact ⟨Nat.le_add_right _ _, fun _ => rfl, nofun⟩
  | _ => exact ⟨Nat.le_refl _, fun _ => rfl, nofun⟩

/-- The refreshes past their permit are those that got one along the run, or had one before. -/
theorem hasPermit_of_run {s t : System α} {events : List (Event α)}
    (hrun : s.run events = some t) (id : Nat) :
    t.cache.HasPermit id ↔ s.cache.HasPermit id ∨ ∃ time, (id, time) ∈ s.permits events := by
  induction events generalizing s with
  | nil =>
    cases hrun
    simp [permits]
  | cons event events ih =>
    obtain ⟨m, hm, hrest⟩ := run_cons_eq_some_iff.mp hrun
    rw [ih hrest, (effect_of_step hm).hasPermit_iff]
    simp only [mem_permits_cons_iff hm]
    constructor
    · rintro ((hold | hgrant) | ⟨time, hlater⟩)
      · exact .inl hold
      · exact .inr ⟨_, .inl ⟨hgrant, rfl⟩⟩
      · exact .inr ⟨time, .inr hlater⟩
    · rintro (hold | ⟨time, ⟨hgrant, -⟩ | hlater⟩)
      · exact .inl (.inl hold)
      · exact .inl (.inr hgrant)
      · exact .inr ⟨time, hlater⟩

/-- Permits go to refreshes that have none, and are granted when they are due. -/
theorem permit_of_mem {s t : System α} {events : List (Event α)} (hrun : s.run events = some t)
    {x : Nat × Nat} (hx : x ∈ s.permits events) :
    ¬ s.cache.HasPermit x.1 ∧ s.cache.clock ≤ x.2 ∧ s.cache.nextPermit ≤ x.2 := by
  induction events generalizing s with
  | nil => cases hx
  | cons event events ih =>
    obtain ⟨m, hm, hrest⟩ := run_cons_eq_some_iff.mp hrun
    obtain ⟨hclock, hkept, hgrants⟩ := (effect_of_step hm).limiter
    rcases (mem_permits_cons_iff hm).mp hx with ⟨hgrant, htime⟩ | hlater
    · obtain ⟨hqueued, hdue, -⟩ := hgrants x.1 hgrant
      refine ⟨?_, Nat.le_of_eq htime.symm, by omega⟩
      rintro ⟨stage, hstage, hfetched⟩
      rw [hqueued] at hstage
      cases hstage
      cases hfetched
    · obtain ⟨hnone, hafter, hdue⟩ := ih hrest hlater
      refine ⟨fun hold => hnone (((effect_of_step hm).hasPermit_iff x.1).mpr (.inl hold)),
        by omega, ?_⟩
      cases hgrant : event.granted? with
      | none =>
        rw [← hkept hgrant]
        exact hdue
      | some id =>
        obtain ⟨-, hbefore, -⟩ := hgrants id hgrant
        omega

/-- Of two permits of a run, the later one goes to a later refresh, and the refresh interval lies
between them. -/
theorem permits_pairwise {s t : System α} {events : List (Event α)}
    (hrun : s.run events = some t) (hc : s.cache.Coherent) :
    (s.permits events).Pairwise fun early late =>
      early.1 < late.1 ∧
        early.2 + s.cache.settings.refreshInterval.toNanos ≤ late.2 := by
  induction events generalizing s with
  | nil => exact .nil
  | cons event events ih =>
    obtain ⟨m, hm, hrest⟩ := run_cons_eq_some_iff.mp hrun
    have hmove := move_of_step hm
    have htail := ih hrest (hmove.coherent hc)
    rw [hmove.settings_eq] at htail
    rw [permits, hm]
    cases hgrant : event.granted? with
    | none => exact htail
    | some id =>
      refine List.pairwise_cons.mpr ⟨fun late hlate => ?_, htail⟩
      obtain ⟨hqueued, -, hnext⟩ := (effect_of_step hm).limiter.2.2 id hgrant
      obtain ⟨hnone, -, hdue⟩ := permit_of_mem hrest hlate
      rw [hnext] at hdue
      refine ⟨?_, hdue⟩
      change id < late.1
      -- A refresh before this one has finished, and this one has got its permit just now.
      by_contra hle
      apply hnone
      rw [(effect_of_step hm).hasPermit_iff, hgrant]
      by_cases hid : id = late.1
      · exact .inr (congrArg some hid)
      · have hlt := (List.getElem?_eq_some_iff.mp hqueued).1
        obtain ⟨outcome, hfinished⟩ := hc.earlier_finished (hc.slot_of_stage hqueued rfl)
          (j := late.1) (by omega) (by omega)
        exact .inl ⟨_, hfinished, rfl⟩

/-- The next permit is due when every permit so far is an interval ago. -/
theorem nextPermit_le_iff {s t : System α} {events : List (Event α)}
    (hrun : s.run events = some t) (time : Nat) :
    t.cache.nextPermit ≤ time ↔ s.cache.nextPermit ≤ time ∧
      ∀ permit ∈ s.permits events,
        permit.2 + s.cache.settings.refreshInterval.toNanos ≤ time := by
  induction events generalizing s with
  | nil =>
    cases hrun
    simp [permits]
  | cons event events ih =>
    obtain ⟨m, hm, hrest⟩ := run_cons_eq_some_iff.mp hrun
    obtain ⟨-, hkept, hgrants⟩ := (effect_of_step hm).limiter
    rw [ih hrest, (move_of_step hm).settings_eq]
    simp only [mem_permits_cons_iff hm]
    cases hgrant : event.granted? with
    | none => simp [hkept hgrant]
    | some id =>
      obtain ⟨-, hdue, hnext⟩ := hgrants id hgrant
      rw [hnext]
      constructor
      · rintro ⟨hhead, hlater⟩
        refine ⟨by omega, ?_⟩
        rintro permit (⟨-, htime⟩ | hmem)
        · rw [htime]
          exact hhead
        · exact hlater permit hmem
      · rintro ⟨-, hall⟩
        exact ⟨hall (id, s.cache.clock) (.inl ⟨rfl, rfl⟩),
          fun permit hmem => hall permit (.inr hmem)⟩

/-- In any window as long as the interval there is at most one of a list of permits that are that
far apart. -/
theorem length_window_le {interval : Nat} {permits : List (Nat × Nat)}
    (h : permits.Pairwise fun early late => early.1 < late.1 ∧ early.2 + interval ≤ late.2)
    (first : Nat) :
    (permits.filter fun permit => first ≤ permit.2 ∧ permit.2 < first + interval).length ≤ 1 := by
  have hspaced := h.filter fun permit => first ≤ permit.2 ∧ permit.2 < first + interval
  have hinside : ∀ permit ∈ permits.filter fun permit =>
      first ≤ permit.2 ∧ permit.2 < first + interval,
      first ≤ permit.2 ∧ permit.2 < first + interval := fun permit hmem => by
    simpa using (List.mem_filter.mp hmem).2
  generalize permits.filter _ = inside at *
  match inside with
  | [] => exact Nat.zero_le _
  | [_] => exact Nat.le_refl _
  | early :: late :: rest =>
    have hapart := ((List.pairwise_cons.mp hspaced).1 late List.mem_cons_self).2
    have hearly := hinside early List.mem_cons_self
    have hlate := hinside late (List.mem_cons_of_mem _ List.mem_cons_self)
    omega

/-- A permit that is due can be granted. -/
theorem step_grant_of_due {s : System α} {id : Nat}
    (hqueued : s.cache.refreshes[id]? = some .queued) (hdue : s.cache.nextPermit ≤ s.cache.clock) :
    ∃ t, s.step (.grant id) = some t ∧ t.cache.HasPermit id := by
  have hgrant := Cache.grant?_eq_some_iff.mpr ⟨hqueued, hdue, rfl⟩
  refine ⟨_, Option.map_eq_some_iff.mpr ⟨_, hgrant, rfl⟩, ?_⟩
  exact ⟨.fetching, (Cache.getElem?_set_of_some hqueued).trans (if_pos rfl), rfl⟩

theorem Effect.outcome_of_fetched {s : System α} {event : Event α} {next : Cache}
    (h : s.Effect event next) {id : Nat} {outcome : RefreshOutcome}
    (hnew : next.outcome? id = some outcome) :
    s.cache.outcome? id = some outcome ∨
      ∃ fetched, event.fetched? s.cache.settings.fetchTimeout = some (id, fetched) ∧
        outcome = s.cache.outcomeOf fetched := by
  cases h with
  | start i now begins empty =>
    rw [Cache.outcome?_started rfl] at hnew
    exact .inl hnew
  | grant j queued due =>
    rw [Cache.outcome?_restaged_same .fetching queued rfl rfl] at hnew
    exact .inl hnew
  | answer j fetched fetching =>
    rw [Cache.outcome?_restaged fetching rfl] at hnew
    split at hnew
    · next hj =>
      subst hj
      exact .inr ⟨fetched, rfl, (Option.some.inj hnew).symm⟩
    · exact .inl hnew
  | timeOut j fetching =>
    rw [Cache.outcome?_restaged fetching rfl] at hnew
    split at hnew
    · next hj =>
      subst hj
      exact .inr ⟨_, rfl, (Option.some.inj hnew).symm⟩
    · exact .inl hnew
  | finish j final settled =>
    rw [Cache.outcome?_restaged_same (.finished final) settled rfl rfl] at hnew
    exact .inl hnew
  | _ => exact .inl hnew

/-- Every outcome is what the fetch of its refresh has come to, in the mode of the cache. -/
theorem fetched_of_outcome {cache : Cache} (hnone : cache.refreshes = []) {s : System α}
    {events : List (Event α)} (hrun : (opening cache).run events = some s) {id : Nat}
    {outcome : RefreshOutcome} (h : s.cache.outcome? id = some outcome) :
    ∃ event ∈ events, ∃ fetched, event.fetched? cache.settings.fetchTimeout = some (id, fetched) ∧
      outcome.map Snapshot.keys =
        fetched.bind (checkUnambiguous cache.settings.keyIdDisabled) := by
  have hboth : s.cache.settings = cache.settings ∧ ∀ outcome,
      s.cache.outcome? id = some outcome → ∃ event ∈ events, ∃ fetched,
        event.fetched? cache.settings.fetchTimeout = some (id, fetched) ∧
          outcome.map Snapshot.keys =
            fetched.bind (checkUnambiguous cache.settings.keyIdDisabled) := by
    refine run_keeps (P := fun m => m.cache.settings = cache.settings ∧ ∀ outcome,
      m.cache.outcome? id = some outcome → ∃ event ∈ events, ∃ fetched,
        event.fetched? cache.settings.fetchTimeout = some (id, fetched) ∧
          outcome.map Snapshot.keys =
            fetched.bind (checkUnambiguous cache.settings.keyIdDisabled)) hrun ⟨rfl, ?_⟩ ?_
    · intro outcome h
      simp [opening, Cache.outcome?, hnone] at h
    · rintro a event b _ _ hmem hab ⟨hsettings, ha⟩
      refine ⟨(move_of_step hab).settings_eq.trans hsettings, fun outcome hb => ?_⟩
      rcases (effect_of_step hab).outcome_of_fetched hb with hold | ⟨fetched, hfetched, houtcome⟩
      · exact ha outcome hold
      · rw [hsettings] at hfetched
        refine ⟨event, hmem, fetched, hfetched, ?_⟩
        rw [houtcome, Cache.outcomeOf, hsettings]
        cases fetched.bind (checkUnambiguous cache.settings.keyIdDisabled) <;> rfl
  exact hboth.2 outcome h

/-- How refreshes and permits go together in the state `s` that `events` lead to. -/
structure Cadence (cache : Cache) (events : List (Event α)) (s : System α) : Prop where
  /-- A refresh has begun its fetch exactly if one of the permits is its own. -/
  own : ∀ id, s.cache.HasPermit id ↔ ∃ time, (id, time) ∈ (opening cache).permits events
  /-- No refresh gets two, a later permit goes to a later refresh, and there is at least the
  refresh interval from one to the next. -/
  spaced : ((opening cache).permits events).Pairwise fun early late =>
    early.1 < late.1 ∧ early.2 + cache.settings.refreshInterval.toNanos ≤ late.2
  window : ∀ first, (((opening cache).permits events).filter fun permit =>
    first ≤ permit.2 ∧
      permit.2 < first + cache.settings.refreshInterval.toNanos).length ≤ 1
  /-- Whoever gets a permit has the slot, and all who were started before have cleared it. -/
  cleared : ∀ id t, s.step (.grant id) = some t → s.cache.slot = some id ∧
    ∀ j, j < id → ∃ outcome, s.cache.refreshes[j]? = some (.finished outcome)
  /-- Callers who come while a refresh waits for its permit wait for that refresh, and nothing
  else is started. -/
  joins : ∀ id i now, s.cache.refreshes[id]? = some .queued →
    s.beginsRefresh (.proceed i now) = true → ∃ t caller, s.step (.proceed i now) = some t ∧
      t.cache = s.cache ∧ t.callers[i]? = some caller ∧ caller.waitingFor = some id
  /-- A caller whose token has not fired is answered with what a refresh has come to after it
  had its permit. -/
  answers : ∀ i now t kid next id cancelled,
    s.callers[i]? = some ⟨.ask (.refresh kid) next, some id, cancelled⟩ →
      s.step (.proceed i now) = some t →
        cancelled = true ∧ t.callers[i]? = some ⟨next (.error .cancelled), none, true⟩ ∨
          cancelled = false ∧ ∃ outcome, s.cache.outcome? id = some outcome ∧
            s.cache.HasPermit id ∧
              t.callers[i]? = some ⟨next (s.cache.resolveOutcome kid outcome), none, false⟩
  /-- And a refresh comes only to what its fetch has ended with: no error is due to waiting. -/
  fetched : ∀ id outcome, s.cache.outcome? id = some outcome →
    ∃ event ∈ events, ∃ fetched, event.fetched? cache.settings.fetchTimeout = some (id, fetched) ∧
      outcome.map Snapshot.keys =
        fetched.bind (checkUnambiguous cache.settings.keyIdDisabled)
  /-- A refresh can get its permit exactly when every permit so far is an interval ago. Of the
  limiter nothing else is used. -/
  due : ∀ id, s.cache.refreshes[id]? = some .queued →
    ((∃ t, s.step (.grant id) = some t) ↔ ∀ permit ∈ (opening cache).permits events,
      permit.2 + cache.settings.refreshInterval.toNanos ≤ s.cache.clock)
  /-- It gets it after one interval at the latest. -/
  granted : ∀ id, s.cache.refreshes[id]? = some .queued →
    s.cache.nextPermit - s.cache.clock ≤ cache.settings.refreshInterval.toNanos ∧
      ∃ t, s.run [.tick (s.cache.nextPermit - s.cache.clock), .grant id] = some t ∧
        t.cache.HasPermit id
  /-- The initial fetch has taken no permit: the first one is there at once. -/
  first : (opening cache).permits events = [] → ∀ id, s.cache.refreshes[id]? = some .queued →
    ∃ t, s.step (.grant id) = some t ∧ t.cache.HasPermit id
  /-- Without an interval every permit is there at once. -/
  unlimited : cache.settings.refreshInterval.isZero = true →
    ∀ id, s.cache.refreshes[id]? = some .queued →
      ∃ t, s.step (.grant id) = some t ∧ t.cache.HasPermit id

/-- The cadence of refreshes is bounded whatever the demand. -/
theorem cadence_of_run {settings : CacheSettings} {fetched : Except CacheError KeySet}
    {cache : Cache} (hstart : Cache.start settings fetched = .ok cache)
    {events : List (Event α)} {s : System α} (hrun : (opening cache).run events = some s) :
    Cadence cache events s := by
  have hc : s.cache.Coherent := coherent_of_opening hstart hrun
  have hsettings : s.cache.settings = cache.settings := settings_of_run hrun
  obtain ⟨keys, -, -, rfl⟩ := Cache.start_eq_ok_iff.mp hstart
  have hspaced := permits_pairwise hrun (Cache.coherent_initial settings keys)
  have hdue := nextPermit_le_iff hrun s.cache.clock
  have hwait : s.cache.WaitsAtMost :=
    run_keeps_cache hrun (Nat.zero_le _) fun _ _ move h => move.waitsAtMost h
  rw [Cache.WaitsAtMost, hsettings] at hwait
  refine { own := ?_, spaced := hspaced, window := length_window_le hspaced, cleared := ?_,
           joins := ?_, answers := ?_, fetched := ?_, due := ?_, granted := ?_, first := ?_,
           unlimited := ?_ }
  · intro id
    rw [hasPermit_of_run hrun]
    exact or_iff_right fun ⟨stage, hstage, _⟩ => by cases hstage
  · intro id t hstep
    obtain ⟨hqueued, -⟩ := (effect_of_step hstep).limiter.2.2 id rfl
    have hslot := hc.slot_of_stage hqueued rfl
    have hlt := (List.getElem?_eq_some_iff.mp hqueued).1
    exact ⟨hslot, fun j hj => hc.earlier_finished hslot (by omega) (by omega)⟩
  · intro id i now hqueued hbegins
    have hslot := hc.slot_of_stage hqueued rfl
    obtain ⟨t, caller, hstep, hcache, hcaller, hwaits⟩ := step_of_beginsRefresh hbegins
    rw [Cache.joinOrStart_of_slot hslot] at hcache
    exact ⟨t, caller, hstep, hcache, hcaller, by rw [hwaits, hcache, hslot]⟩
  · intro i now t kid next id cancelled hi hstep
    refine (answer_of_step hi hstep).imp_right ?_
    rintro ⟨rfl, outcome, houtcome, hcaller⟩
    refine ⟨rfl, outcome, houtcome, ?_, hcaller⟩
    obtain ⟨stage, hstage, hout⟩ := Option.bind_eq_some_iff.mp houtcome
    refine ⟨stage, hstage, ?_⟩
    cases stage with
    | queued => cases hout
    | _ => rfl
  · intro id outcome houtcome
    exact fetched_of_outcome rfl hrun houtcome
  · intro id hqueued
    refine Iff.trans ⟨?_, ?_⟩ (hdue.trans (and_iff_right (Nat.zero_le _)))
    · rintro ⟨t, hstep⟩
      exact ((effect_of_step hstep).limiter.2.2 id rfl).2.1
    · intro hle
      obtain ⟨t, hstep, -⟩ := step_grant_of_due hqueued hle
      exact ⟨t, hstep⟩
  · intro id hqueued
    refine ⟨by omega, ?_⟩
    let later : System α := { s with cache := { s.cache with
      clock := s.cache.clock + (s.cache.nextPermit - s.cache.clock) } }
    have hlater : s.cache.nextPermit ≤ s.cache.clock + (s.cache.nextPermit - s.cache.clock) := by
      omega
    obtain ⟨t, hstep, hpermit⟩ := step_grant_of_due (s := later) hqueued hlater
    exact ⟨t, run_cons_eq_some_iff.mpr ⟨later, rfl, run_cons_eq_some_iff.mpr ⟨t, hstep, rfl⟩⟩,
      hpermit⟩
  · intro hnone id hqueued
    refine step_grant_of_due hqueued (hdue.mpr ⟨Nat.zero_le _, fun permit hmem => ?_⟩)
    rw [hnone] at hmem
    cases hmem
  · intro hzero id hqueued
    refine step_grant_of_due hqueued ?_
    have hinterval : (Cache.initial settings keys).settings.refreshInterval.toNanos = 0 := by
      simpa [Span.isZero] using hzero
    omega

/-- Three callers with unknown identifiers within one interval: two of them share a refresh, and
the third waits for the next permit. -/
def threeUnknown : List (Event (Except CacheError VerificationKey)) :=
  [.call (.refresh (some "b")), .call (.refresh (some "c")), .proceed 0 .epoch, .proceed 1 .epoch,
    .grant 0, .answer 0 (.ok ⟨[.blank "a"]⟩), .finish 0, .call (.refresh (some "d")),
    .proceed 2 .epoch, .tick 1000000000, .grant 1, .timeOut 1, .finish 1]

theorem cadence_of_run_threeUnknown :
    let cache := Cache.initial ⟨.ofSeconds 5, .ofSeconds 1, false⟩ ⟨[.blank "a"]⟩
    ∃ s, (opening cache).run threeUnknown = some s ∧ Cadence cache threeUnknown s ∧
      (opening cache).permits threeUnknown = [(0, 0), (1, 1000000000)] := by
  intro cache
  have hstart : Cache.start ⟨.ofSeconds 5, .ofSeconds 1, false⟩ (.ok ⟨[.blank "a"]⟩) = .ok cache :=
    rfl
  have hrun : ((opening (.initial ⟨.ofSeconds 5, .ofSeconds 1, false⟩ ⟨[.blank "a"]⟩)).run
      threeUnknown).isSome = true := by decide +kernel
  obtain ⟨s, hs⟩ := Option.isSome_iff_exists.mp hrun
  exact ⟨s, hs, cadence_of_run hstart hs, by decide +kernel⟩

end System
end BearerAuth
