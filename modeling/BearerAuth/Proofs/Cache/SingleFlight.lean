import BearerAuth.Proofs.Cache.Snapshots

/-!
# Single flight

However many callers ask at once, and whoever of them gives up, one refresh at most is between
its start and the clearing of the slot. The slot is filled and cleared for that refresh alone,
it is cleared whatever the refresh comes to, and no caller is needed for it.
-/
namespace BearerAuth

variable {α : Type}

/-- The permit with which a refresh begins its fetch. -/
def Event.isGrant : Event α → Bool
  | .grant _ => true
  | _ => false

/-- A step of one refresh, or of the clock: nothing that a caller does. -/
def Event.isRefreshStep (id : Nat) : Event α → Bool
  | .grant j => j = id
  | .answer j _ => j = id
  | .timeOut j => j = id
  | .finish j => j = id
  | .tick _ => true
  | _ => false

namespace System

/-- How many calls of refresh begin along a sequence of events. -/
def refreshCalls (s : System α) : List (Event α) → Nat
  | [] => 0
  | event :: events =>
    (if s.beginsRefresh event then 1 else 0) +
      match s.step event with
      | some t => t.refreshCalls events
      | none => 0

theorem refreshCalls_cons {s t : System α} {event : Event α} {events : List (Event α)}
    (h : s.step event = some t) :
    s.refreshCalls (event :: events) =
      (if s.beginsRefresh event then 1 else 0) + t.refreshCalls events := by
  rw [refreshCalls, h]

/-- A caller who asks for a refresh gets on at once: it joins the refresh in the slot, or puts
a new one there, and waits for what the slot then names. -/
theorem step_of_beginsRefresh {s : System α} {i : Nat} {now : Instant}
    (h : s.beginsRefresh (.proceed i now) = true) :
    ∃ t caller, s.step (.proceed i now) = some t ∧ t.cache = s.cache.joinOrStart.2 ∧
      t.callers[i]? = some caller ∧ caller.waitingFor = t.cache.slot := by
  simp only [beginsRefresh] at h
  split at h
  · next kid next c hi =>
    let caller : Caller α := ⟨.ask (.refresh kid) next, some s.cache.joinOrStart.1, c⟩
    refine ⟨⟨s.cache.joinOrStart.2, s.callers.set i caller⟩, caller, ?_, rfl, ?_,
      s.cache.joinOrStart_slot.symm⟩
    · simp only [step, proceed?, hi, Caller.proceed?, Option.map_some]
      rfl
    · rw [Cache.getElem?_set_of_some hi, if_pos rfl]
  · cases h

/-- Only the beginning of a call can start a refresh, and at most one. -/
theorem Effect.length_le {s : System α} {event : Event α} {next : Cache}
    (h : s.Effect event next) :
    next.refreshes.length ≤
      s.cache.refreshes.length + if s.beginsRefresh event then 1 else 0 := by
  cases h with
  | start i now begins empty => simp [begins]
  | _ => simp

theorem length_of_run {s t : System α} {events : List (Event α)} (hrun : s.run events = some t) :
    t.cache.refreshes.length ≤ s.cache.refreshes.length + s.refreshCalls events := by
  induction events generalizing s with
  | nil =>
    cases hrun
    exact Nat.le_add_right _ _
  | cons event events ih =>
    obtain ⟨m, hm, hrest⟩ := run_cons_eq_some_iff.mp hrun
    have hstep := (effect_of_step hm).length_le
    have htail := ih hrest
    rw [refreshCalls_cons hm]
    omega

/-- Each permit takes one refresh past its permit, and nothing else does. -/
theorem Effect.countP_hasFetched {s : System α} {event : Event α} {next : Cache}
    (h : s.Effect event next) :
    next.refreshes.countP RefreshStage.hasFetched =
      s.cache.refreshes.countP RefreshStage.hasFetched + if event.isGrant then 1 else 0 := by
  cases h with
  | start i now begins empty => simp [RefreshStage.hasFetched, Event.isGrant]
  | grant id queued due =>
    exact Cache.countP_set_add (p := RefreshStage.hasFetched) (b := .fetching) queued
  | answer id fetched fetching =>
    exact Cache.countP_set_same (p := RefreshStage.hasFetched) fetching rfl
  | timeOut id fetching =>
    exact Cache.countP_set_same (p := RefreshStage.hasFetched) fetching rfl
  | finish id outcome settled =>
    exact Cache.countP_set_same (p := RefreshStage.hasFetched) settled rfl
  | _ => rfl

theorem fetched_of_run {s t : System α} {events : List (Event α)} (hrun : s.run events = some t) :
    t.cache.refreshes.countP RefreshStage.hasFetched =
      s.cache.refreshes.countP RefreshStage.hasFetched + events.countP Event.isGrant := by
  induction events generalizing s with
  | nil =>
    cases hrun
    rfl
  | cons event events ih =>
    obtain ⟨m, hm, hrest⟩ := run_cons_eq_some_iff.mp hrun
    have hstep := (effect_of_step hm).countP_hasFetched
    rw [ih hrest, hstep, List.countP_cons]
    omega

/-- Only the finish of a refresh clears the slot. -/
theorem Effect.slot_stays {s : System α} {event : Event α} {next : Cache}
    (h : s.Effect event next) {id : Nat} (hslot : s.cache.slot = some id)
    (hne : ∀ j, event ≠ .finish j) : next.slot = some id := by
  cases h with
  | start i now begins empty =>
    rw [hslot] at empty
    cases empty
  | answer j fetched fetching => simpa using hslot
  | finish j outcome settled => exact absurd rfl (hne j)
  | _ => exact hslot

theorem Effect.slot_of_finish {s : System α} (hc : s.cache.Coherent) {id : Nat} {next : Cache}
    (h : s.Effect (.finish id) next) : s.cache.slot = some id ∧ next.slot = none := by
  cases h with
  | finish id outcome settled => exact ⟨hc.slot_of_stage settled rfl, rfl⟩

section Progress

variable {s t : System α} {id : Nat} {outcome : RefreshOutcome} {snapshot : Snapshot}

/-- A list of steps of one refresh after which the slot is empty. -/
def Drains (s : System α) (id : Nat) : Prop :=
  ∃ own t, (∀ event ∈ own, Event.isRefreshStep (α := α) id event = true) ∧
    s.run own = some t ∧ t.cache.slot = none

/-- Steps of the refresh `id` alone, and of the clock, lead to its end and leave a snapshot. -/
def EndsWith (s : System α) (id : Nat) (outcome : RefreshOutcome) (snapshot : Snapshot) : Prop :=
  ∃ own t, (∀ event ∈ own, Event.isRefreshStep (α := α) id event = true) ∧ s.run own = some t ∧
    t.cache.slot = none ∧ t.cache.outcome? id = some outcome ∧ t.cache.snapshot = snapshot

theorem EndsWith.of_step (event : Event α) (hown : event.isRefreshStep id = true)
    (hstep : s.step event = some t) (ht : t.EndsWith id outcome snapshot) :
    s.EndsWith id outcome snapshot := by
  obtain ⟨own, u, hall, hrun, hend⟩ := ht
  exact ⟨event :: own, u, List.forall_mem_cons.mpr ⟨hown, hall⟩,
    run_cons_eq_some_iff.mpr ⟨t, hstep, hrun⟩, hend⟩

theorem endsWith_of_settled (h : s.cache.refreshes[id]? = some (.settled outcome)) :
    s.EndsWith id outcome s.cache.snapshot := by
  have hfinish := Cache.finish?_eq_some_iff.mpr ⟨outcome, h, rfl⟩
  refine ⟨[.finish id], _, by simp [Event.isRefreshStep],
    run_cons_eq_some_iff.mpr ⟨_, Option.map_eq_some_iff.mpr ⟨_, hfinish, rfl⟩, rfl⟩, rfl, ?_, rfl⟩
  rw [Cache.outcome?_restaged h rfl, if_pos rfl]
  rfl

theorem endsWith_of_fetching (h : s.cache.refreshes[id]? = some .fetching)
    (fetched : Except CacheError KeySet) :
    s.EndsWith id (s.cache.outcomeOf fetched)
      (snapshotAfter (s.cache.outcomeOf fetched) s.cache.snapshot) := by
  have hsettle : s.cache.settle? id fetched = some _ := Cache.settle?_eq_some_iff.mpr ⟨h, rfl⟩
  rw [← Cache.install_snapshot]
  apply EndsWith.of_step (.answer id fetched) (by simp [Event.isRefreshStep])
    (Option.map_eq_some_iff.mpr ⟨_, hsettle, rfl⟩)
  exact endsWith_of_settled ((Cache.getElem?_set_of_some h).trans (if_pos rfl))

theorem endsWith_of_due (h : s.cache.refreshes[id]? = some .queued)
    (due : s.cache.nextPermit ≤ s.cache.clock) (fetched : Except CacheError KeySet) :
    s.EndsWith id (s.cache.outcomeOf fetched)
      (snapshotAfter (s.cache.outcomeOf fetched) s.cache.snapshot) := by
  have hgrant := Cache.grant?_eq_some_iff.mpr ⟨h, due, rfl⟩
  exact EndsWith.of_step (.grant id) (by simp [Event.isRefreshStep])
    (Option.map_eq_some_iff.mpr ⟨_, hgrant, rfl⟩)
    (endsWith_of_fetching ((Cache.getElem?_set_of_some h).trans (if_pos rfl)) fetched)

/-- A refresh waits for its permit and for its fetch, never for a caller. Whatever is fetched, a
success is installed and a failure leaves the snapshot. -/
theorem exists_endsWith (hc : s.cache.Coherent) (hslot : s.cache.slot = some id)
    (fetched : Except CacheError KeySet) :
    ∃ outcome, s.EndsWith id outcome (snapshotAfter outcome s.cache.snapshot) ∧
      (s.cache.outcome? id = none → outcome = s.cache.outcomeOf fetched) := by
  obtain ⟨stage, hstage, hactive⟩ := (hc.slot_iff id).mp hslot
  cases stage with
  | queued =>
    refine ⟨_, ?_, fun _ => rfl⟩
    let later : System α :=
      ⟨{ s.cache with clock := s.cache.clock + s.cache.nextPermit }, s.callers⟩
    have hlater : later.EndsWith id (s.cache.outcomeOf fetched) _ :=
      endsWith_of_due (s := later) hstage (Nat.le_add_left _ _) fetched
    exact EndsWith.of_step (.tick s.cache.nextPermit) rfl rfl hlater
  | fetching => exact ⟨_, endsWith_of_fetching hstage fetched, fun _ => rfl⟩
  | settled outcome =>
    have houtcome : s.cache.outcome? id = some outcome := by rw [Cache.outcome?, hstage]; rfl
    -- It has been installed already.
    have hafter : snapshotAfter outcome s.cache.snapshot = s.cache.snapshot := by
      cases outcome with
      | ok snapshot => exact (hc.current id snapshot hslot houtcome).symm
      | error error => rfl
    refine ⟨outcome, ?_, fun hnone => ?_⟩
    · rw [hafter]
      exact endsWith_of_settled hstage
    · cases hnone.symm.trans houtcome
  | finished outcome => cases hactive

/-- A refresh that has no outcome yet can still come to anything that is fetched. -/
theorem exists_leaves (hc : s.cache.Coherent) (hslot : s.cache.slot = some id)
    (hpending : s.cache.outcome? id = none) (fetched : Except CacheError KeySet) :
    ∃ outcome snapshot, s.cache.Leaves fetched outcome snapshot ∧
      s.EndsWith id outcome snapshot := by
  obtain ⟨_, hends, hof⟩ := exists_endsWith hc hslot fetched
  rw [hof hpending] at hends
  exact ⟨_, _, s.cache.leaves_outcomeOf fetched, hends⟩

theorem drains_of_slot (hc : s.cache.Coherent) (hslot : s.cache.slot = some id) :
    s.Drains id := by
  obtain ⟨_, ⟨own, t, hall, hrun, hempty, -⟩, -⟩ := exists_endsWith hc hslot
    (.error (.timeout s.cache.settings.fetchTimeout))
  exact ⟨own, t, hall, hrun, hempty⟩

end Progress

/-- What holds of the refreshes in the state `s` that `events` lead to. -/
structure SingleFlight (cache : Cache) (events : List (Event α)) (s : System α) : Prop where
  /-- No two refreshes are both between their start and the clearing of the slot. -/
  unique : ∀ id id', s.cache.Active id → s.cache.Active id' → id = id'
  /-- The slot is occupied exactly while there is such a refresh, and by it. -/
  occupied : ∀ id, s.cache.slot = some id ↔ s.cache.Active id
  /-- A refresh that finishes, with whatever outcome, clears its own entry. -/
  clears : ∀ id t, s.step (.finish id) = some t → s.cache.slot = some id ∧ t.cache.slot = none
  /-- Nothing else touches an entry. -/
  stays : ∀ event t id, s.step event = some t → s.cache.slot = some id →
    (∀ j, event ≠ .finish j) → t.cache.slot = some id
  /-- A refresh in the slot gets to its end even if no caller ever takes a step again. -/
  drains : ∀ id, s.cache.slot = some id → s.Drains id
  /-- A caller never waits for its turn to join. It waits for the refresh in the slot, which is
  a fresh one if the slot was empty. -/
  joins : ∀ i now, s.beginsRefresh (.proceed i now) = true → ∃ t caller,
    s.step (.proceed i now) = some t ∧ t.callers[i]? = some caller ∧
      caller.waitingFor = t.cache.slot ∧
        (∀ id, s.cache.slot = some id → t.cache = s.cache) ∧
          (s.cache.slot = none → t.cache.slot = some s.cache.refreshes.length ∧
            t.cache.refreshes = s.cache.refreshes ++ [.queued])
  /-- There are no more fetches than calls. -/
  fetches : events.countP Event.isGrant ≤ (opening cache).refreshCalls events

/-- Single flight in every state of every run. -/
theorem single_flight {settings : CacheSettings} {fetched : Except CacheError KeySet}
    {cache : Cache} (hstart : Cache.start settings fetched = .ok cache)
    {events : List (Event α)} {s : System α} (hrun : (opening cache).run events = some s) :
    SingleFlight cache events s := by
  have hc : s.cache.Coherent := coherent_of_opening hstart hrun
  obtain ⟨keys, -, -, rfl⟩ := Cache.start_eq_ok_iff.mp hstart
  refine { unique := ?_, occupied := hc.slot_iff, clears := ?_, stays := ?_, drains := ?_,
           joins := ?_, fetches := ?_ }
  · intro id id' h h'
    have hslot := (hc.slot_iff id).mpr h
    rw [(hc.slot_iff id').mpr h'] at hslot
    exact (Option.some.inj hslot).symm
  · intro id t hstep
    exact (effect_of_step hstep).slot_of_finish hc
  · intro event t id hstep hslot hne
    exact (effect_of_step hstep).slot_stays hslot hne
  · intro id hslot
    exact drains_of_slot hc hslot
  · intro i now hbegins
    obtain ⟨t, caller, hstep, hcache, hcaller, hwaits⟩ := step_of_beginsRefresh hbegins
    refine ⟨t, caller, hstep, hcaller, hwaits, fun id hslot => ?_, fun hempty => ?_⟩
    · rw [hcache, Cache.joinOrStart_of_slot hslot]
    · rw [hcache, Cache.joinOrStart_of_empty hempty]
      exact ⟨rfl, rfl⟩
  · have hfetched := fetched_of_run hrun
    have hlength := length_of_run hrun
    have hle := List.countP_le_length (p := RefreshStage.hasFetched) (l := s.cache.refreshes)
    simp only [opening, Cache.initial, List.countP_nil, List.length_nil] at hfetched hlength
    simp only [opening, Cache.initial]
    omega

/-- Two callers share a refresh that the first of them starts, gives up, and that times out. -/
def sharedTimeout : List (Event (Except CacheError VerificationKey)) :=
  [.call (.refresh (some "b")), .call (.refresh (some "c")), .proceed 0 .epoch, .proceed 1 .epoch,
    .cancel 0, .proceed 0 .epoch, .grant 0, .timeOut 0, .finish 0, .proceed 1 .epoch]

theorem single_flight_sharedTimeout :
    let cache := Cache.initial ⟨.ofSeconds 5, .ofSeconds 1, false⟩ ⟨[.blank "a"]⟩
    ∃ s, (opening cache).run sharedTimeout = some s ∧ SingleFlight cache sharedTimeout s ∧
      s.cache.slot = none ∧ (opening cache).refreshCalls sharedTimeout = 2 ∧
        sharedTimeout.countP Event.isGrant = 1 := by
  intro cache
  have hstart : Cache.start ⟨.ofSeconds 5, .ofSeconds 1, false⟩ (.ok ⟨[.blank "a"]⟩) = .ok cache :=
    rfl
  have hslot : ((opening (.initial ⟨.ofSeconds 5, .ofSeconds 1, false⟩ ⟨[.blank "a"]⟩)).run
      sharedTimeout).map (fun s => s.cache.slot) = some none := by decide +kernel
  obtain ⟨s, hrun, hnone⟩ := Option.map_eq_some_iff.mp hslot
  have hcalls : (opening (.initial ⟨.ofSeconds 5, .ofSeconds 1, false⟩ ⟨[.blank "a"]⟩)).refreshCalls
      sharedTimeout = 2 := by decide +kernel
  exact ⟨s, hrun, single_flight hstart hrun, hnone, hcalls, rfl⟩

end System
end BearerAuth
