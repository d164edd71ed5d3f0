import BearerAuth.Proofs.Cache.Runs

/-!
# The snapshot along a run

The snapshot that readers see is the last complete key set that a refresh installed, with the
number of refreshes that have succeeded. Everything else that can happen, failures and late
replies included, leaves it alone.
-/
namespace BearerAuth

variable {α : Type}

/-- A key with nothing to it but its identifier. -/
def VerificationKey.blank (kid : String) : VerificationKey := ⟨some kid, none, .secret []⟩

def Instant.epoch : Instant := ⟨0, 0, nanosPerSecond_pos, by decide, by decide⟩

/-- The key set that an event installs: a reply in time that may be used in the given mode. -/
def Event.usableKeys? (keyIdDisabled : Bool) : Event α → Option KeySet
  | .answer _ (.ok keys) => if keyIdDisabled ∧ 1 < keys.keys.length then none else some keys
  | _ => none

/-- The key sets that a run installs, in their order. -/
def installed (keyIdDisabled : Bool) (events : List (Event α)) : List KeySet :=
  events.filterMap (Event.usableKeys? keyIdDisabled)

theorem length_le_of_usableKeys? {keyIdDisabled : Bool} {event : Event α} {keys : KeySet}
    (h : event.usableKeys? keyIdDisabled = some keys) (hd : keyIdDisabled = true) :
    keys.keys.length ≤ 1 := by
  unfold Event.usableKeys? at h
  split at h
  · next keys' =>
    by_cases hlt : 1 < keys'.keys.length
    · simp [hd, hlt] at h
    · simp only [hlt, and_false, if_false, Option.some.injEq] at h
      subst h
      omega
  · cases h

namespace Cache

theorem outcomeOf_ok {cache : Cache} {keys : KeySet}
    (h : ¬ (cache.settings.keyIdDisabled = true ∧ 1 < keys.keys.length)) :
    cache.outcomeOf (.ok keys) = .ok ⟨keys, cache.snapshot.refreshCount + 1⟩ := by
  have hc : checkUnambiguous cache.settings.keyIdDisabled keys = .ok keys := if_neg h
  simp [outcomeOf, Except.bind, hc, Except.map]

theorem outcomeOf_ambiguous {cache : Cache} {keys : KeySet}
    (h : cache.settings.keyIdDisabled = true ∧ 1 < keys.keys.length) :
    cache.outcomeOf (.ok keys) = .error (.ambiguousKeySet keys.keys.length) := by
  simp [outcomeOf, Except.bind, checkUnambiguous_of_ambiguous h.1 h.2, Except.map]

@[simp] theorem outcomeOf_error (cache : Cache) (error : CacheError) :
    cache.outcomeOf (.error error) = .error error := rfl

theorem outcomeOf_eq_ok_iff {cache : Cache} {fetched : Except CacheError KeySet}
    {snapshot : Snapshot} :
    cache.outcomeOf fetched = .ok snapshot ↔ ∃ keys, fetched = .ok keys ∧
      ¬ (cache.settings.keyIdDisabled = true ∧ 1 < keys.keys.length) ∧
        snapshot = ⟨keys, cache.snapshot.refreshCount + 1⟩ := by
  cases fetched with
  | error error => simp
  | ok keys =>
    by_cases h : cache.settings.keyIdDisabled = true ∧ 1 < keys.keys.length
    · rw [outcomeOf_ambiguous h]
      constructor
      · intro he
        cases he
      · rintro ⟨keys', he, hn, -⟩
        cases he
        exact absurd h hn
    · rw [outcomeOf_ok h]
      constructor
      · intro he
        cases he
        exact ⟨keys, rfl, h, rfl⟩
      · rintro ⟨keys', he, -, rfl⟩
        cases he
        rfl

/-- What a refresh comes to, by what it fetches, and the snapshot that it leaves. -/
inductive Leaves (cache : Cache) : Except CacheError KeySet → RefreshOutcome → Snapshot → Prop
  | installed (keys : KeySet)
      (sole : cache.settings.keyIdDisabled = true → keys.keys.length ≤ 1) :
    Leaves cache (.ok keys) (.ok ⟨keys, cache.snapshot.refreshCount + 1⟩)
      ⟨keys, cache.snapshot.refreshCount + 1⟩
  | ambiguous (keys : KeySet) (disabled : cache.settings.keyIdDisabled = true)
      (several : 1 < keys.keys.length) :
    Leaves cache (.ok keys) (.error (.ambiguousKeySet keys.keys.length)) cache.snapshot
  | failed (error : CacheError) : Leaves cache (.error error) (.error error) cache.snapshot

theorem leaves_outcomeOf (cache : Cache) (fetched : Except CacheError KeySet) :
    cache.Leaves fetched (cache.outcomeOf fetched)
      (snapshotAfter (cache.outcomeOf fetched) cache.snapshot) := by
  cases fetched with
  | error error => exact .failed error
  | ok keys =>
    by_cases h : cache.settings.keyIdDisabled = true ∧ 1 < keys.keys.length
    · rw [outcomeOf_ambiguous h]
      exact .ambiguous keys h.1 h.2
    · rw [outcomeOf_ok h]
      exact .installed keys fun hdisabled => Nat.le_of_not_lt (not_and.mp h hdisabled)

/-- The counter counts the refreshes that have succeeded. -/
def Counts (cache : Cache) : Prop :=
  cache.snapshot.refreshCount = cache.refreshes.countP RefreshStage.hasSucceeded

theorem Counts.settle {cache : Cache} (hc : cache.Counts) {id : Nat}
    (fetching : cache.refreshes[id]? = some .fetching) (fetched : Except CacheError KeySet) :
    Counts { cache.install (cache.outcomeOf fetched) with
      refreshes := cache.refreshes.set id (.settled (cache.outcomeOf fetched)) } := by
  have hset := countP_set_add (p := RefreshStage.hasSucceeded)
    (b := .settled (cache.outcomeOf fetched)) fetching
  unfold Counts at hc ⊢
  cases ho : cache.outcomeOf fetched with
  | error error =>
    rw [ho] at hset
    exact hc.trans hset.symm
  | ok snapshot =>
    rw [ho] at hset
    obtain ⟨keys, -, -, rfl⟩ := outcomeOf_eq_ok_iff.mp ho
    rw [install_ok_snapshot]
    exact (congrArg (· + 1) hc).trans hset.symm

theorem Move.counts {cache next : Cache} (move : cache.Move next) (hc : cache.Counts) :
    next.Counts := by
  cases move with
  | rest => exact hc
  | start empty =>
    simpa [Counts, RefreshStage.hasSucceeded, RefreshStage.outcome?] using hc
  | grant id queued due =>
    exact hc.trans (countP_set_same (b := .fetching) queued rfl).symm
  | settle id fetched fetching => exact hc.settle fetching fetched
  | finish id outcome settled =>
    exact hc.trans (countP_set_same (b := .finished outcome) settled rfl).symm
  | tick nanos => exact hc

/-- The move in which a refresh fails installs nothing. -/
theorem Move.snapshot_of_error {cache next : Cache} (move : cache.Move next) {id : Nat}
    {error : CacheError} (hold : cache.outcome? id = none)
    (hnew : next.outcome? id = some (.error error)) : next.snapshot = cache.snapshot := by
  cases move with
  | settle j fetched fetching =>
    rw [outcome?_restaged fetching rfl] at hnew
    split at hnew
    · have ho : cache.outcomeOf fetched = .error error := Option.some.inj hnew
      simp only [ho, install_error_snapshot]
    · rw [hold] at hnew
      cases hnew
  | _ => rfl

end Cache

namespace System

/-- An event replaces the snapshot as a whole or leaves it as it is. -/
theorem Effect.snapshot_eq {s : System α} {event : Event α} {next : Cache}
    (h : s.Effect event next) :
    next.snapshot =
      match event.usableKeys? s.cache.settings.keyIdDisabled with
      | some keys => ⟨keys, s.cache.snapshot.refreshCount + 1⟩
      | none => s.cache.snapshot := by
  cases h with
  | answer id fetched fetching =>
    cases fetched with
    | error error => rfl
    | ok keys =>
      unfold Event.usableKeys?
      by_cases hu : s.cache.settings.keyIdDisabled = true ∧ 1 < keys.keys.length
      · simp only [Cache.outcomeOf_ambiguous hu, Cache.install_error_snapshot, if_pos hu]
      · simp only [Cache.outcomeOf_ok hu, Cache.install_ok_snapshot, if_neg hu]
  | _ => rfl

theorem snapshot_of_run {s t : System α} {events : List (Event α)} (hrun : s.run events = some t) :
    t.cache.snapshot =
      ⟨(installed s.cache.settings.keyIdDisabled events).getLastD s.cache.snapshot.keys,
        s.cache.snapshot.refreshCount +
          (installed s.cache.settings.keyIdDisabled events).length⟩ := by
  induction events generalizing s with
  | nil =>
    cases hrun
    rfl
  | cons event events ih =>
    obtain ⟨m, hm, hrest⟩ := run_cons_eq_some_iff.mp hrun
    have hmode : m.cache.settings = s.cache.settings := (move_of_step hm).settings_eq
    have hsnap := (effect_of_step hm).snapshot_eq
    rw [ih hrest, hmode, hsnap]
    unfold installed
    rw [List.filterMap_cons]
    cases event.usableKeys? s.cache.settings.keyIdDisabled with
    | none => rfl
    | some keys =>
      simp only [List.getLastD_cons, List.length_cons, Snapshot.mk.injEq, true_and]
      omega

theorem outcome_stays {s t : System α} {events : List (Event α)} (hrun : s.run events = some t)
    {id : Nat} {outcome : RefreshOutcome} (h : s.cache.outcome? id = some outcome) :
    t.cache.outcome? id = some outcome :=
  run_keeps_cache (P := fun cache => cache.outcome? id = some outcome) hrun h
    fun _ _ move hc => move.outcome_stays hc

theorem Effect.outcome_of_timeOut {s : System α} {id : Nat} {next : Cache}
    (h : s.Effect (.timeOut id) next) :
    next.outcome? id = some (.error (.timeout s.cache.settings.fetchTimeout)) := by
  cases h with
  | timeOut id fetching =>
    rw [Cache.outcome?_restaged fetching rfl, if_pos rfl]
    rfl

/-- Only a refresh without an outcome listens to a reply. -/
theorem Effect.outcome_of_answer {s : System α} {id : Nat} {fetched : Except CacheError KeySet}
    {next : Cache} (h : s.Effect (.answer id fetched) next) : s.cache.outcome? id = none := by
  cases h with
  | answer id fetched fetching => simp [Cache.outcome?, fetching, RefreshStage.outcome?]

theorem answer_of_outcome {s : System α} {id : Nat} {outcome : RefreshOutcome}
    (h : s.cache.outcome? id = some outcome) (fetched : Except CacheError KeySet) :
    s.step (.answer id fetched) = none := by
  cases hstep : s.step (.answer id fetched) with
  | none => rfl
  | some t =>
    rw [(effect_of_step hstep).outcome_of_answer] at h
    cases h

theorem outcome_of_mem_timeOut {s t : System α} {events : List (Event α)}
    (hrun : s.run events = some t) {id : Nat} (h : .timeOut id ∈ events) :
    t.cache.outcome? id = some (.error (.timeout s.cache.settings.fetchTimeout)) := by
  obtain ⟨before, after, rfl⟩ := List.append_of_mem h
  obtain ⟨a, ha, hrest⟩ := run_append_eq_some_iff.mp hrun
  obtain ⟨b, hb, hafter⟩ := run_cons_eq_some_iff.mp hrest
  rw [← settings_of_run ha]
  exact outcome_stays hafter (effect_of_step hb).outcome_of_timeOut

/-- What the events of a run say about the snapshot in the state `s` they lead to, for a cache
that was made around the key set `first`. -/
structure SnapshotHistory (settings : CacheSettings) (first : KeySet) (events : List (Event α))
    (s : System α) : Prop where
  /-- The counter counts the refreshes that have succeeded. -/
  counts : s.cache.snapshot.refreshCount = s.cache.refreshes.countP RefreshStage.hasSucceeded
  /-- So a counter of sixty-four bits holds it for fewer than `2 ^ 64` refreshes. -/
  bounded : s.cache.snapshot.refreshCount ≤ s.cache.refreshes.length
  /-- Each success installs one key set. -/
  numbers : s.cache.snapshot.refreshCount = (installed settings.keyIdDisabled events).length
  /-- The keys are all and only those of the last key set installed. -/
  latest : s.cache.snapshot.keys = (installed settings.keyIdDisabled events).getLastD first
  /-- Any other event leaves the snapshot as it is. -/
  kept : ∀ event t, s.step event = some t → event.usableKeys? settings.keyIdDisabled = none →
    t.cache.snapshot = s.cache.snapshot
  /-- So does the step in which a refresh fails, for whatever reason. -/
  failed : ∀ event t id error, s.step event = some t → s.cache.outcome? id = none →
    t.cache.outcome? id = some (.error error) → t.cache.snapshot = s.cache.snapshot
  /-- A reply after the timeout comes to nothing. -/
  late : ∀ id fetched, .timeOut id ∈ events → s.step (.answer id fetched) = none
  /-- Later reads see no smaller counter, and under the same counter the same keys. -/
  reads : ∀ more t, s.run more = some t →
    s.cache.snapshot.refreshCount ≤ t.cache.snapshot.refreshCount ∧
      (s.cache.snapshot.refreshCount = t.cache.snapshot.refreshCount →
        t.cache.snapshot = s.cache.snapshot ∧
          ∀ kid, t.cache.lookup kid = s.cache.lookup kid)
  sole : settings.keyIdDisabled = true → s.cache.snapshot.keys.keys.length ≤ 1

theorem length_getLastD_installed_le {keyIdDisabled : Bool} {first : KeySet}
    (hfirst : keyIdDisabled = true → first.keys.length ≤ 1) (events : List (Event α))
    (hd : keyIdDisabled = true) :
    ((installed keyIdDisabled events).getLastD first).keys.length ≤ 1 := by
  have hall : ∀ keys ∈ installed keyIdDisabled events, keys.keys.length ≤ 1 := by
    intro keys hkeys
    obtain ⟨event, -, he⟩ := List.mem_filterMap.mp hkeys
    exact length_le_of_usableKeys? he hd
  rw [List.getLastD_eq_getLast?]
  cases hl : (installed keyIdDisabled events).getLast? with
  | none => exact hfirst hd
  | some keys => exact hall keys (List.mem_of_getLast? hl)

/-- As long as nothing is installed, every read gives the same. -/
theorem reads_of_installed_nil {s t : System α} {events : List (Event α)}
    (hrun : s.run events = some t) (hnil : installed s.cache.settings.keyIdDisabled events = []) :
    t.cache.snapshot = s.cache.snapshot ∧ ∀ kid, t.cache.lookup kid = s.cache.lookup kid := by
  have hsame : t.cache.snapshot = s.cache.snapshot := by
    rw [snapshot_of_run hrun, hnil]
    rfl
  refine ⟨hsame, fun kid => ?_⟩
  unfold Cache.lookup
  rw [hsame, settings_of_run hrun]

/-- Reads along a run: the counter never falls, and it does not stand still while the keys
change. -/
theorem reads_of_run {s t : System α} {events : List (Event α)} (hrun : s.run events = some t) :
    s.cache.snapshot.refreshCount ≤ t.cache.snapshot.refreshCount ∧
      (s.cache.snapshot.refreshCount = t.cache.snapshot.refreshCount →
        t.cache.snapshot = s.cache.snapshot ∧
          ∀ kid, t.cache.lookup kid = s.cache.lookup kid) := by
  have hcount := congrArg Snapshot.refreshCount (snapshot_of_run hrun)
  simp only at hcount
  refine ⟨by omega, fun heq => reads_of_installed_nil hrun ?_⟩
  exact List.length_eq_zero_iff.mp (by omega)

/-- A cache comes out of an initial fetch only with a key set that may be used. From then on
every state of every run has the snapshot that its history says. -/
theorem snapshot_history (settings : CacheSettings) (fetched : Except CacheError KeySet) :
    (∀ error, fetched = .error error → Cache.start settings fetched = .error error) ∧
      (∀ keys, fetched = .ok keys → settings.keyIdDisabled = true → 1 < keys.keys.length →
        Cache.start settings fetched = .error (.ambiguousKeySet keys.keys.length)) ∧
      ∀ keys, fetched = .ok keys → (settings.keyIdDisabled = true → keys.keys.length ≤ 1) →
        ∃ cache, Cache.start settings fetched = .ok cache ∧
          ∀ (events : List (Event α)) (s : System α), (opening cache).run events = some s →
            SnapshotHistory settings keys events s := by
  refine ⟨?_, ?_, ?_⟩
  · rintro error rfl
    rfl
  · rintro keys rfl hd hlt
    simp [Cache.start, bind, Except.bind, checkUnambiguous_of_ambiguous hd hlt]
  · rintro keys rfl hsole
    refine ⟨.initial settings keys, Cache.start_eq_ok_iff.mpr ⟨keys, rfl, hsole, rfl⟩, ?_⟩
    intro events s hrun
    have hsettings : s.cache.settings = settings := settings_of_run hrun
    have hsnap : s.cache.snapshot =
        ⟨(installed settings.keyIdDisabled events).getLastD keys,
          0 + (installed settings.keyIdDisabled events).length⟩ := snapshot_of_run hrun
    have hcounts : s.cache.Counts :=
      run_keeps_cache hrun rfl fun _ _ move hc => move.counts hc
    refine { counts := hcounts, bounded := ?_, numbers := ?_, latest := ?_, kept := ?_,
             failed := ?_, late := ?_, reads := ?_, sole := ?_ }
    · exact Nat.le_trans (Nat.le_of_eq hcounts) List.countP_le_length
    · rw [hsnap, Nat.zero_add]
    · rw [hsnap]
    · intro event t hstep hnone
      rw [(effect_of_step hstep).snapshot_eq, hsettings, hnone]
    · intro event t id error hstep hold hnew
      exact (move_of_step hstep).snapshot_of_error hold hnew
    · intro id late hmem
      exact answer_of_outcome (outcome_of_mem_timeOut hrun hmem) late
    · intro more t hmore
      exact reads_of_run hmore
    · intro hd
      rw [hsnap]
      exact length_getLastD_installed_le hsole events hd

/-- A reply with a status, a timeout, and then a new key. -/
def rotation : List (Event (Except CacheError VerificationKey)) :=
  [.call (.refresh none), .proceed 0 .epoch, .grant 0, .answer 0 (.error (.status 503)), .finish 0,
    .call (.refresh none), .proceed 1 .epoch, .grant 1, .timeOut 1, .finish 1,
    .call (.refresh none), .proceed 2 .epoch, .grant 2, .answer 2 (.ok ⟨[.blank "b"]⟩), .finish 2]

theorem snapshot_history_rotation :
    let settings : CacheSettings := ⟨.ofSeconds 5, .ofSeconds 0, true⟩
    ∃ cache s, Cache.start settings (.ok ⟨[.blank "a"]⟩) = .ok cache ∧
      (opening cache).run rotation = some s ∧
        SnapshotHistory settings ⟨[.blank "a"]⟩ rotation s ∧
          s.cache.snapshot = ⟨⟨[.blank "b"]⟩, 1⟩ := by
  intro settings
  obtain ⟨-, -, hstart⟩ := snapshot_history (α := Except CacheError VerificationKey) settings
    (.ok ⟨[.blank "a"]⟩)
  obtain ⟨cache, hcache, hruns⟩ := hstart ⟨[.blank "a"]⟩ rfl fun _ => Nat.le_refl 1
  cases hcache
  have hrun : ((opening (.initial ⟨.ofSeconds 5, .ofSeconds 0, true⟩ ⟨[.blank "a"]⟩)).run
      rotation).isSome = true := by decide +kernel
  obtain ⟨s, hs⟩ := Option.isSome_iff_exists.mp hrun
  exact ⟨_, s, rfl, hs, hruns rotation s hs, snapshot_of_run hs⟩

end System
end BearerAuth
