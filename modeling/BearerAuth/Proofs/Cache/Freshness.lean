import BearerAuth.Proofs.Cache.Snapshots

/-!
# Freshness of a refresh

A caller of a refresh is answered from the snapshot that the refresh it joined has made, and
may look at the answer at any later time. That snapshot was still to come when the caller
joined, or it was the current one: a refresh in the slot has not been overtaken. So what the
answer says about a key was true of the current snapshot at some moment of the call.
-/
namespace BearerAuth

variable {α : Type}

namespace Cache

/-- Whatever snapshot the refresh `id` has brought so far, it is one of `W`. -/
def BringsOf (cache : Cache) (id : Nat) (W : Snapshot → Prop) : Prop :=
  ∀ snapshot, cache.outcome? id = some (.ok snapshot) → W snapshot

/-- A refresh that can be joined has brought nothing yet, or the current snapshot. -/
theorem Coherent.bringsOf_joined {cache : Cache} (hc : cache.Coherent) {W : Snapshot → Prop}
    (hcurrent : W cache.snapshot) : cache.joinOrStart.2.BringsOf cache.joinOrStart.1 W := by
  intro snapshot houtcome
  cases hslot : cache.slot with
  | none =>
    rw [joinOrStart_of_empty hslot, outcome?_started rfl] at houtcome
    simp [outcome?] at houtcome
  | some id =>
    rw [joinOrStart_of_slot hslot] at houtcome
    rwa [← hc.current id snapshot hslot houtcome]

/-- It brings what it will bring as the current snapshot. -/
theorem Move.bringsOf {cache next : Cache} (move : cache.Move next) {id : Nat}
    {W : Snapshot → Prop} (h : cache.BringsOf id W) (hcurrent : W next.snapshot) :
    next.BringsOf id W := by
  intro snapshot houtcome
  rcases move.outcome_new houtcome with hold | hnew
  · exact h snapshot hold
  · rwa [← hnew]

/-- An answer from an outcome: a key out of the snapshot it brings, the lack of one there, or
the error of the refresh. -/
theorem resolveOutcome_eq_ok_iff {cache : Cache} {kid : Option String} {outcome : RefreshOutcome}
    {key : VerificationKey} :
    cache.resolveOutcome kid outcome = .ok key ↔ ∃ snapshot, outcome = .ok snapshot ∧
      snapshot.resolve cache.settings.keyIdDisabled kid = some key := by
  cases outcome with
  | error error => simp [resolveOutcome]
  | ok snapshot =>
    cases hk : snapshot.resolve cache.settings.keyIdDisabled kid with
    | none => simp [resolveOutcome, hk]
    | some key' => simp [resolveOutcome, hk]

theorem resolveOutcome_eq_error_iff {cache : Cache} {kid : Option String}
    {outcome : RefreshOutcome} {error : CacheError} :
    cache.resolveOutcome kid outcome = .error error ↔ outcome = .error error ∨
      error = .keyNotFound kid ∧ ∃ snapshot, outcome = .ok snapshot ∧
        snapshot.resolve cache.settings.keyIdDisabled kid = none := by
  cases outcome with
  | error error => simp [resolveOutcome]
  | ok snapshot =>
    cases hk : snapshot.resolve cache.settings.keyIdDisabled kid with
    | none => simp [resolveOutcome, hk, eq_comm]
    | some key' => simp [resolveOutcome, hk]

/-- Only a fetch that fails with it makes a refresh fail with the error for an unknown key. -/
theorem fetched_of_keyNotFound {cache : Cache} {fetched : Except CacheError KeySet}
    {kid : Option String} (h : cache.outcomeOf fetched = .error (.keyNotFound kid)) :
    fetched = .error (.keyNotFound kid) := by
  cases fetched with
  | error error =>
    rw [outcomeOf_error] at h
    cases h
    rfl
  | ok keys =>
    by_cases hu : cache.settings.keyIdDisabled = true ∧ 1 < keys.keys.length
    · rw [outcomeOf_ambiguous hu] at h
      cases h
    · rw [outcomeOf_ok hu] at h
      cases h

end Cache

namespace System

/-- The current snapshot at some moment of a run. -/
def WasCurrent (s : System α) (events : List (Event α)) (snapshot : Snapshot) : Prop :=
  ∃ m, s.Visits events m ∧ m.cache.snapshot = snapshot

theorem lookup_of_wasCurrent {s : System α} {events : List (Event α)} {snapshot : Snapshot}
    (h : s.WasCurrent events snapshot) (kid : Option String) :
    ∃ m, s.Visits events m ∧
      m.cache.lookup kid = snapshot.resolve s.cache.settings.keyIdDisabled kid := by
  obtain ⟨m, hm, hsnap⟩ := h
  obtain ⟨before, after, -, hrun⟩ := id hm
  refine ⟨m, hm, ?_⟩
  unfold Cache.lookup
  rw [hsnap, settings_of_run hrun]

theorem Effect.answer_of_keyNotFound {s : System α} {event : Event α} {next : Cache}
    (h : s.Effect event next) {id : Nat} {kid : Option String}
    (hnew : next.outcome? id = some (.error (.keyNotFound kid))) :
    s.cache.outcome? id = some (.error (.keyNotFound kid)) ∨
      event = .answer id (.error (.keyNotFound kid)) := by
  cases h with
  | start i now begins empty =>
    rw [Cache.outcome?_started rfl] at hnew
    exact .inl hnew
  | grant j queued due =>
    rw [Cache.outcome?_restaged_same .fetching queued rfl rfl] at hnew
    exact .inl hnew
  | answer j fetched fetching =>
    rw [Cache.outcome?_restaged fetching rfl] at hnew
    split at hnew
    · next hj =>
      subst hj
      rw [Cache.fetched_of_keyNotFound (Option.some.inj hnew)]
      exact .inr rfl
    · exact .inl hnew
  | timeOut j fetching =>
    rw [Cache.outcome?_restaged fetching rfl] at hnew
    split at hnew
    · cases hnew
    · exact .inl hnew
  | finish j outcome settled =>
    rw [Cache.outcome?_restaged_same (.finished outcome) settled rfl rfl] at hnew
    exact .inl hnew
  | _ => exact .inl hnew

theorem mem_of_keyNotFound {cache : Cache} (hnone : cache.refreshes = []) {s : System α}
    {events : List (Event α)} (hrun : (opening cache).run events = some s) {id : Nat}
    {kid : Option String} (h : s.cache.outcome? id = some (.error (.keyNotFound kid))) :
    .answer id (.error (.keyNotFound kid)) ∈ events := by
  revert h
  refine run_keeps (P := fun m => m.cache.outcome? id = some (.error (.keyNotFound kid)) →
    .answer id (.error (.keyNotFound kid)) ∈ events) hrun ?_ ?_
  · intro h
    simp [opening, Cache.outcome?, hnone] at h
  · intro a event b _ _ hmem hab ha hb
    rcases (effect_of_step hab).answer_of_keyNotFound hb with hold | rfl
    · exact ha hold
    · exact hmem

/-- A caller who takes no step stays where it is, cancelled or not. -/
theorem caller_of_idle {s t : System α} {events : List (Event α)} (hrun : s.run events = some t)
    {i : Nat} (idle : ∀ now, .proceed i now ∉ events) {inquiry : Inquiry α} {w : Option Nat}
    (hi : ∃ c, s.callers[i]? = some ⟨inquiry, w, c⟩) :
    ∃ c, t.callers[i]? = some ⟨inquiry, w, c⟩ := by
  refine run_keeps (P := fun m => ∃ c, m.callers[i]? = some ⟨inquiry, w, c⟩) hrun hi ?_
  intro a event b _ _ hmem hab ⟨c, ha⟩
  obtain ⟨caller, hb, ⟨rfl, -⟩ | ⟨rfl, -⟩ | ⟨now, rfl, -⟩⟩ := caller_of_step hab ha
  · exact ⟨c, hb⟩
  · exact ⟨true, hb⟩
  · exact absurd hmem (idle now)

/-- While others go on, a refresh brings only what is the current snapshot at some moment. -/
theorem bringsOf_of_run {s t : System α} {events : List (Event α)} (hrun : s.run events = some t)
    {id : Nat} (h : s.cache.BringsOf id (s.WasCurrent events)) :
    t.cache.BringsOf id (s.WasCurrent events) := by
  refine run_keeps (P := fun m => m.cache.BringsOf id (s.WasCurrent events)) hrun h ?_
  intro a event b _ hb _ hab ha
  exact (move_of_step hab).bringsOf ha ⟨b, hb, rfl⟩

/-- A call of refresh by the caller `i`. With its first step the caller joins a refresh, with
its last it returns. In between it takes none, and everyone else as many as they like. -/
structure RefreshCall (i : Nat) (kid : Option String)
    (next : Except CacheError VerificationKey → Inquiry α) (asked joined waited returned : System α)
    (during : List (Event α)) : Prop where
  asks : ∃ cancelled, asked.callers[i]? = some ⟨.ask (.refresh kid) next, none, cancelled⟩
  joins : ∃ now, asked.step (.proceed i now) = some joined
  waits : joined.run during = some waited
  idle : ∀ now, .proceed i now ∉ during
  returns : ∃ now, waited.step (.proceed i now) = some returned

/-- What an answer says about the snapshots that were current while its caller waited for the
refresh `id`. Here `events` are those of the whole run. -/
structure FreshAnswer (joined : System α) (during events : List (Event α)) (kid : Option String)
    (id : Nat) (answer : Except CacheError VerificationKey) : Prop where
  found : ∀ key, answer = .ok key →
    ∃ m, joined.Visits during m ∧ m.cache.lookup kid = some key
  /-- An unknown key was unknown, unless it was the fetch itself that failed with this error,
  which everyone gets who waits for the refresh. -/
  missing : ∀ unknown, answer = .error (.keyNotFound unknown) →
    (unknown = kid ∧ ∃ m, joined.Visits during m ∧ m.cache.lookup kid = none) ∨
      .answer id (.error (.keyNotFound unknown)) ∈ events

theorem refreshCall_of_run {i : Nat} {kid : Option String}
    {next : Except CacheError VerificationKey → Inquiry α} {asked returned : System α}
    {during : List (Event α)} {now now' : Instant}
    (hrun : asked.run (.proceed i now :: during ++ [.proceed i now']) = some returned)
    (asks : asked.callers[i]? = some ⟨.ask (.refresh kid) next, none, false⟩)
    (idle : ∀ now, .proceed i now ∉ during) :
    ∃ joined waited, RefreshCall i kid next asked joined waited returned during := by
  obtain ⟨joined, hjoin, hrest⟩ := run_cons_eq_some_iff.mp hrun
  obtain ⟨waited, hwait, hlast⟩ := run_append_eq_some_iff.mp hrest
  obtain ⟨last, hreturn, hlast⟩ := run_cons_eq_some_iff.mp hlast
  cases hlast
  exact ⟨joined, waited, ⟨false, asks⟩, ⟨now, hjoin⟩, hwait, idle, now', hreturn⟩

theorem RefreshCall.joined {i : Nat} {kid : Option String}
    {next : Except CacheError VerificationKey → Inquiry α} {asked joined waited returned : System α}
    {during : List (Event α)} (call : RefreshCall i kid next asked joined waited returned during) :
    joined.cache = asked.cache.joinOrStart.2 ∧ ∃ cancelled, joined.callers[i]? =
      some ⟨.ask (.refresh kid) next, some asked.cache.joinOrStart.1, cancelled⟩ := by
  obtain ⟨c, hi⟩ := call.asks
  obtain ⟨now, hstep⟩ := call.joins
  obtain ⟨caller, hj, ⟨-, hne⟩ | ⟨-, hne⟩ | ⟨_, _, hp⟩⟩ := caller_of_step hstep hi
  · exact absurd rfl (hne now)
  · cases hne
  · generalize joined.cache = cache at hp
    cases hp with
    | join => exact ⟨rfl, c, hj⟩

theorem freshAnswer_of_outcome {joined waited : System α} {during events : List (Event α)}
    (hwaits : joined.run during = some waited) {id : Nat} {outcome : RefreshOutcome}
    (houtcome : waited.cache.outcome? id = some outcome)
    (hbrings : waited.cache.BringsOf id (joined.WasCurrent during))
    (hfetch : ∀ unknown, outcome = .error (.keyNotFound unknown) →
      .answer id (.error (.keyNotFound unknown)) ∈ events) (kid : Option String) :
    FreshAnswer joined during events kid id (waited.cache.resolveOutcome kid outcome) where
  found key h := by
    obtain ⟨snapshot, rfl, hkey⟩ := Cache.resolveOutcome_eq_ok_iff.mp h
    obtain ⟨m, hm, hlookup⟩ := lookup_of_wasCurrent (hbrings snapshot houtcome) kid
    rw [settings_of_run hwaits] at hkey
    exact ⟨m, hm, hlookup.trans hkey⟩
  missing unknown h := by
    rcases Cache.resolveOutcome_eq_error_iff.mp h with herror | ⟨he, snapshot, rfl, hnone⟩
    · exact .inr (hfetch unknown herror)
    · obtain ⟨m, hm, hlookup⟩ := lookup_of_wasCurrent (hbrings snapshot houtcome) kid
      rw [settings_of_run hwaits] at hnone
      cases he
      exact .inl ⟨rfl, m, hm, hlookup.trans hnone⟩

/-- Every call of refresh that returns gives a fresh answer, in every run. -/
theorem fresh_of_refreshCall {settings : CacheSettings} {fetched : Except CacheError KeySet}
    {cache : Cache} (hstart : Cache.start settings fetched = .ok cache)
    {before : List (Event α)} {asked : System α} (hrun : (opening cache).run before = some asked)
    {i : Nat} {kid : Option String} {next : Except CacheError VerificationKey → Inquiry α}
    {joined waited returned : System α} {during : List (Event α)}
    (call : RefreshCall i kid next asked joined waited returned during) :
    ∃ id answer,
      (∃ c, joined.callers[i]? = some ⟨.ask (.refresh kid) next, some id, c⟩) ∧
        (∃ c, returned.callers[i]? = some ⟨next answer, none, c⟩) ∧
          FreshAnswer joined during (before ++ during) kid id answer := by
  have hc : asked.cache.Coherent := coherent_of_opening hstart hrun
  obtain ⟨keys, -, -, rfl⟩ := Cache.start_eq_ok_iff.mp hstart
  obtain ⟨hjoined, hcaller⟩ := call.joined
  obtain ⟨c, hwaits⟩ := caller_of_idle call.waits call.idle hcaller
  -- the snapshot that is current at the join is that of the state after it
  have hcurrent : joined.WasCurrent during asked.cache.snapshot :=
    ⟨joined, visits_start joined during, by rw [hjoined, Cache.joinOrStart_snapshot]⟩
  have hbrings : waited.cache.BringsOf asked.cache.joinOrStart.1 (joined.WasCurrent during) := by
    refine bringsOf_of_run call.waits ?_
    rw [hjoined]
    exact hc.bringsOf_joined hcurrent
  have hfetch (unknown : Option String) (h : waited.cache.outcome? asked.cache.joinOrStart.1 =
      some (.error (.keyNotFound unknown))) : .answer asked.cache.joinOrStart.1
        (.error (.keyNotFound unknown)) ∈ before ++ during := by
    obtain ⟨now, hstep⟩ := call.joins
    have hwhole := run_append_eq_some_iff.mpr
      ⟨asked, hrun, run_cons_eq_some_iff.mpr ⟨joined, hstep, call.waits⟩⟩
    simpa using mem_of_keyNotFound rfl hwhole h
  obtain ⟨now, hstep⟩ := call.returns
  obtain ⟨caller, hi, ⟨-, hne⟩ | ⟨-, hne⟩ | ⟨_, _, hp⟩⟩ := caller_of_step hstep hwaits
  · exact absurd rfl (hne now)
  · cases hne
  · generalize returned.cache = last at hp
    cases hp with
    | giveUp =>
      exact ⟨_, .error .cancelled, hcaller, ⟨true, hi⟩, nofun, nofun⟩
    | learn kid next id outcome finished =>
      have houtcome : waited.cache.outcome? asked.cache.joinOrStart.1 = some outcome := by
        simp [Cache.outcome?, finished, RefreshStage.outcome?]
      refine ⟨_, _, hcaller, ⟨false, hi⟩, freshAnswer_of_outcome call.waits houtcome hbrings ?_ kid⟩
      rintro unknown rfl
      exact hfetch unknown houtcome

/-- A refresh has replaced the snapshot, but it has not finished. -/
def swapped : List (Event (Except CacheError VerificationKey)) :=
  [.call (.refresh none), .proceed 0 .epoch, .grant 0, .answer 0 (.ok ⟨[.blank "b"]⟩)]

/-- It finishes, and the next one replaces the snapshot again. -/
def overtaken : List (Event (Except CacheError VerificationKey)) :=
  [.finish 0, .call (.refresh none), .proceed 2 .epoch, .grant 1,
    .answer 1 (.ok ⟨[.blank "c"]⟩), .finish 1]

/-- A caller joins between the swap and the clearing of the slot, and looks at its answer when
its key is gone from the cache. -/
theorem fresh_of_refreshCall_overtaken :
    let cache := Cache.initial ⟨.ofSeconds 5, .ofSeconds 0, false⟩ ⟨[.blank "a"]⟩
    let before := swapped ++ [.call (.refresh (some "b"))]
    ∃ asked joined waited returned id, (opening cache).run before = some asked ∧
      RefreshCall 1 (some "b") .done asked joined waited returned overtaken ∧
        FreshAnswer joined overtaken (before ++ overtaken) (some "b") id (.ok (.blank "b")) ∧
          returned.cache.lookup (some "b") = none := by
  intro cache before
  have hstart : Cache.start ⟨.ofSeconds 5, .ofSeconds 0, false⟩ (.ok ⟨[.blank "a"]⟩) = .ok cache :=
    rfl
  have hcallers : ((opening (.initial ⟨.ofSeconds 5, .ofSeconds 0, false⟩ ⟨[.blank "a"]⟩)).run
      swapped).map (fun s => s.callers.length) = some 1 := by decide +kernel
  obtain ⟨s, hs, hlength⟩ := Option.map_eq_some_iff.mp hcallers
  have hend : ((opening (.initial ⟨.ofSeconds 5, .ofSeconds 0, false⟩ ⟨[.blank "a"]⟩)).run
      (swapped ++ .call (.refresh (some "b")) ::
        (.proceed 1 .epoch :: overtaken ++ [.proceed 1 .epoch]))).map
          (fun t => (t.callers[1]?.bind Caller.result?, t.cache.lookup (some "b"))) =
        some (some (.ok (.blank "b")), none) := by decide +kernel
  obtain ⟨returned, hall, hend⟩ := Option.map_eq_some_iff.mp hend
  obtain ⟨hresult, hgone⟩ := Prod.mk.inj hend
  obtain ⟨s', hs', hrest⟩ := run_append_eq_some_iff.mp hall
  obtain rfl : s = s' := Option.some.inj (hs.symm.trans hs')
  obtain ⟨asked, hcall, hrest⟩ := run_cons_eq_some_iff.mp hrest
  have hasked : (opening cache).run before = some asked :=
    run_append_eq_some_iff.mpr ⟨s, hs, run_cons_eq_some_iff.mpr ⟨asked, hcall, rfl⟩⟩
  have hasks : asked.callers[1]? = some ⟨.ask (.refresh (some "b")) .done, none, false⟩ := by
    cases hcall
    rw [← hlength, List.getElem?_concat_length]
    rfl
  obtain ⟨joined, waited, call⟩ := refreshCall_of_run hrest hasks (by simp [overtaken])
  obtain ⟨id, answer, -, ⟨c, hreturned⟩, hfresh⟩ := fresh_of_refreshCall hstart hasked call
  rw [hreturned] at hresult
  cases hresult
  exact ⟨asked, joined, waited, returned, id, hasked, call, hfresh, hgone⟩

/-- The next fetch fails as if a key were unknown. -/
def misreported : List (Event (Except CacheError VerificationKey)) :=
  [.grant 0, .answer 0 (.error (.keyNotFound (some "a"))), .finish 0]

/-- Without the exception for fetches the answer need not be fresh: a call ends with an unknown
key that every snapshot of its time resolves. -/
theorem refresh_misreported :
    let cache := Cache.initial ⟨.ofSeconds 5, .ofSeconds 0, false⟩ ⟨[.blank "a"]⟩
    Cache.start ⟨.ofSeconds 5, .ofSeconds 0, false⟩ (.ok ⟨[.blank "a"]⟩) = .ok cache ∧
      ∃ asked joined waited returned,
        (opening cache).run [.call (.refresh (some "a"))] = some asked ∧
          RefreshCall 0 (some "a") .done asked joined waited returned misreported ∧
            returned.callers[0]?.bind Caller.result? = some (.error (.keyNotFound (some "a"))) ∧
              ∀ m, joined.Visits misreported m →
                m.cache.lookup (some "a") = some (.blank "a") := by
  intro cache
  refine ⟨rfl, ?_⟩
  have hend : ((opening (.initial ⟨.ofSeconds 5, .ofSeconds 0, false⟩ ⟨[.blank "a"]⟩)).run
      (.call (.refresh (some "a")) :: (.proceed 0 .epoch :: misreported ++
        [.proceed 0 .epoch]))).map (fun t => t.callers[0]?.bind Caller.result?) =
          some (some (.error (.keyNotFound (some "a")))) := by decide +kernel
  obtain ⟨returned, hall, hresult⟩ := Option.map_eq_some_iff.mp hend
  obtain ⟨asked, hcall, hrest⟩ := run_cons_eq_some_iff.mp hall
  have hasks : asked.callers[0]? = some ⟨.ask (.refresh (some "a")) .done, none, false⟩ := by
    cases hcall
    rfl
  obtain ⟨joined, waited, call⟩ := refreshCall_of_run hrest hasks (by simp [misreported])
  refine ⟨asked, joined, waited, returned,
    run_cons_eq_some_iff.mpr ⟨asked, hcall, rfl⟩, call, hresult, ?_⟩
  rintro m ⟨early, late, hsplit, hearly⟩
  have hnil : installed false early = [] := by
    have hall : installed false misreported = installed false early ++ installed false late := by
      rw [hsplit, installed, List.filterMap_append]
      rfl
    exact (List.append_eq_nil_iff.mp hall.symm).1
  obtain ⟨now, hjoin⟩ := call.joins
  have hrun := run_cons_eq_some_iff.mpr
    ⟨asked, hcall, run_cons_eq_some_iff.mpr ⟨joined, hjoin, hearly⟩⟩
  exact (reads_of_installed_nil hrun hnil).2 (some "a")

end System
end BearerAuth
