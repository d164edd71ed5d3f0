import BearerAuth.Proofs.Cache.Cancellation
import BearerAuth.Proofs.Validation.Agreement
import BearerAuth.Proofs.Validation.GivingUp

/-!
# Calls that are cancelled before they are made

A token that has fired is looked at only by a caller who waits. Up to the first refresh that it
asks for, such a caller is like any other, and the refresh is started or joined as for any other;
then the caller goes at once, and what it leaves behind does not depend on it.
-/
namespace BearerAuth

variable {α : Type}

namespace Caller

/-- A caller of an inquiry that gives up, after its token has fired: it has begun no call of
refresh, or it waits for the one that it has begun, or it has gone. -/
inductive GivingUp : Nat → Caller (Except Rejection α) → Prop
  | before {inquiry : Inquiry (Except Rejection α)} (h : inquiry.GivesUp) :
      GivingUp 0 ⟨inquiry, none, true⟩
  | waiting {kid : Option String}
      {next : Except CacheError VerificationKey → Inquiry (Except Rejection α)} (id : Nat)
      (hcancelled : next (.error .cancelled) = .done (.error .cancelled)) :
      GivingUp 1 ⟨.ask (.refresh kid) next, some id, true⟩
  | gone : GivingUp 1 ⟨.done (.error .cancelled), none, true⟩

/-- A caller who waits for nothing does not look at its token. -/
theorem proceed?_of_unwaiting {inquiry : Inquiry α} {c : Bool} {cache cache' : Cache}
    {now : Instant} {next : Caller α}
    (h : (⟨inquiry, none, c⟩ : Caller α).proceed? cache now = some (next, cache')) :
    ∃ inquiry' w, next = ⟨inquiry', w, c⟩ ∧
      ∀ c', (⟨inquiry, none, c'⟩ : Caller α).proceed? cache now =
        some (⟨inquiry', w, c'⟩, cache') := by
  cases inquiry with
  | done result => cases h
  | ask q ask =>
    cases q <;>
    · cases h
      exact ⟨_, _, rfl, fun _ => rfl⟩

end Caller

namespace System

variable {k n : Nat} {s t s₁ t₁ u : System (Except Rejection α)}

/-- What a call has returned. -/
def result? {β : Type} (s : System β) (i : Nat) : Option β := s.callers[i]?.bind Caller.result?

def GivingUp (s : System (Except Rejection α)) (k n : Nat) : Prop :=
  ∃ caller, s.callers[k]? = some caller ∧ caller.GivingUp n

theorem GivingUp.step (h : s.GivingUp k n) {event : Event (Except Rejection α)}
    (hstep : s.step event = some t) :
    t.GivingUp k (n + if event.isStepOf k && s.beginsRefresh event then 1 else 0) := by
  obtain ⟨caller, hcaller, hgiving⟩ := h
  obtain ⟨caller', hcaller', ⟨rfl, hother⟩ | ⟨rfl, rfl⟩ | ⟨now, rfl, hproceeds⟩⟩ :=
    caller_of_step hstep hcaller
  · have hnot : event.isStepOf k = false := isStepOf_eq_false_iff.mpr hother
    simpa [hnot] using ⟨caller', hcaller', hgiving⟩
  · refine ⟨_, hcaller', ?_⟩
    cases hgiving with
    | before h => exact .before h
    | waiting id h => exact .waiting id h
    | gone => exact .gone
  · refine ⟨caller', hcaller', ?_⟩
    generalize t.cache = cache at hproceeds
    cases hgiving with
    | before h =>
      cases h with
      | done result => cases hproceeds
      | lookup h =>
        cases hproceeds
        simpa [beginsRefresh, hcaller] using .before (h _)
      | clock h =>
        cases hproceeds
        simpa [beginsRefresh, hcaller] using .before (h _)
      | refresh hcancelled h =>
        cases hproceeds
        simpa [beginsRefresh, hcaller, Event.isStepOf] using .waiting _ hcancelled
    | waiting id hcancelled =>
      cases hproceeds
      rw [hcancelled]
      simpa [beginsRefresh, hcaller] using .gone
    | gone => cases hproceeds

theorem GivingUp.run (h : s.GivingUp k n) {events : List (Event (Except Rejection α))}
    (hrun : s.run events = some t) : t.GivingUp k (n + s.callsOf k events) := by
  induction events generalizing s n with
  | nil =>
    cases hrun
    exact h
  | cons event events ih =>
    obtain ⟨s₁, hstep, hrest⟩ := run_cons_eq_some_iff.mp hrun
    rw [callsOf_cons hstep, ← Nat.add_assoc]
    exact ih (h.step hstep) hrest

theorem unwaiting_of_step {β : Type} {s t : System β} {inquiry inquiry' : Inquiry β} {c c' : Bool}
    {w : Option Nat} {now : Instant} (hs : s.callers[k]? = some ⟨inquiry, none, c⟩)
    (hbegins : s.beginsRefresh (.proceed k now) = false) (hstep : s.step (.proceed k now) = some t)
    (ht : t.callers[k]? = some ⟨inquiry', w, c'⟩) : w = none := by
  obtain ⟨caller, hcaller, ⟨-, hne⟩ | ⟨-, heq⟩ | ⟨_, _, hproceeds⟩⟩ := caller_of_step hstep hs
  · exact absurd rfl (hne now)
  · cases heq
  · obtain rfl := Option.some.inj (hcaller.symm.trans ht)
    generalize t.cache = cache at hproceeds
    cases hproceeds with
    | join => simp [beginsRefresh, hs] at hbegins
    | _ => rfl

/-- Two states that differ at most in the caller `k`, which waits for nothing in either, and of it
at most in whether its token has fired. -/
structure Paired {β : Type} (k : Nat) (s t : System β) : Prop where
  same : SameExcept (fun i => i = k) s t
  own : ∃ inquiry c c', s.callers[k]? = some ⟨inquiry, none, c⟩ ∧
    t.callers[k]? = some ⟨inquiry, none, c'⟩

namespace Paired

variable {β : Type} {s t s₁ t₁ : System β}

theorem symm (h : Paired k s t) : Paired k t s := by
  obtain ⟨inquiry, c, c', hs, ht⟩ := h.own
  exact ⟨h.same.symm, inquiry, c', c, ht, hs⟩

theorem result?_eq (h : Paired k s t) : t.result? k = s.result? k := by
  obtain ⟨inquiry, c, c', hs, ht⟩ := h.own
  rw [result?, result?, hs, ht]
  rfl

/-- The caller `k` begins its calls at the same places. -/
theorem begins_eq (h : Paired k s t) (event : Event β) :
    (event.isStepOf k && t.beginsRefresh event) = (event.isStepOf k && s.beginsRefresh event) := by
  cases hown : event.isStepOf k with
  | false => rfl
  | true =>
    obtain ⟨now, rfl⟩ := eq_proceed_of_isStepOf hown
    obtain ⟨inquiry, c, c', hs, ht⟩ := h.own
    simp only [beginsRefresh, hs, ht]
    cases inquiry with
    | done result => rfl
    | ask q next => cases q <;> rfl

theorem isPrivate_eq (h : Paired k s t) (event : Event β) :
    t.isPrivate (fun i => i = k) event = s.isPrivate (fun i => i = k) event := by
  cases event with
  | proceed j now =>
    by_cases hj : j = k
    · subst hj
      have hbegins := h.begins_eq (.proceed j now)
      simp only [Event.isStepOf, decide_true, Bool.true_and] at hbegins
      simp [isPrivate, hbegins]
    · simp [isPrivate, hj]
  | _ => rfl

/-- The caller `k` takes the same step in both. -/
theorem proceed (h : Paired k s t) {now : Instant} (hstep : s.step (.proceed k now) = some s₁) :
    ∃ t₁ inquiry w c c', t.step (.proceed k now) = some t₁ ∧
      SameExcept (fun i => i = k) s₁ t₁ ∧ s₁.callers[k]? = some ⟨inquiry, w, c⟩ ∧
        t₁.callers[k]? = some ⟨inquiry, w, c'⟩ := by
  obtain ⟨inquiry, c, c', hs, ht⟩ := h.own
  obtain ⟨caller, next, cache, hcaller, hp, rfl⟩ := step_proceed_eq_some_iff.mp hstep
  obtain rfl := Option.some.inj (hs.symm.trans hcaller)
  obtain ⟨inquiry', w, rfl, hp'⟩ := Caller.proceed?_of_unwaiting hp
  rw [h.same.cache] at hp'
  refine ⟨_, inquiry', w, c, c',
    step_proceed_eq_some_iff.mpr ⟨_, ⟨inquiry', w, c'⟩, cache, ht, hp' c', rfl⟩,
    ⟨rfl, by simp [h.same.length], fun i hi => ?_⟩, ?_, ?_⟩
  · have hne : k ≠ i := Ne.symm (of_decide_eq_false hi)
    simp only [List.getElem?_set_ne hne, h.same.caller i hi]
  · rw [Cache.getElem?_set_of_some hs, if_pos rfl]
  · rw [Cache.getElem?_set_of_some ht, if_pos rfl]

/-- Whatever happens in one of the two happens in the other, up to the next call of refresh that
the caller `k` begins. -/
theorem step (h : Paired k s t) {event : Event β}
    (hquiet : (event.isStepOf k && s.beginsRefresh event) = false)
    (hstep : s.step event = some s₁) :
    ∃ t₁, t.step event = some t₁ ∧ Paired k s₁ t₁ := by
  cases hown : event.isStepOf k with
  | true =>
    obtain ⟨now, rfl⟩ := eq_proceed_of_isStepOf hown
    have hbegins : s.beginsRefresh (.proceed k now) = false := by simpa [hown] using hquiet
    obtain ⟨t₁, inquiry, w, c, c', hstep', hsame, hs₁, ht₁⟩ := h.proceed hstep
    obtain ⟨inquiry₀, c₀, -, hs, -⟩ := h.own
    obtain rfl := unwaiting_of_step hs hbegins hstep hs₁
    exact ⟨t₁, hstep', hsame, inquiry, c, c', hs₁, ht₁⟩
  | false =>
    have hothers := isStepOf_eq_false_iff.mp hown
    obtain ⟨t₁, hstep', hsame⟩ := h.same.exists_step_of_other hothers hstep
    have hidle : ∀ now, .proceed k now ∉ [event] := fun now hmem =>
      hothers now (List.mem_singleton.mp hmem).symm
    obtain ⟨inquiry, c, c', hs, ht⟩ := h.own
    obtain ⟨c, hs₁⟩ := caller_of_idle (run_cons_eq_some_iff.mpr ⟨s₁, hstep, rfl⟩) hidle ⟨c, hs⟩
    obtain ⟨c', ht₁⟩ := caller_of_idle (run_cons_eq_some_iff.mpr ⟨t₁, hstep', rfl⟩) hidle ⟨c', ht⟩
    exact ⟨t₁, hstep', hsame, inquiry, c, c', hs₁, ht₁⟩

theorem run (h : Paired k s t) {events : List (Event β)} (hcalls : s.callsOf k events = 0)
    (hrun : s.run events = some s₁) :
    ∃ t₁, t.run events = some t₁ ∧ Paired k s₁ t₁ ∧ t.callsOf k events = 0 ∧
      t.sharedEvents (fun i => i = k) events = s.sharedEvents (fun i => i = k) events := by
  induction events generalizing s t with
  | nil =>
    cases hrun
    exact ⟨t, rfl, h, rfl, rfl⟩
  | cons event events ih =>
    obtain ⟨m, hstep, hrest⟩ := run_cons_eq_some_iff.mp hrun
    rw [callsOf_cons hstep, Nat.add_eq_zero_iff] at hcalls
    have hquiet : (event.isStepOf k && s.beginsRefresh event) = false := by simpa using hcalls.1
    obtain ⟨m', hstep', hpaired⟩ := h.step hquiet hstep
    obtain ⟨t₁, hrest', hlast, hcalls', hshared⟩ := ih hpaired hcalls.2 hrest
    refine ⟨t₁, run_cons_eq_some_iff.mpr ⟨m', hstep', hrest'⟩, hlast, ?_, ?_⟩
    · rw [callsOf_cons hstep', h.begins_eq, hquiet, hcalls']
      rfl
    · rw [sharedEvents_cons hstep', sharedEvents_cons hstep, h.isPrivate_eq, hshared]

end Paired

/-- The first call of refresh that a caller begins along a run. -/
theorem exists_first_call {β : Type} {s t : System β} {events : List (Event β)}
    (hcalls : s.callsOf k events ≠ 0) (hrun : s.run events = some t) :
    ∃ before now after m, events = before ++ .proceed k now :: after ∧ s.run before = some m ∧
      s.callsOf k before = 0 ∧ m.beginsRefresh (.proceed k now) = true := by
  induction events generalizing s with
  | nil => exact absurd rfl hcalls
  | cons event events ih =>
    obtain ⟨s₁, hstep, hrest⟩ := run_cons_eq_some_iff.mp hrun
    cases hbegins : event.isStepOf k && s.beginsRefresh event with
    | true =>
      obtain ⟨hown, hbegins⟩ := Bool.and_eq_true_iff.mp hbegins
      obtain ⟨now, rfl⟩ := eq_proceed_of_isStepOf hown
      exact ⟨[], now, events, s, rfl, rfl, rfl, hbegins⟩
    | false =>
      rw [callsOf_cons hstep, hbegins] at hcalls
      obtain ⟨before, now, after, m, rfl, hm, hnone, hfirst⟩ := ih (by simpa using hcalls) hrest
      refine ⟨event :: before, now, after, m, rfl, run_cons_eq_some_iff.mpr ⟨s₁, hstep, hm⟩, ?_,
        hfirst⟩
      rw [callsOf_cons hstep, hbegins, hnone]
      rfl

/-! ## Before the call -/

/-- Two runs that are the same, at their ends and in the snapshots they go through, for everybody
but the caller `k`. -/
structure Unnoticed {β : Type} (k : Nat) (s s' : System β) (events events' : List (Event β))
    (t t' : System β) : Prop where
  run : s.run events = some t
  run' : s'.run events' = some t'
  same : SameExcept (fun i => i = k) t t'
  snapshots : s'.snapshots events' = s.snapshots events

theorem unnoticed_of_sharedEvents {β : Type} {s s' t t' : System β}
    {events events' : List (Event β)}
    (h : SameExcept (fun i => i = k) s s') (hrun : s.run events = some t)
    (hrun' : s'.run events' = some t')
    (hshared : s'.sharedEvents (fun i => i = k) events' = s.sharedEvents (fun i => i = k) events) :
    Unnoticed k s s' events events' t t' := by
  obtain ⟨hsame, hsnapshots⟩ := sameExcept_of_sharedEvents h hrun hrun' hshared
  exact ⟨hrun, hrun', hsame, hsnapshots⟩

/-- The caller `k` of a run through `events` to `u` has just begun its first call of refresh. What
becomes of this in the run to `u'` in which its token has fired before. -/
structure Forsakes (called : System (Except Rejection α)) (k : Nat)
    (events : List (Event (Except Rejection α))) (u u' : System (Except Rejection α)) : Prop where
  /-- The refresh is started or joined as it would have been. -/
  joined : Unnoticed k called called events (.cancel k :: events) u u' ∧
    ∃ id, u.cache.slot = some id ∧ ∃ kid next c,
      u.callers[k]? = some ⟨.ask (.refresh kid) next, some id, c⟩ ∧
        u'.callers[k]? = some ⟨.ask (.refresh kid) next, some id, true⟩
  /-- The call returns at once, and all goes on without the caller, until it would have begun
  another call. -/
  leaves : ∀ now, ∃ v, u'.step (.proceed k now) = some v ∧ v.cache = u.cache ∧
    v.result? k = some (.error .cancelled) ∧ ∀ after t, u.run after = some t →
      u.callsOf k after = 0 → ∃ t', Unnoticed k u v after
        (after.filter fun event => !event.isStepOf k) t t' ∧
          t'.result? k = some (.error .cancelled)
  /-- The refresh runs to its end if nobody does anything, whatever is fetched. -/
  ends : ∀ id fetched, u'.cache.slot = some id →
    ∃ outcome, u'.EndsWith id outcome (snapshotAfter outcome u'.cache.snapshot) ∧
      (u'.cache.outcome? id = none → outcome = u'.cache.outcomeOf fetched)
  /-- If it has yet to fetch, keys that may be used become the next snapshot, and after everything
  else the snapshot stays. -/
  lasts : ∀ id fetched, u'.cache.slot = some id → u'.cache.outcome? id = none →
    ∃ outcome snapshot, u'.cache.Leaves fetched outcome snapshot ∧ u'.EndsWith id outcome snapshot

/-- What becomes of the call of the last caller `k` when its token has fired before the call. -/
structure Forestalled (called : System (Except Rejection α)) (k : Nat) : Prop where
  /-- A call that asks for no refresh is the same call. -/
  unneeded : ∀ events t, called.run events = some t → called.callsOf k events = 0 →
    ∃ t', Unnoticed k called called events (.cancel k :: events) t t' ∧
      t'.result? k = t.result? k
  /-- A call that asks for one is the same up to there. -/
  needed : ∀ events now m u, called.run events = some m → called.callsOf k events = 0 →
    m.beginsRefresh (.proceed k now) = true → m.step (.proceed k now) = some u →
      ∃ u', Forsakes called k (events ++ [.proceed k now]) u u'
  /-- In whatever way the run goes on, a call that returns has asked for no refresh and returns
  what it would have, or it has asked for one and was cancelled. -/
  verdict : ∀ events t, called.run (.cancel k :: events) = some t →
    (∃ t', called.run events = some t' ∧ called.callsOf k events = 0 ∧ t.cache = t'.cache ∧
        t.result? k = t'.result? k) ∨
      ∃ before now after m, events = before ++ .proceed k now :: after ∧
        called.run before = some m ∧ called.callsOf k before = 0 ∧
          m.beginsRefresh (.proceed k now) = true ∧
            called.callsOf k (.cancel k :: events) = 1 ∧
              ∀ result, t.result? k = some result → result = .error .cancelled

section

variable {called fired : System (Except Rejection α)}

/-- A caller who has joined and whose token has fired goes at once, and all goes on. -/
theorem exists_leaving {u u' : System (Except Rejection α)} {kid : Option String}
    {next : Except CacheError VerificationKey → Inquiry (Except Rejection α)} {id : Nat}
    (hsame : SameExcept (fun i => i = k) u u')
    (hu' : u'.callers[k]? = some ⟨.ask (.refresh kid) next, some id, true⟩)
    (hcancelled : next (.error .cancelled) = .done (.error .cancelled)) (now : Instant) :
    ∃ v, u'.step (.proceed k now) = some v ∧ v.cache = u.cache ∧
      v.result? k = some (.error .cancelled) ∧ ∀ after t, u.run after = some t →
        u.callsOf k after = 0 → ∃ t', Unnoticed k u v after
          (after.filter fun event => !event.isStepOf k) t t' ∧
            t'.result? k = some (.error .cancelled) := by
  let gone : Caller (Except Rejection α) := ⟨next (.error .cancelled), none, true⟩
  have hstep : u'.step (.proceed k now) = some ⟨u'.cache, u'.callers.set k gone⟩ :=
    step_proceed_eq_some_iff.mpr ⟨_, gone, u'.cache, hu', rfl, rfl⟩
  have hgone : (u'.callers.set k gone)[k]? = some ⟨.done (.error .cancelled), none, true⟩ := by
    rw [Cache.getElem?_set_of_some hu', if_pos rfl, ← hcancelled]
  have hquiet := hsame.trans
    (sameExcept_of_private hstep (by simp [isPrivate, beginsRefresh, hu']))
  refine ⟨_, hstep, hsame.cache.symm, by rw [result?, hgone]; rfl, fun after t hrun hcalls => ?_⟩
  obtain ⟨t', hrun', hshared⟩ := exists_run_without hquiet hcalls hrun
  obtain ⟨c, hc⟩ := caller_of_run_without hrun' ⟨true, hgone⟩
  exact ⟨t', unnoticed_of_sharedEvents hquiet hrun hrun' hshared, by rw [result?, hc]; rfl⟩

/-- The run in which the token of the caller `k` has fired before it has taken a step. -/
structure Fires (called : System (Except Rejection α)) (k : Nat)
    (fired : System (Except Rejection α)) : Prop where
  step : called.step (.cancel k) = some fired
  paired : Paired k called fired
  giving : fired.GivingUp k 0

namespace Fires

variable (h : called.Fires k fired)
include h

theorem run_cons_iff {events : List (Event (Except Rejection α))}
    {t : System (Except Rejection α)} :
    called.run (.cancel k :: events) = some t ↔ fired.run events = some t := by
  rw [run_cons, h.step, Option.bind_some]

theorem sharedEvents_eq (events : List (Event (Except Rejection α))) :
    called.sharedEvents (fun i => i = k) (.cancel k :: events) =
      fired.sharedEvents (fun i => i = k) events := by
  have hprivate : called.isPrivate (fun i => i = k) (.cancel k) = true := decide_eq_true rfl
  rw [sharedEvents_cons h.step, if_pos hprivate, List.nil_append]

theorem callsOf_eq (events : List (Event (Except Rejection α))) :
    called.callsOf k (.cancel k :: events) = fired.callsOf k events := by
  rw [callsOf_cons h.step]
  exact Nat.zero_add _

theorem unneeded {events : List (Event (Except Rejection α))} (hrun : called.run events = some t)
    (hcalls : called.callsOf k events = 0) :
    ∃ t', Unnoticed k called called events (.cancel k :: events) t t' ∧
      t'.result? k = t.result? k := by
  obtain ⟨t', hrun', hlast, -, hshared⟩ := h.paired.run hcalls hrun
  refine ⟨t', unnoticed_of_sharedEvents (.refl called) hrun (h.run_cons_iff.mpr hrun') ?_,
    hlast.result?_eq⟩
  rw [h.sharedEvents_eq, hshared]

theorem exists_forsakes (hc : called.cache.Coherent) {events : List (Event (Except Rejection α))}
    {now : Instant} {m : System (Except Rejection α)} (hm : called.run events = some m)
    (hcalls : called.callsOf k events = 0) (hbegins : m.beginsRefresh (.proceed k now) = true)
    (hstep : m.step (.proceed k now) = some u) :
    ∃ u', Forsakes called k (events ++ [.proceed k now]) u u' := by
  -- The two runs are the same up to the call, and in both it joins the same refresh.
  obtain ⟨m', hm', hlast, -, hshared⟩ := h.paired.run hcalls hm
  obtain ⟨u', inquiry, w, c, c', hstep', hsame, hu, hu'⟩ := hlast.proceed hstep
  obtain ⟨joined, caller, hjoins, hcache, hcaller, hwaits⟩ := step_of_beginsRefresh hbegins
  obtain rfl : u = joined := Option.some.inj (hstep.symm.trans hjoins)
  have hslot : u.cache.slot = some m.cache.joinOrStart.1 := by
    rw [hcache, Cache.joinOrStart_slot]
  obtain rfl : w = some m.cache.joinOrStart.1 := by
    rw [← hslot, ← hwaits, Option.some.inj (hcaller.symm.trans hu)]
  have hrun := run_concat_eq_some_iff.mpr ⟨m, hm, hstep⟩
  have hfired := run_concat_eq_some_iff.mpr ⟨m', hm', hstep'⟩
  have hrun' := h.run_cons_iff.mpr hfired
  have hunnoticed : Unnoticed k called called (events ++ [.proceed k now])
      (.cancel k :: (events ++ [.proceed k now])) u u' := by
    refine unnoticed_of_sharedEvents (.refl called) hrun hrun' ?_
    rw [h.sharedEvents_eq, sharedEvents_append hm', sharedEvents_append hm, hshared,
      sharedEvents_singleton, sharedEvents_singleton, hlast.isPrivate_eq]
  -- Only the run with the fired token knows what is left of the inquiry: it gives up.
  obtain ⟨gone, hgone, hgiving⟩ := h.giving.run hfired
  obtain rfl := Option.some.inj (hu'.symm.trans hgone)
  generalize 0 + fired.callsOf k (events ++ [.proceed k now]) = calls at hgiving
  cases hgiving with | @waiting kid next _ hcancelled =>
  have hc' := coherent_of_run hrun' hc
  exact ⟨u', ⟨hunnoticed, _, hslot, kid, next, c, hu, hu'⟩, exists_leaving hsame hu' hcancelled,
    fun id fetched hslot => exists_endsWith hc' hslot fetched,
    fun id fetched hslot hpending => exists_leaves hc' hslot hpending fetched⟩

theorem verdict {events : List (Event (Except Rejection α))}
    (hrun : called.run (.cancel k :: events) = some t) :
    (∃ t', called.run events = some t' ∧ called.callsOf k events = 0 ∧ t.cache = t'.cache ∧
        t.result? k = t'.result? k) ∨
      ∃ before now after m, events = before ++ .proceed k now :: after ∧
        called.run before = some m ∧ called.callsOf k before = 0 ∧
          m.beginsRefresh (.proceed k now) = true ∧
            called.callsOf k (.cancel k :: events) = 1 ∧
              ∀ result, t.result? k = some result → result = .error .cancelled := by
  have hfired := h.run_cons_iff.mp hrun
  rw [h.callsOf_eq]
  by_cases hcalls : fired.callsOf k events = 0
  · obtain ⟨t', hrun', hlast, hcalls', -⟩ := h.paired.symm.run hcalls hfired
    exact .inl ⟨t', hrun', hcalls', hlast.same.cache, hlast.symm.result?_eq⟩
  · obtain ⟨before, now, after, m, rfl, hm, hnone, hbegins⟩ := exists_first_call hcalls hfired
    -- The run without comes to the same call, so that it is the first one there as well.
    obtain ⟨m', hm', hlast, hnone', -⟩ := h.paired.symm.run hnone hm
    have hbegins' := hlast.begins_eq (.proceed k now)
    simp only [Event.isStepOf, decide_true, Bool.true_and] at hbegins'
    refine .inr ⟨before, now, after, m', rfl, hm', hnone', hbegins'.trans hbegins, ?_⟩
    obtain ⟨caller, hcaller, hgiving⟩ := h.giving.run hfired
    rw [Nat.zero_add] at hgiving
    rw [result?, hcaller]
    generalize fired.callsOf k (before ++ .proceed k now :: after) = calls at hgiving hcalls
    cases hgiving with
    | before => exact absurd rfl hcalls
    | waiting => exact ⟨rfl, by simp [Caller.result?]⟩
    | gone => exact ⟨rfl, fun result hresult => (Option.some.inj hresult).symm⟩

theorem forestalled (hc : called.cache.Coherent) : called.Forestalled k where
  unneeded _ _ hrun hcalls := h.unneeded hrun hcalls
  needed _ _ _ _ hm hcalls hbegins hstep := h.exists_forsakes hc hm hcalls hbegins hstep
  verdict _ _ hrun := h.verdict hrun

end Fires

end

/-- A token that fires right after the call has fired before the caller takes a step. -/
theorem exists_fires (s : System (Except Rejection α)) {inquiry : Inquiry (Except Rejection α)}
    (h : inquiry.GivesUp) : ∃ fired, (s.called inquiry).Fires s.callers.length fired := by
  let fired : System (Except Rejection α) :=
    ⟨s.cache, (s.called inquiry).callers.modify s.callers.length fun caller =>
      { caller with cancelled := true }⟩
  have hstep : (s.called inquiry).step (.cancel s.callers.length) = some fired := rfl
  have hcaller : (s.called inquiry).callers[s.callers.length]? = some ⟨inquiry, none, false⟩ :=
    List.getElem?_concat_length
  have hfired : fired.callers[s.callers.length]? = some ⟨inquiry, none, true⟩ := by
    simp [fired, hcaller]
  have hprivate : (s.called inquiry).isPrivate (fun i => i = s.callers.length)
      (.cancel s.callers.length) = true := by simp [isPrivate]
  exact ⟨fired, hstep,
    ⟨sameExcept_of_private hstep hprivate, inquiry, false, true, hcaller, hfired⟩,
    _, hfired, .before h⟩

/-- Whatever state a verifier is in and whoever else uses it, a token that has fired before the
call matters only to a call that asks for a refresh, which it ends. -/
theorem cancelled_beforehand {settings : CacheSettings} {fetched : Except CacheError KeySet}
    {cache : Cache} (hstart : Cache.start settings fetched = .ok cache)
    {earlier : List (Event (Except Rejection ValidatedToken))}
    {s : System (Except Rejection ValidatedToken)} (hrun : (opening cache).run earlier = some s)
    (config : Config) (jwksUrl : String) (text : String) :
    (s.called (validate config.policy s.cache.settings.keyIdDisabled text)).Forestalled
        s.callers.length ∧
      ∀ network now,
        (⟨config, some ⟨jwksUrl, s.cache⟩⟩ : Verifier).ForestalledAlone network now text := by
  have hc : s.cache.Coherent := coherent_of_opening hstart hrun
  obtain ⟨fired, hfires⟩ :=
    exists_fires s (givesUp_validate config.policy s.cache.settings.keyIdDisabled text)
  exact ⟨hfires.forestalled hc, fun network now =>
    Verifier.forestalledAlone config jwksUrl s.cache network now text⟩

/-- A caller whose token has fired and whose key is not known starts a refresh that it does not
wait for. -/
theorem cancelled_beforehand_keyless :
    let cache := Fed.keyToCome.cache
    let fresh : System (Except Rejection ValidatedToken) := opening cache
    let called := fresh.called (validate (Config.forIssuer "i").policy true Fed.unsignedToken)
    Cache.start cache.settings (.ok ⟨[]⟩) = .ok cache ∧ fresh.run [] = some fresh ∧
      called.Forestalled 0 ∧
        (called.run (.cancel 0 :: List.replicate 3 (.proceed 0 .epoch))).map (fun t =>
          ((t.result? 0).map failure?, t.cache.slot, t.cache.outcome? 0)) =
            some (some (some .cancelled), some 0, none) := by
  intro cache fresh called
  have hstart : Cache.start cache.settings (.ok ⟨[]⟩) = .ok cache := rfl
  have hrun : fresh.run [] = some fresh := rfl
  obtain ⟨hforestalled, -⟩ :=
    cancelled_beforehand hstart hrun (.forIssuer "i") "http://i/keys" Fed.unsignedToken
  refine ⟨hstart, hrun, hforestalled, ?_⟩
  decide +kernel

end System
end BearerAuth
