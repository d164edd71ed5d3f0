import BearerAuth.Proofs.Cache.Interference
import Mathlib.Data.List.Induction

/-!
# Cancellation concerns nobody else

Tokens may fire at any moment of any run, and the run can go on as it would have. Each caller
whose token fires has a twin in the run without: the two take their steps at the same time, and
they differ in what their calls return if the token fires before that.
-/
namespace BearerAuth

variable {α : Type}

/-- The firing of the token of a caller in `K`. -/
def Event.cancels (K : Nat → Bool) : Event α → Bool
  | .cancel i => K i
  | _ => false

/-- A step of the caller `k` of its own. -/
def Event.isStepOf (k : Nat) : Event α → Bool
  | .proceed i _ => i = k
  | _ => false

theorem eq_proceed_of_isStepOf {k : Nat} {event : Event α} (h : event.isStepOf k = true) :
    ∃ now, event = .proceed k now := by
  cases event with
  | proceed i now => exact ⟨now, by simpa [Event.isStepOf] using h⟩
  | _ => cases h

theorem isStepOf_eq_false_iff {k : Nat} {event : Event α} :
    event.isStepOf k = false ↔ ∀ now, event ≠ .proceed k now := by
  constructor
  · rintro h now rfl
    simp [Event.isStepOf] at h
  · intro h
    cases hown : event.isStepOf k with
    | false => rfl
    | true =>
      obtain ⟨now, heq⟩ := eq_proceed_of_isStepOf hown
      exact absurd heq (h now)

/-- The inquiries of the callers, in the order in which they call. -/
def inquiries (events : List (Event α)) : List (Inquiry α) :=
  events.filterMap fun
    | .call inquiry => some inquiry
    | _ => none

/-- One refresh, with a report of its answer for a result. -/
abbrev Inquiry.refreshing (report : Except CacheError VerificationKey → α) (kid : Option String) :
    Inquiry α :=
  .ask (.refresh kid) fun answer => .done (report answer)

namespace Caller

/-- A caller that asks for one refresh, and the same caller in a run in which its token fires as
well. Whether it does so before the call has returned decides what the call returns. -/
inductive Twin (report : Except CacheError VerificationKey → α) (fired : Prop) :
    Caller α → Caller α → Prop
  | waiting (kid : Option String) (w : Option Nat) (cancelled : Bool)
      (h : cancelled = true ↔ fired) :
    Twin report fired ⟨.refreshing report kid, w, false⟩ ⟨.refreshing report kid, w, cancelled⟩
  | answered (result : α) (cancelled : Bool) (h : ¬ fired) :
    Twin report fired ⟨.done result, none, false⟩ ⟨.done result, none, cancelled⟩
  | gaveUp (result : α) (h : fired) :
    Twin report fired ⟨.done result, none, false⟩
      ⟨.done (report (.error .cancelled)), none, true⟩

variable {report : Except CacheError VerificationKey → α} {fired : Prop} {caller caller' : Caller α}

theorem Twin.congr {fired' : Prop} (h : caller.Twin report fired caller')
    (hiff : fired ↔ fired') : caller.Twin report fired' caller' :=
  propext hiff ▸ h

theorem Twin.result? (h : caller.Twin report fired caller') :
    (fired → caller'.result? = caller.result?.map fun _ => report (.error .cancelled)) ∧
      (¬ fired → caller'.result? = caller.result?) := by
  cases h with
  | waiting => exact ⟨fun _ => rfl, fun _ => rfl⟩
  | answered result cancelled h => exact ⟨fun hfired => absurd hfired h, fun _ => rfl⟩
  | gaveUp result h => exact ⟨fun _ => rfl, fun hnot => absurd h hnot⟩

/-- A token that has fired when the call is under way has fired in time. -/
theorem Twin.fired_of_cancelled (h : caller.Twin report fired caller')
    (hcancelled : caller'.cancelled = true) (hresult : caller'.result? = none) : fired := by
  cases h with
  | waiting kid w cancelled h => exact h.mp hcancelled
  | answered | gaveUp => cases hresult

/-- Both take their steps at the same time. -/
theorem Twin.proceed? (h : caller.Twin report fired caller') {next : Caller α}
    {cache cache' : Cache} {now : Instant}
    (hstep : caller.proceed? cache now = some (next, cache')) :
    ∃ next', caller'.proceed? cache now = some (next', cache') ∧ next.Twin report fired next' := by
  cases h with
  | waiting kid w cancelled h =>
    cases w with
    | none =>
      cases hstep
      exact ⟨_, rfl, .waiting kid _ cancelled h⟩
    | some id =>
      cases cancelled with
      | false =>
        have hproceeds := proceeds_of_proceed? hstep
        cases hproceeds with
        | learn => exact ⟨_, hstep, .answered _ false fun hfired => nomatch h.mpr hfired⟩
      | true =>
        have hproceeds := proceeds_of_proceed? hstep
        cases hproceeds with
        | learn => exact ⟨_, rfl, .gaveUp _ (h.mp rfl)⟩
  | answered | gaveUp => cases hstep

/-- A caller of one refresh that has joined it, or has its answer. -/
inductive Joined : Caller α → Prop
  | waiting (kid : Option String) (report : Except CacheError VerificationKey → α) (id : Nat)
      (c : Bool) : Joined ⟨.refreshing report kid, some id, c⟩
  | done (result : α) (w : Option Nat) (c : Bool) : Joined ⟨.done result, w, c⟩

theorem Joined.cancel (h : caller.Joined) : Joined { caller with cancelled := true } := by
  cases h with
  | waiting kid report id c => exact .waiting kid report id true
  | done result w c => exact .done result w true

theorem Joined.proceeds (h : caller.Joined) {cache cache' : Cache} {now : Instant}
    {next : Caller α} (hproceeds : caller.Proceeds cache now next cache') : next.Joined := by
  cases h with
  | waiting kid report id c =>
    cases hproceeds with
    | giveUp => exact .done _ none true
    | learn => exact .done _ none false
  | done result w c => cases hproceeds

/-- A token that fires while the call is under way, and one that fires too late. -/
theorem Twin.cancel (h : caller.Twin report fired caller') :
    caller.Twin report (fired ∨ caller'.result? = none) { caller' with cancelled := true } := by
  cases h with
  | waiting kid w cancelled h => exact .waiting kid w true (by simp [Caller.result?])
  | answered result cancelled h => exact .answered result true (by simpa [Caller.result?] using h)
  | gaveUp result h => exact .gaveUp result (.inl h)

end Caller
namespace System

theorem run_concat_eq_some_iff {s t : System α} {events : List (Event α)} {event : Event α} :
    s.run (events ++ [event]) = some t ↔ ∃ m, s.run events = some m ∧ m.step event = some t := by
  rw [run_append_eq_some_iff]
  refine exists_congr fun m => and_congr_right fun _ => ?_
  rw [run_cons_eq_some_iff]
  simp [run_nil]

variable {K : Nat → Bool}

theorem sharedEvents_singleton (s : System α) (event : Event α) :
    s.sharedEvents K [event] = if s.isPrivate K event then [] else [event] := by
  rw [sharedEvents]
  cases s.step event <;> exact List.append_nil _

theorem length_callers_of_run {s t : System α} {events : List (Event α)}
    (hrun : s.run events = some t) :
    t.callers.length = s.callers.length + (inquiries events).length := by
  induction events generalizing s with
  | nil =>
    cases hrun
    rfl
  | cons event events ih =>
    obtain ⟨s₁, hstep, hrest⟩ := run_cons_eq_some_iff.mp hrun
    rw [ih hrest]
    cases event with
    | call inquiry =>
      cases hstep
      simp [inquiries]
      omega
    | cancel i =>
      cases hstep
      simp [inquiries]
    | proceed i now =>
      obtain ⟨caller, caller', cache, -, -, rfl⟩ := step_proceed_eq_some_iff.mp hstep
      simp [inquiries]
    | _ =>
      rw [step_of_cacheStep? rfl] at hstep
      obtain ⟨cache, -, rfl⟩ := Option.map_eq_some_iff.mp hstep
      simp [inquiries]

/-- The token of the caller `i` has fired, and its call has not returned. -/
def Leaving (s : System α) (i : Nat) : Prop :=
  ∃ caller, s.callers[i]? = some caller ∧ caller.cancelled = true ∧ caller.result? = none

/-- Two states that are the same for the others, in which the callers of `K` are twins. -/
structure Twins (K : Nat → Bool) (report : Except CacheError VerificationKey → α)
    (fired : Nat → Prop) (s t : System α) : Prop where
  same : SameExcept K s t
  twin : ∀ i caller caller', K i = true → s.callers[i]? = some caller →
    t.callers[i]? = some caller' → caller.Twin report (fired i) caller'

section Twins

variable {report : Except CacheError VerificationKey → α} {fired : Nat → Prop}
  {s s₁ t t₁ : System α}

theorem Twins.exists_twin (h : Twins K report fired s t) {i : Nat} (hi : K i = true)
    {caller : Caller α} (hcaller : s.callers[i]? = some caller) :
    ∃ caller', t.callers[i]? = some caller' ∧ caller.Twin report (fired i) caller' := by
  have hlt : i < t.callers.length := h.same.length ▸ (List.getElem?_eq_some_iff.mp hcaller).1
  exact ⟨t.callers[i], List.getElem?_eq_getElem hlt,
    h.twin i caller _ hi hcaller (List.getElem?_eq_getElem hlt)⟩

theorem Twins.isPrivate_eq (h : Twins K report fired s t) (event : Event α) :
    t.isPrivate K event = s.isPrivate K event := by
  cases event with
  | proceed j now =>
    cases hj : K j with
    | false => simp [isPrivate, hj]
    | true =>
      simp only [isPrivate, hj, Bool.true_and, beginsRefresh]
      cases hcaller : s.callers[j]? with
      | none =>
        have hlt := h.same.length ▸ List.getElem?_eq_none_iff.mp hcaller
        rw [List.getElem?_eq_none hlt]
      | some caller =>
        obtain ⟨caller', hcaller', htwin⟩ := h.exists_twin hj hcaller
        rw [hcaller']
        cases htwin with
        | waiting kid w cancelled _ => cases w <;> rfl
        | answered | gaveUp => rfl
  | _ => rfl

theorem Twins.same_of_step (h : Twins K report fired s t) {event : Event α}
    (hstep : s.step event = some s₁) (hstep' : t.step event = some t₁) : SameExcept K s₁ t₁ := by
  have hprivate := h.isPrivate_eq event
  cases hs : s.isPrivate K event with
  | true =>
    exact (sameExcept_of_private hstep hs).symm.trans
      (h.same.trans (sameExcept_of_private hstep' (hprivate.trans hs)))
  | false => exact h.same.step hs (hprivate.trans hs) hstep hstep'

/-- What both runs have in common, the twins do at the same time. -/
theorem Twins.step (h : Twins K report fired s t) {event : Event α}
    (hcancels : event.cancels K = false)
    (hcall : ∀ inquiry, event = .call inquiry → K s.callers.length = true →
      (∃ kid, inquiry = .refreshing report kid) ∧ ¬ fired s.callers.length)
    (hstep : s.step event = some s₁) :
    ∃ t₁, t.step event = some t₁ ∧ Twins K report fired s₁ t₁ := by
  cases event with
  | call inquiry =>
    refine ⟨_, rfl, h.same_of_step hstep rfl, ?_⟩
    cases hstep
    intro i caller caller' hi hcaller hcaller'
    simp only [List.getElem?_append, h.same.length] at hcaller hcaller'
    split at hcaller
    · next hlt =>
      rw [if_pos hlt] at hcaller'
      exact h.twin i caller caller' hi hcaller hcaller'
    · next hge =>
      rw [if_neg hge] at hcaller'
      obtain ⟨hzero, rfl⟩ : i - t.callers.length = 0 ∧ _ := by
        simpa [List.getElem?_singleton] using hcaller
      have hi' : i = s.callers.length := by have := h.same.length; omega
      subst hi'
      obtain rfl : caller' = ⟨inquiry, none, false⟩ := by simpa [hzero, eq_comm] using hcaller'
      obtain ⟨⟨kid, rfl⟩, hfired⟩ := hcall inquiry rfl hi
      exact .waiting kid none false (iff_of_false nofun hfired)
  | cancel j =>
    refine ⟨_, rfl, h.same_of_step hstep rfl, ?_⟩
    cases hstep
    intro i caller caller' hi hcaller hcaller'
    have hne : i ≠ j := ne_of_apart hcancels hi
    simp only [List.getElem?_modify, hne.symm, if_false, id_map'] at hcaller hcaller'
    exact h.twin i caller caller' hi (by simpa using hcaller) (by simpa using hcaller')
  | proceed j now =>
    obtain ⟨old, next, cache, hold, hp, rfl⟩ := step_proceed_eq_some_iff.mp hstep
    rw [h.same.cache] at hp
    obtain ⟨old', next', hold', hp', htwin⟩ : ∃ old' next', t.callers[j]? = some old' ∧
        old'.proceed? t.cache now = some (next', cache) ∧
          (K j = true → next.Twin report (fired j) next') := by
      cases hj : K j with
      | false => exact ⟨old, next, (h.same.caller j hj).symm.trans hold, hp, nofun⟩
      | true =>
        obtain ⟨old', hold', htwin⟩ := h.exists_twin hj hold
        obtain ⟨next', hp', hnext⟩ := htwin.proceed? hp
        exact ⟨old', next', hold', hp', fun _ => hnext⟩
    have hstep' := step_proceed_eq_some_iff.mpr ⟨old', next', cache, hold', hp', rfl⟩
    refine ⟨_, hstep', h.same_of_step hstep hstep', ?_⟩
    intro i caller caller' hi hcaller hcaller'
    rw [Cache.getElem?_set_of_some hold] at hcaller
    rw [Cache.getElem?_set_of_some hold'] at hcaller'
    by_cases hij : j = i
    · subst hij
      rw [if_pos rfl, Option.some.injEq] at hcaller hcaller'
      subst hcaller hcaller'
      exact htwin hi
    · rw [if_neg hij] at hcaller hcaller'
      exact h.twin i caller caller' hi hcaller hcaller'
  | _ =>
    rw [step_of_cacheStep? rfl] at hstep
    obtain ⟨cache, hcache, rfl⟩ := Option.map_eq_some_iff.mp hstep
    rw [h.same.cache] at hcache
    refine ⟨⟨cache, t.callers⟩, ?_, ⟨rfl, h.same.length, h.same.caller⟩, h.twin⟩
    rw [step_of_cacheStep? rfl]
    exact Option.map_eq_some_iff.mpr ⟨cache, hcache, rfl⟩

/-- A twin whose token has fired and who is still there has been told apart already. -/
theorem Twins.congr (h : Twins K report fired s t) {fired' : Nat → Prop}
    (hfired : ∀ i, fired' i ↔ fired i ∨ t.Leaving i) : Twins K report fired' s t := by
  refine ⟨h.same, fun i caller caller' hi hcaller hcaller' => ?_⟩
  have htwin := h.twin i caller caller' hi hcaller hcaller'
  refine htwin.congr ((or_iff_left_of_imp ?_).symm.trans (hfired i).symm)
  rintro ⟨caller'', hcaller'', hcancelled, hresult⟩
  obtain rfl : caller' = caller'' := Option.some.inj (hcaller'.symm.trans hcaller'')
  exact htwin.fired_of_cancelled hcancelled hresult

/-- The token of a twin fires. -/
theorem Twins.cancel (h : Twins K report fired s t) {j : Nat} (hj : K j = true)
    {fired' : Nat → Prop} (hfired : ∀ i, fired' i ↔ fired i ∨ t₁.Leaving i)
    (hstep : t.step (.cancel j) = some t₁) : Twins K report fired' s t₁ := by
  refine ⟨h.same.trans (sameExcept_of_private hstep hj), ?_⟩
  intro i caller caller' hi hcaller hcaller'
  obtain ⟨old, hold, htwin⟩ := h.exists_twin hi hcaller
  have hleaving : t₁.Leaving i ↔ caller'.cancelled = true ∧ caller'.result? = none :=
    ⟨fun ⟨_, heq, hleaving⟩ => Option.some.inj (hcaller'.symm.trans heq) ▸ hleaving,
      fun hleaving => ⟨caller', hcaller', hleaving⟩⟩
  have hiff := (hfired i).trans (or_congr_right hleaving)
  cases hstep
  by_cases hij : j = i
  · subst hij
    obtain rfl : { old with cancelled := true } = caller' := by simpa [hold] using hcaller'
    exact htwin.cancel.congr (by simpa [Caller.result?] using hiff.symm)
  · obtain rfl : old = caller' := by simpa [hij, hold] using hcaller'
    refine htwin.congr ((or_iff_left_of_imp ?_).symm.trans hiff.symm)
    exact fun hleaving => htwin.fired_of_cancelled hleaving.1 hleaving.2

end Twins

section Departure

variable {s t u : System α} {k : Nat}

/-- The caller `k` has joined the one refresh it asks for. -/
def HasJoined (s : System α) (k : Nat) : Prop :=
  ∃ caller, s.callers[k]? = some caller ∧ caller.Joined

theorem HasJoined.step (h : s.HasJoined k) {event : Event α} (hstep : s.step event = some t) :
    t.HasJoined k := by
  obtain ⟨caller, hcaller, hjoined⟩ := h
  obtain ⟨caller', hcaller', ⟨rfl, -⟩ | ⟨rfl, -⟩ | ⟨now, -, hproceeds⟩⟩ :=
    caller_of_step hstep hcaller
  · exact ⟨_, hcaller', hjoined⟩
  · exact ⟨_, hcaller', hjoined.cancel⟩
  · exact ⟨_, hcaller', hjoined.proceeds hproceeds⟩

/-- It begins no call any more, so that its steps are its own affair. -/
theorem HasJoined.isPrivate (h : s.HasJoined k) (now : Instant) :
    s.isPrivate (fun i => i = k) (.proceed k now) = true := by
  obtain ⟨caller, hcaller, hjoined⟩ := h
  cases hjoined <;> simp [System.isPrivate, beginsRefresh, hcaller]

theorem isPrivate_of_other {event : Event α} (h : ∀ now, event ≠ .proceed k now) (s t : System α) :
    s.isPrivate (fun i => i = k) event = t.isPrivate (fun i => i = k) event := by
  cases event with
  | proceed j now =>
    have hne : j ≠ k := by
      rintro rfl
      exact h now rfl
    simp [isPrivate, hne]
  | _ => rfl

/-- How many calls of refresh the caller `k` begins along a sequence of events. -/
def callsOf (k : Nat) (s : System α) : List (Event α) → Nat
  | [] => 0
  | event :: events =>
    (if event.isStepOf k && s.beginsRefresh event then 1 else 0) +
      match s.step event with
      | some t => t.callsOf k events
      | none => 0

theorem callsOf_cons {event : Event α} {events : List (Event α)} (h : s.step event = some t) :
    s.callsOf k (event :: events) =
      (if event.isStepOf k && s.beginsRefresh event then 1 else 0) + t.callsOf k events := by
  rw [callsOf, h]

/-- A step with which the caller `k` begins no call is its own affair. -/
theorem isPrivate_of_isStepOf {event : Event α} (hown : event.isStepOf k = true)
    (hbegins : s.beginsRefresh event = false) :
    s.isPrivate (fun i => i = k) event = true := by
  obtain ⟨now, rfl⟩ := eq_proceed_of_isStepOf hown
  simp [System.isPrivate, hbegins]

theorem SameExcept.exists_step_of_other {s₁ : System α} (h : SameExcept (fun i => i = k) s t)
    {event : Event α} (hothers : ∀ now, event ≠ .proceed k now) (hstep : s.step event = some s₁) :
    ∃ t₁, t.step event = some t₁ ∧ SameExcept (fun i => i = k) s₁ t₁ :=
  h.exists_step (fun _ now heq => decide_eq_false fun hi => hothers now (hi ▸ heq)) hstep

/-- A run goes on without the steps of a caller that begins no more calls. -/
theorem exists_run_without (h : SameExcept (fun i => i = k) s t) {events : List (Event α)}
    (hcalls : s.callsOf k events = 0) (hrun : s.run events = some u) :
    ∃ v, t.run (events.filter fun event => !event.isStepOf k) = some v ∧
      t.sharedEvents (fun i => i = k) (events.filter fun event => !event.isStepOf k) =
        s.sharedEvents (fun i => i = k) events := by
  induction events generalizing s t with
  | nil => exact ⟨t, rfl, rfl⟩
  | cons event events ih =>
    obtain ⟨s₁, hstep, hrest⟩ := run_cons_eq_some_iff.mp hrun
    rw [callsOf_cons hstep, Nat.add_eq_zero_iff] at hcalls
    cases hown : event.isStepOf k with
    | true =>
      have hprivate := isPrivate_of_isStepOf (s := s) hown (by simpa [hown] using hcalls.1)
      have hquiet := sameExcept_of_private hstep hprivate
      obtain ⟨v, hv, hshared⟩ := ih (hquiet.symm.trans h) hcalls.2 hrest
      simp only [List.filter_cons, hown, Bool.not_true, Bool.false_eq_true, if_false]
      rw [sharedEvents_cons hstep, if_pos hprivate, List.nil_append]
      exact ⟨v, hv, hshared⟩
    | false =>
      have hothers := isStepOf_eq_false_iff.mp hown
      obtain ⟨t₁, hstep', hsame⟩ := h.exists_step_of_other hothers hstep
      obtain ⟨v, hv, hshared⟩ := ih hsame hcalls.2 hrest
      simp only [List.filter_cons, hown, Bool.not_false, if_true]
      refine ⟨v, run_cons_eq_some_iff.mpr ⟨t₁, hstep', hv⟩, ?_⟩
      rw [sharedEvents_cons hstep', sharedEvents_cons hstep, hshared,
        isPrivate_of_other hothers s t]

/-- Whoever takes no steps is left as it is, but that its token may fire. -/
theorem caller_of_run_without {inquiry : Inquiry α} {w : Option Nat} {events : List (Event α)}
    (hrun : s.run (events.filter fun event => !event.isStepOf k) = some t)
    (h : ∃ c, s.callers[k]? = some ⟨inquiry, w, c⟩) :
    ∃ c, t.callers[k]? = some ⟨inquiry, w, c⟩ := by
  refine caller_of_idle hrun (fun now hmem => ?_) h
  simpa [Event.isStepOf] using (List.mem_filter.mp hmem).2

end Departure

/-- It brings a key, and another refresh replaces it before the last two look at their answers. -/
def replaced : List (Event (Except CacheError VerificationKey)) :=
  [.grant 0, .answer 0 (.ok ⟨[.blank "b"]⟩), .finish 0, .proceed 0 .epoch,
    .call (.refresh (some "c")), .proceed 3 .epoch, .grant 1, .answer 1 (.ok ⟨[.blank "c"]⟩),
    .finish 1, .proceed 3 .epoch, .proceed 1 .epoch, .proceed 2 .epoch]

end System
end BearerAuth
