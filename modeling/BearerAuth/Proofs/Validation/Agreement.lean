import BearerAuth.Proofs.Cache.Answers
import BearerAuth.Proofs.Cache.Interference
import BearerAuth.Proofs.Validation.Alone

/-!
# Inquiries that cannot be told apart

Two inquiries agree if they ask the same questions and come to the same result as long as they get
certain answers. To everything around it, a caller with one of them is then the same as a caller
with the other: the cache goes through the same states, the same refreshes are asked for and all
other callers see the same.
-/
namespace BearerAuth

namespace Dialogue

variable {Q : Type} {A : Q → Type} {α β : Type} {possible : (q : Q) → A q → Prop}

/-- Both dialogues ask the same and come to the same result, a good one, whatever possible answers
they get. After an impossible answer they may differ. -/
inductive Agrees (possible : (q : Q) → A q → Prop) (good : α → Prop) :
    Dialogue Q A α → Dialogue Q A α → Prop
  | done (result : α) (h : good result) : Agrees possible good (done result) (done result)
  | ask (q : Q) (next next' : A q → Dialogue Q A α)
      (h : ∀ answer, possible q answer → Agrees possible good (next answer) (next' answer)) :
    Agrees possible good (ask q next) (ask q next')

theorem Agrees.bind {good : β → Prop} {between : α → Prop} {dialogue dialogue' : Dialogue Q A α}
    {f f' : α → Dialogue Q A β} (h : dialogue.Agrees possible between dialogue')
    (hf : ∀ result, between result → (f result).Agrees possible good (f' result)) :
    (dialogue >>= f).Agrees possible good (dialogue' >>= f') := by
  induction h with
  | done result h => exact hf result h
  | ask q next next' _ ih => exact .ask q _ _ fun answer ha => ih answer ha

end Dialogue

variable {α : Type} {W : Snapshot → Prop} {keyIdDisabled : Bool} {good : α → Prop}

/-- The inquiries agree for all answers out of the snapshots `W`. -/
abbrev Inquiry.Alike (W : Snapshot → Prop) (keyIdDisabled : Bool) (good : α → Prop)
    (inquiry inquiry' : Inquiry α) : Prop :=
  inquiry.Agrees (Question.Fair W (fun _ => True) keyIdDisabled) good inquiry'

namespace Fed

variable {σ : Type}

/-- The snapshots that a caller who is alone is answered from. -/
def consulted (source : Source σ) (cancelled : Bool) (now : Instant) :
    Inquiry α → Fed σ → List Snapshot
  | .done _, _ => []
  | .ask q next, fed =>
    let (answer, later) := respond source cancelled now q fed
    later.cache.snapshot :: consulted source cancelled now (next answer) later

/-- A caller who is alone is answered from the snapshot that it leaves. -/
theorem fair_respond {source : Source σ} {cancelled : Bool} {now : Instant} {fed : Fed σ}
    (q : Question) (hW : W (respond source cancelled now q fed).2.cache.snapshot) :
    Question.Fair W (fun _ => True) fed.cache.settings.keyIdDisabled q
      (respond source cancelled now q fed).1 := by
  cases q with
  | lookup kid => exact ⟨fed.cache.snapshot, hW, rfl⟩
  | now => trivial
  | refresh kid => exact fun key hkey => ⟨_, hW, resolve_of_refresh hkey⟩

/-- Inquiries that agree get the same answers from a cache that serves one caller, and leave it
in the same state. -/
theorem run_eq_of_alike {source : Source σ} {cancelled : Bool} {now : Instant} {fed : Fed σ}
    {inquiry inquiry' : Inquiry α} (hmode : fed.cache.settings.keyIdDisabled = keyIdDisabled)
    (h : inquiry.Alike W keyIdDisabled good inquiry')
    (hW : ∀ snapshot ∈ consulted source cancelled now inquiry fed, W snapshot) :
    inquiry'.run (respond source cancelled now) fed =
        inquiry.run (respond source cancelled now) fed ∧
      good (inquiry.run (respond source cancelled now) fed).1 := by
  induction h generalizing fed with
  | done result h => exact ⟨rfl, h⟩
  | ask q next next' _ ih =>
    obtain ⟨hfirst, hlater⟩ := List.forall_mem_cons.mp hW
    have hfair := fair_respond q hfirst
    rw [hmode] at hfair
    have hsettings := respond_settings source cancelled now q fed
    exact ih _ hfair ((congrArg CacheSettings.keyIdDisabled hsettings).trans hmode) hlater

end Fed

namespace Caller

/-- The caller's next step answers it from the snapshot: from the current one, or from the one
that the refresh it waits for has made. -/
inductive Consults (cache : Cache) : Caller α → Snapshot → Prop
  | lookup (kid : Option String) (next : Option VerificationKey → Inquiry α) (w : Option Nat)
      (c : Bool) : Consults cache ⟨.ask (.lookup kid) next, w, c⟩ cache.snapshot
  | learn (kid : Option String) (next : Except CacheError VerificationKey → Inquiry α) (id : Nat)
      (snapshot : Snapshot) (finished : cache.refreshes[id]? = some (.finished (.ok snapshot))) :
    Consults cache ⟨.ask (.refresh kid) next, some id, false⟩ snapshot

/-- The callers differ at most in inquiries that agree. -/
structure Alike (W : Snapshot → Prop) (keyIdDisabled : Bool) (good : α → Prop)
    (caller caller' : Caller α) : Prop where
  inquiry : caller.inquiry.Alike W keyIdDisabled good caller'.inquiry
  waitingFor : caller'.waitingFor = caller.waitingFor
  cancelled : caller'.cancelled = caller.cancelled

theorem Alike.result?_eq {caller caller' : Caller α}
    (h : caller.Alike W keyIdDisabled good caller') : caller'.result? = caller.result? := by
  obtain ⟨inquiry, w, c⟩ := caller
  obtain ⟨inquiry', w', c'⟩ := caller'
  cases h.inquiry <;> rfl

theorem Alike.good_of_result? {caller caller' : Caller α}
    (h : caller.Alike W keyIdDisabled good caller') {result : α}
    (hresult : caller.result? = some result) : good result := by
  obtain ⟨inquiry, w, c⟩ := caller
  obtain ⟨inquiry', w', c'⟩ := caller'
  cases h.inquiry with
  | done _ hgood =>
    cases hresult
    exact hgood
  | ask q next next' _ => cases hresult

/-- What one of them does, the other can do as well, and afterwards they are still alike. -/
theorem Alike.proceed? {caller caller' next : Caller α} {cache later : Cache} {now : Instant}
    (h : caller.Alike W cache.settings.keyIdDisabled good caller')
    (hW : ∀ snapshot, caller.Consults cache snapshot → W snapshot)
    (hstep : caller.proceed? cache now = some (next, later)) :
    ∃ next', caller'.proceed? cache now = some (next', later) ∧
      next.Alike W cache.settings.keyIdDisabled good next' := by
  obtain ⟨hinquiry, hwaiting, hcancelled⟩ := h
  have hproceeds := proceeds_of_proceed? hstep
  obtain ⟨inquiry', w', c'⟩ := caller'
  cases hproceeds with
  | lookup kid following w c =>
    obtain rfl : w' = w := hwaiting
    obtain rfl : c' = c := hcancelled
    cases hinquiry with
    | ask q _ following' hagree =>
      exact ⟨_, rfl, hagree _ ⟨cache.snapshot, hW _ (.lookup kid following w' c'), rfl⟩, rfl, rfl⟩
  | clock following w c =>
    obtain rfl : w' = w := hwaiting
    obtain rfl : c' = c := hcancelled
    cases hinquiry with
    | ask q _ following' hagree => exact ⟨_, rfl, hagree now trivial, rfl, rfl⟩
  | join kid following c =>
    obtain rfl : w' = none := hwaiting
    obtain rfl : c' = c := hcancelled
    cases hinquiry with
    | ask q _ following' hagree => exact ⟨_, rfl, .ask _ _ _ hagree, rfl, rfl⟩
  | giveUp kid following id =>
    obtain rfl : w' = some id := hwaiting
    obtain rfl : c' = true := hcancelled
    cases hinquiry with
    | ask q _ following' hagree => exact ⟨_, rfl, hagree _ nofun, rfl, rfl⟩
  | learn kid following id outcome finished =>
    obtain rfl : w' = some id := hwaiting
    obtain rfl : c' = false := hcancelled
    cases hinquiry with
    | ask q _ following' hagree =>
      refine ⟨⟨following' (cache.resolveOutcome kid outcome), none, false⟩, ?_,
        hagree _ fun key hkey => ?_, rfl, rfl⟩
      · simp [Caller.proceed?, finished]
      · obtain ⟨snapshot, rfl, hresolve⟩ := Cache.resolveOutcome_eq_ok_iff.mp hkey
        exact ⟨snapshot, hW _ (.learn kid following id snapshot finished), hresolve⟩

end Caller

namespace System

/-- A snapshot that one of the caller's steps along a run answers it from. -/
def ConsultedBy (s : System α) (events : List (Event α)) (i : Nat) (snapshot : Snapshot) : Prop :=
  ∃ before now after m caller, events = before ++ .proceed i now :: after ∧
    s.run before = some m ∧ m.callers[i]? = some caller ∧ caller.Consults m.cache snapshot

theorem ConsultedBy.later {s t : System α} {event : Event α} {events : List (Event α)} {i : Nat}
    {snapshot : Snapshot} (hstep : s.step event = some t) (h : t.ConsultedBy events i snapshot) :
    s.ConsultedBy (event :: events) i snapshot := by
  obtain ⟨before, now, after, m, caller, rfl, hrun, hcaller, hconsults⟩ := h
  exact ⟨event :: before, now, after, m, caller, rfl,
    run_cons_eq_some_iff.mpr ⟨t, hstep, hrun⟩, hcaller, hconsults⟩

/-- The same cache and the same callers, apart from the caller `i`, whose inquiries agree. -/
structure Alike (W : Snapshot → Prop) (keyIdDisabled : Bool) (good : α → Prop) (i : Nat)
    (s s' : System α) : Prop where
  others : SameExcept (fun j => j == i) s s'
  caller : ∃ caller caller', s.callers[i]? = some caller ∧ s'.callers[i]? = some caller' ∧
    caller.Alike W keyIdDisabled good caller'

variable {i : Nat}

theorem Alike.beginsRefresh_eq {s s' : System α} (h : s.Alike W keyIdDisabled good i s')
    (event : Event α) : s'.beginsRefresh event = s.beginsRefresh event := by
  cases event with
  | proceed j now =>
    by_cases hj : j = i
    · subst hj
      obtain ⟨⟨inquiry, w, c⟩, ⟨inquiry', w', c'⟩, hi, hi', halike⟩ := h.caller
      obtain rfl : w' = w := halike.waitingFor
      simp only [beginsRefresh, hi, hi']
      cases halike.inquiry with
      | done result => rfl
      | ask q next next' => cases q <;> cases w' <;> rfl
    · simp only [beginsRefresh, h.others.caller j (by simpa using hj)]
  | _ => rfl

/-- The steps of the caller itself. -/
theorem Alike.proceed {s s' t : System α} {now : Instant}
    (h : s.Alike W s.cache.settings.keyIdDisabled good i s')
    (hW : ∀ snapshot, s.ConsultedBy [.proceed i now] i snapshot → W snapshot)
    (hstep : s.step (.proceed i now) = some t) :
    ∃ t', s'.step (.proceed i now) = some t' ∧
      t.Alike W s.cache.settings.keyIdDisabled good i t' := by
  obtain ⟨caller, caller', hi, hi', halike⟩ := h.caller
  obtain ⟨_, next, later, hcaller, hproceed, rfl⟩ := step_proceed_eq_some_iff.mp hstep
  cases hi.symm.trans hcaller
  obtain ⟨next', hproceed', halike'⟩ := halike.proceed? (fun snapshot hconsults =>
    hW snapshot ⟨[], now, [], s, caller, rfl, rfl, hi, hconsults⟩) hproceed
  rw [h.others.cache] at hproceed'
  refine ⟨⟨later, s'.callers.set i next'⟩,
    step_proceed_eq_some_iff.mpr ⟨caller', next', later, hi', hproceed', rfl⟩, ?_, next, next',
    ?_, ?_, halike'⟩
  · refine ⟨rfl, by simp [h.others.length], fun j hj => ?_⟩
    have hne : i ≠ j := fun heq => by simp [heq] at hj
    simp only [List.getElem?_set_ne hne, h.others.caller j hj]
  · rw [Cache.getElem?_set_of_some hi, if_pos rfl]
  · rw [Cache.getElem?_set_of_some hi', if_pos rfl]

/-- Every step of one system is a step of the other, and they stay alike. -/
theorem Alike.step {s s' t : System α} {event : Event α}
    (h : s.Alike W s.cache.settings.keyIdDisabled good i s')
    (hW : ∀ snapshot, s.ConsultedBy [event] i snapshot → W snapshot)
    (hstep : s.step event = some t) :
    ∃ t', s'.step event = some t' ∧ t.Alike W s.cache.settings.keyIdDisabled good i t' := by
  by_cases hown : ∃ now, event = .proceed i now
  · obtain ⟨now, rfl⟩ := hown
    exact h.proceed hW hstep
  obtain ⟨t', hstep', hothers⟩ := h.others.exists_step (fun j now heq => by
    simp only [beq_eq_false_iff_ne, ne_eq]
    rintro rfl
    exact hown ⟨now, heq⟩) hstep
  refine ⟨t', hstep', hothers, ?_⟩
  obtain ⟨caller, caller', hi, hi', halike⟩ := h.caller
  by_cases hcancel : event = .cancel i
  · subst hcancel
    cases hstep
    cases hstep'
    exact ⟨{ caller with cancelled := true }, { caller' with cancelled := true }, by simp [hi],
      by simp [hi'], halike.inquiry, halike.waitingFor, rfl⟩
  · have hrests {u v : System α} {c : Caller α} (hu : u.step event = some v)
        (hc : u.callers[i]? = some c) : v.callers[i]? = some c := by
      obtain ⟨next, hnext, ⟨rfl, -⟩ | ⟨-, rfl⟩ | ⟨now, rfl, -⟩⟩ := caller_of_step hu hc
      · exact hnext
      · exact absurd rfl hcancel
      · exact absurd ⟨now, rfl⟩ hown
    exact ⟨caller, caller', hrests hstep hi, hrests hstep' hi', halike⟩

/-- Every run of one system is a run of the other, with as many calls of refresh. -/
theorem Alike.run {s s' t : System α} {events : List (Event α)}
    (hmode : s.cache.settings.keyIdDisabled = keyIdDisabled)
    (h : s.Alike W keyIdDisabled good i s')
    (hW : ∀ snapshot, s.ConsultedBy events i snapshot → W snapshot)
    (hrun : s.run events = some t) :
    ∃ t', s'.run events = some t' ∧ t.Alike W keyIdDisabled good i t' ∧
      s'.refreshCalls events = s.refreshCalls events := by
  induction events generalizing s s' with
  | nil =>
    cases hrun
    exact ⟨s', rfl, h, rfl⟩
  | cons event events ih =>
    obtain ⟨m, hm, hrest⟩ := run_cons_eq_some_iff.mp hrun
    have hfirst : ∀ snapshot, s.ConsultedBy [event] i snapshot → W snapshot := by
      rintro snapshot ⟨before, now, after, u, caller, heq, hbefore, hcaller, hconsults⟩
      obtain ⟨rfl, hproceed⟩ : before = [] ∧ event = .proceed i now := by
        cases before with
        | nil => exact ⟨rfl, (List.cons.inj heq).1⟩
        | cons first rest => simp at heq
      cases hbefore
      exact hW snapshot ⟨[], now, events, s, caller, by rw [hproceed]; rfl, rfl, hcaller,
        hconsults⟩
    subst hmode
    obtain ⟨m', hm', halike⟩ := h.step hfirst hm
    obtain ⟨t', ht', hlast, hcalls⟩ := ih
      (congrArg CacheSettings.keyIdDisabled (move_of_step hm).settings_eq) halike
      (fun snapshot hlater => hW snapshot (hlater.later hm)) hrest
    refine ⟨t', run_cons_eq_some_iff.mpr ⟨m', hm', ht'⟩, hlast, ?_⟩
    rw [refreshCalls_cons hm', refreshCalls_cons hm, h.beginsRefresh_eq event, hcalls]

/-- The state after a call. -/
def called (s : System α) (inquiry : Inquiry α) : System α :=
  ⟨s.cache, s.callers ++ [⟨inquiry, none, false⟩]⟩

theorem step_call (s : System α) (inquiry : Inquiry α) :
    s.step (.call inquiry) = some (s.called inquiry) := rfl

theorem alike_called (s : System α) {inquiry inquiry' : Inquiry α}
    (h : inquiry.Alike W keyIdDisabled good inquiry') :
    (s.called inquiry).Alike W keyIdDisabled good s.callers.length (s.called inquiry') := by
  refine ⟨⟨rfl, by simp [called], fun j hj => ?_⟩, ⟨inquiry, none, false⟩, ⟨inquiry', none, false⟩,
    List.getElem?_concat_length, List.getElem?_concat_length, h, rfl, rfl⟩
  have hne : j ≠ s.callers.length := by simpa using hj
  rcases Nat.lt_or_gt_of_ne hne with hlt | hgt
  · simp only [called, List.getElem?_append_left hlt]
  · rw [called, called, List.getElem?_eq_none (by simp; omega),
      List.getElem?_eq_none (by simp; omega)]

/-- A caller can make the other call in place of the one. Nobody else notices, and the result is
the same. -/
theorem exists_run_called {s t : System α} {events : List (Event α)} {inquiry inquiry' : Inquiry α}
    (h : inquiry.Alike (s.ConsultedBy (.call inquiry :: events) s.callers.length)
      s.cache.settings.keyIdDisabled good inquiry')
    (hrun : s.run (.call inquiry :: events) = some t) :
    ∃ t', s.run (.call inquiry' :: events) = some t' ∧
      t.Alike (s.ConsultedBy (.call inquiry :: events) s.callers.length)
        s.cache.settings.keyIdDisabled good s.callers.length t' ∧
      s.refreshCalls (.call inquiry' :: events) = s.refreshCalls (.call inquiry :: events) := by
  obtain ⟨m, hm, hrest⟩ := run_cons_eq_some_iff.mp hrun
  obtain rfl : s.called inquiry = m := Option.some.inj ((step_call s inquiry).symm.trans hm)
  obtain ⟨t', ht', hlast, hcalls⟩ := (s.alike_called h).run rfl
    (fun snapshot hlater => hlater.later (step_call s inquiry)) hrest
  refine ⟨t', run_cons_eq_some_iff.mpr ⟨_, step_call s inquiry', ht'⟩, hlast, ?_⟩
  rw [refreshCalls_cons (step_call s inquiry'), refreshCalls_cons (step_call s inquiry), hcalls]
  rfl

end System
end BearerAuth
