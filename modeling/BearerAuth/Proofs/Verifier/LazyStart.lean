import BearerAuth.Proofs.Validation.Alone
import BearerAuth.Proofs.Verifier.LazyRuns
import BearerAuth.Verifier.Verifier

/-!
# A lazy verifier starts once

However the steps of its callers, the replies to their starts and the firing of their tokens
are mixed, a lazy verifier has at most one start under way. It takes the first one that
succeeds, and from then on everyone validates against the cache that this start has made. A
start that fails or is cancelled concerns only the caller who ran it.
-/
namespace BearerAuth

open Http

namespace LazyStart

variable {config : Config} {state next final : LazyStart} {event : LazyEvent}
  {events : List LazyEvent} {i j : Nat} {caller caller' : LazyCaller}

/-- What comes of a reply, as the last of the `replies` to the start of the caller `i`. -/
structure Advances (config : Config) (replies : List Exchange) (i : Nat) (caller : LazyCaller)
    (state next : LazyStart) : Prop where
  course : (∃ url, config.Locates replies url) ∨ (∃ url keys, config.Obtains replies url keys) ∨
    ∃ fault, config.Fails replies fault
  /-- The URL of the key set has been found, and the key set is asked for. -/
  located : ∀ url, config.Locates replies url → next.service = none ∧ next.Starts i ∧
    next.requests = state.requests ++ [(i, url)]
  /-- A key set has been obtained. The verifier has started, and the caller is the first to
  validate. -/
  obtained : ∀ url keys, config.Obtains replies url keys → next.holder = none ∧
    next.requests = state.requests ∧
    next.callers[i]? = some { caller with stage := .validating 0 } ∧
    next.service = some ⟨url, ⟨.initial config.cacheSettings keys,
      [⟨validate config.policy config.keyIdDisabled caller.token, none, false⟩]⟩⟩
  /-- The caller is told what is misconfigured, and the verifier has not started. -/
  failed : ∀ fault, config.Fails replies fault → next.service = none ∧ next.holder = none ∧
    next.requests = state.requests ∧ next.result? i = some (.error (.configuration fault))

/-- What a run through `events` has come to, and what can come next. -/
structure StartsOnce (config : Config) (events : List LazyEvent) (state : LazyStart) : Prop where
  /-- At most one start is under way. -/
  sole : ∀ i j, state.Starts i → state.Starts j → i = j
  /-- The lock is with the caller whose start is under way, and with nobody else. -/
  holder : ∀ i, state.holder = some i ↔ state.Starts i
  /-- The start of a caller who has not been cancelled takes the next reply, whatever it is. -/
  replied : ∀ i caller exchange, state.callers[i]? = some caller →
    caller.stage.isStarting = true → caller.cancelled = false →
      ∃ next, state.step (.reply i exchange) = some next ∧
        Advances config (repliesTo i (events ++ [.reply i exchange])) i caller state next
  /-- In no other way than by such a reply does the verifier start. -/
  started : ∀ event next service, state.service = none → state.step event = some next →
    next.service = some service → ∃ i exchange keys, event = .reply i exchange ∧
      config.Obtains (repliesTo i (events ++ [event])) service.jwksUrl keys
  /-- The start of a caller who has been cancelled takes no reply any more, and ends. -/
  aborted : ∀ i caller now, state.callers[i]? = some caller →
    caller.stage.isStarting = true → caller.cancelled = true →
      (∀ exchange, state.step (.reply i exchange) = none) ∧
      ∃ next, state.step (.proceed i now) = some next ∧ next.service = none ∧
        next.holder = none ∧ next.requests = state.requests ∧
          next.result? i = some (.error .cancelled)
  /-- While no start is under way, a caller who waits begins one. -/
  resumed : state.service = none → state.holder = none → ∀ i caller now,
    state.callers[i]? = some caller → caller.stage = .waiting → caller.cancelled = false →
      ∃ next, state.step (.proceed i now) = some next ∧ next.Starts i ∧
        next.requests = state.requests ++ [(i, config.firstUrl)]
  /-- So does the next one to call. -/
  retried : state.service = none → state.holder = none → ∀ token now,
    let i := state.callers.length
    ∃ next, state.run [.call token, .proceed i now, .proceed i now] = some next ∧
      next.Starts i ∧ next.requests = state.requests ++ [(i, config.firstUrl)]
  /-- A caller who has been cancelled before its start requests nothing, now or later. -/
  unasked : ∀ i caller now, state.service = none → state.callers[i]? = some caller →
    caller.stage.hasBegun = false → caller.cancelled = true →
      ∃ next, state.step (.proceed i now) = some next ∧ next.service = none ∧
        ∀ later final, next.run later = some final →
          final.result? i = some (.error .cancelled) ∧ ∀ url, (i, url) ∉ final.requests
  /-- Nobody is refused for another reason. -/
  refused : ∀ (i : Nat) (caller : LazyCaller) (rejection : Rejection),
    state.callers[i]? = some caller → caller.stage = .refused rejection →
      (rejection = .cancelled ∧ caller.cancelled = true) ∨
        ∃ fault, rejection = .configuration fault ∧ config.Fails (repliesTo i events) fault
  /-- Once the verifier has started no start is under way, its cache is the one that the replies
  to a single start have made, and everyone validates against it. -/
  served : ∀ service, state.service = some service → (∀ i, ¬ state.Starts i) ∧
    ∃ i keys history, config.Obtains (repliesTo i events) service.jwksUrl keys ∧
      (System.opening (.initial config.cacheSettings keys)).run history = some service.system ∧
      ∀ (j : Nat) (caller : LazyCaller) (number : Nat), state.callers[j]? = some caller →
        caller.stage = .validating number → (inquiries history)[number]? =
          some (validate config.policy config.keyIdDisabled caller.token)
  /-- Those who come, or have waited for the start, join in. -/
  joined : ∀ service i caller now, state.service = some service →
    state.callers[i]? = some caller →
      (caller.stage = .arrived ∨ (caller.stage = .waiting ∧ caller.cancelled = false)) →
        state.step (.proceed i now) = some (state.enroll i caller service)
  /-- It stays with this cache, and no start requests anything any more. -/
  kept : ∀ service, state.service = some service → ∀ later final,
    state.run later = some final → final.requests = state.requests ∧
      ∃ after history, final.service = some after ∧ after.jwksUrl = service.jwksUrl ∧
        service.system.run history = some after.system

/-! The steps of a start. -/
section Steps

variable {history : List (Event (Except Rejection ValidatedToken))}

theorem step_reply {url : String} {ask : Exchange → Requests (Except Misconfiguration Started)}
    (hi : state.callers[i]? = some caller) (hstage : caller.stage = .starting url ask)
    (live : caller.cancelled = false) (exchange : Exchange) :
    state.step (.reply i exchange) = some (state.advance i caller (ask exchange)) := by
  simp [step, reply?, hi, hstage, live]

theorem exists_starting_of_isStarting {stage : LazyStage} (h : stage.isStarting = true) :
    ∃ url ask, stage = .starting url ask := by
  cases stage with
  | starting url ask => exact ⟨url, ask, rfl⟩
  | _ => cases h

theorem starts_advance_ask {url : String}
    {ask : Exchange → Requests (Except Misconfiguration Started)}
    (hi : state.callers[i]? = some caller) : (state.advance i caller (.ask url ask)).Starts i :=
  (starts_setCaller hi).mpr (by rw [if_pos rfl]; rfl)

theorem result?_setCaller_refused {rejection : Rejection} (hi : state.callers[i]? = some caller) :
    (state.setCaller i { caller with stage := .refused rejection }).result? i =
      some (.error rejection) := by
  have hset := Cache.getElem?_set_of_some (b := { caller with stage := .refused rejection })
    (j := i) hi
  rw [if_pos rfl] at hset
  simp only [result?, setCaller, hset]

theorem Accounts.advances (h : Accounts config events state history)
    (hi : state.callers[i]? = some caller) (hstarting : caller.stage.isStarting = true)
    (live : caller.cancelled = false) (exchange : Exchange) :
    ∃ next, state.step (.reply i exchange) = some next ∧
      Advances config (repliesTo i (events ++ [.reply i exchange])) i caller state next := by
  obtain ⟨url, ask, hstage⟩ := exists_starting_of_isStarting hstarting
  have hresumes : config.startup.resume (repliesTo i events) = .ask url ask := by
    have own := h.callers i caller hi
    rwa [LazyCaller.Accounted, hstage] at own
  have hunserved := h.unserved_of_starts ⟨caller, hi, hstarting⟩
  have hnext := Dialogue.resume_append_singleton hresumes exchange
  refine ⟨_, step_reply hi hstage live exchange, ?_⟩
  rw [repliesTo_reply]
  exact
    { course := Config.cases_of_reply hresumes exchange
      located := by
        intro found hlocates
        rw [hnext.symm.trans hlocates.resume]
        exact ⟨hunserved, starts_advance_ask hi, rfl⟩
      obtained := by
        intro found keys hobtains
        rw [hnext.symm.trans hobtains.resume]
        refine ⟨rfl, rfl, (Cache.getElem?_set_of_some hi).trans (if_pos rfl), ?_⟩
        simp only [LazyStart.advance, LazyStart.enroll, Service.enroll, live, h.configured]
        rfl
      failed := by
        intro fault hfails
        rw [hnext.symm.trans hfails.resume]
        exact ⟨hunserved, rfl, rfl, result?_setCaller_refused hi⟩ }

theorem Accounts.started (h : Accounts config events state history) {service : Service}
    (unserved : state.service = none) (hstep : state.step event = some next)
    (hserved : next.service = some service) : ∃ i exchange keys, event = .reply i exchange ∧
      config.Obtains (repliesTo i (events ++ [event])) service.jwksUrl keys := by
  cases moves_of_step hstep with
  | reply i exchange caller url ask found starting live =>
    obtain ⟨next', hnext, hadvances⟩ := h.advances found (by rw [starting]; rfl) live exchange
    cases hstep.symm.trans hnext
    obtain ⟨url, hlocates⟩ | ⟨url, keys, hobtains⟩ | ⟨fault, hfails⟩ := hadvances.course
    · cases (hadvances.located url hlocates).1.symm.trans hserved
    · obtain ⟨-, -, -, hservice⟩ := hadvances.obtained url keys hobtains
      cases hservice.symm.trans hserved
      exact ⟨i, exchange, keys, rfl, hobtains⟩
    · cases (hadvances.failed fault hfails).1.symm.trans hserved
  | begin i now caller found waiting live unserved free =>
    obtain ⟨ask, hstartup⟩ := state.config.exists_startup
    rw [hstartup] at hserved
    cases unserved.symm.trans hserved
  | fireServed i number caller service' system found served steps =>
    cases unserved.symm.trans served
  | serve event inner service' system quiet uncalled served steps =>
    cases unserved.symm.trans served
  | enroll i now caller service' found idle served => cases unserved.symm.trans served
  | _ => cases unserved.symm.trans hserved

theorem Accounts.aborted (h : Accounts config events state history)
    (hi : state.callers[i]? = some caller) (hstarting : caller.stage.isStarting = true)
    (hcancelled : caller.cancelled = true) (now : Instant) :
    (∀ exchange, state.step (.reply i exchange) = none) ∧
      ∃ next, state.step (.proceed i now) = some next ∧ next.service = none ∧
        next.holder = none ∧ next.requests = state.requests ∧
          next.result? i = some (.error .cancelled) := by
  obtain ⟨url, ask, hstage⟩ := exists_starting_of_isStarting hstarting
  have hunserved := h.unserved_of_starts ⟨caller, hi, hstarting⟩
  constructor
  · intro exchange
    simp [LazyStart.step, reply?, hi, hstage, hcancelled]
  · refine ⟨{ state.setCaller i { caller with stage := .refused .cancelled } with
      holder := none }, ?_, hunserved, rfl, rfl, result?_setCaller_refused hi⟩
    simp [LazyStart.step, proceed?, hi, hstage, hcancelled]

theorem exists_begin (hi : state.callers[i]? = some caller) (hstage : caller.stage = .waiting)
    (live : caller.cancelled = false) (hconfig : state.config = config)
    (unserved : state.service = none) (free : state.holder = none) (now : Instant) :
    ∃ next, state.step (.proceed i now) = some next ∧ next.Starts i ∧
      next.requests = state.requests ++ [(i, config.firstUrl)] := by
  obtain ⟨ask, hstartup⟩ := config.exists_startup
  refine ⟨state.advance i caller (.ask config.firstUrl ask), ?_, starts_advance_ask hi, rfl⟩
  simp [step, proceed?, hi, hstage, live, unserved, free, hconfig, hstartup]

theorem exists_retry (hconfig : state.config = config) (unserved : state.service = none)
    (free : state.holder = none) (token : String) (now : Instant) :
    ∃ next, state.run [.call token, .proceed state.callers.length now,
        .proceed state.callers.length now] = some next ∧
      next.Starts state.callers.length ∧
        next.requests = state.requests ++ [(state.callers.length, config.firstUrl)] := by
  -- The call, its first step into the queue, and the beginning of its start.
  let called : LazyStart := { state with callers := state.callers ++ [⟨token, .arrived, false⟩] }
  let queued := called.setCaller state.callers.length ⟨token, .waiting, false⟩
  have hcalled : called.callers[state.callers.length]? = some ⟨token, .arrived, false⟩ :=
    List.getElem?_concat_length
  have hqueued : queued.callers[state.callers.length]? = some ⟨token, .waiting, false⟩ :=
    (Cache.getElem?_set_of_some hcalled).trans (if_pos rfl)
  have hqueue : called.step (.proceed state.callers.length now) = some queued := by
    simp only [step, proceed?, hcalled]
    rw [show called.service = none from unserved]
    rfl
  obtain ⟨next, hbegin, hstarts, hrequests⟩ :=
    exists_begin hqueued rfl rfl hconfig unserved free now
  refine ⟨next, ?_, hstarts, hrequests⟩
  have hcall : state.step (.call token) = some called := rfl
  simp only [run, List.foldlM_cons, List.foldlM_nil, hcall, hqueue, hbegin, Option.bind_eq_bind,
    Option.bind_some]
  rfl

end Steps

/-- A caller has been refused because it was cancelled, and has never begun a start. -/
def SitsOut (state : LazyStart) (i : Nat) : Prop :=
  (∃ caller, state.callers[i]? = some caller ∧ caller.stage = .refused .cancelled) ∧
    ∀ url, (i, url) ∉ state.requests

theorem SitsOut.result? (h : state.SitsOut i) : state.result? i = some (.error .cancelled) := by
  obtain ⟨⟨⟨token, stage, cancelled⟩, hi, rfl⟩, -⟩ := h
  simp only [LazyStart.result?, hi]

theorem getElem?_setCaller_of_ne (h : i ≠ j) :
    (state.setCaller i caller').callers[j]? = state.callers[j]? :=
  List.getElem?_set_ne h

/-- A start concerns nobody else. -/
theorem sitsOut_advance {requests : Requests (Except Misconfiguration Started)} (hne : i ≠ j)
    (h : state.SitsOut j) : (state.advance i caller requests).SitsOut j := by
  obtain ⟨⟨other, hj, hstage⟩, hrequests⟩ := h
  have hother : ∀ caller' : LazyCaller, ∃ other, (state.setCaller i caller').callers[j]? =
      some other ∧ other.stage = .refused .cancelled :=
    fun caller' => ⟨other, (getElem?_setCaller_of_ne hne).trans hj, hstage⟩
  cases requests with
  | ask url ask =>
    refine ⟨hother _, fun url' hmem => ?_⟩
    obtain hold | hnew := List.mem_append.mp hmem
    · exact hrequests url' hold
    · cases List.mem_singleton.mp hnew
      exact hne rfl
  | done result =>
    cases result with
    | ok started => exact ⟨hother _, hrequests⟩
    | error fault => exact ⟨hother _, hrequests⟩

theorem SitsOut.step (h : state.SitsOut i) (hstep : state.step event = some next) :
    next.SitsOut i := by
  obtain ⟨⟨caller, hi, hstage⟩, hrequests⟩ := h
  have hstill : ∀ {j : Nat} {other : LazyCaller}, j ≠ i →
      ∃ caller, (state.setCaller j other).callers[i]? = some caller ∧
        caller.stage = .refused .cancelled :=
    fun hne => ⟨caller, (getElem?_setCaller_of_ne hne).trans hi, hstage⟩
  -- Whoever moves on waits for a turn or runs a start, so it is somebody else.
  have hne : ∀ {j : Nat} {other : LazyCaller}, state.callers[j]? = some other →
      (other.stage.hasBegun = false ∨ other.stage.isStarting = true) → j ≠ i := by
    rintro j other hj hother rfl
    cases hj.symm.trans hi
    rw [hstage] at hother
    obtain hidle | hstarting := hother
    · cases hidle
    · cases hstarting
  have hfire : ∀ {j : Nat} {other : LazyCaller}, state.callers[j]? = some other →
      ∃ caller, (state.setCaller j { other with cancelled := true }).callers[i]? = some caller ∧
        caller.stage = .refused .cancelled := by
    intro j other hj
    by_cases hij : j = i
    · subst hij
      cases hj.symm.trans hi
      exact ⟨_, (Cache.getElem?_set_of_some hi).trans (if_pos rfl), hstage⟩
    · exact hstill hij
  cases moves_of_step hstep with
  | call token =>
    obtain ⟨hlt, -⟩ := List.getElem?_eq_some_iff.mp hi
    exact ⟨⟨caller, (List.getElem?_append_left hlt).trans hi, hstage⟩, hrequests⟩
  | miss j => exact ⟨⟨caller, hi, hstage⟩, hrequests⟩
  | fire j other found => exact ⟨hfire found, hrequests⟩
  | fireServed j number other service system found served steps => exact ⟨hfire found, hrequests⟩
  | serve event inner service system quiet uncalled served steps =>
    exact ⟨⟨caller, hi, hstage⟩, hrequests⟩
  | enroll j now other service found idle served =>
    exact ⟨hstill (hne found (.inl idle)), hrequests⟩
  | queue j now other found idle => exact ⟨hstill (hne found (.inl idle)), hrequests⟩
  | giveUp j now other found idle cancelled =>
    exact ⟨hstill (hne found (.inl idle)), hrequests⟩
  | abort j now other found starting cancelled =>
    exact ⟨hstill (hne found (.inr starting)), hrequests⟩
  | begin j now other found waiting live unserved free =>
    have hother := hne found (.inl (by rw [waiting]; rfl))
    exact sitsOut_advance hother ⟨⟨caller, hi, hstage⟩, hrequests⟩
  | reply j exchange other url ask found starting live =>
    have hother := hne found (.inr (by rw [starting]; rfl))
    exact sitsOut_advance hother ⟨⟨caller, hi, hstage⟩, hrequests⟩

theorem run_cons_eq_some_iff : state.run (event :: events) = some final ↔
    ∃ m, state.step event = some m ∧ m.run events = some final := by
  rw [← List.singleton_append, run_append_eq_some_iff, run_singleton]

theorem SitsOut.run (h : state.SitsOut i) (hrun : state.run events = some final) :
    final.SitsOut i := by
  induction events generalizing state with
  | nil =>
    cases hrun
    exact h
  | cons event events ih =>
    obtain ⟨m, hstep, hrest⟩ := run_cons_eq_some_iff.mp hrun
    exact ih (h.step hstep) hrest

section Served

variable {history : List (Event (Except Rejection ValidatedToken))} {service : Service}

/-- What becomes of a verifier that has started. -/
structure Keeps (state : LazyStart) (service : Service) (final : LazyStart) : Prop where
  requests : final.requests = state.requests
  served : ∃ after history, final.service = some after ∧ after.jwksUrl = service.jwksUrl ∧
    service.system.run history = some after.system

theorem Accounts.keeps (h : Accounts config events state history)
    (hserved : state.service = some service) (hstep : state.step event = some next) :
    Keeps state service next := by
  have hrest : ∃ after history, some service = some after ∧ after.jwksUrl = service.jwksUrl ∧
      service.system.run history = some after.system := ⟨service, [], rfl, rfl, rfl⟩
  have hinner : ∀ {inner : Event (Except Rejection ValidatedToken)} {service' : Service}
      {system : System (Except Rejection ValidatedToken)}, state.service = some service' →
      service'.system.step inner = some system → ∃ after history,
        some { service' with system } = some after ∧ after.jwksUrl = service.jwksUrl ∧
          service.system.run history = some after.system := by
    intro inner service' system hservice' hsteps
    cases hserved.symm.trans hservice'
    exact ⟨_, [inner], rfl, rfl, System.run_cons_eq_some_iff.mpr ⟨_, hsteps, rfl⟩⟩
  have hnone := h.not_starts_of_free (h.served service hserved).1
  cases moves_of_step hstep with
  | fireServed i number caller service' system found served steps =>
    exact ⟨rfl, hinner served steps⟩
  | serve event inner service' system quiet uncalled served steps =>
    exact ⟨rfl, hinner served steps⟩
  | enroll i now caller service' found idle served =>
    cases hserved.symm.trans served
    obtain ⟨later, hlater, -⟩ := service.exists_run_enroll state.config caller
    exact ⟨rfl, _, later, rfl, rfl, hlater⟩
  | begin i now caller found waiting live unserved free => cases unserved.symm.trans hserved
  | reply i exchange caller url ask found starting live =>
    exact absurd ⟨caller, found, by rw [starting]; rfl⟩ (hnone i)
  | _ => exact ⟨rfl, hserved ▸ hrest⟩

theorem Accounts.keeps_run (h : Accounts config events state history)
    (hserved : state.service = some service) {later : List LazyEvent}
    (hrun : state.run later = some final) : Keeps state service final := by
  induction later generalizing events state service history with
  | nil =>
    cases hrun
    exact ⟨rfl, service, [], hserved, rfl, rfl⟩
  | cons event later ih =>
    obtain ⟨m, hstep, hrest⟩ := run_cons_eq_some_iff.mp hrun
    obtain ⟨history', h'⟩ := h.step hstep
    obtain ⟨hrequests, mid, past, hmid, hurl, hpast⟩ := h.keeps hserved hstep
    obtain ⟨hrequests', after, rest, hafter, hurl', hrest⟩ := ih h' hmid hrest
    exact ⟨hrequests'.trans hrequests, after, past ++ rest, hafter, hurl'.trans hurl,
      System.run_append_eq_some_iff.mpr ⟨_, hpast, hrest⟩⟩

end Served

theorem Accounts.exists_sitOut (h : Accounts config events state history)
    (unserved : state.service = none) (hi : state.callers[i]? = some caller)
    (idle : caller.stage.hasBegun = false) (hcancelled : caller.cancelled = true)
    (now : Instant) :
    ∃ next, state.step (.proceed i now) = some next ∧ next.service = none ∧ next.SitsOut i := by
  refine ⟨state.setCaller i { caller with stage := .refused .cancelled }, ?_, unserved,
    ⟨_, (Cache.getElem?_set_of_some hi).trans (if_pos rfl), rfl⟩, fun url hmem => ?_⟩
  · obtain ⟨token, stage, cancelled⟩ := caller
    cases hcancelled
    cases stage with
    | arrived => simp [LazyStart.step, proceed?, hi, unserved]
    | waiting => simp [LazyStart.step, proceed?, hi]
    | _ => cases idle
  · obtain ⟨other, hother, hbegun⟩ := h.requests i url hmem
    cases hi.symm.trans hother
    cases idle.symm.trans hbegun

/-- Whatever happens to a lazy verifier, it starts once. -/
theorem starts_once (hrun : (opening config).run events = some state) :
    StartsOnce config events state := by
  obtain ⟨history, h⟩ := accounts_of_run hrun
  exact
    { sole := fun i j hi hj => h.eq_of_starts hj hi
      holder := h.holder
      replied := fun i caller exchange hi hstarting live => h.advances hi hstarting live exchange
      started := fun event next service unserved hstep hserved =>
        h.started unserved hstep hserved
      aborted := fun i caller now hi hstarting hcancelled => h.aborted hi hstarting hcancelled now
      resumed := fun unserved free i caller now hi hstage live =>
        exists_begin hi hstage live h.configured unserved free now
      retried := fun unserved free token now => exists_retry h.configured unserved free token now
      unasked := by
        intro i caller now unserved hi idle hcancelled
        obtain ⟨next, hstep, hnext, hout⟩ := h.exists_sitOut unserved hi idle hcancelled now
        refine ⟨next, hstep, hnext, fun later final hlater => ?_⟩
        exact ⟨(hout.run hlater).result?, (hout.run hlater).2⟩
      refused := by
        intro i caller rejection hi hstage
        have own := h.callers i caller hi
        rwa [LazyCaller.Accounted, hstage] at own
      served := by
        intro service hserved
        obtain ⟨hfree, i, keys, hobtains, hrun⟩ := h.served service hserved
        refine ⟨h.not_starts_of_free hfree, i, keys, history, hobtains, hrun, ?_⟩
        intro j caller number hj hstage
        have own := h.callers j caller hj
        rwa [LazyCaller.Accounted, hstage] at own
      joined := by
        intro service i caller now hserved hi hcaller
        obtain hstage | ⟨hstage, live⟩ := hcaller
        · simp [step, proceed?, hi, hstage, hserved]
        · simp [step, proceed?, hi, hstage, live, hserved]
      kept := by
        intro service hserved later final hlater
        obtain ⟨hrequests, hafter⟩ := h.keeps_run hserved hlater
        exact ⟨hrequests, hafter⟩ }

/-! A caller who is alone, and a network that replies to it. -/
section Alone

/-- What the end of a start comes to for its caller and for the verifier. -/
def Concludes (state : LazyStart) (i : Nat) (caller : LazyCaller) (final : LazyStart) :
    Except Misconfiguration Started → Prop
  | .ok started => final.callers[i]? = some { caller with stage := .validating 0 } ∧
    final.service = some ⟨started.jwksUrl, ⟨started.cache,
      [⟨validate state.config.policy started.cache.settings.keyIdDisabled caller.token, none,
        caller.cancelled⟩]⟩⟩
  | .error fault =>
    final.service = state.service ∧ final.result? i = some (.error (.configuration fault))

theorem exists_run_requests (requests : Requests (Except Misconfiguration Started))
    (network : Network) (hi : state.callers[i]? = some caller) (live : caller.cancelled = false) :
    ∃ events final, (state.advance i caller requests).run events = some final ∧
      state.Concludes i caller final (Verifier.runRequests requests network).1 := by
  -- By the requests that are left: each takes one reply, and the start goes on with the rest.
  induction requests generalizing state caller network with
  | done result =>
    refine ⟨[], _, rfl, ?_⟩
    cases result with
    | ok started => exact ⟨(Cache.getElem?_set_of_some hi).trans (if_pos rfl), rfl⟩
    | error fault => exact ⟨rfl, result?_setCaller_refused hi⟩
  | ask url next ih =>
    obtain ⟨exchange, network', hget⟩ : ∃ exchange network',
        network.get url = (exchange, network') := ⟨_, _, rfl⟩
    have hasked : (state.advance i caller (.ask url next)).callers[i]? =
        some { caller with stage := .starting url next } :=
      (Cache.getElem?_set_of_some hi).trans (if_pos rfl)
    obtain ⟨events, final, hrun, hfinal⟩ := ih exchange network' hasked live
    refine ⟨.reply i exchange :: events, final,
      run_cons_eq_some_iff.mpr ⟨_, step_reply hasked rfl live exchange, hrun⟩, ?_⟩
    rw [Verifier.runRequests, Dialogue.run_ask, hget]
    exact hfinal

/-- Whatever the cache does while only one caller validates, the verifier does. -/
theorem exists_step_of_isAlone {service : Service} {number : Nat}
    {inner : Event (Except Rejection ValidatedToken)}
    {system : System (Except Rejection ValidatedToken)} (hi : state.callers[i]? = some caller)
    (hstage : caller.stage = .validating number) (hserved : state.service = some service)
    (halone : inner.isAlone number = true) (hinner : service.system.step inner = some system) :
    ∃ event, state.step event = some { state with service := some { service with system } } := by
  have hserve := serve?_eq_some_iff.mpr ⟨service, system, hserved, hinner, rfl⟩
  cases inner with
  | call inquiry => cases halone
  | cancel j => cases halone
  | proceed j now =>
    obtain rfl : j = number := of_decide_eq_true halone
    refine ⟨.proceed i now, ?_⟩
    simp only [step, proceed?, hi, hstage]
    exact hserve
  | grant id => exact ⟨.grant id, hserve⟩
  | answer id fetched => exact ⟨.answer id fetched, hserve⟩
  | timeOut id => exact ⟨.timeOut id, hserve⟩
  | finish id => exact ⟨.finish id, hserve⟩
  | tick nanos => exact ⟨.tick nanos, hserve⟩

theorem exists_run_of_isAlone {service : Service} {number : Nat}
    {inner : List (Event (Except Rejection ValidatedToken))}
    {system : System (Except Rejection ValidatedToken)} (hi : state.callers[i]? = some caller)
    (hstage : caller.stage = .validating number) (hserved : state.service = some service)
    (halone : ∀ event ∈ inner, event.isAlone number = true)
    (hinner : service.system.run inner = some system) :
    ∃ events, state.run events = some { state with service := some { service with system } } := by
  induction inner generalizing state service with
  | nil =>
    cases hinner
    refine ⟨[], ?_⟩
    rw [← hserved]
    rfl
  | cons first rest ih =>
    obtain ⟨m, hfirst, hrest⟩ := System.run_cons_eq_some_iff.mp hinner
    obtain ⟨event, hstep⟩ :=
      exists_step_of_isAlone hi hstage hserved (halone first List.mem_cons_self) hfirst
    let after : LazyStart := { state with service := some { service with system := m } }
    obtain ⟨events, hevents⟩ := ih (show after.callers[i]? = some caller from hi) rfl
      (fun event hmem => halone event (List.mem_cons_of_mem first hmem)) hrest
    exact ⟨event :: events, run_cons_eq_some_iff.mpr ⟨after, hstep, hevents⟩⟩

/-- The call of a caller who is alone, among the steps of callers who might come, is the call of
a verifier that does one thing after the other. -/
theorem exists_run_parse (config : Config) (network : Network) (token : String) (now : Instant) :
    let answer := (Verifier.mk config none).parse network false now token
    ∃ events final, (opening config).run (.call token :: events) = some final ∧
      final.result? 0 = some answer.1 ∧
        final.service.map (fun service => Started.mk service.jwksUrl service.system.cache) =
          answer.2.1.started := by
  intro answer
  let waiting : LazyStart := ⟨config, none, none, [⟨token, .waiting, false⟩], []⟩
  have hwaiting : waiting.callers[0]? = some ⟨token, .waiting, false⟩ := rfl
  obtain ⟨events, started, hrun, hstarted⟩ :=
    exists_run_requests config.startup network hwaiting rfl
  have hcalled : (opening config).run (.call token :: .proceed 0 now :: .proceed 0 now :: events) =
      some started :=
    run_cons_eq_some_iff.mpr ⟨_, rfl, run_cons_eq_some_iff.mpr
      ⟨waiting, rfl, run_cons_eq_some_iff.mpr ⟨_, rfl, hrun⟩⟩⟩
  cases hstart : Verifier.runRequests config.startup network with
  | mk result network' =>
    rw [hstart] at hstarted
    cases result with
    | error fault =>
      obtain ⟨hservice, hresult⟩ := hstarted
      have hanswer : answer = (.error (.configuration fault), ⟨config, none⟩, network') := by
        simp only [answer, Verifier.parse, Verifier.start, hstart]
        rfl
      rw [hanswer]
      refine ⟨_, started, hcalled, hresult, ?_⟩
      rw [hservice]
      rfl
    | ok made =>
      obtain ⟨hi, hservice⟩ := hstarted
      obtain ⟨keys, hcache⟩ := Config.initial_of_run (congrArg Prod.fst hstart)
      have hslot : (Fed.mk made.cache network').cache.slot = none := by
        rw [hcache]
        rfl
      obtain ⟨inner, hinner, halone⟩ := Fed.exists_run_alone (keySetSource made.jwksUrl) now
        (validate config.policy made.cache.settings.keyIdDisabled token) hslot
        (List.getElem?_cons_zero)
      obtain ⟨later, hlater⟩ := exists_run_of_isAlone hi rfl hservice halone hinner
      refine ⟨.proceed 0 now :: .proceed 0 now :: (events ++ later), _,
        run_append_eq_some_iff.mpr ⟨started, hcalled, hlater⟩, ?_, ?_⟩
      · simp only [result?, hi]
        simp only [answer, Verifier.parse, Verifier.start, hstart]
        rfl
      · simp only [answer, Verifier.parse, Verifier.start, hstart]
        rfl

end Alone

/-- Two callers of a verifier whose provider fails the first one of them. -/
def recovery : List LazyEvent :=
  [.call "a", .call "b", .proceed 0 .epoch, .proceed 1 .epoch, .proceed 0 .epoch,
    .reply 0 (.ok ⟨500, ""⟩), .proceed 1 .epoch,
    .reply 1 (.ok ⟨200, "\x7b\"jwks_uri\":\"http://op/keys\"\x7d"⟩),
    .reply 1 (.ok ⟨200, "\x7b\"keys\":[]\x7d"⟩)]

/-- The first caller is told of the failure; the second one starts the verifier, for good. -/
theorem starts_once_recovery :
    ∃ state service, (opening (.forIssuer "http://op")).run recovery = some state ∧
      (state.result? 0).map failure? =
        some (some (.configuration (.discovery (.status 500)))) ∧
      state.requests = [(0, "http://op/.well-known/openid-configuration"),
        (1, "http://op/.well-known/openid-configuration"), (1, "http://op/keys")] ∧
      state.service = some service ∧ service.jwksUrl = "http://op/keys" ∧
      ∀ later final, state.run later = some final → final.requests = state.requests ∧
        final.service.isSome = true := by
  have hend : ((opening (.forIssuer "http://op")).run recovery).map (fun state =>
      ((state.result? 0).map failure?, state.requests, state.service.map Service.jwksUrl)) =
        some (some (some (.configuration (.discovery (.status 500)))),
          [(0, "http://op/.well-known/openid-configuration"),
            (1, "http://op/.well-known/openid-configuration"), (1, "http://op/keys")],
          some "http://op/keys") := by
    decide +kernel
  obtain ⟨state, hrun, hstate⟩ := Option.map_eq_some_iff.mp hend
  simp only [Prod.mk.injEq] at hstate
  obtain ⟨hresult, hrequests, hservice⟩ := hstate
  obtain ⟨service, hserved, hurl⟩ := Option.map_eq_some_iff.mp hservice
  refine ⟨state, service, hrun, hresult, hrequests, hserved, hurl, fun later final hlater => ?_⟩
  obtain ⟨hsame, after, -, hafter, -⟩ := (starts_once hrun).kept service hserved later final hlater
  exact ⟨hsame, by rw [hafter]; rfl⟩

end LazyStart
end BearerAuth
