import BearerAuth.Proofs.Cache.Cancellation
import BearerAuth.Proofs.Verifier.Startup
import BearerAuth.Verifier.LazyStart

/-!
# Runs of a lazy verifier

What one event does to a lazy verifier, and the accounts that every run keeps: the replies to
the start of a caller explain how far the caller has come, the lock is with the only start that
is under way, and the cache has been made from the replies to one start.
-/
namespace BearerAuth

open Http

/-- A start of the caller waits for a reply. -/
def LazyStage.isStarting : LazyStage → Bool
  | starting _ _ => true
  | _ => false

/-- The caller has done something else than to wait for its turn. -/
def LazyStage.hasBegun : LazyStage → Bool
  | arrived | waiting => false
  | _ => true

/-- The replies that the start of a caller has received. -/
def repliesTo (i : Nat) (events : List LazyEvent) : List Exchange :=
  events.filterMap fun
    | .reply j exchange => if j = i then some exchange else none
    | _ => none

theorem repliesTo_append (i : Nat) (before after : List LazyEvent) :
    repliesTo i (before ++ after) = repliesTo i before ++ repliesTo i after :=
  List.filterMap_append

theorem repliesTo_reply (i : Nat) (events : List LazyEvent) (exchange : Exchange) :
    repliesTo i (events ++ [.reply i exchange]) = repliesTo i events ++ [exchange] := by
  simp [repliesTo]

theorem repliesTo_of_ne {i : Nat} {event : LazyEvent} (events : List LazyEvent)
    (h : ∀ exchange, event ≠ .reply i exchange) :
    repliesTo i (events ++ [event]) = repliesTo i events := by
  have hnone : repliesTo i [event] = [] := by
    cases event with
    | reply j exchange =>
      have hj : j ≠ i := fun heq => h exchange (heq ▸ rfl)
      simp [repliesTo, hj]
    | _ => rfl
  rw [repliesTo_append, hnone, List.append_nil]

section Enroll

variable (service : Service) (config : Config) (caller : LazyCaller)

/-- The inquiry that validates the token of a caller with a service. -/
def Service.inquiry : Inquiry (Except Rejection ValidatedToken) :=
  validate config.policy service.system.cache.settings.keyIdDisabled caller.token

/-- Enrolling is a call, after which the token may fire at once. -/
theorem Service.exists_run_enroll :
    ∃ history, service.system.run history = some (service.enroll config caller).system ∧
      inquiries history = [service.inquiry config caller] := by
  cases hcancelled : caller.cancelled with
  | false =>
    refine ⟨[.call (service.inquiry config caller)], ?_, rfl⟩
    simp only [Service.enroll, hcancelled]
    rfl
  | true =>
    refine ⟨[.call (service.inquiry config caller), .cancel service.system.callers.length], ?_, rfl⟩
    rw [System.run_cons, System.step, Option.bind_some, System.run_cons, System.step,
      Option.bind_some, System.run_nil, List.modify_eq_take_drop, List.take_left, List.drop_left]
    simp only [Service.enroll, hcancelled]
    rfl

end Enroll

namespace LazyStart

variable {config : Config} {state next final : LazyStart} {event : LazyEvent}
  {events : List LazyEvent} {i j : Nat} {caller caller' : LazyCaller}

theorem run_append_eq_some_iff {before after : List LazyEvent} :
    state.run (before ++ after) = some final ↔
      ∃ m, state.run before = some m ∧ m.run after = some final := by
  rw [run, List.foldlM_append]
  exact Option.bind_eq_some_iff

theorem run_singleton : state.run [event] = state.step event := by
  simp [run]

/-- The start of a caller is under way. -/
def Starts (state : LazyStart) (i : Nat) : Prop :=
  ∃ caller, state.callers[i]? = some caller ∧ caller.stage.isStarting = true

/-- What one event does. -/
inductive Moves (state : LazyStart) : LazyEvent → LazyStart → Prop
  | call (token : String) :
    Moves state (.call token) { state with callers := state.callers ++ [⟨token, .arrived, false⟩] }
  | miss (i : Nat) : Moves state (.cancel i) state
  | fire (i : Nat) (caller : LazyCaller) (found : state.callers[i]? = some caller) :
    Moves state (.cancel i) (state.setCaller i { caller with cancelled := true })
  | fireServed (i number : Nat) (caller : LazyCaller) (service : Service)
      (system : System (Except Rejection ValidatedToken))
      (found : state.callers[i]? = some caller) (served : state.service = some service)
      (steps : service.system.step (.cancel number) = some system) :
    Moves state (.cancel i) { state.setCaller i { caller with cancelled := true } with
      service := some { service with system } }
  | serve (event : LazyEvent) (inner : Event (Except Rejection ValidatedToken))
      (service : Service) (system : System (Except Rejection ValidatedToken))
      (quiet : ∀ i exchange, event ≠ .reply i exchange)
      (uncalled : ∀ inquiry, inner ≠ .call inquiry)
      (served : state.service = some service) (steps : service.system.step inner = some system) :
    Moves state event { state with service := some { service with system } }
  | enroll (i : Nat) (now : Instant) (caller : LazyCaller) (service : Service)
      (found : state.callers[i]? = some caller) (idle : caller.stage.hasBegun = false)
      (served : state.service = some service) :
    Moves state (.proceed i now) (state.enroll i caller service)
  | queue (i : Nat) (now : Instant) (caller : LazyCaller)
      (found : state.callers[i]? = some caller) (idle : caller.stage.hasBegun = false) :
    Moves state (.proceed i now) (state.setCaller i { caller with stage := .waiting })
  | giveUp (i : Nat) (now : Instant) (caller : LazyCaller)
      (found : state.callers[i]? = some caller) (idle : caller.stage.hasBegun = false)
      (cancelled : caller.cancelled = true) :
    Moves state (.proceed i now) (state.setCaller i { caller with stage := .refused .cancelled })
  | abort (i : Nat) (now : Instant) (caller : LazyCaller)
      (found : state.callers[i]? = some caller) (starting : caller.stage.isStarting = true)
      (cancelled : caller.cancelled = true) :
    Moves state (.proceed i now)
      { state.setCaller i { caller with stage := .refused .cancelled } with holder := none }
  | begin (i : Nat) (now : Instant) (caller : LazyCaller)
      (found : state.callers[i]? = some caller) (waiting : caller.stage = .waiting)
      (live : caller.cancelled = false) (unserved : state.service = none)
      (free : state.holder = none) :
    Moves state (.proceed i now) (state.advance i caller state.config.startup)
  | reply (i : Nat) (exchange : Exchange) (caller : LazyCaller) (url : String)
      (ask : Exchange → Requests (Except Misconfiguration Started))
      (found : state.callers[i]? = some caller) (starting : caller.stage = .starting url ask)
      (live : caller.cancelled = false) :
    Moves state (.reply i exchange) (state.advance i caller (ask exchange))

theorem serve?_eq_some_iff {inner : Event (Except Rejection ValidatedToken)} :
    state.serve? inner = some next ↔ ∃ service system, state.service = some service ∧
      service.system.step inner = some system ∧
        next = { state with service := some { service with system } } := by
  unfold serve?
  cases state.service with
  | none => simp
  | some service =>
    simp only [Option.map_eq_some_iff, Option.some.injEq]
    constructor
    · rintro ⟨system, hsteps, rfl⟩
      exact ⟨service, system, rfl, hsteps, rfl⟩
    · rintro ⟨service', system, rfl, hsteps, rfl⟩
      exact ⟨system, hsteps, rfl⟩

theorem moves_of_serve? {inner : Event (Except Rejection ValidatedToken)}
    (quiet : ∀ i exchange, event ≠ .reply i exchange) (uncalled : ∀ inquiry, inner ≠ .call inquiry)
    (h : state.serve? inner = some next) : state.Moves event next := by
  obtain ⟨service, system, hserved, hsteps, rfl⟩ := serve?_eq_some_iff.mp h
  exact .serve event inner service system quiet uncalled hserved hsteps

theorem moves_of_proceed? {now : Instant} (h : state.proceed? i now = some next) :
    state.Moves (.proceed i now) next := by
  unfold proceed? at h
  cases hi : state.callers[i]? with
  | none =>
    rw [hi] at h
    cases h
  | some caller =>
    obtain ⟨token, stage, cancelled⟩ := caller
    simp only [hi] at h
    cases stage with
    | arrived =>
      cases hservice : state.service with
      | some service =>
        simp only [hservice, Option.some.injEq] at h
        subst h
        exact .enroll i now _ service hi rfl hservice
      | none =>
        simp only [hservice, Option.some.injEq] at h
        subst h
        cases cancelled with
        | true => exact .giveUp i now _ hi rfl rfl
        | false => exact .queue i now _ hi rfl
    | waiting =>
      cases cancelled with
      | true =>
        cases h
        exact .giveUp i now _ hi rfl rfl
      | false =>
        cases hservice : state.service with
        | some service =>
          simp only [hservice] at h
          cases h
          exact .enroll i now _ service hi rfl hservice
        | none =>
          simp only [hservice] at h
          by_cases hfree : state.holder = none
          · simp only [hfree] at h
            cases h
            exact .begin i now _ hi rfl rfl hservice hfree
          · simp [hfree] at h
    | starting url ask =>
      cases cancelled with
      | true =>
        cases h
        exact .abort i now _ hi rfl rfl
      | false => cases h
    | validating number => exact moves_of_serve? (by simp) (by simp) h
    | refused rejection => cases h

theorem moves_of_step (h : state.step event = some next) : state.Moves event next := by
  cases event with
  | call token =>
    cases h
    exact .call token
  | cancel i =>
    simp only [step, cancel?] at h
    cases hi : state.callers[i]? with
    | none =>
      rw [hi] at h
      cases h
      exact .miss i
    | some caller =>
      simp only [hi] at h
      split at h
      · obtain ⟨service, system, hserved, hsteps, rfl⟩ := serve?_eq_some_iff.mp h
        exact .fireServed i _ caller service system hi hserved hsteps
      · cases h
        exact .fire i caller hi
  | proceed i now => exact moves_of_proceed? h
  | reply i exchange =>
    simp only [step, reply?] at h
    cases hi : state.callers[i]? with
    | none =>
      rw [hi] at h
      cases h
    | some caller =>
      simp only [hi] at h
      split at h
      · next url ask hstage =>
        cases hcancelled : caller.cancelled with
        | true => simp [hcancelled] at h
        | false =>
          simp only [hcancelled] at h
          cases h
          exact .reply i exchange caller url ask hi hstage hcancelled
      · cases h
  | _ => exact moves_of_serve? (by simp) (by simp) h

end LazyStart

/-- What the stage of a caller says about the replies to its start and about the inquiries that
have been made of the cache. -/
def LazyCaller.Accounted (config : Config)
    (made : List (Inquiry (Except Rejection ValidatedToken))) (replies : List Exchange)
    (caller : LazyCaller) : Prop :=
  match caller.stage with
  | .arrived | .waiting => replies = []
  | .starting url next => config.startup.resume replies = .ask url next
  | .validating number =>
    made[number]? = some (validate config.policy config.keyIdDisabled caller.token)
  | .refused rejection =>
    (rejection = .cancelled ∧ caller.cancelled = true) ∨
      ∃ fault, rejection = .configuration fault ∧ config.Fails replies fault

theorem LazyCaller.Accounted.mono {config : Config}
    {made made' : List (Inquiry (Except Rejection ValidatedToken))} {replies : List Exchange}
    {caller : LazyCaller} (h : caller.Accounted config made replies) (hmade : made <+: made') :
    caller.Accounted config made' replies := by
  obtain ⟨token, stage, cancelled⟩ := caller
  cases stage with
  | validating number =>
    obtain ⟨rest, rfl⟩ := hmade
    obtain ⟨hlt, -⟩ := List.getElem?_eq_some_iff.mp h
    exact (List.getElem?_append_left hlt).trans h
  | _ => exact h

theorem LazyCaller.Accounted.fire {config : Config}
    {made : List (Inquiry (Except Rejection ValidatedToken))} {replies : List Exchange}
    {caller : LazyCaller} (h : caller.Accounted config made replies) :
    { caller with cancelled := true }.Accounted config made replies := by
  obtain ⟨token, stage, cancelled⟩ := caller
  cases stage with
  | refused rejection => exact h.imp_left fun hcancelled => ⟨hcancelled.1, rfl⟩
  | _ => exact h

theorem LazyCaller.Accounted.replies_eq_nil {config : Config}
    {made : List (Inquiry (Except Rejection ValidatedToken))} {replies : List Exchange}
    {caller : LazyCaller} (h : caller.Accounted config made replies)
    (idle : caller.stage.hasBegun = false) : replies = [] := by
  obtain ⟨token, stage, cancelled⟩ := caller
  cases stage with
  | arrived => exact h
  | waiting => exact h
  | _ => cases idle

theorem LazyStage.isStarting_of_idle {stage : LazyStage} (idle : stage.hasBegun = false) :
    stage.isStarting = false := by
  cases stage <;> first | rfl | cases idle

namespace LazyStart

variable {config : Config} {state next final : LazyStart} {event : LazyEvent}
  {events : List LazyEvent} {i j : Nat} {caller caller' : LazyCaller}

/-- The invariant of every run through `events`, of whose events the cache has seen
`history`. -/
structure Accounts (config : Config) (events : List LazyEvent) (state : LazyStart)
    (history : List (Event (Except Rejection ValidatedToken))) : Prop where
  configured : state.config = config
  callers : ∀ (i : Nat) (caller : LazyCaller), state.callers[i]? = some caller →
    caller.Accounted config (inquiries history) (repliesTo i events)
  silent : ∀ i, state.callers.length ≤ i → repliesTo i events = []
  requests : ∀ i url, (i, url) ∈ state.requests →
    ∃ caller, state.callers[i]? = some caller ∧ caller.stage.hasBegun = true
  holder : ∀ i, state.holder = some i ↔ state.Starts i
  unserved : state.service = none → history = []
  served : ∀ service, state.service = some service → state.holder = none ∧
    ∃ i keys, config.Obtains (repliesTo i events) service.jwksUrl keys ∧
      (System.opening (Cache.initial config.cacheSettings keys)).run history =
        some service.system

theorem accounts_opening (config : Config) : (Accounts config [] (opening config) []) where
  configured := rfl
  callers := by
    intro i caller hi
    cases hi
  silent := fun _ _ => rfl
  requests := by
    intro i url h
    cases h
  holder := by
    intro i
    refine iff_of_false nofun ?_
    rintro ⟨caller, hi, -⟩
    cases hi
  unserved := fun _ => rfl
  served := by
    intro service h
    cases h

theorem starts_setCaller (hi : state.callers[i]? = some caller) :
    (state.setCaller i caller').Starts j ↔
      if i = j then caller'.stage.isStarting = true else state.Starts j := by
  unfold Starts setCaller
  dsimp only
  rw [Cache.getElem?_set_of_some hi]
  by_cases hj : i = j
  · simp [hj]
  · simp [hj]

/-- A caller who ends the only start leaves none under way. -/
theorem not_starts_setCaller (hi : state.callers[i]? = some caller)
    (sole : ∀ j, state.Starts j → j = i) (ended : caller'.stage.isStarting = false) (j : Nat) :
    ¬ (state.setCaller i caller').Starts j := by
  intro hstarts
  rw [starts_setCaller hi] at hstarts
  by_cases hj : i = j
  · rw [if_pos hj, ended] at hstarts
    cases hstarts
  · rw [if_neg hj] at hstarts
    exact hj (sole j hstarts).symm

section Replace

variable {history history' : List (Event (Except Rejection ValidatedToken))}
  {events' : List LazyEvent}

theorem Accounts.accounted_set (h : Accounts config events state history)
    (hi : state.callers[i]? = some caller)
    (others : ∀ j, i ≠ j → repliesTo j events' = repliesTo j events)
    (made : inquiries history <+: inquiries history')
    (own : caller'.Accounted config (inquiries history') (repliesTo i events')) (j : Nat)
    (other : LazyCaller) (hj : (state.callers.set i caller')[j]? = some other) :
    other.Accounted config (inquiries history') (repliesTo j events') := by
  rw [Cache.getElem?_set_of_some hi] at hj
  by_cases hij : i = j
  · subst hij
    rw [if_pos rfl] at hj
    cases hj
    exact own
  · rw [if_neg hij] at hj
    rw [others j hij]
    exact (h.callers j other hj).mono made

theorem Accounts.silent_set (h : Accounts config events state history)
    (hi : state.callers[i]? = some caller)
    (others : ∀ j, i ≠ j → repliesTo j events' = repliesTo j events) (j : Nat)
    (hj : (state.callers.set i caller').length ≤ j) : repliesTo j events' = [] := by
  rw [List.length_set] at hj
  obtain ⟨hlt, -⟩ := List.getElem?_eq_some_iff.mp hi
  rw [others j (by omega)]
  exact h.silent j hj

theorem Accounts.requests_set (h : Accounts config events state history)
    (hi : state.callers[i]? = some caller)
    (begun : caller.stage.hasBegun = true → caller'.stage.hasBegun = true) (j : Nat) (url : String)
    (hj : (j, url) ∈ state.requests) :
    ∃ other, (state.callers.set i caller')[j]? = some other ∧ other.stage.hasBegun = true := by
  obtain ⟨other, hother, hbegun⟩ := h.requests j url hj
  rw [Cache.getElem?_set_of_some hi]
  by_cases hij : i = j
  · subst hij
    cases hi.symm.trans hother
    exact ⟨caller', if_pos rfl, begun hbegun⟩
  · exact ⟨other, by rw [if_neg hij, hother], hbegun⟩

end Replace

section Steps

variable {history : List (Event (Except Rejection ValidatedToken))}

theorem inquiries_append_of_ne {inner : Event (Except Rejection ValidatedToken)}
    (h : ∀ inquiry, inner ≠ .call inquiry) :
    inquiries (history ++ [inner]) = inquiries history := by
  have hnone : inquiries [inner] = [] := by
    cases inner with
    | call inquiry => exact absurd rfl (h inquiry)
    | _ => rfl
  rw [inquiries, List.filterMap_append]
  exact (congrArg _ hnone).trans (List.append_nil _)

theorem Accounts.quiet (h : Accounts config events state history)
    (hquiet : ∀ i exchange, event ≠ .reply i exchange) :
    Accounts config (events ++ [event]) state history := by
  have hreplies : ∀ i, repliesTo i (events ++ [event]) = repliesTo i events :=
    fun i => repliesTo_of_ne events (hquiet i)
  exact { h with
    callers := by simpa only [hreplies] using h.callers
    silent := by simpa only [hreplies] using h.silent
    served := by simpa only [hreplies] using h.served }

theorem Accounts.call (h : Accounts config events state history) (token : String) :
    Accounts config events
      { state with callers := state.callers ++ [⟨token, .arrived, false⟩] } history := by
  have hstays : ∀ {i : Nat} {caller : LazyCaller}, state.callers[i]? = some caller →
      (state.callers ++ [⟨token, .arrived, false⟩])[i]? = some caller := by
    intro i caller hi
    obtain ⟨hlt, -⟩ := List.getElem?_eq_some_iff.mp hi
    rw [List.getElem?_append_left hlt, hi]
  -- The last caller has had no reply, since replies go to those who are there.
  have hnew : ∀ {i : Nat} {caller : LazyCaller},
      (state.callers ++ [⟨token, .arrived, false⟩])[i]? = some caller →
        state.callers[i]? = some caller ∨
          (state.callers.length ≤ i ∧ caller = ⟨token, .arrived, false⟩) := by
    intro i caller hi
    by_cases hlt : i < state.callers.length
    · rw [List.getElem?_append_left hlt] at hi
      exact .inl hi
    · rw [List.getElem?_append_right (Nat.le_of_not_lt hlt)] at hi
      have hmem := List.mem_of_getElem? hi
      exact .inr ⟨Nat.le_of_not_lt hlt, List.mem_singleton.mp hmem⟩
  exact { h with
    callers := by
      intro i caller hi
      obtain hold | ⟨hlast, rfl⟩ := hnew hi
      · exact h.callers i caller hold
      · exact h.silent i hlast
    silent := by
      intro i hi
      rw [List.length_append, List.length_singleton] at hi
      exact h.silent i (by omega)
    requests := by
      intro i url hmem
      obtain ⟨caller, hi, hbegun⟩ := h.requests i url hmem
      exact ⟨caller, hstays hi, hbegun⟩
    holder := by
      intro i
      rw [h.holder i]
      constructor
      · rintro ⟨caller, hi, hstarting⟩
        exact ⟨caller, hstays hi, hstarting⟩
      · rintro ⟨caller, hi, hstarting⟩
        obtain hold | ⟨-, rfl⟩ := hnew hi
        · exact ⟨caller, hold, hstarting⟩
        · cases hstarting }

/-- A caller may change as long as it neither begins nor ends a start. -/
theorem Accounts.setCaller (h : Accounts config events state history)
    (hi : state.callers[i]? = some caller)
    (own : caller'.Accounted config (inquiries history) (repliesTo i events))
    (same : caller'.stage.isStarting = caller.stage.isStarting)
    (begun : caller.stage.hasBegun = true → caller'.stage.hasBegun = true) :
    Accounts config events (state.setCaller i caller') history where
  configured := h.configured
  callers := h.accounted_set hi (fun _ _ => rfl) List.prefix_rfl own
  silent := h.silent_set hi fun _ _ => rfl
  requests := h.requests_set hi begun
  holder := by
    intro j
    rw [starts_setCaller hi, same]
    by_cases hj : i = j
    · subst hj
      rw [if_pos rfl]
      refine (h.holder i).trans ⟨?_, fun hstarting => ⟨caller, hi, hstarting⟩⟩
      rintro ⟨other, hother, hstarting⟩
      cases hi.symm.trans hother
      exact hstarting
    · rw [if_neg hj]
      exact h.holder j
  unserved := h.unserved
  served := h.served

theorem Accounts.serve {inner : Event (Except Rejection ValidatedToken)} {service : Service}
    {system : System (Except Rejection ValidatedToken)} (h : Accounts config events state history)
    (uncalled : ∀ inquiry, inner ≠ .call inquiry) (served : state.service = some service)
    (steps : service.system.step inner = some system) :
    Accounts config events { state with service := some { service with system } }
      (history ++ [inner]) :=
  { h with
    callers := by
      rw [inquiries_append_of_ne uncalled]
      exact h.callers
    unserved := fun h => absurd h (Option.some_ne_none _)
    served := by
      rintro _ ⟨⟩
      obtain ⟨hfree, i, keys, hobtains, hrun⟩ := h.served service served
      exact ⟨hfree, i, keys, hobtains, System.run_concat_eq_some_iff.mpr ⟨_, hrun, steps⟩⟩ }

end Steps

/-! While no caller but `i` may have a start under way, the caller `i` moves on. -/
section Turn

variable {history : List (Event (Except Rejection ValidatedToken))} {events' : List LazyEvent}

theorem Accounts.eq_of_starts (h : Accounts config events state history) (hi : state.Starts i)
    (hj : state.Starts j) : j = i :=
  Option.some.inj (((h.holder j).mpr hj).symm.trans ((h.holder i).mpr hi))

theorem Accounts.not_starts_of_free (h : Accounts config events state history)
    (hfree : state.holder = none) (j : Nat) : ¬ state.Starts j := by
  intro hj
  have hholder := (h.holder j).mpr hj
  rw [hfree] at hholder
  cases hholder

theorem Accounts.unserved_of_starts (h : Accounts config events state history)
    (hi : state.Starts i) : state.service = none := by
  cases hservice : state.service with
  | none => rfl
  | some service => exact absurd hi (h.not_starts_of_free (h.served service hservice).1 i)

theorem Accounts.ask {url : String} {ask : Exchange → Requests (Except Misconfiguration Started)}
    (h : Accounts config events state history) (hi : state.callers[i]? = some caller)
    (others : ∀ j, i ≠ j → repliesTo j events' = repliesTo j events)
    (sole : ∀ j, state.Starts j → j = i) (unserved : state.service = none)
    (resumes : config.startup.resume (repliesTo i events') = .ask url ask) :
    Accounts config events' (state.advance i caller (.ask url ask)) history where
  configured := h.configured
  callers := h.accounted_set hi others List.prefix_rfl resumes
  silent := h.silent_set hi others
  requests := by
    intro j url' hmem
    obtain hold | hnew := List.mem_append.mp hmem
    · exact h.requests_set hi (fun _ => rfl) j url' hold
    · cases List.mem_singleton.mp hnew
      refine ⟨{ caller with stage := .starting url ask }, ?_, rfl⟩
      exact (Cache.getElem?_set_of_some hi).trans (if_pos rfl)
  holder := by
    intro j
    refine Iff.trans ?_ (starts_setCaller hi).symm
    by_cases hj : i = j
    · subst hj
      simp [advance, LazyStage.isStarting]
    · rw [if_neg hj]
      refine iff_of_false ?_ fun hstarts => hj (sole j hstarts).symm
      rintro ⟨⟩
      exact hj rfl
  unserved := h.unserved
  served := by
    intro service hservice
    cases unserved.symm.trans hservice

theorem Accounts.refuse {rejection : Rejection} (h : Accounts config events state history)
    (hi : state.callers[i]? = some caller)
    (others : ∀ j, i ≠ j → repliesTo j events' = repliesTo j events)
    (sole : ∀ j, state.Starts j → j = i) (unserved : state.service = none)
    (own : { caller with stage := .refused rejection }.Accounted config (inquiries history)
      (repliesTo i events')) :
    Accounts config events'
      { state.setCaller i { caller with stage := .refused rejection } with holder := none }
      history where
  configured := h.configured
  callers := h.accounted_set hi others List.prefix_rfl own
  silent := h.silent_set hi others
  requests := h.requests_set hi fun _ => rfl
  holder := fun j =>
    iff_of_false (Option.some_ne_none j).symm (not_starts_setCaller hi sole rfl j)
  unserved := h.unserved
  served := by
    intro service hservice
    cases unserved.symm.trans hservice

theorem Accounts.enroll {keys : KeySet} {k : Nat}
    {past : List (Event (Except Rejection ValidatedToken))}
    (h : Accounts config events state history) (service : Service)
    (hi : state.callers[i]? = some caller)
    (others : ∀ j, i ≠ j → repliesTo j events' = repliesTo j events)
    (sole : ∀ j, state.Starts j → j = i) (made : inquiries history <+: inquiries past)
    (obtains : config.Obtains (repliesTo k events') service.jwksUrl keys)
    (hrun : (System.opening (Cache.initial config.cacheSettings keys)).run past =
      some service.system) :
    ∃ later, Accounts config events' { state.enroll i caller service with holder := none }
      (past ++ later) := by
  obtain ⟨later, hlater, hinquiry⟩ := service.exists_run_enroll state.config caller
  have hmade : inquiries (past ++ later) =
      inquiries past ++ [validate config.policy config.keyIdDisabled caller.token] := by
    have hsettings : service.system.cache.settings = config.cacheSettings :=
      System.settings_of_run hrun
    rw [inquiries, List.filterMap_append]
    refine congrArg _ (hinquiry.trans ?_)
    rw [Service.inquiry, h.configured, hsettings]
    rfl
  have hnumber : service.system.callers.length = (inquiries past).length :=
    (System.length_callers_of_run hrun).trans (Nat.zero_add _)
  have hown : { caller with
      stage := .validating service.system.callers.length }.Accounted config
        (inquiries (past ++ later)) (repliesTo i events') := by
    rw [hmade, hnumber]
    exact List.getElem?_concat_length
  exact ⟨later,
    { configured := h.configured
      callers := h.accounted_set hi others
        (made.trans (hmade ▸ List.prefix_append _ _)) hown
      silent := h.silent_set hi others
      requests := h.requests_set hi fun _ => rfl
      holder := fun j =>
        iff_of_false (Option.some_ne_none j).symm (not_starts_setCaller hi sole rfl j)
      unserved := fun h => absurd h (Option.some_ne_none _)
      served := by
        rintro _ ⟨⟩
        exact ⟨rfl, k, keys, obtains, System.run_append_eq_some_iff.mpr ⟨_, hrun, hlater⟩⟩ }⟩

/-- The next stage of a start, by the replies to it so far. -/
theorem Accounts.advance {requests : Requests (Except Misconfiguration Started)}
    (h : Accounts config events state history) (hi : state.callers[i]? = some caller)
    (others : ∀ j, i ≠ j → repliesTo j events' = repliesTo j events)
    (sole : ∀ j, state.Starts j → j = i) (unserved : state.service = none)
    (resumes : config.startup.resume (repliesTo i events') = requests)
    (course : (∃ url ask, requests = .ask url ask) ∨
      (∃ url keys, config.Obtains (repliesTo i events') url keys) ∨
        ∃ fault, config.Fails (repliesTo i events') fault) :
    ∃ history', Accounts config events' (state.advance i caller requests) history' := by
  obtain ⟨url, ask, rfl⟩ | ⟨url, keys, hobtains⟩ | ⟨fault, hfails⟩ := course
  · exact ⟨history, h.ask hi others sole unserved resumes⟩
  · have hpast : history = [] := h.unserved unserved
    subst hpast
    obtain rfl := resumes.symm.trans hobtains.resume
    obtain ⟨later, hlater⟩ := h.enroll ⟨url, System.opening (.initial config.cacheSettings keys)⟩
      hi others sole List.prefix_rfl hobtains rfl
    exact ⟨later, hlater⟩
  · obtain rfl := resumes.symm.trans hfails.resume
    exact ⟨history, h.refuse hi others sole unserved (.inr ⟨fault, rfl, hfails⟩)⟩

theorem Accounts.step (h : Accounts config events state history)
    (hstep : state.step event = some next) :
    ∃ history', Accounts config (events ++ [event]) next history' := by
  cases moves_of_step hstep with
  | call token => exact ⟨history, (h.quiet (by simp)).call token⟩
  | miss i => exact ⟨history, h.quiet (by simp)⟩
  | fire i caller found =>
    have own := (h.callers i caller found).fire
    exact ⟨history, (h.setCaller found own rfl id).quiet (by simp)⟩
  | fireServed i number caller service system found served steps =>
    have own := (h.callers i caller found).fire
    exact ⟨_, ((h.setCaller found own rfl id).serve (by simp) served steps).quiet (by simp)⟩
  | serve event inner service system quiet uncalled served steps =>
    exact ⟨_, (h.serve uncalled served steps).quiet quiet⟩
  | enroll i now caller service found idle served =>
    -- With a service there is no start, and the lock is free before and after.
    obtain ⟨hfree, k, keys, hobtains, hrun⟩ := h.served service served
    have hnone := h.not_starts_of_free hfree
    obtain ⟨later, hlater⟩ := h.enroll service found (fun _ _ => rfl)
      (fun j hj => absurd hj (hnone j)) List.prefix_rfl hobtains hrun
    have hsame : { state.enroll i caller service with holder := none } =
        state.enroll i caller service := by
      rw [← hfree]
      rfl
    exact ⟨_, (hsame ▸ hlater).quiet (by simp)⟩
  | queue i now caller found idle =>
    have own : { caller with stage := .waiting }.Accounted config (inquiries history)
        (repliesTo i events) := (h.callers i caller found).replies_eq_nil idle
    have same := LazyStage.isStarting_of_idle idle
    refine ⟨history, (h.setCaller found own same.symm fun begun => ?_).quiet (by simp)⟩
    cases idle.symm.trans begun
  | giveUp i now caller found idle cancelled =>
    have own : { caller with stage := .refused .cancelled }.Accounted config (inquiries history)
        (repliesTo i events) := .inl ⟨rfl, cancelled⟩
    have same := LazyStage.isStarting_of_idle idle
    exact ⟨history, (h.setCaller found own same.symm fun _ => rfl).quiet (by simp)⟩
  | abort i now caller found starting cancelled =>
    have hi : state.Starts i := ⟨caller, found, starting⟩
    exact ⟨history, (h.refuse found (fun _ _ => rfl) (fun j hj => h.eq_of_starts hi hj)
      (h.unserved_of_starts hi) (.inl ⟨rfl, cancelled⟩)).quiet (by simp)⟩
  | begin i now caller found waiting live unserved free =>
    -- A caller who waits has had no reply, so its start is at the beginning.
    have hnone := h.not_starts_of_free free
    have hreplies := (h.callers i caller found).replies_eq_nil (by rw [waiting]; rfl)
    obtain ⟨ask, hstartup⟩ := config.exists_startup
    have hresumes : config.startup.resume (repliesTo i events) = state.config.startup := by
      rw [hreplies, Dialogue.resume_nil, h.configured]
    obtain ⟨history', hadvance⟩ := h.advance found (fun _ _ => rfl)
      (fun j hj => absurd hj (hnone j)) unserved hresumes
      (.inl ⟨config.firstUrl, ask, by rw [h.configured, hstartup]⟩)
    exact ⟨history', hadvance.quiet (by simp)⟩
  | reply i exchange caller url ask found starting live =>
    have hi : state.Starts i := ⟨caller, found, by rw [starting]; rfl⟩
    have hresumes : config.startup.resume (repliesTo i events) = .ask url ask := by
      have own := h.callers i caller found
      rwa [LazyCaller.Accounted, starting] at own
    have hnext := Dialogue.resume_append_singleton hresumes exchange
    rw [← repliesTo_reply] at hnext
    have hcourse := Config.cases_of_reply hresumes exchange
    rw [← repliesTo_reply] at hcourse
    refine h.advance found (fun j hj => repliesTo_of_ne events ?_)
      (fun j hj => h.eq_of_starts hi hj) (h.unserved_of_starts hi) hnext
      (hcourse.imp_left fun ⟨found, hlocates⟩ => ?_)
    · rintro exchange' ⟨⟩
      exact hj rfl
    · exact ⟨found, _, hnext.symm.trans hlocates.resume⟩

end Turn

theorem accounts_of_run (hrun : (opening config).run events = some state) :
    ∃ history, Accounts config events state history := by
  -- From the end: the accounts of a run are kept by one more event.
  induction events using List.reverseRecOn generalizing state with
  | nil =>
    cases hrun
    exact ⟨[], accounts_opening config⟩
  | append_singleton events event ih =>
    obtain ⟨m, hm, hstep⟩ := run_append_eq_some_iff.mp hrun
    rw [run_singleton] at hstep
    obtain ⟨history, h⟩ := ih hm
    exact h.step hstep

end LazyStart
end BearerAuth
