import BearerAuth.Proofs.Cache.Waiters
import BearerAuth.Validation.Alone

/-!
# A caller who is alone

What a refresh is to a caller when nothing else goes on: one fetch, whose reply decides on the
answer and on the snapshot that is left. What such a caller gets, it gets in a run of the whole
system in which no other caller moves.
-/
namespace BearerAuth

namespace Cache

@[simp] theorem clock_settings (cache : Cache) (clock : Nat) :
    { cache with clock }.settings = cache.settings := rfl

@[simp] theorem clock_snapshot (cache : Cache) (clock : Nat) :
    { cache with clock }.snapshot = cache.snapshot := rfl

@[simp] theorem clock_refreshes (cache : Cache) (clock : Nat) :
    { cache with clock }.refreshes = cache.refreshes := rfl

@[simp] theorem clock_slot (cache : Cache) (clock : Nat) :
    { cache with clock }.slot = cache.slot := rfl

@[simp] theorem refreshAlone_settings (cache : Cache) (fetched : Except CacheError KeySet) :
    (cache.refreshAlone fetched).2.settings = cache.settings := by
  unfold refreshAlone
  exact install_settings cache _

@[simp] theorem refreshAlone_snapshot (cache : Cache) (fetched : Except CacheError KeySet) :
    (cache.refreshAlone fetched).2.snapshot =
      (cache.install (cache.outcomeOf fetched)).snapshot := by
  unfold refreshAlone
  rfl

@[simp] theorem refreshAlone_refreshes (cache : Cache) (fetched : Except CacheError KeySet) :
    (cache.refreshAlone fetched).2.refreshes =
      cache.refreshes ++ [.finished (cache.outcomeOf fetched)] := by
  unfold refreshAlone
  rfl

@[simp] theorem refreshAlone_slot (cache : Cache) (fetched : Except CacheError KeySet) :
    (cache.refreshAlone fetched).2.slot = cache.slot := by
  unfold refreshAlone
  exact install_slot cache _

/-- A refresh on behalf of one caller is a sequence of moves: it is started, gets its permit, ends
its fetch and finishes, with the waiting times in between. -/
theorem moves_of_refreshAlone (cache : Cache) (hslot : cache.slot = none)
    (fetched : Except CacheError KeySet) (nanos : Nat) :
    ∃ granted settled, ({ cache.joinOrStart.2 with
        clock := cache.joinOrStart.2.clock + (cache.nextPermit - cache.clock) } : Cache).grant?
          cache.refreshes.length = some granted ∧
      ({ granted with clock := granted.clock + nanos } : Cache).settle? cache.refreshes.length
        fetched = some settled ∧
      settled.finish? cache.refreshes.length = some { (cache.refreshAlone fetched).2 with
        clock := (cache.refreshAlone fetched).2.clock + nanos } := by
  have hmax : cache.clock + (cache.nextPermit - cache.clock) =
      max cache.clock cache.nextPermit := by omega
  refine ⟨_, _, grant?_eq_some_iff.mpr ⟨?_, ?_, rfl⟩, settle?_eq_some_iff.mpr ⟨?_, rfl⟩,
    finish?_eq_some_iff.mpr ⟨cache.outcomeOf fetched, ?_, ?_⟩⟩
  · simp [joinOrStart_of_empty hslot]
  · simp only [joinOrStart_of_empty hslot]
    omega
  · simp [joinOrStart_of_empty hslot]
  · simp only [joinOrStart_of_empty hslot]
    simp [outcomeOf]
  · simp only [joinOrStart_of_empty hslot, refreshAlone, hmax]
    -- What a refresh comes to does not depend on how far it has come.
    have houtcome : ({ cache with
        refreshes := (cache.refreshes ++ [RefreshStage.queued]).set
          cache.refreshes.length .fetching
        slot := some cache.refreshes.length
        clock := max cache.clock cache.nextPermit + nanos
        nextPermit := max cache.clock cache.nextPermit +
          cache.settings.refreshInterval.toNanos } : Cache).outcomeOf fetched =
        cache.outcomeOf fetched := rfl
    rw [houtcome]
    cases cache.outcomeOf fetched with
    | ok snapshot => simp [install, hslot]
    | error error => simp [install, hslot]

end Cache

/-- An event in which of all callers at most `i` moves, and by a step of its own. -/
def Event.isAlone {α : Type} (i : Nat) : Event α → Bool
  | .call _ | .cancel _ => false
  | .proceed j _ => j = i
  | _ => true

namespace Fed

variable {σ : Type}

/-- The reply that a fetch ends with. -/
def replyIn (fetched : Reply × Nat × σ) : Reply := fetched.1

/-- What the next fetch comes to. -/
def reply (source : Source σ) (fed : Fed σ) : Reply :=
  -- A projection in place of `replyIn` would make the kernel compute deadlines in unary.
  replyIn (fetch source fed.cache.settings.fetchTimeout fed.source)

section

variable {source : Source σ} {fed : Fed σ} {fetched : Reply × Nat × σ}

theorem reply_of_fetch (h : fetch source fed.cache.settings.fetchTimeout fed.source = fetched) :
    fed.reply source = fetched.1 := by
  rw [reply, h, replyIn]

/-- A refresh is one move of the cache, and the time of its fetch passes. -/
theorem refresh_cache (h : fetch source fed.cache.settings.fetchTimeout fed.source = fetched)
    (cancelled : Bool) (kid : Option String) :
    (fed.refresh source cancelled kid).2.cache = { (fed.cache.refreshAlone fetched.1).2 with
      clock := (fed.cache.refreshAlone fetched.1).2.clock + fetched.2.1 } := by
  unfold refresh
  rw [h]

theorem refresh_result (h : fetch source fed.cache.settings.fetchTimeout fed.source = fetched)
    (kid : Option String) :
    (fed.refresh source false kid).1 = (fed.refresh source false kid).2.cache.resolveOutcome kid
      (fed.cache.outcomeOf fetched.1) := by
  unfold refresh
  rw [h]
  rfl

end

@[simp] theorem refresh_settings (source : Source σ) (cancelled : Bool) (kid : Option String)
    (fed : Fed σ) : (fed.refresh source cancelled kid).2.cache.settings = fed.cache.settings := by
  rw [refresh_cache rfl, Cache.clock_settings, Cache.refreshAlone_settings]

/-- The snapshot after a refresh: the one it has made, or after a failure the one before. -/
theorem refresh_snapshot (source : Source σ) (cancelled : Bool) (kid : Option String)
    (fed : Fed σ) : (fed.refresh source cancelled kid).2.cache.snapshot =
      (fed.cache.install (fed.cache.outcomeOf (fed.reply source))).snapshot := by
  rw [refresh_cache rfl, Cache.clock_snapshot, Cache.refreshAlone_snapshot, reply_of_fetch rfl]

theorem refresh_refreshes (source : Source σ) (cancelled : Bool) (kid : Option String)
    (fed : Fed σ) : (fed.refresh source cancelled kid).2.cache.refreshes =
      fed.cache.refreshes ++ [.finished (fed.cache.outcomeOf (fed.reply source))] := by
  rw [refresh_cache rfl, Cache.clock_refreshes, Cache.refreshAlone_refreshes, reply_of_fetch rfl]

/-- A caller who waits learns what the refresh has come to. -/
theorem refresh_answer (source : Source σ) (kid : Option String) (fed : Fed σ) :
    (fed.refresh source false kid).1 =
      fed.cache.resolveOutcome kid (fed.cache.outcomeOf (fed.reply source)) := by
  rw [refresh_result rfl, reply_of_fetch rfl]
  exact Cache.resolveOutcome_of_settings (refresh_settings source false kid fed) kid _

theorem refresh_cancelled (source : Source σ) (kid : Option String) (fed : Fed σ) :
    (fed.refresh source true kid).1 = .error .cancelled := by
  unfold refresh
  rfl

theorem refresh_slot (source : Source σ) (cancelled : Bool) (kid : Option String) (fed : Fed σ) :
    (fed.refresh source cancelled kid).2.cache.slot = fed.cache.slot := by
  rw [refresh_cache rfl, Cache.clock_slot, Cache.refreshAlone_slot]

/-- The key that a refresh brings is in the snapshot that it leaves. -/
theorem resolve_of_refresh {source : Source σ} {cancelled : Bool} {kid : Option String}
    {fed : Fed σ} {key : VerificationKey} (h : (fed.refresh source cancelled kid).1 = .ok key) :
    (fed.refresh source cancelled kid).2.cache.snapshot.resolve fed.cache.settings.keyIdDisabled
      kid = some key := by
  cases cancelled with
  | true =>
    rw [refresh_cancelled] at h
    cases h
  | false =>
    rw [refresh_answer] at h
    obtain ⟨snapshot, houtcome, hresolve⟩ := Cache.resolveOutcome_eq_ok_iff.mp h
    rw [refresh_snapshot, houtcome, Cache.install_ok_snapshot]
    exact hresolve

theorem respond_settings (source : Source σ) (cancelled : Bool) (now : Instant) (q : Question)
    (fed : Fed σ) :
    (respond source cancelled now q fed).2.cache.settings = fed.cache.settings := by
  cases q with
  | refresh kid => exact refresh_settings source cancelled kid fed
  | lookup kid => rfl
  | now => rfl

theorem respond_slot (source : Source σ) (cancelled : Bool) (now : Instant) (q : Question)
    (fed : Fed σ) : (respond source cancelled now q fed).2.cache.slot = fed.cache.slot := by
  cases q with
  | refresh kid => exact refresh_slot source cancelled kid fed
  | lookup kid => rfl
  | now => rfl

section

variable {α β : Type}

/-- A part of a validation, answered for a caller who is alone. -/
def judge (source : Source σ) (cancelled : Bool) (now : Instant) (validation : Validation α)
    (fed : Fed σ) : Except Rejection α × Fed σ :=
  validation.run.run (respond source cancelled now) fed

variable {source : Source σ} {cancelled : Bool} {now : Instant}

theorem judge_check (result : Except Rejection α) (fed : Fed σ) :
    judge source cancelled now (Validation.check result) fed = (result, fed) := rfl

theorem judge_bind (validation : Validation α) (f : α → Validation β) (fed : Fed σ) :
    judge source cancelled now (validation >>= f) fed =
      match judge source cancelled now validation fed with
      | (.ok a, later) => judge source cancelled now (f a) later
      | (.error rejection, later) => (.error rejection, later) := by
  unfold judge
  rw [ExceptT.run_bind, Dialogue.run_bind]
  rcases h : validation.run.run (respond source cancelled now) fed with ⟨rejection | a, later⟩ <;>
    rfl

theorem judge_ask (q : Question) (f : q.Answer → Validation α) (fed : Fed σ) :
    judge source cancelled now
        ((liftM (Dialogue.question q : Inquiry q.Answer) : Validation q.Answer) >>= f) fed =
      judge source cancelled now (f (respond source cancelled now q fed).1)
        (respond source cancelled now q fed).2 := rfl

end

section

variable {α : Type} (source : Source σ) {fed : Fed σ} {callers : List (Caller α)}
  {i : Nat}

/-- A refresh of a caller who is alone, as a run of the system in which no other caller moves. -/
theorem exists_run_refresh (now : Instant) {kid : Option String}
    {next : Except CacheError VerificationKey → Inquiry α} (hslot : fed.cache.slot = none)
    (hi : callers[i]? = some ⟨.ask (.refresh kid) next, none, false⟩) :
    ∃ events, (⟨fed.cache, callers⟩ : System α).run events =
        some ⟨(fed.refresh source false kid).2.cache,
          callers.set i ⟨next (fed.refresh source false kid).1, none, false⟩⟩ ∧
      ∀ event ∈ events, event.isAlone i = true := by
  obtain ⟨fetched, hfetch⟩ :
      ∃ fetched, fetch source fed.cache.settings.fetchTimeout fed.source = fetched := ⟨_, rfl⟩
  have hlater := refresh_cache hfetch false kid
  have hanswer := refresh_result hfetch kid
  generalize fed.refresh source false kid = refreshed at hlater hanswer
  obtain ⟨granted, settled, hgranted, hsettled, hfinished⟩ :=
    fed.cache.moves_of_refreshAlone hslot fetched.1 fetched.2.1
  rw [← hlater] at hfinished
  have hfinal : refreshed.2.cache.refreshes[fed.cache.refreshes.length]? =
      some (.finished (fed.cache.outcomeOf fetched.1)) := by
    rw [hlater, Cache.clock_refreshes, Cache.refreshAlone_refreshes]
    exact List.getElem?_concat_length
  have hwaiting :
      (callers.set i ⟨.ask (.refresh kid) next, some fed.cache.refreshes.length, false⟩)[i]? =
        some ⟨.ask (.refresh kid) next, some fed.cache.refreshes.length, false⟩ := by
    rw [Cache.getElem?_set_of_some hi, if_pos rfl]
  refine ⟨[.proceed i now, .tick (fed.cache.nextPermit - fed.cache.clock),
    .grant fed.cache.refreshes.length, .tick fetched.2.1,
    .answer fed.cache.refreshes.length fetched.1, .finish fed.cache.refreshes.length,
    .proceed i now], ?_, by simp [Event.isAlone]⟩
  refine System.run_cons_eq_some_iff.mpr ⟨⟨fed.cache.joinOrStart.2, callers.set i
    ⟨.ask (.refresh kid) next, some fed.cache.refreshes.length, false⟩⟩, ?_, ?_⟩
  · refine System.step_proceed_eq_some_iff.mpr ⟨_, _, _, hi, ?_, rfl⟩
    simp [Caller.proceed?, Cache.joinOrStart_of_empty hslot]
  refine System.run_cons_eq_some_iff.mpr ⟨_, rfl, ?_⟩
  refine System.run_cons_eq_some_iff.mpr ⟨_, congrArg (Option.map _) hgranted, ?_⟩
  refine System.run_cons_eq_some_iff.mpr ⟨_, rfl, ?_⟩
  refine System.run_cons_eq_some_iff.mpr ⟨_, congrArg (Option.map _) hsettled, ?_⟩
  refine System.run_cons_eq_some_iff.mpr ⟨_, congrArg (Option.map _) hfinished, ?_⟩
  refine System.run_cons_eq_some_iff.mpr ⟨_, ?_, System.run_nil _⟩
  refine System.step_proceed_eq_some_iff.mpr ⟨_, ⟨next refreshed.1, none, false⟩,
    refreshed.2.cache, hwaiting, ?_, ?_⟩
  · simp [Caller.proceed?, hfinal, hanswer]
  · simp [List.set_set]

/-- One question of a caller who is alone. -/
theorem exists_run_question (now : Instant) {q : Question} {next : q.Answer → Inquiry α}
    (hslot : fed.cache.slot = none) (hi : callers[i]? = some ⟨.ask q next, none, false⟩) :
    ∃ events, (⟨fed.cache, callers⟩ : System α).run events =
        some ⟨(respond source false now q fed).2.cache,
          callers.set i ⟨next (respond source false now q fed).1, none, false⟩⟩ ∧
      ∀ event ∈ events, event.isAlone i = true := by
  have hsingle : ∀ event ∈ [(.proceed i now : Event α)], event.isAlone i = true := by
    simp [Event.isAlone]
  cases q with
  | refresh kid => exact exists_run_refresh source now hslot hi
  | lookup kid =>
    exact ⟨[.proceed i now], System.run_cons_eq_some_iff.mpr
      ⟨_, System.step_proceed_eq_some_iff.mpr ⟨_, _, _, hi, rfl, rfl⟩, System.run_nil _⟩,
      hsingle⟩
  | now =>
    exact ⟨[.proceed i now], System.run_cons_eq_some_iff.mpr
      ⟨_, System.step_proceed_eq_some_iff.mpr ⟨_, _, _, hi, rfl, rfl⟩, System.run_nil _⟩,
      hsingle⟩

/-- What a caller who is alone does, as a run of the system in which no other caller moves. -/
theorem exists_run_alone (now : Instant) (inquiry : Inquiry α) (hslot : fed.cache.slot = none)
    (hi : callers[i]? = some ⟨inquiry, none, false⟩) :
    ∃ events, (⟨fed.cache, callers⟩ : System α).run events =
        some ⟨(inquiry.run (respond source false now) fed).2.cache,
          callers.set i ⟨.done (inquiry.run (respond source false now) fed).1, none, false⟩⟩ ∧
      ∀ event ∈ events, event.isAlone i = true := by
  induction inquiry generalizing fed callers with
  | done result =>
    obtain ⟨hlt, hget⟩ := List.getElem?_eq_some_iff.mp hi
    refine ⟨[], ?_, by simp⟩
    rw [System.run_nil, Dialogue.run_done, ← hget, List.set_getElem_self]
  | ask q next ih =>
    obtain ⟨first, hfirst, hown⟩ := exists_run_question source now hslot hi
    obtain ⟨rest, hrest, hown'⟩ := ih (respond source false now q fed).1
      ((respond_slot source false now q fed).trans hslot)
      ((Cache.getElem?_set_of_some hi).trans (if_pos rfl))
    refine ⟨first ++ rest, System.run_append_eq_some_iff.mpr ⟨_, hfirst, ?_⟩, ?_⟩
    · rw [hrest, List.set_set]
      rfl
    · intro event hmem
      exact (List.mem_append.mp hmem).elim (hown event) (hown' event)

/-- A validation by a caller who is alone is a validation among callers who do nothing. -/
theorem exists_run_validate (policy : Policy) (now : Instant) (text : String)
    {s : System (Except Rejection ValidatedToken)} (hslot : s.cache.slot = none) (state : σ) :
    let fed : Fed σ := ⟨s.cache, state⟩
    let call := Event.call (BearerAuth.validate policy s.cache.settings.keyIdDisabled text)
    ∃ events t caller, s.run (call :: events) = some t ∧
      (∀ event ∈ events, event.isAlone s.callers.length = true) ∧
        t.cache = (fed.validate source policy false now text).2.cache ∧
          t.callers[s.callers.length]? = some caller ∧
            caller.result? = some (fed.validate source policy false now text).1 := by
  intro fed call
  have hcalled : (s.callers ++ [⟨BearerAuth.validate policy fed.cache.settings.keyIdDisabled text,
      none, false⟩])[s.callers.length]? = some _ := List.getElem?_concat_length
  obtain ⟨events, hrun, hown⟩ := exists_run_alone source now _ (show fed.cache.slot = none from hslot)
    hcalled
  exact ⟨events, _, _, System.run_cons_eq_some_iff.mpr ⟨_, rfl, hrun⟩, hown, rfl,
    (Cache.getElem?_set_of_some hcalled).trans (if_pos rfl), rfl⟩

end

end Fed
end BearerAuth
