import BearerAuth.Proofs.Cache.Snapshots
import BearerAuth.Proofs.Validation.Alone
import BearerAuth.Proofs.Validation.Refreshes
import BearerAuth.Proofs.Validation.Trial

/-!
# The order of the stages

What a caller who is alone gets is what the stages come to one after the other, and what it leaves
is what the refreshes leave that are due.
-/
namespace BearerAuth

namespace Fed

variable {σ α β : Type} (source : Source σ) (now : Instant)

/-- The state after a refresh. -/
def refreshed (fed : Fed σ) : Fed σ := (fed.refresh source false none).2

/-- What the next refresh comes to. -/
def outcome (fed : Fed σ) : RefreshOutcome := fed.cache.outcomeOf (fed.reply source)

/-- The state after a number of refreshes. -/
def after (fed : Fed σ) : Nat → Fed σ
  | 0 => fed
  | n + 1 => (fed.refreshed source).after n

def trial (policy : Policy) (text : String) (fed : Fed σ) : Trial :=
  ⟨policy, fed.cache, fed.outcome source, (fed.refreshed source).outcome source, now, text⟩

variable {source now}

theorem refresh_eq (fed : Fed σ) (kid : Option String) :
    fed.refresh source false kid =
      (fed.cache.resolveOutcome kid (fed.outcome source), fed.refreshed source) :=
  Prod.ext (refresh_answer source kid fed) rfl

theorem judge_refresh (f : Except CacheError VerificationKey → Validation α)
    (kid : Option String) (fed : Fed σ) :
    judge source false now ((liftM (Inquiry.refresh kid) : Validation _) >>= f) fed =
      judge source false now (f (fed.cache.resolveOutcome kid (fed.outcome source)))
        (fed.refreshed source) := by
  refine (judge_ask (.refresh kid) f fed).trans ?_
  show judge source false now (f (fed.refresh source false kid).1) (fed.refresh source false kid).2 = _
  rw [refresh_eq]

theorem judge_findKey (kid : Option String) (fed : Fed σ) :
    judge source false now (Validation.findKey kid) fed =
      match fed.cache.lookup kid with
      | some key => (.ok key, fed)
      | none =>
        ((fed.cache.resolveOutcome kid (fed.outcome source)).mapError Rejection.ofCacheError,
          fed.refreshed source) := by
  refine (judge_ask (.lookup kid) _ fed).trans ?_
  show judge source false now (match fed.cache.lookup kid with | some key => _ | none => _) fed = _
  cases fed.cache.lookup kid with
  | some key => rfl
  | none => exact judge_refresh _ kid fed

@[simp] theorem after_zero (fed : Fed σ) : fed.after source 0 = fed := rfl

theorem after_add (fed : Fed σ) (m n : Nat) :
    fed.after source (m + n) = (fed.after source m).after source n := by
  induction m generalizing fed with
  | zero => rw [Nat.zero_add, after_zero]
  | succ m ih =>
    rw [Nat.succ_add]
    exact ih (fed.refreshed source)

theorem after_settings (fed : Fed σ) (n : Nat) :
    (fed.after source n).cache.settings = fed.cache.settings := by
  induction n generalizing fed with
  | zero => rfl
  | succ n ih => exact (ih (fed.refreshed source)).trans (refresh_settings source false none fed)

section

variable (policy : Policy) (text : String) (header : Header) (fed : Fed σ)

theorem judge_resolveKey :
    judge source false now (Validation.resolveKey fed.cache.settings.keyIdDisabled header) fed =
      ((fed.trial source now policy text).resolved header,
        fed.after source ((fed.trial source now policy text).searches header)) := by
  refine (congrArg (judge source false now · fed)
    ((fed.trial source now policy text).resolveKey_eq header)).trans ?_
  unfold Trial.resolved Trial.searches Trial.misses
  cases (fed.trial source now policy text).sought? header with
  | none => rfl
  | some kid =>
    refine (judge_findKey kid fed).trans ?_
    cases hlookup : fed.cache.lookup kid with
    | some key => simp [trial, hlookup]
    | none => simp [trial, hlookup, after]

/-- The refresh for the signature's sake comes after those that were made for the key. -/
theorem retried_trial : (fed.trial source now policy text).retried header =
    (fed.after source ((fed.trial source now policy text).searches header)).outcome source := by
  unfold Trial.retried Trial.searches
  split <;> rfl

theorem judge_verifySignature (token : CompactToken) (key : VerificationKey) :
    judge source false now
        (Validation.verifySignature fed.cache.settings.keyIdDisabled token header key)
        (fed.after source ((fed.trial source now policy text).searches header)) =
      ((fed.trial source now policy text).vouched token header key,
        fed.after source ((fed.trial source now policy text).searches header +
          (fed.trial source now policy text).retries token header key)) := by
  have hcache : (fed.trial source now policy text).cache = fed.cache := rfl
  unfold Validation.verifySignature Trial.vouched Trial.retries
  rw [after_add, retried_trial, hcache]
  split
  · rfl
  · split
    · rw [judge_refresh, judge_check,
        Cache.resolveOutcome_of_settings (after_settings fed _) none]
      rfl
    · rfl

end

theorem judge_envelope (policy : Policy) (text : String) (fed : Fed σ)
    (rest : CompactToken → Header → Validation α) :
    judge source false now (do
        let token ← Validation.checkEnvelope (CompactToken.parse text)
        let header ← Validation.checkEnvelope token.unverifiedHeader
        rest token header) fed =
      match (fed.trial source now policy text).envelope with
      | .error error => (.error (.malformed error), fed)
      | .ok (token, header) => judge source false now (rest token header) fed := by
  have henvelope : (fed.trial source now policy text).envelope =
      CompactToken.parse text >>= fun token => token.unverifiedHeader >>= fun header =>
        pure (token, header) := rfl
  rw [henvelope, judge_bind, Validation.checkEnvelope, judge_check]
  cases CompactToken.parse text with
  | error error => rfl
  | ok token =>
    show judge source false now (Validation.checkEnvelope token.unverifiedHeader >>= rest token) fed =
      match token.unverifiedHeader >>= fun header => pure (token, header) with
      | .error error => (.error (.malformed error), fed)
      | .ok (token, header) => judge source false now (rest token header) fed
    rw [judge_bind, Validation.checkEnvelope, judge_check]
    cases token.unverifiedHeader <;> rfl

/-- What a validation comes to, and what its refreshes leave. -/
theorem validate_eq (source : Source σ) (policy : Policy) (now : Instant) (text : String)
    (fed : Fed σ) :
    fed.validate source policy false now text =
      ((fed.trial source now policy text).course.1,
        fed.after source (fed.trial source now policy text).course.2) := by
  refine (judge_envelope policy text fed _).trans ?_
  have hpolicy : (fed.trial source now policy text).policy = policy := rfl
  unfold Trial.course
  rw [hpolicy]
  cases (fed.trial source now policy text).envelope with
  | error error => rfl
  | ok read =>
    obtain ⟨token, header⟩ := read
    dsimp only
    rw [judge_bind, judge_check]
    cases policy.checkType header with
    | error rejection => rfl
    | ok _ =>
      dsimp only
      rw [judge_bind, judge_resolveKey policy text]
      cases (fed.trial source now policy text).resolved header with
      | error rejection => rfl
      | ok key =>
        dsimp only
        rw [judge_bind, judge_verifySignature policy text]
        unfold Trial.judged
        cases (fed.trial source now policy text).vouched token header key with
        | error rejection => rfl
        | ok _ =>
          show judge source false now (Validation.checkEnvelope token.claims >>= _) _ =
            (token.claims.mapError Rejection.malformed >>= _, _)
          rw [judge_bind, Validation.checkEnvelope, judge_check]
          cases token.claims with
          | error error => rfl
          | ok claims =>
            show judge source false now (Validation.check (policy.checkClaims claims now) >>= _) _ =
              (policy.checkClaims claims now >>= _, _)
            rw [judge_bind, judge_check]
            cases policy.checkClaims claims now <;> rfl

theorem length_after (fed : Fed σ) (n : Nat) :
    (fed.after source n).cache.refreshes.length = fed.cache.refreshes.length + n := by
  induction n generalizing fed with
  | zero => rfl
  | succ n ih =>
    have hfirst : (fed.refreshed source).cache.refreshes.length =
        fed.cache.refreshes.length + 1 := by
      rw [refreshed, refresh_refreshes, List.length_append]
      rfl
    rw [after, ih, hfirst]
    omega

/-- What a validation by a caller who is alone does with the keys and with the fetches. -/
structure Orderly (fed : Fed σ) (trial : Trial) (result : Except Rejection ValidatedToken)
    (later : Fed σ) : Prop where
  accepted : (∃ token, result = .ok token) ↔ ∀ stage ∈ Stage.all, trial.fault? stage = none
  /-- A rejection is the fault of the first stage that has one. -/
  rejected : ∀ rejection, result = .error rejection ↔
    ∃ before stage after, Stage.all = before ++ stage :: after ∧
      trial.fault? stage = some rejection ∧ ∀ earlier ∈ before, trial.fault? earlier = none
  /-- The refreshes are counted, and each of them is one fetch. -/
  fetched : fed.cache.refreshes.length < later.cache.refreshes.length ↔ trial.Due
  untouched : ¬ trial.Due → later = fed
  oversized : maxTokenBytes < trial.text.utf8ByteSize → later = fed
  malformed : ∀ error, trial.envelope = .error error → later = fed
  mistyped : ∀ token header rejection, trial.envelope = .ok (token, header) →
    trial.policy.checkType header = .error rejection → later = fed
  nameless : ∀ token header, trial.envelope = .ok (token, header) →
    trial.cache.settings.keyIdDisabled = false → header.kid = none → later = fed
  cached : ∀ token header kid key, trial.envelope = .ok (token, header) →
    trial.cache.settings.keyIdDisabled = false → header.kid = some kid →
      key ∈ trial.cache.snapshot.keys.keys → key.kid = some kid → later = fed
  /-- No fetch made for a key: the error says what has become of it. -/
  ambiguous : ∀ token header count, trial.Reaches token header → trial.Unknown header →
    trial.first = .error (.ambiguousKeySet count) →
      result = .error (.configuration (.ambiguousKeySet count))
  unavailable : ∀ token header error, trial.Reaches token header → trial.Unknown header →
    trial.first = .error error → (∀ count, error ≠ .ambiguousKeySet count) →
      (∀ kid, error ≠ .keyNotFound kid) → error ≠ .cancelled →
        result = .error (.keyUnavailable error)
  handedOn : ∀ token header kid, trial.Reaches token header → trial.Unknown header →
    (trial.first = .error (.keyNotFound kid) → result = .error (.keyNotFound kid)) ∧
      (trial.first = .error .cancelled → result = .error .cancelled)
  /-- A fetch that fails when a signature is tried again counts against the signature. -/
  retried : ∀ token header key error, trial.Reaches token header →
    trial.cache.settings.keyIdDisabled = true → trial.resolved header = .ok key →
      Validation.verifiesUnder token header key = false → trial.retried header = .error error →
        result = .error (if error = .cancelled then .cancelled else .signatureInvalid)

variable {ρ : Type}

/-- In every state that a cache can be in, there is at most one key without identifiers. -/
theorem sole_of_opening {settings : CacheSettings} {fetched : Except CacheError KeySet}
    {cache : Cache} (hstart : Cache.start settings fetched = .ok cache) {s : System ρ}
    {events : List (Event ρ)} (hrun : (System.opening cache).run events = some s)
    (hmode : s.cache.settings.keyIdDisabled = true) : s.cache.snapshot.keys.keys.length ≤ 1 := by
  rw [System.settings_of_opening hstart hrun] at hmode
  obtain ⟨keys, -, hfirst, rfl⟩ := Cache.start_eq_ok_iff.mp hstart
  rw [System.snapshot_of_run hrun]
  exact System.length_getLastD_installed_le (fun _ => hfirst hmode) events hmode

/-- The stages are gone through in their order, and fetches are made only where they are due.
This holds in every state that a cache can be in. -/
theorem validate_orderly {settings : CacheSettings} {fetched : Except CacheError KeySet}
    {cache : Cache} (hstart : Cache.start settings fetched = .ok cache) {s : System ρ}
    {events : List (Event ρ)} (hrun : (System.opening cache).run events = some s)
    (source : Source σ) (state : σ) (policy : Policy) (now : Instant) (text : String) :
    let fed : Fed σ := ⟨s.cache, state⟩
    Orderly fed (fed.trial source now policy text)
      (fed.validate source policy false now text).1
      (fed.validate source policy false now text).2 := by
  intro fed
  rw [validate_eq]
  have hsole : (fed.trial source now policy text).Sole := sole_of_opening hstart hrun
  generalize fed.trial source now policy text = trial at hsole
  have huntouched (h : ¬ trial.Due) : fed.after source trial.course.2 = fed := by
    have hzero := (Trial.course_pos_iff hsole).not.mpr h
    rw [Nat.eq_zero_of_not_pos hzero, after_zero]
  exact {
    accepted := by
      rw [← failure?_eq_none_iff, Trial.failure?_course, List.findSome?_eq_none_iff]
    rejected := fun rejection => by
      rw [← failure?_eq_some_iff, Trial.failure?_course, List.findSome?_eq_some_iff]
    fetched := by
      rw [length_after, ← Trial.course_pos_iff hsole]
      omega
    untouched := huntouched
    oversized := fun hsize => huntouched (Trial.not_due_of_oversized hsize)
    malformed := fun error h => huntouched (Trial.not_due_of_envelope h)
    mistyped := fun token header rejection henvelope htype =>
      huntouched (Trial.not_due_of_mistyped henvelope htype)
    nameless := fun token header henvelope hmode hkid =>
      huntouched (Trial.not_due_of_enabled henvelope hmode fun kid h =>
        nomatch hkid.symm.trans h)
    cached := fun token header kid key henvelope hmode hkid hkey hsame =>
      huntouched (Trial.not_due_of_enabled henvelope hmode fun kid' h =>
        ⟨key, hkey, hsame.trans (hkid.symm.trans h)⟩)
    ambiguous := fun token header count hreaches hunknown hfirst =>
      Trial.course_of_unknown hsole hreaches hunknown hfirst
    unavailable := fun token header error hreaches hunknown hfirst hambiguous hkey hcancelled => by
      rw [Trial.course_of_unknown hsole hreaches hunknown hfirst]
      cases error with
      | ambiguousKeySet count => exact absurd rfl (hambiguous count)
      | keyNotFound kid => exact absurd rfl (hkey kid)
      | cancelled => exact absurd rfl hcancelled
      | _ => rfl
    handedOn := fun token header kid hreaches hunknown =>
      ⟨Trial.course_of_unknown hsole hreaches hunknown,
        Trial.course_of_unknown hsole hreaches hunknown⟩
    retried := fun token header key error => Trial.course_of_retried }

/-- A cache without a key, whose next fetch fails with an error of the fetcher's own. -/
def keyless (error : CacheError) : Fed Script :=
  ⟨.initial ⟨.ofSeconds 5, .ofSeconds 0, true⟩ ⟨[]⟩, ⟨[.error error], 0, [], 0⟩⟩

/-- The same with a key. -/
def keyed (error : CacheError) : Fed Script :=
  ⟨.initial ⟨.ofSeconds 5, .ofSeconds 0, true⟩ ⟨[.blank "a"]⟩, ⟨[.error error], 0, [], 0⟩⟩

/-- A failed fetch is not always reported as missing keys, nor as a bad signature when a signature
is tried again: an error that a caller can get without a fetch as well is passed on as it is. -/
theorem validate_misreports :
    failure? ((keyless (.keyNotFound (some "k"))).validate Script.source barePolicy false .epoch
        unsignedToken).1 = some (.keyNotFound (some "k")) ∧
      failure? ((keyless .cancelled).validate Script.source barePolicy false .epoch
        unsignedToken).1 = some .cancelled ∧
      failure? ((keyed .cancelled).validate Script.source barePolicy false .epoch
        unsignedToken).1 = some .cancelled := by
  refine ⟨?_, ?_, ?_⟩ <;> decide +kernel

theorem validate_orderly_keyless :
    let fed := keyless (.status 503)
    Orderly fed (fed.trial Script.source .epoch barePolicy unsignedToken)
      (fed.validate Script.source barePolicy false .epoch unsignedToken).1
      (fed.validate Script.source barePolicy false .epoch unsignedToken).2 ∧
      failure? (fed.validate Script.source barePolicy false .epoch unsignedToken).1 =
        some (.keyUnavailable (.status 503)) := by
  intro fed
  have hstart : Cache.start ⟨.ofSeconds 5, .ofSeconds 0, true⟩ (.ok ⟨[]⟩) = .ok fed.cache := rfl
  have hrun := System.run_nil (System.opening fed.cache : System Unit)
  refine ⟨validate_orderly hstart hrun Script.source fed.source barePolicy .epoch unsignedToken, ?_⟩
  decide +kernel

end Fed

end BearerAuth
