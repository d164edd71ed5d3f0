import BearerAuth.Cache.State
import BearerAuth.Proofs.Token.Contents
import BearerAuth.Proofs.Token.Segments
import BearerAuth.Proofs.Validation.Policy
import BearerAuth.Validation.Validator
import Mathlib.Tactic.Common

/-!
# The stages of a validation

A validation goes through its stages in a fixed order and stops at the first that fails. Said
without any order in time, each stage has a fault or none, given what the call can read: the text,
the policy, the cached keys, the time, and what at most two refreshes come to. The result is then
decided by the first fault in the list of stages, and a refresh is due only when the stages before
the search for a key have passed and the cached keys do not do.
-/
namespace BearerAuth

inductive Stage
  | envelope
  | tokenType
  | key
  | signature
  | payload
  | expiry
  | issuer
  | audience
  | requiredClaims
  deriving DecidableEq, Repr

/-- The stages in the order in which they are gone through. -/
def Stage.all : List Stage :=
  [envelope, tokenType, key, signature, payload, expiry, issuer, audience, requiredClaims]

/-- All that the result of one validation depends on, for a caller who is alone and waits. -/
structure Trial where
  policy : Policy
  cache : Cache
  /-- What the first refresh would come to, and a second one after it. -/
  first : RefreshOutcome
  second : RefreshOutcome
  now : Instant
  text : String

namespace Trial

variable (trial : Trial)

/-- The token in its segments, with its header. -/
def envelope : Except EnvelopeError (CompactToken × Header) := do
  let token ← CompactToken.parse trial.text
  let header ← token.unverifiedHeader
  return (token, header)

/-- What to look for a key by; nothing if no key can be found. -/
def sought? (header : Header) : Option (Option String) :=
  if trial.cache.settings.keyIdDisabled then some none else header.kid.map some

/-- No cached key is the one to use. -/
def misses (header : Header) : Bool :=
  (trial.sought? header).any fun kid => (trial.cache.lookup kid).isNone

/-- The key from the cache, or from a refresh. -/
def resolved (header : Header) : Except Rejection VerificationKey :=
  match trial.sought? header with
  | none => .error (.keyNotFound none)
  | some kid =>
    match trial.cache.lookup kid with
    | some key => .ok key
    | none => (trial.cache.resolveOutcome kid trial.first).mapError Rejection.ofCacheError

/-- What the refresh for the signature's sake would come to. -/
def retried (header : Header) : RefreshOutcome :=
  if trial.misses header then trial.second else trial.first

/-- The signature under the key, or under the one that replaces it. -/
def vouched (token : CompactToken) (header : Header) (key : VerificationKey) :
    Except Rejection Unit :=
  if Validation.verifiesUnder token header key then .ok ()
  else if trial.cache.settings.keyIdDisabled then
    Validation.judgeRefreshed token header
      (trial.cache.resolveOutcome none (trial.retried header))
  else .error .signatureInvalid

/-- The expiry of the claims, against the clock. -/
def timely (claims : Json.Members) : Except Rejection Unit := do
  let expiresAt ← (Claim.expiryTime claims).mapError .claim
  Claim.checkExpiry expiresAt trial.policy.clockDrift trial.now

def header? : Option Header := trial.envelope.toOption.map Prod.snd

def claims? : Option Json.Members :=
  trial.envelope.toOption.bind fun (token, _) => token.claims.toOption

/-- What is wrong at a stage, on its own. A stage whose input cannot be had has no fault. -/
def fault? : Stage → Option Rejection
  | .envelope => failure? (trial.envelope.mapError .malformed)
  | .tokenType => trial.header?.bind fun header => failure? (trial.policy.checkType header)
  | .key => trial.header?.bind fun header => failure? (trial.resolved header)
  | .signature =>
    trial.envelope.toOption.bind fun (token, header) =>
      (trial.resolved header).toOption.bind fun key =>
        failure? (trial.vouched token header key)
  | .payload =>
    trial.envelope.toOption.bind fun (token, _) => failure? (token.claims.mapError .malformed)
  | .expiry => trial.claims?.bind fun claims => failure? (trial.timely claims)
  | .issuer => trial.claims?.bind fun claims => failure? (trial.policy.checkIssuer claims)
  | .audience => trial.claims?.bind fun claims => failure? (trial.policy.checkAudience claims)
  | .requiredClaims =>
    trial.claims?.bind fun claims => failure? (trial.policy.checkRequiredClaims claims)

/-- How many refreshes are made to find the key. -/
def searches (header : Header) : Nat := if trial.misses header then 1 else 0

/-- How many are made because it does not verify the signature. -/
def retries (token : CompactToken) (header : Header) (key : VerificationKey) : Nat :=
  if Validation.verifiesUnder token header key then 0
  else if trial.cache.settings.keyIdDisabled then 1 else 0

/-- The result once a key has been found. -/
def judged (token : CompactToken) (header : Header) (key : VerificationKey) :
    Except Rejection ValidatedToken := do
  trial.vouched token header key
  let claims ← token.claims.mapError .malformed
  let standard ← trial.policy.checkClaims claims trial.now
  return ⟨header, claims, standard⟩

/-- The stages one after the other, without any question: the result, and how many refreshes it
takes. -/
def course : Except Rejection ValidatedToken × Nat :=
  match trial.envelope with
  | .error error => (.error (.malformed error), 0)
  | .ok (token, header) =>
    match trial.policy.checkType header with
    | .error rejection => (.error rejection, 0)
    | .ok _ =>
      match trial.resolved header with
      | .error rejection => (.error rejection, trial.searches header)
      | .ok key =>
        (trial.judged token header key, trial.searches header + trial.retries token header key)

/-- The call gets as far as the search for a key. -/
def Reaches (token : CompactToken) (header : Header) : Prop :=
  trial.envelope = .ok (token, header) ∧ trial.policy.checkType header = .ok ()

/-- The token names a key that is not cached; without identifiers, no key is cached. -/
def Unknown (header : Header) : Prop :=
  if trial.cache.settings.keyIdDisabled then trial.cache.snapshot.keys.keys = []
  else ∃ kid, header.kid = some kid ∧ kid ≠ "" ∧
    ∀ key ∈ trial.cache.snapshot.keys.keys, key.kid ≠ some kid

/-- Identifiers are disabled, and the only key that is cached does not verify the token. -/
def Outdated (token : CompactToken) (header : Header) : Prop :=
  trial.cache.settings.keyIdDisabled = true ∧ ∃ key, trial.cache.snapshot.keys.keys = [key] ∧
    Validation.verifiesUnder token header key = false

/-- What a fetch is made for. -/
def Due : Prop :=
  ∃ token header, trial.Reaches token header ∧
    (trial.Unknown header ∨ trial.Outdated token header)

theorem failure?_judged (token : CompactToken) (header : Header) (key : VerificationKey) :
    failure? (trial.judged token header key) =
      (failure? (trial.vouched token header key)).or
        ((failure? (token.claims.mapError Rejection.malformed)).or
          (token.claims.toOption.bind fun claims =>
            failure? (trial.policy.checkClaims claims trial.now))) := by
  unfold judged
  cases trial.vouched token header key with
  | error rejection => rfl
  | ok _ =>
    show failure? (token.claims.mapError Rejection.malformed >>= _) = _
    cases token.claims with
    | error error => rfl
    | ok claims =>
      show failure? (trial.policy.checkClaims claims trial.now >>= _) =
        failure? (trial.policy.checkClaims claims trial.now)
      cases trial.policy.checkClaims claims trial.now <;> rfl

/-- A validation fails with the first fault. -/
theorem failure?_course : failure? trial.course.1 = Stage.all.findSome? trial.fault? := by
  have hcons (stage : Stage) (later : List Stage) :
      (stage :: later).findSome? trial.fault? =
        (trial.fault? stage).or (later.findSome? trial.fault?) := by
    cases h : trial.fault? stage <;> simp [h]
  simp only [Stage.all, hcons, List.findSome?_nil, Option.or_none, fault?, header?, claims?]
  unfold course
  cases trial.envelope with
  | error error => rfl
  | ok read =>
    obtain ⟨token, header⟩ := read
    dsimp only [Except.toOption, Option.map_some, Option.bind_some]
    cases trial.policy.checkType header with
    | error rejection => rfl
    | ok _ =>
      dsimp only
      cases trial.resolved header with
      | error rejection => rfl
      | ok key =>
        dsimp only [Option.bind_some]
        rw [failure?_judged]
        cases trial.vouched token header key with
        | error rejection => rfl
        | ok _ =>
          cases token.claims with
          | error error => rfl
          | ok claims => exact trial.policy.failure?_checkClaims claims trial.now

/-- A key is found by what it is sought by. -/
theorem resolveKey_eq (header : Header) :
    Validation.resolveKey trial.cache.settings.keyIdDisabled header =
      match trial.sought? header with
      | none => throw (.keyNotFound none)
      | some kid => Validation.findKey kid := by
  unfold Validation.resolveKey sought?
  split
  · rfl
  · cases header.kid <;> rfl

section

variable {trial}

theorem unverifiedHeader_of_envelope {token : CompactToken} {header : Header}
    (h : trial.envelope = .ok (token, header)) : token.unverifiedHeader = .ok header := by
  obtain ⟨token', -, hread⟩ := bind_eq_ok_iff.mp h
  obtain ⟨header', hheader, heq⟩ := bind_eq_ok_iff.mp hread
  cases heq
  exact hheader

/-- Without identifiers there is never a choice of keys. -/
def Sole (trial : Trial) : Prop :=
  trial.cache.settings.keyIdDisabled = true → trial.cache.snapshot.keys.keys.length ≤ 1

theorem lookup_of_disabled (hmode : trial.cache.settings.keyIdDisabled = true)
    (hsole : trial.Sole) (kid : Option String) :
    trial.cache.lookup kid = trial.cache.snapshot.keys.keys.head? := by
  have hlength := hsole hmode
  unfold Cache.lookup Snapshot.resolve KeySet.sole?
  rw [if_pos hmode]
  rcases hkeys : trial.cache.snapshot.keys.keys with _ | ⟨key, _ | ⟨other, rest⟩⟩
  · rfl
  · rfl
  · simp [hkeys] at hlength

theorem misses_iff {token : CompactToken} {header : Header} (hsole : trial.Sole)
    (henvelope : trial.envelope = .ok (token, header)) :
    trial.misses header = true ↔ trial.Unknown header := by
  have hkid := CompactToken.kid_ne_empty (unverifiedHeader_of_envelope henvelope)
  unfold misses sought? Unknown
  by_cases hmode : trial.cache.settings.keyIdDisabled = true
  · rw [if_pos hmode, if_pos hmode, Option.any_some, lookup_of_disabled hmode hsole]
    simp
  · rw [if_neg hmode, if_neg hmode]
    cases hheader : header.kid with
    | none => simp
    | some kid =>
      have hne : kid ≠ "" := fun hempty => hkid (by rw [hheader, hempty])
      simp [Cache.lookup, Snapshot.resolve, hmode, KeySet.find?, hne]

theorem course_of_reaches {token : CompactToken} {header : Header}
    (h : trial.Reaches token header) :
    trial.course = match trial.resolved header with
      | .error rejection => (.error rejection, trial.searches header)
      | .ok key =>
        (trial.judged token header key, trial.searches header + trial.retries token header key) := by
  unfold course
  rw [h.1]
  dsimp only
  rw [h.2]

theorem course_of_not_reaches (h : ∀ token header, ¬ trial.Reaches token header) :
    trial.course.2 = 0 := by
  unfold course
  cases henvelope : trial.envelope with
  | error error => rfl
  | ok read =>
    obtain ⟨token, header⟩ := read
    dsimp only
    cases htype : trial.policy.checkType header with
    | error rejection => rfl
    | ok _ => exact absurd ⟨henvelope, htype⟩ (h token header)

theorem retries_pos_iff {token : CompactToken} {header : Header} {key : VerificationKey} :
    0 < trial.retries token header key ↔ trial.cache.settings.keyIdDisabled = true ∧
      Validation.verifiesUnder token header key = false := by
  unfold retries
  cases Validation.verifiesUnder token header key <;>
    cases trial.cache.settings.keyIdDisabled <;> simp

/-- Without identifiers, the key that is tried first is the one that is cached. -/
theorem resolved_of_disabled {header : Header} {key : VerificationKey} (hsole : trial.Sole)
    (hmode : trial.cache.settings.keyIdDisabled = true) (hmisses : trial.misses header = false) :
    trial.resolved header = .ok key ↔ trial.cache.snapshot.keys.keys = [key] := by
  have hlength := hsole hmode
  unfold misses at hmisses
  unfold resolved
  rw [sought?, if_pos hmode, Option.any_some, lookup_of_disabled hmode hsole] at hmisses
  rw [sought?, if_pos hmode]
  dsimp only
  rw [lookup_of_disabled hmode hsole]
  rcases hkeys : trial.cache.snapshot.keys.keys with _ | ⟨only, _ | ⟨other, rest⟩⟩
  · simp [hkeys] at hmisses
  · simp
  · simp [hkeys] at hlength

/-- A refresh is made when it is due, and only then. -/
theorem course_pos_iff (hsole : trial.Sole) : 0 < trial.course.2 ↔ trial.Due := by
  by_cases hreaches : ∃ token header, trial.Reaches token header
  · obtain ⟨token, header, hreaches⟩ := hreaches
    have hdue : trial.Due ↔ trial.Unknown header ∨ trial.Outdated token header := by
      constructor
      · rintro ⟨token', header', hreaches', h⟩
        cases hreaches.1.symm.trans hreaches'.1
        exact h
      · exact fun h => ⟨token, header, hreaches, h⟩
    rw [hdue, course_of_reaches hreaches, ← misses_iff hsole hreaches.1]
    cases hmisses : trial.misses header with
    | true =>
      have hsearches : trial.searches header = 1 := if_pos hmisses
      cases trial.resolved header with
      | error rejection => simp [hsearches]
      | ok key => simp only [hsearches, true_or, iff_true]; omega
    | false =>
      have hsearches : trial.searches header = 0 := if_neg (by simp [hmisses])
      unfold Outdated
      by_cases hmode : trial.cache.settings.keyIdDisabled = true
      · cases hresolved : trial.resolved header with
        | error rejection =>
          have hnone (key : VerificationKey) : trial.cache.snapshot.keys.keys ≠ [key] := by
            intro hkeys
            have hok := (resolved_of_disabled hsole hmode hmisses).mpr hkeys
            rw [hresolved] at hok
            cases hok
          simp [hsearches, hnone]
        | ok key =>
          have hkeys := (resolved_of_disabled hsole hmode hmisses).mp hresolved
          simp [hsearches, retries_pos_iff, hmode, hkeys]
      · cases hresolved : trial.resolved header with
        | error rejection => simp [hmode, hsearches]
        | ok key =>
          simp [hmode, hsearches, retries]
  · simp only [not_exists] at hreaches
    rw [course_of_not_reaches hreaches]
    simp [Due, hreaches]

theorem not_due_of_oversized (h : maxTokenBytes < trial.text.utf8ByteSize) : ¬ trial.Due := by
  rintro ⟨token, header, ⟨henvelope, -⟩, -⟩
  obtain ⟨token', hparse, -⟩ := bind_eq_ok_iff.mp henvelope
  exact Nat.not_le_of_lt h (CompactToken.parse_eq_ok_iff.mp hparse).1

theorem not_due_of_mistyped {token : CompactToken} {header : Header} {rejection : Rejection}
    (henvelope : trial.envelope = .ok (token, header))
    (htype : trial.policy.checkType header = .error rejection) : ¬ trial.Due := by
  rintro ⟨token', header', ⟨henvelope', htype'⟩, -⟩
  cases henvelope.symm.trans henvelope'
  rw [htype] at htype'
  cases htype'

theorem not_due_of_envelope {error : EnvelopeError} (h : trial.envelope = .error error) :
    ¬ trial.Due := by
  rintro ⟨token, header, ⟨henvelope, -⟩, -⟩
  rw [h] at henvelope
  cases henvelope

/-- With identifiers, only an unknown one makes a refresh due. -/
theorem not_due_of_enabled {token : CompactToken} {header : Header}
    (henvelope : trial.envelope = .ok (token, header))
    (hmode : trial.cache.settings.keyIdDisabled = false)
    (hknown : ∀ kid, header.kid = some kid →
      ∃ key ∈ trial.cache.snapshot.keys.keys, key.kid = some kid) : ¬ trial.Due := by
  rintro ⟨token', header', ⟨henvelope', -⟩, hunknown | ⟨hdisabled, -⟩⟩
  · cases henvelope.symm.trans henvelope'
    unfold Unknown at hunknown
    rw [hmode, if_neg Bool.false_ne_true] at hunknown
    obtain ⟨kid, hkid, -, hall⟩ := hunknown
    obtain ⟨key, hkey, hsame⟩ := hknown kid hkid
    exact hall key hkey hsame
  · rw [hmode] at hdisabled
    cases hdisabled

/-- What becomes of a failed search for a key. -/
theorem course_of_unknown {token : CompactToken} {header : Header} {error : CacheError}
    (hsole : trial.Sole) (hreaches : trial.Reaches token header)
    (hunknown : trial.Unknown header) (hfirst : trial.first = .error error) :
    trial.course.1 = .error (Rejection.ofCacheError error) := by
  have hresolved : trial.resolved header = .error (Rejection.ofCacheError error) := by
    have hmisses := (misses_iff hsole hreaches.1).mpr hunknown
    unfold misses at hmisses
    unfold resolved
    cases hsought : trial.sought? header with
    | none => simp [hsought] at hmisses
    | some kid =>
      rw [hsought, Option.any_some, Option.isNone_iff_eq_none] at hmisses
      dsimp only
      rw [hmisses, hfirst]
      rfl
  rw [course_of_reaches hreaches, hresolved]

theorem course_of_retried {token : CompactToken} {header : Header} {key : VerificationKey}
    {error : CacheError} (hreaches : trial.Reaches token header)
    (hmode : trial.cache.settings.keyIdDisabled = true)
    (hresolved : trial.resolved header = .ok key)
    (hbad : Validation.verifiesUnder token header key = false)
    (hretried : trial.retried header = .error error) :
    trial.course.1 = .error (if error = .cancelled then .cancelled else .signatureInvalid) := by
  have hvouched : trial.vouched token header key =
      .error (if error = .cancelled then .cancelled else .signatureInvalid) := by
    unfold vouched
    rw [if_neg (by simp [hbad]), if_pos hmode, hretried]
    cases error <;> rfl
  rw [course_of_reaches hreaches, hresolved]
  dsimp only [judged]
  rw [hvouched]
  rfl

end

end Trial

end BearerAuth
