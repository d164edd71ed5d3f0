import BearerAuth.Proofs.Cache.Answers
import BearerAuth.Proofs.Key.Binding
import BearerAuth.Proofs.Token.Contents
import BearerAuth.Proofs.Token.Segments
import BearerAuth.Proofs.Validation.Policy

/-!
# Accepted tokens

Whatever route a validation takes, by a key at hand, a refresh or a second try, it accepts a
token only after every check has passed, with a key from a snapshot that was current while it
ran.
-/
namespace BearerAuth

open Json

/-- What acceptance means: the `segments` of the text, the `key` from the snapshot and the
`algorithm` that verified them, and the time `now` at which the claims were looked at. -/
structure Accepted (policy : Policy) (keyIdDisabled : Bool) (text : String) (snapshot : Snapshot)
    (now : Instant) (segments : CompactToken) (key : VerificationKey) (algorithm : Algorithm)
    (token : ValidatedToken) : Prop where
  small : text.utf8ByteSize ≤ maxTokenBytes
  compact : text = segments.header ++ "." ++ segments.payload ++ "." ++ segments.signature
  wellFormed : segments.WellFormed
  header : segments.unverifiedHeader = .ok token.header
  tokenType : ∀ required, policy.requiredTokenType = some required →
    token.header.typ = some required
  member : key ∈ snapshot.keys.keys
  identified : keyIdDisabled = false →
    ∃ kid, kid ≠ "" ∧ token.header.kid = some kid ∧ key.kid = some kid
  sole : keyIdDisabled = true → snapshot.keys.keys = [key]
  /-- The declared algorithm, or the one that the token names if it suits the key. -/
  bound : key.algorithm = some algorithm ∨ key.algorithm = none ∧
    algorithm.name = token.header.algorithm ∧ key.family.allows algorithm = true
  signed : key.material.checkSignature algorithm
    (Bytes.ofText (segments.header ++ "." ++ segments.payload)) segments.signature = true
  claims : segments.claims = .ok token.claims
  expiry : Claim.expiryTime token.claims = .ok token.standard.expiresAt
  unexpired : now.toNanos < token.standard.expiresAt.toNanos + policy.clockDrift.toNanos
  issuer : policy.issuer ≠ "" ∧ token.claims.get? "iss" = some (.string policy.issuer) ∧
    token.standard.issuer = policy.issuer
  /-- The audience is what `aud` lists, and a required one is among it. -/
  audience : (∀ name, name ∈ token.standard.audience ↔
      token.claims.get? "aud" = some (.string name) ∨
        ∃ items, token.claims.get? "aud" = some (.array items) ∧ .string name ∈ items) ∧
    ∀ required, policy.requiredAudience = some required → required ≠ "" →
      required ∈ token.standard.audience
  requiredClaims : ∀ required, policy.requiredClaims = some required →
    Claim.checkMembers required token.claims = .ok ()

theorem accepted_of_checks {policy : Policy} {keyIdDisabled : Bool} {text : String}
    {snapshot : Snapshot} {now : Instant} {segments : CompactToken} {key : VerificationKey}
    {header : Header} {claims : Members} {standard : StandardClaims}
    (hparse : CompactToken.parse text = .ok segments)
    (hheader : segments.unverifiedHeader = .ok header) (htype : policy.checkType header = .ok ())
    (hoffers : snapshot.Offers keyIdDisabled header.kid key)
    (hverifies : Validation.verifiesUnder segments header key = true)
    (hclaims : segments.claims = .ok claims)
    (hstandard : policy.checkClaims claims now = .ok standard) :
    ∃ algorithm, Accepted policy keyIdDisabled text snapshot now segments key algorithm
      ⟨header, claims, standard⟩ := by
  obtain ⟨hsmall, -, htext, hwell⟩ := CompactToken.parse_eq_ok_iff.mp hparse
  obtain ⟨hmember, hsole, hkid⟩ := hoffers
  obtain ⟨algorithm, hbound, hsigned⟩ := VerificationKey.verify_eq_true_iff.mp hverifies
  obtain ⟨hexpiry, hunexpired, hissuer, haudience, hrequired⟩ :=
    Policy.checkClaims_eq_ok_iff.mp hstandard
  obtain ⟨haudience, hincluded⟩ := Policy.checkAudience_eq_ok_iff.mp haudience
  refine ⟨algorithm, ?_⟩
  refine { small := hsmall, compact := htext, wellFormed := hwell, header := hheader,
           tokenType := Policy.checkType_eq_ok_iff.mp htype, member := hmember,
           identified := ?_, sole := hsole, bound := hbound, signed := hsigned,
           claims := hclaims, expiry := hexpiry, unexpired := hunexpired,
           issuer := Policy.checkIssuer_eq_ok_iff.mp hissuer, audience := ⟨fun name => ?_, ?_⟩,
           requiredClaims := Policy.checkRequiredClaims_eq_ok_iff.mp hrequired }
  · intro henabled
    obtain ⟨kid, hheaderKid, hkeyKid⟩ := hkid henabled
    refine ⟨kid, ?_, hheaderKid, hkeyKid⟩
    rintro rfl
    exact CompactToken.kid_ne_empty hheader hheaderKid
  · rw [haudience]
    exact Policy.mem_audienceOf_iff
  · intro required hname hne
    refine hincluded required ?_
    rw [Policy.audience?, Option.filter_eq_some_iff]
    exact ⟨hname, by simpa using hne⟩

namespace Validation

variable {W : Snapshot → Prop} {T : Instant → Prop} {keyIdDisabled : Bool}

/-- Some snapshot of `W` offers the key for an identifier. -/
def Known (W : Snapshot → Prop) (keyIdDisabled : Bool) (kid : Option String)
    (key : VerificationKey) : Prop :=
  ∃ snapshot, W snapshot ∧ snapshot.Offers keyIdDisabled kid key

theorem findKey_ensures (kid : Option String) :
    (findKey kid).Ensures (Question.Fair W T keyIdDisabled) (Known W keyIdDisabled kid) := by
  refine ensures_ask fun found hfound => ?_
  obtain ⟨snapshot, hsnapshot, hresolve⟩ := hfound
  cases found with
  | some key => exact ensures_pure ⟨snapshot, hsnapshot, Snapshot.offers_of_resolve hresolve⟩
  | none =>
    refine ensures_ask fun refreshed hrefreshed => ensures_check fun key hkey => ?_
    obtain ⟨later, hlater, hresolve⟩ := hrefreshed key (mapError_eq_ok_iff.mp hkey)
    exact ⟨later, hlater, Snapshot.offers_of_resolve hresolve⟩

/-- Where identifiers are disabled, it does not matter which one the token has. -/
theorem Known.of_disabled {kid : Option String} {key : VerificationKey}
    (h : Known W true kid key) (other : Option String) : Known W true other key := by
  obtain ⟨snapshot, hsnapshot, hoffers⟩ := h
  exact ⟨snapshot, hsnapshot, hoffers.of_disabled other⟩

theorem resolveKey_ensures (header : Header) :
    (resolveKey keyIdDisabled header).Ensures (Question.Fair W T keyIdDisabled)
      (Known W keyIdDisabled header.kid) := by
  unfold resolveKey
  cases keyIdDisabled with
  | true => exact (findKey_ensures none).mono fun key hkey => hkey.of_disabled header.kid
  | false =>
    rw [if_neg Bool.false_ne_true]
    cases header.kid with
    | some kid => exact findKey_ensures (some kid)
    | none => exact ensures_throw _

theorem judgeRefreshed_eq_ok {segments : CompactToken} {header : Header}
    {refreshed : Except CacheError VerificationKey}
    (h : judgeRefreshed segments header refreshed = .ok ()) :
    ∃ key, refreshed = .ok key ∧ verifiesUnder segments header key = true := by
  unfold judgeRefreshed at h
  split at h
  · next key =>
    split at h
    · next hverifies => exact ⟨key, rfl, hverifies⟩
    · cases h
  · cases h
  · cases h

/-- Whichever key has verified the signature, it is one that was known. -/
theorem verifySignature_ensures {segments : CompactToken} {header : Header}
    {key : VerificationKey} (hkey : Known W keyIdDisabled header.kid key) :
    (verifySignature keyIdDisabled segments header key).Ensures (Question.Fair W T keyIdDisabled)
      fun _ => ∃ key, Known W keyIdDisabled header.kid key ∧
        verifiesUnder segments header key = true := by
  unfold verifySignature
  by_cases hverifies : verifiesUnder segments header key = true
  · rw [if_pos hverifies]
    exact ensures_pure ⟨key, hkey, hverifies⟩
  rw [if_neg hverifies]
  cases keyIdDisabled with
  | false => exact ensures_throw _
  | true =>
    refine ensures_ask fun refreshed hrefreshed => ensures_check fun _ hjudged => ?_
    obtain ⟨later, rfl, hlater⟩ := judgeRefreshed_eq_ok hjudged
    obtain ⟨snapshot, hsnapshot, hresolve⟩ := hrefreshed later rfl
    have hoffers := (Snapshot.offers_of_resolve hresolve).of_disabled header.kid
    exact ⟨later, ⟨snapshot, hsnapshot, hoffers⟩, hlater⟩

/-- The checks of all stages together. -/
theorem stages_ensures (policy : Policy) (text : String) :
    (stages policy keyIdDisabled text).Ensures (Question.Fair W T keyIdDisabled) fun token =>
      ∃ snapshot now segments key algorithm, W snapshot ∧ T now ∧
        Accepted policy keyIdDisabled text snapshot now segments key algorithm token := by
  unfold stages
  refine (ensures_checkEnvelope fun segments hparse => hparse).bind fun segments hparse => ?_
  refine (ensures_checkEnvelope fun header hheader => hheader).bind fun header hheader => ?_
  refine (ensures_check fun _ htype => htype).bind fun _ htype => ?_
  refine (resolveKey_ensures header).bind fun first hfirst => ?_
  refine (verifySignature_ensures hfirst).bind fun _ hverified => ?_
  refine (ensures_checkEnvelope fun claims hclaims => hclaims).bind fun claims hclaims => ?_
  refine ensures_ask fun now hnow => ?_
  refine (ensures_check fun standard hstandard => hstandard).bind fun standard hstandard => ?_
  refine ensures_pure ?_
  obtain ⟨key, ⟨snapshot, hsnapshot, hoffers⟩, hverifies⟩ := hverified
  obtain ⟨algorithm, haccepted⟩ :=
    accepted_of_checks hparse hheader htype hoffers hverifies hclaims hstandard
  exact ⟨snapshot, now, segments, key, algorithm, hsnapshot, hnow, haccepted⟩

end Validation

namespace System

/-- Acceptance is sound in every run: a call of `validate` that has returned a token was right
to do so at the time of one of its own steps, by a key of a snapshot that was current before
it returned. -/
theorem acceptance_sound {settings : CacheSettings} {fetched : Except CacheError KeySet}
    {cache : Cache} (hstart : Cache.start settings fetched = .ok cache)
    {before : List (Event (Except Rejection ValidatedToken))}
    {s : System (Except Rejection ValidatedToken)} (hbefore : (opening cache).run before = some s)
    {policy : Policy} {text : String} {events : List (Event (Except Rejection ValidatedToken))}
    {t : System (Except Rejection ValidatedToken)}
    (hrun : s.run (.call (validate policy settings.keyIdDisabled text) :: events) = some t)
    {caller : Caller (Except Rejection ValidatedToken)}
    (hcaller : t.callers[s.callers.length]? = some caller) {token : ValidatedToken}
    (haccepted : caller.result? = some (.ok token)) :
    ∃ m now segments key algorithm,
      s.Visits (.call (validate policy settings.keyIdDisabled text) :: events) m ∧
        m.UnderWay s.callers.length ∧ .proceed s.callers.length now ∈ events ∧
          Accepted policy settings.keyIdDisabled text m.cache.snapshot now segments key algorithm
            token := by
  obtain rfl : s.cache.settings = settings := settings_of_opening hstart hbefore
  have hgood := good_of_call (coherent_of_opening hstart hbefore) hrun
    (Validation.stages_ensures policy text) hcaller haccepted
  obtain ⟨snapshot, now, segments, key, algorithm, ⟨m, hm, hway, rfl⟩, hnow, hsound⟩ :=
    hgood token rfl
  exact ⟨m, now, segments, key, algorithm, hm, hway, hnow, hsound⟩

/-- A token by a key that the cache does not know yet. -/
def sampleToken : String :=
  "eyJhbGciOiJIUzI1NiIsImtpZCI6ImEiLCJ0eXAiOiJKV1QifQ" ++ "." ++
    "eyJhdWQiOiJ4IiwiZXhwIjo0MTAyNDQ0ODAwLCJpc3MiOiJpIiwicm9sZSI6MX0" ++ "." ++
      "Q71h2ZjxtfmfKBk1iPDdIVXR1Zkp5W-gNdy488KlLWo"

/-- Everything that a policy can ask for. -/
def samplePolicy : Policy :=
  ⟨"i", some "x", some "JWT", some [("role", .number (.integer 1 (by decide)))], .ofSeconds 10⟩

/-- The validation misses the key, joins a refresh and is told the key. -/
def learned : List (Event (Except Rejection ValidatedToken)) :=
  [.proceed 0 .epoch, .proceed 0 .epoch, .grant 0,
    .answer 0 (.ok ⟨[⟨some "a", none, .secret [1, 2, 3]⟩]⟩), .finish 0, .proceed 0 .epoch,
    .proceed 0 .epoch]

theorem acceptance_sound_learned :
    let cache := Cache.initial ⟨.ofSeconds 5, .ofSeconds 0, false⟩ ⟨[.blank "b"]⟩
    let call := Event.call (validate samplePolicy false sampleToken)
    ∃ t caller token, (opening cache).run (call :: learned) = some t ∧
      t.callers[0]? = some caller ∧ caller.result? = some (.ok token) ∧
        ∃ m now segments key algorithm, (opening cache).Visits (call :: learned) m ∧
          m.UnderWay 0 ∧ .proceed 0 now ∈ learned ∧
            Accepted samplePolicy false sampleToken m.cache.snapshot now segments key algorithm
              token := by
  intro cache call
  have hstart : Cache.start ⟨.ofSeconds 5, .ofSeconds 0, false⟩ (.ok ⟨[.blank "b"]⟩) = .ok cache :=
    rfl
  have hend : ((opening (.initial ⟨.ofSeconds 5, .ofSeconds 0, false⟩ ⟨[.blank "b"]⟩)).run
      (.call (validate samplePolicy false sampleToken) :: learned)).map
        (fun t => (t.callers[0]?.bind Caller.result?).map Except.isOk) = some (some true) := by
    decide +kernel
  obtain ⟨t, hrun, hresult⟩ := Option.map_eq_some_iff.mp hend
  obtain ⟨result, hresult, hok⟩ := Option.map_eq_some_iff.mp hresult
  obtain ⟨caller, hcaller, hresult⟩ := Option.bind_eq_some_iff.mp hresult
  cases result with
  | error rejection => cases hok
  | ok token =>
    exact ⟨t, caller, token, hrun, hcaller, hresult,
      acceptance_sound hstart (run_nil (opening cache)) hrun hcaller hresult⟩

end System
end BearerAuth
