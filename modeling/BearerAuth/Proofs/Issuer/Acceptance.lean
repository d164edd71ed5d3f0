import BearerAuth.Proofs.Issuer.Signed
import BearerAuth.Proofs.Key.Loading
import BearerAuth.Proofs.Validation.Alone
import BearerAuth.Proofs.Validation.Policy
import Mathlib.Data.List.Nodup

/-!
# Acceptance of issued tokens

The published keys of an issuer are loaded as they are. A verifier that has them decides about a
token of this issuer by the type and the claims alone.
-/
namespace BearerAuth

open Json

/-- A text that is not empty is kept. -/
theorem filter_ne_empty {text : Option String} (h : text ≠ some "") :
    text.filter (· ≠ "") = text := by
  cases text with
  | none => rfl
  | some text =>
    have hne : text ≠ "" := fun hempty => h (congrArg some hempty)
    exact Option.filter_some_pos (by simp [hne])

namespace SigningKey

/-- The key that others verify with. -/
def published (key : SigningKey) : VerificationKey := ⟨key.kid, some .edDsa, .okp key.publicKey⟩

/-- The members of a published key, by their names. -/
theorem exists_members_jwk (key : SigningKey) : ∃ members : Members, key.jwk = .object members ∧
    ∀ name, members.get? name =
      if name = "kid" then key.kid.map Value.string
      else if name = "kty" then some (.string "OKP")
      else if name = "crv" then some (.string "Ed25519")
      else if name = "x" then some (.string (Base64Url.encode key.publicKey))
      else if name = "alg" then some (.string "EdDSA")
      else if name = "use" then some (.string "sig")
      else none := by
  unfold jwk
  -- What the key is makes no difference, and nothing here should compute it.
  generalize Base64Url.encode key.publicKey = x
  cases key.kid with
  | none =>
    refine ⟨_, rfl, fun name => ?_⟩
    simp only [Members.ofPairs, List.foldl_cons, List.foldl_nil, Members.get?_insert, Members.get?]
    grind
  | some kid =>
    refine ⟨_, rfl, fun name => ?_⟩
    simp only [Members.ofPairs, List.foldl_cons, List.foldl_nil, Members.get?_insert, Members.get?]
    grind

theorem ofValue?_jwk (key : SigningKey) : Jwk.ofValue? key.jwk =
    some ⟨some "sig", some (.signature .edDsa), key.kid,
      .okp (Base64Url.encode key.publicKey)⟩ := by
  obtain ⟨members, hjwk, hget⟩ := exists_members_jwk key
  have hkid : Jwk.optional? members "kid" Value.string? = some key.kid := by
    unfold Jwk.optional?
    rw [hget, if_pos rfl]
    cases key.kid <;> rfl
  have hmaterial : Jwk.material? members = some (.okp (Base64Url.encode key.publicKey)) := by
    simp [Jwk.material?, Jwk.text?, Jwk.hasCurve, hget, Jwk.word?, Value.string?, Jwk.curves]
  have hextras : Jwk.hasAcceptableExtras members = true := by
    simp [Jwk.hasAcceptableExtras, Jwk.acceptable, Jwk.optional?, hget]
  have huse : Jwk.optional? members "use" Value.string? = some (some "sig") := by
    simp [Jwk.optional?, hget, Value.string?]
  have halgorithm : Jwk.optional? members "alg" Jwk.algorithm? =
      some (some (.signature .edDsa)) := by
    have hnamed : Jwk.algorithm? (.string "EdDSA") = some (.signature .edDsa) := by decide
    simp [Jwk.optional?, hget, hnamed]
  rw [hjwk, Jwk.ofValue?, Value.object?, Option.bind_some, Jwk.ofMembers?, huse, halgorithm, hkid,
    hmaterial]
  simp [hextras]

theorem usable?_jwk {key : SigningKey} (hkid : key.kid ≠ some "") :
    KeySet.usable? key.jwk = some key.published := by
  have hloaded : VerificationKey.ofJwk ⟨some "sig", some (.signature .edDsa), key.kid,
      .okp (Base64Url.encode key.publicKey)⟩ = .ok key.published := by
    refine VerificationKey.ofJwk_eq_ok_iff.mpr ⟨by simp, rfl, ?_, ?_⟩
    · rw [KeyMaterial.ofJwk?, Base64Url.decode?_encode]
      rfl
    · exact (filter_ne_empty hkid).symm
  rw [KeySet.usable?, ofValue?_jwk, Option.bind_some, hloaded]
  rfl

/-- Published keys are all loaded, in their order. -/
theorem ofDocument_jwks {keys : List SigningKey} (hkids : ∀ key ∈ keys, key.kid ≠ some "") :
    KeySet.ofDocument (jwks keys) = .ok ⟨keys.map published⟩ := by
  have hentries : (keys.map jwk).filterMap KeySet.usable? = keys.map published := by
    rw [List.filterMap_map, ← List.filterMap_eq_map]
    exact List.filterMap_congr fun key hkey => usable?_jwk (hkids key hkey)
  refine KeySet.ofDocument_eq_ok_iff.mpr ⟨keys.map jwk, rfl, ?_⟩
  rw [KeySet.ofEntries, hentries]

/-- Among keys with identifiers of their own, each is found by its identifier. -/
theorem find?_published {keys : List SigningKey} (hdistinct : (keys.map kid).Nodup)
    {key : SigningKey} (hkey : key ∈ keys) {kid : String} (hkid : key.kid = some kid) :
    (⟨keys.map published⟩ : KeySet).find? kid = some key.published := by
  rw [KeySet.find?, List.find?_map]
  cases hfound : keys.find? _ with
  | none =>
    have hnone := List.find?_eq_none.mp hfound key hkey
    simp [published, hkid] at hnone
  | some other =>
    have hmatches := List.find?_some hfound
    have hother : other.kid = some kid := of_decide_eq_true hmatches
    have hsame : other = key := List.inj_on_of_nodup_map hdistinct
      (List.mem_of_find?_eq_some hfound) hkey (hother.trans hkid.symm)
    rw [hsame]
    rfl

theorem verify_published (key : SigningKey) (input signature : Bytes) (named : String) :
    key.published.verify input (Base64Url.encode signature) named =
      Crypto.Ed25519.verify key.publicKey input signature := by
  show (Base64Url.decode? (Base64Url.encode signature)).any _ = _
  rw [Base64Url.decode?_encode, Option.any_some]

theorem verifiesUnder_signed {key : SigningKey} {typ kid : Option String} {claims : Members}
    (hsigned : Crypto.Ed25519.verify key.publicKey (Bytes.ofText (signingInput typ kid claims))
      (Crypto.Ed25519.sign key.secret (Bytes.ofText (signingInput typ kid claims))) = true)
    (header : Header) :
    Validation.verifiesUnder (key.signed typ kid claims) header key.published = true := by
  rw [Validation.verifiesUnder, signingInput_signed]
  exact (key.verify_published _ _ _).trans hsigned

end SigningKey

/-- What becomes of a token with a good signature. -/
def Policy.verdict (policy : Policy) (header : Header) (claims : Members) (now : Instant) :
    Except Rejection ValidatedToken := do
  policy.checkType header
  let standard ← policy.checkClaims claims now
  return ⟨header, claims, standard⟩

theorem Policy.verdict_eq_ok_iff {policy : Policy} {header : Header} {claims : Members}
    {now : Instant} {token : ValidatedToken} :
    policy.verdict header claims now = .ok token ↔
      (∀ required, policy.requiredTokenType = some required → header.typ = some required) ∧
        ∃ standard, policy.checkClaims claims now = .ok standard ∧
          token = ⟨header, claims, standard⟩ := by
  rw [verdict, bind_eq_ok_iff]
  constructor
  · rintro ⟨_, htype, h⟩
    obtain ⟨standard, hstandard, heq⟩ := bind_eq_ok_iff.mp h
    cases heq
    exact ⟨checkType_eq_ok_iff.mp htype, standard, hstandard, rfl⟩
  · rintro ⟨htype, standard, hstandard, rfl⟩
    exact ⟨(), checkType_eq_ok_iff.mpr htype, bind_eq_ok_iff.mpr ⟨standard, hstandard, rfl⟩⟩

namespace Fed

variable {σ : Type} {source : Source σ} {policy : Policy} {cancelled : Bool} {now : Instant}
  {fed : Fed σ} {text : String} {token : CompactToken} {header : Header} {kid : String}
  {key : VerificationKey} {claims : Members}

theorem judge_resolveKey_of_find? (hmode : fed.cache.settings.keyIdDisabled = false)
    (hkid : header.kid = some kid) (hfound : fed.cache.snapshot.keys.find? kid = some key) :
    judge source cancelled now (Validation.resolveKey false header) fed = (.ok key, fed) := by
  have hlookup : fed.cache.lookup (some kid) = some key := by
    rw [Cache.lookup, Snapshot.resolve, hmode]
    exact hfound
  have hrespond : respond source cancelled now (.lookup (some kid)) fed = (some key, fed) :=
    Prod.ext hlookup rfl
  unfold Validation.resolveKey
  rw [hkid]
  refine (judge_ask (.lookup (some kid)) _ fed).trans ?_
  rw [hrespond]
  rfl

theorem judge_verifySignature_of_verifies
    (h : Validation.verifiesUnder token header key = true) (keyIdDisabled : Bool) :
    judge source cancelled now (Validation.verifySignature keyIdDisabled token header key) fed =
      (.ok (), fed) := by
  unfold Validation.verifySignature
  rw [if_pos h]
  rfl

/-- Once the key is at hand and the signature is good, only the type and the claims decide, and
nothing is fetched. -/
theorem validate_of_verifies (hmode : fed.cache.settings.keyIdDisabled = false)
    (hparse : CompactToken.parse text = .ok token) (hheader : token.unverifiedHeader = .ok header)
    (hkid : header.kid = some kid) (hfound : fed.cache.snapshot.keys.find? kid = some key)
    (hverifies : Validation.verifiesUnder token header key = true)
    (hclaims : token.claims = .ok claims) :
    fed.validate source policy cancelled now text = (policy.verdict header claims now, fed) := by
  unfold Policy.verdict
  show judge source cancelled now (Validation.stages policy fed.cache.settings.keyIdDisabled text)
    fed = _
  unfold Validation.stages Validation.checkEnvelope
  rw [hmode, judge_bind, judge_check, hparse]
  show judge source cancelled now (Validation.check (token.unverifiedHeader.mapError _) >>= _) _ = _
  rw [judge_bind, judge_check, hheader]
  show judge source cancelled now (Validation.check (policy.checkType header) >>= _) _ = _
  rw [judge_bind, judge_check]
  cases policy.checkType header with
  | error rejection => rfl
  | ok _ =>
    dsimp only
    rw [judge_bind, judge_resolveKey_of_find? hmode hkid hfound]
    dsimp only
    rw [judge_bind, judge_verifySignature_of_verifies hverifies]
    show judge source cancelled now (Validation.check (token.claims.mapError _) >>= _) _ = _
    rw [judge_bind, judge_check, hclaims]
    show judge source cancelled now (Validation.check (policy.checkClaims claims now) >>= _) _ = _
    rw [judge_bind, judge_check]
    cases policy.checkClaims claims now <;> rfl

end Fed

/-- Keys with identifiers of their own are published and loaded as they are, and a verifier that
has them accepts a token of any of them exactly if the type and the claims are accepted. It does so
without a fetch and returns the claims that were signed. -/
theorem SigningKey.issued_accepted_iff {keys : List SigningKey}
    (hnamed : ∀ key ∈ keys, ∃ kid, key.kid = some kid ∧ kid ≠ "")
    (hdistinct : (keys.map SigningKey.kid).Nodup) {key : SigningKey} (hkey : key ∈ keys)
    {builder : TokenBuilder} (hown : builder.kid = .fromKey)
    (hplain : (Value.object builder.claims).Plain)
    (hdepth : (Value.object builder.claims).depth ≤ maxDepth)
    (hsize : (builder.sign key).utf8ByteSize ≤ maxTokenBytes)
    (hsigned : let input := Bytes.ofText (signingInput builder.typ key.kid builder.claims)
      Crypto.Ed25519.verify key.publicKey input (Crypto.Ed25519.sign key.secret input) = true) :
    KeySet.ofDocument (jwks keys) = .ok ⟨keys.map published⟩ ∧
      ∀ {σ : Type} (source : Source σ) (policy : Policy) (cancelled : Bool) (now : Instant)
        (fed : Fed σ), fed.cache.settings.keyIdDisabled = false →
          fed.cache.snapshot.keys = ⟨keys.map published⟩ →
        let answer := fed.validate source policy cancelled now (builder.sign key)
        ((∃ token, answer.1 = .ok token) ↔
          (∀ required, policy.requiredTokenType = some required → builder.typ = some required) ∧
            ∃ standard, policy.checkClaims builder.claims now = .ok standard) ∧
          (∀ token, answer.1 = .ok token → token.claims = builder.claims) ∧ answer.2 = fed := by
  obtain ⟨kid, hkid, -⟩ := hnamed key hkey
  have hkidFor : builder.kidFor key = key.kid := by rw [TokenBuilder.kidFor, hown]
  rw [TokenBuilder.sign, hkidFor] at hsize ⊢
  have hkids : ∀ key ∈ keys, key.kid ≠ some "" := by
    intro key hkey hempty
    obtain ⟨kid, hkid, hne⟩ := hnamed key hkey
    exact hne (Option.some.inj (hkid.symm.trans hempty))
  refine ⟨ofDocument_jwks hkids, ?_⟩
  intro σ source policy cancelled now fed hmode hkeys answer
  have hheader : (headerOf builder.typ key.kid).kid = some kid :=
    (filter_ne_empty (hkids key hkey)).trans hkid
  have hanswer : answer = _ := Fed.validate_of_verifies hmode (parse_sign hsize)
    (key.unverifiedHeader_signed _ _ _) hheader
    (hkeys ▸ find?_published hdistinct hkey hkid) (verifiesUnder_signed hsigned _)
    (key.claims_signed _ _ hplain hdepth)
  rw [hanswer]
  refine ⟨?_, ?_, rfl⟩
  · constructor
    · rintro ⟨token, htoken⟩
      obtain ⟨htype, standard, hstandard, -⟩ := Policy.verdict_eq_ok_iff.mp htoken
      exact ⟨htype, standard, hstandard⟩
    · rintro ⟨htype, standard, hstandard⟩
      exact ⟨_, Policy.verdict_eq_ok_iff.mpr ⟨htype, standard, hstandard, rfl⟩⟩
  · intro token htoken
    obtain ⟨-, standard, -, rfl⟩ := Policy.verdict_eq_ok_iff.mp htoken
    rfl

namespace SigningKey

def twoKeys : List SigningKey := [⟨1, some "a"⟩, ⟨2, some "b"⟩]

/-- A verifier that has the published keys and nowhere to fetch others from. -/
def knownTo (keys : List SigningKey) : Fed Script :=
  ⟨.initial ⟨.ofSeconds 5, .ofSeconds 0, false⟩ ⟨keys.map published⟩, ⟨[], 0, [], 0⟩⟩

/-- The second of two keys signs a token that is accepted, but not where another type is
required. -/
theorem issued_accepted_iff_second_key :
    let builder := TokenBuilder.issuedAt 0
    let policy : Policy := ⟨TokenBuilder.defaultIssuer, some TokenBuilder.defaultAudience,
      some "JWT", none, .ofSeconds 0⟩
    let answer (policy : Policy) := ((knownTo twoKeys).validate Script.source policy false .epoch
      (builder.sign ⟨2, some "b"⟩)).1
    (∃ token, answer policy = .ok token ∧ token.claims = builder.claims) ∧
      ¬ ∃ token, answer { policy with requiredTokenType := some "at+jwt" } = .ok token := by
  intro builder policy answer
  have hnamed : ∀ key ∈ twoKeys, ∃ kid, key.kid = some kid ∧ kid ≠ "" := by simp [twoKeys]
  have hmember : ⟨2, some "b"⟩ ∈ twoKeys := by decide
  have hown : builder.kid = .fromKey := rfl
  obtain ⟨-, hdecided⟩ := issued_accepted_iff hnamed (by decide) hmember hown
    (TokenBuilder.plain_issuedAt 0) (by decide +kernel) (by decide +kernel) (by decide +kernel)
  constructor
  · obtain ⟨haccepted, hclaims, -⟩ :=
      hdecided Script.source policy false .epoch (knownTo twoKeys) rfl rfl
    have hpassed : failure? (policy.checkClaims builder.claims .epoch) = none := by
      decide +kernel
    obtain ⟨standard, hstandard⟩ := failure?_eq_none_iff.mp hpassed
    obtain ⟨token, htoken⟩ := haccepted.mpr ⟨fun _ h => h, standard, hstandard⟩
    exact ⟨token, htoken, hclaims token htoken⟩
  · obtain ⟨haccepted, -, -⟩ := hdecided Script.source
      { policy with requiredTokenType := some "at+jwt" } false .epoch (knownTo twoKeys) rfl rfl
    rw [haccepted]
    rintro ⟨htype, -⟩
    exact absurd (htype "at+jwt" rfl) (by decide)

end SigningKey
end BearerAuth
