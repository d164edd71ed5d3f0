import BearerAuth.Key.KeySet
import BearerAuth.Proofs.Key.Binding

/-!
# What a published key may become

The type and the algorithm under which a key is published decide what it verifies with. A
token may choose within the family of a key that declares no algorithm, and it has no say in
anything else. An entry that is made for encryption, or declares an algorithm that its type does
not have, becomes no key at all.
-/
namespace BearerAuth

open Json

/-- The word for the type of a key in key documents. -/
def KeyFamily.typeName : KeyFamily → String
  | hmac => "oct"
  | rsa => "RSA"
  | ec => "EC"
  | okp => "OKP"

/-- The names of the algorithms that a key of a type may be used with. -/
def algorithmNames : (typeName : String) → List String
  | "oct" => ["HS256", "HS384", "HS512"]
  | "RSA" => ["RS256", "RS384", "RS512", "PS256", "PS384", "PS512"]
  | "EC" => ["ES256", "ES384"]
  | "OKP" => ["EdDSA"]
  | _ => []

theorem KeyFamily.allows_iff_mem {family : KeyFamily} {algorithm : Algorithm} :
    family.allows algorithm = true ↔ algorithm.name ∈ algorithmNames family.typeName := by
  cases family <;> cases algorithm <;> decide

namespace DeclaredAlgorithm

theorem signature?_eq_some_iff {declared : DeclaredAlgorithm} {algorithm : Algorithm} :
    declared.signature? = some algorithm ↔ declared = signature algorithm := by
  cases declared <;> simp [signature?]

/-- No signature is made by an algorithm that only encrypts. -/
theorem name_ne_of_encrypts {declared : DeclaredAlgorithm} (h : declared.signature? = none)
    (algorithm : Algorithm) : algorithm.name ≠ declared.name := by
  cases declared with
  | signature signing => cases h
  | _ => cases algorithm <;> decide

end DeclaredAlgorithm

namespace Jwk

/-- The fixed word under a name of an entry. -/
def wordUnder? (entry : Value) (name : String) : Option String := (entry.get? name).bind word?

theorem ofValue?_eq_some_iff {entry : Value} {jwk : Jwk} : ofValue? entry = some jwk ↔
    ∃ members, entry = .object members ∧ optional? members "use" Value.string? = some jwk.use ∧
      optional? members "alg" algorithm? = some jwk.algorithm ∧
        optional? members "kid" Value.string? = some jwk.kid ∧
          material? members = some jwk.material ∧ hasAcceptableExtras members = true := by
  rw [ofValue?, Option.bind_eq_some_iff]
  simp only [Value.object?_eq_some_iff]
  refine exists_congr fun members => and_congr_right fun _ => ?_
  unfold ofMembers?
  constructor
  · intro h
    split at h
    · next huse halgorithm hkid hmaterial =>
      split at h
      · next hextras =>
        cases h
        exact ⟨huse, halgorithm, hkid, hmaterial, hextras⟩
      · cases h
    · cases h
  · rintro ⟨huse, halgorithm, hkid, hmaterial, hextras⟩
    rw [huse, halgorithm, hkid, hmaterial]
    exact if_pos hextras

/-- The type of an entry is the one that its material is read for. -/
theorem word?_of_material? {members : Members} {material : JwkMaterial}
    (h : material? members = some material) :
    (members.get? "kty").bind word? = some material.family.typeName := by
  unfold material? at h
  split at h
  · next hword =>
    split at h
    · split at h
      · cases h
        exact hword
      · cases h
    · cases h
  · next hword =>
    split at h
    · cases h
      exact hword
    · cases h
  · next hword =>
    obtain ⟨k, -, rfl⟩ := Option.map_eq_some_iff.mp h
    exact hword
  · next hword =>
    split at h
    · split at h
      · cases h
        exact hword
      · cases h
    · cases h
  · cases h

theorem word?_of_algorithm? {value : Value} {declared : DeclaredAlgorithm}
    (h : algorithm? value = some declared) : word? value = some declared.name := by
  obtain ⟨name, hname, hfind⟩ := Option.bind_eq_some_iff.mp h
  have heq : declared.name = name := by simpa using List.find?_some hfind
  rw [hname, heq]

/-- A readable entry declares what stands under its name for an algorithm, or nothing. -/
theorem word?_of_optional? {members : Members} {declared : Option DeclaredAlgorithm}
    (h : optional? members "alg" algorithm? = some declared) :
    (members.get? "alg").bind word? = declared.map DeclaredAlgorithm.name := by
  unfold optional? at h
  split at h
  · next hget =>
    cases h
    rw [hget]
    rfl
  · next hget =>
    cases h
    rw [hget]
    rfl
  · next value _ hget =>
    obtain ⟨algorithm, halgorithm, rfl⟩ := Option.map_eq_some_iff.mp h
    rw [hget]
    exact word?_of_algorithm? halgorithm

/-- Absent, null or a text: a member that is read as an optional text is no more than its text. -/
theorem eq_text?_of_optional? {members : Members} {name : String} {text : Option String}
    (h : optional? members name Value.string? = some text) : text = text? members name := by
  unfold optional? at h
  unfold text?
  split at h
  · next hget =>
    cases h
    rw [hget]
    rfl
  · next hget =>
    cases h
    rw [hget]
    rfl
  · next value _ hget =>
    obtain ⟨found, hfound, rfl⟩ := Option.map_eq_some_iff.mp h
    rw [hget]
    exact hfound.symm

end Jwk

namespace VerificationKey

theorem declaredAlgorithm_eq_ok_iff {jwk : Jwk} {algorithm : Option Algorithm} :
    declaredAlgorithm jwk = .ok algorithm ↔
      jwk.algorithm = algorithm.map DeclaredAlgorithm.signature ∧
        ∀ declared, algorithm = some declared → jwk.material.family.allows declared = true := by
  unfold declaredAlgorithm
  split
  · next hnone =>
    rw [hnone]
    cases algorithm <;> simp
  · next declared hsome =>
    rw [hsome]
    split
    · next hencrypts =>
      refine iff_of_false nofun fun ⟨hdeclared, _⟩ => ?_
      obtain ⟨signing, -, rfl⟩ := Option.map_eq_some_iff.mp hdeclared.symm
      cases hencrypts
    · next signing hsigning =>
      obtain rfl := DeclaredAlgorithm.signature?_eq_some_iff.mp hsigning
      by_cases hallows : jwk.material.family.allows signing = true
      · rw [if_pos hallows]
        cases algorithm with
        | none => simp
        | some other =>
          constructor
          · intro h
            cases h
            exact ⟨rfl, fun declared hdeclared => Option.some.inj hdeclared ▸ hallows⟩
          · rintro ⟨h, -⟩
            cases h
            rfl
      · rw [if_neg hallows]
        refine iff_of_false nofun fun ⟨hdeclared, hall⟩ => ?_
        obtain ⟨other, rfl, hsame⟩ := Option.map_eq_some_iff.mp hdeclared.symm
        cases hsame
        exact hallows (hall signing rfl)

/-- A key is loaded after three checks: what it is for, what it declares, and its material. -/
theorem ofJwk_eq_ok_iff {jwk : Jwk} {key : VerificationKey} :
    ofJwk jwk = .ok key ↔ jwk.use ≠ some "enc" ∧ declaredAlgorithm jwk = .ok key.algorithm ∧
      KeyMaterial.ofJwk? jwk.material = some key.material ∧ key.kid = nonEmpty? jwk.kid := by
  unfold ofJwk
  split
  · next huse => exact iff_of_false nofun fun h => h.1 huse
  · next huse =>
    split
    · next fault hfault => simp [hfault]
    · next algorithm halgorithm =>
      split
      · next hmaterial => simp [hmaterial]
      · next material hmaterial =>
        rw [halgorithm, hmaterial]
        constructor
        · intro h
          cases h
          exact ⟨huse, rfl, rfl, rfl⟩
        · rintro ⟨-, h, h', hkid⟩
          cases h
          cases h'
          rw [← hkid]

end VerificationKey
namespace KeySet

open Jwk

/-- What an entry says about the key that is made of it. -/
structure Publishes (entry : Value) (key : VerificationKey) : Prop where
  type : wordUnder? entry "kty" = some key.family.typeName
  algorithm : wordUnder? entry "alg" = key.algorithm.map Algorithm.name
  allowed : ∀ algorithm, key.algorithm = some algorithm → key.family.allows algorithm = true
  purpose : entry.get? "use" ≠ some (.string "enc")

theorem usable?_eq_some_iff {entry : Value} {key : VerificationKey} : usable? entry = some key ↔
    ∃ jwk, ofValue? entry = some jwk ∧ VerificationKey.ofJwk jwk = .ok key := by
  rw [usable?, Option.bind_eq_some_iff]
  refine exists_congr fun jwk => and_congr_right fun _ => ?_
  cases VerificationKey.ofJwk jwk <;> simp [Except.toOption]

theorem publishes_of_usable? {entry : Value} {key : VerificationKey}
    (h : usable? entry = some key) : Publishes entry key := by
  obtain ⟨jwk, hjwk, hloaded⟩ := usable?_eq_some_iff.mp h
  obtain ⟨members, rfl, huse, halgorithm, -, hmaterial, -⟩ := ofValue?_eq_some_iff.mp hjwk
  obtain ⟨hpurpose, hdeclared, hdecoded, -⟩ := VerificationKey.ofJwk_eq_ok_iff.mp hloaded
  obtain ⟨hdeclared, hallowed⟩ := VerificationKey.declaredAlgorithm_eq_ok_iff.mp hdeclared
  have hfamily : key.family = jwk.material.family := KeyMaterial.family_of_ofJwk? hdecoded
  have hword (name : String) :
      wordUnder? (.object members) name = (Members.get? members name).bind word? := rfl
  refine { type := ?_, algorithm := ?_, allowed := ?_, purpose := ?_ }
  · rw [hword, word?_of_material? hmaterial, hfamily]
  · rw [hword, word?_of_optional? halgorithm, hdeclared, Option.map_map]
    rfl
  · rw [hfamily]
    exact hallowed
  · intro hget
    have htext : text? members "use" = some "enc" := congrArg (·.bind Value.string?) hget
    exact hpurpose ((eq_text?_of_optional? huse).trans htext)

/-- The key of an entry is bound to the entry's type and to the algorithm it declares. -/
structure BoundTo (entry : Value) (typeName : String) (key : VerificationKey) : Prop where
  /-- Whatever a token names, a good signature is one by an algorithm of the type. -/
  family : ∀ input signature named, key.verify input signature named = true →
    ∃ algorithm, key.algorithmFor named = some algorithm ∧
      key.material.checkSignature algorithm input signature = true ∧
        algorithm.name ∈ algorithmNames typeName
  /-- Shared secrets are published as such, and nothing else is. -/
  secret : (∃ bytes, key.material = .secret bytes) ↔ typeName = "oct"
  /-- A declared algorithm is the one used, and a token has no influence. -/
  declared : ∀ name, wordUnder? entry "alg" = some name →
    (∃ algorithm, algorithm.name = name ∧ ∀ named, key.algorithmFor named = some algorithm) ∧
      ∀ input signature named named',
        key.verify input signature named = key.verify input signature named'
  /-- Otherwise the token has to name an algorithm of the type to the letter. -/
  undeclared : wordUnder? entry "alg" = none → ∀ input signature named,
    key.verify input signature named = true → named ∈ algorithmNames typeName

theorem Publishes.allowed_of_binds {entry : Value} {key : VerificationKey}
    (h : Publishes entry key) {named : String} {algorithm : Algorithm}
    (hbinds : key.Binds named algorithm) :
    algorithm.name ∈ algorithmNames key.family.typeName := by
  rw [← KeyFamily.allows_iff_mem]
  rcases hbinds with hdeclared | ⟨-, -, hallows⟩
  · exact h.allowed algorithm hdeclared
  · exact hallows

theorem Publishes.boundTo {entry : Value} {key : VerificationKey} (h : Publishes entry key) :
    BoundTo entry key.family.typeName key where
  family input signature named hverify := by
    obtain ⟨algorithm, hbinds, hsigned⟩ := VerificationKey.verify_eq_true_iff.mp hverify
    exact ⟨algorithm, VerificationKey.algorithmFor_eq_some_iff.mpr hbinds, hsigned,
      h.allowed_of_binds hbinds⟩
  secret := by
    unfold VerificationKey.family
    cases key.material <;> simp [KeyMaterial.family, KeyFamily.typeName]
  declared name hname := by
    rw [h.algorithm] at hname
    obtain ⟨algorithm, hdeclared, rfl⟩ := Option.map_eq_some_iff.mp hname
    have hused (named : String) : key.algorithmFor named = some algorithm :=
      VerificationKey.algorithmFor_eq_some_iff.mpr (.inl hdeclared)
    refine ⟨⟨algorithm, rfl, hused⟩, fun input signature named named' => ?_⟩
    rw [VerificationKey.verify, VerificationKey.verify, hused named, hused named']
  undeclared hnone input signature named hverify := by
    rw [h.algorithm] at hnone
    obtain ⟨algorithm, hbinds, -⟩ := VerificationKey.verify_eq_true_iff.mp hverify
    have hallowed := h.allowed_of_binds hbinds
    rcases hbinds with hdeclared | ⟨-, rfl, -⟩
    · rw [hdeclared] at hnone
      cases hnone
    · exact hallowed

/-- An entry for encryption, by its purpose or by its algorithm, or with an algorithm that keys
of its type do not have. -/
inductive Refused (entry : Value) : Prop
  | purpose (h : entry.get? "use" = some (.string "enc"))
  | encrypts (declared : DeclaredAlgorithm) (hencrypts : declared.signature? = none)
      (h : wordUnder? entry "alg" = some declared.name)
  | mismatched (typeName name : String) (htype : wordUnder? entry "kty" = some typeName)
      (hname : wordUnder? entry "alg" = some name) (h : name ∉ algorithmNames typeName)

theorem Publishes.not_refused {entry : Value} {key : VerificationKey} (h : Publishes entry key) :
    ¬ Refused entry := by
  rintro (hpurpose | ⟨declared, hencrypts, hname⟩ | ⟨typeName, name, htype, hname, hforeign⟩)
  · exact h.purpose hpurpose
  · rw [h.algorithm] at hname
    obtain ⟨algorithm, -, hsame⟩ := Option.map_eq_some_iff.mp hname
    exact DeclaredAlgorithm.name_ne_of_encrypts hencrypts algorithm hsame
  · rw [h.type] at htype
    cases htype
    rw [h.algorithm] at hname
    obtain ⟨algorithm, hdeclared, rfl⟩ := Option.map_eq_some_iff.mp hname
    exact hforeign (KeyFamily.allows_iff_mem.mp (h.allowed algorithm hdeclared))

theorem usable?_of_refused {entry : Value} (h : Refused entry) : usable? entry = none := by
  cases hkey : usable? entry with
  | none => rfl
  | some key => exact absurd h (publishes_of_usable? hkey).not_refused

theorem ofDocument_eq_ok_iff {document : Value} {set : KeySet} :
    ofDocument document = .ok set ↔
      ∃ entries, document.get? "keys" = some (.array entries) ∧ set = ofEntries entries := by
  unfold ofDocument
  constructor
  · intro h
    split at h
    · cases h
    · next entries hentries =>
      obtain ⟨value, hget, hvalue⟩ := Option.bind_eq_some_iff.mp hentries
      obtain rfl := Value.array?_eq_some_iff.mp hvalue
      cases h
      exact ⟨entries, hget, rfl⟩
  · rintro ⟨entries, hget, rfl⟩
    rw [hget]
    rfl

/-- No algorithm confusion: whatever tokens say, the keys of a document verify as the entries
they come from bind them, and a refused entry changes nothing. -/
theorem algorithm_binding (document : Value) :
    (∀ set key, ofDocument document = .ok set → key ∈ set.keys →
      ∃ entries entry typeName, document.get? "keys" = some (.array entries) ∧ entry ∈ entries ∧
        usable? entry = some key ∧ wordUnder? entry "kty" = some typeName ∧
          BoundTo entry typeName key) ∧
      ∀ before entry after, Refused entry →
        document.get? "keys" = some (.array (before ++ entry :: after)) →
          usable? entry = none ∧ ofDocument document = .ok (ofEntries (before ++ after)) := by
  constructor
  · intro set key hset hkey
    obtain ⟨entries, hentries, rfl⟩ := ofDocument_eq_ok_iff.mp hset
    obtain ⟨entry, hentry, husable⟩ := List.mem_filterMap.mp hkey
    have hpublishes := publishes_of_usable? husable
    exact ⟨entries, entry, key.family.typeName, hentries, hentry, husable, hpublishes.type,
      hpublishes.boundTo⟩
  · intro before entry after hrefused hentries
    have hnone := usable?_of_refused hrefused
    refine ⟨hnone, ofDocument_eq_ok_iff.mpr ⟨_, hentries, ?_⟩⟩
    simp [ofEntries, hnone]

def forEncryption : Value :=
  .object [("k", .string "AQID"), ("kty", .string "oct"), ("use", .string "enc")]

/-- A secret without an algorithm, and a key whose algorithm is not of its type. -/
def mixedEntries : List Value :=
  [.object [("k", .string "AQID"), ("kty", .string "oct")],
    .object [("alg", .string "HS256"), ("e", .string "AQAB"), ("kty", .string "RSA"),
      ("n", .string "AQID")]]

theorem algorithm_binding_mixedEntries :
    let document : Value := .object [("keys", .array (forEncryption :: mixedEntries))]
    let key : VerificationKey := ⟨none, none, .secret [1, 2, 3]⟩
    let signature := "_nRZmHK41VfNrkVeAuqpY1SvLaOIhHNe7GgqwwH4wSk"
    ofDocument document = .ok ⟨[key]⟩ ∧
      (∃ entry typeName, usable? entry = some key ∧ wordUnder? entry "kty" = some typeName ∧
        BoundTo entry typeName key) ∧
        key.verify (Bytes.ofText "a.b") signature "HS256" = true ∧
          key.verify (Bytes.ofText "a.b") signature "hs256" = false ∧
            Refused forEncryption ∧ ofDocument document = .ok (ofEntries mixedEntries) := by
  intro document key signature
  have hdocument : ofDocument document = .ok ⟨[key]⟩ := by
    rw [ofDocument_eq_ok_iff]
    refine ⟨forEncryption :: mixedEntries, rfl, ?_⟩
    decide +kernel
  have hverify : key.verify (Bytes.ofText "a.b") signature "HS256" = true := by decide +kernel
  have hother : key.verify (Bytes.ofText "a.b") signature "hs256" = false := by decide +kernel
  have hrefused : Refused forEncryption := .purpose rfl
  obtain ⟨hbound, hskipped⟩ := algorithm_binding document
  obtain ⟨_, entry, typeName, -, -, husable, htype, hkey⟩ :=
    hbound _ key hdocument List.mem_cons_self
  exact ⟨hdocument, ⟨entry, typeName, husable, htype, hkey⟩, hverify, hother, hrefused,
    (hskipped [] forEncryption mixedEntries hrefused rfl).2⟩

end KeySet
end BearerAuth
