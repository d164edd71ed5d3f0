import BearerAuth.Http.Network
import BearerAuth.Proofs.Key.Loading
import BearerAuth.Proofs.Results
import Mathlib.Data.List.Basic

/-!
# Tolerant loading

A document with an array of keys is loaded whatever its entries are. Each entry is looked at on its
own and gives one key or none, so that the good ones keep their order and nothing that stands
between them matters.
-/
namespace BearerAuth

open Json

namespace KeySet

open Jwk

/-- The document is an object with these entries under `keys`. -/
def Lists (document : Value) (entries : List Value) : Prop :=
  ∃ members : Members, document = .object members ∧ members.get? "keys" = some (.array entries)

theorem lists_iff {document : Value} {entries : List Value} :
    Lists document entries ↔ document.get? "keys" = some (.array entries) :=
  Value.get?_eq_some_iff.symm

/-- The document with these entries and nothing else. -/
def documentOf (entries : List Value) : Value := .object [("keys", .array entries)]

theorem ofDocument_of_lists {document : Value} {entries : List Value}
    (h : Lists document entries) : ofDocument document = .ok (ofEntries entries) :=
  ofDocument_eq_ok_iff.mpr ⟨entries, lists_iff.mp h, rfl⟩

theorem ofDocument_documentOf (entries : List Value) :
    ofDocument (documentOf entries) = .ok (ofEntries entries) := rfl

theorem ofDocument_eq_error_iff {document : Value} {fault : DocumentFault} :
    ofDocument document = .error fault ↔
      fault = .missingKeys ∧ ∀ entries, ¬ Lists document entries := by
  constructor
  · intro h
    have hnone (entries : List Value) : ¬ Lists document entries := fun hlists =>
      nomatch (ofDocument_of_lists hlists).symm.trans h
    refine ⟨?_, hnone⟩
    unfold ofDocument at h
    split at h
    · cases h
      rfl
    · cases h
  · rintro ⟨rfl, hnone⟩
    cases hresult : ofDocument document with
    | ok set =>
      obtain ⟨entries, hentries, -⟩ := ofDocument_eq_ok_iff.mp hresult
      exact absurd (lists_iff.mpr hentries) (hnone entries)
    | error fault =>
      unfold ofDocument at hresult
      split at hresult
      · exact hresult.symm
      · cases hresult

/-- Why an entry gives no key. -/
inductive Useless (entry : Value) : Prop
  | unreadable (h : ofValue? entry = none)
  | encryption (jwk : Jwk) (hread : ofValue? entry = some jwk) (h : jwk.use = some "enc")
  | unsupported (jwk : Jwk) (hread : ofValue? entry = some jwk) (declared : DeclaredAlgorithm)
      (hdeclared : jwk.algorithm = some declared) (h : declared.signature? = none)
  | mismatched (jwk : Jwk) (hread : ofValue? entry = some jwk) (algorithm : Algorithm)
      (hdeclared : jwk.algorithm = some (.signature algorithm))
      (h : jwk.material.family.allows algorithm = false)
  | undecodable (jwk : Jwk) (hread : ofValue? entry = some jwk)
      (h : KeyMaterial.ofJwk? jwk.material = none)

theorem Useless.not_usable {entry : Value} (h : Useless entry) {key : VerificationKey} :
    usable? entry ≠ some key := by
  intro hkey
  obtain ⟨jwk, hjwk, hloaded⟩ := usable?_eq_some_iff.mp hkey
  obtain ⟨hpurpose, hdeclared, hdecoded, -⟩ := VerificationKey.ofJwk_eq_ok_iff.mp hloaded
  obtain ⟨halgorithm, hallowed⟩ := VerificationKey.declaredAlgorithm_eq_ok_iff.mp hdeclared
  cases h with
  | unreadable h => exact nomatch h.symm.trans hjwk
  | encryption jwk' hread h =>
    cases hread.symm.trans hjwk
    exact hpurpose h
  | unsupported jwk' hread declared hdeclares h =>
    cases hread.symm.trans hjwk
    obtain ⟨algorithm, -, rfl⟩ := Option.map_eq_some_iff.mp (halgorithm.symm.trans hdeclares)
    cases h
  | mismatched jwk' hread algorithm hdeclares h =>
    cases hread.symm.trans hjwk
    obtain ⟨other, hother, hsame⟩ := Option.map_eq_some_iff.mp (halgorithm.symm.trans hdeclares)
    cases hsame
    exact nomatch h.symm.trans (hallowed algorithm hother)
  | undecodable jwk' hread h =>
    cases hread.symm.trans hjwk
    exact nomatch h.symm.trans hdecoded

/-- There is no other reason. -/
theorem usable?_eq_none_iff {entry : Value} : usable? entry = none ↔ Useless entry := by
  refine ⟨fun hnone => ?_, fun h => Option.eq_none_iff_forall_ne_some.mpr fun _ => h.not_usable⟩
  cases hread : ofValue? entry with
  | none => exact .unreadable hread
  | some jwk =>
    by_cases hpurpose : jwk.use = some "enc"
    · exact .encryption jwk hread hpurpose
    cases hmaterial : KeyMaterial.ofJwk? jwk.material with
    | none => exact .undecodable jwk hread hmaterial
    | some material =>
      have hrefused (algorithm : Option Algorithm) :
          VerificationKey.declaredAlgorithm jwk ≠ .ok algorithm := by
        intro hdeclared
        have hloaded : VerificationKey.ofJwk jwk =
            .ok ⟨VerificationKey.nonEmpty? jwk.kid, algorithm, material⟩ :=
          VerificationKey.ofJwk_eq_ok_iff.mpr ⟨hpurpose, hdeclared, hmaterial, rfl⟩
        exact nomatch hnone.symm.trans (usable?_eq_some_iff.mpr ⟨jwk, hread, hloaded⟩)
      simp only [ne_eq, VerificationKey.declaredAlgorithm_eq_ok_iff] at hrefused
      cases hdeclared : jwk.algorithm with
      | none => exact absurd ⟨hdeclared, nofun⟩ (hrefused none)
      | some declared =>
        cases hsigning : declared.signature? with
        | none => exact .unsupported jwk hread declared hdeclared hsigning
        | some algorithm =>
          obtain rfl := DeclaredAlgorithm.signature?_eq_some_iff.mp hsigning
          cases hallows : jwk.material.family.allows algorithm with
          | false => exact .mismatched jwk hread algorithm hdeclared hallows
          | true =>
            refine absurd ⟨hdeclared, fun other hother => ?_⟩ (hrefused (some algorithm))
            exact Option.some.inj hother ▸ hallows

/-- A key that is loaded has the identifier of its entry, unless that is empty. -/
theorem kid_of_usable? {entry : Value} {key : VerificationKey} (h : usable? entry = some key)
    (kid : String) : key.kid = some kid ↔ kid ≠ "" ∧ entry.get? "kid" = some (.string kid) := by
  obtain ⟨jwk, hjwk, hloaded⟩ := usable?_eq_some_iff.mp h
  obtain ⟨members, rfl, -, -, hkid, -, -⟩ := ofValue?_eq_some_iff.mp hjwk
  obtain ⟨-, -, -, hkey⟩ := VerificationKey.ofJwk_eq_ok_iff.mp hloaded
  have hget : Value.get? (.object members) "kid" = Members.get? members "kid" := rfl
  have htext : text? members "kid" = some kid ↔
      Members.get? members "kid" = some (.string kid) := Value.bind_string?_eq_some_iff
  rw [hkey, eq_text?_of_optional? hkid, VerificationKey.nonEmpty?, Option.filter_eq_some_iff, htext,
    hget, decide_eq_true_eq]
  exact and_comm

/-- Under an identifier the earliest usable entry that has it counts. -/
theorem find?_ofEntries_eq_some_iff {entries : List Value} {kid : String}
    {key : VerificationKey} : (ofEntries entries).find? kid = some key ↔
      kid ≠ "" ∧ ∃ before entry after, entries = before ++ entry :: after ∧
        usable? entry = some key ∧ entry.get? "kid" = some (.string kid) ∧
          ∀ earlier ∈ before, earlier.get? "kid" = some (.string kid) →
            usable? earlier = none := by
  have hnamed (entry : Value) : (usable? entry).any (fun key => key.kid = some kid) = true ↔
      ∃ key, usable? entry = some key ∧ kid ≠ "" ∧ entry.get? "kid" = some (.string kid) := by
    rw [Option.any_eq_true]
    refine exists_congr fun key => and_congr_right fun h => ?_
    rw [decide_eq_true_eq, kid_of_usable? h kid]
  rw [find?, ofEntries, List.find?_filterMap, Option.bind_eq_some_iff]
  simp only [List.find?_eq_some_iff_append, Bool.not_eq_true', ← Bool.not_eq_true, hnamed]
  constructor
  · rintro ⟨entry, ⟨⟨_, -, hne, hkid⟩, before, after, rfl, hbefore⟩, hkey⟩
    refine ⟨hne, before, entry, after, rfl, hkey, hkid, fun earlier hmem hearlier => ?_⟩
    exact Option.eq_none_iff_forall_ne_some.mpr fun other hother =>
      hbefore earlier hmem ⟨other, hother, hne, hearlier⟩
  · rintro ⟨hne, before, entry, after, rfl, hkey, hkid, hbefore⟩
    refine ⟨entry, ⟨⟨key, hkey, hne, hkid⟩, before, after, rfl, ?_⟩, hkey⟩
    rintro earlier hmem ⟨other, hother, -, hearlier⟩
    cases (hbefore earlier hmem hearlier).symm.trans hother

theorem sole?_ofEntries_eq_some_iff {entries : List Value} {key : VerificationKey} :
    (ofEntries entries).sole? = some key ↔
      ∃ before entry after, entries = before ++ entry :: after ∧ usable? entry = some key ∧
        ∀ other ∈ before ++ after, usable? other = none := by
  rw [sole?_eq_some_iff, ofEntries, List.filterMap_eq_cons_iff]
  simp only [List.filterMap_eq_nil_iff, List.forall_mem_append]
  refine exists_congr fun before => exists_congr fun entry => exists_congr fun after => ?_
  rw [and_left_comm (a := usable? entry = some key)]

/-- What the keys of a document are, given its entries. -/
structure Collects (entries : List Value) (set : KeySet) : Prop where
  /-- Each entry on its own gives a key or nothing, and the keys stand in the order of the
  entries. -/
  each : set.keys = entries.flatMap fun entry => (usable? entry).toList
  alone : ∀ entry ∈ entries, ofDocument (documentOf [entry]) = .ok ⟨(usable? entry).toList⟩
  append : ∀ before after, entries = before ++ after → ∃ first second,
    ofDocument (documentOf before) = .ok first ∧ ofDocument (documentOf after) = .ok second ∧
      set.keys = first.keys ++ second.keys
  /-- An entry gives nothing for one of five reasons, and then it may as well not be there. -/
  skipped : ∀ before entry after, entries = before ++ entry :: after →
    (usable? entry = none ↔ Useless entry) ∧
      (Useless entry → ofDocument (documentOf (before ++ after)) = .ok set)
  kid : ∀ key ∈ set.keys, key.kid ≠ some ""
  anonymous : ∀ entry ∈ entries, ∀ key, usable? entry = some key →
    (∀ kid, entry.get? "kid" = some (.string kid) → kid = "") →
      key.kid = none ∧ ∀ kid, set.find? kid ≠ some key
  find : ∀ kid key, set.find? kid = some key ↔
    kid ≠ "" ∧ ∃ before entry after, entries = before ++ entry :: after ∧
      usable? entry = some key ∧ entry.get? "kid" = some (.string kid) ∧
        ∀ earlier ∈ before, earlier.get? "kid" = some (.string kid) → usable? earlier = none
  sole : ∀ key, set.sole? = some key ↔
    ∃ before entry after, entries = before ++ entry :: after ∧ usable? entry = some key ∧
      ∀ other ∈ before ++ after, usable? other = none

theorem collects_ofEntries (entries : List Value) : Collects entries (ofEntries entries) where
  each := List.filterMap_eq_flatMap_toList usable? entries
  alone entry _ := by
    rw [ofDocument_documentOf, ofEntries]
    cases hkey : usable? entry <;> simp [hkey]
  append before after heq := by
    subst heq
    exact ⟨_, _, ofDocument_documentOf before, ofDocument_documentOf after,
      List.filterMap_append⟩
  skipped before entry after heq := by
    subst heq
    refine ⟨usable?_eq_none_iff, fun huseless => ?_⟩
    have hnone := usable?_eq_none_iff.mpr huseless
    rw [ofDocument_documentOf]
    simp [ofEntries, hnone]
  kid key hkey hempty := by
    obtain ⟨entry, -, husable⟩ := List.mem_filterMap.mp hkey
    exact ((kid_of_usable? husable "").mp hempty).1 rfl
  anonymous entry _ key husable hkid := by
    have hnone : key.kid = none := Option.eq_none_iff_forall_ne_some.mpr fun kid hkey => by
      obtain ⟨hne, hget⟩ := (kid_of_usable? husable kid).mp hkey
      exact hne (hkid kid hget)
    refine ⟨hnone, fun kid hfind => ?_⟩
    have hnamed : key.kid = some kid := by simpa using List.find?_some hfind
    cases hnone.symm.trans hnamed
  find _ _ := find?_ofEntries_eq_some_iff
  sole _ := sole?_ofEntries_eq_some_iff

/-- How a document is loaded. -/
structure Loads (document : Value) : Prop where
  /-- It is refused only for want of an array under `keys`. -/
  refused : ∀ fault, ofDocument document = .error fault ↔
    fault = .missingKeys ∧ ∀ entries, ¬ Lists document entries
  /-- Other members than `keys` do not matter. -/
  others : ∀ document' entries, Lists document entries → Lists document' entries →
    ofDocument document' = ofDocument document
  collected : ∀ entries, Lists document entries →
    ∃ set, ofDocument document = .ok set ∧ Collects entries set

theorem loads (document : Value) : Loads document where
  refused _ := ofDocument_eq_error_iff
  others document' entries h h' := by rw [ofDocument_of_lists h, ofDocument_of_lists h']
  collected entries h := ⟨ofEntries entries, ofDocument_of_lists h, collects_ofEntries entries⟩

end KeySet

namespace Http

theorem Response.isSuccess_iff {response : Response} :
    response.isSuccess = true ↔ 200 ≤ response.status ∧ response.status < 300 := by
  simp [isSuccess]

/-- The first thing that goes wrong in a fetch. -/
inductive FetchFails (exchange : Exchange) : CacheError → Prop
  | request (error : RequestError) (h : exchange = .error error) :
      FetchFails exchange (.transport error.message)
  | status (response : Response) (h : exchange = .ok response)
      (hstatus : ¬ (200 ≤ response.status ∧ response.status < 300)) :
      FetchFails exchange (.status response.status)
  | body (response : Response) (h : exchange = .ok response)
      (hstatus : 200 ≤ response.status ∧ response.status < 300)
      (hbody : Value.read? response.body = none) :
      FetchFails exchange (.invalidDocument (.unreadable undecodableBody))
  | keys (response : Response) (document : Value) (h : exchange = .ok response)
      (hstatus : 200 ≤ response.status ∧ response.status < 300)
      (hbody : Value.read? response.body = some document)
      (hkeys : ∀ entries, ¬ KeySet.Lists document entries) :
      FetchFails exchange (.invalidDocument .missingKeys)

/-- What comes of a fetch. -/
structure Fetches (exchange : Exchange) : Prop where
  ok : ∀ set, keySetOf exchange = .ok set ↔ ∃ response document entries,
    exchange = .ok response ∧ (200 ≤ response.status ∧ response.status < 300) ∧
      Value.read? response.body = some document ∧ KeySet.Lists document entries ∧
        KeySet.ofDocument document = .ok set
  error : ∀ error, keySetOf exchange = .error error ↔ FetchFails exchange error

theorem keySetOf_eq_ok_iff {exchange : Exchange} {set : KeySet} :
    keySetOf exchange = .ok set ↔ ∃ response document, exchange = .ok response ∧
      (200 ≤ response.status ∧ response.status < 300) ∧
        Value.read? response.body = some document ∧ KeySet.ofDocument document = .ok set := by
  cases exchange with
  | error error => simp [keySetOf]
  | ok response =>
    simp only [keySetOf, ← Response.isSuccess_iff]
    cases hstatus : response.isSuccess with
    | false => simp [hstatus]
    | true =>
      cases hbody : Value.read? response.body <;> simp [hstatus, hbody, mapError_eq_ok_iff]

theorem FetchFails.keySetOf {exchange : Exchange} {error : CacheError}
    (h : FetchFails exchange error) : keySetOf exchange = .error error := by
  cases h with
  | request error h => rw [h, Http.keySetOf]
  | status response h hstatus =>
    rw [← Response.isSuccess_iff, Bool.not_eq_true] at hstatus
    rw [h, Http.keySetOf, hstatus]
    rfl
  | body response h hstatus hbody =>
    rw [h, Http.keySetOf, Response.isSuccess_iff.mpr hstatus, hbody]
    rfl
  | keys response document h hstatus hbody hkeys =>
    have hfault := KeySet.ofDocument_eq_error_iff.mpr ⟨rfl, hkeys⟩
    rw [h, Http.keySetOf, Response.isSuccess_iff.mpr hstatus, hbody]
    simp [hfault, Except.mapError]

/-- Every exchange gives a key set or fails in one of the ways. -/
theorem exists_keySetOf_or_fails (exchange : Exchange) :
    (∃ set, keySetOf exchange = .ok set) ∨ ∃ error, FetchFails exchange error := by
  cases exchange with
  | error error => exact .inr ⟨_, .request error rfl⟩
  | ok response =>
    by_cases hstatus : 200 ≤ response.status ∧ response.status < 300
    · cases hbody : Value.read? response.body with
      | none => exact .inr ⟨_, .body response rfl hstatus hbody⟩
      | some document =>
        cases hset : KeySet.ofDocument document with
        | ok set =>
          exact .inl ⟨set, keySetOf_eq_ok_iff.mpr ⟨response, document, rfl, hstatus, hbody, hset⟩⟩
        | error fault =>
          obtain ⟨-, hkeys⟩ := KeySet.ofDocument_eq_error_iff.mp hset
          exact .inr ⟨_, .keys response document rfl hstatus hbody hkeys⟩
    · exact .inr ⟨_, .status response rfl hstatus⟩

theorem fetches (exchange : Exchange) : Fetches exchange where
  ok set := by
    rw [keySetOf_eq_ok_iff]
    constructor
    · rintro ⟨response, document, hresponse, hstatus, hbody, hset⟩
      obtain ⟨entries, hentries, -⟩ := KeySet.ofDocument_eq_ok_iff.mp hset
      exact ⟨response, document, entries, hresponse, hstatus, hbody,
        KeySet.lists_iff.mpr hentries, hset⟩
    · rintro ⟨response, document, entries, hresponse, hstatus, hbody, -, hset⟩
      exact ⟨response, document, hresponse, hstatus, hbody, hset⟩
  error error := by
    refine ⟨fun h => ?_, FetchFails.keySetOf⟩
    rcases exists_keySetOf_or_fails exchange with ⟨set, hset⟩ | ⟨other, hother⟩
    · exact nomatch hset.symm.trans h
    · cases hother.keySetOf.symm.trans h
      exact hother

/-- Key sets are loaded as far as they go: of any document and of the answer to any request. -/
theorem keys_loaded_tolerantly :
    (∀ document, KeySet.Loads document) ∧ ∀ exchange, Fetches exchange :=
  ⟨KeySet.loads, fetches⟩

/-- A key for encryption, two secrets that go by its name, and one without a name. -/
def copies : List Value :=
  [.object [("k", .string "AQID"), ("kid", .string "a"), ("kty", .string "oct"),
      ("use", .string "enc")],
    .object [("k", .string "AQID"), ("kid", .string "a"), ("kty", .string "oct")],
    .object [("k", .string "BAUG"), ("kid", .string "a"), ("kty", .string "oct")],
    .object [("k", .string "AQID"), ("kid", .string ""), ("kty", .string "oct")]]

theorem keys_loaded_tolerantly_copies :
    ∃ set, KeySet.ofDocument (KeySet.documentOf copies) = .ok set ∧
      set.find? "a" = some ⟨some "a", none, .secret [1, 2, 3]⟩ ∧
        ⟨none, none, .secret [1, 2, 3]⟩ ∈ set.keys ∧
          keySetOf (.ok ⟨404, ""⟩) = .error (.status 404) := by
  obtain ⟨hloads, hfetches⟩ := keys_loaded_tolerantly
  obtain ⟨set, hset, hcollects⟩ := (hloads (KeySet.documentOf copies)).collected copies
    ⟨_, rfl, rfl⟩
  refine ⟨set, hset, ?_, ?_, ((hfetches _).error _).mpr (.status ⟨404, ""⟩ rfl (by decide))⟩
  · refine (hcollects.find "a" _).mpr ⟨by decide, [copies[0]], copies[1], copies.drop 2, rfl,
      by decide +kernel, rfl, fun earlier hmem _ => ?_⟩
    obtain rfl := List.mem_singleton.mp hmem
    decide +kernel
  · rw [hcollects.each]
    decide +kernel

end Http
end BearerAuth
