import BearerAuth.Proofs.Key.Tolerance
import BearerAuth.Verifier.Startup

/-!
# What the replies to a start say

A reply is judged by its status and then by the document in its body. Either it gives what was
asked for, the metadata or the key set, or there is a first thing that is wrong with it, and this is
the error.
-/
namespace BearerAuth

open Json

namespace Http

/-- A response of success with a metadata document that says where the keys are. -/
def Discovers (exchange : Exchange) (metadata : ProviderMetadata) : Prop :=
  ∃ response, exchange = .ok response ∧ (200 ≤ response.status ∧ response.status < 300) ∧
    ProviderMetadata.read? response.body = some metadata ∧ metadata.jwksUri ≠ ""

/-- The first thing that goes wrong in a discovery. -/
inductive DiscoveryFails (exchange : Exchange) : DiscoveryError → Prop
  | request (error : RequestError) (h : exchange = .error error) :
      DiscoveryFails exchange (.transport error.message)
  | status (response : Response) (h : exchange = .ok response)
      (hstatus : ¬ (200 ≤ response.status ∧ response.status < 300)) :
      DiscoveryFails exchange (.status response.status)
  | body (response : Response) (h : exchange = .ok response)
      (hstatus : 200 ≤ response.status ∧ response.status < 300)
      (hbody : ProviderMetadata.read? response.body = none) :
      DiscoveryFails exchange (.invalidDocument undecodableBody)
  | location (response : Response) (metadata : ProviderMetadata) (h : exchange = .ok response)
      (hstatus : 200 ≤ response.status ∧ response.status < 300)
      (hbody : ProviderMetadata.read? response.body = some metadata)
      (hempty : metadata.jwksUri = "") :
      DiscoveryFails exchange (.invalidDocument "empty jwks_uri")

/-- A response of success with a document that lists keys: those of its usable entries. -/
def Serves (exchange : Exchange) (keys : KeySet) : Prop :=
  ∃ response document entries, exchange = .ok response ∧
    (200 ≤ response.status ∧ response.status < 300) ∧
      Value.read? response.body = some document ∧ KeySet.Lists document entries ∧
        keys = KeySet.ofEntries entries

/-- The first thing that goes wrong in a fetch that has a time limit of its own. -/
inductive FetchFailsWithin (timeout : Span) (exchange : Exchange) : CacheError → Prop
  | overdue (url : String) (h : exchange = .error (.overdue url)) :
      FetchFailsWithin timeout exchange (.timeout timeout)
  | inTime (error : CacheError) (hintime : ∀ url, exchange ≠ .error (.overdue url))
      (h : FetchFails exchange error) : FetchFailsWithin timeout exchange error

variable {exchange : Exchange} {timeout : Span}

theorem Discovers.metadataOf {metadata : ProviderMetadata} (h : Discovers exchange metadata) :
    metadataOf exchange = .ok metadata := by
  obtain ⟨response, rfl, hstatus, hbody, hlocation⟩ := h
  simp [Http.metadataOf, Response.isSuccess_iff.mpr hstatus, hbody, hlocation]

theorem DiscoveryFails.metadataOf {error : DiscoveryError} (h : DiscoveryFails exchange error) :
    metadataOf exchange = .error error := by
  cases h with
  | request error h => rw [h, Http.metadataOf]
  | status response h hstatus =>
    rw [← Response.isSuccess_iff, Bool.not_eq_true] at hstatus
    rw [h, Http.metadataOf, hstatus]
    rfl
  | body response h hstatus hbody =>
    rw [h, Http.metadataOf, Response.isSuccess_iff.mpr hstatus, hbody]
    rfl
  | location response metadata h hstatus hbody hempty =>
    simp [h, Http.metadataOf, Response.isSuccess_iff.mpr hstatus, hbody, hempty]

/-- Every exchange gives metadata or fails in one of the ways. -/
theorem discovers_or_fails (exchange : Exchange) :
    (∃ metadata, Discovers exchange metadata) ∨ ∃ error, DiscoveryFails exchange error := by
  cases exchange with
  | error error => exact .inr ⟨_, .request error rfl⟩
  | ok response =>
    by_cases hstatus : 200 ≤ response.status ∧ response.status < 300
    · cases hbody : ProviderMetadata.read? response.body with
      | none => exact .inr ⟨_, .body response rfl hstatus hbody⟩
      | some metadata =>
        by_cases hempty : metadata.jwksUri = ""
        · exact .inr ⟨_, .location response metadata rfl hstatus hbody hempty⟩
        · exact .inl ⟨metadata, response, rfl, hstatus, hbody, hempty⟩
    · exact .inr ⟨_, .status response rfl hstatus⟩

theorem serves_iff {keys : KeySet} : Serves exchange keys ↔ keySetOf exchange = .ok keys := by
  rw [keySetOf_eq_ok_iff]
  constructor
  · rintro ⟨response, document, entries, hresponse, hstatus, hbody, hlists, rfl⟩
    exact ⟨response, document, hresponse, hstatus, hbody, KeySet.ofDocument_of_lists hlists⟩
  · rintro ⟨response, document, hresponse, hstatus, hbody, hkeys⟩
    obtain ⟨entries, hentries, rfl⟩ := KeySet.ofDocument_eq_ok_iff.mp hkeys
    exact ⟨response, document, entries, hresponse, hstatus, hbody, KeySet.lists_iff.mpr hentries,
      rfl⟩

theorem keySetWithin_of_inTime (h : ∀ url, exchange ≠ .error (.overdue url)) :
    Config.keySetWithin timeout exchange = keySetOf exchange := by
  unfold Config.keySetWithin
  split
  · next url => exact absurd rfl (h url)
  · rfl

theorem Serves.keySetWithin {keys : KeySet} (h : Serves exchange keys) :
    Config.keySetWithin timeout exchange = .ok keys := by
  have hkeys := serves_iff.mp h
  obtain ⟨response, _, _, rfl, -⟩ := h
  have hintime (url : String) : (.ok response : Exchange) ≠ .error (.overdue url) := nofun
  rwa [keySetWithin_of_inTime hintime]

theorem FetchFailsWithin.keySetWithin {error : CacheError}
    (h : FetchFailsWithin timeout exchange error) :
    Config.keySetWithin timeout exchange = .error error := by
  cases h with
  | overdue url h => rw [h, Config.keySetWithin]
  | inTime error hintime h => rw [keySetWithin_of_inTime hintime, h.keySetOf]

/-- Every exchange gives a key set or fails, by its delay or in one of the other ways. -/
theorem serves_or_fails (timeout : Span) (exchange : Exchange) :
    (∃ keys, Serves exchange keys) ∨ ∃ error, FetchFailsWithin timeout exchange error := by
  by_cases hoverdue : ∃ url, exchange = .error (.overdue url)
  · obtain ⟨url, h⟩ := hoverdue
    exact .inr ⟨_, .overdue url h⟩
  · have hintime (url : String) : exchange ≠ .error (.overdue url) := fun h => hoverdue ⟨url, h⟩
    obtain ⟨keys, hkeys⟩ | ⟨error, herror⟩ := exists_keySetOf_or_fails exchange
    · exact .inl ⟨keys, serves_iff.mpr hkeys⟩
    · exact .inr ⟨error, .inTime error hintime herror⟩

end Http
end BearerAuth
