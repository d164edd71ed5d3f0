import BearerAuth.Token.Envelope
import Mathlib.Tactic.Common

/-!
# What stands in the segments

The first two segments of a token hold a JSON object each, in its base64url form. A segment is
read in these two steps, and what goes wrong is said of the first one that fails. Of the header no
more is read than three of its members.
-/
namespace BearerAuth

open Json

namespace CompactToken

variable {which : Segment} {segment : String} {members : Members} {error : EnvelopeError}

/-- The segment is an object in base64url, with these members. -/
def Holds (segment : String) (members : Members) : Prop :=
  ∃ bytes, Base64Url.decode? segment = some bytes ∧
    Value.ofBytes? bytes = some (.object members)

/-- Why a segment holds no object. -/
inductive Unreadable (segment : String) : SegmentFault → Prop
  | encoding (h : Base64Url.decode? segment = none) : Unreadable segment .notBase64Url
  | document (bytes : Bytes) (hbytes : Base64Url.decode? segment = some bytes)
      (h : Value.ofBytes? bytes = none) : Unreadable segment .notJson
  | shape (bytes : Bytes) (value : Value) (hbytes : Base64Url.decode? segment = some bytes)
      (hvalue : Value.ofBytes? bytes = some value) (h : ∀ members, value ≠ .object members) :
      Unreadable segment .notObject

theorem decodeSegment_eq_ok_iff (which : Segment) :
    decodeSegment which segment = .ok members ↔ Holds segment members := by
  unfold decodeSegment Holds
  cases Base64Url.decode? segment with
  | none => simp
  | some bytes =>
    cases hvalue : Value.ofBytes? bytes with
    | none => simp [hvalue]
    | some value => cases value <;> simp [hvalue]

theorem decodeSegment_eq_error_iff : decodeSegment which segment = .error error ↔
    ∃ fault, error = .malformed (.segment which fault) ∧ Unreadable segment fault := by
  constructor
  · intro h
    unfold decodeSegment at h
    split at h
    · next hbytes =>
      cases h
      exact ⟨_, rfl, .encoding hbytes⟩
    · next bytes hbytes =>
      split at h
      · next hvalue =>
        cases h
        exact ⟨_, rfl, .document bytes hbytes hvalue⟩
      · cases h
      · next value hobject hvalue =>
        cases h
        exact ⟨_, rfl, .shape bytes value hbytes hvalue hobject⟩
  · rintro ⟨fault, rfl, h⟩
    unfold decodeSegment
    cases h with
    | encoding h => rw [h]
    | document bytes hbytes h => simp only [hbytes, h]
    | shape bytes value hbytes hvalue h => simp only [hbytes, hvalue]

end CompactToken

namespace Header

variable {header : Header} {members : Members} {error : EnvelopeError}

/-- The header consists of what these members say, as far as it counts. -/
structure StandsIn (header : Header) (members : Members) : Prop where
  algorithm : members.get? "alg" = some (.string header.algorithm)
  nonempty : header.algorithm ≠ ""
  kid : ∀ kid, header.kid = some kid ↔ members.get? "kid" = some (.string kid) ∧ kid ≠ ""
  typ : ∀ typ, header.typ = some typ ↔ members.get? "typ" = some (.string typ)

theorem nonempty_eq_some_iff {name text : String} :
    ((members.get? name).bind Value.string?).filter (· ≠ "") = some text ↔
      members.get? name = some (.string text) ∧ text ≠ "" := by
  rw [Option.filter_eq_some_iff, Value.bind_string?_eq_some_iff, decide_eq_true_eq]

theorem ofMembers_eq_ok_iff : ofMembers members = .ok header ↔ header.StandsIn members := by
  unfold ofMembers
  dsimp only
  split
  · next hnone =>
    refine iff_of_false nofun fun h => ?_
    cases hnone.symm.trans (nonempty_eq_some_iff.mpr ⟨h.algorithm, h.nonempty⟩)
  · next algorithm hsome =>
    obtain ⟨halgorithm, hne⟩ := nonempty_eq_some_iff.mp hsome
    constructor
    · intro h
      cases h
      exact ⟨halgorithm, hne, fun _ => nonempty_eq_some_iff,
        fun _ => Value.bind_string?_eq_some_iff⟩
    · intro h
      cases halgorithm.symm.trans h.algorithm
      have hkid := Option.ext fun kid => nonempty_eq_some_iff.trans (h.kid kid).symm
      have htyp := Option.ext fun typ =>
        Value.bind_string?_eq_some_iff.trans (h.typ typ).symm
      rw [hkid, htyp]

theorem ofMembers_eq_error_iff : ofMembers members = .error error ↔
    error = .malformed .missingAlgorithm ∧
      ∀ name, members.get? "alg" = some (.string name) → name = "" := by
  unfold ofMembers
  dsimp only
  split
  · next hnone =>
    have hnameless (name : String) (hname : members.get? "alg" = some (.string name)) :
        name = "" := by
      by_contra hne
      cases hnone.symm.trans (nonempty_eq_some_iff.mpr ⟨hname, hne⟩)
    rw [Except.error.injEq, eq_comm]
    exact (and_iff_left hnameless).symm
  · next algorithm hsome =>
    obtain ⟨halgorithm, hne⟩ := nonempty_eq_some_iff.mp hsome
    exact iff_of_false nofun fun h => hne (h.2 algorithm halgorithm)

end Header

namespace CompactToken

variable {token : CompactToken} {error : EnvelopeError}

theorem unverifiedHeader_eq_ok_iff {header : Header} :
    token.unverifiedHeader = .ok header ↔
      ∃ members, Holds token.header members ∧ header.StandsIn members := by
  unfold unverifiedHeader
  simp only [← decodeSegment_eq_ok_iff .header, ← Header.ofMembers_eq_ok_iff]
  cases decodeSegment .header token.header <;> simp

theorem unverifiedHeader_eq_error_iff : token.unverifiedHeader = .error error ↔
    (∃ fault, error = .malformed (.segment .header fault) ∧ Unreadable token.header fault) ∨
      error = .malformed .missingAlgorithm ∧ ∃ members, Holds token.header members ∧
        ∀ name, members.get? "alg" = some (.string name) → name = "" := by
  rw [← decodeSegment_eq_error_iff]
  simp only [← decodeSegment_eq_ok_iff .header]
  unfold unverifiedHeader
  cases decodeSegment .header token.header with
  | error fault => simp
  | ok members => simp [Header.ofMembers_eq_error_iff]

/-- An empty identifier is none. -/
theorem kid_ne_empty {header : Header} (h : token.unverifiedHeader = .ok header) :
    header.kid ≠ some "" := by
  obtain ⟨members, -, hstands⟩ := unverifiedHeader_eq_ok_iff.mp h
  exact fun hkid => ((hstands.kid "").mp hkid).2 rfl

end CompactToken
end BearerAuth
