import BearerAuth.Proofs.Json.Taken
import BearerAuth.Proofs.Token.Contents
import BearerAuth.Proofs.Token.Segments
import Mathlib.Data.List.TakeWhile

/-!
# The grammar of tokens

What the parser accepts is a grammar, and what it finds in a text of the grammar are its three
segments. Every other text is refused with an error that is decided by its size, by its first
character that is not blank, and by what it says as a JSON document.
-/
namespace BearerAuth

open Json

namespace Text

/-- The first character that is not blank. -/
def firstNonblank? (text : String) : Option Char := text.toList.find? fun c => !isBlank c

theorem head?_trimStart (text : String) : (trimStart text.toList).head? = firstNonblank? text := by
  rw [firstNonblank?, List.find?_eq_head?_dropWhile_not]
  simp [trimStart]

end Text

/-- A text is a document, an object with these members in the order in which they stand. -/
def Json.Value.ReadsMembers (text : String) (pairs : List (String × Value)) : Prop :=
  ∃ members, Written.read? text = some (.object members) ∧
    (Written.object members).depth ≤ maxDepth ∧ Written.memberMeanings? members = some pairs

theorem Json.Written.meaning?_eq_object_iff {tree : Written} {members : Members} :
    tree.meaning? = some (.object members) ↔ ∃ written pairs, tree = .object written ∧
      memberMeanings? written = some pairs ∧ Members.ofPairs pairs = members := by
  cases tree <;> simp [meaning?]

theorem Json.Value.read?_eq_object_iff {text : String} {members : Members} :
    read? text = some (.object members) ↔
      ∃ pairs, ReadsMembers text pairs ∧ Members.ofPairs pairs = members := by
  unfold read? ReadsMembers
  simp only [Option.bind_eq_some_iff, Option.ite_none_right_eq_some, Written.meaning?_eq_object_iff]
  constructor
  · rintro ⟨_, htree, hdepth, written, pairs, rfl, hpairs, hmembers⟩
    exact ⟨pairs, ⟨written, htree, hdepth, hpairs⟩, hmembers⟩
  · rintro ⟨pairs, ⟨written, htree, hdepth, hpairs⟩, hmembers⟩
    exact ⟨_, htree, hdepth, written, pairs, rfl, hpairs, hmembers⟩

/-- An object begins with a brace, so that no text is both a token and an object. -/
theorem Json.Value.ReadsMembers.firstNonblank? {text : String} {pairs : List (String × Value)}
    (h : ReadsMembers text pairs) : Text.firstNonblank? text = some '\x7b' := by
  obtain ⟨members, hread, -, -⟩ := h
  exact Written.find?_of_read?_object hread

namespace CompactToken

variable {text : String}

/-- A text of limited size that does not begin with a brace and is three segments between dots. -/
structure Compact (text header payload signature : String) : Prop where
  small : text.utf8ByteSize ≤ maxTokenBytes
  bare : Text.firstNonblank? text ≠ some '\x7b'
  joined : text = header ++ "." ++ payload ++ "." ++ signature
  nonempty : header ≠ "" ∧ payload ≠ "" ∧ signature ≠ ""
  dotless : '.' ∉ header.toList ∧ '.' ∉ payload.toList ∧ '.' ∉ signature.toList

/-- A text that is a JSON object with more than one signature. Of several members of that name
the last one counts. -/
def ManySigned (text : String) : Prop :=
  Text.firstNonblank? text = some '\x7b' ∧ ∃ pairs before items after,
    Value.ReadsMembers text pairs ∧ pairs = before ++ ("signatures", .array items) :: after ∧
      (∀ pair ∈ after, pair.1 ≠ "signatures") ∧ 1 < items.length

theorem parse_eq_ok_iff_compact {token : CompactToken} :
    parse text = .ok token ↔ Compact text token.header token.payload token.signature := by
  rw [parse_eq_ok_iff, wellFormed_iff, Text.head?_trimStart, not_or, not_or]
  constructor
  · rintro ⟨hsmall, hbare, hjoined, hnonempty, hdotless⟩
    exact ⟨hsmall, hbare, hjoined, hnonempty, hdotless⟩
  · rintro ⟨hsmall, hbare, hjoined, hnonempty, hdotless⟩
    exact ⟨hsmall, hbare, hjoined, hnonempty, hdotless⟩

theorem parse_of_compact {header payload signature : String}
    (h : Compact text header payload signature) :
    parse text = .ok ⟨header, payload, signature⟩ :=
  parse_eq_ok_iff_compact.mpr h

/-! ## Texts that are refused -/

theorem malformed_of_cut {text : List Char} {error : EnvelopeError} (h : cut text = .error error) :
    ∃ reason, error = .malformed reason := by
  unfold cut at h
  split at h
  · cases h
    exact ⟨_, rfl⟩
  · split at h
    · cases h
      exact ⟨_, rfl⟩
    · split at h
      · cases h
        exact ⟨_, rfl⟩
      · split at h
        · cases h
          exact ⟨_, rfl⟩
        · cases h

theorem signatures_eq_some_iff {document : Value} {items : List Value} :
    (document.get? "signatures").bind Value.array? = some items ↔
      ∃ members : Members, document = .object members ∧
        members.get? "signatures" = some (.array items) := by
  simp only [Option.bind_eq_some_iff, Value.array?_eq_some_iff, exists_eq_right,
    Value.get?_eq_some_iff]

theorem refuseSerialization_eq_multiple_iff :
    refuseSerialization text = .multipleSignatures ↔
      ∃ (members : Members) (items : List Value), Value.read? text = some (.object members) ∧
        members.get? "signatures" = some (.array items) ∧ 1 < items.length := by
  unfold refuseSerialization
  cases Value.read? text with
  | none => simp
  | some document =>
    dsimp only
    split
    · next first second rest h =>
      obtain ⟨members, rfl, hget⟩ := signatures_eq_some_iff.mp h
      exact iff_of_true rfl ⟨members, _, rfl, hget, by simp⟩
    · next hfew =>
      refine iff_of_false nofun ?_
      rintro ⟨members, items, heq, hget, hmany⟩
      cases heq
      match items, hmany with
      | first :: second :: rest, _ =>
        exact hfew first second rest (signatures_eq_some_iff.mpr ⟨members, rfl, hget⟩)

theorem refuseSerialization_cases (text : String) :
    refuseSerialization text = .multipleSignatures ∨
      ∃ reason, refuseSerialization text = .malformed reason := by
  unfold refuseSerialization
  split
  · exact .inr ⟨_, rfl⟩
  · split
    · exact .inl rfl
    · exact .inr ⟨_, rfl⟩

/-! ## All texts -/

theorem parse_of_brace (hsmall : text.utf8ByteSize ≤ maxTokenBytes)
    (hbrace : Text.firstNonblank? text = some '\x7b') :
    parse text = .error (refuseSerialization text) := by
  rw [parse, if_neg (Nat.not_lt.mpr hsmall), Text.head?_trimStart, if_pos hbrace]

theorem parse_of_bare (hsmall : text.utf8ByteSize ≤ maxTokenBytes)
    (hbare : Text.firstNonblank? text ≠ some '\x7b') : parse text = cut text.toList := by
  rw [parse, if_neg (Nat.not_lt.mpr hsmall), Text.head?_trimStart, if_neg hbare]

/-- A text that is not too large, and not a JSON object, is malformed if it is no token. -/
theorem malformed_of_bare (hsmall : text.utf8ByteSize ≤ maxTokenBytes)
    (hbare : Text.firstNonblank? text ≠ some '\x7b') {error : EnvelopeError}
    (h : parse text = .error error) : ∃ reason, error = .malformed reason :=
  malformed_of_cut ((parse_of_bare hsmall hbare).symm.trans h)

theorem parse_eq_tooLarge_iff :
    parse text = .error .tooLarge ↔ maxTokenBytes < text.utf8ByteSize := by
  constructor
  · intro hparse
    by_contra hsmall
    rw [Nat.not_lt] at hsmall
    by_cases hbrace : Text.firstNonblank? text = some '\x7b'
    · rw [parse_of_brace hsmall hbrace, Except.error.injEq] at hparse
      rcases refuseSerialization_cases text with h | ⟨reason, h⟩
      · cases hparse.symm.trans h
      · cases hparse.symm.trans h
    · obtain ⟨reason, h⟩ := malformed_of_bare hsmall hbrace hparse
      cases h
  · intro hlarge
    rw [parse, if_pos hlarge]

theorem small_of_parse (h : parse text ≠ .error .tooLarge) : text.utf8ByteSize ≤ maxTokenBytes :=
  Nat.not_lt.mp fun hlarge => h (parse_eq_tooLarge_iff.mpr hlarge)

theorem parse_eq_multiple_iff :
    parse text = .error .multipleSignatures ↔
      text.utf8ByteSize ≤ maxTokenBytes ∧ ManySigned text := by
  constructor
  · intro hparse
    have hsmall := small_of_parse (hparse.trans_ne nofun)
    by_cases hbrace : Text.firstNonblank? text = some '\x7b'
    · rw [parse_of_brace hsmall hbrace, Except.error.injEq] at hparse
      obtain ⟨members, items, hread, hget, hmany⟩ :=
        refuseSerialization_eq_multiple_iff.mp hparse
      obtain ⟨pairs, hpairs, rfl⟩ := Value.read?_eq_object_iff.mp hread
      obtain ⟨before, after, heq, hlast⟩ := Members.get?_ofPairs_eq_some_iff.mp hget
      exact ⟨hsmall, hbrace, pairs, before, items, after, hpairs, heq, hlast, hmany⟩
    · obtain ⟨reason, h⟩ := malformed_of_bare hsmall hbrace hparse
      cases h
  · rintro ⟨hsmall, hbrace, pairs, before, items, after, hpairs, heq, hlast, hmany⟩
    rw [parse_of_brace hsmall hbrace, Except.error.injEq]
    exact refuseSerialization_eq_multiple_iff.mpr ⟨_, items,
      Value.read?_eq_object_iff.mpr ⟨pairs, hpairs, rfl⟩,
      Members.get?_ofPairs_eq_some_iff.mpr ⟨before, after, heq, hlast⟩, hmany⟩

/-- The header of the token is read of one segment and its claims of another one. -/
structure ReadsFrom (token : CompactToken) (header payload : String) : Prop where
  headerFields : ∀ fields, token.unverifiedHeader = .ok fields ↔
    ∃ members, Holds header members ∧ fields.StandsIn members
  headerFault : ∀ error, token.unverifiedHeader = .error error ↔
    (∃ fault, error = .malformed (.segment .header fault) ∧ Unreadable header fault) ∨
      error = .malformed .missingAlgorithm ∧ ∃ members, Holds header members ∧
        ∀ name, members.get? "alg" = some (.string name) → name = ""
  claimMembers : ∀ members, token.claims = .ok members ↔ Holds payload members
  claimsFault : ∀ error, token.claims = .error error ↔
    ∃ fault, error = .malformed (.segment .payload fault) ∧ Unreadable payload fault

/-- What becomes of a text that is given as a token. -/
structure Parsed (text : String) : Prop where
  accepted : ∀ token, parse text = .ok token ↔
    Compact text token.header token.payload token.signature
  /-- Nothing but the segments is read of a token that is accepted. -/
  parts : ∀ header payload signature, Compact text header payload signature →
    ∃ token, parse text = .ok token ∧ token.signingInput = header ++ "." ++ payload ∧
      token.signature = signature ∧
        token.unverifiedHeader = (decodeSegment .header header >>= Header.ofMembers) ∧
          token.claims = decodeSegment .payload payload ∧ token.ReadsFrom header payload ∧
            token.signingInput ++ "." ++ token.signature = text
  /-- An object is no token, whatever stands in it. -/
  braced : ∀ pairs, Value.ReadsMembers text pairs → Text.firstNonblank? text = some '\x7b' ∧
    ∀ token, parse text ≠ .ok token
  tooLarge : parse text = .error .tooLarge ↔ maxTokenBytes < text.utf8ByteSize
  multiple : parse text = .error .multipleSignatures ↔
    text.utf8ByteSize ≤ maxTokenBytes ∧ ManySigned text
  malformed : (∃ reason, parse text = .error (.malformed reason)) ↔
    text.utf8ByteSize ≤ maxTokenBytes ∧ ¬ ManySigned text ∧
      ∀ header payload signature, ¬ Compact text header payload signature

/-- The parser accepts its grammar and nothing else, and says of all other texts why not. -/
theorem text_parsed (text : String) : Parsed text where
  accepted token := parse_eq_ok_iff_compact
  parts header payload signature h := by
    refine ⟨_, parse_of_compact h, rfl, rfl, ?_, rfl, ?_, h.joined.symm⟩
    · rw [unverifiedHeader]
      cases decodeSegment .header header with
      | error error => rfl
      | ok members => rfl
    · exact { headerFields := fun _ => unverifiedHeader_eq_ok_iff
              headerFault := fun _ => unverifiedHeader_eq_error_iff
              claimMembers := fun _ => decodeSegment_eq_ok_iff .payload
              claimsFault := fun _ => decodeSegment_eq_error_iff }
  braced pairs h :=
    ⟨h.firstNonblank?, fun _ htoken => (parse_eq_ok_iff_compact.mp htoken).bare h.firstNonblank?⟩
  tooLarge := parse_eq_tooLarge_iff
  multiple := parse_eq_multiple_iff
  malformed := by
    constructor
    · rintro ⟨reason, hparse⟩
      have hsmall := small_of_parse (hparse.trans_ne nofun)
      refine ⟨hsmall, fun hmany => ?_, fun header payload signature hcompact => ?_⟩
      · cases hparse.symm.trans (parse_eq_multiple_iff.mpr ⟨hsmall, hmany⟩)
      · cases hparse.symm.trans (parse_of_compact hcompact)
    · rintro ⟨hsmall, hmany, hcompact⟩
      cases hparse : parse text with
      | ok token => exact absurd (parse_eq_ok_iff_compact.mp hparse) (hcompact _ _ _)
      | error error =>
        cases error with
        | tooLarge => exact absurd (parse_eq_tooLarge_iff.mp hparse) (Nat.not_lt.mpr hsmall)
        | malformed reason => exact ⟨reason, rfl⟩
        | multipleSignatures => exact absurd (parse_eq_multiple_iff.mp hparse).2 hmany

end CompactToken
end BearerAuth
