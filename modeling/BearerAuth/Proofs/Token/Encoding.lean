import BearerAuth.Proofs.Json.RoundTrip
import BearerAuth.Proofs.Token.Contents
import BearerAuth.Proofs.Token.Segments

/-!
# Encoded segments

Segments in base64url hold no dot, so that a token put together from them is taken apart into
them again. A segment that encodes a printed object is decoded to its members.
-/
namespace BearerAuth

open Json

namespace Base64Url

theorem exists_digit_of_mem_encodeDigits {bytes : Bytes} {c : Char} (h : c ∈ encodeDigits bytes) :
    ∃ n < 64, c = digit n := by
  fun_induction encodeDigits bytes with
  | case1 a b c' rest a' b' c'' hbytes ih =>
    obtain ⟨rfl, rfl, rfl⟩ : a.toNat = a' ∧ b.toNat = b' ∧ c'.toNat = c'' := by simp_all
    have := a.toNat_lt; have := b.toNat_lt; have := c'.toNat_lt
    simp only [List.mem_cons] at h
    rcases h with rfl | rfl | rfl | rfl | h
    · exact ⟨_, by omega, rfl⟩
    · exact ⟨_, by omega, rfl⟩
    · exact ⟨_, by omega, rfl⟩
    · exact ⟨_, by omega, rfl⟩
    · exact ih h
  | case2 a b a' b' hbytes =>
    obtain ⟨rfl, rfl⟩ : a.toNat = a' ∧ b.toNat = b' := by simp_all
    have := a.toNat_lt; have := b.toNat_lt
    simp only [List.mem_cons, List.not_mem_nil, or_false] at h
    rcases h with rfl | rfl | rfl
    · exact ⟨_, by omega, rfl⟩
    · exact ⟨_, by omega, rfl⟩
    · exact ⟨_, by omega, rfl⟩
  | case3 a =>
    have := a.toNat_lt
    simp only [List.mem_cons, List.not_mem_nil, or_false] at h
    rcases h with rfl | rfl
    · exact ⟨_, by omega, rfl⟩
    · exact ⟨_, by omega, rfl⟩
  | case4 => cases h

/-- No digit ends a segment, opens an object or is blank. -/
theorem plain_digit : ∀ n < 64, digit n ≠ '.' ∧ digit n ≠ '\x7b' ∧
    Text.isBlank (digit n) = false := by
  decide

theorem plain_of_mem_encode {bytes : Bytes} {c : Char} (h : c ∈ (encode bytes).toList) :
    c ≠ '.' ∧ c ≠ '\x7b' ∧ Text.isBlank c = false := by
  rw [encode, String.toList_ofList] at h
  obtain ⟨n, hn, rfl⟩ := exists_digit_of_mem_encodeDigits h
  exact plain_digit n hn

theorem encode_ne_empty {bytes : Bytes} (h : bytes ≠ []) : encode bytes ≠ "" := by
  intro hempty
  have hdecode := decode?_encode bytes
  rw [hempty] at hdecode
  exact h (Option.some.inj hdecode).symm

end Base64Url

namespace CompactToken

/-- A token whose segments encode these bytes. -/
def ofBytes (header payload signature : Bytes) : CompactToken :=
  ⟨Base64Url.encode header, Base64Url.encode payload, Base64Url.encode signature⟩

theorem wellFormed_ofBytes {header payload signature : Bytes} (hheader : header ≠ [])
    (hpayload : payload ≠ []) (hsignature : signature ≠ []) :
    (ofBytes header payload signature).WellFormed := by
  have hsegment {bytes : Bytes} (h : bytes ≠ []) :
      Base64Url.encode bytes ≠ "" ∧ '.' ∉ (Base64Url.encode bytes).toList :=
    ⟨Base64Url.encode_ne_empty h, fun hdot => (Base64Url.plain_of_mem_encode hdot).1 rfl⟩
  intro segment hmem
  simp only [List.mem_cons, List.not_mem_nil, or_false] at hmem
  rcases hmem with rfl | rfl | rfl
  · exact hsegment hheader
  · exact hsegment hpayload
  · exact hsegment hsignature

/-- A token is taken apart into the segments that it was put together from. -/
theorem parse_text_ofBytes {header payload signature : Bytes} (hheader : header ≠ [])
    (hpayload : payload ≠ []) (hsignature : signature ≠ [])
    (hsize : (ofBytes header payload signature).text.utf8ByteSize ≤ maxTokenBytes) :
    parse (ofBytes header payload signature).text = .ok (ofBytes header payload signature) := by
  refine parse_eq_ok_iff.mpr ⟨hsize, ?_, rfl, wellFormed_ofBytes hheader hpayload hsignature⟩
  obtain ⟨c, cs, hcons⟩ : ∃ c cs, (Base64Url.encode header).toList = c :: cs :=
    List.exists_cons_of_ne_nil fun hnil =>
      Base64Url.encode_ne_empty hheader (String.toList_eq_nil_iff.mp hnil)
  have hmem : c ∈ (Base64Url.encode header).toList := hcons ▸ List.mem_cons_self ..
  obtain ⟨-, hbrace, hblank⟩ := Base64Url.plain_of_mem_encode hmem
  rw [toList_text]
  show (Text.trimStart ((Base64Url.encode header).toList ++ _)).head? ≠ _
  rw [hcons, List.cons_append, Text.trimStart, List.dropWhile_cons_of_neg (by simp [hblank])]
  simpa using hbrace

/-- The members of an object are found in the segment that encodes it. -/
theorem holds_encode {bytes : Bytes} {members : Members}
    (h : Value.ofBytes? bytes = some (.object members)) :
    Holds (Base64Url.encode bytes) members :=
  ⟨bytes, Base64Url.decode?_encode bytes, h⟩

end CompactToken
end BearerAuth
