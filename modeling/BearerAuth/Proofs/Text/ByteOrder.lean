import BearerAuth.Bytes
import Mathlib.Data.String.Basic

/-!
# The order of texts

Texts are ordered by code point, and that is the order of their bytes in UTF-8: the first byte of
a character grows with the number of its bytes, and characters of one length are written by their
digits, the highest first.
-/
namespace BearerAuth.Bytes

theorem ofText_eq_flatMap (text : String) :
    ofText text = text.toList.flatMap String.utf8EncodeChar := by
  rw [ofText, String.toUTF8_eq_toByteArray, ← String.utf8Encode_toList, List.utf8Encode]
  simp

theorem toNat_le_of_char (c : Char) : c.val.toNat ≤ 0x10ffff := by
  have hvalid := c.valid
  simp only [UInt32.isValidChar, Nat.isValidChar] at hvalid
  omega

/-- The bytes of two characters differ before either of them ends, so that it does not matter what
follows. -/
theorem encodeChar_append_lt {c d : Char} (h : c < d) (rest rest' : Bytes) :
    String.utf8EncodeChar c ++ rest < String.utf8EncodeChar d ++ rest' := by
  have hvalues : c.val.toNat < d.val.toNat := h
  have hbound := toNat_le_of_char d
  unfold String.utf8EncodeChar
  dsimp only
  -- One case for each pair of lengths; no digit is so large that its byte would wrap.
  split_ifs <;>
    simp (disch := omega) only [List.cons_append, List.nil_append, List.cons_lt_cons_iff,
      UInt8.lt_iff_toNat_lt, ← UInt8.toNat_inj, UInt8.toNat_ofNat', Nat.reducePow,
      Nat.mod_eq_of_lt] <;>
    omega

theorem flatMap_encodeChar_lt {chars chars' : List Char} (h : chars < chars') :
    chars.flatMap String.utf8EncodeChar < chars'.flatMap String.utf8EncodeChar := by
  induction chars generalizing chars' with
  | nil =>
    cases chars' with
    | nil => exact absurd h (lt_irrefl _)
    | cons d rest' =>
      have hsome : String.utf8EncodeChar d ≠ [] := String.utf8EncodeChar_ne_nil
      obtain ⟨byte, bytes, hbytes⟩ := List.exists_cons_of_ne_nil hsome
      rw [List.flatMap_nil, List.flatMap_cons, hbytes]
      exact List.nil_lt_cons _ _
  | cons c rest ih =>
    cases chars' with
    | nil => exact absurd h (List.not_lt_nil _)
    | cons d rest' =>
      rw [List.flatMap_cons, List.flatMap_cons]
      rcases List.cons_lt_cons_iff.mp h with hlt | ⟨rfl, hrest⟩
      · exact encodeChar_append_lt hlt _ _
      · exact List.append_left_lt (ih hrest)

theorem ofText_lt_iff {first second : String} : ofText first < ofText second ↔ first < second := by
  have hmono {a b : String} (h : a < b) : ofText a < ofText b := by
    rw [ofText_eq_flatMap, ofText_eq_flatMap]
    exact flatMap_encodeChar_lt (String.lt_iff_toList_lt.mp h)
  refine ⟨fun h => ?_, hmono⟩
  rcases lt_trichotomy first second with hlt | rfl | hlt
  · exact hlt
  · exact absurd h (List.lt_irrefl _)
  · exact absurd h (List.lt_asymm (hmono hlt))

end BearerAuth.Bytes
