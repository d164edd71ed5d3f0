import BearerAuth.Token.Envelope
import Mathlib.Tactic.Common

/-!
# The segments of a compact token

A text is cut at its last dot, and what comes before that at its first one. If no dot remains,
these are the segments that joining gives the text back from. So a text is a compact token in at
most one way.
-/
namespace BearerAuth.CompactToken

/-- Three segments, none of them empty and none with a dot. -/
def WellFormed (token : CompactToken) : Prop :=
  ∀ segment ∈ [token.header, token.payload, token.signature],
    segment ≠ "" ∧ '.' ∉ segment.toList

theorem splitFirst?_eq_some_iff {text before after : List Char} :
    splitFirst? text = some (before, after) ↔ text = before ++ '.' :: after ∧ '.' ∉ before := by
  induction text generalizing before with
  | nil => simp [splitFirst?]
  | cons c rest ih =>
    rw [splitFirst?]
    by_cases hc : c = '.'
    · subst hc
      cases before with
      | nil => simp [eq_comm]
      | cons first before =>
        refine iff_of_false (by simp) ?_
        rintro ⟨heq, hdot⟩
        exact hdot ((List.cons.inj heq).1 ▸ List.mem_cons_self ..)
    · rw [if_neg hc]
      cases before with
      | nil => simp [hc]
      | cons first before =>
        simp only [Option.map_eq_some_iff, Prod.exists, Prod.mk.injEq, List.cons.injEq]
        constructor
        · rintro ⟨before', after', h, ⟨rfl, rfl⟩, rfl⟩
          obtain ⟨rfl, hdot⟩ := ih.mp h
          exact ⟨rfl, by simp [hdot, Ne.symm hc]⟩
        · rintro ⟨heq, hdot⟩
          cases heq
          refine ⟨before, after, ih.mpr ⟨rfl, ?_⟩, ⟨rfl, rfl⟩, rfl⟩
          exact fun h => hdot (List.mem_cons_of_mem _ h)

theorem splitLast?_eq_some_iff {text before after : List Char} :
    splitLast? text = some (before, after) ↔ text = before ++ '.' :: after ∧ '.' ∉ after := by
  have hreverse : text = before ++ '.' :: after ∧ '.' ∉ after ↔
      text.reverse = after.reverse ++ '.' :: before.reverse ∧ '.' ∉ after.reverse := by
    rw [← List.reverse_inj]
    simp
  rw [hreverse, ← splitFirst?_eq_some_iff]
  unfold splitLast?
  simp only [Option.map_eq_some_iff, Prod.exists, Prod.mk.injEq]
  constructor
  · rintro ⟨after', before', h, rfl, rfl⟩
    rwa [List.reverse_reverse, List.reverse_reverse]
  · exact fun h => ⟨_, _, h, List.reverse_reverse .., List.reverse_reverse ..⟩

/-- Cut from both ends, a text comes apart into three segments without dots exactly if it is
these, joined by dots. -/
theorem split_iff {text header payload signature : List Char} :
    (∃ covered, splitLast? text = some (covered, signature) ∧
        splitFirst? covered = some (header, payload) ∧ '.' ∉ payload) ↔
      text = header ++ '.' :: (payload ++ '.' :: signature) ∧
        '.' ∉ header ∧ '.' ∉ payload ∧ '.' ∉ signature := by
  simp only [splitLast?_eq_some_iff, splitFirst?_eq_some_iff]
  constructor
  · rintro ⟨covered, ⟨rfl, hsignature⟩, ⟨rfl, hheader⟩, hpayload⟩
    exact ⟨by simp, hheader, hpayload, hsignature⟩
  · rintro ⟨rfl, hheader, hpayload, hsignature⟩
    exact ⟨header ++ '.' :: payload, ⟨by simp, hsignature⟩, ⟨rfl, hheader⟩, hpayload⟩

theorem toList_text (token : CompactToken) :
    token.text.toList = token.header.toList ++
      '.' :: (token.payload.toList ++ '.' :: token.signature.toList) := by
  simp [text, signingInput]

theorem wellFormed_iff {token : CompactToken} :
    token.WellFormed ↔
      ¬ (token.header = "" ∨ token.payload = "" ∨ token.signature = "") ∧
        '.' ∉ token.header.toList ∧ '.' ∉ token.payload.toList ∧
          '.' ∉ token.signature.toList := by
  simp only [WellFormed, List.forall_mem_cons, List.not_mem_nil]
  grind

theorem cut_eq_ok_iff {text : List Char} {token : CompactToken} :
    cut text = .ok token ↔ text = token.text.toList ∧ token.WellFormed := by
  have hsegments : text = token.text.toList ∧ token.WellFormed ↔
      (∃ covered, splitLast? text = some (covered, token.signature.toList) ∧
        splitFirst? covered = some (token.header.toList, token.payload.toList) ∧
          '.' ∉ token.payload.toList) ∧
        ¬ (token.header = "" ∨ token.payload = "" ∨ token.signature = "") := by
    rw [split_iff, wellFormed_iff, toList_text]
    tauto
  rw [hsegments]
  unfold cut
  cases hlast : splitLast? text with
  | none => exact iff_of_false nofun nofun
  | some parts =>
    obtain ⟨covered, signature⟩ := parts
    dsimp only
    cases hfirst : splitFirst? covered with
    | none =>
      refine iff_of_false nofun ?_
      rintro ⟨⟨covered', heq, hsome, -⟩, -⟩
      cases heq
      rw [hfirst] at hsome
      cases hsome
    | some more =>
      obtain ⟨header, payload⟩ := more
      dsimp only
      constructor
      · intro h
        split at h
        · cases h
        · next hdot =>
          split at h
          · cases h
          · next hempty =>
            cases h
            exact ⟨⟨covered, by simp, by simp [hfirst], by simpa using hdot⟩,
              by simpa using hempty⟩
      · rintro ⟨⟨covered', heq, hsome, hdot⟩, hempty⟩
        cases heq
        cases hfirst.symm.trans hsome
        simp only [if_neg hdot, String.toList_eq_nil_iff, if_neg hempty, String.ofList_toList]

/-- What the parser accepts: texts of limited size that are no JSON serialization and consist
of three segments. -/
theorem parse_eq_ok_iff {text : String} {token : CompactToken} :
    parse text = .ok token ↔ text.utf8ByteSize ≤ maxTokenBytes ∧
      (Text.trimStart text.toList).head? ≠ some '\x7b' ∧ text = token.text ∧ token.WellFormed := by
  have hcut : cut text.toList = .ok token ↔ text = token.text ∧ token.WellFormed := by
    rw [cut_eq_ok_iff, String.toList_inj]
  rw [← hcut]
  unfold parse
  by_cases hsize : maxTokenBytes < text.utf8ByteSize
  · rw [if_pos hsize]
    exact iff_of_false nofun fun h => Nat.not_le_of_lt hsize h.1
  rw [if_neg hsize]
  by_cases hbrace : (Text.trimStart text.toList).head? = some '\x7b'
  · rw [if_pos hbrace]
    exact iff_of_false nofun fun h => h.2.1 hbrace
  · rw [if_neg hbrace]
    exact ⟨fun h => ⟨Nat.le_of_not_lt hsize, hbrace, h⟩, fun h => h.2.2⟩

end BearerAuth.CompactToken
