import BearerAuth.Text.Blank
import BearerAuth.Text.Numeral
import Mathlib.Data.List.DropRight

/-!
# Numerals, and words between blanks

A numeral has nothing around it. A word may stand between blanks, and trimming finds the word
again when it has no blanks of its own.
-/
namespace BearerAuth.Text

section Numerals

variable {digits text : List Char} {start n m : Nat}

/-- An optional plus sign and decimal digits, for a number of sixty-four bits. -/
def Numeral (text : List Char) (n : Nat) : Prop :=
  n < 2 ^ 64 ∧ ∃ digits, digits ≠ [] ∧ (∀ c ∈ digits, isDigit c = true) ∧
    decimalValue digits = n ∧ (text = digits ∨ text = '+' :: digits)

/-- More digits do not make a number smaller. -/
theorem le_foldl_digitValue (digits : List Char) (start : Nat) :
    start ≤ digits.foldl (fun value c => value * 10 + digitValue c) start := by
  induction digits generalizing start with
  | nil => exact Nat.le_refl _
  | cons c rest ih =>
    have hstep : start ≤ start * 10 + digitValue c := by omega
    exact hstep.trans (ih _)

theorem readDigits_eq_ok_iff (hstart : start < 2 ^ 64) : readDigits digits start = .ok n ↔
    n < 2 ^ 64 ∧ (∀ c ∈ digits, isDigit c = true) ∧
      digits.foldl (fun value c => value * 10 + digitValue c) start = n := by
  induction digits generalizing start with
  | nil =>
    simp only [readDigits, Except.ok.injEq, List.not_mem_nil, List.foldl_nil]
    constructor
    · rintro rfl
      exact ⟨hstart, nofun, rfl⟩
    · rintro ⟨-, -, h⟩
      exact h
  | cons c rest ih =>
    rw [readDigits, List.forall_mem_cons, List.foldl_cons]
    split
    case isFalse hdigit => simp [hdigit]
    case isTrue hdigit =>
      split
      case isTrue hfits => simp [ih hfits, hdigit]
      case isFalse hlarge =>
        have hgrows := le_foldl_digitValue rest (start * 10 + digitValue c)
        constructor
        · nofun
        · rintro ⟨hsmall, -, rfl⟩
          omega

/-- What is read as a number is a numeral for it. -/
theorem readNumeral_eq_ok_iff : readNumeral text = .ok n ↔ Numeral text n := by
  unfold readNumeral Numeral
  split
  case h_1 => simp
  case h_2 =>
    simp only [reduceCtorEq, false_iff, not_and, not_exists]
    rintro - digits hsome hdigits - (rfl | h)
    · exact absurd (hdigits '+' (by simp)) (by decide)
    · simp_all
  case h_3 digits hsome =>
    rw [readDigits_eq_ok_iff (by decide)]
    refine and_congr_right fun _ => ⟨?_, ?_⟩
    · rintro ⟨hdigits, hvalue⟩
      exact ⟨digits, by simpa using hsome, hdigits, hvalue, .inr rfl⟩
    · rintro ⟨others, -, hdigits, hvalue, rfl | h⟩
      · exact absurd (hdigits '+' (by simp)) (by decide)
      · cases h
        exact ⟨hdigits, hvalue⟩
  case h_4 hempty hsign hplus =>
    rw [readDigits_eq_ok_iff (by decide)]
    refine and_congr_right fun _ => ⟨?_, ?_⟩
    · rintro ⟨hdigits, hvalue⟩
      exact ⟨text, hempty, hdigits, hvalue, .inl rfl⟩
    · rintro ⟨others, -, hdigits, hvalue, rfl | rfl⟩
      · exact ⟨hdigits, hvalue⟩
      · exact absurd rfl (hplus others)

theorem Numeral.eq (h : Numeral text n) (h' : Numeral text m) : n = m :=
  Except.ok.inj ((readNumeral_eq_ok_iff.2 h).symm.trans (readNumeral_eq_ok_iff.2 h'))

end Numerals

section Blanks

variable {cs before word after : List Char}

theorem trim_eq_rdropWhile (cs : List Char) :
    trim cs = (cs.dropWhile isBlank).rdropWhile isBlank := rfl

theorem trim_eq_nil_iff : trim cs = [] ↔ ∀ c ∈ cs, isBlank c = true := by
  rw [trim_eq_rdropWhile, List.rdropWhile_eq_nil_iff]
  constructor
  · intro h c hc
    rw [← List.takeWhile_append_dropWhile (p := isBlank) (l := cs), List.mem_append] at hc
    exact hc.elim List.mem_takeWhile_imp (h c)
  · intro h c hc
    exact h c ((List.dropWhile_suffix _).mem hc)

/-- Only blanks are taken away. -/
theorem exists_edges (cs : List Char) : ∃ before after,
    cs = before ++ trim cs ++ after ∧ ∀ c ∈ before ++ after, isBlank c = true := by
  refine ⟨cs.takeWhile isBlank, (cs.dropWhile isBlank).rtakeWhile isBlank, ?_, ?_⟩
  · rw [trim_eq_rdropWhile, List.append_assoc, List.rdropWhile_append_rtakeWhile,
      List.takeWhile_append_dropWhile]
  · intro c hc
    exact (List.mem_append.1 hc).elim List.mem_takeWhile_imp List.mem_rtakeWhile_imp

/-- A word without blanks is found again between blanks. -/
theorem trim_append (hedges : ∀ c ∈ before ++ after, isBlank c = true)
    (hword : ∀ c ∈ word, isBlank c = false) : trim (before ++ word ++ after) = word := by
  have hbefore : ∀ c ∈ before, isBlank c = true := fun c hc => hedges c (by simp [hc])
  have hafter : ∀ c ∈ after, isBlank c = true := fun c hc => hedges c (by simp [hc])
  cases word with
  | nil => exact trim_eq_nil_iff.2 (by simpa using hedges)
  | cons c rest =>
    have hstart : trimStart (before ++ (c :: rest) ++ after) = (c :: rest) ++ after := by
      rw [trimStart, List.append_assoc, List.dropWhile_append_of_pos hbefore, List.cons_append,
        List.dropWhile_cons_of_neg (by simp [hword c])]
    have hend : trimStart ((c :: rest) ++ after).reverse = (c :: rest).reverse := by
      rw [trimStart, List.reverse_append, List.dropWhile_append_of_pos (by simpa using hafter),
        List.dropWhile_eq_self_iff]
      intro hlength
      simpa using hword _ (List.mem_reverse.1 (List.getElem_mem hlength))
    rw [trim, hstart, hend, List.reverse_reverse]

/-- No blank is a capital letter. -/
theorem toLower_of_isBlank {c : Char} (h : isBlank c = true) : c.toLower = c := by
  have hcapital : ¬ ('A'.val ≤ c.val ∧ c.val ≤ 'Z'.val) := by
    simp only [isBlank, Bool.or_eq_true, Bool.and_eq_true, decide_eq_true_eq, beq_iff_eq,
      Char.toNat, UInt32.le_iff_toNat_le] at h ⊢
    have hA : 'A'.val.toNat = 65 := rfl
    have hZ : 'Z'.val.toNat = 90 := rfl
    omega
  exact dif_neg hcapital

end Blanks
end BearerAuth.Text
