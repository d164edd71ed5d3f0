import BearerAuth.Json.Printing
import BearerAuth.Json.Reading
import Mathlib.Tactic.Common

/-!
# Printed numbers and strings

What is printed for an integer or a string is read back as one token, whatever follows it, as long
as this cannot be taken for more of a number.
-/
namespace BearerAuth

namespace Text

theorem isDigit_of_mem_toDigits {n : Nat} {c : Char} (h : c ∈ Nat.toDigits 10 n) :
    isDigit c = true := by
  have hdigit := Nat.isDigit_of_mem_toDigits (by decide) (by decide) h
  simpa [isDigit, Char.isDigit, Char.le_def] using hdigit

theorem decimalValue_toDigits (n : Nat) : decimalValue (Nat.toDigits 10 n) = n := by
  have hvalue : decimalValue (Nat.toDigits 10 n) = Nat.ofDigitChars 10 (Nat.toDigits 10 n) 0 := by
    simp only [decimalValue, digitValue, Nat.ofDigitChars, Nat.mul_comm]
  rw [hvalue, Nat.ofDigitChars_toDigits (by decide) (by decide)]

/-- Only zero is written with a zero in front. -/
theorem eq_zero_of_head?_toDigits {n : Nat} (h : (Nat.toDigits 10 n).head? = some '0') : n = 0 := by
  induction n using Nat.strongRecOn with
  | ind n ih =>
    rw [Nat.toDigits_eq_if (by decide)] at h
    split at h
    · next hlt =>
      have hall : ∀ d < 10, some (Nat.digitChar d) = some '0' → d = 0 := by decide
      exact hall n hlt h
    · next hge =>
      obtain ⟨digit, digits, hcons⟩ :=
        List.exists_cons_of_ne_nil (Nat.toDigits_ne_nil (n := n / 10) (b := 10))
      rw [hcons] at h
      have hzero := ih (n / 10) (by omega) (hcons ▸ h)
      omega

theorem hexValue?_digitChar : ∀ d < 16, hexValue? (Nat.digitChar d) = some d := by decide

end Text
namespace Json

namespace Token

/-- What may follow a number. -/
def Stops (rest : List Char) : Prop :=
  ∀ c, rest.head? = some c → Text.isDigit c = false ∧ c ≠ '.' ∧ c ≠ 'e' ∧ c ≠ 'E'

theorem readDigits_append {digits rest : List Char} (hne : digits ≠ [])
    (hdigits : ∀ c ∈ digits, Text.isDigit c = true) (hstops : Stops rest) :
    readDigits (digits ++ rest) = some (digits, rest) := by
  have hrest : rest.takeWhile Text.isDigit = [] ∧ rest.dropWhile Text.isDigit = rest := by
    cases rest with
    | nil => exact ⟨rfl, rfl⟩
    | cons c rest => simp [(hstops c rfl).1]
  unfold readDigits
  rw [List.takeWhile_append_of_pos hdigits, List.dropWhile_append_of_pos hdigits, hrest.1, hrest.2,
    List.append_nil]
  split
  · exact absurd rfl hne
  · rfl

theorem readFraction_of_stops {rest : List Char} (h : Stops rest) :
    readFraction rest = some (none, rest) := by
  unfold readFraction
  split
  · next rest => exact absurd rfl (h '.' rfl).2.1
  · rfl

theorem readExponent_of_stops {rest : List Char} (h : Stops rest) :
    readExponent rest = some (none, rest) := by
  cases rest with
  | nil => rfl
  | cons c rest =>
    obtain ⟨-, -, he, hE⟩ := h c rfl
    unfold readExponent
    exact if_neg (by simp [he, hE])

theorem readWhole_toDigits (n : Nat) {rest : List Char} (hstops : Stops rest) :
    readWhole (Nat.toDigits 10 n ++ rest) = some (Nat.toDigits 10 n, rest) := by
  by_cases hzero : n = 0
  · subst hzero
    rfl
  · unfold readWhole
    split
    · next after hcons =>
      obtain ⟨digit, digits, hdigits⟩ :=
        List.exists_cons_of_ne_nil (Nat.toDigits_ne_nil (n := n) (b := 10))
      rw [hdigits] at hcons
      obtain rfl : digit = '0' := (List.cons.inj hcons).1
      exact absurd (Text.eq_zero_of_head?_toDigits (by rw [hdigits]; rfl)) hzero
    · exact readDigits_append Nat.toDigits_ne_nil (fun c => Text.isDigit_of_mem_toDigits) hstops

theorem readMagnitude_toDigits (negative : Bool) (n : Nat) {rest : List Char}
    (hstops : Stops rest) :
    readMagnitude negative (Nat.toDigits 10 n ++ rest) =
      some (⟨negative, Nat.toDigits 10 n, none, none⟩, rest) := by
  unfold readMagnitude
  simp only [readWhole_toDigits n hstops, readFraction_of_stops hstops,
    readExponent_of_stops hstops]

/-- A text that begins with a digit begins with a number. -/
theorem read_of_isDigit {c : Char} (h : Text.isDigit c = true) (rest : List Char) :
    read (c :: rest) =
      (readMagnitude false (c :: rest)).map fun (literal, after) => (number literal, after) := by
  unfold read
  split
  case h_12 => rfl
  all_goals
    rename_i heq
    obtain ⟨rfl, -⟩ := List.cons.inj heq
    exact absurd h (by decide)

end Token

/-- What is written for a whole number. -/
def NumberLiteral.ofInt (value : Int) : NumberLiteral :=
  ⟨value < 0, Nat.toDigits 10 value.natAbs, none, none⟩

theorem NumberLiteral.number?_ofInt {value : Int} (h : FitsWord value) :
    (ofInt value).number? = some (.integer value h) := by
  have hsigned : (if decide (value < 0) = true then -(value.natAbs : Int) else value.natAbs) =
      value := by
    by_cases hneg : value < 0
    · rw [if_pos (decide_eq_true hneg)]
      omega
    · rw [if_neg (by simp [hneg])]
      omega
  have hzero : ¬ (decide (value < 0) = true ∧ (value.natAbs : Int) = 0) := by
    simp only [decide_eq_true_eq]
    omega
  unfold number? ofInt
  simp only [Text.decimalValue_toDigits, hsigned, if_neg hzero, dif_pos h]

namespace Token

theorem read_printInteger {value : Int} (h : FitsWord value) {rest : List Char}
    (hstops : Stops rest) :
    read ((Number.integer value h).print ++ rest) = some (number (.ofInt value), rest) := by
  by_cases hneg : value < 0
  · have hminus : read ('-' :: (Nat.toDigits 10 value.natAbs ++ rest)) =
        (readMagnitude true (Nat.toDigits 10 value.natAbs ++ rest)).map
          fun (literal, after) => (number literal, after) := rfl
    rw [Number.print, if_pos hneg, List.cons_append, hminus, readMagnitude_toDigits true _ hstops]
    simp [NumberLiteral.ofInt, hneg]
  · obtain ⟨digit, digits, hcons⟩ :=
      List.exists_cons_of_ne_nil (Nat.toDigits_ne_nil (n := value.natAbs) (b := 10))
    have hdigit : Text.isDigit digit = true :=
      Text.isDigit_of_mem_toDigits (n := value.natAbs) (by rw [hcons]; exact List.mem_cons_self ..)
    have hread := readMagnitude_toDigits false value.natAbs hstops
    rw [hcons, List.cons_append] at hread
    rw [Number.print, if_neg hneg, hcons, List.cons_append, read_of_isDigit hdigit, hread]
    simp [NumberLiteral.ofInt, hneg, hcons]

end Token

/-- How a character of a printed string is read back: a control without a letter of its own is
written as a unit of four digits. -/
def piece (c : Char) : Piece :=
  if c.toNat < 32 ∧ c ∉ ['\x08', '\x0c', '\n', '\r', '\t'] then .unit c.toNat else .char c

namespace Token

theorem readString_hexDigits {code : Nat} (hcode : code < 65536) (rest : List Char) :
    readString ('\\' :: 'u' :: hexDigits code ++ rest) =
      (readString rest).map fun (pieces, after) => (.unit code :: pieces, after) := by
  have hvalue : ((code / 4096 % 16 * 16 + code / 256 % 16) * 16 + code / 16 % 16) * 16 +
      code % 16 = code := by omega
  simp only [hexDigits, List.cons_append, List.nil_append]
  rw [readString, Text.hexValue?_digitChar _ (Nat.mod_lt _ (by decide)),
    Text.hexValue?_digitChar _ (Nat.mod_lt _ (by decide)),
    Text.hexValue?_digitChar _ (Nat.mod_lt _ (by decide)),
    Text.hexValue?_digitChar _ (Nat.mod_lt _ (by decide))]
  cases readString rest with
  | none => rfl
  | some result => simp only [hvalue, Option.map_some]

theorem readString_escape {c letter : Char} (hletter : escaped? letter = some c)
    (hu : letter ≠ 'u') (rest : List Char) :
    readString ('\\' :: letter :: rest) =
      (readString rest).map fun (pieces, after) => (.char c :: pieces, after) := by
  rw [readString]
  · rw [hletter]
    cases readString rest <;> rfl
  · exact fun _ _ _ _ _ heq _ => absurd heq hu

theorem readString_plain {c : Char} (hquote : c ≠ '"') (hbackslash : c ≠ '\\')
    (hcontrol : ¬ c.toNat < 32) (rest : List Char) :
    readString (c :: rest) =
      (readString rest).map fun (pieces, after) => (.char c :: pieces, after) := by
  rw [readString, if_neg hcontrol]
  · exact hquote
  · exact fun _ _ _ _ _ h _ => absurd h hbackslash
  · exact fun _ _ h _ => absurd h hbackslash

theorem readString_printChar (c : Char) (rest : List Char) :
    readString (printChar c ++ rest) =
      (readString rest).map fun (pieces, after) => (piece c :: pieces, after) := by
  unfold printChar
  split
  case h_8 hquote hbackslash hb hf hn hr ht =>
    split
    · next hcontrol =>
      have hpiece : piece c = .unit c.toNat := if_pos ⟨hcontrol, by
        simp only [List.mem_cons, List.not_mem_nil, or_false, not_or]
        exact ⟨hb, hf, hn, hr, ht⟩⟩
      rw [hpiece]
      exact readString_hexDigits (by omega) rest
    · next hplain =>
      have hpiece : piece c = .char c := if_neg fun h => hplain h.1
      rw [hpiece]
      exact readString_plain hquote hbackslash hplain rest
  all_goals exact readString_escape rfl (by decide) rest

theorem readString_flatMap_printChar (text rest : List Char) :
    readString (text.flatMap printChar ++ '"' :: rest) = some (text.map piece, rest) := by
  induction text with
  | nil => rfl
  | cons c text ih => rw [List.flatMap_cons, List.append_assoc, readString_printChar, ih]; rfl

theorem read_printString (text : String) (rest : List Char) :
    read (printString text ++ rest) = some (string (text.toList.map piece), rest) := by
  have hread : read ('"' :: (text.toList.flatMap printChar ++ '"' :: rest)) =
      (readString (text.toList.flatMap printChar ++ '"' :: rest)).map
        fun (literal, after) => (string literal, after) := rfl
  have hprint : printString text ++ rest =
      '"' :: (text.toList.flatMap printChar ++ '"' :: rest) := by
    simp [printString]
  rw [hprint, hread, readString_flatMap_printChar]
  rfl

end Token

namespace StringLiteral

/-- A unit that is no surrogate is a character, whatever follows it. -/
theorem chars?_unit {code : Nat} (hcode : code < 0xD800) (rest : StringLiteral) :
    chars? (.unit code :: rest) = (chars? rest).map (Char.ofNat code :: ·) := by
  match rest with
  | .unit low :: rest => rw [chars?, if_neg (by omega), if_neg (by omega)]
  | .char c :: rest =>
    simp only [chars?]
    rw [if_neg (by omega)]
  | [] =>
    simp only [chars?]
    rw [if_neg (by omega)]

theorem chars?_map_piece (text : List Char) : chars? (text.map piece) = some text := by
  induction text with
  | nil => rfl
  | cons c text ih =>
    rw [List.map_cons, piece]
    split
    · next hcontrol =>
      rw [chars?_unit (by omega), ih, Option.map_some, Char.ofNat_toNat]
    · rw [chars?, ih, Option.map_some]

theorem text?_map_piece (text : String) : text? (text.toList.map piece) = some text := by
  rw [text?, chars?_map_piece, Option.map_some, String.ofList_toList]

end StringLiteral

end Json
end BearerAuth
