import BearerAuth.Text.Numeral

/-!
# JSON tokens

A document is cut into punctuation, words, numbers and strings; blanks between them are
dropped. Numbers and strings keep what was written, so that a reader may ignore a value
without asking what it means.
-/
namespace BearerAuth.Json

/-- A number as written: its digits before and after the point, and its power of ten. -/
structure NumberLiteral where
  negative : Bool
  whole : List Char
  fraction : Option (List Char)
  exponent : Option (Bool × List Char)
  deriving DecidableEq, Repr

/-- One element of a string: a character, or a UTF-16 unit given by four digits. -/
inductive Piece
  | char (c : Char)
  | unit (code : Nat)
  deriving DecidableEq, Repr

abbrev StringLiteral := List Piece

inductive Token
  | openArray
  | closeArray
  | openObject
  | closeObject
  | comma
  | colon
  | null
  | bool (value : Bool)
  | number (literal : NumberLiteral)
  | string (literal : StringLiteral)
  deriving DecidableEq, Repr

namespace Token

/-- Space, tab, line feed and carriage return. -/
def isSpace (c : Char) : Bool := c = ' ' ∨ c = '\t' ∨ c = '\n' ∨ c = '\r'

/-- The character that a one-letter escape stands for. -/
def escaped? (c : Char) : Option Char :=
  match c with
  | '"' => some '"'
  | '\\' => some '\\'
  | '/' => some '/'
  | 'b' => some '\x08'
  | 'f' => some '\x0c'
  | 'n' => some '\n'
  | 'r' => some '\r'
  | 't' => some '\t'
  | _ => none

/-- The rest of a string up to its closing quote, and what follows it. -/
def readString : List Char → Option (StringLiteral × List Char)
  | '"' :: rest => some ([], rest)
  | '\\' :: 'u' :: a :: b :: c :: d :: rest =>
    match Text.hexValue? a, Text.hexValue? b, Text.hexValue? c, Text.hexValue? d,
        readString rest with
    | some a, some b, some c, some d, some (pieces, after) =>
      some (.unit (((a * 16 + b) * 16 + c) * 16 + d) :: pieces, after)
    | _, _, _, _, _ => none
  | '\\' :: c :: rest =>
    match escaped? c, readString rest with
    | some c, some (pieces, after) => some (.char c :: pieces, after)
    | _, _ => none
  | c :: rest =>
    if c.toNat < 32 then none
    else (readString rest).map fun (pieces, after) => (.char c :: pieces, after)
  | [] => none

/-- Digits from the front of a text, at least one. -/
def readDigits (cs : List Char) : Option (List Char × List Char) :=
  match cs.takeWhile Text.isDigit with
  | [] => none
  | digits => some (digits, cs.dropWhile Text.isDigit)

/-- A fraction, if there is a point; the digits after it may not be missing. -/
def readFraction : List Char → Option (Option (List Char) × List Char)
  | '.' :: rest => (readDigits rest).map fun (digits, after) => (some digits, after)
  | rest => some (none, rest)

/-- A power of ten, if there is a mark for it; its digits may not be missing. -/
def readExponent : List Char → Option (Option (Bool × List Char) × List Char)
  | c :: rest =>
    if c = 'e' ∨ c = 'E' then
      let (negative, rest) := match rest with
        | '-' :: rest => (true, rest)
        | '+' :: rest => (false, rest)
        | rest => (false, rest)
      (readDigits rest).map fun (digits, after) => (some (negative, digits), after)
    else some (none, c :: rest)
  | [] => some (none, [])

/-- The digits before the point: a lone zero, or digits that do not begin with zero. -/
def readWhole : List Char → Option (List Char × List Char)
  | '0' :: rest => some (['0'], rest)
  | rest => readDigits rest

/-- A number without its sign. -/
def readMagnitude (negative : Bool) (cs : List Char) : Option (NumberLiteral × List Char) :=
  match readWhole cs with
  | none => none
  | some (whole, rest) =>
    match readFraction rest with
    | none => none
    | some (fraction, rest) =>
      match readExponent rest with
      | none => none
      | some (exponent, rest) => some (⟨negative, whole, fraction, exponent⟩, rest)

/-- The first token of a text that does not begin with a blank, and what follows it. -/
def read : List Char → Option (Token × List Char)
  | '[' :: rest => some (openArray, rest)
  | ']' :: rest => some (closeArray, rest)
  | '\x7b' :: rest => some (openObject, rest)
  | '\x7d' :: rest => some (closeObject, rest)
  | ',' :: rest => some (comma, rest)
  | ':' :: rest => some (colon, rest)
  | 'n' :: 'u' :: 'l' :: 'l' :: rest => some (null, rest)
  | 't' :: 'r' :: 'u' :: 'e' :: rest => some (bool true, rest)
  | 'f' :: 'a' :: 'l' :: 's' :: 'e' :: rest => some (bool false, rest)
  | '"' :: rest => (readString rest).map fun (literal, after) => (string literal, after)
  | '-' :: rest => (readMagnitude true rest).map fun (literal, after) => (number literal, after)
  | rest => (readMagnitude false rest).map fun (literal, after) => (number literal, after)

theorem length_readString {cs : List Char} {pieces : StringLiteral} {after : List Char}
    (h : readString cs = some (pieces, after)) : after.length < cs.length := by
  fun_induction readString cs generalizing pieces after with
  | case1 rest => simp_all
  | case2 a b c d rest _ _ _ _ _ _ h₀ _ _ _ _ ih =>
    simp only [Option.some.injEq, Prod.mk.injEq] at h
    obtain ⟨rfl, rfl⟩ := h
    have := ih h₀
    simp only [List.length_cons]; omega
  | case3 => simp at h
  | case4 c rest _ _ _ _ h₀ _ ih =>
    simp only [Option.some.injEq, Prod.mk.injEq] at h
    obtain ⟨rfl, rfl⟩ := h
    have := ih h₀
    simp only [List.length_cons]; omega
  | case5 => simp at h
  | case6 => simp at h
  | case7 c rest _ _ _ _ ih =>
    simp only [Option.map_eq_some_iff, Prod.mk.injEq, Prod.exists] at h
    obtain ⟨p, a, h₀, rfl, rfl⟩ := h
    have := ih h₀
    simp only [List.length_cons]; omega
  | case8 => simp at h

theorem length_readDigits {cs digits after : List Char}
    (h : readDigits cs = some (digits, after)) : after.length < cs.length := by
  cases cs with
  | nil => simp [readDigits] at h
  | cons c rest =>
    simp only [readDigits, List.takeWhile_cons, List.dropWhile_cons] at h
    by_cases hc : Text.isDigit c = true
    · simp only [hc, if_true, Option.some.injEq, Prod.mk.injEq] at h
      rw [← h.2]
      have := (List.dropWhile_sublist Text.isDigit (l := rest)).length_le
      simp only [List.length_cons]; omega
    · simp [hc] at h

theorem length_readFraction {cs after : List Char} {fraction : Option (List Char)}
    (h : readFraction cs = some (fraction, after)) : after.length ≤ cs.length := by
  unfold readFraction at h
  split at h
  · simp only [Option.map_eq_some_iff, Prod.mk.injEq, Prod.exists] at h
    obtain ⟨d, a, h₀, rfl, rfl⟩ := h
    have := length_readDigits h₀
    simp only [List.length_cons]; omega
  · simp_all

theorem length_readExponent {cs after : List Char} {exponent : Option (Bool × List Char)}
    (h : readExponent cs = some (exponent, after)) : after.length ≤ cs.length := by
  unfold readExponent at h
  split at h
  · rename_i c rest
    split at h
    · simp only [Option.map_eq_some_iff, Prod.mk.injEq, Prod.exists] at h
      obtain ⟨d, a, h₀, -, rfl⟩ := h
      have := length_readDigits h₀
      split at this <;> simp_all only [List.length_cons] <;> omega
    · simp_all
  · simp_all

theorem length_readWhole {cs digits after : List Char}
    (h : readWhole cs = some (digits, after)) : after.length < cs.length := by
  unfold readWhole at h
  split at h
  · simp_all
  · exact length_readDigits h

theorem length_readMagnitude {cs after : List Char} {negative : Bool} {literal : NumberLiteral}
    (h : readMagnitude negative cs = some (literal, after)) : after.length < cs.length := by
  unfold readMagnitude at h
  split at h
  · simp at h
  · rename_i whole rest hw
    split at h
    · simp at h
    · rename_i fraction rest' hf
      split at h
      · simp at h
      · rename_i exponent rest'' he
        have := length_readWhole hw
        have := length_readFraction hf
        have := length_readExponent he
        simp only [Option.some.injEq, Prod.mk.injEq] at h
        rw [← h.2]; omega

theorem length_read {cs after : List Char} {token : Token} (h : read cs = some (token, after)) :
    after.length < cs.length := by
  unfold read at h
  split at h <;> try (simp_all <;> omega)
  · simp only [Option.map_eq_some_iff, Prod.mk.injEq, Prod.exists] at h
    obtain ⟨_, _, h₀, -, rfl⟩ := h
    have := length_readString h₀
    simp only [List.length_cons]; omega
  · simp only [Option.map_eq_some_iff, Prod.mk.injEq, Prod.exists] at h
    obtain ⟨_, _, h₀, -, rfl⟩ := h
    have := length_readMagnitude h₀
    simp only [List.length_cons]; omega
  · simp only [Option.map_eq_some_iff, Prod.mk.injEq, Prod.exists] at h
    obtain ⟨_, _, h₀, -, rfl⟩ := h
    exact length_readMagnitude h₀

/-- All tokens of a text. -/
def readAll : List Char → Option (List Token)
  | [] => some []
  | c :: rest =>
    if isSpace c then readAll rest
    else
      match _h : read (c :: rest) with
      | none => none
      | some (token, after) => (readAll after).map (token :: ·)
  termination_by cs => cs.length
  decreasing_by
    · simp
    · exact length_read (by assumption)

end Token
end BearerAuth.Json
