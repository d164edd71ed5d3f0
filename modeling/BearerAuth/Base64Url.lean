import BearerAuth.Bytes

/-!
# Base64url without padding

Three bytes become four digits of the URL-safe alphabet. A last group of one or two bytes
becomes two or three digits whose unused bits are zero; decoding insists on that, so each
byte string has one written form.
-/
namespace BearerAuth.Base64Url

/-- The digit for a value below sixty-four. -/
def digit (n : Nat) : Char :=
  if n < 26 then Char.ofNat (65 + n)
  else if n < 52 then Char.ofNat (97 + (n - 26))
  else if n < 62 then Char.ofNat (48 + (n - 52))
  else if n = 62 then '-'
  else '_'

/-- The value of a digit. -/
def value? (c : Char) : Option Nat :=
  if 'A' ≤ c ∧ c ≤ 'Z' then some (c.toNat - 65)
  else if 'a' ≤ c ∧ c ≤ 'z' then some (c.toNat - 97 + 26)
  else if '0' ≤ c ∧ c ≤ '9' then some (c.toNat - 48 + 52)
  else if c = '-' then some 62
  else if c = '_' then some 63
  else none

theorem value?_digit : ∀ n < 64, value? (digit n) = some n := by decide

def encodeDigits : Bytes → List Char
  | a :: b :: c :: rest =>
    let (a, b, c) := (a.toNat, b.toNat, c.toNat)
    digit (a / 4) :: digit (a % 4 * 16 + b / 16) :: digit (b % 16 * 4 + c / 64) ::
      digit (c % 64) :: encodeDigits rest
  | [a, b] =>
    let (a, b) := (a.toNat, b.toNat)
    [digit (a / 4), digit (a % 4 * 16 + b / 16), digit (b % 16 * 4)]
  | [a] => [digit (a.toNat / 4), digit (a.toNat % 4 * 16)]
  | [] => []

/-- The bytes that two, three or four digit values carry. -/
def byteHigh (p q : Nat) : UInt8 := UInt8.ofNat (p * 4 + q / 16)

def byteMiddle (q r : Nat) : UInt8 := UInt8.ofNat (q % 16 * 16 + r / 4)

def byteLow (r s : Nat) : UInt8 := UInt8.ofNat (r % 4 * 64 + s)

def decodeDigits : List Char → Option Bytes
  | p :: q :: r :: s :: rest =>
    match value? p, value? q, value? r, value? s, decodeDigits rest with
    | some p, some q, some r, some s, some bytes =>
      some (byteHigh p q :: byteMiddle q r :: byteLow r s :: bytes)
    | _, _, _, _, _ => none
  | [p, q, r] =>
    match value? p, value? q, value? r with
    | some p, some q, some r =>
      if r % 4 = 0 then some [byteHigh p q, byteMiddle q r] else none
    | _, _, _ => none
  | [p, q] =>
    match value? p, value? q with
    | some p, some q => if q % 16 = 0 then some [byteHigh p q] else none
    | _, _ => none
  | [_] => none
  | [] => some []

def encode (bytes : Bytes) : String := String.ofList (encodeDigits bytes)

def decode? (text : String) : Option Bytes := decodeDigits text.toList

private theorem ofNat_eq_of_toNat {n : Nat} {a : UInt8} (h : n = a.toNat) : UInt8.ofNat n = a := by
  rw [h, UInt8.ofNat_toNat]

theorem decodeDigits_encodeDigits (bytes : Bytes) :
    decodeDigits (encodeDigits bytes) = some bytes := by
  fun_induction encodeDigits bytes with
  | case1 a b c rest a' b' c' h ih =>
    obtain ⟨rfl, rfl, rfl⟩ : a.toNat = a' ∧ b.toNat = b' ∧ c.toNat = c' := by simp_all
    have := a.toNat_lt; have := b.toNat_lt; have := c.toNat_lt
    simp only [decodeDigits]
    rw [value?_digit _ (by omega), value?_digit _ (by omega), value?_digit _ (by omega),
      value?_digit _ (by omega), ih]
    simp only [byteHigh, byteMiddle, byteLow]
    rw [ofNat_eq_of_toNat (a := a) (by omega), ofNat_eq_of_toNat (a := b) (by omega),
      ofNat_eq_of_toNat (a := c) (by omega)]
  | case2 a b a' b' h =>
    obtain ⟨rfl, rfl⟩ : a.toNat = a' ∧ b.toNat = b' := by simp_all
    have := a.toNat_lt; have := b.toNat_lt
    simp only [decodeDigits]
    rw [value?_digit _ (by omega), value?_digit _ (by omega), value?_digit _ (by omega)]
    simp only [byteHigh, byteMiddle]
    rw [ofNat_eq_of_toNat (a := a) (by omega), ofNat_eq_of_toNat (a := b) (by omega),
      if_pos (by omega)]
  | case3 a =>
    have := a.toNat_lt
    simp only [decodeDigits]
    rw [value?_digit _ (by omega), value?_digit _ (by omega)]
    simp only [byteHigh]
    rw [ofNat_eq_of_toNat (a := a) (by omega), if_pos (by omega)]
  | case4 => rfl

theorem decode?_encode (bytes : Bytes) : decode? (encode bytes) = some bytes := by
  simp [decode?, encode, decodeDigits_encodeDigits]

end BearerAuth.Base64Url
