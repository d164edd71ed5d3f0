/-!
# Byte strings

Octet strings are lists of `UInt8`. Text enters and leaves as UTF-8, numbers as
big-endian digits in base 256, which is how key material and signatures are written.
-/
namespace BearerAuth

abbrev Bytes := List UInt8

namespace Bytes

/-- The UTF-8 encoding of a text. -/
def ofText (text : String) : Bytes := text.toUTF8.data.toList

/-- The text with this UTF-8 encoding. Overlong forms, surrogates and truncated
sequences have none. -/
def text? (bytes : Bytes) : Option String := String.fromUTF8? ⟨bytes.toArray⟩

theorem text?_ofText (text : String) : text? (ofText text) = some text := by
  have h : (⟨(ofText text).toArray⟩ : ByteArray) = text.toByteArray := by
    simp [ofText, String.toUTF8]
  rw [text?, h, String.fromUTF8?, dif_pos text.isValidUTF8]
  rfl

/-- The number written by the bytes, most significant byte first. -/
def toNat (bytes : Bytes) : Nat := bytes.foldl (fun value byte => value * 256 + byte.toNat) 0

/-- The number written by the bytes, least significant byte first. -/
def toNatLittle (bytes : Bytes) : Nat := toNat bytes.reverse

/-- The lowest `width` base-256 digits of a number, least significant first. -/
def ofNatLittle : (width : Nat) → Nat → Bytes
  | 0, _ => []
  | width + 1, value => UInt8.ofNat (value % 256) :: ofNatLittle width (value / 256)

@[simp] theorem length_ofNatLittle (width value : Nat) :
    (ofNatLittle width value).length = width := by
  induction width generalizing value with
  | zero => rfl
  | succ width ih => simp [ofNatLittle, ih]

/-- The lowest `width` base-256 digits of a number, most significant first. -/
def ofNat (width value : Nat) : Bytes := (ofNatLittle width value).reverse

/-- Bitwise exclusive or of two strings, as long as the shorter one. -/
def xor (left right : Bytes) : Bytes := List.zipWith (· ^^^ ·) left right

/-- Two lower-case hexadecimal digits for each byte. -/
def hex (bytes : Bytes) : String :=
  String.ofList <| bytes.flatMap fun byte =>
    [Nat.digitChar (byte.toNat / 16), Nat.digitChar (byte.toNat % 16)]

end Bytes
end BearerAuth
