import BearerAuth.Bytes
import BearerAuth.Json.Value
import BearerAuth.Json.Written

/-!
# Reading JSON

From what is written to what it means: escapes become characters, numerals become integers
or doubles, members are sorted by key and a later one replaces an earlier one of its name.
A document nested too deeply, a lone surrogate and a number that overflows mean nothing.
-/
namespace BearerAuth

namespace Binary64

/-- The greatest power of ten below the overflow. -/
def greatestPower : Nat := 308

/-- The double nearest to a power of ten. -/
def powerOfTen? (power : Nat) : Option Binary64 := ofRatio? false (10 ^ power) 1

def timesPower? (x : Binary64) (power : Nat) : Option Binary64 :=
  if power ≤ greatestPower then (powerOfTen? power).bind x.mul?
  else if x.significand = 0 then some x
  else none

/-- Divide by a power of ten, by the greatest one first if that is not enough. Two divisions by
the greatest one leave nothing of a word. -/
def overPower? (x : Binary64) (power : Nat) : Option Binary64 :=
  if power ≤ greatestPower then (powerOfTen? power).bind x.div?
  else if power ≤ 2 * greatestPower then do
    let reduced ← (powerOfTen? greatestPower).bind x.div?
    (powerOfTen? (power - greatestPower)).bind reduced.div?
  else ofInt? 0

/-- The double for `word * 10 ^ power`. The word and the power of ten are each rounded before they
are multiplied or divided, and the result is rounded once more. For words up to `2 ^ 53` and powers
from `-22` to `22` both are exact, and it is the nearest double; otherwise it may lie a few doubles
beside that, or overflow where the nearest double does not. -/
def ofDecimal? (negative : Bool) (word : Nat) (power : Int) : Option Binary64 := do
  let x ← ofInt? word
  let magnitude ← if 0 ≤ power then x.timesPower? power.toNat else x.overPower? (-power).toNat
  return { magnitude with negative }

/-- Since `10 ^ 23` is no double, three times as much is not read as the nearest one. -/
example : ofDecimal? false 3 23 ≠ ofRatio? false (3 * 10 ^ 23) 1 := by
  decide +kernel

end Binary64

namespace Json

namespace NumberLiteral

/-- The power of ten that the digits are multiplied by. -/
def power (literal : NumberLiteral) : Int :=
  let written : Int := match literal.exponent with
    | none => 0
    | some (negative, digits) =>
      if negative then -Text.decimalValue digits else Text.decimalValue digits
  written - (literal.fraction.getD []).length

/-- Digits are taken into a word as long as it holds them. Those that are left over are counted. -/
def takeDigits (word : Nat) : List Char → Nat × Nat
  | [] => (word, 0)
  | c :: rest =>
    if word * 10 + Text.digitValue c < 2 ^ 64 then takeDigits (word * 10 + Text.digitValue c) rest
    else (word, rest.length + 1)

/-- The digits after the point are tried anew after one before it has been left over. -/
def toDouble? (literal : NumberLiteral) : Option Number :=
  let (whole, left) := takeDigits 0 literal.whole
  let (word, dropped) := takeDigits whole (literal.fraction.getD [])
  (Binary64.ofDecimal? literal.negative word (literal.power + left + dropped)).map .double

/-- A numeral without point and power is an integer if a word holds it. The integer zero
has no sign, so minus zero is a double. -/
def number? (literal : NumberLiteral) : Option Number :=
  match literal.fraction, literal.exponent with
  | none, none =>
    let magnitude : Int := Text.decimalValue literal.whole
    let value := if literal.negative then -magnitude else magnitude
    if literal.negative ∧ magnitude = 0 then literal.toDouble?
    else if h : FitsWord value then some (.integer value h)
    else literal.toDouble?
  | _, _ => literal.toDouble?

end NumberLiteral

namespace StringLiteral

/-- The characters of a string. Two units that form a surrogate pair are one character. -/
def chars? : StringLiteral → Option (List Char)
  | [] => some []
  | .char c :: rest => (chars? rest).map (c :: ·)
  | .unit high :: .unit low :: rest =>
    if 0xD800 ≤ high ∧ high < 0xDC00 then
      if 0xDC00 ≤ low ∧ low < 0xE000 then
        (chars? rest).map (Char.ofNat (0x10000 + (high - 0xD800) * 0x400 + (low - 0xDC00)) :: ·)
      else none
    else if 0xDC00 ≤ high ∧ high < 0xE000 then none
    else (chars? (.unit low :: rest)).map (Char.ofNat high :: ·)
  | .unit code :: rest =>
    if 0xD800 ≤ code ∧ code < 0xE000 then none
    else (chars? rest).map (Char.ofNat code :: ·)

def text? (literal : StringLiteral) : Option String := (chars? literal).map String.ofList

end StringLiteral

/-- The deepest nesting of arrays and objects that is read. -/
def maxDepth : Nat := 127

namespace Written

mutual
/-- What a tree means, whatever its depth. -/
def meaning? : Written → Option Value
  | null => some .null
  | bool value => some (.bool value)
  | number literal => literal.number?.map .number
  | string literal => (StringLiteral.text? literal).map .string
  | array items => (meanings? items).map .array
  | object members => (memberMeanings? members).map fun pairs => .object (Members.ofPairs pairs)

def meanings? : List Written → Option (List Value)
  | [] => some []
  | item :: rest =>
    match item.meaning?, meanings? rest with
    | some value, some values => some (value :: values)
    | _, _ => none

def memberMeanings? : List (StringLiteral × Written) → Option (List (String × Value))
  | [] => some []
  | (key, item) :: rest =>
    match StringLiteral.text? key, item.meaning?, memberMeanings? rest with
    | some name, some value, some pairs => some ((name, value) :: pairs)
    | _, _, _ => none
end

end Written

namespace Value

/-- Read a document. -/
def read? (text : String) : Option Value :=
  (Written.read? text).bind fun tree => if tree.depth ≤ maxDepth then tree.meaning? else none

/-- Read a document from its UTF-8 encoding. -/
def ofBytes? (bytes : Bytes) : Option Value := (Bytes.text? bytes).bind read?

end Value
end Json
end BearerAuth
