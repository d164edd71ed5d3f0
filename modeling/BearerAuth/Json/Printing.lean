import BearerAuth.Json.Value
import BearerAuth.Number.Shortest

/-!
# Printing JSON

The compact form: no blanks, members in the order of their keys, integers in decimal and
doubles by their shortest decimal. Strings escape the quote, the backslash and controls.
-/
namespace BearerAuth.Json

/-- Doubles are written positionally while their point stands after at most `maxWhole`
digits or before fewer than `maxZeros` zeros, and with a power of ten otherwise. -/
structure DoubleFormat where
  maxWhole : Int
  maxZeros : Int

/-- Positional from `0.00001` to below `10 ^ 16`. -/
def doubleFormat : DoubleFormat := ⟨16, 5⟩

namespace Number

/-- A double that is not zero, from its digits without trailing zeros. -/
def printDigits (format : DoubleFormat) (digits : List Char) (power : Int) : List Char :=
  let count : Int := digits.length
  let whole := count + power
  if 0 ≤ power ∧ whole ≤ format.maxWhole then
    digits ++ List.replicate power.toNat '0' ++ ['.', '0']
  else if 0 < whole ∧ whole ≤ format.maxWhole then
    digits.take whole.toNat ++ ['.'] ++ digits.drop whole.toNat
  else if -format.maxZeros < whole ∧ whole ≤ 0 then
    ['0', '.'] ++ List.replicate (-whole).toNat '0' ++ digits
  else
    let exponent := (toString (whole - 1)).toList
    match digits with
    | [digit] => digit :: 'e' :: exponent
    | digit :: rest => digit :: '.' :: rest ++ 'e' :: exponent
    | [] => []

/-- Digits without the zeros at their end, and the power of ten that replaces them. -/
def stripZeros (digits : List Char) (power : Int) : List Char × Int :=
  let kept := (digits.reverse.dropWhile (· == '0')).reverse
  (kept, power + (digits.length - kept.length : Nat))

def printDouble (x : Binary64) : List Char :=
  let sign := if x.negative then ['-'] else []
  if x.significand = 0 then sign ++ ['0', '.', '0']
  else
    let (digits, power) := x.shortest
    let (digits, power) := stripZeros (Nat.toDigits 10 digits) power
    sign ++ printDigits doubleFormat digits power

def print : Number → List Char
  | integer value _ =>
    if value < 0 then '-' :: Nat.toDigits 10 value.natAbs else Nat.toDigits 10 value.natAbs
  | double value => printDouble value

end Number

/-- Four hexadecimal digits. -/
def hexDigits (code : Nat) : List Char :=
  [Nat.digitChar (code / 4096 % 16), Nat.digitChar (code / 256 % 16),
    Nat.digitChar (code / 16 % 16), Nat.digitChar (code % 16)]

def printChar (c : Char) : List Char :=
  match c with
  | '"' => ['\\', '"']
  | '\\' => ['\\', '\\']
  | '\x08' => ['\\', 'b']
  | '\x0c' => ['\\', 'f']
  | '\n' => ['\\', 'n']
  | '\r' => ['\\', 'r']
  | '\t' => ['\\', 't']
  | c => if c.toNat < 32 then '\\' :: 'u' :: hexDigits c.toNat else [c]

def printString (text : String) : List Char :=
  '"' :: text.toList.flatMap printChar ++ ['"']

namespace Value

mutual
def printChars : Value → List Char
  | null => ['n', 'u', 'l', 'l']
  | bool true => ['t', 'r', 'u', 'e']
  | bool false => ['f', 'a', 'l', 's', 'e']
  | number value => value.print
  | string text => printString text
  | array items => '[' :: printItems items
  | object members => '\x7b' :: printMembers members

/-- The items and the closing bracket. -/
def printItems : List Value → List Char
  | [] => [']']
  | item :: rest => item.printChars ++ printMoreItems rest

/-- What follows an item: further ones, each after a comma, and the closing bracket. -/
def printMoreItems : List Value → List Char
  | [] => [']']
  | item :: rest => ',' :: item.printChars ++ printMoreItems rest

def printMembers : List (String × Value) → List Char
  | [] => ['\x7d']
  | (key, value) :: rest => printString key ++ ':' :: value.printChars ++ printMoreMembers rest

def printMoreMembers : List (String × Value) → List Char
  | [] => ['\x7d']
  | (key, value) :: rest =>
    ',' :: printString key ++ ':' :: value.printChars ++ printMoreMembers rest
end

def print (value : Value) : String := String.ofList value.printChars

end Value
end BearerAuth.Json
