import BearerAuth.Number.Power

/-!
# Decimal numerals of sixty-four bits

A numeral is an optional plus sign and at least one ASCII digit. What is wrong with
a text that is no such numeral is told apart, in the order in which the rules are checked.
-/
namespace BearerAuth.Text

/-- Why a text is no numeral. -/
inductive NumeralError
  | empty
  | invalidDigit
  | tooLarge
  deriving Repr, DecidableEq

namespace NumeralError

def message : NumeralError → String
  | empty => "cannot parse integer from empty string"
  | invalidDigit => "invalid digit found in string"
  | tooLarge => "number too large to fit in target type"

end NumeralError

def isDigit (c : Char) : Bool := '0' ≤ c && c ≤ '9'

def digitValue (c : Char) : Nat := c.toNat - '0'.toNat

/-- The number written by a list of decimal digits. -/
def decimalValue (digits : List Char) : Nat :=
  digits.foldl (fun value c => value * 10 + digitValue c) 0

/-- The value of a hexadecimal digit. -/
def hexValue? (c : Char) : Option Nat :=
  if '0' ≤ c ∧ c ≤ '9' then some (c.toNat - 48)
  else if 'a' ≤ c ∧ c ≤ 'f' then some (c.toNat - 87)
  else if 'A' ≤ c ∧ c ≤ 'F' then some (c.toNat - 55)
  else none

/-- The number that digits write in a base of at most sixteen; no digits write zero. -/
def readIn? (base : Nat) (digits : List Char) : Option Nat :=
  digits.foldlM (fun value c =>
    (hexValue? c).bind fun digit =>
      if digit < base then some (value * base + digit) else none) 0

/-- The digits are read from the left, so that a number that has grown too large is
reported before any later character is looked at. -/
def readDigits : List Char → Nat → Except NumeralError Nat
  | [], value => .ok value
  | c :: rest, value =>
    if isDigit c then
      if value * 10 + digitValue c < 2 ^ 64 then readDigits rest (value * 10 + digitValue c)
      else .error .tooLarge
    else .error .invalidDigit

/-- Read a numeral below `2 ^ 64`. -/
def readNumeral (text : List Char) : Except NumeralError Nat :=
  match text with
  | [] => .error .empty
  | ['+'] => .error .invalidDigit
  | '+' :: digits => readDigits digits 0
  | digits => readDigits digits 0

end BearerAuth.Text
