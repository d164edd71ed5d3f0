import BearerAuth.Text.Numeral
import BearerAuth.Text.Pieces

/-!
# Addresses of thirty-two bits

An address is written as four decimal octets between dots. What is read may have fewer
numbers, of which the last fills all octets that are left, and each number may be decimal,
octal or hexadecimal.
-/
namespace BearerAuth.Address

open Text

structure Ipv4 where
  value : UInt32
  deriving DecidableEq, Repr

namespace Ipv4

def octets (address : Ipv4) : List Nat :=
  let value := address.value.toNat
  [value / 16777216, value / 65536 % 256, value / 256 % 256, value % 256]

def text (address : Ipv4) : String :=
  String.ofList (joined '.' (address.octets.map (Nat.toDigits 10)))

/-- A number is hexadecimal after `0x`, octal after another zero, and decimal otherwise. The
mark alone is zero. -/
def readNumber? (digits : List Char) : Option Nat :=
  match digits with
  | [] => none
  | '0' :: 'x' :: rest | '0' :: 'X' :: rest => readIn? 16 rest
  | '0' :: second :: rest => readIn? 8 (second :: rest)
  | _ => readIn? 10 digits

/-- The address of up to four numbers: octets, and a last number for the rest. -/
def ofNumbers? (numbers : List Nat) : Option Ipv4 :=
  match numbers.getLast? with
  | none => none
  | some last =>
    let front := numbers.dropLast
    let room := 256 ^ (4 - front.length)
    if front.length < 4 ∧ (∀ number ∈ front, number < 256) ∧ last < room then
      some ⟨UInt32.ofNat (front.foldl (fun value octet => value * 256 + octet) 0 * room + last)⟩
    else none

/-- The parts between dots. One dot at the end counts for nothing. -/
def parts (text : List Char) : List (List Char) :=
  let all := pieces (· = '.') text
  if all.getLast? = some [] then all.dropLast else all

/-- A name whose last part is a number can only be an address. -/
def endsInNumber (name : List Char) : Bool :=
  match (parts name).getLast? with
  | none => false
  | some last => (!last.isEmpty && last.all isDigit) || (readNumber? last).isSome

def read? (name : List Char) : Option Ipv4 := ((parts name).mapM readNumber?).bind ofNumbers?

end Ipv4
end BearerAuth.Address
