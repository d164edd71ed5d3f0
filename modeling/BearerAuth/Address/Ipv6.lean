import BearerAuth.Address.Ipv4

/-!
# Addresses of one hundred and twenty-eight bits

An address is eight pieces of sixteen bits in hexadecimal, between colons. Two colons in a row
stand for one or more pieces that are zero, and the last two pieces may be written as four
octets between dots. An address is written with the two colons for its longest run of zeros,
the first one of several, if that run has two pieces or more.
-/
namespace BearerAuth.Address

open Text

structure Ipv6 where
  pieces : List UInt16
  length_pieces : pieces.length = 8
  deriving Repr

namespace Ipv6

/-- One to four hexadecimal digits. -/
def readPiece? (digits : List Char) : Option Nat :=
  if digits.isEmpty || 4 < digits.length then none else readIn? 16 digits

/-- A decimal number below 256 without needless zeros. -/
def readOctet? (digits : List Char) : Option Nat :=
  if digits.isEmpty || (digits.head? = some '0' && 1 < digits.length) then none
  else (readIn? 10 digits).filter (· < 256)

/-- Two pieces as four octets. -/
def readOctets? (text : List Char) : Option (List Nat) :=
  match (Text.pieces (· = '.') text).mapM readOctet? with
  | some [a, b, c, d] => some [a * 256 + b, c * 256 + d]
  | _ => none

/-- Pieces between colons; no text has none. Only the end of an address may have octets. -/
def readPieces? (atEnd : Bool) (text : List Char) : Option (List Nat) :=
  if text.isEmpty then some []
  else
    let parts := Text.pieces (· = ':') text
    match parts.getLast? with
    | some last =>
      if atEnd && last.contains '.' then
        match parts.dropLast.mapM readPiece?, readOctets? last with
        | some front, some back => some (front ++ back)
        | _, _ => none
      else parts.mapM readPiece?
    | none => none

/-- What stands before and after the first two colons in a row. -/
def splitAtGap : List Char → Option (List Char × List Char)
  | ':' :: ':' :: rest => some ([], rest)
  | c :: rest => (splitAtGap rest).map fun (before, after) => (c :: before, after)
  | [] => none

def ofNumbers? (numbers : List Nat) : Option Ipv6 :=
  if h : numbers.length = 8 then some ⟨numbers.map UInt16.ofNat, by simp [h]⟩ else none

def read? (text : List Char) : Option Ipv6 :=
  match splitAtGap text with
  | none => (readPieces? true text).bind ofNumbers?
  | some (before, after) =>
    match readPieces? false before, readPieces? true after with
    | some front, some back =>
      if front.length + back.length < 8 then
        ofNumbers? (front ++ List.replicate (8 - front.length - back.length) 0 ++ back)
      else none
    | _, _ => none

/-- How many zeros a list begins with. -/
def leadingZeros (pieces : List UInt16) : Nat := (pieces.takeWhile (· = 0)).length

/-- The longest run of zeros, as its place and length; the first one of several. -/
def longestZeros (pieces : List UInt16) : Nat × Nat :=
  (List.range pieces.length).foldl (fun best place =>
    let run := leadingZeros (pieces.drop place)
    if best.2 < run then (place, run) else best) (0, 0)

def pieceText (piece : UInt16) : List Char := Nat.toDigits 16 piece.toNat

def text (address : Ipv6) : String :=
  let written := fun pieces => joined ':' (List.map pieceText pieces)
  let (place, run) := longestZeros address.pieces
  String.ofList <|
    if run < 2 then written address.pieces
    else written (address.pieces.take place) ++ [':', ':'] ++
      written (address.pieces.drop (place + run))

end Ipv6
end BearerAuth.Address
