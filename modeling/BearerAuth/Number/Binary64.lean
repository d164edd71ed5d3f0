import BearerAuth.Number.Power

/-!
# Finite binary64 numbers

A finite double is a sign, a significand below `2 ^ 53` and a power of two. Every one is a
whole multiple of `2 ^ (-1074)`, and that multiple, `units`, is its exact value: all
arithmetic is done on exact values and rounded once, to the nearest double and to the even
significand when two are equally near.
-/
namespace BearerAuth

/-- The significand is normalised unless the exponent is the least one. -/
def Binary64.Canonical (significand : Nat) (exponent : Int) : Prop :=
  significand < 2 ^ 53 ∧ -1074 ≤ exponent ∧ exponent ≤ 971 ∧
    (2 ^ 52 ≤ significand ∨ exponent = -1074)

instance (significand : Nat) (exponent : Int) :
    Decidable (Binary64.Canonical significand exponent) :=
  inferInstanceAs (Decidable (_ ∧ _))

structure Binary64 where
  negative : Bool
  significand : Nat
  exponent : Int
  canonical : Binary64.Canonical significand exponent
  deriving DecidableEq, Repr

namespace Binary64

/-- How many units make one. -/
def unitsPerOne : Nat := 2 ^ 1074

/-- The value in units of `2 ^ (-1074)`. -/
def units (x : Binary64) : Int :=
  let magnitude : Nat := x.significand * 2 ^ (x.exponent + 1074).toNat
  if x.negative then -magnitude else magnitude

/-- The greatest `k` with `2 ^ k ≤ num / den`, for positive numbers. -/
def floorLog (num den : Nat) : Int :=
  let k : Int := num.log2 - den.log2
  if num * 2 ^ (-k).toNat < den * 2 ^ k.toNat then k - 1 else k

/-- The integer nearest to `num / den`; a half goes to the even neighbour. -/
def nearestEven (num den : Nat) : Nat :=
  let quotient := num / den
  let twice := 2 * (num % den)
  if den < twice ∨ (twice = den ∧ quotient % 2 = 1) then quotient + 1 else quotient

/-- A double with this magnitude, unless it lies beyond the greatest one. Rounding up to
`2 ^ 53` moves to the next exponent. -/
def ofParts? (negative : Bool) (significand : Nat) (exponent : Int) : Option Binary64 :=
  let (m, e) := if significand = 2 ^ 53 then (2 ^ 52, exponent + 1) else (significand, exponent)
  if h : Canonical m e then some ⟨negative, m, e, h⟩ else none

/-- The double nearest to `num / den`, or nothing if that overflows. -/
def ofRatio? (negative : Bool) (num den : Nat) : Option Binary64 :=
  if num = 0 then ofParts? negative 0 (-1074)
  else
    let e := max (floorLog num den - 52) (-1074)
    ofParts? negative (nearestEven (num * 2 ^ (-e).toNat) (den * 2 ^ e.toNat)) e

/-- The double nearest to an exact value. Zero comes out without a sign. -/
def ofUnits? (value : Int) : Option Binary64 :=
  ofRatio? (value < 0) value.natAbs unitsPerOne

/-- The double nearest to an integer. -/
def ofInt? (value : Int) : Option Binary64 := ofRatio? (value < 0) value.natAbs 1

/-- The double nearest to a product. -/
def mul? (x y : Binary64) : Option Binary64 :=
  let product := x.units * y.units
  ofRatio? (product < 0) product.natAbs (unitsPerOne * unitsPerOne)

/-- The double nearest to a quotient. The divisor must not be zero. -/
def div? (x y : Binary64) : Option Binary64 :=
  ofRatio? ((x.units < 0) != (y.units < 0)) x.units.natAbs y.units.natAbs

/-- The greatest integer that is not above the value. -/
def floor (x : Binary64) : Int := x.units / unitsPerOne

/-- The integer nearest to the value; a half goes away from zero. -/
def nearestInt (x : Binary64) : Int :=
  let magnitude := (2 * x.units.natAbs + unitsPerOne) / (2 * unitsPerOne)
  if x.negative then -magnitude else magnitude

/-- The interchange format: sign bit, biased exponent, significand without its leading bit. -/
def bits (x : Binary64) : Nat :=
  let sign := if x.negative then 2 ^ 63 else 0
  if 2 ^ 52 ≤ x.significand then
    sign + (x.exponent + 1075).toNat * 2 ^ 52 + (x.significand - 2 ^ 52)
  else sign + x.significand

end Binary64
end BearerAuth
