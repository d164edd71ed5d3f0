import BearerAuth.Number.Binary64

/-!
# Shortest decimals

The decimal with the fewest digits that reads back as a given double, and of those the
nearest. Numbers that round to the double form an interval around it, whose ends belong to
it when the significand is even; for each count of digits the two neighbours of the value
on that decimal grid are tried.
-/
namespace BearerAuth.Binary64

/-- The value and the ends of its rounding interval, in units of `2 ^ (exponent - 2)`. Below
a power of two the spacing halves. -/
structure Interval where
  low : Nat
  value : Nat
  high : Nat
  closed : Bool

def interval (x : Binary64) : Interval :=
  let m := x.significand
  { low := if m = 2 ^ 52 ∧ -1074 < x.exponent then 4 * m - 1 else 4 * m - 2
    value := 4 * m
    high := 4 * m + 2
    closed := m % 2 = 0 }

/-- More places than the smallest double has zeros after the point. -/
def leadingPlaces : Nat := 330

/-- How many digits stand before the point; negative for zeros after it. -/
def wholeDigits (x : Binary64) : Int :=
  let scaled := x.significand * 2 ^ x.exponent.toNat * 10 ^ leadingPlaces / 2 ^ (-x.exponent).toNat
  ((Nat.toDigits 10 scaled).length : Int) - leadingPlaces

/-- The decimals `digits * 10 ^ power` next to the value, nearer first, that lie in the
interval. -/
def neighbour? (x : Binary64) (count : Nat) : Option (Nat × Int) :=
  let power := x.wholeDigits - count
  let e := x.exponent - 2
  -- one unit of the grid and one unit of the interval over a common scale
  let grid := 10 ^ power.toNat * 2 ^ (-e).toNat
  let unit := 10 ^ (-power).toNat * 2 ^ e.toNat
  let around := x.interval
  let value := around.value * unit
  let lower := value / grid
  let inside (digits : Nat) : Bool :=
    if around.closed then around.low * unit ≤ digits * grid ∧ digits * grid ≤ around.high * unit
    else around.low * unit < digits * grid ∧ digits * grid < around.high * unit
  let below := value - lower * grid
  let above := (lower + 1) * grid - value
  let lowerFirst := below < above ∨ (below = above ∧ lower % 2 = 0)
  let candidates := if lowerFirst then [lower, lower + 1] else [lower + 1, lower]
  (candidates.find? inside).map fun digits => (digits, power)

/-- Digits and power of ten of the shortest decimal of a double that is not zero. -/
def shortest (x : Binary64) : Nat × Int :=
  ((List.range 17).findSome? fun fewer => x.neighbour? (fewer + 1)).getD (0, 0)

end BearerAuth.Binary64
