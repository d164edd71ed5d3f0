import BearerAuth.Time.Calendar
import BearerAuth.Time.Span

/-!
# Instants

Moments of Unix time to the nanosecond, within the years -262143 to 262142. Adding a span
may leave that range, and then there is no sum.
-/
namespace BearerAuth

/-- The first second of year -262143 and the last of year 262142. -/
def firstSecond : Int := -8334601228800

def lastSecond : Int := 8210266876799

/-- A moment in a second of Unix time. Moments within a leap second, which a calendar counts by
nanoseconds from `10 ^ 9` on, are left out: no clock and no expiry here gives one. -/
@[ext]
structure Instant where
  seconds : Int
  nanos : Nat
  nanos_lt : nanos < nanosPerSecond
  first_le : firstSecond ≤ seconds
  le_last : seconds ≤ lastSecond
  deriving Repr

namespace Instant

instance : DecidableEq Instant := fun a b =>
  decidable_of_iff (a.seconds = b.seconds ∧ a.nanos = b.nanos)
    ⟨fun h => Instant.ext h.1 h.2, fun h => h ▸ ⟨rfl, rfl⟩⟩

def of? (seconds : Int) (nanos : Nat) : Option Instant :=
  if h : nanos < nanosPerSecond ∧ firstSecond ≤ seconds ∧ seconds ≤ lastSecond then
    some ⟨seconds, nanos, h.1, h.2.1, h.2.2⟩
  else none

/-- Nanoseconds since the beginning of 1970. -/
def toNanos (t : Instant) : Int := t.seconds * nanosPerSecond + t.nanos

/-- The moment a span later, if there is one. -/
def add? (t : Instant) (span : Span) : Option Instant :=
  let nanos := t.nanos + span.nanos
  of? (t.seconds + span.seconds + (nanos / nanosPerSecond : Nat)) (nanos % nanosPerSecond)

/-- Not after. -/
def le (a b : Instant) : Bool :=
  a.seconds < b.seconds ∨ (a.seconds = b.seconds ∧ a.nanos ≤ b.nanos)

theorem le_iff_toNanos {a b : Instant} : a.le b = true ↔ a.toNanos ≤ b.toNanos := by
  have := a.nanos_lt
  have := b.nanos_lt
  simp only [le, toNanos, nanosPerSecond, decide_eq_true_eq] at *
  omega

/-- A number with at least `width` digits. -/
def padded (width n : Nat) : String :=
  let digits := Nat.toDigits 10 n
  String.ofList (List.replicate (width - digits.length) '0' ++ digits)

/-- Four digits, and a sign for years that they cannot write. -/
def showYear (year : Int) : String :=
  if 0 ≤ year ∧ year ≤ 9999 then padded 4 year.toNat
  else (if year < 0 then "-" else "+") ++ padded 4 year.natAbs

/-- Three, six or nine decimals, the fewest that lose nothing; none for a whole second. -/
def showFraction (nanos : Nat) : String :=
  if nanos = 0 then ""
  else if nanos % 1000000 = 0 then "." ++ padded 3 (nanos / 1000000)
  else if nanos % 1000 = 0 then "." ++ padded 6 (nanos / 1000)
  else "." ++ padded 9 nanos

/-- Date and time of day, with `between` them. -/
def showParts (t : Instant) (between : String) : String :=
  let date := Date.ofDays (t.seconds / 86400)
  let time := (t.seconds % 86400).toNat
  showYear date.year ++ "-" ++ padded 2 date.month ++ "-" ++ padded 2 date.day ++ between ++
    padded 2 (time / 3600) ++ ":" ++ padded 2 (time / 60 % 60) ++ ":" ++ padded 2 (time % 60) ++
    showFraction t.nanos

def display (t : Instant) : String := t.showParts " " ++ " UTC"

/-- The form with a `T` before the time and a `Z` after it. -/
def displayCompact (t : Instant) : String := t.showParts "T" ++ "Z"

end Instant
end BearerAuth
