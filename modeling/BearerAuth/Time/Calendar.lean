/-!
# Proleptic Gregorian calendar

Days are counted from 1970-01-01. Years are counted from March within eras of four hundred
years, so that a leap day is the last day of its year.
-/
namespace BearerAuth

structure Date where
  year : Int
  month : Nat
  day : Nat
  deriving DecidableEq, Repr

namespace Date

/-- Days in four hundred years, in a century without its leap day, and in four years. -/
def daysPerEra : Nat := 146097

def daysPerCentury : Nat := 36524

def daysPerFourYears : Nat := 1461

/-- Days from 0000-03-01 to 1970-01-01. -/
def epochOffset : Int := 719468

/-- The date that lies `days` days after 1970-01-01. -/
def ofDays (days : Int) : Date :=
  let shifted := days + epochOffset
  let era := shifted / daysPerEra
  let dayOfEra := (shifted % daysPerEra).toNat
  let yearOfEra := (dayOfEra - dayOfEra / (daysPerFourYears - 1) + dayOfEra / daysPerCentury
    - dayOfEra / (daysPerEra - 1)) / 365
  let dayOfYear := dayOfEra - (365 * yearOfEra + yearOfEra / 4 - yearOfEra / 100)
  let monthFromMarch := (5 * dayOfYear + 2) / 153
  let day := dayOfYear - (153 * monthFromMarch + 2) / 5 + 1
  let month := if monthFromMarch < 10 then monthFromMarch + 3 else monthFromMarch - 9
  let year := yearOfEra + era * 400 + (if month ≤ 2 then 1 else 0)
  ⟨year, month, day⟩

end Date
end BearerAuth
