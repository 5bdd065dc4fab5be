import AccessReport.Numeric.Digits
import AccessReport.Scan.Basic
/-!
# Times

A time in milliseconds since the start of 1970 is written as date and time of day in UTC, in the
proleptic Gregorian calendar without leap seconds. Years outside 0 to 9999 have a sign and at
least four digits. Times beyond the years that the calendar covers stay numbers.

**Calendar.** Years are counted from March, so that the leap day is the last day of its year, in
eras of 400 years, which all have the same number of days.
-/
namespace AccessReport

open Numeric

/-- A day of the calendar. -/
structure CivilDate where
  year : Int
  month : Nat
  day : Nat
deriving DecidableEq, Repr

namespace CivilDate

/-- The number of days in 400 years. -/
def daysPerEra : Nat := 146097

/-- The days from the first of March of year 0 to the start of 1970. -/
def epochOffset : Int := 719468

/-- The year of an era that holds a day of it; years start in March. -/
def yearOfEra (dayOfEra : Nat) : Nat :=
  (dayOfEra - dayOfEra / 1460 + dayOfEra / 36524 - dayOfEra / 146096) / 365

/-- The days of an era before one of its years. -/
def daysBefore (yearOfEra : Nat) : Nat :=
  365 * yearOfEra + yearOfEra / 4 - yearOfEra / 100

/-- The months of a year from March on before a day of it. -/
def monthsBefore (dayOfYear : Nat) : Nat := (5 * dayOfYear + 2) / 153

/-- The date of a day, counted from the start of 1970. -/
def ofDay (day : Int) : CivilDate :=
  let shifted := day + epochOffset
  let era := shifted.fdiv daysPerEra
  let dayOfEra := (shifted.fmod daysPerEra).toNat
  let year := yearOfEra dayOfEra
  let dayOfYear := dayOfEra - daysBefore year
  let months := monthsBefore dayOfYear
  let month := if months < 10 then months + 3 else months - 9
  { year := 400 * era + year + if month ≤ 2 then 1 else 0
    month
    day := dayOfYear - (153 * months + 2) / 5 + 1 }

/-- The years that the calendar covers. -/
def firstYear : Int := -262143

def lastYear : Int := 262142

/-- Four digits, with a sign outside 0 to 9999. -/
def yearText (year : Int) : List Char :=
  if 0 ≤ year ∧ year ≤ 9999 then padded 4 year.toNat
  else (if year < 0 then '-' else '+') :: padded 4 year.natAbs

def text (date : CivilDate) : List Char :=
  yearText date.year ++ '-' :: padded 2 date.month ++ '-' :: padded 2 date.day

end CivilDate

namespace Timestamp

def millisPerDay : Nat := 86400000

/-- The time of day, in milliseconds since midnight. -/
def timeText (millis : Nat) : List Char :=
  padded 2 (millis / 3600000) ++ ':' :: padded 2 (millis / 60000 % 60)
    ++ ':' :: padded 2 (millis / 1000 % 60) ++ '.' :: padded 3 (millis % 1000)

/-- Date and time of a number of milliseconds since the start of 1970. -/
def ofMillis (millis : Int) : String :=
  let date := CivilDate.ofDay (millis.fdiv millisPerDay)
  if CivilDate.firstYear ≤ date.year ∧ date.year ≤ CivilDate.lastYear then
    String.ofList (date.text ++ 'T' :: timeText (millis.fmod millisPerDay).toNat ++ ['Z'])
  else String.ofList (signed millis)

/-- The time as text; a text passes through (`normalize_timestamp`). -/
def normalize : Timestamp → String
  | .epochMillis millis => ofMillis millis
  | .text formatted => formatted

end Timestamp
end AccessReport
