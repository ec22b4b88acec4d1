import ScadaBridge.Number.Layout

/-!
# Dates of instants

The date and time of day, in UTC, of a number of microseconds since the beginning of 1970, in the
proleptic Gregorian calendar. Years after 9999 are written with a plus. Instants beyond the year
262142 have no date.
-/

namespace ScadaBridge.Calendar

/-- A day of the Gregorian calendar. -/
structure Date where
  year : Nat
  /-- The month, from 1. -/
  month : Nat
  /-- The day of the month, from 1. -/
  day : Nat
deriving DecidableEq, Repr

/-- The date that lies `days` days after the first of January 1970. Years are counted from March within
cycles of 400 years, so that the leap day comes last. -/
def dateOfDays (days : Nat) : Date :=
  let shifted := days + 719468
  let cycle := shifted / 146097
  let dayOfCycle := shifted % 146097
  let yearOfCycle :=
    (dayOfCycle - dayOfCycle / 1460 + dayOfCycle / 36524 - dayOfCycle / 146096) / 365
  let dayOfYear := dayOfCycle - (365 * yearOfCycle + yearOfCycle / 4 - yearOfCycle / 100)
  let monthFromMarch := (5 * dayOfYear + 2) / 153
  let month := if monthFromMarch < 10 then monthFromMarch + 3 else monthFromMarch - 9
  { year := yearOfCycle + cycle * 400 + (if month ≤ 2 then 1 else 0)
    month := month
    day := dayOfYear - (153 * monthFromMarch + 2) / 5 + 1 }

/-- A number with zeros in front, at least `width` digits long. -/
def padded (width n : Nat) : List Char :=
  let digits := DecimalLayout.natText n
  List.replicate (width - digits.length) '0' ++ digits

def yearText (year : Nat) : List Char :=
  if year ≤ 9999 then padded 4 year else '+' :: padded 4 year

/-- The last year that has dates. -/
def lastYear : Nat := 262142

/-- The date and time of an instant as a text, without fractions of a second; empty if it has none. -/
def text (micros : UInt64) : String :=
  let seconds := micros.toNat / 1000000
  let date := dateOfDays (seconds / 86400)
  let second := seconds % 86400
  if UInt64.size / 2 ≤ micros.toNat ∨ lastYear < date.year then ""
  else
    String.ofList <| yearText date.year ++ '-' :: padded 2 date.month ++ '-' :: padded 2 date.day ++
      ' ' :: padded 2 (second / 3600) ++ ':' :: padded 2 (second / 60 % 60) ++
      ':' :: padded 2 (second % 60)

example : text 0 = "1970-01-01 00:00:00" := by decide +kernel
example : text 951827696789012 = "2000-02-29 12:34:56" := by decide +kernel
example : text 253402300800000000 = "+10000-01-01 00:00:00" := by decide +kernel
example : text (8210266876799 * 1000000) = "+262142-12-31 23:59:59" := by decide +kernel
example : text (8210266876800 * 1000000) = "" := by decide +kernel

end ScadaBridge.Calendar
