import BoxOffice.Text.Decimal
import BoxOffice.Time.Instant

set_option autoImplicit false

namespace BoxOffice

/-- A day of the Gregorian calendar; year 0 is the year before year 1. -/
structure Date where
  year : Int
  month : Nat
  day : Nat
deriving DecidableEq

namespace Date

/-- The day that lies `days` days after the first of January 1970.

Years are counted from March, so that the leap day is the last of its year, and in eras of
400 years, which are all alike. -/
def ofEpochDay (days : Int) : Date :=
  let fromEra := days + 719468
  let era := fromEra / 146097
  let dayOfEra := (fromEra % 146097).toNat
  let yearOfEra :=
    (dayOfEra - dayOfEra / 1460 + dayOfEra / 36524 - dayOfEra / 146096) / 365
  let dayOfYear := dayOfEra - (365 * yearOfEra + yearOfEra / 4 - yearOfEra / 100)
  let marchMonth := (5 * dayOfYear + 2) / 153
  let day := dayOfYear - (153 * marchMonth + 2) / 5 + 1
  let month := if marchMonth < 10 then marchMonth + 3 else marchMonth - 9
  let year := era * 400 + yearOfEra + (if month ≤ 2 then 1 else 0)
  ⟨year, month, day⟩

def yearText (year : Int) : String :=
  if 0 ≤ year ∧ year ≤ 9999 then Decimal.padded 4 year.toNat
  else if year < 0 then "-" ++ Decimal.padded 4 (-year).toNat
  else "+" ++ Decimal.padded 4 year.toNat

def text (d : Date) : String :=
  yearText d.year ++ "-" ++ Decimal.padded 2 d.month ++ "-" ++ Decimal.padded 2 d.day

example : (ofEpochDay 0).text = "1970-01-01" := by cbv
example : (ofEpochDay 19782).text = "2024-02-29" := by cbv
example : (ofEpochDay (-719529)).text = "-0001-12-31" := by cbv

end Date

namespace Instant

def fractionText (nanos : Nat) : String :=
  if nanos = 0 then ""
  else if nanos % 1000000 = 0 then "." ++ Decimal.padded 3 (nanos / 1000000)
  else if nanos % 1000 = 0 then "." ++ Decimal.padded 6 (nanos / 1000)
  else "." ++ Decimal.padded 9 nanos

/-- A leap second is written as the second 60 of its minute. -/
def text (t : Instant) : String :=
  let ofDay := t.ofDay.toNat
  (Date.ofEpochDay (t.seconds / 86400)).text ++ "T" ++ Decimal.padded 2 (ofDay / 3600) ++ ":"
    ++ Decimal.padded 2 (ofDay / 60 % 60) ++ ":"
    ++ Decimal.padded 2 (ofDay % 60 + if t.leap then 1 else 0)
    ++ fractionText (t.nanos % 1000000000).toNat ++ "Z"

end Instant

end BoxOffice
