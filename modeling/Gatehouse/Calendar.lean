/-!
# `Gatehouse.Calendar` — dates and spans of time as text

Points in time are seconds since the start of the year 1970.

## Contents
- `Calendar.dateOfDay`: the date of a day.
- `Calendar.text`: a date with the time of day.
- `Calendar.span`: a span of time in days, hours, minutes and seconds.
-/

namespace Gatehouse.Calendar

/-- The date of a day, counted from the start of 1970, as year, month and day. Years are counted from March
    within eras of 400 years, so that the leap day comes last. -/
def dateOfDay (day : Int) : Int × Nat × Nat :=
  let shifted := day + 719468
  let era := shifted.fdiv 146097
  let dayOfEra := (shifted.fmod 146097).toNat
  let yearOfEra := (dayOfEra - dayOfEra / 1460 + dayOfEra / 36524 - dayOfEra / 146096) / 365
  let dayOfYear := dayOfEra - (365 * yearOfEra + yearOfEra / 4 - yearOfEra / 100)
  let monthFromMarch := (5 * dayOfYear + 2) / 153
  let dayOfMonth := dayOfYear - (153 * monthFromMarch + 2) / 5 + 1
  let month := if monthFromMarch < 10 then monthFromMarch + 3 else monthFromMarch - 9
  let year := (yearOfEra : Int) + era * 400 + (if month ≤ 2 then 1 else 0)
  (year, month, dayOfMonth)

/-- A number with at least the given count of digits. -/
def padded (width n : Nat) : String :=
  let digits := toString n
  String.ofList (List.replicate (width - digits.length) '0') ++ digits

/-- The text of a year. Years that do not have four digits have a sign. -/
def yearText (year : Int) : String :=
  if year < 0 then "-" ++ padded 4 year.natAbs
  else if 9999 < year then "+" ++ padded 4 year.natAbs
  else padded 4 year.natAbs

/-- A date with the time of day. -/
def text (seconds : Int) : String :=
  let (year, month, day) := dateOfDay (seconds.fdiv 86400)
  let second := (seconds.fmod 86400).toNat
  yearText year ++ "-" ++ padded 2 month ++ "-" ++ padded 2 day ++ " " ++ padded 2 (second / 3600) ++ ":"
    ++ padded 2 (second % 3600 / 60) ++ ":" ++ padded 2 (second % 60) ++ " UTC"

example : text 0 = "1970-01-01 00:00:00 UTC" := by decide +kernel
example : text 1709210096 = "2024-02-29 12:34:56 UTC" := by decide +kernel

/-- A span of time without the leading units that are zero. -/
def span (seconds : Nat) : String :=
  let days := seconds / 86400
  let hours := seconds % 86400 / 3600
  let minutes := seconds % 3600 / 60
  let parts :=
    (if days > 0 then [toString days ++ "d"] else [])
      ++ (if days > 0 ∨ hours > 0 then [toString hours ++ "h"] else [])
      ++ (if days > 0 ∨ hours > 0 ∨ minutes > 0 then [toString minutes ++ "m"] else [])
      ++ [toString (seconds % 60) ++ "s"]
  String.intercalate " " parts

example : span 0 = "0s" := by decide +kernel
example : span 3600 = "1h 0m 0s" := by decide +kernel
example : span 90061 = "1d 1h 1m 1s" := by decide +kernel

end Gatehouse.Calendar
