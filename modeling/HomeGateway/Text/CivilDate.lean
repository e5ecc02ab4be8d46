import HomeGateway.Text.Hex

/-! Seconds since 1970 as a UTC date in the proleptic Gregorian calendar. -/

namespace HomeGateway.CivilDate

def decimal (width n : Nat) : String :=
  let text := toString n
  String.ofList (List.replicate (width - text.length) '0') ++ text

structure Date where
  year : Nat
  month : Nat
  day : Nat

/-- The date that lies `days` days after 1970-01-01. Years are counted from March, so
that the leap day ends them; an era is 400 years, or 146097 days. -/
def ofDays (days : Nat) : Date :=
  let z := days + 719468
  let era := z / 146097
  let dayOfEra := z % 146097
  let yearOfEra := (dayOfEra - dayOfEra / 1460 + dayOfEra / 36524 - dayOfEra / 146096) / 365
  let dayOfYear := dayOfEra - (365 * yearOfEra + yearOfEra / 4 - yearOfEra / 100)
  let shifted := (5 * dayOfYear + 2) / 153
  let month := if shifted < 10 then shifted + 3 else shifted - 9
  { year := yearOfEra + 400 * era + (if month ≤ 2 then 1 else 0)
    month := month
    day := dayOfYear - (153 * shifted + 2) / 5 + 1 }

/-- `1970-01-02T00:00:00+00:00` -/
def rfc3339 (seconds : Nat) : String :=
  let date := ofDays (seconds / 86400)
  let time := seconds % 86400
  decimal 4 date.year ++ "-" ++ decimal 2 date.month ++ "-" ++ decimal 2 date.day ++ "T" ++
    decimal 2 (time / 3600) ++ ":" ++ decimal 2 (time / 60 % 60) ++ ":" ++ decimal 2 (time % 60) ++
    "+00:00"

end HomeGateway.CivilDate
