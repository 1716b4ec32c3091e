/-!
# Instants and dates

An instant is a number of milliseconds since 1970-01-01T00:00:00Z.  Dates are those of the Gregorian calendar, carried
on in both directions.
-/
namespace TokenCache

/-- Milliseconds since the epoch. -/
abbrev Instant := Int

namespace Calendar

def millisPerDay : Int := 86400000

/-- A day of the calendar. -/
structure Day where
  year : Int
  month : Nat
  day : Nat
  deriving DecidableEq

/-- **The calendar day `n` days after the epoch.**  Years are taken to start in March, so that a leap day is the last of
its year, and 400 of them have 146097 days. -/
def dayOf (n : Int) : Day :=
  let shifted := n + 719468
  let era := shifted.fdiv 146097
  let dayOfEra := (shifted.fmod 146097).toNat
  let yearOfEra := (dayOfEra - dayOfEra / 1460 + dayOfEra / 36524 - dayOfEra / 146096) / 365
  let dayOfYear := dayOfEra - (365 * yearOfEra + yearOfEra / 4 - yearOfEra / 100)
  let monthFromMarch := (5 * dayOfYear + 2) / 153
  let month := if monthFromMarch < 10 then monthFromMarch + 3 else monthFromMarch - 9
  ⟨era * 400 + yearOfEra + (if month ≤ 2 then 1 else 0), month, dayOfYear - (153 * monthFromMarch + 2) / 5 + 1⟩

/-- The first instant of the year -262143. -/
def earliest : Instant := -8334601228800000

/-- The last millisecond of the year 262142. -/
def latest : Instant := 8210266876799999

/-- Whether an instant has a date. -/
def representable (t : Instant) : Bool :=
  earliest ≤ t && t ≤ latest

/-! ## Text -/

/-- A number with at least `width` digits. -/
def padded (width n : Nat) : String :=
  String.ofList (List.replicate (width - n.repr.length) '0') ++ n.repr

/-- Four digits; a sign as well for a year below 0 or above 9999. -/
def yearText (year : Int) : String :=
  if 0 ≤ year && year ≤ 9999 then padded 4 year.natAbs
  else (if year < 0 then "-" else "+") ++ padded 4 year.natAbs

/-- Date and time of day in UTC up to the seconds. -/
def secondsText (t : Instant) : String :=
  let d := dayOf (t.fdiv millisPerDay)
  let seconds := (t.fmod millisPerDay).toNat / 1000
  s!"{yearText d.year}-{padded 2 d.month}-{padded 2 d.day}T" ++
    s!"{padded 2 (seconds / 3600)}:{padded 2 (seconds / 60 % 60)}:{padded 2 (seconds % 60)}"

/-- **Date and time in UTC**, with milliseconds. -/
def dateText (t : Instant) : String :=
  secondsText t ++ "." ++ padded 3 (t.fmod 1000).toNat ++ "Z"

/-- Date and time in UTC, with microseconds. -/
def stampText (t : Instant) : String :=
  secondsText t ++ "." ++ padded 6 ((t.fmod 1000).toNat * 1000) ++ "Z"

end Calendar
end TokenCache
