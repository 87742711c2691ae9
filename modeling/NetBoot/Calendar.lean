/-
# Dates and times of day

A moment of the proleptic Gregorian calendar from the year 1 to the year 9999,
counted in microseconds since the start of the first day, at a place whose distance
from universal time may be known.  Adding seconds fails when the sum leaves the
calendar, and the ISO text shows microseconds only when there are any.

Dates alone know no such limits: days are counted in both directions.
-/
import NetBoot.Bytes

namespace NetBoot

/-- A moment, as microseconds since the start of the year 1. -/
structure Moment where
  micros : Nat
  /-- How many microseconds the place is ahead of universal time, if that is known. -/
  ahead : Option Int := none
  deriving DecidableEq, Repr, Inhabited

namespace Moment

/-- Leap years are those divisible by four, except centuries not divisible by 400. -/
def isLeap (year : Nat) : Bool :=
  year % 4 == 0 && (year % 100 != 0 || year % 400 == 0)

/-- The number of days before a year. -/
def daysBeforeYear (year : Nat) : Nat :=
  let past := year - 1
  past * 365 + past / 4 - past / 100 + past / 400

/-- The number of days in a month, `1` being January. -/
def daysInMonth (year month : Nat) : Nat :=
  if month = 2 then (if isLeap year then 29 else 28)
  else if month = 4 ∨ month = 6 ∨ month = 9 ∨ month = 11 then 30
  else 31

/-- The number of days in a year before a month. -/
def daysBeforeMonth (year month : Nat) : Nat :=
  (List.range (month - 1)).foldl (fun total earlier => total + daysInMonth year (earlier + 1)) 0

/-- The last year of the calendar. -/
def lastYear : Nat := 9999

/-- The number of microseconds in a day. -/
def microsPerDay : Nat := 86400 * 1000000

/-- The first count of microseconds that is past the calendar. -/
def limit : Nat := daysBeforeYear (lastYear + 1) * microsPerDay

/-- The day of a date, counted from the start of the year 1, if there is such a date. -/
def dayOfDate? (year month day : Nat) : Option Nat :=
  if 1 ≤ year ∧ year ≤ lastYear ∧ 1 ≤ month ∧ month ≤ 12 ∧ 1 ≤ day ∧
      day ≤ daysInMonth year month then
    some (daysBeforeYear year + daysBeforeMonth year month + (day - 1))
  else none

/-- Some seconds later, unless that is past the calendar. -/
def addSeconds? (moment : Moment) (seconds : Nat) : Option Moment :=
  let later := moment.micros + seconds * 1000000
  if later < limit then some { moment with micros := later } else none

/-- The year and the day in it of a day counted from the start of the year 1.  The
estimate is never too early, and at most one year late. -/
def yearOfDays (days : Nat) : Nat × Nat :=
  let estimate := days * 400 / 146097 + 1
  let year :=
    if daysBeforeYear (estimate + 1) ≤ days then estimate + 1
    else if daysBeforeYear estimate ≤ days then estimate
    else estimate - 1
  (year, days - daysBeforeYear year)

/-- The month and the day in it of a day of a year, both counted from one. -/
def monthOfDay (year day : Nat) : Nat × Nat :=
  let month := ((List.range 12).map (· + 1)).filter fun month => daysBeforeMonth year month ≤ day
  let found := month.getLast?.getD 1
  (found, day - daysBeforeMonth year found + 1)

/-- The number of days in four centuries, after which the calendar repeats itself. -/
def daysPerCycle : Nat := 146097

/-- The year, the month and the day in it of a day counted from the start of the
year 1.  The years before are zero and negative. -/
def dateOfDay (day : Int) : Int × Nat × Nat :=
  let (year, dayOfYear) := yearOfDays (day.fmod daysPerCycle).toNat
  let (month, dayOfMonth) := monthOfDay year dayOfYear
  (400 * day.fdiv daysPerCycle + year, month, dayOfMonth)

/-- A number with leading zeros up to a width. -/
def padded (width value : Nat) : String :=
  let digits := toString value
  String.ofList (List.replicate (width - digits.length) '0') ++ digits

/-- A date such as `2025-01-02`, with as many digits of the year as it needs but at
least `width`. -/
def dateText (width : Nat) (day : Int) : String :=
  let (year, month, dayOfMonth) := dateOfDay day
  (if year < 0 then "-" else "") ++ padded width year.natAbs ++ "-" ++ padded 2 month ++ "-" ++
    padded 2 dayOfMonth

/-- A time of day to the second, such as `03:04:05`. -/
def clockText (seconds : Nat) : String :=
  padded 2 (seconds / 3600) ++ ":" ++ padded 2 (seconds / 60 % 60) ++ ":" ++
    padded 2 (seconds % 60)

/-- Microseconds behind a time, unless they are zero. -/
def fractionText (micros : Nat) : String :=
  if micros = 0 then "" else "." ++ padded 6 micros

/-- A distance from universal time such as `+02:00`; seconds are shown only if there
are any. -/
def aheadText (ahead : Int) : String :=
  let seconds := ahead.natAbs / 1000000
  let micros := ahead.natAbs % 1000000
  (if ahead < 0 then "-" else "+") ++ padded 2 (seconds / 3600) ++ ":" ++
    padded 2 (seconds / 60 % 60) ++
    (if seconds % 60 = 0 ∧ micros = 0 then ""
      else ":" ++ padded 2 (seconds % 60) ++ fractionText micros)

/-- ISO text. -/
def toIso (moment : Moment) : String :=
  dateText 4 (moment.micros / microsPerDay : Nat) ++ "T" ++
    clockText (moment.micros / 1000000 % 86400) ++ fractionText (moment.micros % 1000000) ++
    (moment.ahead.map aheadText).getD ""

/-- The day on which 1970 starts. -/
def unixDay : Nat := daysBeforeYear 1970

/-- The seconds from the start of 1970 to a moment. -/
def unixSeconds (moment : Moment) : Int :=
  (moment.micros / 1000000 : Nat) - (unixDay * 86400 : Nat)

/-- The moment a number of seconds after the start of 1970, if it is in the calendar. -/
def ofUnixSeconds? (seconds : Int) : Option Moment :=
  let micros := (seconds + (unixDay * 86400 : Nat)) * 1000000
  if 0 ≤ micros ∧ micros < limit then some { micros := micros.toNat } else none

end Moment
end NetBoot
