/-
# Reading ISO texts

A moment in ISO form: a date, and behind any one character a time of day, which may
end with a distance from universal time.  A date is a year with a month and a day or
with a week and perhaps a day of the week.  Its numbers are written with hyphens
between them or without; those of a time are written with colons or without.  A time
needs only hours, a fraction is cut to microseconds, and a date alone means midnight.
-/
import NetBoot.Calendar
import NetBoot.Text.Real

namespace NetBoot.Moment

/-- A number of a fixed count of ASCII digits at the start, and what follows it. -/
def takeNumber? (width : Nat) (chars : List Char) : Option (Nat × List Char) :=
  let digits := chars.take width
  if digits.length = width ∧ digits.all Text.isDigit then
    some (Text.natOfDigits digits, chars.drop width)
  else none

/-- Take a mark off, if there has to be one. -/
def takeMark? (mark : Char) (needed : Bool) (chars : List Char) : Option (List Char) :=
  if needed then (if chars.head? = some mark then some (chars.drop 1) else none) else some chars

/-- The day of the week on which a day falls, Monday being zero.  The year 1 starts
on a Monday. -/
def weekday (day : Nat) : Nat := day % 7

/-- The Monday of the first week of a year: the week with the year's first Thursday. -/
def firstMonday (year : Nat) : Int :=
  let first := daysBeforeYear year
  (first : Int) - weekday first + (if weekday first > 3 then 7 else 0)

/-- The day of a date given by a week and a day of the week, both counted from one. -/
def dayOfWeek? (year week day : Nat) : Option Nat :=
  let start := firstMonday year + 7 * (week - 1)
  let found := start + (day - 1)
  if 1 ≤ year ∧ year ≤ lastYear ∧ 1 ≤ week ∧ start < firstMonday (year + 1) ∧ 1 ≤ day ∧ day ≤ 7 ∧
      0 ≤ found ∧ found < daysBeforeYear (lastYear + 1) then some found.toNat
  else none

/-- Read a date as a day counted from the start of the year 1. -/
def day? (chars : List Char) : Option Nat := do
  let (year, rest) ← takeNumber? 4 chars
  let hyphens := rest.head? = some '-'
  let rest := if hyphens then rest.drop 1 else rest
  if rest.head? = some 'W' then
    let (week, rest) ← takeNumber? 2 (rest.drop 1)
    if rest.isEmpty then dayOfWeek? year week 1
    else
      let (day, rest) ← takeNumber? 1 (← takeMark? '-' hyphens rest)
      if rest.isEmpty then dayOfWeek? year week day else none
  else
    let (month, rest) ← takeNumber? 2 rest
    let (day, rest) ← takeNumber? 2 (← takeMark? '-' hyphens rest)
    if rest.isEmpty then dayOfDate? year month day else none

/-- How many characters the date at the start has.  A week may go without a day:
with hyphens if no digit follows the next one, and without if that leaves an even
number of digits for a time. -/
def dateWidth (chars : List Char) : Nat :=
  let digitAt := fun place => (chars[place]?.map Text.isDigit).getD false
  if chars.length = 7 then 7
  else if chars[4]? = some '-' then
    if chars[5]? = some 'W' then
      if chars[8]? = some '-' ∧ ¬digitAt 10 then 10 else 8
    else 10
  else if chars[4]? = some 'W' then
    let digits := ((chars.drop 7).takeWhile Text.isDigit).length
    if digits < 2 then 7 + digits else if digits % 2 = 1 then 7 else 8
  else 8

/-- What a time or a distance says: hours and, if they are given, minutes and
seconds, then the microseconds, and whether characters are left over behind them. -/
structure ClockReading where
  /-- Hours, minutes and seconds, as far as they are given. -/
  parts : List Nat
  /-- Microseconds. -/
  micros : Nat
  /-- Are characters left over? -/
  hasMore : Bool

namespace ClockReading

/-- The whole seconds, when a first part counts units of so many seconds. -/
def secondsFrom : (unit : Nat) → (parts : List Nat) → Nat
  | _, [] => 0
  | unit, part :: rest => part * unit + secondsFrom (unit / 60) rest

/-- The whole seconds. -/
def seconds (reading : ClockReading) : Nat := secondsFrom 3600 reading.parts

/-- The same reading behind one more part. -/
def behind (part : Nat) (reading : ClockReading) : ClockReading :=
  { reading with parts := part :: reading.parts }

/-- The time of day in microseconds, if its parts are those of a time of day. -/
def time? (reading : ClockReading) : Option Nat :=
  if reading.parts.headD 0 < 24 ∧ reading.parts.all (· < 60) then
    some (reading.seconds * 1000000 + reading.micros)
  else none

/-- The distance from universal time in microseconds.  One of less than a second is
none at all, and one of a day or more is refused; minutes and seconds may go on past
sixty. -/
def distance? (reading : ClockReading) : Option Nat :=
  let found := if reading.seconds = 0 then 0 else reading.seconds * 1000000 + reading.micros
  if reading.hasMore ∨ microsPerDay ≤ found then none else some found

end ClockReading

/-- Are these characters left over?  A NUL ends a text, whatever follows it. -/
def leavesMore (chars : List Char) : Bool := (chars.head?.map (· != '\x00')).getD false

/-- Read a fraction of a second, cut to microseconds. -/
def fraction? (chars : List Char) : Option ClockReading :=
  let digits := chars.take 6
  if digits.all Text.isDigit then
    some {
      parts := []
      micros := Text.natOfDigits digits * Nat.pow 10 (6 - digits.length)
      hasMore := leavesMore ((chars.drop 6).dropWhile Text.isDigit) }
  else none

/-- Read one part of a time, behind which at most `count` more follow, and what is
behind it.  The flag says whether there are colons.  Without them the digits behind
the seconds are their fraction.  A single character of ASCII behind a
part is left over. -/
def clockFrom? (colons : Bool) : (count : Nat) → List Char → Option ClockReading
  | count, chars => do
    let (part, rest) ← takeNumber? 2 chars
    match rest with
    | [] => some { parts := [part], micros := 0, hasMore := false }
    | [mark] =>
      if mark.toNat < 128 then some { parts := [part], micros := 0, hasMore := leavesMore rest }
      else none
    | mark :: tail =>
      if mark = '.' ∨ mark = ',' then (fraction? tail).map (·.behind part)
      else if colons && mark != ':' then none
      else
        let next := if colons then tail else rest
        match count with
        | 0 => (fraction? next).map (·.behind part)
        | count + 1 => (clockFrom? colons count next).map (·.behind part)

/-- Read a time or a distance. -/
def clock? (chars : List Char) : Option ClockReading :=
  clockFrom? (chars[2]? = some ':') 2 chars

/-- Read a distance from universal time. -/
def ahead? : List Char → Option Int
  | 'Z' :: rest => if leavesMore rest then none else some 0
  | '+' :: rest => (clock? rest).bind (·.distance?) |>.map fun micros => (micros : Int)
  | '-' :: rest => (clock? rest).bind (·.distance?) |>.map fun micros => -(micros : Int)
  | _ => none

/-- Does a distance from universal time start here? -/
def startsAhead (char : Char) : Bool := char == 'Z' || char == '+' || char == '-'

/-- Read a moment.  What is left over of the time goes unnoticed in front of a
distance. -/
def ofIso? (text : String) : Option Moment := do
  let chars := text.toList
  let width := dateWidth chars
  let day ← day? (chars.take width)
  if chars.length ≤ width then pure { micros := day * microsPerDay }
  else
    let rest := chars.drop (width + 1)
    let reading ← clock? (rest.takeWhile (!startsAhead ·))
    let time ← reading.time?
    let zone := rest.dropWhile (!startsAhead ·)
    if zone.isEmpty then
      if reading.hasMore then none
      else pure { micros := day * microsPerDay + time }
    else pure { micros := day * microsPerDay + time, ahead := some (← ahead? zone) }

end NetBoot.Moment
