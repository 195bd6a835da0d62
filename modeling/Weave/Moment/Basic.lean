import Weave.Text.Bytes

/-!
# Moments

A moment is a number of nanoseconds since the beginning of the year 1970, or a day of the
calendar with a time of the day. Days are counted from the same beginning; for that a
year begins in March, so that a leap day is its last one.
-/
namespace Weave

structure Moment where
  year : Int
  month : Nat
  day : Nat
  hour : Nat := 0
  minute : Nat := 0
  second : Nat := 0
  nano : Nat := 0
deriving Repr, DecidableEq

namespace Moment

def isLeap (year : Int) : Bool :=
  year % 4 = 0 && (year % 100 != 0 || year % 400 = 0)

def daysInMonth (year : Int) (month : Nat) : Nat :=
  if month = 2 then (if isLeap year then 29 else 28)
  else if month = 4 || month = 6 || month = 9 || month = 11 then 30
  else 31

/-- The days from the beginning to a day, whose month and day may go beyond their
bounds. -/
def dayNumber (year month day : Int) : Int :=
  let year := year + (month - 1) / 12
  let month := (month - 1) % 12 + 1
  let y := if month ≤ 2 then year - 1 else year
  let m := if month ≤ 2 then month + 9 else month - 3
  y * 365 + y / 4 - y / 100 + y / 400 + (m * 153 + 2) / 5 + day - 719469

/-- The year, month and day of a day by its number. -/
def dayOfNumber (n : Int) : Int × Nat × Nat :=
  let n := n + 719468
  let era := n / 146097
  let inEra := n % 146097
  let y := (inEra - inEra / 1460 + inEra / 36524 - inEra / 146096) / 365
  let inYear := inEra - (365 * y + y / 4 - y / 100)
  let m := (5 * inYear + 2) / 153
  let month := if m < 10 then m + 3 else m - 9
  let year := era * 400 + y
  (if month ≤ 2 then year + 1 else year, month.toNat, (inYear - (153 * m + 2) / 5 + 1).toNat)

/-- How many nanoseconds a second has. -/
def perSecond : Int := 1000000000

/-- The time of a moment in nanoseconds, where all parts but the year may go beyond their
bounds. -/
def timeOf (year month day hour minute second nano : Int) : Int :=
  (dayNumber year month day * 86400 + hour * 3600 + minute * 60 + second) * perSecond + nano

def time (m : Moment) : Int :=
  timeOf m.year m.month m.day m.hour m.minute m.second m.nano

def ofTime (t : Int) : Moment :=
  let seconds := t / perSecond
  let inDay := (seconds % 86400).toNat
  let (year, month, day) := dayOfNumber (seconds / 86400)
  { year, month, day
    hour := inDay / 3600, minute := inDay / 60 % 60, second := inDay % 60
    nano := (t % perSecond).toNat }

/-- The number of its day. -/
def number (m : Moment) : Int := dayNumber m.year m.month m.day

/-- The day of the week, of which Sunday is the first. -/
def weekday (m : Moment) : Nat := ((m.number + 4) % 7).toNat

/-- The days of its year that have begun before it. -/
def dayOfYear (m : Moment) : Nat := (m.number - dayNumber m.year 1 1).toNat

/-- The year and the number of the week, where a week begins with Monday and belongs to
the year in which its Thursday lies. -/
def week (m : Moment) : Int × Nat :=
  let thursday := m.number - ((m.weekday : Int) + 6) % 7 + 3
  let year := (dayOfNumber thursday).1
  (year, ((thursday - dayNumber year 1 1) / 7 + 1).toNat)

def monthNames : List String :=
  ["January", "February", "March", "April", "May", "June", "July", "August", "September",
   "October", "November", "December"]

def dayNames : List String :=
  ["Sunday", "Monday", "Tuesday", "Wednesday", "Thursday", "Friday", "Saturday"]

example : [dayNumber 1970 1 1, dayNumber 2000 3 1, dayNumber 1969 12 31] = [0, 11017, -1] := by
  decide

example : [dayOfNumber 0, dayOfNumber 11016, dayOfNumber (-1)] =
    [(1970, 1, 1), (2000, 2, 29), (1969, 12, 31)] := by decide

example : (ofTime 1577934245000000000).week = (2020, 1) := by decide

end Moment

end Weave
