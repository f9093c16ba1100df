/-!
The proleptic Gregorian calendar: dates, their day numbers counted from 1970-01-01, and
weekdays.

`Date.toDays` and `Date.ofDays` convert through eras of 400 years (146097 days), in which
the calendar repeats exactly; the year is taken to start on 1 March so that the leap day is the
last day of a year.
-/

namespace StudioRental

/-- The days of the week, Monday first. -/
inductive Weekday where
  | monday | tuesday | wednesday | thursday | friday | saturday | sunday
  deriving DecidableEq, Repr, Inhabited

/-- A calendar date; `month` is 1 to 12 and `day` 1 to the month's length when valid. -/
structure Date where
  year : Int
  month : Nat
  day : Nat
  deriving DecidableEq, Repr, Inhabited

namespace Date

/-- Leap years: divisible by 4, except centuries not divisible by 400. -/
def isLeap (y : Int) : Bool :=
  (y % 4 == 0 && y % 100 != 0) || y % 400 == 0

/-- The length of a month of a year; 0 for a month out of range. -/
def monthLength (y : Int) (m : Nat) : Nat :=
  match m with
  | 1 | 3 | 5 | 7 | 8 | 10 | 12 => 31
  | 4 | 6 | 9 | 11 => 30
  | 2 => if isLeap y then 29 else 28
  | _ => 0

/-- The earliest and latest years a date may have. -/
def minYear : Int := -262143
def maxYear : Int := 262142

/-- Whether the parts name a day of the calendar within the supported years. -/
def isValid (d : Date) : Bool :=
  minYear ≤ d.year && d.year ≤ maxYear && 1 ≤ d.month && d.month ≤ 12 &&
    1 ≤ d.day && d.day ≤ monthLength d.year d.month

/-- Days from 1970-01-01 to the date (negative before it). -/
def toDays (d : Date) : Int :=
  let y : Int := if d.month ≤ 2 then d.year - 1 else d.year
  let era := y.fdiv 400
  let yoe := y - era * 400
  let m : Int := d.month
  let mp : Int := if m > 2 then m - 3 else m + 9
  let doy := (153 * mp + 2) / 5 + (d.day : Int) - 1
  let doe := yoe * 365 + yoe / 4 - yoe / 100 + doy
  era * 146097 + doe - 719468

/-- The date `n` days after 1970-01-01. -/
def ofDays (n : Int) : Date :=
  let z := n + 719468
  let era := z.fdiv 146097
  let doe := z - era * 146097
  let yoe := (doe - doe / 1460 + doe / 36524 - doe / 146096) / 365
  let y := yoe + era * 400
  let doy := doe - (365 * yoe + yoe / 4 - yoe / 100)
  let mp := (5 * doy + 2) / 153
  let d := doy - (153 * mp + 2) / 5 + 1
  let m := if mp < 10 then mp + 3 else mp - 9
  ⟨if m ≤ 2 then y + 1 else y, m.toNat, d.toNat⟩

/-- The weekday of a day number; 1970-01-01 was a Thursday. -/
def weekdayOfDays (n : Int) : Weekday :=
  match (n + 3) % 7 with
  | 0 => .monday
  | 1 => .tuesday
  | 2 => .wednesday
  | 3 => .thursday
  | 4 => .friday
  | 5 => .saturday
  | _ => .sunday

/-- The weekday of a date. -/
def weekday (d : Date) : Weekday := weekdayOfDays d.toDays

end Date

end StudioRental
