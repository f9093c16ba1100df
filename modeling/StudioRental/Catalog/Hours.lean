import StudioRental.Time.Text
import StudioRental.Schedule.Span
import StudioRental.Json.Decode
import StudioRental.Number.Power

/-!
Weekly working hours of a room, in the studio's wall-clock time.

A schedule gives opening hours for some weekdays (a missing day is closed) and the studio's
offset from UTC in minutes. An offset whose seconds fall outside ±86399 is treated as UTC.

* `windowOn` gives a date's opening hours and their span in UTC milliseconds, or `none` when the
  room is closed or the instants fall outside the supported range; the span is empty when the
  room closes no later than it opens.
* `localHhmm` writes an instant as the studio's wall-clock `HH:MM`, or the empty text for a
  millisecond count outside the supported range.
-/

namespace StudioRental

open scoped CorePow

/-- Opening and closing time of one day. -/
structure OpeningHours where
  opens : TimeOfDay
  closes : TimeOfDay
  deriving DecidableEq, Repr, Inhabited

/-- Opening hours per weekday and the studio's offset from UTC. -/
structure WeeklyHours where
  monday : Option OpeningHours := none
  tuesday : Option OpeningHours := none
  wednesday : Option OpeningHours := none
  thursday : Option OpeningHours := none
  friday : Option OpeningHours := none
  saturday : Option OpeningHours := none
  sunday : Option OpeningHours := none
  offsetMinutes : Int := 0
  deriving DecidableEq, Repr, Inhabited

namespace WeeklyHours

/-- The hours of a weekday. -/
def hoursOn (w : WeeklyHours) : Weekday → Option OpeningHours
  | .monday => w.monday
  | .tuesday => w.tuesday
  | .wednesday => w.wednesday
  | .thursday => w.thursday
  | .friday => w.friday
  | .saturday => w.saturday
  | .sunday => w.sunday

/-- Multiply within 32-bit signed integers, stopping at the bounds. -/
def saturatingMul32 (a b : Int) : Int :=
  max (-(2 ^ (31 : Nat))) (min (2 ^ (31 : Nat) - 1) (a * b))

/-- The offset in seconds: the minutes times sixty, or zero when that is a day or more. -/
def offsetSeconds (w : WeeklyHours) : Int :=
  let s := saturatingMul32 w.offsetMinutes 60
  if -86400 < s && s < 86400 then s else 0

/-- The opening hours of `date` and their span in UTC milliseconds. -/
def windowOn (w : WeeklyHours) (date : Date) : Option (OpeningHours × Span) := do
  let hours ← w.hoursOn date.weekday
  let off := w.offsetSeconds
  let opens := Instant.ofLocal date hours.opens.seconds 0 off
  let closes := Instant.ofLocal date hours.closes.seconds 0 off
  if opens.inRange && closes.inRange then some (hours, ⟨opens.millis, closes.millis⟩) else none

/-- The studio's wall-clock `HH:MM` at `ms` milliseconds since the epoch. -/
def localHhmm (w : WeeklyHours) (ms : Int) : String :=
  let t := Instant.ofMillis ms
  if !t.inRange then ""
  else
    let (_, secs, _) := t.toLocal w.offsetSeconds
    TimeOfDay.render ⟨secs / 3600, secs / 60 % 60⟩

end WeeklyHours

namespace OpeningHours

/-- Read a time of day written `HH:MM`. -/
def readTime (j : Json) : Except String TimeOfDay := do
  let s ← Json.readString j
  match TimeOfDay.parse? s with
  | some t => .ok t
  | none => .error "input contains invalid characters"

/-- Read `{open, close}`. -/
def ofJson (j : Json) : Except String OpeningHours := do
  let r ← RecordFields.ofJson ["open", "close"] j
  return ⟨← r.req "open" readTime, ← r.req "close" readTime⟩

/-- `{open, close}` as `HH:MM` texts. -/
def toJson (h : OpeningHours) : Json :=
  Json.obj [("open", .string h.opens.render), ("close", .string h.closes.render)]

end OpeningHours

namespace WeeklyHours

/-- The field names, in their written order. -/
def fieldNames : List String :=
  ["monday", "tuesday", "wednesday", "thursday", "friday", "saturday", "sunday",
    "utc_offset_minutes"]

/-- Read a schedule: every day defaults to closed and the offset to zero. -/
def ofJson (j : Json) : Except String WeeklyHours := do
  let r ← RecordFields.ofJson fieldNames j
  let day (n : String) := r.withDefault n none (Json.readOption OpeningHours.ofJson)
  return {
    monday := ← day "monday", tuesday := ← day "tuesday", wednesday := ← day "wednesday",
    thursday := ← day "thursday", friday := ← day "friday", saturday := ← day "saturday",
    sunday := ← day "sunday",
    offsetMinutes := ← r.withDefault "utc_offset_minutes" 0
      (Json.readIntIn (-(2 ^ (31 : Nat))) (2 ^ (31 : Nat) - 1)) }

/-- All seven days (`null` when closed) and the offset. -/
def toJson (w : WeeklyHours) : Json :=
  let day (h : Option OpeningHours) : Json := match h with
    | some h => h.toJson
    | none => .null
  Json.obj [("monday", day w.monday), ("tuesday", day w.tuesday),
    ("wednesday", day w.wednesday), ("thursday", day w.thursday), ("friday", day w.friday),
    ("saturday", day w.saturday), ("sunday", day w.sunday),
    ("utc_offset_minutes", Json.ofInt w.offsetMinutes)]

end WeeklyHours

end StudioRental
