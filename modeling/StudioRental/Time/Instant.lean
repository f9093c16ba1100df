import StudioRental.Time.Calendar

/-!
Instants on the UTC time line with nanosecond resolution, counted from 1970-01-01T00:00:00Z.

An instant is a whole second and the nanoseconds into it. Seconds are counted as if every day
had 86 400 of them; a leap second is the second that follows one of them, so it is written with
the nanoseconds running on from `10^9` to `2·10^9 - 1`. Instants compare by their second, then by
their nanoseconds, so a leap second falls after the second it follows and before the next one.

The supported range runs from the first second of year -262143 to the last second of year
262142. `Instant.render` writes RFC 3339 in UTC with a `Z`, a leap second as second `60`: the
fraction of a second is left out when it is zero and otherwise written with 3, 6 or 9 digits,
the fewest that are exact.
-/

namespace StudioRental

/-- A point on the UTC time line: `seconds` since 1970-01-01T00:00:00Z, leap seconds not counted,
and `frac` nanoseconds into that second; `frac` of `10^9` or more lies in the leap second that
follows it. -/
structure Instant where
  seconds : Int
  frac : Nat
  deriving DecidableEq, Repr, Inhabited

namespace Instant

def nanosPerMilli : Nat := 1000000
def nanosPerSecond : Nat := 1000000000
def secondsPerDay : Int := 86400

/-- Earlier than: an earlier second, or the same second and fewer nanoseconds. -/
instance : LT Instant := ⟨fun a b => a.seconds < b.seconds ∨ (a.seconds = b.seconds ∧ a.frac < b.frac)⟩

/-- No later than: an earlier second, or the same second and no more nanoseconds. -/
instance : LE Instant := ⟨fun a b => a.seconds < b.seconds ∨ (a.seconds = b.seconds ∧ a.frac ≤ b.frac)⟩

instance (a b : Instant) : Decidable (a < b) :=
  inferInstanceAs (Decidable (a.seconds < b.seconds ∨ (a.seconds = b.seconds ∧ a.frac < b.frac)))

instance (a b : Instant) : Decidable (a ≤ b) :=
  inferInstanceAs (Decidable (a.seconds < b.seconds ∨ (a.seconds = b.seconds ∧ a.frac ≤ b.frac)))

/-- The first supported second: -262143-01-01T00:00:00Z. -/
def earliest : Int := Date.toDays ⟨Date.minYear, 1, 1⟩ * secondsPerDay

/-- The last supported second: +262142-12-31T23:59:59Z. -/
def latest : Int := (Date.toDays ⟨Date.maxYear, 12, 31⟩ + 1) * secondsPerDay - 1

/-- Whether the instant lies in the supported range. -/
def inRange (t : Instant) : Bool :=
  decide (earliest ≤ t.seconds) && decide (t.seconds ≤ latest)

/-- Milliseconds since the epoch: the second's milliseconds and the whole milliseconds of the
fraction, a leap second counting as the second after the one it follows. -/
def millis (t : Instant) : Int := t.seconds * 1000 + ((t.frac / nanosPerMilli : Nat) : Int)

/-- Microseconds since the epoch, counted as `millis` counts milliseconds. -/
def micros (t : Instant) : Int := t.seconds * 1000000 + ((t.frac / 1000 : Nat) : Int)

/-- The instant a whole number of nanoseconds after the epoch. -/
def ofNanos (n : Int) : Instant := ⟨n.fdiv nanosPerSecond, (n.fmod nanosPerSecond).toNat⟩

/-- Nanoseconds since the epoch, a leap second counting as the second after the one it follows. -/
def toNanos (t : Instant) : Int := t.seconds * nanosPerSecond + t.frac

/-- The instant `n` nanoseconds later, read on the plain count of nanoseconds. -/
def addNanos (t : Instant) (n : Int) : Instant := ofNanos (t.toNanos + n)

/-- The instant at a whole number of milliseconds. -/
def ofMillis (ms : Int) : Instant := ⟨ms.fdiv 1000, (ms.fmod 1000).toNat * nanosPerMilli⟩

/-- The instant `secs` seconds and `frac` nanoseconds into the day `date`, read on a clock
that runs `offsetSecs` seconds ahead of UTC. -/
def ofLocal (date : Date) (secs : Int) (frac : Nat) (offsetSecs : Int) : Instant :=
  ⟨date.toDays * secondsPerDay + secs - offsetSecs, frac⟩

/-- The calendar date, seconds into the day and nanoseconds into the second, on a clock
`offsetSecs` seconds ahead of UTC. -/
def toLocal (t : Instant) (offsetSecs : Int := 0) : Date × Nat × Nat :=
  let s := t.seconds + offsetSecs
  let days := s.fdiv secondsPerDay
  (Date.ofDays days, (s - days * secondsPerDay).toNat, t.frac)

/-- The time from `b` to `a` in nanoseconds. Whole days count 86 400 seconds; within the day,
a leap second on the way from the earlier clock time to the later one adds its second. -/
def since (a b : Instant) : Int :=
  let da := a.seconds.fdiv secondsPerDay
  let db := b.seconds.fdiv secondsPerDay
  let sa := a.seconds - da * secondsPerDay
  let sb := b.seconds - db * secondsPerDay
  let secs :=
    if sa > sb && b.frac ≥ nanosPerSecond then sa - sb + 1
    else if sa < sb && a.frac ≥ nanosPerSecond then sa - sb - 1
    else sa - sb
  ((da - db) * secondsPerDay + secs) * nanosPerSecond + ((a.frac : Int) - b.frac)

/-- Whole milliseconds from `b` to `a`, rounded toward zero. -/
def millisSince (a b : Instant) : Int := (a.since b).tdiv nanosPerMilli

/-- `n` in decimal, padded with zeros on the left to `width` digits. -/
def padNat (width n : Nat) : String :=
  let ds := Nat.toDigits 10 n
  String.ofList (List.replicate (width - ds.length) '0' ++ ds)

/-- A year as four digits when it lies in 0..9999, otherwise with its sign and at least four
digits. -/
def renderYear (y : Int) : String :=
  if 0 ≤ y && y ≤ 9999 then padNat 4 y.toNat
  else (if y < 0 then "-" else "+") ++ padNat 4 y.natAbs

/-- The fraction of a second: nothing for zero, else 3, 6 or 9 digits, the fewest exact. -/
def renderFraction (nanos : Nat) : String :=
  if nanos = 0 then ""
  else if nanos % 1000000 = 0 then "." ++ padNat 3 (nanos / 1000000)
  else if nanos % 1000 = 0 then "." ++ padNat 6 (nanos / 1000)
  else "." ++ padNat 9 nanos

/-- A calendar date as `YYYY-MM-DD`, the year written as `renderYear` says. -/
def renderDate (d : Date) : String :=
  renderYear d.year ++ "-" ++ padNat 2 d.month ++ "-" ++ padNat 2 d.day

/-- RFC 3339 text of the instant in UTC, ending in `Z`; a leap second is second `60`. -/
def render (t : Instant) : String :=
  let (d, secs, frac) := t.toLocal
  let (second, frac) := if frac ≥ nanosPerSecond then (secs % 60 + 1, frac - nanosPerSecond)
    else (secs % 60, frac)
  renderDate d ++ "T" ++
    padNat 2 (secs / 3600) ++ ":" ++ padNat 2 (secs / 60 % 60) ++ ":" ++ padNat 2 second ++
    renderFraction frac ++ "Z"

end Instant

end StudioRental
