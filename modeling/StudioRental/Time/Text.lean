import StudioRental.Time.Instant
import StudioRental.Text.Blank
import StudioRental.Number.Power

/-!
Reading dates, instants and times of day from text.

The readers share one field grammar: a numeric field may be preceded by blanks and has between
one digit and its width of digits (two for month, day, hour, minute and second); a year has up to
four digits, or any number after an explicit sign. A literal separator must appear as written,
and a space in the pattern skips any run of blanks.

* a date is `year-month-day`, optionally followed by blanks;
* an instant is a date, then `T`, `t` or a space, then `hour:minute:second` (second `60` being
  the leap second after second 59 of that minute), an optional
  fraction of up to nine digits (further digits are ignored), and an offset: `Z`, `z`, `UTC` in
  any case, or a sign (`+`, `-` or U+2212) with two hour digits, optional colons or blanks, and
  two minute digits below 60. Blanks may follow. The offset must lie within a day.
* a time of day is `hour:minute` with nothing after it.
-/

namespace StudioRental

open scoped CorePow

namespace TimeText

open Text

/-- Read between `lo` and `hi` ASCII digits; stops at the first other character. -/
def digits (lo hi : Nat) : List Char → Option (Nat × List Char)
  | cs =>
    let ds := (cs.take hi).takeWhile Char.isDigit
    if ds.length < lo then none
    else some (ds.foldl (fun n c => n * 10 + (c.toNat - '0'.toNat)) 0, cs.drop ds.length)

/-- A numeric field of at most `width` digits after optional blanks. -/
def field (width : Nat) (cs : List Char) : Option (Nat × List Char) :=
  digits 1 width (trimBlankStart cs)

/-- A year: up to four digits, or a sign and any number of digits. Values must fit in 32 bits. -/
def yearField (cs : List Char) : Option (Int × List Char) :=
  match trimBlankStart cs with
  | '-' :: rest =>
    match digits 1 rest.length rest with
    | some (v, r) => if v ≤ 2 ^ (31 : Nat) then some (-(v : Int), r) else none
    | none => none
  | '+' :: rest =>
    match digits 1 rest.length rest with
    | some (v, r) => if v < 2 ^ (31 : Nat) then some ((v : Int), r) else none
    | none => none
  | rest => (digits 1 4 rest).map fun (v, r) => ((v : Int), r)

/-- A literal character, after which the pattern's space skips blanks. -/
def literal (c : Char) (cs : List Char) : Option (List Char) :=
  match cs with
  | d :: rest => if d = c then some rest else none
  | [] => none

/-- `year-month-day` with blanks allowed before each separator; returns the rest. -/
def datePart (cs : List Char) : Option (Date × List Char) := do
  let (y, cs) ← yearField cs
  let cs ← literal '-' (trimBlankStart cs)
  let (m, cs) ← field 2 cs
  let cs ← literal '-' (trimBlankStart cs)
  let (d, cs) ← field 2 cs
  let date : Date := ⟨y, m, d⟩
  if date.isValid then some (date, cs) else none

/-- Read a calendar date; blanks may follow it. -/
def parseDate? (s : String) : Option Date := do
  let (d, rest) ← datePart s.toList
  if (trimBlankStart rest).isEmpty then some d else none

/-- An optional fraction of a second: a point and one to nine digits (more digits are read and
ignored); returns nanoseconds. -/
def fraction (cs : List Char) : Option (Nat × List Char) :=
  match cs with
  | '.' :: rest => do
    let ds := (rest.take 9).takeWhile Char.isDigit
    if ds.isEmpty then none
    else
      let v := ds.foldl (fun n c => n * 10 + (c.toNat - '0'.toNat)) 0
      some (v * 10 ^ (9 - ds.length), (rest.drop ds.length).dropWhile Char.isDigit)
  | _ => some (0, cs)

/-- Two ASCII digits. -/
def twoDigits (cs : List Char) : Option (Nat × List Char) :=
  match cs with
  | a :: b :: rest =>
    if a.isDigit && b.isDigit then some ((a.toNat - 48) * 10 + (b.toNat - 48), rest) else none
  | _ => none

/-- An offset from UTC in seconds: `Z`, `z`, `UTC` (any case) or a signed `hh[:]mm`. -/
def offsetPart (cs : List Char) : Option (Int × List Char) :=
  match cs with
  | 'Z' :: rest | 'z' :: rest => some (0, rest)
  | a :: b :: c :: rest =>
    if a.toLower = 'u' && b.toLower = 't' && c.toLower = 'c' then some (0, rest)
    else signed (a :: b :: c :: rest)
  | _ => signed cs
where
  signed (cs : List Char) : Option (Int × List Char) :=
    let (negative, rest) : Option Bool × List Char :=
      match cs with
      | '+' :: r => (some false, r)
      | '-' :: r => (some true, r)
      | c :: r => if c.toNat = 0x2212 then (some true, r) else (none, cs)
      | [] => (none, cs)
    match negative with
    | none => none
    | some neg => do
      let (h, r) ← twoDigits rest
      let r := r.dropWhile (fun c => c = ':' || isBlank c)
      let (m, r) ← twoDigits r
      if m ≥ 60 then none
      else
        let secs : Int := h * 3600 + m * 60
        some (if neg then -secs else secs, r)

/-- Read an instant written in RFC 3339 style with an offset, as a UTC instant. -/
def parseInstant? (s : String) : Option Instant := do
  let (date, cs) ← datePart s.toList
  let cs ← match cs with
    | c :: rest => if c = 'T' || c = 't' || c = ' ' then some rest else none
    | [] => none
  let (h, cs) ← field 2 cs
  let cs ← literal ':' (trimBlankStart cs)
  let (mi, cs) ← field 2 cs
  let cs ← literal ':' (trimBlankStart cs)
  let (sec, cs) ← field 2 cs
  let (nano, cs) ← fraction cs
  let (off, cs) ← offsetPart (trimBlankStart cs)
  if !(trimBlankStart cs).isEmpty then none
  else if h > 23 || mi > 59 || sec > 60 then none
  else if off.natAbs ≥ 86400 then none
  else
    let (sec, nano) := if sec = 60 then (59, nano + Instant.nanosPerSecond) else (sec, nano)
    let t := Instant.ofLocal date (h * 3600 + mi * 60 + sec) nano off
    if t.inRange then some t else none

end TimeText

/-- A wall-clock time of day with minute resolution. -/
structure TimeOfDay where
  hour : Nat
  minute : Nat
  deriving DecidableEq, Repr, Inhabited

namespace TimeOfDay

/-- Seconds since midnight. -/
def seconds (t : TimeOfDay) : Nat := t.hour * 3600 + t.minute * 60

/-- `HH:MM` with two digits each. -/
def render (t : TimeOfDay) : String :=
  Instant.padNat 2 t.hour ++ ":" ++ Instant.padNat 2 t.minute

/-- Read `hour:minute`: one or two digits each, blanks allowed before each number, hour below
24, minute below 60, and nothing after. -/
def parse? (s : String) : Option TimeOfDay := do
  let (h, cs) ← TimeText.field 2 s.toList
  let cs ← TimeText.literal ':' cs
  let (m, cs) ← TimeText.field 2 cs
  if !cs.isEmpty || h > 23 || m > 59 then none else some ⟨h, m⟩

end TimeOfDay

end StudioRental
