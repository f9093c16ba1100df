import StudioRental.Catalog.Hours
import Mathlib.Tactic.SplitIfs

/-!
A room's working window and the studio's wall clock agree.

The window of a date opens at the instant whose seconds are the date's day number times 86 400,
plus the opening time, less the studio's offset; it closes likewise at the closing time
(`WeeklyHours.windowOn_eq_some`, `Instant.millis_ofLocal`). The offset is the offset in minutes
times sixty when that is less than a day either way and zero otherwise, whatever the 32-bit
saturation does on the way (`WeeklyHours.offsetSeconds_eq`). So the window lasts as long as the
hours do, and is empty exactly when the room closes no later than it opens. The hours are those
of the date's own weekday, taken from the local date.

Read back on the studio's clock, each end of the window shows the time it came from: the
instant lies on a whole second, so its milliseconds read back as itself (`Instant.ofMillis_millis`),
and moving it by the offset lands on the same day at the same time of day
(`Instant.toLocal_ofLocal`), which `HH:MM` writes as the hours did
(`WeeklyHours.localHhmm_ofLocal`).
-/

namespace StudioRental

namespace TimeOfDay

/-- A time of day the `HH:MM` reader can give: an hour below 24 and a minute below 60. -/
def Valid (t : TimeOfDay) : Prop := t.hour < 24 ∧ t.minute < 60

instance (t : TimeOfDay) : Decidable t.Valid := inferInstanceAs (Decidable (_ ∧ _))

theorem seconds_lt_day {t : TimeOfDay} (h : t.Valid) : t.seconds < 86400 := by
  obtain ⟨hh, hm⟩ := h
  unfold seconds
  omega

end TimeOfDay

namespace Instant

theorem millis_ofLocal (d : Date) (secs off : Int) :
    (ofLocal d secs 0 off).millis = (d.toDays * 86400 + secs - off) * 1000 := by
  simp [ofLocal, millis, secondsPerDay]

theorem ofMillis_millis {t : Instant} (h : t.frac = 0) : ofMillis t.millis = t := by
  obtain ⟨s, f⟩ := t
  subst h
  simp [ofMillis, millis, Int.fdiv_eq_ediv_of_nonneg, Int.fmod_eq_emod_of_nonneg]

/-- On a clock `off` seconds ahead of UTC, the instant `secs` into a day reads as that day and
`secs`. -/
theorem toLocal_ofLocal (d : Date) (secs : Int) (frac : Nat) (off : Int) (h0 : 0 ≤ secs)
    (h1 : secs < 86400) :
    (ofLocal d secs frac off).toLocal off = (Date.ofDays d.toDays, secs.toNat, frac) := by
  have hdiv : (d.toDays * 86400 + secs).fdiv 86400 = d.toDays := by
    rw [Int.fdiv_eq_ediv_of_nonneg _ (by decide)]
    omega
  simp only [toLocal, ofLocal, secondsPerDay, Int.sub_add_cancel, hdiv]
  congr 2
  omega

end Instant

namespace WeeklyHours

/-- The studio's offset in seconds: the minutes times sixty when that is less than a day either
way, and zero otherwise. Saturating the product at 32 bits never changes which. -/
theorem offsetSeconds_eq (w : WeeklyHours) :
    w.offsetSeconds =
      if -86400 < w.offsetMinutes * 60 ∧ w.offsetMinutes * 60 < 86400 then w.offsetMinutes * 60
      else 0 := by
  unfold offsetSeconds saturatingMul32
  simp only [Bool.and_eq_true, decide_eq_true_eq]
  split_ifs <;> omega

/-- A window read back: the day's hours, both ends inside the supported range, and their
milliseconds. -/
theorem windowOn_eq_some {w : WeeklyHours} {d : Date} {h : OpeningHours} {span : Span}
    (hw : w.windowOn d = some (h, span)) :
    w.hoursOn d.weekday = some h ∧
      (Instant.ofLocal d h.opens.seconds 0 w.offsetSeconds).inRange ∧
      (Instant.ofLocal d h.closes.seconds 0 w.offsetSeconds).inRange ∧
      span = ⟨(Instant.ofLocal d h.opens.seconds 0 w.offsetSeconds).millis,
        (Instant.ofLocal d h.closes.seconds 0 w.offsetSeconds).millis⟩ := by
  unfold windowOn at hw
  cases hday : w.hoursOn d.weekday with
  | none => simp [hday] at hw
  | some h' =>
    simp only [hday, Option.bind_eq_bind, Option.bind_some] at hw
    split at hw
    · rename_i hr
      simp only [Option.some.injEq, Prod.mk.injEq] at hw
      obtain ⟨rfl, rfl⟩ := hw
      simp only [Bool.and_eq_true] at hr
      exact ⟨rfl, hr.1, hr.2, rfl⟩
    · cases hw

/-- At the instant a time of day begins on a date, the studio's clock reads that time. -/
theorem localHhmm_ofLocal (w : WeeklyHours) (d : Date) {t : TimeOfDay} (hv : t.Valid)
    (hr : (Instant.ofLocal d t.seconds 0 w.offsetSeconds).inRange) :
    w.localHhmm (Instant.ofLocal d t.seconds 0 w.offsetSeconds).millis = t.render := by
  have hsec := TimeOfDay.seconds_lt_day hv
  unfold localHhmm
  simp only [Instant.ofMillis_millis (t := Instant.ofLocal d t.seconds 0 w.offsetSeconds) rfl, hr,
    Bool.not_true, Bool.false_eq_true, if_false,
    Instant.toLocal_ofLocal d t.seconds 0 w.offsetSeconds (by omega) (by omega)]
  obtain ⟨hh, hm⟩ := hv
  unfold TimeOfDay.seconds
  congr 2 <;> omega

/-- A working window agrees with the hours it comes from and with the studio's clock. The hours
are those of the date's weekday. With the offset `o` the minutes times sixty when that is less
than a day either way and zero otherwise, the window opens at the date's opening time in UTC
milliseconds less `o` seconds and closes likewise at its closing time; so it lasts as long as the
hours do and is empty exactly when the room closes no later than it opens. Each end of the window,
written on the studio's clock as `HH:MM`, is the time it came from. -/
theorem windowOn_agrees_with_localHhmm {w : WeeklyHours} {d : Date} {h : OpeningHours}
    {span : Span} (hw : w.windowOn d = some (h, span)) :
    w.hoursOn d.weekday = some h ∧
      w.offsetSeconds =
        (if -86400 < w.offsetMinutes * 60 ∧ w.offsetMinutes * 60 < 86400 then
          w.offsetMinutes * 60 else 0) ∧
      span.start = (d.toDays * 86400 + h.opens.seconds) * 1000 - w.offsetSeconds * 1000 ∧
      span.stop = (d.toDays * 86400 + h.closes.seconds) * 1000 - w.offsetSeconds * 1000 ∧
      span.stop - span.start = ((h.closes.seconds : Int) - h.opens.seconds) * 1000 ∧
      (span.isEmpty = true ↔ h.closes.seconds ≤ h.opens.seconds) ∧
      (h.opens.Valid → w.localHhmm span.start = h.opens.render) ∧
      (h.closes.Valid → w.localHhmm span.stop = h.closes.render) := by
  obtain ⟨hday, hopen, hclose, rfl⟩ := windowOn_eq_some hw
  have hstart := Instant.millis_ofLocal d h.opens.seconds w.offsetSeconds
  have hstop := Instant.millis_ofLocal d h.closes.seconds w.offsetSeconds
  refine ⟨hday, offsetSeconds_eq w, ?_, ?_, ?_, ?_,
    fun hv => localHhmm_ofLocal w d hv hopen, fun hv => localHhmm_ofLocal w d hv hclose⟩
  · dsimp only
    rw [hstart]
    omega
  · dsimp only
    rw [hstop]
    omega
  · dsimp only
    rw [hstart, hstop]
    omega
  · simp only [Span.isEmpty_eq, hstart, hstop, decide_eq_true_eq]
    omega

/-- Rooms of a studio three hours ahead of UTC, open on Mondays from nine to six. -/
def nineToSixAtPlusThree : WeeklyHours :=
  { monday := some ⟨⟨9, 0⟩, ⟨18, 0⟩⟩, offsetMinutes := 180 }

/-- Monday 2031-03-10 at such a room: the window runs from 06:00 to 15:00 UTC and reads
`09:00` to `18:00` on the studio's clock. -/
theorem nineToSixAtPlusThree_window :
    nineToSixAtPlusThree.windowOn ⟨2031, 3, 10⟩ =
        some (⟨⟨9, 0⟩, ⟨18, 0⟩⟩, ⟨1930888800000, 1930921200000⟩) ∧
      TimeOfDay.Valid ⟨9, 0⟩ ∧ TimeOfDay.Valid ⟨18, 0⟩ ∧
      nineToSixAtPlusThree.localHhmm 1930888800000 = TimeOfDay.render ⟨9, 0⟩ ∧
      nineToSixAtPlusThree.localHhmm 1930921200000 = TimeOfDay.render ⟨18, 0⟩ := by
  have hw : nineToSixAtPlusThree.windowOn ⟨2031, 3, 10⟩ =
      some (⟨⟨9, 0⟩, ⟨18, 0⟩⟩, ⟨1930888800000, 1930921200000⟩) := by decide
  have hv₁ : TimeOfDay.Valid ⟨9, 0⟩ := by decide
  have hv₂ : TimeOfDay.Valid ⟨18, 0⟩ := by decide
  obtain ⟨-, -, -, -, -, -, hopen, hclose⟩ := windowOn_agrees_with_localHhmm hw
  exact ⟨hw, hv₁, hv₂, hopen hv₁, hclose hv₂⟩

end WeeklyHours

end StudioRental
