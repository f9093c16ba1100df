import StudioRental.Time.Calendar
import Mathlib.Tactic.IntervalCases

/-!
Day numbers and dates.

`Date.ofDays` finds a date through eras of 400 years: the day of the era, the year of the era
counted from 1 March (`yearOfEra`), and the month of that year. Within an era the years start
at `yearStart`, and a year of 366 days is one whose number, after its January, is a leap year
(`yearOfEra_spec`); within a year the months start at `monthStart` (`monthStart_spec`). Read
through these, `ofDays` is a date whose day number is the number it came from
(`toDays_ofDays`), and every day from the first supported date to the last is a date of the
calendar (`ofDays_isValid`).
-/

namespace StudioRental

namespace Date

/-- The day of its era on which a year of the era starts, years running from 1 March. -/
def yearStart (yoe : Int) : Int := 365 * yoe + yoe / 4 - yoe / 100

/-- The day of its year on which a month starts, `0` being March. -/
def monthStart (mp : Int) : Int := (153 * mp + 2) / 5

/-- The year of era that the arithmetic of `ofDays` finds for a day of the era. -/
def yearOfEra (doe : Int) : Int := (doe - doe / 1460 + doe / 36524 - doe / 146096) / 365

theorem yearOfEra_cycle {c q s : Int} (hc0 : 0 ≤ c) (hc : c ≤ 3) (hq0 : 0 ≤ q) (hs0 : 0 ≤ s)
    (hs : s ≤ 1460) (hr : 1461 * q + s ≤ 36523) :
    let doe := 36524 * c + 1461 * q + s
    yearStart (yearOfEra doe) ≤ doe ∧ doe ≤ yearStart (yearOfEra doe) + 365 ∧
      0 ≤ yearOfEra doe ∧ yearOfEra doe < 400 ∧
      (doe = yearStart (yearOfEra doe) + 365 →
        (yearOfEra doe + 1) % 4 = 0 ∧ (yearOfEra doe + 1) % 100 ≠ 0) := by
  intro doe
  have h1 : doe / 36524 = c := by omega
  have h2 : doe / 146096 = 0 := by omega
  -- the leap day of a cycle, its last day, is counted once in `doe / 1460`
  have hδ : 0 ≤ (24 * c + q + s) / 1460 ∧ (24 * c + q + s) / 1460 ≤ 1 := by omega
  have h3 : doe / 1460 = 25 * c + q + (24 * c + q + s) / 1460 := by omega
  generalize hk : (s - (24 * c + q + s) / 1460) / 365 = k
  have hk3 : 0 ≤ k ∧ k ≤ 3 := by omega
  have hsk : 365 * k ≤ s ∧ s ≤ 365 * k + 365 := by omega
  have hyoe : yearOfEra doe = 100 * c + 4 * q + k := by
    unfold yearOfEra
    rw [h1, h2, h3]
    omega
  have hq : q ≤ 24 := by omega
  have h4 : yearStart (yearOfEra doe) = 36524 * c + 1461 * q + 365 * k := by
    have hdiv4 : (100 * c + 4 * q + k) / 4 = 25 * c + q := by omega
    have hdiv100 : (100 * c + 4 * q + k) / 100 = c := by omega
    rw [yearStart, hyoe, hdiv4, hdiv100]
    omega
  rw [h4, hyoe]
  refine ⟨by omega, by omega, by omega, by omega, fun hlast => ?_⟩
  -- a year of 366 days ends on the leap day that closes a cycle, which no century's last
  -- cycle has
  have hs : s = 1460 := by omega
  have hq23 : q ≤ 23 := by omega
  constructor <;> omega

/-- A day of the era lies in the year of era that `yearOfEra` finds, and it is the 366th day of
that year only when the year after it starts a leap year. -/
theorem yearOfEra_spec {doe : Int} (h0 : 0 ≤ doe) (h1 : doe < 146097) :
    yearStart (yearOfEra doe) ≤ doe ∧ doe ≤ yearStart (yearOfEra doe) + 365 ∧
      0 ≤ yearOfEra doe ∧ yearOfEra doe < 400 ∧
      (doe = yearStart (yearOfEra doe) + 365 → (yearOfEra doe + 1) % 4 = 0 ∧
        ((yearOfEra doe + 1) % 100 ≠ 0 ∨ yearOfEra doe = 399)) := by
  by_cases hlast : doe = 146096
  · subst hlast
    decide
  · -- split the day into its century, its four-year cycle and the day of the cycle
    have hdoe : doe =
        36524 * (doe / 36524) + 1461 * (doe % 36524 / 1461) + doe % 36524 % 1461 := by
      omega
    have h := yearOfEra_cycle (c := doe / 36524) (q := doe % 36524 / 1461)
      (s := doe % 36524 % 1461) (by omega) (by omega) (by omega) (by omega) (by omega) (by omega)
    rw [← hdoe] at h
    obtain ⟨h₁, h₂, h₃, h₄, h₅⟩ := h
    exact ⟨h₁, h₂, h₃, h₄, fun he => (h₅ he).imp_right Or.inl⟩

/-- A day of the year lies in the month that the arithmetic of `ofDays` finds. -/
theorem monthStart_spec {doy : Int} (h0 : 0 ≤ doy) (h1 : doy ≤ 365) :
    0 ≤ (5 * doy + 2) / 153 ∧ (5 * doy + 2) / 153 ≤ 11 ∧
      monthStart ((5 * doy + 2) / 153) ≤ doy ∧ doy < monthStart ((5 * doy + 2) / 153 + 1) := by
  unfold monthStart
  omega

/-- The date of a day number, read through the era of 400 years, the year of the era and the
month of the year (years from 1 March, month `0` for March) that the arithmetic of `ofDays`
finds. -/
theorem ofDays_spec (n : Int) : ∃ era yoe mp : Int,
    0 ≤ yoe ∧ yoe < 400 ∧ 0 ≤ mp ∧ mp ≤ 11 ∧
    yearStart yoe + monthStart mp ≤ n + 719468 - era * 146097 ∧
    n + 719468 - era * 146097 < yearStart yoe + monthStart (mp + 1) ∧
    n + 719468 - era * 146097 ≤ yearStart yoe + 365 ∧
    (n + 719468 - era * 146097 = yearStart yoe + 365 →
      (yoe + 1) % 4 = 0 ∧ ((yoe + 1) % 100 ≠ 0 ∨ yoe = 399)) ∧
    ofDays n = ⟨if mp < 10 then yoe + era * 400 else yoe + era * 400 + 1,
      (if mp < 10 then mp + 3 else mp - 9).toNat,
      (n + 719468 - era * 146097 - yearStart yoe - monthStart mp + 1).toNat⟩ := by
  have hz : (n + 719468).fdiv 146097 = (n + 719468) / 146097 :=
    Int.fdiv_eq_ediv_of_nonneg _ (by decide)
  unfold ofDays
  simp only [hz]
  generalize hera : (n + 719468) / 146097 = era
  have hdoe0 : 0 ≤ n + 719468 - era * 146097 ∧ n + 719468 - era * 146097 < 146097 := by omega
  generalize hdoe : n + 719468 - era * 146097 = doe at *
  obtain ⟨hy₁, hy₂, hy₃, hy₄, hy₅⟩ := yearOfEra_spec hdoe0.1 hdoe0.2
  have hyoe : (doe - doe / 1460 + doe / 36524 - doe / 146096) / 365 = yearOfEra doe := rfl
  rw [hyoe]
  generalize yearOfEra doe = yoe at *
  have hys : 365 * yoe + yoe / 4 - yoe / 100 = yearStart yoe := rfl
  rw [hys]
  obtain ⟨hm₁, hm₂, hm₃, hm₄⟩ :=
    @monthStart_spec (doe - yearStart yoe) (by omega) (by omega)
  generalize (5 * (doe - yearStart yoe) + 2) / 153 = mp at *
  have hms : (153 * mp + 2) / 5 = monthStart mp := rfl
  rw [hms]
  subst hdoe
  refine ⟨era, yoe, mp, hy₃, hy₄, hm₁, hm₂, by omega, by omega, hy₂, hy₅, ?_⟩
  -- January and February belong to the year before, counted from March
  by_cases hmp : mp < 10
  · simp only [hmp, if_true, show ¬ mp + 3 ≤ 2 by omega, if_false]
  · simp only [hmp, if_false, show mp - 9 ≤ 2 by omega, if_true]

/-- The date of a day number has that day number. -/
theorem toDays_ofDays (n : Int) : (ofDays n).toDays = n := by
  obtain ⟨era, yoe, mp, hy₁, hy₂, hm₁, hm₂, hd₁, hd₂, -, -, hdate⟩ := ofDays_spec n
  have hfd : ∀ y : Int, y.fdiv 400 = y / 400 := fun y => Int.fdiv_eq_ediv_of_nonneg y (by decide)
  have hd : ((n + 719468 - era * 146097 - yearStart yoe - monthStart mp + 1).toNat : Int) =
      n + 719468 - era * 146097 - yearStart yoe - monthStart mp + 1 :=
    Int.toNat_of_nonneg (by omega)
  have hms : ∀ m : Int, (153 * m + 2) / 5 = monthStart m := fun _ => rfl
  rw [hdate]
  unfold toDays
  simp only [hd, hfd, hms]
  by_cases hmp : mp < 10
  · have hm : ((mp + 3).toNat : Int) = mp + 3 := Int.toNat_of_nonneg (by omega)
    simp only [hmp, if_true, show ¬ (mp + 3).toNat ≤ 2 by omega, if_false, hm,
      show mp + 3 > 2 by omega, show mp + 3 - 3 = mp by omega,
      show (yoe + era * 400) / 400 = era by omega,
      show yoe + era * 400 - era * 400 = yoe by omega]
    have hys : yearStart yoe = 365 * yoe + yoe / 4 - yoe / 100 := rfl
    omega
  · have hm : ((mp - 9).toNat : Int) = mp - 9 := Int.toNat_of_nonneg (by omega)
    simp only [hmp, if_false, show (mp - 9).toNat ≤ 2 by omega, if_true, hm,
      show ¬ mp - 9 > 2 by omega, show mp - 9 + 9 = mp by omega,
      show (yoe + era * 400 + 1 - 1) / 400 = era by omega,
      show yoe + era * 400 + 1 - 1 - era * 400 = yoe by omega]
    have hys : yearStart yoe = 365 * yoe + yoe / 4 - yoe / 100 := rfl
    omega

theorem toDays_first : toDays ⟨minYear, 1, 1⟩ = -96465292 := by decide

theorem toDays_last : toDays ⟨maxYear, 12, 31⟩ = 95026236 := by decide

/-- Every day from the first supported date to the last is a date of the calendar. -/
theorem ofDays_isValid {n : Int} (h₁ : toDays ⟨minYear, 1, 1⟩ ≤ n)
    (h₂ : n ≤ toDays ⟨maxYear, 12, 31⟩) : (ofDays n).isValid = true := by
  obtain ⟨era, yoe, mp, hy₁, hy₂, hm₁, hm₂, hd₁, hd₂, hd₃, hleap, hdate⟩ := ofDays_spec n
  rw [toDays_first] at h₁
  rw [toDays_last] at h₂
  have hys : yearStart yoe = 365 * yoe + yoe / 4 - yoe / 100 := rfl
  have hms : ∀ m, monthStart m = (153 * m + 2) / 5 := fun _ => rfl
  rw [hdate]
  simp only [isValid, Bool.and_eq_true, decide_eq_true_eq, minYear, maxYear]
  -- the era and the year of era bound the year on both sides of the supported range
  have hyear : -262143 ≤ (if mp < 10 then yoe + era * 400 else yoe + era * 400 + 1) ∧
      (if mp < 10 then yoe + era * 400 else yoe + era * 400 + 1) ≤ 262142 := by
    simp only [hms] at hd₁ hd₂
    -- only the first and the last era of the range need a closer look
    have hera : -656 ≤ era ∧ era ≤ 655 := by omega
    by_cases hfirst : era = -656
    · subst hfirst
      -- the first day, 1 January, is day 306 of year 256 of its era
      have h256 : 256 ≤ yoe := by omega
      have h257 : mp < 10 → 257 ≤ yoe := fun hmp => by
        by_contra hlt
        obtain rfl : yoe = 256 := by omega
        have : (153 * (mp + 1) + 2) / 5 ≤ 306 := by omega
        simp only [hys] at hd₂
        omega
      split <;> omega
    by_cases hlast : era = 655
    · subst hlast
      -- the last day, 31 December, is day 305 of year 142 of its era
      have h142 : yoe ≤ 142 := by omega
      have h141 : ¬ mp < 10 → yoe ≤ 141 := fun hmp => by
        by_contra hlt
        obtain rfl : yoe = 142 := by omega
        have : 306 ≤ (153 * mp + 2) / 5 := by omega
        simp only [hys] at hd₁
        omega
      split <;> omega
    split <;> omega
  refine ⟨⟨⟨⟨⟨decide_eq_true hyear.1, decide_eq_true hyear.2⟩, by split <;> omega⟩,
    by split <;> omega⟩, by omega⟩, ?_⟩
  -- the day of the month, read off the day of the year
  have hdoy : monthStart mp ≤ n + 719468 - era * 146097 - yearStart yoe ∧
      n + 719468 - era * 146097 - yearStart yoe < monthStart (mp + 1) ∧
      n + 719468 - era * 146097 - yearStart yoe ≤ 365 := by omega
  have hleap' : n + 719468 - era * 146097 - yearStart yoe = 365 →
      (yoe + era * 400 + 1) % 4 = 0 ∧
        ((yoe + era * 400 + 1) % 100 ≠ 0 ∨ (yoe + era * 400 + 1) % 400 = 0) := fun h => by
    have := hleap (by omega)
    omega
  generalize n + 719468 - era * 146097 - yearStart yoe = doy at *
  interval_cases mp <;> simp [monthLength, monthStart, isLeap] at hdoy ⊢ <;> omega

end Date

end StudioRental
