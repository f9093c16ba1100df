import StudioRental.Time.Text
import Mathlib.Tactic.SplitIfs
import Mathlib.Algebra.Group.Nat.Defs
import Mathlib.Algebra.Group.Int.Defs

/-!
Leap seconds, where text puts them and what they do to a duration.

An instant read from text is `Proper`: a leap second, written as second `60`, is the second after
second 59 of its minute, and its fraction stays below one more second
(`TimeText.parseInstant?_proper`). The time from one instant to a later one counts a leap second
crossed on the way, so the two can be in order while their difference is negative
(23:59:60.9 to 00:00:00.5 the next day); between proper instants whose whole milliseconds are
in the same order it is never negative (`Instant.millisSince_nonneg`).
-/

namespace StudioRental

namespace Instant

/-- An instant as text gives it: a fraction of at least a second only in the leap second after
the last second of a minute, and then below two seconds. -/
def Proper (t : Instant) : Prop :=
  t.frac < nanosPerSecond ∨ (t.frac < 2 * nanosPerSecond ∧ t.seconds % 60 = 59)

variable {a b : Instant}

theorem since_nonneg (ha : a.Proper) (hb : b.Proper) (hlt : ¬a ≤ b) (hms : b.millis < a.millis) :
    0 ≤ a.since b := by
  unfold Proper at ha hb
  change ¬(a.seconds < b.seconds ∨ (a.seconds = b.seconds ∧ a.frac ≤ b.frac)) at hlt
  unfold millis at hms
  unfold since
  dsimp only
  -- the difference counts the seconds between the clock times, one more for a leap second left
  -- behind, one fewer for one reached; a leap second reached after midnight would lie after
  -- second 0 of a minute, and one left behind before midnight is bounded by the milliseconds
  split_ifs <;> simp only [Bool.and_eq_true, decide_eq_true_eq, not_and] at * <;>
    simp only [secondsPerDay, nanosPerSecond, nanosPerMilli,
      Int.fdiv_eq_ediv_of_nonneg _ (show (0 : Int) ≤ 86400 by decide)] at * <;> omega

/-- The whole milliseconds from a proper instant to a later one, later also in whole
milliseconds, are at least zero. -/
theorem millisSince_nonneg (ha : a.Proper) (hb : b.Proper) (hlt : ¬a ≤ b)
    (hms : b.millis < a.millis) : 0 ≤ a.millisSince b :=
  Int.tdiv_nonneg (since_nonneg ha hb hlt hms) (by decide)

end Instant

namespace TimeText

theorem foldl_digits_lt {ds : List Char} (h : ∀ c ∈ ds, c.isDigit = true) (acc : Nat) :
    ds.foldl (fun n c => n * 10 + (c.toNat - '0'.toNat)) acc < (acc + 1) * 10 ^ ds.length := by
  induction ds generalizing acc with
  | nil => simp
  | cons c ds ih =>
    have hc : c.toNat - '0'.toNat ≤ 9 := by
      have hd := h c List.mem_cons_self
      simp only [Char.isDigit, Bool.and_eq_true, decide_eq_true_eq, ge_iff_le,
        UInt32.le_iff_toNat_le] at hd
      have h0 : '0'.val.toNat = 48 := rfl
      have h9 : '9'.val.toNat = 57 := rfl
      simp only [Char.toNat]
      omega
    rw [List.foldl_cons, List.length_cons, Nat.pow_succ]
    calc _ < (acc * 10 + (c.toNat - '0'.toNat) + 1) * 10 ^ ds.length :=
          ih (fun d hd => h d (List.mem_cons_of_mem c hd)) _
      _ ≤ (acc + 1) * (10 ^ ds.length * 10) := by
          rw [← Nat.mul_assoc, Nat.mul_right_comm]
          exact Nat.mul_le_mul_right _ (by omega)

theorem fraction_lt {cs rest : List Char} {v : Nat} (h : fraction cs = some (v, rest)) :
    v < Instant.nanosPerSecond := by
  unfold fraction at h
  split at h
  next r =>
    dsimp only at h
    split at h
    · cases h
    · cases h
      generalize hds : (r.take 9).takeWhile Char.isDigit = ds
      have hlen : ds.length ≤ 9 := by
        rw [← hds]
        exact Nat.le_trans (List.takeWhile_prefix _).length_le (List.length_take_le _ _)
      have hdig : ∀ c ∈ ds, c.isDigit = true := by
        rw [← hds]
        exact List.all_eq_true.1 List.all_takeWhile
      have hlt := foldl_digits_lt hdig 0
      calc _ < 10 ^ ds.length * 10 ^ (9 - ds.length) :=
            Nat.mul_lt_mul_of_pos_right (by simpa using hlt) (Nat.pow_pos (by decide))
        _ = Instant.nanosPerSecond := by rw [← Nat.pow_add, Nat.add_sub_cancel' hlen]; rfl
  next =>
    cases h
    decide

theorem offsetPart_signed_emod {cs r : List Char} {off : Int}
    (h : offsetPart.signed cs = some (off, r)) : off % 60 = 0 := by
  unfold offsetPart.signed at h
  dsimp only at h
  split at h
  · cases h
  · simp only [bind, Option.bind_eq_some_iff] at h
    obtain ⟨⟨hh, r₁⟩, -, ⟨m, r₂⟩, -, h⟩ := h
    split at h
    · cases h
    · cases h
      split <;> omega

theorem offsetPart_emod {cs r : List Char} {off : Int} (h : offsetPart cs = some (off, r)) :
    off % 60 = 0 := by
  unfold offsetPart at h
  split at h
  · cases h; rfl
  · cases h; rfl
  · split at h
    · cases h; rfl
    · exact offsetPart_signed_emod h
  · exact offsetPart_signed_emod h

/-- Every instant read from text is proper. -/
theorem parseInstant?_proper {s : String} {t : Instant} (h : parseInstant? s = some t) :
    t.Proper := by
  unfold parseInstant? at h
  simp only [bind, Option.bind_eq_some_iff] at h
  obtain ⟨⟨date, cs⟩, -, h⟩ := h
  dsimp only at h
  -- the date is followed by `T`, `t` or a space
  rcases cs with _ | ⟨c, rest⟩
  · simp at h
  dsimp only at h
  by_cases hT : (decide (c = 'T') || decide (c = 't') || decide (c = ' ')) = true
  · rw [if_pos hT] at h
    simp only [Option.bind_some, Option.bind_eq_some_iff] at h
    obtain ⟨⟨hr, cs₁⟩, -, cs₂, -, ⟨mi, cs₃⟩, -, cs₄, -, ⟨sec, cs₅⟩, -, ⟨nano, cs₆⟩, hfrac,
      ⟨off, cs₇⟩, hoff, h⟩ := h
    have hnano := fraction_lt hfrac
    have hoff60 := offsetPart_emod hoff
    dsimp only at h hnano hoff60
    -- a second `60` is read as the leap second after second 59 of the minute
    split_ifs at h with _ _ _ hleap
    · cases h
      right
      simp only [Instant.ofLocal, Instant.secondsPerDay, Instant.nanosPerSecond] at hnano ⊢
      omega
    · cases h
      exact .inl hnano
  · rw [if_neg hT] at h
    simp at h

end TimeText

end StudioRental
