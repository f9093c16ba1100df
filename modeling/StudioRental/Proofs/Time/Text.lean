import StudioRental.Proofs.Time.Calendar
import StudioRental.Proofs.Time.Leap
import StudioRental.Proofs.Text.Digits
import Mathlib.Data.List.TakeWhile

/-!
Instants read back from their text.

`Instant.render` writes an instant in RFC 3339 and UTC: the date of its day, the time of day in
two digits a field, the fraction of a second in 3, 6 or 9 digits when there is one, and `Z`.
Each field reads back as what it was written from: a zero-padded number of its width
(`field_padNat`), a year with its sign or in four digits (`yearField_renderYear`), a date of the
calendar (`datePart_renderDate`), a fraction (`fraction_renderFraction`). So an instant of the
supported years whose fraction reaches a second only in a leap second (`Instant.Proper`) reads
back as itself (`parseInstant?_render`); a leap second is written as second 60 and read back as
the second after second 59.
-/

namespace StudioRental

namespace TimeText

open Text

/-! ### Zero-padded numbers -/

theorem padNat_toList (w n : Nat) :
    (Instant.padNat w n).toList =
      List.replicate (w - (Nat.toDigits 10 n).length) '0' ++ Nat.toDigits 10 n := by
  simp only [Instant.padNat, String.toList_ofList]

theorem length_padNat {w n : Nat} (hw : 0 < w) (h : n < 10 ^ w) :
    (Instant.padNat w n).toList.length = w := by
  have := Digits.length_toDigits_le hw h
  simp only [padNat_toList, List.length_append, List.length_replicate]
  omega

theorem isDigit_of_mem_padNat {w n : Nat} {c : Char} (h : c ∈ (Instant.padNat w n).toList) :
    c.isDigit = true := by
  rw [padNat_toList] at h
  exact Digits.isDigit_of_mem_padded h

theorem le_length_padNat (w n : Nat) : w ≤ (Instant.padNat w n).toList.length := by
  simp only [padNat_toList, List.length_append, List.length_replicate]
  omega

theorem ofDigitChars_padNat (w n : Nat) : Nat.ofDigitChars 10 (Instant.padNat w n).toList 0 = n := by
  rw [padNat_toList]
  exact Digits.ofDigitChars_padded _ n

theorem padNat_cons {w : Nat} (hw : 0 < w) (n : Nat) :
    ∃ d ds, (Instant.padNat w n).toList = d :: ds ∧ d.isDigit = true := by
  match hp : (Instant.padNat w n).toList with
  | [] => have := le_length_padNat w n; simp [hp] at this; omega
  | d :: ds => exact ⟨d, ds, rfl, isDigit_of_mem_padNat (hp ▸ List.mem_cons_self)⟩

theorem takeWhile_take_digits {ds : List Char} (hall : ∀ c ∈ ds, c.isDigit = true) {n : Nat}
    (hn : ds.length ≤ n) {c : Char} (hc : c.isDigit = false) (rest : List Char) :
    ((ds ++ c :: rest).take n).takeWhile Char.isDigit = ds := by
  rw [← List.take_takeWhile, List.takeWhile_append_of_pos hall,
    List.takeWhile_cons_of_neg (by simp [hc]), List.append_nil, List.take_of_length_le hn]

theorem digits_append {ds : List Char} (hall : ∀ c ∈ ds, c.isDigit = true) {lo hi : Nat}
    (hlo : lo ≤ ds.length) (hhi : ds.length ≤ hi) {c : Char} (hc : c.isDigit = false)
    (rest : List Char) :
    digits lo hi (ds ++ c :: rest) = some (Nat.ofDigitChars 10 ds 0, c :: rest) := by
  unfold digits
  dsimp only
  rw [takeWhile_take_digits hall hhi hc, if_neg (by omega), Digits.foldl_decimal_eq,
    List.drop_left]

/-- A zero-padded number of `w` digits is read as that number, whatever follows it. -/
theorem digits_padNat {w n : Nat} (hw : 0 < w) (h : n < 10 ^ w) (rest : List Char) :
    digits 1 w ((Instant.padNat w n).toList ++ rest) = some (n, rest) := by
  have hlen := length_padNat hw h
  have hall : ∀ c ∈ (Instant.padNat w n).toList, c.isDigit = true :=
    fun _ hc => isDigit_of_mem_padNat hc
  unfold digits
  dsimp only
  rw [List.take_left' hlen, List.takeWhile_eq_self_iff.2 hall, hlen, if_neg (by omega),
    Digits.foldl_decimal_eq, ofDigitChars_padNat, List.drop_left' hlen]

theorem field_padNat {w n : Nat} (hw : 0 < w) (h : n < 10 ^ w) (rest : List Char) :
    field w ((Instant.padNat w n).toList ++ rest) = some (n, rest) := by
  obtain ⟨d, ds, hp, hd⟩ := padNat_cons hw n
  unfold field
  rw [hp, List.cons_append, trimBlankStart_cons (isBlank_of_isDigit hd), ← List.cons_append, ← hp]
  exact digits_padNat hw h rest

/-! ### Dates -/

/-- A year of 32 bits reads back from its text, whether written in four digits or with its sign,
when what follows is not a digit. -/
theorem yearField_renderYear {y : Int} (hlo : -2 ^ 31 ≤ y) (hhi : y < 2 ^ 31) {c : Char}
    (hc : c.isDigit = false) (rest : List Char) :
    yearField ((Instant.renderYear y).toList ++ c :: rest) = some (y, c :: rest) := by
  have hall : ∀ d ∈ (Instant.padNat 4 y.natAbs).toList, d.isDigit = true :=
    fun _ hd => isDigit_of_mem_padNat hd
  -- after a sign the reader takes every digit there is
  have hsigned : ∀ hi, (Instant.padNat 4 y.natAbs).toList.length ≤ hi →
      digits 1 hi ((Instant.padNat 4 y.natAbs).toList ++ c :: rest) = some (y.natAbs, c :: rest) := by
    intro hi hhi
    rw [digits_append hall (Nat.le_trans (show 1 ≤ 4 by decide) (le_length_padNat 4 _)) hhi hc,
      ofDigitChars_padNat]
  unfold Instant.renderYear
  by_cases hsmall : 0 ≤ y ∧ y ≤ 9999
  · -- four digits, read by the last arm
    rw [if_pos (by simpa using hsmall)]
    obtain ⟨d, ds, hp, hd⟩ := padNat_cons (w := 4) (by decide) y.toNat
    unfold yearField
    rw [hp, List.cons_append, trimBlankStart_cons (isBlank_of_isDigit hd)]
    split
    · simp_all
    · simp_all
    · rw [← List.cons_append, ← hp, digits_padNat (by decide) (by omega)]
      simp [Int.toNat_of_nonneg hsmall.1]
  · rw [if_neg (by simpa using hsmall)]
    by_cases hneg : y < 0
    · rw [if_pos (by simpa using hneg)]
      simp only [yearField, String.toList_append, show ("-" : String).toList = ['-'] from rfl,
        List.cons_append, List.nil_append,
        trimBlankStart_cons (show isBlank '-' = false by decide)]
      rw [hsigned _ (by simp)]
      dsimp only
      rw [if_pos (by omega)]
      congr 2
      omega
    · rw [if_neg (by simpa using hneg)]
      simp only [yearField, String.toList_append, show ("+" : String).toList = ['+'] from rfl,
        List.cons_append, List.nil_append,
        trimBlankStart_cons (show isBlank '+' = false by decide)]
      rw [hsigned _ (by simp)]
      dsimp only
      rw [if_pos (by omega)]
      congr 2
      omega

theorem monthLength_le (y : Int) (m : Nat) : Date.monthLength y m ≤ 31 := by
  unfold Date.monthLength
  split
  all_goals first | omega | (split <;> omega)

/-- A date of the calendar reads back from its text, whatever follows it. -/
theorem datePart_renderDate {d : Date} (hv : d.isValid = true) (rest : List Char) :
    datePart ((Instant.renderDate d).toList ++ rest) = some (d, rest) := by
  obtain ⟨year, month, day⟩ := d
  have hbounds := hv
  simp only [Date.isValid, Bool.and_eq_true, decide_eq_true_eq, Date.minYear, Date.maxYear] at hbounds
  obtain ⟨⟨⟨⟨⟨hy₁, hy₂⟩, hm₁⟩, hm₂⟩, hd₁⟩, hd₂⟩ := hbounds
  replace hy₁ := of_decide_eq_true hy₁
  replace hy₂ := of_decide_eq_true hy₂
  have hlen := monthLength_le year month
  have hminus : ("-" : String).toList = ['-'] := rfl
  simp only [Instant.renderDate, String.toList_append, hminus, List.append_assoc, List.cons_append,
    List.nil_append]
  simp only [datePart, Option.bind_eq_bind, Option.bind_some,
    yearField_renderYear (y := year) (by omega) (by omega) (show '-'.isDigit = false by decide),
    trimBlankStart_cons (show isBlank '-' = false by decide), literal, ↓reduceIte,
    field_padNat (n := month) (show 0 < 2 by decide) (by omega),
    field_padNat (n := day) (show 0 < 2 by decide) (by omega), hv]

/-! ### Instants -/

theorem fraction_padNat {w v : Nat} (hw : 0 < w) (h9 : w ≤ 9) (hv : v < 10 ^ w) {c : Char}
    (hc : c.isDigit = false) (rest : List Char) :
    fraction ('.' :: ((Instant.padNat w v).toList ++ c :: rest)) =
      some (v * 10 ^ (9 - w), c :: rest) := by
  have hlen := length_padNat hw hv
  have hall : ∀ c ∈ (Instant.padNat w v).toList, c.isDigit = true :=
    fun _ hc => isDigit_of_mem_padNat hc
  have hne : (Instant.padNat w v).toList.isEmpty = false := by
    rw [List.isEmpty_eq_false_iff_exists_mem]
    obtain ⟨d, ds, hp, -⟩ := padNat_cons hw v
    exact ⟨d, hp ▸ List.mem_cons_self⟩
  simp only [fraction, takeWhile_take_digits hall (hlen ▸ h9) hc, hne, Bool.false_eq_true,
    ↓reduceIte, Digits.foldl_decimal_eq, ofDigitChars_padNat, hlen, List.drop_left' hlen,
    List.dropWhile_cons_of_neg (show ¬c.isDigit = true by simp [hc])]

/-- A fraction of a second as written, followed by a character that is neither a digit nor a
point, reads back as its nanoseconds. -/
theorem fraction_renderFraction {nanos : Nat} (h : nanos < Instant.nanosPerSecond) {c : Char}
    (hc : c.isDigit = false) (hdot : c ≠ '.') (rest : List Char) :
    fraction ((Instant.renderFraction nanos).toList ++ c :: rest) = some (nanos, c :: rest) := by
  have hpoint : ∀ (w v : Nat), ("." ++ Instant.padNat w v).toList = '.' :: (Instant.padNat w v).toList :=
    fun _ _ => by rw [String.toList_append]; rfl
  unfold Instant.renderFraction
  unfold Instant.nanosPerSecond at h
  split_ifs with h0 hmilli hmicro
  · rw [String.toList_empty, List.nil_append, fraction.eq_def, h0]
    split
    · simp_all
    · rfl
  · rw [hpoint, List.cons_append, fraction_padNat (by decide) (by decide) (by omega) hc]
    congr 2
    omega
  · rw [hpoint, List.cons_append, fraction_padNat (by decide) (by decide) (by omega) hc]
    congr 2
    omega
  · rw [hpoint, List.cons_append, fraction_padNat (by decide) (by decide) (by omega) hc]
    simp

/-- A date, a time of day, a second up to the leap second `60` and a fraction, written in UTC, read
back as the instant they name when it lies in the supported range. -/
theorem parseInstant?_clock {d : Date} (hv : d.isValid = true) {h mi sec nano : Nat} (hh : h < 24)
    (hmi : mi < 60) (hsec : sec ≤ 60) (hnano : nano < Instant.nanosPerSecond) :
    parseInstant? (Instant.renderDate d ++ "T" ++ Instant.padNat 2 h ++ ":" ++ Instant.padNat 2 mi ++
        ":" ++ Instant.padNat 2 sec ++ Instant.renderFraction nano ++ "Z") =
      let (sec, nano) := if sec = 60 then (59, nano + Instant.nanosPerSecond) else (sec, nano)
      let t := Instant.ofLocal d (h * 3600 + mi * 60 + sec) nano 0
      if t.inRange then some t else none := by
  have hT : ("T" : String).toList = ['T'] := rfl
  have hcolon : (":" : String).toList = [':'] := rfl
  have hZ : ("Z" : String).toList = ['Z'] := rfl
  unfold parseInstant?
  simp only [String.toList_append, hT, hcolon, hZ, List.append_assoc, List.cons_append,
    List.nil_append]
  have hoff : offsetPart ['Z'] = some (0, []) := rfl
  have hclock : (decide (h > 23) || decide (mi > 59) || decide (sec > 60)) = false := by
    simp only [Bool.or_eq_false_iff, decide_eq_false_iff_not]
    omega
  simp only [Option.bind_eq_bind, Option.bind_some, datePart_renderDate hv, decide_true,
    Bool.true_or, ↓reduceIte, hoff, hclock, Bool.false_eq_true,
    field_padNat (n := h) (show 0 < 2 by decide) (by omega),
    field_padNat (n := mi) (show 0 < 2 by decide) (by omega),
    field_padNat (n := sec) (show 0 < 2 by decide) (by omega),
    trimBlankStart_cons (show isBlank ':' = false by decide), literal,
    fraction_renderFraction hnano (show 'Z'.isDigit = false by decide) (by decide),
    trimBlankStart_cons (show isBlank 'Z' = false by decide), show trimBlankStart [] = [] from rfl,
    List.isEmpty_nil, Bool.not_true, Int.natAbs_zero, show ¬0 ≥ 86400 by decide]

/-- A proper instant of the supported range reads back from its text. -/
theorem parseInstant?_render {t : Instant} (hr : t.inRange = true) (hp : t.Proper) :
    parseInstant? t.render = some t := by
  obtain ⟨s, frac⟩ := t
  unfold Instant.Proper Instant.nanosPerSecond at hp
  dsimp only at hp
  have hday : 0 ≤ s - s.fdiv 86400 * 86400 ∧ s - s.fdiv 86400 * 86400 < 86400 := by
    rw [Int.fdiv_eq_ediv_of_nonneg _ (by decide)]
    omega
  -- the day of the instant lies in the supported years, so its date is one of the calendar
  have hvalid : (Date.ofDays (s.fdiv 86400)).isValid = true := by
    have hrange := hr
    simp only [Instant.inRange, Bool.and_eq_true] at hrange
    have h₁ := of_decide_eq_true hrange.1
    have h₂ := of_decide_eq_true hrange.2
    simp only [Instant.earliest, Instant.latest, Instant.secondsPerDay] at h₁ h₂
    apply Date.ofDays_isValid <;> omega
  have htoDays := Date.toDays_ofDays (s.fdiv 86400)
  unfold Instant.render Instant.toLocal
  simp only [Instant.secondsPerDay, Int.add_zero, Instant.nanosPerSecond]
  generalize s.fdiv 86400 = days at hday hvalid htoDays ⊢
  obtain ⟨hday₀, hday₁⟩ := hday
  generalize hsecs : (s - days * 86400).toNat = secs
  have hsecs' : (secs : Int) = s - days * 86400 := hsecs ▸ Int.toNat_of_nonneg hday₀
  -- hours, minutes and the second of the minute put back together give the instant
  have hclock : ∀ sec : Nat, sec = secs % 60 → Instant.ofLocal (Date.ofDays days)
      ((secs / 3600 : Nat) * 3600 + (secs / 60 % 60 : Nat) * 60 + (sec : Nat)) frac 0 = ⟨s, frac⟩ := by
    intro sec hsec
    simp only [Instant.ofLocal, htoDays, Instant.secondsPerDay, Instant.mk.injEq, and_true]
    omega
  by_cases hleap : frac ≥ 1000000000
  · -- a leap second, written as second 60 of the last minute
    have h60 : secs % 60 + 1 = 60 := by omega
    simp only [if_pos hleap]
    rw [parseInstant?_clock hvalid (by omega) (by omega) (by omega)
      (by unfold Instant.nanosPerSecond; omega)]
    simp only [h60, ↓reduceIte, Instant.nanosPerSecond, Nat.sub_add_cancel hleap]
    rw [hclock 59 (by omega), if_pos hr]
  · simp only [if_neg hleap]
    rw [parseInstant?_clock hvalid (by omega) (by omega) (by omega)
      (by unfold Instant.nanosPerSecond; omega)]
    simp only [show secs % 60 ≠ 60 by omega, ↓reduceIte]
    rw [hclock _ rfl, if_pos hr]

end TimeText

end StudioRental
