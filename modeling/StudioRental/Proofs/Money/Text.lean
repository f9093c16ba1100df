import StudioRental.Money.Decimal.Text
import StudioRental.Proofs.Text.Digits
import Mathlib.Data.List.TakeDrop
import Mathlib.Data.List.TakeWhile

/-!
Amounts read back from their text.

`Decimal.render` writes the coefficient's digits, padded with zeros so that one stands before the
point, with the point `scale` places from the right and a minus sign in front of a negative
number. The reader gathers digits into the coefficient on both sides of the point, counting the
places after it; on long text it goes on with a wide coefficient once the coefficient is large.
Either way it rounds nothing that was written, since a written coefficient is below `2 ^ 96` and
has at most 28 places. So every amount but a negative zero reads back as itself
(`Decimal.parse?_render`).
-/

namespace StudioRental

namespace Decimal

theorem digitValue?_of_isDigit {c : Char} (h : c.isDigit = true) :
    digitValue? c = some (c.toNat - '0'.toNat) := if_pos h

theorem le_ofDigitChars (l : List Char) (init : Nat) : init ≤ Nat.ofDigitChars 10 l init := by
  rw [Nat.ofDigitChars_eq_ofDigitChars_zero]
  calc init ≤ 10 ^ l.length * init := Nat.le_mul_of_pos_left init (Nat.pow_pos (by decide))
    _ ≤ _ := Nat.le_add_right _ _

theorem ofDigitChars_cons_step (x : Char) (xs : List Char) (c : Nat) :
    Nat.ofDigitChars 10 (x :: xs) c = Nat.ofDigitChars 10 xs (c * 10 + (x.toNat - '0'.toNat)) := by
  rw [Nat.ofDigitChars_cons, Nat.mul_comm]

theorem step_le_ofDigitChars (x : Char) (xs : List Char) (c : Nat) :
    c * 10 + (x.toNat - '0'.toNat) ≤ Nat.ofDigitChars 10 (x :: xs) c := by
  rw [ofDigitChars_cons_step]
  exact le_ofDigitChars xs _

theorem readWide_places {negative : Bool} (x : Char) (xs : List Char) :
    ∀ {c k : Nat}, (∀ y ∈ x :: xs, y.isDigit = true) → k + xs.length + 1 ≤ maxScale →
      Nat.ofDigitChars 10 (x :: xs) c < coeffBound →
      readWide negative true c k x xs =
        make? negative (Nat.ofDigitChars 10 (x :: xs) c) (k + xs.length + 1) := by
  induction xs generalizing x with
  | nil =>
    intro c k hd hk hb
    have hnext := step_le_ofDigitChars x [] c
    rw [readWide, digitValue?_of_isDigit (hd x List.mem_cons_self)]
    simp only [ge_iff_le, Nat.not_le.2 (Nat.lt_of_le_of_lt hnext hb), ↓reduceIte,
      ofDigitChars_cons_step, Nat.ofDigitChars_nil, List.length_nil, Nat.add_zero]
  | cons y ys ih =>
    intro c k hd hk hb
    have hnext := step_le_ofDigitChars x (y :: ys) c
    rw [readWide, digitValue?_of_isDigit (hd x List.mem_cons_self)]
    -- with a digit still to come, the places so far are fewer than 28
    have hroom : decide (maxScale ≤ k + 1) = false := by
      simp only [List.length_cons] at hk
      exact decide_eq_false (by omega)
    simp only [ge_iff_le, Nat.not_le.2 (Nat.lt_of_le_of_lt hnext hb), ↓reduceIte, hroom,
      Bool.and_false, Bool.false_eq_true]
    rw [ofDigitChars_cons_step] at hb ⊢
    rw [ih y (fun z hz => hd z (List.mem_cons_of_mem x hz)) (by simp at hk ⊢; omega) hb]
    simp only [List.length_cons]
    congr 1
    omega

theorem readDigits_places {negative long : Bool} (x : Char) (xs : List Char) :
    ∀ {seen : Bool} {c k : Nat}, (∀ y ∈ x :: xs, y.isDigit = true) → k + xs.length + 1 ≤ maxScale →
      Nat.ofDigitChars 10 (x :: xs) c < coeffBound →
      readDigits negative long true seen c k (x :: xs) =
        make? negative (Nat.ofDigitChars 10 (x :: xs) c) (k + xs.length + 1) := by
  induction xs generalizing x with
  | nil =>
    intro seen c k hd hk hb
    rw [readDigits, digitValue?_of_isDigit (hd x List.mem_cons_self)]
    simp only [↓reduceIte, ofDigitChars_cons_step, Nat.ofDigitChars_nil, List.length_nil,
      Nat.add_zero]
  | cons y ys ih =>
    intro seen c k hd hk hb
    have hroom : decide (maxScale ≤ k + 1) = false := by
      simp only [List.length_cons] at hk
      exact decide_eq_false (by omega)
    have hys : ∀ z ∈ y :: ys, z.isDigit = true := fun z hz => hd z (List.mem_cons_of_mem x hz)
    rw [readDigits, digitValue?_of_isDigit (hd x List.mem_cons_self)]
    simp only [↓reduceIte, ge_iff_le, hroom, Bool.and_false, Bool.false_eq_true]
    rw [ofDigitChars_cons_step] at hb ⊢
    have hscale : k + 1 + ys.length + 1 = k + (y :: ys).length + 1 := by
      simp only [List.length_cons]
      omega
    split
    · rw [readWide_places y ys hys (by simp at hk ⊢; omega) hb, hscale]
    · rw [ih y hys (by simp at hk ⊢; omega) hb, hscale]

section Digits

variable {negative : Bool} {fs tail : List Char} (hfs : ∀ y ∈ fs, y.isDigit = true)
  (htail : tail = [] ∧ fs = [] ∨ tail = '.' :: fs ∧ fs ≠ []) (hscale : fs.length ≤ maxScale)
include hfs htail hscale

theorem readWide_digits (ds : List Char) :
    ∀ {c : Nat} {x : Char} {xs : List Char}, x :: xs = ds ++ tail → (∀ y ∈ ds, y.isDigit = true) →
      Nat.ofDigitChars 10 (ds ++ fs) c < coeffBound →
      readWide negative false c 0 x xs = make? negative (Nat.ofDigitChars 10 (ds ++ fs) c) fs.length := by
  induction ds with
  | nil =>
    intro c x xs hx _ hb
    rcases htail with ⟨rfl, -⟩ | ⟨rfl, hne⟩
    · simp at hx
    obtain ⟨rfl, rfl⟩ := List.cons_eq_cons.1 hx
    obtain ⟨y, ys, rfl⟩ := List.exists_cons_of_ne_nil hne
    rw [readWide]
    simp only [show digitValue? '.' = none from rfl, Bool.not_false, Bool.and_true, decide_true,
      Bool.true_or, ↓reduceIte, Bool.false_or]
    rw [readWide_places y ys hfs (by simpa using hscale) (by simpa using hb)]
    simp
  | cons d ds ih =>
    intro c x xs hx hd hb
    rw [List.cons_append] at hx
    obtain ⟨rfl, rfl⟩ := List.cons_eq_cons.1 hx
    rw [List.cons_append, ofDigitChars_cons_step] at hb
    rw [List.cons_append, ofDigitChars_cons_step]
    have hlt := Nat.not_le.2 (Nat.lt_of_le_of_lt (le_ofDigitChars _ _) hb)
    rcases hrest : ds ++ tail with _ | ⟨n, more⟩
    · -- the last digit, with no point after it
      obtain ⟨rfl, rfl⟩ := List.append_eq_nil_iff.1 hrest
      obtain ⟨-, rfl⟩ := htail.resolve_right (by simp)
      rw [readWide, digitValue?_of_isDigit (hd x List.mem_cons_self)]
      simp only [ge_iff_le, hlt, ↓reduceIte, Bool.false_eq_true, List.append_nil, Nat.ofDigitChars_nil,
        List.length_nil]
    · rw [readWide, digitValue?_of_isDigit (hd x List.mem_cons_self)]
      simp only [ge_iff_le, hlt, ↓reduceIte, Bool.false_and, Bool.false_eq_true]
      exact ih hrest.symm (fun y hy => hd y (List.mem_cons_of_mem x hy)) hb

/-- Before the point, the reader takes the digits, then the places after the point, going on with
a wide coefficient or not. -/
theorem readDigits_digits {long : Bool} (ds : List Char) :
    ∀ {seen : Bool} {c : Nat}, (ds = [] → seen = true) → (∀ y ∈ ds, y.isDigit = true) →
      Nat.ofDigitChars 10 (ds ++ fs) c < coeffBound →
      readDigits negative long false seen c 0 (ds ++ tail) =
        make? negative (Nat.ofDigitChars 10 (ds ++ fs) c) fs.length := by
  induction ds with
  | nil =>
    intro seen c hseen _ hb
    rcases htail with ⟨rfl, rfl⟩ | ⟨rfl, hne⟩
    · simp [readDigits, hseen rfl]
    · obtain ⟨y, ys, rfl⟩ := List.exists_cons_of_ne_nil hne
      rw [List.nil_append, readDigits]
      simp only [show digitValue? '.' = none from rfl, decide_true, Bool.not_false, Bool.and_self,
        ↓reduceIte]
      rw [readDigits_places y ys hfs (by simpa using hscale) (by simpa using hb)]
      simp
  | cons x ds ih =>
    intro seen c _ hd hb
    rw [List.cons_append, ofDigitChars_cons_step] at hb
    rw [List.cons_append, List.cons_append, ofDigitChars_cons_step, readDigits,
      digitValue?_of_isDigit (hd x List.mem_cons_self)]
    have hds : ∀ y ∈ ds, y.isDigit = true := fun y hy => hd y (List.mem_cons_of_mem x hy)
    rcases hrest : ds ++ tail with _ | ⟨n, more⟩
    · obtain ⟨rfl, rfl⟩ := List.append_eq_nil_iff.1 hrest
      obtain ⟨-, rfl⟩ := htail.resolve_right (by simp)
      simp
    · simp only [Bool.false_and, Bool.false_eq_true, ↓reduceIte]
      split
      · exact readWide_digits hfs htail hscale ds hrest.symm hds hb
      · rw [← hrest]
        exact ih (fun _ => rfl) hds hb

end Digits

/-- The text of an amount after its sign: digits before the point, then the point and the places
when there are any. The digits are the coefficient's, and the places as many as its scale. -/
theorem render_toList (d : Decimal) : ∃ ds fs tail : List Char,
    d.render.toList = (if d.negative then '-' :: (ds ++ tail) else ds ++ tail) ∧ ds ≠ [] ∧
      (∀ y ∈ ds ++ fs, y.isDigit = true) ∧ (tail = [] ∧ fs = [] ∨ tail = '.' :: fs ∧ fs ≠ []) ∧
      fs.length = d.scale ∧ Nat.ofDigitChars 10 (ds ++ fs) 0 = d.coeff := by
  let padded := List.replicate (d.scale + 1 - (digitsOf d.coeff).length) '0' ++ digitsOf d.coeff
  have hlen : d.scale + 1 ≤ padded.length := by
    simp only [padded, List.length_append, List.length_replicate]
    omega
  have hpoint : 0 < padded.length - d.scale := by omega
  have hvalue : Nat.ofDigitChars 10 padded 0 = d.coeff := Digits.ofDigitChars_padded _ _
  have hdigits : ∀ y ∈ padded, y.isDigit = true := fun _ => Digits.isDigit_of_mem_padded
  by_cases h0 : d.scale = 0
  · -- no point: the digits are the whole text after the sign
    refine ⟨padded, [], [], ?_, ?_, by simpa using hdigits, .inl ⟨rfl, rfl⟩, by simp [h0],
      by simpa using hvalue⟩
    · simp [render, h0, padded]
    · exact List.ne_nil_of_length_pos (by omega)
  · refine ⟨padded.take (padded.length - d.scale), padded.drop (padded.length - d.scale),
      '.' :: padded.drop (padded.length - d.scale), ?_, ?_, ?_, .inr ⟨rfl, ?_⟩, ?_, ?_⟩
    · simp [render, h0, padded]
    · apply List.ne_nil_of_length_pos
      simp only [List.length_take]
      omega
    · rwa [List.take_append_drop]
    · apply List.ne_nil_of_length_pos
      simp only [List.length_drop]
      omega
    · simp only [List.length_drop]
      omega
    · rwa [List.take_append_drop]

theorem make?_parts {d : Decimal} (hz : d.coeff = 0 → d.negative = false) :
    make? d.negative d.coeff d.scale = some d := by
  obtain ⟨negative, coeff, scale, hc, hs⟩ := d
  simp only [make?, hc, hs, dif_pos, build, Option.some.injEq, mk.injEq, and_true]
  cases negative
  · rfl
  · have hcoeff : coeff ≠ 0 := fun h => by simpa using hz h
    simpa using hcoeff

theorem mem_render_toList {d : Decimal} {y : Char} (hy : y ∈ d.render.toList) :
    y = '-' ∨ y = '.' ∨ y.isDigit = true := by
  obtain ⟨ds, fs, tail, htext, -, hdigits, htail, -, -⟩ := render_toList d
  have hbody : y ∈ ds ++ tail → y = '.' ∨ y.isDigit = true := by
    intro hy
    rcases List.mem_append.1 hy with hy | hy
    · exact .inr (hdigits y (List.mem_append_left fs hy))
    · rcases htail with ⟨rfl, -⟩ | ⟨rfl, -⟩
      · simp at hy
      · rcases List.mem_cons.1 hy with rfl | hy
        · exact .inl rfl
        · exact .inr (hdigits y (List.mem_append_right ds hy))
  rw [htext] at hy
  split at hy
  · rcases List.mem_cons.1 hy with rfl | hy
    · exact .inl rfl
    · exact .inr (hbody hy)
  · exact .inr (hbody hy)

/-- A text with no exponent is read as a plain amount. -/
theorem parse?_of_plain {s : String} (h : ∀ y ∈ s.toList, (y != 'e' && y != 'E') = true) :
    parse? s = parsePlain? s := by
  unfold parse?
  rw [List.span_eq_takeWhile_dropWhile, List.takeWhile_eq_self_iff.2 h,
    List.dropWhile_eq_nil_iff.2 h]

/-- Every amount but a negative zero reads back from its text. -/
theorem parse?_render {d : Decimal} (hz : d.coeff = 0 → d.negative = false) :
    parse? d.render = some d := by
  obtain ⟨ds, fs, tail, htext, hne, hdigits, htail, hlen, hvalue⟩ := render_toList d
  have hfs : ∀ y ∈ fs, y.isDigit = true := fun y hy => hdigits y (List.mem_append_right ds hy)
  have hds : ∀ y ∈ ds, y.isDigit = true := fun y hy => hdigits y (List.mem_append_left fs hy)
  have hread : ∀ negative long, readDigits negative long false false 0 0 (ds ++ tail) =
      make? negative d.coeff d.scale := by
    intro negative long
    rw [readDigits_digits hfs htail (hlen ▸ d.scale_le) ds (fun h => absurd h hne) hds
      (hvalue ▸ d.coeff_lt), hvalue, hlen]
  -- no character of the text starts an exponent
  have hplain : parse? d.render = parsePlain? d.render := by
    refine parse?_of_plain fun y hy => ?_
    rcases mem_render_toList hy with rfl | rfl | hy
    · decide
    · decide
    · have he : y ≠ 'e' := by rintro rfl; simp at hy
      have hE : y ≠ 'E' := by rintro rfl; simp at hy
      simp [he, hE]
  rw [hplain, ← make?_parts hz]
  unfold parsePlain?
  dsimp only
  rw [htext]
  cases hneg : d.negative
  · -- the text starts with a digit
    obtain ⟨x, xs, rfl⟩ := List.exists_cons_of_ne_nil hne
    have hx := hds x List.mem_cons_self
    simp only [Bool.false_eq_true, ↓reduceIte, List.cons_append]
    split
    · simp_all
    · simp_all
    · simp_all
    · rw [← List.cons_append, hread]
  · simp only [↓reduceIte]
    exact hread true _

end Decimal

end StudioRental
