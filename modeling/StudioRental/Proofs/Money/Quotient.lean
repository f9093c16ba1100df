import StudioRental.Proofs.Money.Price
import Mathlib.Tactic.IntervalCases
import Mathlib.Tactic.Linarith
import Mathlib.Tactic.Ring

/-!
Exact products and nearest quotients.

A product of two decimals whose coefficients multiply to something below `2^96`, at no more than
28 places, is exact (`Decimal.mul?_exact`); otherwise places are given up and the coefficient
is at least the exact one with those places cut off (`Decimal.mul?_cut`).

Long division of a coefficient `n` by `d` ends on a nearest whole number to `n · 10^u / d` for
the number `u` of places it appended (`Decimal.Near`, `Decimal.longDivide_spec`): each step keeps
quotient and remainder of the scaled numerator, the last digit is rounded on the remainder, and a
quotient that outgrows the coefficient gives one place back, rounding again on what it drops
and on the remainder. It stops with the quotient exact, or at 28 places, or with a coefficient
that cannot take another digit. A quotient `a / b` with at least as many places in `a` as in
`b` is such a division, shortened by dropping trailing zeros (`Decimal.div?_spec`).
-/

namespace StudioRental

namespace Decimal

/-- `q` is a whole number nearest to `n / d`: `|n - q·d| ≤ d / 2`. -/
def Near (n d q : Nat) : Prop := 2 * n ≤ (2 * q + 1) * d ∧ 2 * q * d ≤ 2 * n + d

theorem Near.of_exact {n d q : Nat} (h : n = q * d) : Near n d q := by
  subst h
  constructor <;> nlinarith

/-! ### The steps of long division -/

theorem near_roundLast {n d q r : Nat} (hn : q * d + r = n) (hr : r < d) (c : Bool) :
    Near n d (if 2 * r > d || (2 * r == d && c) then q + 1 else q) := by
  subst hn
  split
  · rename_i hup
    have h2 : d ≤ 2 * r := by
      simp only [Bool.or_eq_true, decide_eq_true_eq, Bool.and_eq_true, beq_iff_eq] at hup
      omega
    constructor <;> nlinarith
  · rename_i hup
    have h2 : 2 * r ≤ d := by
      simp only [Bool.or_eq_true, decide_eq_true_eq, Bool.and_eq_true, beq_iff_eq, not_or] at hup
      omega
    constructor <;> nlinarith

theorem dropOverflow_near {y d q r : Nat} (scale : Int) (hn : q * d + r = 10 * y) (hr : r < d)
    (hs : 0 < scale) :
    ∃ q', dropOverflow q scale (r != 0) = some (q', scale - 1) ∧ Near y d q' ∧ q / 10 ≤ q' ∧
      q' ≤ q / 10 + 1 := by
  unfold dropOverflow
  rw [if_neg (by omega)]
  refine ⟨_, rfl, ?_, ?_, ?_⟩
  · -- the last digit `b` of the quotient and the remainder tell on which side of a half `y` is
    obtain ⟨a, b, hb, rfl⟩ : ∃ a b, b < 10 ∧ q = 10 * a + b :=
      ⟨q / 10, q % 10, Nat.mod_lt _ (by decide), (Nat.div_add_mod q 10).symm⟩
    have hy : 10 * (a * d) + b * d + r = 10 * y := by rw [← hn]; ring
    have hdown : b * d + r ≤ 5 * d → Near y d a := fun h => ⟨by nlinarith, by nlinarith⟩
    have hup : 5 * d ≤ b * d + r → Near y d (a + 1) := fun h => ⟨by nlinarith, by nlinarith⟩
    rw [show (10 * a + b) / 10 = a by omega, show (10 * a + b) % 10 = b by omega]
    split
    · rename_i hc
      simp only [Bool.or_eq_true, decide_eq_true_eq, Bool.and_eq_true, beq_iff_eq] at hc
      rcases hc with hb6 | ⟨rfl, -⟩
      · exact hup (by nlinarith)
      · exact hup (by omega)
    · rename_i hc
      simp only [Bool.or_eq_true, decide_eq_true_eq, Bool.and_eq_true, beq_iff_eq, not_or,
        not_and, bne_iff_ne, ne_eq] at hc
      by_cases hb5 : b = 5
      · subst hb5
        have hr0 : r = 0 := Classical.not_not.1 (hc.2 rfl).1
        exact hdown (by omega)
      · have hb4 : b ≤ 4 := by omega
        exact hdown (by nlinarith)
  · split <;> omega
  · split <;> omega

theorem near_overflow {y d r : Nat} (hn : (coeffBound - 1) * d + r = 10 * y) (hr : r < d) :
    Near y d (coeffBound / 10 + 1) := by
  have hb : coeffBound = 79228162514264337593543950336 := by decide
  rw [hb] at hn ⊢
  constructor <;> omega

/-- The last digit of long division, rounded on the remainder: a nearest quotient at the same
places, or, when rounding up overflows the coefficient, one place fewer. -/
theorem roundLast_spec (s₀ : Nat) {n d q r t : Nat} (hn : q * d + r = n * 10 ^ t) (hr : r < d)
    (hq : q < coeffBound) (ht0 : t = 0 → q + 1 < coeffBound) :
    ∃ u q', (if 2 * r > d || (2 * r == d && q % 2 == 1) then
        (if q + 1 < coeffBound then some (q + 1, ((s₀ + t : Nat) : Int))
          else dropOverflow (q + 1) ((s₀ + t : Nat) : Int) true)
        else some (q, ((s₀ + t : Nat) : Int))) = some (q', ((s₀ + u : Nat) : Int)) ∧
      u ≤ t ∧ q' < coeffBound ∧ Near (n * 10 ^ u) d q' ∧
      ((u = t ∧ q ≤ q') ∨ coeffBound ≤ q' * 10 + 10) := by
  have hnear := near_roundLast hn hr (q % 2 == 1)
  split
  · rename_i hup
    rw [if_pos hup] at hnear
    by_cases hfit : q + 1 < coeffBound
    · rw [if_pos hfit]
      exact ⟨t, q + 1, rfl, le_rfl, hfit, hnear, .inl ⟨rfl, Nat.le_succ q⟩⟩
    · -- the quotient was the largest coefficient: give back a place, with a remainder left
      rw [if_neg hfit]
      obtain ⟨t, rfl⟩ : ∃ t', t = t' + 1 := ⟨t - 1, by have := mt ht0 hfit; omega⟩
      have hq1 : q = coeffBound - 1 := by omega
      have hy : (coeffBound - 1) * d + r = 10 * (n * 10 ^ t) := by
        rw [← hq1, hn, Nat.pow_succ]; ring
      refine ⟨t, coeffBound / 10 + 1, ?_, Nat.le_succ t, by decide, near_overflow hy hr,
        .inr (by decide)⟩
      unfold dropOverflow
      rw [if_neg (by omega), hq1, Nat.sub_add_cancel (by decide)]
      have hc : coeffBound % 10 = 6 := by decide
      simp only [hc]
      congr 2
      omega
  · rename_i hdown
    rw [if_neg hdown] at hnear
    exact ⟨t, q, rfl, le_rfl, hq, hnear, .inl ⟨rfl, le_rfl⟩⟩

theorem stepDigits_of_nonneg (q : Nat) {scale : Int} (h : 0 ≤ scale) :
    stepDigits q scale = some (appendable q (if scale > 19 then (28 - scale).toNat else 9)) := by
  unfold stepDigits
  rw [if_neg (by omega)]

/-- Long division of `n` by `d`, started `t` places past `s₀` on the quotient and remainder of
`n · 10^t`, ends at `s₀ + u ≤ 28` places on a nearest quotient of `n · 10^u` by `d` within the
coefficient's range; the quotient is then exact, or at 28 places, or too large to take another
digit. Enough fuel is one step per place still open. -/
theorem longDivide_spec (n s₀ : Nat) {d : Nat} (hd : 0 < d) :
    ∀ fuel q r t, r < d → q < coeffBound → q * d + r = n * 10 ^ t → s₀ + t ≤ maxScale →
      (t = 0 → q + 1 < coeffBound) → maxScale < fuel + s₀ + t →
      ∃ u q', longDivide d fuel q r ((s₀ + t : Nat) : Int) = some (q', ((s₀ + u : Nat) : Int)) ∧
        s₀ + u ≤ maxScale ∧ q' < coeffBound ∧ Near (n * 10 ^ u) d q' ∧
        (n * 10 ^ u = q' * d ∨ s₀ + u = maxScale ∨ coeffBound ≤ q' * 10 + 10) := by
  intro fuel
  induction fuel with
  | zero => intro q r t _ _ _ hs _ hf; omega
  | succ fuel ih =>
    intro q r t hr hq hn hs ht0 hf
    rw [longDivide]
    by_cases hr0 : r = 0
    · -- nothing left to divide: the quotient is exact
      subst hr0
      rw [if_pos rfl, if_pos (by omega)]
      have hexact : n * 10 ^ t = q * d := by omega
      exact ⟨t, q, rfl, hs, hq, .of_exact hexact, .inl hexact⟩
    rw [if_neg hr0]
    dsimp only
    obtain ⟨u, q₁, hlast, hut, hq₁, hnear, hgrow⟩ := roundLast_spec s₀ hn hr hq ht0
    by_cases h28 : ((s₀ + t : Nat) : Int) = (maxScale : Int)
    · -- at 28 places only the last digit is rounded
      rw [if_pos h28]
      refine ⟨u, q₁, hlast, by omega, hq₁, hnear, .inr ?_⟩
      rcases hgrow with ⟨rfl, -⟩ | hbig
      · exact .inl (by omega)
      · exact .inr hbig
    rw [if_neg h28, stepDigits_of_nonneg q (by omega)]
    have hlimit : 0 < (if ((s₀ + t : Nat) : Int) > 19 then (28 - ((s₀ + t : Nat) : Int)).toNat
        else 9) := by
      unfold maxScale at hs h28
      split <;> omega
    obtain ⟨hxle, hxfit, hxmost⟩ := appendable_spec q
      (if ((s₀ + t : Nat) : Int) > 19 then (28 - ((s₀ + t : Nat) : Int)).toNat else 9) hq
    generalize appendable q _ = x at hxle hxfit hxmost ⊢
    rcases x with _ | x
    · -- no digit fits after the quotient: round the last one
      refine ⟨u, q₁, hlast, by omega, hq₁, hnear, .inr (.inr ?_)⟩
      have hbig := hxmost hlimit
      rcases hgrow with ⟨rfl, hle⟩ | hbig'
      · simp only [Nat.zero_add, Nat.pow_one] at hbig
        omega
      · exact hbig'
    · -- append `x + 1` digits of the quotient of the shifted remainder
      have hx : s₀ + t + (x + 1) ≤ maxScale := by
        unfold maxScale at hs h28 ⊢
        split at hxle <;> omega
      have hstep : (q * 10 ^ (x + 1) + r * 10 ^ (x + 1) / d) * d + r * 10 ^ (x + 1) % d =
          n * 10 ^ (t + (x + 1)) := by
        have hdm := Nat.div_add_mod (r * 10 ^ (x + 1)) d
        have hpow : n * 10 ^ (t + (x + 1)) = (q * d + r) * 10 ^ (x + 1) := by
          rw [hn, Nat.pow_add]; ring
        rw [hpow]
        linarith
      have hshift : ((s₀ + t : Nat) : Int) + ((x + 1 : Nat) : Int) =
          ((s₀ + (t + (x + 1)) : Nat) : Int) := by
        push_cast; ring
      -- the step appends exactly the digits `appendable` allows
      split
      next heq => cases heq
      next heq => cases heq
      next _ _ heq =>
        cases heq
        split
        · -- the quotient outgrew the coefficient: give a place back
          rename_i hover
          obtain ⟨q₂, hdrop, hnear₂, hlo, hhi⟩ := dropOverflow_near (y := n * 10 ^ (t + x))
            (((s₀ + t : Nat) : Int) + ((x + 1 : Nat) : Int))
            (by rw [hstep, show t + (x + 1) = (t + x) + 1 by omega, Nat.pow_succ]; ring)
            (Nat.mod_lt _ hd) (by omega)
          refine ⟨t + x, q₂, ?_, by omega, ?_, hnear₂, .inr (.inr ?_)⟩
          · rw [hdrop]
            congr 2
            push_cast; ring
          · -- the overflowed quotient is below `2^96 + 10^(x+1)`
            have hrem : r * 10 ^ (x + 1) / d < 10 ^ (x + 1) := by
              rw [Nat.div_lt_iff_lt_mul hd, Nat.mul_comm (10 ^ (x + 1))]
              exact Nat.mul_lt_mul_of_pos_right hr (Nat.pow_pos (by decide))
            have h9 : 10 ^ (x + 1) ≤ 10 ^ 9 := Nat.pow_le_pow_right (by decide) (by
              unfold maxScale at hs h28
              split at hxle <;> omega)
            have hb : 10 ^ 9 + coeffBound < 10 * coeffBound - 10 := by decide
            omega
          · omega
        · rename_i hfit
          obtain ⟨u₃, q₃, hrec, hrest⟩ := ih _ _ (t + (x + 1)) (Nat.mod_lt _ hd) (by omega) hstep
            (by omega) (by omega) (by omega)
          exact ⟨u₃, q₃, by rw [hshift]; exact hrec, hrest⟩

/-! ### Quotients of decimals -/

theorem trailingZeros_spec : ∀ (k n : Nat), trailingZeros n k ≤ k ∧ 10 ^ trailingZeros n k ∣ n
  | 0, n => ⟨le_rfl, by simp [trailingZeros]⟩
  | k + 1, n => by
    unfold trailingZeros
    split
    · rename_i h
      simp only [Bool.and_eq_true, bne_iff_ne, ne_eq, beq_iff_eq] at h
      obtain ⟨hle, ⟨m, hm⟩⟩ := trailingZeros_spec k (n / 10)
      refine ⟨by omega, m, ?_⟩
      rw [Nat.pow_succ, Nat.mul_comm _ 10, Nat.mul_assoc, ← hm]
      omega
    · exact ⟨Nat.zero_le _, by simp⟩

/-- Dropping trailing zeros keeps the number: the coefficient loses as many zeros as the
scale loses places. -/
theorem normalize_spec (d : Decimal) :
    ∃ z, d.normalize.coeff * 10 ^ z = d.coeff ∧ d.normalize.scale + z = d.scale ∧
      d.normalize.negative = (d.negative && d.coeff != 0) := by
  unfold normalize
  split
  · rename_i h
    exact ⟨d.scale, by simp [h, zero, zeroWith], by simp [zero, zeroWith], by simp [h, zero, zeroWith]⟩
  · rename_i h
    obtain ⟨hle, m, hm⟩ := trailingZeros_spec d.scale d.coeff
    simp only [build]
    generalize trailingZeros d.coeff d.scale = z at hle hm ⊢
    have hdiv : d.coeff / 10 ^ z = m := by
      rw [hm, Nat.mul_div_cancel_left _ (Nat.pow_pos (by decide))]
    have hm0 : m ≠ 0 := by
      rintro rfl
      exact h (by simpa using hm)
    refine ⟨z, ?_, by omega, ?_⟩
    · rw [hdiv, hm, Nat.mul_comm]
    · rw [hdiv, bne_iff_ne.2 hm0, bne_iff_ne.2 h]

/-- A quotient of decimals, where the dividend has at least the divisor's places, is a long
division of the coefficients from the difference of the places, with trailing zeros dropped. -/
theorem div?_spec {a b : Decimal} (ha : a.coeff ≠ 0) (hb : b.coeff ≠ 0) (hs : b.scale ≤ a.scale)
    (hq : a.coeff / b.coeff + 1 < coeffBound) :
    ∃ u q v, div? a b = some v ∧ a.scale - b.scale + u ≤ maxScale ∧ Near (a.coeff * 10 ^ u) b.coeff q ∧
      (a.coeff * 10 ^ u = q * b.coeff ∨ a.scale - b.scale + u = maxScale ∨
        coeffBound ≤ q * 10 + 10) ∧
      (∃ z, v.coeff * 10 ^ z = q ∧ v.scale + z = a.scale - b.scale + u) ∧
      v.negative = ((a.negative != b.negative) && q != 0) := by
  obtain ⟨u, q, hlong, hle, hqb, hnear, hend⟩ :=
    longDivide_spec a.coeff (a.scale - b.scale) (Nat.pos_of_ne_zero hb) 80
      (a.coeff / b.coeff) (a.coeff % b.coeff) 0 (Nat.mod_lt _ (Nat.pos_of_ne_zero hb))
      (by omega) (by rw [Nat.pow_zero, Nat.mul_one, Nat.mul_comm]; exact Nat.div_add_mod _ _)
      (by have := a.scale_le; omega) (fun _ => hq) (by unfold maxScale; omega)
  have hscale : ((a.scale - b.scale + 0 : Nat) : Int) = (a.scale : Int) - b.scale := by omega
  rw [hscale] at hlong
  -- the quotient fits, and so does its scale
  have hmake : make? (a.negative != b.negative) q (((a.scale - b.scale + u : Nat) : Int)).toNat =
      some (build (a.negative != b.negative) q (a.scale - b.scale + u) hqb hle) := by
    unfold make?
    rw [Int.toNat_natCast, dif_pos hqb, dif_pos hle]
  let v := build (a.negative != b.negative) q (a.scale - b.scale + u) hqb hle
  have hv : v.negative = ((a.negative != b.negative) && q != 0) := rfl
  unfold div?
  rw [if_neg hb, if_neg ha]
  dsimp only
  rw [hlong]
  dsimp only
  rw [hmake]
  dsimp only
  split
  · exact ⟨u, q, v, rfl, hle, hnear, hend, ⟨0, by simp [v, build], rfl⟩, hv⟩
  · obtain ⟨z, hz, hzs, hzn⟩ := normalize_spec v
    refine ⟨u, q, v.normalize, rfl, hle, hnear, hend, ⟨z, hz, hzs⟩, ?_⟩
    rw [hzn, hv]
    cases a.negative != b.negative <;> cases hq0 : q != 0 <;> simp_all [v, build]

/-! ### Products of decimals -/

/-- Dropping `k` places rounds half to even, which is a nearest rounding. -/
theorem divPow10Even_near (n k : Nat) : Near n (10 ^ k) (divPow10Even n k) :=
  near_roundLast (Nat.div_add_mod' n (10 ^ k)) (Nat.mod_lt _ (Nat.pow_pos (by decide))) _

@[simp]
theorem divPow10Even_zero (n : Nat) : divPow10Even n 0 = n := by
  simp [divPow10Even, Nat.mod_one]

theorem fitEven_cut {n : Bool} {c s : Nat} {v : Decimal} :
    ∀ fuel drop, fitEven n c s drop fuel = some v →
      ∃ k, drop ≤ k ∧ v.scale + k = s ∧ v.coeff = divPow10Even c k ∧
        ∀ j, drop ≤ j → j < k → coeffBound ≤ divPow10Even c j
  | 0, _, h => by cases h
  | fuel + 1, drop, h => by
    unfold fitEven at h
    dsimp only at h
    split_ifs at h with hd hc
    · obtain ⟨-, hcoeff, hscale⟩ := make?_eq_some h
      exact ⟨drop, le_rfl, by omega, hcoeff, fun j h1 h2 => absurd h2 (by omega)⟩
    · obtain ⟨k, hk, hks, hkc, hbelow⟩ := fitEven_cut fuel (drop + 1) h
      refine ⟨k, by omega, hks, hkc, fun j h1 h2 => ?_⟩
      rcases Nat.eq_or_lt_of_le h1 with rfl | h1
      · exact Nat.le_of_not_lt hc
      · exact hbelow j h1 h2

/-- A product whose coefficient fits, at no more than 28 places, is exact. -/
theorem mul?_exact {a b : Decimal} (ha : a.coeff ≠ 0) (hb : b.coeff ≠ 0)
    (hp : a.coeff * b.coeff < coeffBound) (hs : a.scale + b.scale ≤ maxScale) :
    ∃ v, mul? a b = some v ∧ v.coeff = a.coeff * b.coeff ∧ v.scale = a.scale + b.scale ∧
      v.negative = (a.negative != b.negative) := by
  have hp0 : a.coeff * b.coeff ≠ 0 := Nat.mul_ne_zero ha hb
  have hmake : make? (a.negative != b.negative) (a.coeff * b.coeff) (a.scale + b.scale) =
      some (build (a.negative != b.negative) (a.coeff * b.coeff) (a.scale + b.scale) hp hs) := by
    unfold make?
    rw [dif_pos hp, dif_pos hs]
  unfold mul?
  simp only [ha, hb, decide_false, Bool.or_self, Bool.false_eq_true, if_false]
  rw [if_neg (by simp; omega), show a.scale + b.scale - maxScale = 0 by omega, fitEven]
  simp only [Nat.not_lt_zero, if_false, divPow10Even_zero, Nat.sub_zero, if_pos hp, hmake]
  exact ⟨_, rfl, rfl, rfl, by simp [build, hp0]⟩

/-- A product whose coefficient does not fit gives up at least one place, and keeps a
coefficient of about a tenth of `2^96` or more. -/
theorem mul?_cut {a b v : Decimal} (hp : coeffBound ≤ a.coeff * b.coeff)
    (hs : a.scale + b.scale ≤ maxScale) (h : mul? a b = some v) :
    v.scale < a.scale + b.scale ∧ 2 * coeffBound ≤ 20 * v.coeff + 11 := by
  have hb0 : coeffBound ≠ 0 := by decide
  have ha : a.coeff ≠ 0 := by rintro h0; rw [h0, Nat.zero_mul] at hp; omega
  have hb : b.coeff ≠ 0 := by rintro h0; rw [h0, Nat.mul_zero] at hp; omega
  unfold mul? at h
  simp only [ha, hb, decide_false, Bool.or_self, Bool.false_eq_true, if_false] at h
  rw [if_neg (by simp; omega), show a.scale + b.scale - maxScale = 0 by omega] at h
  obtain ⟨k, -, hks, hkc, hbelow⟩ := fitEven_cut _ 0 h
  -- no place dropped would leave the whole product, which does not fit
  have hk : k ≠ 0 := by
    rintro rfl
    have := v.coeff_lt
    rw [hkc, divPow10Even_zero] at this
    omega
  obtain ⟨j, rfl⟩ : ∃ j, k = j + 1 := Nat.exists_eq_succ_of_ne_zero hk
  refine ⟨by omega, ?_⟩
  -- the coefficient one place earlier was too large, and both are nearest roundings
  have hprev := hbelow j (Nat.zero_le j) (Nat.lt_succ_self j)
  have hnear₁ := (divPow10Even_near (a.coeff * b.coeff) j).2
  have hnear₂ := (divPow10Even_near (a.coeff * b.coeff) (j + 1)).1
  rw [← hkc, Nat.pow_succ] at hnear₂
  have ht : 0 < 10 ^ j := Nat.pow_pos (by decide)
  have hmul : 2 * coeffBound * 10 ^ j ≤ (20 * v.coeff + 11) * 10 ^ j := by nlinarith
  exact Nat.le_of_mul_le_mul_right hmul ht

end Decimal

end StudioRental
