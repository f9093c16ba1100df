import StudioRental.Proofs.Money.Quotient

/-!
Prices to the cent.

The price of `ms` milliseconds at an hourly rate is computed in three roundings: the product
of rate and duration (exact whenever its coefficient fits), the quotient by the milliseconds of
an hour (a nearest whole number at the places long division reached), and the rounding to
cents, a half going up in magnitude. `Money.exactCents` is the one rounding of the exact value.

The second rounding can lift a value just below a half cent onto it, and the third then rounds
it up. This cannot happen once the quotient carries seven places more than the rate: the
exact quotient then has ninths as its fraction, and the half-cent points lie a multiple of 25
above (`Money.halfUp_near`). For rates of at most eleven places every quotient that is money
does (`Money.cents_of_near`), so the price is the exact cents, and a value beyond money is
refused (`Money.totalPrice_eq_exactCents`). At more places the price can be a cent off, as at
`Money.highScaleRate` for one millisecond.
-/

namespace StudioRental

namespace Money

/-- `n / d` rounded to a whole number, a half going up. -/
def halfUp (n d : Nat) : Nat := (2 * n + d) / (2 * d)

/-- A magnitude with a sign. -/
def signed (negative : Bool) (c : Nat) : Int := if negative then -(c : Int) else c

@[simp]
theorem signed_natAbs (negative : Bool) (c : Nat) : (signed negative c).natAbs = c := by
  unfold signed
  split
  · exact Int.natAbs_neg _
  · rfl

theorem num_eq_signed (d : Decimal) : d.num = signed d.negative d.coeff := rfl

/-- The price in cents of `ms` milliseconds at `rate` per hour, computed exactly and rounded
half away from zero. -/
def exactCents (rate : Decimal) (ms : Int) : Int :=
  signed (rate.negative != decide (ms < 0))
    (halfUp (rate.coeff * ms.natAbs * 100) (10 ^ rate.scale * msPerHour))

theorem exactCents_natAbs (rate : Decimal) (ms : Int) :
    (exactCents rate ms).natAbs =
      halfUp (rate.coeff * ms.natAbs * 100) (10 ^ rate.scale * msPerHour) :=
  signed_natAbs _ _

/-! ### Rounding half up -/

theorem halfUp_mul_right {n d k : Nat} (hk : 0 < k) : halfUp (n * k) (d * k) = halfUp n d := by
  unfold halfUp
  rw [show 2 * (n * k) + d * k = (2 * n + d) * k by ring, show 2 * (d * k) = 2 * d * k by ring,
    Nat.mul_div_mul_right _ _ hk]

theorem halfUp_mul_self {x d : Nat} (hd : 0 < d) : halfUp (x * d) d = x := by
  unfold halfUp
  apply Nat.div_eq_of_lt_le <;> nlinarith

@[simp]
theorem halfUp_zero_left (d : Nat) : halfUp 0 d = 0 := by
  unfold halfUp
  rcases Nat.eq_zero_or_pos d with rfl | hd
  · rfl
  · exact Nat.div_eq_of_lt (by omega)

theorem le_halfUp_of_mul_le {n d x : Nat} (hd : 0 < d) (h : x * d ≤ n) : x ≤ halfUp n d := by
  unfold halfUp
  exact (Nat.le_div_iff_mul_le (by omega)).2 (by nlinarith)

theorem dropHalfAway_eq_halfUp (c k : Nat) : Decimal.dropHalfAway c k = halfUp c (10 ^ k) := by
  have hp : 0 < 10 ^ k := Nat.pow_pos (by decide)
  have hdm := Nat.div_add_mod c (10 ^ k)
  have hr := Nat.mod_lt c hp
  unfold Decimal.dropHalfAway halfUp
  dsimp only
  generalize 10 ^ k = p at hp hdm hr ⊢
  generalize c / p = q at hdm ⊢
  generalize c % p = r at hdm hr ⊢
  subst hdm
  split <;> (symm; apply Nat.div_eq_of_lt_le) <;> nlinarith

/-- Rounding twice, first to a nearest whole number of `N / 3 600 000` and then half up to
`10^m`, is rounding once, when `N` is a multiple of `10^7` up to ninths and `m ≥ 2`: a value
just below a half point `B` would need `9 (B · 3 600 000 - N)` to lie between one and four
times `3 600 000`, while `25` divides `B` and `9 N / 3 600 000`. -/
theorem halfUp_near {N q m : Nat} (hnear : Decimal.Near N msPerHour q) (hm : 2 ≤ m) (t : Nat)
    (hN : 9 * N = 90000000 * t) : halfUp q (10 ^ m) = halfUp N (msPerHour * 10 ^ m) := by
  obtain ⟨K, hK⟩ : ∃ K, 10 ^ m = 100 * K := by
    obtain ⟨k, rfl⟩ := Nat.exists_eq_add_of_le hm
    exact ⟨10 ^ k, by ring⟩
  have hK0 : 0 < K := by
    have : 0 < 10 ^ m := Nat.pow_pos (by decide)
    omega
  unfold Decimal.Near msPerHour at hnear
  unfold halfUp msPerHour
  rw [hK]
  -- `j` is the single rounding; the double one is pinned between the same bounds
  have hdm := Nat.div_add_mod (2 * N + 3600000 * (100 * K)) (2 * (3600000 * (100 * K)))
  have hr := Nat.mod_lt (2 * N + 3600000 * (100 * K)) (show 0 < 2 * (3600000 * (100 * K)) by omega)
  generalize (2 * N + 3600000 * (100 * K)) / (2 * (3600000 * (100 * K))) = j at hdm ⊢
  generalize (2 * N + 3600000 * (100 * K)) % (2 * (3600000 * (100 * K))) = r at hdm hr
  have e₁ : 2 * (3600000 * (100 * K)) * j = 720000000 * (j * K) := by ring
  have e₂ : j * (2 * (100 * K)) = 200 * (j * K) := by ring
  have e₃ : (j + 1) * (2 * (100 * K)) = 200 * (j * K) + 200 * K := by ring
  rw [e₁] at hdm
  apply Nat.div_eq_of_lt_le
  · rw [e₂]
    omega
  · rw [e₃]
    omega

/-! ### From the quotient to cents -/

section

variable {P rs u q : Nat}

theorem cents_of_exact (h : P * 10 ^ u = q * msPerHour) :
    halfUp (q * 100) (10 ^ (rs + u)) = halfUp (P * 100) (10 ^ rs * msPerHour) := by
  have hu : 0 < 10 ^ u := Nat.pow_pos (by decide)
  have hD : 0 < msPerHour := by decide
  calc halfUp (q * 100) (10 ^ (rs + u))
      = halfUp (q * 100 * msPerHour) (10 ^ (rs + u) * msPerHour) := (halfUp_mul_right hD).symm
    _ = halfUp (P * 100 * 10 ^ u) (10 ^ rs * msPerHour * 10 ^ u) := by
        rw [Nat.pow_add]
        congr 1
        · rw [Nat.mul_right_comm, ← h]
          ring
        · ring
    _ = halfUp (P * 100) (10 ^ rs * msPerHour) := halfUp_mul_right hu

theorem cents_of_deep (hu : 7 ≤ u) (hnear : Decimal.Near (P * 10 ^ u) msPerHour q) :
    halfUp (q * 100) (10 ^ (rs + u)) = halfUp (P * 100) (10 ^ rs * msPerHour) := by
  -- seven places give the quotient's denominator `3 600 000 / 10^7`, that is ninths
  obtain ⟨v, rfl⟩ := Nat.exists_eq_add_of_le hu
  calc halfUp (q * 100) (10 ^ (rs + (7 + v)))
      = halfUp q (10 ^ (rs + 5 + v)) := by
        rw [show 10 ^ (rs + (7 + v)) = 10 ^ (rs + 5 + v) * 100 by ring,
          halfUp_mul_right (by decide)]
    _ = halfUp (P * 10 ^ (7 + v)) (msPerHour * 10 ^ (rs + 5 + v)) :=
        halfUp_near hnear (by omega) (P * 10 ^ v) (by ring)
    _ = halfUp (P * 100 * 10 ^ (5 + v)) (10 ^ rs * msPerHour * 10 ^ (5 + v)) := by
        congr 1 <;> ring
    _ = halfUp (P * 100) (10 ^ rs * msPerHour) := halfUp_mul_right (Nat.pow_pos (by decide))

/-- A quotient that outgrew the coefficient within six places of a rate of at most eleven
places is beyond money, and so is the exact value. -/
theorem cents_of_overflow (hrs : rs ≤ 11) (hu : u ≤ 6)
    (hnear : Decimal.Near (P * 10 ^ u) msPerHour q) (hover : coeffBound ≤ q * 10 + 10) :
    10 ^ 12 ≤ halfUp (q * 100) (10 ^ (rs + u)) ∧ 10 ^ 12 ≤ halfUp (P * 100) (10 ^ rs * msPerHour) := by
  have hs : 10 ^ (rs + u) ≤ 10 ^ 17 := Nat.pow_le_pow_right (by decide) (by omega)
  have hr : 10 ^ rs ≤ 10 ^ 11 := Nat.pow_le_pow_right (by decide) hrs
  have hP : P * 10 ^ u ≤ P * 10 ^ 6 := Nat.mul_le_mul_left _ (Nat.pow_le_pow_right (by decide) hu)
  unfold Decimal.Near msPerHour at hnear
  unfold coeffBound at hover
  unfold msPerHour
  constructor
  · exact le_halfUp_of_mul_le (Nat.pow_pos (by decide)) (by omega)
  · exact le_halfUp_of_mul_le (Nat.mul_pos (Nat.pow_pos (by decide)) (by decide)) (by omega)

/-- Rounding the quotient of a long division to cents is rounding the exact value, or both
are beyond money. -/
theorem cents_of_near (hrs : rs ≤ 11) (hnear : Decimal.Near (P * 10 ^ u) msPerHour q)
    (hend : P * 10 ^ u = q * msPerHour ∨ rs + u = maxScale ∨ coeffBound ≤ q * 10 + 10) :
    halfUp (q * 100) (10 ^ (rs + u)) = halfUp (P * 100) (10 ^ rs * msPerHour) ∨
      10 ^ 12 ≤ halfUp (q * 100) (10 ^ (rs + u)) ∧
        10 ^ 12 ≤ halfUp (P * 100) (10 ^ rs * msPerHour) := by
  rcases hend with hexact | hmax | hover
  · exact .inl (cents_of_exact hexact)
  · exact .inl (cents_of_deep (by unfold maxScale at hmax; omega) hnear)
  · by_cases hu : 7 ≤ u
    · exact .inl (cents_of_deep hu hnear)
    · exact .inr (cents_of_overflow hrs (by omega) hnear hover)

theorem exact_of_cut (hrs : rs ≤ 11) (hP : coeffBound ≤ P) :
    10 ^ 12 ≤ halfUp (P * 100) (10 ^ rs * msPerHour) := by
  have hr : 10 ^ rs ≤ 10 ^ 11 := Nat.pow_le_pow_right (by decide) hrs
  unfold coeffBound at hP
  unfold msPerHour
  exact le_halfUp_of_mul_le (Nat.mul_pos (Nat.pow_pos (by decide)) (by decide)) (by omega)

theorem cents_of_cut (hs : rs ≤ 10) (hbig : 2 * coeffBound ≤ 20 * P + 11)
    (hnear : Decimal.Near (P * 10 ^ u) msPerHour q) :
    10 ^ 12 ≤ halfUp (q * 100) (10 ^ (rs + u)) := by
  have hu : 0 < 10 ^ u := Nat.pow_pos (by decide)
  have hs : 10 ^ (rs + u) ≤ 10 ^ 10 * 10 ^ u := by
    rw [Nat.pow_add]
    exact Nat.mul_le_mul_right _ (Nat.pow_le_pow_right (by decide) hs)
  have hscaled : 2 * coeffBound * 10 ^ u ≤ 20 * (P * 10 ^ u) + 11 * 10 ^ u := by
    have := Nat.mul_le_mul_right (10 ^ u) hbig
    linarith
  unfold Decimal.Near msPerHour at hnear
  unfold coeffBound at hscaled
  exact le_halfUp_of_mul_le (Nat.pow_pos (by decide)) (by omega)

end

end Money

namespace Decimal

@[simp]
theorem dropHalfAway_zero_places (c : Nat) : dropHalfAway c 0 = c := by
  simp [dropHalfAway, Nat.mod_one]

@[simp]
theorem dropHalfAway_zero_coeff (k : Nat) : dropHalfAway 0 k = 0 := by
  rw [Money.dropHalfAway_eq_halfUp, Money.halfUp_zero_left]

theorem roundHalfAway_of_le (d : Decimal) (dp : Nat) (h : d.scale ≤ dp) : d.roundHalfAway dp = d := by
  unfold roundHalfAway
  rw [if_pos h]

theorem roundHalfAway_of_lt (d : Decimal) (dp : Nat) (h : dp < d.scale) :
    (d.roundHalfAway dp).coeff = dropHalfAway d.coeff (d.scale - dp) ∧
      (d.roundHalfAway dp).scale = dp ∧
      ((d.roundHalfAway dp).negative = d.negative ∨ (d.roundHalfAway dp).coeff = 0) := by
  have hdp : dp ≤ maxScale := by have := d.scale_le; omega
  unfold roundHalfAway
  rw [if_neg (by omega)]
  split
  · rename_i h0
    unfold signed?
    rw [dif_pos (by decide), dif_pos hdp]
    exact ⟨by simp [h0], rfl, .inl rfl⟩
  · unfold make?
    rw [dif_pos (dropHalfAway_lt d.coeff_lt _), dif_pos hdp]
    refine ⟨rfl, rfl, ?_⟩
    cases hc : dropHalfAway d.coeff (d.scale - dp) == 0
    · exact .inl (by simp [build, bne, hc])
    · exact .inr (beq_iff_eq.1 hc)

theorem rescale_up (d : Decimal) {t : Nat} (h : d.scale ≤ t) (ht : t ≤ maxScale) :
    ∃ k, k ≤ t - d.scale ∧ (d.rescale t).coeff = d.coeff * 10 ^ k ∧
      (d.rescale t).scale = d.scale + k ∧ (d.rescale t).negative = d.negative ∧
      (k < t - d.scale → coeffBound ≤ d.coeff * 10 ^ (k + 1)) := by
  unfold rescale
  rw [Nat.min_eq_left ht]
  dsimp only
  split
  · -- a zero is written at the target scale
    rename_i h0
    unfold signed?
    rw [dif_pos (by decide), dif_pos ht]
    exact ⟨t - d.scale, le_rfl, by simp [h0], by simp; omega, rfl, fun h => absurd h (lt_irrefl _)⟩
  split
  · -- already at the target scale
    unfold signed?
    rw [dif_pos (dropHalfAway_lt d.coeff_lt _), dif_pos ht]
    exact ⟨0, Nat.zero_le _, by simp [show d.scale - t = 0 by omega], by simp; omega, rfl,
      fun h => absurd h (by omega)⟩
  · obtain ⟨hle, hfit, hmost⟩ := appendable_spec d.coeff (t - d.scale) d.coeff_lt
    unfold signed?
    rw [dif_pos hfit, dif_pos (by omega)]
    exact ⟨_, hle, rfl, rfl, rfl, hmost⟩

end Decimal

namespace Money

theorem halfUp_cents_of_le {c s : Nat} (hs : s ≤ 2) :
    halfUp (c * 100) (10 ^ s) = c * 10 ^ (2 - s) := by
  rw [show c * 100 = c * 10 ^ (2 - s) * 10 ^ s by
    rw [Nat.mul_assoc, ← Nat.pow_add, Nat.sub_add_cancel hs]]
  exact halfUp_mul_self (Nat.pow_pos (by decide))

theorem halfUp_cents_of_lt {c s : Nat} (hs : 2 < s) :
    halfUp (c * 100) (10 ^ s) = Decimal.dropHalfAway c (s - 2) := by
  rw [dropHalfAway_eq_halfUp, show 10 ^ s = 10 ^ (s - 2) * 100 by
    rw [show (100 : Nat) = 10 ^ 2 from rfl, ← Nat.pow_add, Nat.sub_add_cancel hs.le]]
  exact halfUp_mul_right (by decide)

/-- A price rounded to cents and written with two places is the value's cents, a half going up
in magnitude, when they fit in a coefficient. -/
theorem rescale_roundHalfAway_cents (d : Decimal)
    (hfit : halfUp (d.coeff * 100) (10 ^ d.scale) < coeffBound) :
    ((d.roundHalfAway places).rescale places).coeff = halfUp (d.coeff * 100) (10 ^ d.scale) ∧
      ((d.roundHalfAway places).rescale places).scale = places ∧
      (((d.roundHalfAway places).rescale places).negative = d.negative ∨
        ((d.roundHalfAway places).rescale places).coeff = 0) := by
  unfold places
  by_cases hs : d.scale ≤ 2
  · -- a value with at most two places only takes zeros, and all of them fit
    rw [d.roundHalfAway_of_le 2 hs, halfUp_cents_of_le hs]
    rw [halfUp_cents_of_le hs] at hfit
    obtain ⟨k, hk, hc, hsc, hn, hmost⟩ := d.rescale_up hs (by decide)
    have hall : k = 2 - d.scale := by
      by_contra hne
      have hlt := hmost (by omega)
      have hmono : d.coeff * 10 ^ (k + 1) ≤ d.coeff * 10 ^ (2 - d.scale) :=
        Nat.mul_le_mul_left _ (Nat.pow_le_pow_right (by decide) (by omega))
      omega
    subst hall
    exact ⟨hc, by omega, .inl hn⟩
  · -- more places are rounded away, then the two places are kept as they are
    obtain ⟨hc, hsc, hn⟩ := d.roundHalfAway_of_lt 2 (by omega)
    obtain ⟨k, hk, hc', hsc', hn', -⟩ := (d.roundHalfAway 2).rescale_up (t := 2) hsc.le (by decide)
    have hk0 : k = 0 := by omega
    subst hk0
    rw [Nat.pow_zero, Nat.mul_one] at hc'
    rw [halfUp_cents_of_lt (by omega), hc', hc, hn']
    rw [hc] at hn
    exact ⟨rfl, by omega, hn⟩

theorem check_rescale_roundHalfAway (d : Decimal) (what : String)
    (h : 10 ^ 12 ≤ halfUp (d.coeff * 100) (10 ^ d.scale)) :
    ∃ t, check ((d.roundHalfAway places).rescale places) what = .error (.validation t) := by
  suffices hbig : 10 ^ (integerDigits + ((d.roundHalfAway places).rescale places).scale) ≤
      ((d.roundHalfAway places).rescale places).coeff by
    unfold check
    by_cases hplaces : ((d.roundHalfAway places).rescale places).normalize.scale > places
    · rw [if_pos hplaces]
      exact ⟨_, rfl⟩
    · rw [if_neg hplaces, if_pos hbig]
      exact ⟨_, rfl⟩
  unfold integerDigits
  by_cases hfit : halfUp (d.coeff * 100) (10 ^ d.scale) < coeffBound
  · obtain ⟨hc, hs, -⟩ := rescale_roundHalfAway_cents d hfit
    rw [hc, hs]
    exact h
  · -- cents beyond a coefficient come from a value with at most two places that could not
    -- take all its zeros
    have hs : d.scale ≤ 2 := by
      by_contra hs
      obtain ⟨hc, -, -⟩ := d.roundHalfAway_of_lt 2 (by omega)
      have hlt := (d.roundHalfAway 2).coeff_lt
      rw [hc, ← halfUp_cents_of_lt (by omega)] at hlt
      exact hfit hlt
    rw [d.roundHalfAway_of_le places hs]
    rw [halfUp_cents_of_le hs] at hfit
    obtain ⟨k, hk, hc, hsc, -, hmost⟩ := d.rescale_up (t := places) hs (by decide)
    unfold places at hk hmost
    have hshort : k < 2 - d.scale := by
      by_contra hk'
      have := (d.rescale places).coeff_lt
      rw [hc, show k = 2 - d.scale by omega] at this
      exact hfit this
    have hover := hmost hshort
    rw [Nat.pow_succ, ← Nat.mul_assoc, ← hc] at hover
    have hpow : 10 ^ (10 + (d.rescale places).scale) ≤ 10 ^ 11 :=
      Nat.pow_le_pow_right (by decide) (by rw [hsc]; omega)
    unfold coeffBound at hover
    omega

/-! ### The price -/

theorem ofInt?_of_lt {ms : Int} (h : ms.natAbs < coeffBound) :
    ∃ d, Decimal.ofInt? ms = some d ∧ d.coeff = ms.natAbs ∧ d.scale = 0 ∧
      d.negative = (decide (ms < 0) && ms.natAbs != 0) := by
  unfold Decimal.ofInt? Decimal.make?
  rw [dif_pos h, dif_pos (Nat.zero_le _)]
  exact ⟨_, rfl, rfl, rfl, rfl⟩

theorem ofNat?_msPerHour :
    ∃ d, Decimal.ofNat? msPerHour = some d ∧ d.coeff = msPerHour ∧ d.scale = 0 ∧
      d.negative = false :=
  ⟨_, rfl, rfl, rfl, rfl⟩

theorem roundedPrice?_of_mul_eq_zero {rate : Decimal} {ms : Int} (hms : ms.natAbs < coeffBound)
    (hP : rate.coeff * ms.natAbs = 0) :
    roundedPrice? rate ms = some ((Decimal.zero.roundHalfAway places).rescale places) := by
  obtain ⟨dur, hdur, hdc, -, -⟩ := ofInt?_of_lt hms
  obtain ⟨hour, hh, hhc, -, -⟩ := ofNat?_msPerHour
  have hprod : rate.mul? dur = some Decimal.zero := by
    unfold Decimal.mul?
    rw [if_pos (by rw [hdc]; simpa [Nat.mul_eq_zero] using hP)]
  have hdiv : Decimal.zero.div? hour = some Decimal.zero := by
    unfold Decimal.div?
    rw [if_neg (by rw [hhc]; decide), if_pos (show Decimal.zero.coeff = 0 from rfl)]
  simp only [roundedPrice?, hdur, hh, hprod, hdiv, bind, Option.bind_some]

/-- The price of a duration at a rate, up to the last rounding: either nothing fits and the
exact value is beyond money, or the quotient's cents are the exact cents, with the sign of the
rate times the duration, or both are beyond money. -/
theorem roundedPrice?_cents {rate : Decimal} {ms : Int} (hr : rate.scale ≤ 11)
    (hms : ms.natAbs < coeffBound) (hP : rate.coeff * ms.natAbs ≠ 0) :
    (roundedPrice? rate ms = none ∧
        10 ^ 12 ≤ halfUp (rate.coeff * ms.natAbs * 100) (10 ^ rate.scale * msPerHour)) ∨
      ∃ hours : Decimal, roundedPrice? rate ms = some ((hours.roundHalfAway places).rescale places) ∧
        ((halfUp (hours.coeff * 100) (10 ^ hours.scale) =
              halfUp (rate.coeff * ms.natAbs * 100) (10 ^ rate.scale * msPerHour) ∧
            (hours.negative = (rate.negative != decide (ms < 0)) ∨ hours.coeff = 0)) ∨
          10 ^ 12 ≤ halfUp (hours.coeff * 100) (10 ^ hours.scale) ∧
            10 ^ 12 ≤ halfUp (rate.coeff * ms.natAbs * 100) (10 ^ rate.scale * msPerHour)) := by
  obtain ⟨dur, hdur, hdc, hds, hdn⟩ := ofInt?_of_lt hms
  obtain ⟨hour, hh, hhc, hhs, hhn⟩ := ofNat?_msPerHour
  have hrate : rate.coeff ≠ 0 := fun h0 => hP (by rw [h0, Nat.zero_mul])
  have hms0 : ms.natAbs ≠ 0 := fun h0 => hP (by rw [h0, Nat.mul_zero])
  have hhour : hour.coeff ≠ 0 := by rw [hhc]; decide
  have hrun : ∀ product, rate.mul? dur = some product →
      roundedPrice? rate ms = (product.div? hour).map (fun hours => (hours.roundHalfAway places).rescale places) := by
    intro product hprod
    simp only [roundedPrice?, hdur, hh, hprod, bind, Option.bind_some]
    cases product.div? hour <;> rfl
  -- the quotient's cents, read at the places of the long division
  have hcents : ∀ {product hours : Decimal} {u q : Nat},
      (∃ z, hours.coeff * 10 ^ z = q ∧ hours.scale + z = product.scale - hour.scale + u) →
      halfUp (hours.coeff * 100) (10 ^ hours.scale) = halfUp (q * 100) (10 ^ (product.scale + u)) := by
    rintro product hours u q ⟨z, hz, hzs⟩
    rw [← halfUp_mul_right (k := 10 ^ z) (Nat.pow_pos (by decide)), ← Nat.pow_add, hzs, hhs,
      Nat.sub_zero, ← hz]
    congr 1
    ring
  by_cases hfit : rate.coeff * ms.natAbs < coeffBound
  · -- the product is exact
    obtain ⟨product, hprod, hpc, hps, hpn⟩ := Decimal.mul?_exact hrate (by rw [hdc]; exact hms0)
      (by rw [hdc]; exact hfit) (by rw [hds]; unfold maxScale; omega)
    obtain ⟨u, q, hours, hdiv, -, hnear, hend, hz, hneg⟩ :=
      Decimal.div?_spec (a := product) (b := hour) (by rw [hpc, hdc]; exact hP) hhour
        (by rw [hhs]; exact Nat.zero_le _)
        (by rw [hpc, hhc, hdc]; unfold coeffBound msPerHour at *; omega)
    rw [hpc, hdc, hhc] at hnear hend
    rw [hhs, Nat.sub_zero, hps, hds, Nat.add_zero] at hend
    refine .inr ⟨hours, by rw [hrun product hprod, hdiv]; rfl, ?_⟩
    rw [hcents hz, hps, hds, Nat.add_zero]
    rcases cents_of_near hr hnear hend with heq | hbig
    · refine .inl ⟨heq, ?_⟩
      by_cases hq : q = 0
      · obtain ⟨z, hz, -⟩ := hz
        rw [hq, Nat.mul_eq_zero] at hz
        exact .inr (hz.resolve_right (Nat.pos_iff_ne_zero.1 (Nat.pow_pos (by decide))))
      · refine .inl ?_
        rw [hneg, hpn, hdn, hhn, bne_iff_ne.2 hms0, bne_iff_ne.2 hq]
        simp
    · exact .inr hbig
  · -- the product gives up places, and every price it leads to is beyond money
    have hbig := exact_of_cut hr (Nat.le_of_not_lt hfit)
    cases hprod : rate.mul? dur with
    | none =>
      refine .inl ⟨?_, hbig⟩
      simp only [roundedPrice?, hdur, hh, hprod, bind, Option.bind_some, Option.bind_none]
    | some product =>
      obtain ⟨hps, hpbig⟩ := Decimal.mul?_cut (by rw [hdc]; exact Nat.le_of_not_lt hfit)
        (by rw [hds]; unfold maxScale; omega) hprod
      obtain ⟨u, q, hours, hdiv, -, hnear, -, hz, -⟩ :=
        Decimal.div?_spec (a := product) (b := hour) (by unfold coeffBound at hpbig; omega) hhour
          (by rw [hhs]; exact Nat.zero_le _)
          (by have := product.coeff_lt; rw [hhc]; unfold coeffBound msPerHour at *; omega)
      rw [hhc] at hnear
      refine .inr ⟨hours, by rw [hrun product hprod, hdiv]; rfl, .inr ⟨?_, hbig⟩⟩
      rw [hcents hz]
      exact cents_of_cut (by rw [hds] at hps; omega) hpbig hnear

theorem signed_of_sign {a b : Bool} {c : Nat} (h : a = b ∨ c = 0) : signed a c = signed b c := by
  rcases h with rfl | rfl
  · rfl
  · cases a <;> cases b <;> rfl

/-- The price of a duration at a rate of at most eleven places is its exact value rounded half
away from zero to cents, with two places, when that is below `10^10` in magnitude; otherwise
the price is refused as invalid. -/
theorem totalPrice_eq_exactCents (rate : Decimal) (ms : Int) (hr : rate.scale ≤ 11)
    (hms : ms.natAbs < coeffBound) :
    ((exactCents rate ms).natAbs < 10 ^ 12 →
      ∃ p, totalPrice rate ms = .ok p ∧ p.num = exactCents rate ms ∧ p.scale = places) ∧
    (10 ^ 12 ≤ (exactCents rate ms).natAbs →
      ∃ t, totalPrice rate ms = .error (.validation t)) := by
  rw [exactCents_natAbs]
  by_cases hP : rate.coeff * ms.natAbs = 0
  · -- nothing to pay
    have hzero : halfUp (rate.coeff * ms.natAbs * 100) (10 ^ rate.scale * msPerHour) = 0 := by
      rw [hP, Nat.zero_mul, halfUp_zero_left]
    refine ⟨fun _ => ⟨(Decimal.zero.roundHalfAway places).rescale places, ?_, ?_, rfl⟩,
      fun h => by omega⟩
    · unfold totalPrice
      rw [roundedPrice?_of_mul_eq_zero hms hP]
      rfl
    · unfold exactCents
      rw [hzero]
      cases rate.negative != decide (ms < 0) <;> rfl
  rcases roundedPrice?_cents hr hms hP with ⟨hnone, hbig⟩ | ⟨hours, hsome, hcents⟩
  · refine ⟨fun hlt => absurd hbig (by omega), fun _ => ⟨"price out of range", ?_⟩⟩
    unfold totalPrice
    rw [hnone]
  constructor
  · intro hlt
    rcases hcents with ⟨hF, hsign⟩ | ⟨-, hbig⟩
    · obtain ⟨hc, hs, hn⟩ := rescale_roundHalfAway_cents hours
        (by rw [hF]; unfold coeffBound; omega)
      rw [hF] at hc
      refine ⟨_, ?_, ?_, hs⟩
      · -- the cents pass the money check
        unfold totalPrice
        rw [hsome]
        dsimp only
        obtain ⟨z, -, hzs, -⟩ := ((hours.roundHalfAway places).rescale places).normalize_spec
        unfold check
        rw [if_neg (by rw [hs] at hzs; unfold places at hzs ⊢; omega),
          if_neg (by rw [hc, hs]; unfold integerDigits places; omega)]
      · rw [num_eq_signed, hc]
        exact signed_of_sign (by rcases hn with hn | hn <;> rcases hsign with hs' | hs' <;> simp_all)
    · omega
  · intro hbig
    have hF : 10 ^ 12 ≤ halfUp (hours.coeff * 100) (10 ^ hours.scale) := by
      rcases hcents with ⟨hF, -⟩ | ⟨hF, -⟩
      · omega
      · exact hF
    obtain ⟨t, ht⟩ := check_rescale_roundHalfAway hours "total price" hF
    refine ⟨t, ?_⟩
    unfold totalPrice
    rw [hsome]
    exact ht

/-- An hourly rate of 950.50. -/
def roomRate : Decimal := ⟨false, 95050, 2, by decide, by decide⟩

/-- An hour and a half at 950.50 costs 1425.75. -/
theorem roomRate_totalPrice_eq_exactCents :
    (roomRate.scale ≤ 11 ∧ (5400000 : Int).natAbs < coeffBound) ∧
      (((exactCents roomRate 5400000).natAbs < 10 ^ 12 →
        ∃ p, totalPrice roomRate 5400000 = .ok p ∧ p.num = exactCents roomRate 5400000 ∧
          p.scale = places) ∧
      (10 ^ 12 ≤ (exactCents roomRate 5400000).natAbs →
        ∃ t, totalPrice roomRate 5400000 = .error (.validation t))) :=
  ⟨⟨by decide, by decide⟩, totalPrice_eq_exactCents roomRate 5400000 (by decide) (by decide)⟩

/-- An hourly rate of 17 999.999… with 22 places. -/
def highScaleRate : Decimal := ⟨false, 179999999999999999999999999, 22, by decide, by decide⟩

-- At 22 places one millisecond costs a cent, though its exact price is below half a cent:
-- long division stops at 28 places and rounds the quotient up onto half a cent, which the
-- rounding to cents then takes up.
example : (totalPrice highScaleRate 1).toOption.map Decimal.num = some 1 ∧
    exactCents highScaleRate 1 = 0 := by
  constructor <;> decide

end Money

end StudioRental
