import StudioRental.Money.Price
import Mathlib.Tactic.SplitIfs
import Mathlib.Algebra.Group.Nat.Defs
import Mathlib.Algebra.Group.Int.Defs

/-!
Signs and places of prices.

A decimal is at least zero when it carries no sign or is zero (`Decimal.zero_le_iff`).
Multiplying and dividing such numbers, rounding them and rescaling them never brings a sign in,
so at a rate of at least zero every price is at least zero (`Money.totalPrice_nonneg`).

Rescaling to two places reaches them unless the coefficient is too large to take one more zero
(`Decimal.rescale_scale`); such a coefficient is far above what money allows, so every price
that passes the money check has exactly two places (`Money.totalPrice_eq_ok`).
-/

namespace StudioRental

namespace Decimal

theorem zero_le_iff {d : Decimal} : zero ≤ d ↔ d.negative = false ∨ d.coeff = 0 := by
  show compare _ _ ≠ Ordering.gt ↔ _
  have hz : zero.num = 0 := rfl
  have hs : zero.scale = 0 := rfl
  rw [hz, hs, ne_eq, Int.compare_eq_gt]
  unfold num
  cases d.negative <;> simp

theorem zero_le_zero : zero ≤ zero := zero_le_iff.2 (.inl rfl)

theorem le_of_not_lt {a b : Decimal} (h : ¬b < a) : a ≤ b := by
  show compare _ _ ≠ Ordering.gt
  have h' : ¬compare (b.num * ((10 ^ a.scale : Nat) : Int))
      (a.num * ((10 ^ b.scale : Nat) : Int)) = Ordering.lt := h
  rw [Int.compare_eq_lt] at h'
  rw [ne_eq, Int.compare_eq_gt]
  exact h'

theorem make?_eq_some {n : Bool} {c s : Nat} {d : Decimal} (h : make? n c s = some d) :
    d.negative = (n && c != 0) ∧ d.coeff = c ∧ d.scale = s := by
  unfold make? at h
  split_ifs at h
  cases h
  exact ⟨rfl, rfl, rfl⟩

theorem signed?_eq_some {n : Bool} {c s : Nat} {d : Decimal} (h : signed? n c s = some d) :
    d.negative = n ∧ d.coeff = c ∧ d.scale = s := by
  unfold signed? at h
  split_ifs at h
  cases h
  exact ⟨rfl, rfl, rfl⟩

theorem fitEven_negative {n : Bool} {c s drop fuel : Nat} {d : Decimal}
    (h : fitEven n c s drop fuel = some d) (hd : d.negative = true) : n = true := by
  induction fuel generalizing drop with
  | zero => cases h
  | succ fuel ih =>
    unfold fitEven at h
    dsimp only at h
    split_ifs at h
    · have := (make?_eq_some h).1
      rw [hd] at this
      exact (Bool.and_eq_true_iff.1 this.symm).1
    · exact ih h

theorem make?_nonneg {c s : Nat} {d : Decimal} (h : make? false c s = some d) : zero ≤ d :=
  zero_le_iff.2 (.inl (make?_eq_some h).1)

theorem normalize_nonneg {d : Decimal} (h : zero ≤ d) : zero ≤ d.normalize := by
  unfold normalize
  split
  · exact zero_le_zero
  · rename_i hc
    -- a nonzero coefficient at least zero carries no sign, and neither does its shortening
    have hneg : d.negative = false := (zero_le_iff.1 h).resolve_right hc
    exact zero_le_iff.2 (.inl (by simp [build, hneg]))

theorem mul?_nonneg {a b c : Decimal} (ha : zero ≤ a) (hb : zero ≤ b) (h : mul? a b = some c) :
    zero ≤ c := by
  unfold mul? at h
  split at h
  · cases h
    exact zero_le_zero
  rename_i hzero
  simp only [Bool.or_eq_true, not_or] at hzero
  -- both factors are nonzero, so neither carries a sign
  have hna : a.negative = false := (zero_le_iff.1 ha).resolve_right (by simpa using hzero.1)
  have hnb : b.negative = false := (zero_le_iff.1 hb).resolve_right (by simpa using hzero.2)
  simp only [hna, hnb, bne_self_eq_false] at h
  split at h
  · split at h
    · cases h
      exact zero_le_zero
    · exact make?_nonneg h
  · refine zero_le_iff.2 (.inl ?_)
    cases hc : c.negative
    · rfl
    · exact absurd (fitEven_negative h hc) Bool.false_ne_true

theorem div?_nonneg {a b c : Decimal} (ha : zero ≤ a) (hb : b.negative = false)
    (h : div? a b = some c) : zero ≤ c := by
  unfold div? at h
  split at h
  · cases h
  split at h
  · cases h
    exact zero_le_zero
  rename_i hzero
  have hna : a.negative = false := (zero_le_iff.1 ha).resolve_right hzero
  simp only [hna, hb, bne_self_eq_false] at h
  split at h
  · cases h
  · split at h
    · cases h
    · rename_i v hv
      have hvn : zero ≤ v := make?_nonneg hv
      cases h
      split
      · exact hvn
      · exact normalize_nonneg hvn

theorem roundHalfAway_nonneg {d : Decimal} (h : zero ≤ d) (dp : Nat) :
    zero ≤ d.roundHalfAway dp := by
  unfold roundHalfAway
  split
  · exact h
  split
  · -- a zero keeps its sign, and is at least zero whatever the sign
    cases hs : signed? d.negative 0 dp with
    | none => exact h
    | some v => exact zero_le_iff.2 (.inr (signed?_eq_some hs).2.1)
  · rename_i hc
    have hneg : d.negative = false := (zero_le_iff.1 h).resolve_right hc
    rw [hneg]
    cases hm : make? false (dropHalfAway d.coeff (d.scale - dp)) dp with
    | none => exact h
    | some v => exact make?_nonneg hm

theorem rescale_nonneg {d : Decimal} (h : zero ≤ d) (target : Nat) :
    zero ≤ d.rescale target := by
  unfold rescale
  dsimp only
  split
  · cases hs : signed? d.negative 0 (min target maxScale) with
    | none => exact h
    | some v => exact zero_le_iff.2 (.inr (signed?_eq_some hs).2.1)
  · rename_i hc
    have hneg : d.negative = false := (zero_le_iff.1 h).resolve_right hc
    rw [hneg]
    -- whether places are dropped or appended, the sign stays off
    have hsigned : ∀ c s, zero ≤ (signed? false c s).getD d := fun c s => by
      cases hs : signed? false c s with
      | none => exact h
      | some v => exact zero_le_iff.2 (.inl (signed?_eq_some hs).1)
    split
    · exact hsigned _ _
    · exact hsigned _ _

/-! ### Places -/

theorem le_foldl_max {l : List Nat} {a x : Nat} (hx : x ∈ l) : x ≤ l.foldl max a := by
  -- the running maximum only grows
  have hmono : ∀ (l : List Nat) (b : Nat), b ≤ l.foldl max b := fun l => by
    induction l with
    | nil => exact fun b => Nat.le_refl b
    | cons z l ihl => exact fun b => Nat.le_trans (Nat.le_max_left b z) (ihl _)
  induction l generalizing a with
  | nil => cases hx
  | cons y l ih =>
    rw [List.foldl_cons]
    rcases List.mem_cons.1 hx with rfl | hx
    · exact Nat.le_trans (Nat.le_max_right a x) (hmono l _)
    · exact ih hx

theorem foldl_max_mem (l : List Nat) (a : Nat) : l.foldl max a = a ∨ l.foldl max a ∈ l := by
  induction l generalizing a with
  | nil => exact .inl rfl
  | cons y l ih =>
    rw [List.foldl_cons]
    rcases ih (max a y) with h | h
    · rw [h]
      by_cases hay : a ≤ y
      · rw [Nat.max_eq_right hay]
        exact .inr List.mem_cons_self
      · rw [Nat.max_eq_left (Nat.le_of_not_le hay)]
        exact .inl rfl
    · exact .inr (List.mem_cons_of_mem y h)

/-- The number of zeros `appendable` allows keeps the coefficient in range, and is the most
that does. -/
theorem appendable_spec (q limit : Nat) (hq : q < coeffBound) :
    appendable q limit ≤ limit ∧ q * 10 ^ appendable q limit < coeffBound ∧
      (appendable q limit < limit → coeffBound ≤ q * 10 ^ (appendable q limit + 1)) := by
  unfold appendable
  generalize hl : (List.range (limit + 1)).filter (fun k => q * 10 ^ k < coeffBound) = l
  have hmem : ∀ k, k ∈ l ↔ k ≤ limit ∧ q * 10 ^ k < coeffBound := fun k => by
    rw [← hl, List.mem_filter, List.mem_range, decide_eq_true_eq, Nat.lt_add_one_iff]
  refine ⟨?_, ?_, fun hlt => ?_⟩
  · rcases foldl_max_mem l 0 with h | h
    · rw [h]
      exact Nat.zero_le _
    · exact ((hmem _).1 h).1
  · rcases foldl_max_mem l 0 with h | h
    · rw [h]
      simpa using hq
    · exact ((hmem _).1 h).2
  · -- one more zero would have been counted
    refine Nat.le_of_not_lt fun hmore => ?_
    have hnext := le_foldl_max (a := 0) ((hmem _).2 ⟨hlt, hmore⟩)
    omega

theorem dropHalfAway_lt {c : Nat} (hc : c < coeffBound) (k : Nat) :
    dropHalfAway c k < coeffBound := by
  unfold dropHalfAway
  dsimp only
  rcases k with _ | k
  · simpa [Nat.mod_one] using hc
  · have hp : 10 ≤ 10 ^ (k + 1) := Nat.le_self_pow (Nat.succ_ne_zero k) 10
    have hdiv : c / 10 ^ (k + 1) ≤ c / 10 := Nat.div_le_div_left hp (by decide)
    have hbound : c / 10 + 1 < coeffBound := by
      unfold coeffBound at hc ⊢
      omega
    split <;> omega

/-- Rescaling to at most 28 places reaches them, unless the coefficient is too large to take
one more zero. -/
theorem rescale_scale (d : Decimal) (target : Nat) (ht : target ≤ maxScale) :
    (d.rescale target).scale = target ∨
      (d.rescale target).scale < target ∧ coeffBound ≤ (d.rescale target).coeff * 10 := by
  unfold rescale
  rw [Nat.min_eq_left ht]
  dsimp only
  split
  · left
    unfold signed?
    rw [dif_pos (by decide), dif_pos ht]
    rfl
  split
  · left
    unfold signed?
    rw [dif_pos (dropHalfAway_lt d.coeff_lt _), dif_pos ht]
    rfl
  · rename_i hlt
    obtain ⟨hle, hfit, hmost⟩ := appendable_spec d.coeff (target - d.scale) d.coeff_lt
    unfold signed?
    rw [dif_pos hfit, dif_pos (by omega)]
    by_cases hk : appendable d.coeff (target - d.scale) < target - d.scale
    · right
      have := hmost hk
      rw [Nat.pow_succ, ← Nat.mul_assoc] at this
      exact ⟨show d.scale + _ < target by omega, this⟩
    · left
      show d.scale + appendable d.coeff (target - d.scale) = target
      omega

theorem ofInt?_nonneg {i : Int} {d : Decimal} (hi : 0 ≤ i) (h : ofInt? i = some d) :
    zero ≤ d := by
  unfold ofInt? at h
  rw [decide_eq_false (Int.not_lt.2 hi)] at h
  exact make?_nonneg h

theorem ofNat?_nonneg {n : Nat} {d : Decimal} (h : ofNat? n = some d) : d.negative = false :=
  (make?_eq_some h).1

end Decimal

namespace Money

variable {rate p : Decimal} {ms : Int}

theorem check_eq_ok {amount : Decimal} {what : String} (h : check amount what = .ok p) :
    p = amount ∧ amount.normalize.scale ≤ places ∧
      amount.coeff < 10 ^ (integerDigits + amount.scale) := by
  unfold check at h
  split_ifs at h with hs hc
  cases h
  exact ⟨rfl, Nat.le_of_not_lt hs, Nat.lt_of_not_le hc⟩

theorem roundedPrice?_eq_some (h : roundedPrice? rate ms = some p) :
    ∃ duration hour product hours, Decimal.ofInt? ms = some duration ∧
      Decimal.ofNat? msPerHour = some hour ∧ rate.mul? duration = some product ∧
      product.div? hour = some hours ∧ p = (hours.roundHalfAway places).rescale places := by
  simp only [roundedPrice?, bind, Option.bind_eq_some_iff, Option.some.injEq] at h
  obtain ⟨duration, hd, hour, hh, product, hp, hours, hq, rfl⟩ := h
  exact ⟨duration, hour, product, hours, hd, hh, hp, hq, rfl⟩

/-- A price is written with two places and stays below `10^10` in magnitude. -/
theorem totalPrice_eq_ok (h : totalPrice rate ms = .ok p) :
    p.scale = places ∧ p.coeff < 10 ^ (integerDigits + places) := by
  unfold totalPrice at h
  split at h
  · cases h
  rename_i total htotal
  obtain ⟨rfl, -, hbound⟩ := check_eq_ok h
  obtain ⟨-, -, -, hours, -, -, -, -, rfl⟩ := roundedPrice?_eq_some htotal
  rcases (hours.roundHalfAway places).rescale_scale places (by decide) with
    hs | ⟨hs, hbig⟩
  · rw [hs] at hbound
    exact ⟨hs, hbound⟩
  · -- fewer places would take a coefficient too large to be money
    exfalso
    have hp : (2 : Nat) = places := rfl
    have h10 : 10 ^ (integerDigits + ((hours.roundHalfAway places).rescale places).scale) ≤
        10 ^ 11 := Nat.pow_le_pow_right (by decide) (by unfold integerDigits; omega)
    have hb : (10 : Nat) ^ 11 * 10 < coeffBound := by decide
    omega

/-- At a rate of at least zero, a price is at least zero. -/
theorem totalPrice_nonneg (hr : Decimal.zero ≤ rate) (hms : 0 ≤ ms)
    (h : totalPrice rate ms = .ok p) : Decimal.zero ≤ p := by
  unfold totalPrice at h
  split at h
  · cases h
  rename_i total htotal
  obtain ⟨rfl, -, -⟩ := check_eq_ok h
  obtain ⟨duration, hour, product, hours, hd, hh, hprod, hq, rfl⟩ :=
    roundedPrice?_eq_some htotal
  have hprod' : Decimal.zero ≤ product :=
    Decimal.mul?_nonneg hr (Decimal.ofInt?_nonneg hms hd) hprod
  have hq' : Decimal.zero ≤ hours := Decimal.div?_nonneg hprod' (Decimal.ofNat?_nonneg hh) hq
  exact Decimal.rescale_nonneg (Decimal.roundHalfAway_nonneg hq' places) places

end Money

end StudioRental
