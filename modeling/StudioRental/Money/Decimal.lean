import StudioRental.Number.Power

/-!
Fixed-point decimal numbers: a sign, a 96-bit unsigned coefficient and a scale of at most 28
places, so the value is `±coeff / 10^scale`.

The scale is part of a value's identity for printing (`1.50` and `1.5` print differently) but
not for comparison: `BEq`, `<` and `≤` compare the numbers. A zero built from parts drops its
sign; only rounding a negative number away to nothing at a given scale keeps the sign, and such a
zero prints with its minus sign.
-/

namespace StudioRental

open scoped CorePow

/-- Coefficients are 96-bit unsigned integers: every coefficient is below this bound. -/
def coeffBound : Nat := 2 ^ (96 : Nat)

/-- The most decimal places a value may carry. -/
def maxScale : Nat := 28

/-- A decimal number `±coeff / 10^scale`, with `coeff < 2^96` and `scale ≤ 28`. -/
structure Decimal where
  negative : Bool
  coeff : Nat
  scale : Nat
  coeff_lt : coeff < coeffBound
  scale_le : scale ≤ maxScale
  deriving DecidableEq

namespace Decimal

/-- Build a decimal from parts in range; a zero coefficient drops the sign. -/
def build (negative : Bool) (coeff scale : Nat) (h : coeff < coeffBound)
    (hs : scale ≤ maxScale) : Decimal :=
  ⟨negative && coeff != 0, coeff, scale, h, hs⟩

/-- Build a decimal when the parts are in range. -/
def make? (negative : Bool) (coeff scale : Nat) : Option Decimal :=
  if h : coeff < coeffBound then
    if hs : scale ≤ maxScale then some (build negative coeff scale h hs) else none
  else none

/-- Build a decimal when the parts are in range, keeping the sign even on a zero coefficient. -/
def signed? (negative : Bool) (coeff scale : Nat) : Option Decimal :=
  if h : coeff < coeffBound then
    if hs : scale ≤ maxScale then some ⟨negative, coeff, scale, h, hs⟩ else none
  else none

/-- The number zero written with `scale` places (at most 28). -/
def zeroWith (scale : Nat) : Decimal :=
  ⟨false, 0, min scale maxScale, by decide, Nat.min_le_right _ _⟩

/-- Zero with no places. -/
def zero : Decimal := zeroWith 0

instance : Inhabited Decimal := ⟨zero⟩

/-- A natural number below `2^96`, with no places. -/
def ofNat? (n : Nat) : Option Decimal := make? false n 0

/-- An integer whose magnitude is below `2^96`, with no places. -/
def ofInt? (i : Int) : Option Decimal := make? (decide (i < 0)) i.natAbs 0

/-- The signed numerator: the value is `num / 10^scale`. -/
def num (d : Decimal) : Int :=
  if d.negative then -(d.coeff : Int) else d.coeff

/-- Whether the value is zero. -/
def isZero (d : Decimal) : Bool := d.coeff == 0

/-- Compare two values as numbers, ignoring scale. -/
def cmp (a b : Decimal) : Ordering :=
  compare (a.num * ((10 ^ b.scale : Nat) : Int)) (b.num * ((10 ^ a.scale : Nat) : Int))

instance : BEq Decimal := ⟨fun a b => a.cmp b == .eq⟩

instance : LT Decimal := ⟨fun a b => a.cmp b = .lt⟩

instance : LE Decimal := ⟨fun a b => a.cmp b ≠ .gt⟩

instance (a b : Decimal) : Decidable (a < b) := inferInstanceAs (Decidable (a.cmp b = .lt))

instance (a b : Decimal) : Decidable (a ≤ b) := inferInstanceAs (Decidable (a.cmp b ≠ .gt))

/-- The same number without its sign, at the same scale. -/
def abs (d : Decimal) : Decimal :=
  ⟨false, d.coeff, d.scale, d.coeff_lt, d.scale_le⟩

/-- How many of the last `k` decimal digits of `n` are zeros, counted from the right. -/
def trailingZeros (n : Nat) : Nat → Nat
  | 0 => 0
  | k + 1 => if n != 0 && n % 10 == 0 then trailingZeros (n / 10) k + 1 else 0

/-- The same number with no trailing zeros after the point. -/
def normalize (d : Decimal) : Decimal :=
  if d.coeff = 0 then zero else
  let z := trailingZeros d.coeff d.scale
  build d.negative (d.coeff / 10 ^ z) (d.scale - z)
    (Nat.lt_of_le_of_lt (Nat.div_le_self _ _) d.coeff_lt) (Nat.le_trans (Nat.sub_le _ _) d.scale_le)

/-- The digits of `n` in base ten, most significant first. -/
def digitsOf (n : Nat) : List Char :=
  Nat.toDigits 10 n

/-- The coefficient's digits with a point `scale` places from the right, zero-padded so that
one digit stands before the point, and a minus sign for negative numbers. -/
def render (d : Decimal) : String :=
  let ds := digitsOf d.coeff
  let padded := List.replicate (d.scale + 1 - ds.length) '0' ++ ds
  let body :=
    if d.scale = 0 then padded
    else padded.take (padded.length - d.scale) ++ '.' :: padded.drop (padded.length - d.scale)
  String.ofList (if d.negative then '-' :: body else body)

instance : ToString Decimal := ⟨render⟩

end Decimal

end StudioRental
