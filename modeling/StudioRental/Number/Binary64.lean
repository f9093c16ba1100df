import StudioRental.Number.Power

/-!
Double-precision binary floating point numbers (binary64), as exact values.

A finite double is a sign, a significand below `2^53` and an exponent of two from -1074 to 971;
it stands for `±significand · 2^exponent`. A normal value has a significand of at least `2^52`;
below that only the least exponent is used (the subnormal values and zero).

`round` takes an exact non-negative fraction to the nearest double, a tie going to the even
significand. A value that rounds past the largest double has none (`none`): it would be
infinite. A product or quotient of doubles is its exact value rounded once, as IEEE 754
prescribes.

Printing looks for the shortest decimal `digits · 10^exp` that reads back as the same double,
and among those the nearest one. `displayText` writes it positionally, with no exponent;
`jsonText` writes integers of up to sixteen digits with `.0`, short fractions positionally, and
everything else with an exponent after `e`.
-/

namespace StudioRental

open scoped CorePow

/-- A finite double: `(-1)^negative · significand · 2^exponent`. -/
structure Binary64 where
  negative : Bool
  significand : Nat
  exponent : Int
  deriving DecidableEq, Repr, Inhabited

namespace Binary64

/-- The least exponent of two. -/
def minExponent : Int := -1074

/-- The greatest exponent of two. -/
def maxExponent : Int := 971

/-- Whether the value is zero (of either sign). -/
def isZero (x : Binary64) : Bool := x.significand == 0

/-- The same value with the other sign. -/
def negate (x : Binary64) : Binary64 := { x with negative := !x.negative }

/-- The magnitude as a fraction: numerator and a power-of-two denominator. -/
def magnitude (x : Binary64) : Nat × Nat :=
  if x.exponent ≥ 0 then (x.significand * 2 ^ x.exponent.toNat, 1)
  else (x.significand, 2 ^ (-x.exponent).toNat)

/-- `num / (den · 2^e)` as quotient, remainder and divisor, for an exponent of either sign. -/
def scaled (num den : Nat) (e : Int) : Nat × Nat × Nat :=
  if e ≥ 0 then
    let d := den * 2 ^ e.toNat
    (num / d, num % d, d)
  else
    let n := num * 2 ^ (-e).toNat
    (n / den, n % den, den)

/-- A quotient rounded to nearest, ties to even, from its remainder and divisor. -/
def roundHalfEven (q r d : Nat) : Nat :=
  if 2 * r > d || (2 * r = d && q % 2 = 1) then q + 1 else q

/-- The exponent of two that leaves `num / den` a significand of 53 bits, or the least
exponent for smaller values. Since `num / den` lies in `[2^(a-b-1), 2^(a-b+1))` for the bit
lengths `a` and `b`, the first guess is right or one too high. -/
def exponentFor (num den : Nat) : Int :=
  let e0 : Int := (Nat.log2 num : Int) - Nat.log2 den - 52
  let e := if (scaled num den e0).1 < 2 ^ (52 : Nat) then e0 - 1 else e0
  max e minExponent

/-- The double nearest to `num / den` with the given sign (`den` positive); `none` past the
largest double. -/
def round (negative : Bool) (num den : Nat) : Option Binary64 :=
  if num = 0 then some ⟨negative, 0, minExponent⟩
  else
    let e := exponentFor num den
    let (q, r, d) := scaled num den e
    let m := roundHalfEven q r d
    let (m, e) := if m = 2 ^ (53 : Nat) then (2 ^ (52 : Nat), e + 1) else (m, e)
    if e > maxExponent then none else some ⟨negative, m, e⟩

/-- The double nearest to a natural number. -/
def ofNat (n : Nat) : Option Binary64 := round false n 1

/-- The rounded product. -/
def mul (a b : Binary64) : Option Binary64 :=
  let (an, ad) := a.magnitude
  let (bn, bd) := b.magnitude
  round (a.negative != b.negative) (an * bn) (ad * bd)

/-- The rounded quotient by a non-zero double. -/
def div (a b : Binary64) : Option Binary64 :=
  let (an, ad) := a.magnitude
  let (bn, bd) := b.magnitude
  if bn = 0 then none else round (a.negative != b.negative) (an * bd) (ad * bn)

/-- The double nearest to `10^k`. -/
def pow10 (k : Nat) : Binary64 := (round false (10 ^ k) 1).getD ⟨false, 0, minExponent⟩

/-- The double a JSON number reads as when it is given by a significand (the digits that fit in
64 bits) and a decimal exponent: the significand is rounded to a double and then multiplied or
divided by the double nearest to the power of ten. An exponent beyond ±308 first divides by
`10^308`, and stops at zero once the value is zero. `none` when the value is out of range. -/
def ofDecimalParts (significand : Nat) (exponent : Int) : Option Binary64 :=
  (ofNat significand).bind fun f => scale (exponent.natAbs / 308 + 2) f exponent
where
  /-- Apply the decimal exponent to a double; each step past the table brings the exponent
  308 closer to it, so the fuel given is enough. -/
  scale : Nat → Binary64 → Int → Option Binary64
    | 0, _, _ => none
    | fuel + 1, f, exponent =>
      if exponent.natAbs ≤ 308 then
        if exponent ≥ 0 then mul f (pow10 exponent.natAbs) else div f (pow10 exponent.natAbs)
      else if f.isZero then some f
      else if exponent ≥ 0 then none
      else
        match div f (pow10 308) with
        | some g => scale fuel g (exponent + 308)
        | none => none

/-- The number of decimal digits of a natural number (one for zero). -/
def digitCount (n : Nat) : Nat := (Nat.toDigits 10 n).length

/-- The interval of values that read back as a positive double, scaled by `2^s` with
`s = exponent - 2`: the value is `4m`, the upper bound `4m + 2`, the lower bound `4m - 2`, or
`4m - 1` where the gap below is half as wide (at a power of two above the least exponent).
Bounds count when the significand is even. -/
structure Bounds where
  low : Nat
  value : Nat
  high : Nat
  shift : Int
  inclusive : Bool

/-- The rounding interval of a positive double. -/
def bounds (x : Binary64) : Bounds :=
  let m := x.significand
  let gapBelow := if m = 2 ^ (52 : Nat) && x.exponent > minExponent then 1 else 2
  ⟨4 * m - gapBelow, 4 * m, 4 * m + 2, x.exponent - 2, m % 2 == 0⟩

/-- The multiple `j · 10^k` of the interval nearest to the value, if the interval holds one.
Values compare as `X · P` against `j · Q` with `P = 2^s⁺ · 10^k⁻` and `Q = 10^k⁺ · 2^s⁻`. -/
def Bounds.pick (b : Bounds) (k : Int) : Option Nat :=
  let p := 2 ^ b.shift.toNat * 10 ^ (-k).toNat
  let q := 10 ^ k.toNat * 2 ^ (-b.shift).toNat
  let lo := b.low * p
  let hi := b.high * p
  let jLow := if b.inclusive then (lo + q - 1) / q else lo / q + 1
  let jHigh := if b.inclusive then hi / q else (hi + q - 1) / q - 1
  if jLow > jHigh then none
  else
    let v := b.value * p
    let j := roundHalfEven (v / q) (v % q) q
    some (max jLow (min jHigh j))

/-- Try exponents from `k` downwards. -/
def Bounds.search (b : Bounds) : Nat → Int → Option (Nat × Int)
  | 0, _ => none
  | fuel + 1, k =>
    match b.pick k with
    | some j => some (j, k)
    | none => b.search fuel (k - 1)

/-- The shortest decimal `(digits, exp)` that reads back as the positive double `x`, the
nearest one among those of that length. The search starts above the value's integer digits
and ends below the least double. -/
def shortest (x : Binary64) : Nat × Int :=
  let b := bounds x
  let (whole, _, _) := scaled b.high 1 (-b.shift)
  (b.search 1500 (digitCount whole)).getD (x.significand, x.exponent)

/-- Zeros. -/
def zeros (n : Nat) : String := String.ofList (List.replicate n '0')

/-- Plain positional notation: `25`, `12.5`, `0.001`, `1000000000000000000000`. -/
def displayText (x : Binary64) : String :=
  let sign := if x.negative then "-" else ""
  if x.isZero then sign ++ "0"
  else
    let (j, k) := shortest x
    let ds := (toString j).toList
    let body :=
      if k ≥ 0 then String.ofList ds ++ zeros k.toNat
      else
        let p : Int := ds.length + k
        if p > 0 then String.ofList (ds.take p.toNat) ++ "." ++ String.ofList (ds.drop p.toNat)
        else "0." ++ zeros (-p).toNat ++ String.ofList ds
    sign ++ body

/-- JSON notation: `1000.0`, `300.5`, `0.001`, `1e21`, `1.5e-7`. -/
def jsonText (x : Binary64) : String :=
  let sign := if x.negative then "-" else ""
  if x.isZero then sign ++ "0.0"
  else
    let (j, k) := shortest x
    let ds := (toString j).toList
    let n : Int := ds.length
    let kk := n + k
    let body :=
      if 0 ≤ k && kk ≤ 16 then String.ofList ds ++ zeros k.toNat ++ ".0"
      else if 0 < kk && kk ≤ 16 then
        String.ofList (ds.take kk.toNat) ++ "." ++ String.ofList (ds.drop kk.toNat)
      else if -5 < kk && kk ≤ 0 then "0." ++ zeros (-kk).toNat ++ String.ofList ds
      else if n = 1 then String.ofList ds ++ "e" ++ toString (kk - 1)
      else String.ofList (ds.take 1) ++ "." ++ String.ofList (ds.drop 1) ++ "e" ++ toString (kk - 1)
    sign ++ body

end Binary64

end StudioRental
