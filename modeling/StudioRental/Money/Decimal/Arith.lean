import StudioRental.Money.Decimal
import StudioRental.Number.Power

/-!
Multiplication, division and rounding of decimals.

Products and quotients are exact when they fit. When the exact result needs more than 96 bits
of coefficient or more than 28 places, places are given up from the right and the last kept
digit is rounded half to even; a result that does not fit even with no places overflows
(`none`).

Division produces digits the way long division does: it first divides the coefficients, then,
while a remainder is left, appends as many digits at a time as the current quotient allows
(at most nine, never past 28 places), and rounds the last digit half to even on the final
remainder. Trailing zeros produced this way are removed again.
-/

namespace StudioRental

open scoped CorePow

namespace Decimal

/-- `n / 10^k` rounded half to even. -/
def divPow10Even (n k : Nat) : Nat :=
  let p := 10 ^ k
  let q := n / p
  let r := n % p
  if 2 * r > p || (2 * r == p && q % 2 == 1) then q + 1 else q

/-- Drop places from `coeff / 10^scale` until the coefficient fits and at most 28 places are
left, starting with `drop` places; `fuel` bounds the number of tries. -/
def fitEven (negative : Bool) (coeff scale drop : Nat) : Nat → Option Decimal
  | 0 => none
  | fuel + 1 =>
    if drop > scale then none
    else
      let c := divPow10Even coeff drop
      if c < coeffBound then make? negative c (scale - drop)
      else fitEven negative coeff scale (drop + 1) fuel

/-- The exact product, with places given up (rounding half to even) when it does not fit. -/
def mul? (a b : Decimal) : Option Decimal :=
  if a.coeff = 0 || b.coeff = 0 then some zero
  else
    let negative := a.negative != b.negative
    let p := a.coeff * b.coeff
    let s := a.scale + b.scale
    if a.coeff < 2 ^ (32 : Nat) && b.coeff < 2 ^ (32 : Nat) && s > maxScale then
      -- a product of two small coefficients is zero once more than 19 extra places are due
      if s > maxScale + 19 then some zero
      else make? negative (divPow10Even p (s - maxScale)) maxScale
    else fitEven negative p s (s - maxScale) (s + 2)

/-- The largest number of digits, at most `limit`, that can be appended to `q` without the
coefficient reaching `2^96`. -/
def appendable (q limit : Nat) : Nat :=
  ((List.range (limit + 1)).filter (fun k => q * 10 ^ k < coeffBound)).foldl max 0

/-- How many digits the next step of long division may append to `q` at `scale`:
`none` when the scale is negative and cannot be brought to zero. -/
def stepDigits (q : Nat) (scale : Int) : Option Nat :=
  let limit : Nat := if scale > 19 then (28 - scale).toNat else 9
  let x := appendable q limit
  if (x : Int) + scale < 0 then none else some x

/-- Give up one place of an overflowed quotient `q` (between `2^96` and `2^96 + 10^9`),
rounding half to even; `sticky` records that a remainder was dropped before. -/
def dropOverflow (q : Nat) (scale : Int) (sticky : Bool) : Option (Nat × Int) :=
  if scale - 1 < 0 then none
  else
    let r := q % 10
    let q' := q / 10
    let up := r > 5 || (r == 5 && (sticky || q' % 2 == 1))
    some (if up then q' + 1 else q', scale - 1)

/-- Long division state: quotient `q` at `scale` with remainder `r` over divisor `d`.
The result is the final quotient and scale, or `none` on overflow. -/
def longDivide (d : Nat) : Nat → Nat → Nat → Int → Option (Nat × Int)
  | 0, _, _, _ => none
  | fuel + 1, q, r, scale =>
    if r = 0 then
      if scale ≥ 0 then some (q, scale)
      else
        let ps := min 9 (-scale).toNat
        let q' := q * 10 ^ ps
        if q' ≥ coeffBound then none else longDivide d fuel q' 0 (scale + ps)
    else
      let roundLast : Option (Nat × Int) :=
        if 2 * r > d || (2 * r == d && q % 2 == 1) then
          if q + 1 < coeffBound then some (q + 1, scale) else dropOverflow (q + 1) scale true
        else some (q, scale)
      if scale = (maxScale : Int) then roundLast
      else
        match stepDigits q scale with
        | none => none
        | some 0 => roundLast
        | some x =>
          let rr := r * 10 ^ x
          let q' := q * 10 ^ x + rr / d
          let r' := rr % d
          if q' ≥ coeffBound then dropOverflow q' (scale + x) (r' != 0)
          else longDivide d fuel q' r' (scale + x)

/-- The quotient `a / b`, or `none` when `b` is zero or the quotient does not fit. -/
def div? (a b : Decimal) : Option Decimal :=
  if b.coeff = 0 then none
  else if a.coeff = 0 then some zero
  else
    let negative := a.negative != b.negative
    let q := a.coeff / b.coeff
    let r := a.coeff % b.coeff
    match longDivide b.coeff 80 q r ((a.scale : Int) - b.scale) with
    | none => none
    | some (c, s) =>
      match make? negative c s.toNat with
      | none => none
      | some v => some (if r = 0 then v else v.normalize)

/-- The coefficient `coeff / 10^drop` rounded half away from zero: up exactly when the first
dropped digit is five or more. -/
def dropHalfAway (coeff drop : Nat) : Nat :=
  let p := 10 ^ drop
  if 2 * (coeff % p) ≥ p then coeff / p + 1 else coeff / p

/-- Round to `dp` places, a half going away from zero; a value with at most `dp` places is
returned as it is. A zero keeps its sign; a number rounded away to zero loses it. -/
def roundHalfAway (d : Decimal) (dp : Nat) : Decimal :=
  if d.scale ≤ dp then d
  else if d.coeff = 0 then (signed? d.negative 0 dp).getD d
  else (make? d.negative (dropHalfAway d.coeff (d.scale - dp)) dp).getD d

/-- Write the value with `target` places, keeping its sign: fewer places round half away from
zero, more places append zeros as long as the coefficient stays below `2^96`. -/
def rescale (d : Decimal) (target : Nat) : Decimal :=
  let target := min target maxScale
  if d.coeff = 0 then (signed? d.negative 0 target).getD d
  else if target ≤ d.scale then (signed? d.negative (dropHalfAway d.coeff (d.scale - target)) target).getD d
  else
    let k := appendable d.coeff (target - d.scale)
    (signed? d.negative (d.coeff * 10 ^ k) (d.scale + k)).getD d

end Decimal

end StudioRental
