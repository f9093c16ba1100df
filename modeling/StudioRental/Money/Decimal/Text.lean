import StudioRental.Money.Decimal.Arith
import StudioRental.Number.Power

/-!
Reading decimals from text.

The grammar: an optional `+` or `-`, then digits with at most one point; an underscore may stand
anywhere after the first digit and is ignored; at least one digit is required. An exponent
`e`/`E` followed by an optionally signed count of places may follow.

Text of 18 bytes or more is read with care for size. Digits are gathered while the coefficient
is small; once it reaches the narrow limit (just under `2^64 / 10`) they are gathered as a wide
coefficient. Digits that do not fit are rounded rather than refused, but only after the point:

* an integer part of `2^96` or more is an error;
* the digit after the 28th place, or the one that would push the coefficient to `2^96`, is the
  rounding digit: five and up round away from zero, and when that carries to `2^96` one more
  place is given up. An underscore in that position counts as a zero, except that a wide
  coefficient looks past underscores for the digit; what follows the rounding digit must be
  digits and underscores.
-/

namespace StudioRental

open scoped CorePow

namespace Decimal

/-- The value of a decimal digit character. -/
def digitValue? (c : Char) : Option Nat :=
  if c.isDigit then some (c.toNat - '0'.toNat) else none

/-- Once a coefficient read from long text reaches this bound its digits are gathered as a wide
coefficient: `(2^64 - 1) / 10 - 255`. -/
def narrowLimit : Nat := 1844674407370954906

/-- Finish a coefficient at the rounding character `c`, with `rest` after it: five and up add
one, and when that carries to `2^96` the coefficient drops one place instead. -/
def roundWith (negative : Bool) (coeff scale : Nat) (c : Char) (rest : List Char) : Option Decimal :=
  let digit? : Option Nat :=
    match digitValue? c with
    | some d => some d
    | none => if c = '_' then some 0 else none
  match digit? with
  | none => none
  | some d =>
    if !rest.all (fun r => r.isDigit || r = '_') then none
    else if d < 5 then make? negative coeff scale
    else if coeff + 1 < coeffBound then make? negative (coeff + 1) scale
    else if scale = 0 then none
    else make? negative ((coeff + 1 + 4) / 10) (scale - 1)

/-- Read the character `c`, then `rest`, into a wide coefficient; `point` says whether the point
was seen. -/
def readWide (negative : Bool) : Bool → Nat → Nat → Char → List Char → Option Decimal
  | point, coeff, scale, c, rest =>
    match digitValue? c with
    | some d =>
      let next := coeff * 10 + d
      if next ≥ coeffBound then
        if point then roundWith negative coeff scale c rest else none
      else
        let scale' := if point then scale + 1 else scale
        match rest with
        | [] => make? negative next scale'
        | n :: more =>
          if point && scale' ≥ maxScale then
            if n = '_' then
              match more.dropWhile (· = '_') with
              | [] => make? negative next scale'
              | m :: after => roundWith negative next scale' m after
            else roundWith negative next scale' n more
          else readWide negative point next scale' n more
    | none =>
      if (c = '.' && !point) || c = '_' then
        match rest with
        | [] => make? negative coeff scale
        | n :: more => readWide negative (point || c = '.') coeff scale n more
      else none

/-- Read the characters after the sign. `coeff` and `scale` are what was read so far, `point`
whether the point was seen and `seen` whether a digit was; `long` says whether the text has 18
bytes or more. -/
def readDigits (negative long : Bool) : Bool → Bool → Nat → Nat → List Char → Option Decimal
  | _, seen, coeff, scale, [] => if seen then make? negative coeff scale else none
  | point, seen, coeff, scale, c :: rest =>
    match digitValue? c with
    | some d =>
      let next := coeff * 10 + d
      let scale' := if point then scale + 1 else 0
      match rest with
      | [] => make? negative next scale'
      | n :: more =>
        if point && long && scale' ≥ maxScale then roundWith negative next scale' n more
        else if long && next ≥ narrowLimit then readWide negative point next scale' n more
        else readDigits negative long point true next scale' rest
    | none =>
      if c = '.' && !point then readDigits negative long true seen coeff scale rest
      else if c = '_' && seen then readDigits negative long point seen coeff scale rest
      else none

/-- Read a decimal with no exponent. -/
def parsePlain? (s : String) : Option Decimal :=
  let long := s.utf8ByteSize ≥ 18
  match s.toList with
  | [] => none
  | '-' :: cs => readDigits true long false false 0 0 cs
  | '+' :: cs => readDigits false long false false 0 0 cs
  | cs => readDigits false long false false 0 0 cs

/-- Read an unsigned count written in decimal digits, with an optional leading `+`, as a
32-bit machine count: empty text and values of `2^32` or more are refused. -/
def parseCount? (s : String) : Option Nat :=
  let cs := match s.toList with
    | '+' :: rest => rest
    | cs => cs
  if cs.isEmpty || !cs.all Char.isDigit then none
  else
    let n := cs.foldl (fun acc c => acc * 10 + (c.toNat - '0'.toNat)) 0
    if n < 2 ^ (32 : Nat) then some n else none

/-- Move the point of `d` by `exp` places to the right: a shift within the written places
lowers the scale, a larger one multiplies the coefficient and drops trailing zeros. -/
def shiftRight? (d : Decimal) (exp : Nat) : Option Decimal :=
  if exp ≤ d.scale then make? d.negative d.coeff (d.scale - exp)
  else if exp > maxScale then none
  else if d.coeff = 0 then some zero
  else
    match make? d.negative (d.coeff * 10 ^ (exp - d.scale)) 0 with
    | some r => some r.normalize
    | none => none

/-- Move the point of `d` by `exp` places to the left. More than 28 places is an error; beyond
28 places in all, the value is rounded half away from zero to 28 places and keeps its sign even
when nothing is left of it. -/
def shiftLeft? (d : Decimal) (exp : Nat) : Option Decimal :=
  if exp > maxScale then none
  else if d.scale + exp ≤ maxScale then signed? d.negative d.coeff (d.scale + exp)
  else if d.coeff = 0 then signed? d.negative 0 maxScale
  else signed? d.negative (dropHalfAway d.coeff (d.scale + exp - maxScale)) maxScale

/-- Read a decimal, with an optional exponent after the first `e` or `E`. -/
def parse? (s : String) : Option Decimal :=
  match s.toList.span (fun c => c != 'e' && c != 'E') with
  | (_, []) => parsePlain? s
  | (base, _ :: expText) =>
    match parsePlain? (String.ofList base) with
    | none => none
    | some d =>
      match expText with
      | '-' :: digits =>
        match parseCount? (String.ofList digits) with
        | some e => shiftLeft? d e
        | none => none
      | _ =>
        match parseCount? (String.ofList expText) with
        | some e => shiftRight? d e
        | none => none

end Decimal

end StudioRental
