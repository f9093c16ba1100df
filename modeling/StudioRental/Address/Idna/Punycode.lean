/-!
Decoding Punycode (RFC 3492), the encoding of the labels written `xn--...`.

The basic code points stand before the last `-`; the text after it (or, when that `-` is the
first character, the whole text) is a sequence of variable-length integers in base 36, digits
`a`-`z` for 0 to 25 and `0`-`9` for 26 to 35, least significant first. Each integer moves a
cursor through the positions of the output, and every pass over all positions raises the code
point to insert, starting from U+0080; the thresholds that end a digit sequence follow a bias
adapted after each insertion. Decoding fails on a character that is not a digit, on a text
ending inside an integer, on a value past 32 bits, and on a code point that is not a character.
-/

namespace StudioRental

namespace Punycode

/-- The value of a digit. -/
def digitValue (c : Char) : Option Nat :=
  if 'a' ≤ c && c ≤ 'z' then some (c.toNat - 97)
  else if 'A' ≤ c && c ≤ 'Z' then some (c.toNat - 65)
  else if '0' ≤ c && c ≤ '9' then some (c.toNat - 22)
  else none

/-- The threshold of the digit at weight position `k`: below it a digit ends the integer. -/
def threshold (k bias : Nat) : Nat :=
  if k ≤ bias then 1 else if bias + 26 ≤ k then 26 else k - bias

/-- Divide `delta` by 35 until it is at most 455, counting 36 for each division in `k`. -/
def adaptLoop (delta k : Nat) : Nat × Nat :=
  if 455 < delta then adaptLoop (delta / 35) (k + 36) else (delta, k)
termination_by delta
decreasing_by omega

/-- The bias after an insertion: `delta` the cursor's move, `points` the output's length with
the new code point, `first` whether this is the first insertion. -/
def adapt (delta points : Nat) (first : Bool) : Nat :=
  let d := if first then delta / 700 else delta / 2
  let (d, k) := adaptLoop (d + d / points) 0
  k + 36 * d / (d + 38)

/-- Read one integer, adding it to the cursor `i`: `k` the weight position, `w` the weight of
the next digit. The new cursor and the text after the integer. -/
def readInteger (bias : Nat) : List Char → Nat → Nat → Nat → Option (Nat × List Char)
  | [], _, _, _ => none
  | c :: rest, k, w, i =>
    match digitValue c with
    | none => none
    | some d =>
      let i := i + d * w
      if 2 ^ 32 ≤ i then none
      else
        let t := threshold k bias
        if d < t then some (i, rest)
        else
          let w := w * (36 - t)
          if 2 ^ 32 ≤ w then none else readInteger bias rest (k + 36) w i

/-- Insert the code points the integers of `input` give into `out`; `n` the code point, `i` the
cursor, `bias` the bias so far. Each integer takes at least one character, so fuel of the
length of the input is enough. -/
def insertAll : Nat → Nat → Nat → Nat → List Char → List Char → Option (List Char)
  | _, _, _, _, out, [] => some out
  | 0, _, _, _, _, _ :: _ => none
  | fuel + 1, bias, n, i, out, input@(_ :: _) =>
    match readInteger bias input 36 1 i with
    | none => none
    | some (next, rest) =>
      let points := out.length + 1
      let bias := adapt (next - i) points (i == 0)
      let n := n + next / points
      if 2 ^ 32 ≤ n || !n.isValidChar then none
      else
        let pos := next % points
        insertAll fuel bias n (pos + 1) (out.insertIdx pos (Char.ofNat n)) rest

/-- Decode the text of a label after its `xn--`. -/
def decode (input : List Char) : Option (List Char) :=
  let (basic, encoded) := match (input.reverse.span (· != '-')) with
    | (_, []) => ([], input)
    | (after, _ :: before) =>
      if before.isEmpty then ([], input) else (before.reverse, after.reverse)
  if basic.any (128 ≤ ·.toNat) then none
  else insertAll encoded.length 72 128 0 basic encoded

end Punycode

end StudioRental
